import ClusterCoordination.Calls.Arguments
/-!
# Dispatching calls

Calls are made on a type and a method. A table maps types to the dispatchers that serve them. A
service is a set of typed methods, each of one argument, from which a dispatcher is made.
-/

set_option autoImplicit false

namespace ClusterCoordination

inductive Ending where
  | returned (outcome : Except Status Bytes)
  -- The work broke off without an outcome.
  | crashed

/-- What an invocation does when nothing stops it: it works for some time, and then ends. -/
structure Invocation where
  delay : Duration
  ending : Ending

def Invocation.immediate (outcome : Except Status Bytes) : Invocation := ⟨0, .returned outcome⟩

abbrev Dispatcher := (caller : MemberId) → (method : String) → Arguments → Invocation

structure DispatchTable where
  entries : List (String × Dispatcher)

namespace DispatchTable

def empty : DispatchTable := ⟨[]⟩

def find? (table : DispatchTable) (targetType : String) : Option Dispatcher :=
  (table.entries.find? fun entry => entry.1 = targetType).map (·.2)

def has (table : DispatchTable) (targetType : String) : Bool := (table.find? targetType).isSome

def remove (table : DispatchTable) (targetType : String) : DispatchTable × Bool :=
  (⟨table.entries.filter fun entry => entry.1 ≠ targetType⟩, table.has targetType)

def register (table : DispatchTable) (targetType : String) (dispatcher : Dispatcher) :
    DispatchTable × Bool :=
  let (others, replaced) := table.remove targetType
  (⟨(targetType, dispatcher) :: others.entries⟩, replaced)

def invoke (table : DispatchTable) (caller : MemberId) (targetType method : String)
    (arguments : Arguments) : Invocation :=
  match table.find? targetType with
  | none =>
    .immediate (.error (.unavailable ("No dispatcher is registered for type " ++ targetType)))
  | some dispatcher => dispatcher caller method arguments

end DispatchTable

structure Method where
  name : String
  message : PayloadType
  reply : PayloadType
  call : MemberId → message.Carrier → Except Status reply.Carrier

/-- A named set of typed methods. A method added later takes the place of one with the same name. -/
structure Service where
  name : String
  methods : List Method

structure MethodCall where
  method : Method
  message : method.message.Carrier

/-- How methods are called. Calling one may have any effects. -/
abbrev Calling (m : Type → Type) :=
  (method : Method) → MemberId → method.message.Carrier → m (Except Status method.reply.Carrier)

def Calling.direct : Calling Id := fun method caller message => pure (method.call caller message)

def MethodCall.run {m : Type → Type} [Monad m] (call : MethodCall) (calling : Calling m)
    (caller : MemberId) : m (Except Status Bytes) := do
  match ← calling call.method caller call.message with
  | .error status => return .error status
  | .ok reply => return call.method.reply.encode reply

namespace Service

def method? (service : Service) (name : String) : Option Method :=
  service.methods.reverse.find? fun method => method.name = name

def resolve (service : Service) (name : String) (arguments : Arguments) :
    Except Status MethodCall :=
  match service.method? name with
  | none =>
    .error (.unavailable ("Service " ++ service.name ++ " has no method " ++ name))
  | some method =>
    match arguments.expectArity 1 with
    | .error status => .error status
    | .ok () =>
      match arguments.get method.message 0 with
      | .error status => .error status
      | .ok message => .ok ⟨method, message⟩

def answer {m : Type → Type} [Monad m] (service : Service) (calling : Calling m) (caller : MemberId)
    (name : String) (arguments : Arguments) : m (Except Status Bytes) := do
  match service.resolve name arguments with
  | .error status => return .error status
  | .ok call => call.run calling caller

def dispatcher (service : Service) : Dispatcher := fun caller name arguments =>
  .immediate (Id.run (service.answer .direct caller name arguments))

end Service

def DispatchTable.addService (table : DispatchTable) (service : Service) : DispatchTable × Bool :=
  table.register service.name service.dispatcher

end ClusterCoordination
