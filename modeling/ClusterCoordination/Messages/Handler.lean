import ClusterCoordination.Clock
import ClusterCoordination.Payload
import ClusterCoordination.Scope
/-!
# Message handlers

A handler takes the messages of one scope. What handlers did with messages is kept in a log.
-/

set_option autoImplicit false

namespace ClusterCoordination

structure LogEntry where
  label : String
  sender : MemberId
  message : Payload

inductive HandlingEnd where
  | done
  | failed
  | crashed
deriving DecidableEq

/-- What a handler does with a message: it waits, notes it, and ends. -/
structure Handling where
  delay : Duration
  entry : LogEntry
  ending : HandlingEnd

structure Handler where
  message : PayloadType
  handle : MemberId → message.Carrier → Handling

structure HandlerCall where
  handler : Handler
  sender : MemberId
  message : handler.message.Carrier

def HandlerCall.perform (call : HandlerCall) : Handling :=
  call.handler.handle call.sender call.message

inductive Handed (Taken : Type) where
  -- No handler is bound to its scope.
  | unbound
  -- The bound handler does not take such a payload.
  | undecodable (status : Status)
  | handled (taken : Taken)

def Handed.map {Taken Made : Type} (make : Taken → Made) : Handed Taken → Handed Made
  | .unbound => .unbound
  | .undecodable status => .undecodable status
  | .handled taken => .handled (make taken)

structure HandlerTable where
  entries : List (Scope × Handler)

namespace HandlerTable

def empty : HandlerTable := ⟨[]⟩

def find? (table : HandlerTable) (scope : Scope) : Option Handler :=
  (table.entries.find? fun entry => entry.1 = scope).map (·.2)

def isRegistered (table : HandlerTable) (scope : Scope) : Bool := (table.find? scope).isSome

def deregister (table : HandlerTable) (scope : Scope) : HandlerTable × Bool :=
  (⟨table.entries.filter fun entry => entry.1 ≠ scope⟩, table.isRegistered scope)

def register (table : HandlerTable) (scope : Scope) (handler : Handler) : HandlerTable × Bool :=
  let (others, replaced) := table.deregister scope
  (⟨(scope, handler) :: others.entries⟩, replaced)

def receive (table : HandlerTable) (sender : MemberId) (scope : Scope) (payload : Bytes) :
    Handed HandlerCall :=
  match table.find? scope with
  | none => .unbound
  | some handler =>
    match handler.message.decode payload with
    | .error status => .undecodable status
    | .ok message => .handled ⟨handler, sender, message⟩

def hand (table : HandlerTable) (sender : MemberId) (scope : Scope) (payload : Bytes) :
    Handed Handling :=
  (table.receive sender scope payload).map HandlerCall.perform

end HandlerTable

end ClusterCoordination
