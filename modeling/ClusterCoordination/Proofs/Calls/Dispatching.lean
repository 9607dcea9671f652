import Mathlib.Data.List.Induction
import ClusterCoordination.Proofs.Bindings
import ClusterCoordination.Samples.Services
/-!
# Dispatching by type and method

A table that dispatchers are registered in and removed from passes every call on to the dispatcher
that was registered last for its type. A service calls one of its methods, once, if the arguments
are what the method takes, and none otherwise. What a call does to the service is not known, so it
is made in an arbitrary monad.
-/

set_option autoImplicit false

namespace ClusterCoordination

namespace Arguments

variable {arguments : Arguments} {type : PayloadType} {status : Status}

theorem single_iff {value : type.Carrier} :
    arguments.expectArity 1 = .ok () ∧ arguments.get type 0 = .ok value ↔
      ∃ payload, arguments.tags = [type.tag] ∧ arguments.payloads = [payload] ∧
        type.decode payload = .ok value := by
  obtain ⟨tags, payloads, aligned⟩ := arguments
  match tags, payloads, aligned with
  | [], [], _ => simp [expectArity, length]
  | [tag], [payload], _ =>
    by_cases tagged : tag = type.tag <;> simp [expectArity, length, get, tagged]
  | _ :: _ :: _, _, _ => simp [expectArity, length]

theorem code_of_expectArity {count : Nat} (failed : arguments.expectArity count = .error status) :
    status.code = .invalidPayload := by
  unfold expectArity at failed
  split at failed
  · cases failed
  · cases failed
    rfl

theorem code_of_get {index : Nat} (failed : arguments.get type index = .error status) :
    status.code = .invalidPayload := by
  unfold get PayloadType.decode at failed
  repeat' split at failed
  all_goals
    cases failed
    try rfl

end Arguments

namespace Service

/-- The method was added last under the name, and the message is the only argument. -/
structure Takes (service : Service) (name : String) (arguments : Arguments) (method : Method)
    (message : method.message.Carrier) : Prop where
  named : method.name = name
  added : ∃ earlier later, service.methods = earlier ++ method :: later ∧
    ∀ other ∈ later, other.name ≠ name
  given : ∃ payload, arguments.tags = [method.message.tag] ∧ arguments.payloads = [payload] ∧
    method.message.decode payload = .ok message

variable {service : Service} {name : String} {arguments : Arguments}

theorem method?_eq_some_iff {method : Method} :
    service.method? name = some method ↔ method.name = name ∧
      ∃ earlier later, service.methods = earlier ++ method :: later ∧
        ∀ other ∈ later, other.name ≠ name := by
  simp only [method?, List.find?_eq_some_iff_append, decide_eq_true_eq, Bool.not_eq_true',
    decide_eq_false_iff_not, List.reverse_eq_append_iff]
  refine and_congr_right fun _ => ?_
  -- The search begins with the method that was added last.
  constructor
  · rintro ⟨later, earlier, split, others⟩
    refine ⟨earlier.reverse, later.reverse, by simpa using split, ?_⟩
    exact fun other among => others other (List.mem_reverse.mp among)
  · rintro ⟨earlier, later, split, others⟩
    refine ⟨later.reverse, earlier.reverse, by simpa using split, ?_⟩
    exact fun other among => others other (List.mem_reverse.mp among)

theorem resolve_eq_ok_iff {method : Method} {message : method.message.Carrier} :
    service.resolve name arguments = .ok ⟨method, message⟩ ↔
      service.Takes name arguments method message := by
  constructor
  · intro resolved
    unfold resolve at resolved
    split at resolved
    next => cases resolved
    next other found =>
      split at resolved
      next => cases resolved
      next arity =>
        split at resolved
        next => cases resolved
        next value read =>
          cases resolved
          obtain ⟨named, added⟩ := method?_eq_some_iff.mp found
          exact ⟨named, added, Arguments.single_iff.mp ⟨arity, read⟩⟩
  · intro taken
    obtain ⟨arity, read⟩ := Arguments.single_iff.mpr taken.given
    simp only [resolve, method?_eq_some_iff.mpr ⟨taken.named, taken.added⟩, arity, read]

theorem resolve_eq_error {status : Status}
    (refused : service.resolve name arguments = .error status) :
    if ∃ method ∈ service.methods, method.name = name then status.code = .invalidPayload
    else status = .unavailable ("Service " ++ service.name ++ " has no method " ++ name) := by
  have known : (∃ method ∈ service.methods, method.name = name) ↔
      (service.method? name).isSome = true := by
    simp [method?]
  unfold resolve at refused
  split at refused
  next unknown =>
    cases refused
    simp [known, unknown]
  next method found =>
    rw [if_pos (known.mpr (by rw [found]; rfl))]
    repeat' split at refused
    all_goals cases refused
    next failed => exact Arguments.code_of_expectArity failed
    next failed => exact Arguments.code_of_get failed

theorem answer_of_takes {m : Type → Type} [Monad m] {method : Method}
    {message : method.message.Carrier} (taken : service.Takes name arguments method message)
    (calling : Calling m) (caller : MemberId) :
    service.answer calling caller name arguments = do
      let outcome ← calling method caller message
      return outcome >>= method.reply.encode := by
  simp only [answer, resolve_eq_ok_iff.mpr taken, MethodCall.run]
  congr 1
  funext outcome
  cases outcome <;> rfl

theorem answer_of_refused {m : Type → Type} [Monad m]
    (refused : ∀ method message, ¬ service.Takes name arguments method message)
    (calling : Calling m) (caller : MemberId) :
    ∃ status, service.answer calling caller name arguments = pure (.error status) ∧
      if ∃ method ∈ service.methods, method.name = name then status.code = .invalidPayload
      else status = .unavailable ("Service " ++ service.name ++ " has no method " ++ name) := by
  cases resolved : service.resolve name arguments with
  | ok call => exact absurd (resolve_eq_ok_iff.mp resolved) (refused call.method call.message)
  | error status =>
    refine ⟨status, ?_, resolve_eq_error resolved⟩
    simp only [answer, resolved]

end Service

namespace DispatchTable

inductive Operation where
  | register (targetType : String) (dispatcher : Dispatcher)
  | addService (service : Service)
  | remove (targetType : String)
  | invoke (caller : MemberId) (targetType method : String) (arguments : Arguments)

inductive Report where
  -- Whether the type had a dispatcher before.
  | served (before : Bool)
  | invoked (invocation : Invocation)

def perform (table : DispatchTable) : Operation → DispatchTable × Report
  | .register targetType dispatcher =>
    let (after, replaced) := table.register targetType dispatcher
    (after, .served replaced)
  | .addService service =>
    let (after, replaced) := table.addService service
    (after, .served replaced)
  | .remove targetType =>
    let (after, removed) := table.remove targetType
    (after, .served removed)
  | .invoke caller targetType method arguments =>
    (table, .invoked (table.invoke caller targetType method arguments))

def run (operations : List Operation) : DispatchTable :=
  operations.foldl (fun table operation => (table.perform operation).1) .empty

namespace Operation

def change? : Operation → Option (Rebinding String Dispatcher)
  | .register targetType dispatcher => some (.bind targetType dispatcher)
  | .addService service => some (.bind service.name service.dispatcher)
  | .remove targetType => some (.release targetType)
  | .invoke .. => none

/-- What the operation has to report when the types have the given dispatchers. -/
def due (dispatcher? : String → Option Dispatcher) : Operation → Report
  | .register targetType _ => .served (dispatcher? targetType).isSome
  | .addService service => .served (dispatcher? service.name).isSome
  | .remove targetType => .served (dispatcher? targetType).isSome
  | .invoke caller targetType method arguments =>
    match dispatcher? targetType with
    | some dispatcher => .invoked (dispatcher caller method arguments)
    | none =>
      .invoked (.immediate (.error
        (.unavailable ("No dispatcher is registered for type " ++ targetType))))

end Operation

theorem report_perform (table : DispatchTable) (operation : Operation) :
    (table.perform operation).2 = operation.due table.find? := by
  cases operation with
  | register targetType dispatcher => rfl
  | addService service => rfl
  | remove targetType => rfl
  | invoke caller targetType method arguments =>
    simp only [perform, Operation.due, invoke]
    cases table.find? targetType <;> rfl

theorem entries_perform (table : DispatchTable) (operation : Operation) :
    (table.perform operation).1.entries =
      match operation.change? with
      | some change => change.apply table.entries
      | none => table.entries := by
  cases operation <;> rfl

theorem find?_run (operations : List Operation) :
    (run operations).find? = Rebinding.latest (operations.filterMap Operation.change?) := by
  induction operations using List.reverseRecOn with
  | nil => rfl
  | append_singleton earlier operation ih =>
    have last : run (earlier ++ [operation]) = ((run earlier).perform operation).1 := by
      simp only [run, List.foldl_append, List.foldl_cons, List.foldl_nil]
    change Bindings.get? (run (earlier ++ [operation])).entries = _
    rw [last, entries_perform, List.filterMap_append, List.filterMap_cons, List.filterMap_nil]
    cases operation.change? with
    | none => rwa [List.append_nil]
    | some change => exact Rebinding.get?_concat ih change

/--
After any operations on a table, the next one reports what the last registration of its type
requires. A service makes the call that one of its methods takes, once, and no call if none takes
it.
-/
theorem calls_reach_latest (operations : List Operation) :
    (∀ operation : Operation, ((run operations).perform operation).2 =
      operation.due (Rebinding.latest (operations.filterMap Operation.change?))) ∧
    ∀ (service : Service) (caller : MemberId) (name : String) (arguments : Arguments),
      service.dispatcher caller name arguments =
        .immediate (Id.run (service.answer .direct caller name arguments)) ∧
      ∀ {m : Type → Type} [Monad m] (calling : Calling m),
        (∀ method message, service.Takes name arguments method message →
          service.answer calling caller name arguments = do
            let outcome ← calling method caller message
            return outcome >>= method.reply.encode) ∧
        ((∀ method message, ¬ service.Takes name arguments method message) →
          ∃ status, service.answer calling caller name arguments = pure (.error status) ∧
            if ∃ method ∈ service.methods, method.name = name then status.code = .invalidPayload
            else status =
              .unavailable ("Service " ++ service.name ++ " has no method " ++ name)) := by
  constructor
  · intro operation
    rw [report_perform, find?_run]
  · intro service caller name arguments
    refine ⟨rfl, fun calling => ⟨?_, ?_⟩⟩
    · intro method message taken
      exact Service.answer_of_takes taken calling caller
    · intro refused
      exact Service.answer_of_refused refused calling caller

def counted : Calling (StateM Nat) := fun method caller message => do
  modify (· + 1)
  return method.call caller message

/--
The service that replaced another is called once if the argument is right, and not at all if not.
-/
theorem replaced_service_is_called_once :
    let old := Samples.Search.service 0
    let service := Samples.Search.service 1
    let operations : List Operation := [.addService old, .addService service, .remove "plain"]
    let query : Arguments := ⟨[PayloadType.text.tag], [[97, 98, 0, 0, 0, 0, 0, 2]], rfl⟩
    ((run operations).perform (.invoke ⟨"a"⟩ "search" PayloadType.text.tag query)).2 =
      .invoked (.immediate (.ok [3, 0, 0, 0])) ∧
    (service.answer counted ⟨"a"⟩ PayloadType.text.tag query).run 0 = (.ok [3, 0, 0, 0], 1) ∧
    ∃ status, (service.answer counted ⟨"a"⟩ "double" query).run 0 = (.error status, 0) ∧
      status.code = .invalidPayload := by
  intro old service operations query
  obtain ⟨reports, services⟩ := calls_reach_latest operations
  have taken : service.Takes PayloadType.text.tag query (Samples.Search.measure 1) "ab" :=
    ⟨rfl, ⟨[], [Samples.Search.double, Samples.Search.join], rfl, by decide⟩, _, rfl, rfl, rfl⟩
  obtain ⟨dispatched, answers⟩ := services service ⟨"a"⟩ PayloadType.text.tag query
  refine ⟨?_, ?_, ?_⟩
  · rw [reports]
    change Report.invoked (service.dispatcher ⟨"a"⟩ PayloadType.text.tag query) = _
    rw [dispatched, (answers .direct).1 _ _ taken]
    rfl
  · rw [(answers counted).1 _ _ taken]
    rfl
  · have refused (method : Method) (message : method.message.Carrier) :
        ¬ service.Takes "double" query method message := by
      intro taken
      have resolved := Service.resolve_eq_ok_iff.mpr taken
      cases resolved
    obtain ⟨status, answered, code⟩ := ((services service ⟨"a"⟩ "double" query).2 counted).2 refused
    refine ⟨status, by rw [answered]; rfl, ?_⟩
    rwa [if_pos ⟨Samples.Search.double, .tail _ (.head _), rfl⟩] at code

end DispatchTable

end ClusterCoordination
