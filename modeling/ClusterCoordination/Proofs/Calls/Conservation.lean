import Mathlib.Algebra.Ring.Nat
import Mathlib.Data.List.Induction
import Mathlib.Data.List.Nodup
import ClusterCoordination.Proofs.Calls.CallRuns
/-!
# No call is lost

Whatever is done to a table of pending calls, in whatever order: the calls that have been registered
are the ones that still wait and the ones that have been claimed, and each has been claimed once.
-/

set_option autoImplicit false

namespace ClusterCoordination

namespace PendingCalls

inductive Operation where
  | register (target : MemberId) (deadline : Instant)
  | complete (id : CallId) (result : CallResult)
  | take (id : CallId)
  | cancelAll
  | failMember (member : MemberId) (reason : String)
  | expireOverdue (now : Instant)

inductive Answer where
  | registered (id : CallId)
  -- Whether the call was there: of whoever ends a single one.
  | resolved (claimed : Bool)
  -- How many calls were there: of whoever ends several.
  | counted (number : Nat)
deriving DecidableEq

structure Effect where
  answer : Answer
  sent : List Delivery

def perform (pending : PendingCalls) : Operation → PendingCalls × Effect
  | .register target deadline =>
    let (after, id) := pending.register target deadline
    (after, ⟨.registered id, []⟩)
  | .complete id result =>
    let (after, delivery) := pending.complete id result
    (after, ⟨.resolved delivery.isSome, delivery.toList⟩)
  | .take id =>
    let (after, claimed) := pending.take id
    (after, ⟨.resolved claimed, []⟩)
  | .cancelAll =>
    let (after, sent) := pending.cancelAll
    (after, ⟨.counted sent.length, sent⟩)
  | .failMember member reason =>
    let (after, sent) := pending.failMember member reason
    (after, ⟨.counted sent.length, sent⟩)
  | .expireOverdue now =>
    let (after, sent) := pending.expireOverdue now
    (after, ⟨.counted sent.length, sent⟩)

def performAll (pending : PendingCalls) (operations : List Operation) : PendingCalls :=
  operations.foldl (fun pending operation => (pending.perform operation).1) pending

def run (operations : List Operation) : PendingCalls := empty.performAll operations

theorem run_append (earlier : List Operation) (operation : Operation) :
    run (earlier ++ [operation]) = ((run earlier).perform operation).1 :=
  List.foldl_append

structure Event where
  before : PendingCalls
  operation : Operation

def events (pending : PendingCalls) : List Operation → List Event
  | [] => []
  | operation :: rest => ⟨pending, operation⟩ :: (pending.perform operation).1.events rest

def history (operations : List Operation) : List Event := empty.events operations

theorem history_append (earlier : List Operation) (operation : Operation) :
    history (earlier ++ [operation]) = history earlier ++ [⟨run earlier, operation⟩] := by
  have continues (pending : PendingCalls) :
      pending.events (earlier ++ [operation]) =
        pending.events earlier ++ [⟨pending.performAll earlier, operation⟩] := by
    induction earlier generalizing pending with
    | nil => rfl
    | cons first rest ih =>
      rw [List.cons_append, events, ih]
      rfl
  exact continues empty

namespace Event

def after (event : Event) : PendingCalls := (event.before.perform event.operation).1

def answer (event : Event) : Answer := (event.before.perform event.operation).2.answer

def sent (event : Event) : List Delivery := (event.before.perform event.operation).2.sent

def registered : Event → Option PendingCall
  | ⟨before, .register target deadline⟩ =>
    some ⟨(before.register target deadline).2, target, deadline⟩
  | ⟨_, .complete ..⟩ | ⟨_, .take _⟩ | ⟨_, .cancelAll⟩ | ⟨_, .failMember ..⟩
  | ⟨_, .expireOverdue _⟩ => none

def claimed (event : Event) : List PendingCall :=
  event.before.calls.filter fun call => call ∉ event.after.calls

end Event

def Operation.registers : Operation → Bool
  | .register .. => true
  | .complete .. | .take _ | .cancelAll | .failMember .. | .expireOverdue _ => false

def Operation.concerns : Operation → PendingCall → Bool
  | .register .., _ => false
  | .complete id _, call | .take id, call => call.id = id
  | .cancelAll, _ => true
  | .failMember member _, call => call.target = member
  | .expireOverdue now, call => call.deadline ≤ now

def Operation.outcome : Operation → Option CallResult
  | .register .. | .take _ => none
  | .complete _ result => some result
  | .cancelAll => some (.error .cancelled)
  | .failMember member reason => some (.error (.unreachable member reason))
  | .expireOverdue _ => some (.error .timeout)

def Answer.claims : Answer → Nat
  | .registered _ => 0
  | .resolved claimed => claimed.toNat
  | .counted number => number

/-- An operation claims what it concerns. Those calls are sent its outcome, and the others stay. -/
structure Event.Exact (event : Event) : Prop where
  claimed : event.claimed = event.before.calls.filter event.operation.concerns
  kept : event.after.calls =
    event.registered.toList ++ event.before.calls.filter fun call => !event.operation.concerns call
  sent : event.sent = event.operation.outcome.elim [] fun result =>
    event.claimed.map fun call => ⟨call.id, result⟩
  told : event.answer.claims = event.claimed.length

section

variable {pending : PendingCalls} {operation : Operation}

theorem calls_perform (pending : PendingCalls) (operation : Operation) :
    (pending.perform operation).1.calls = (⟨pending, operation⟩ : Event).registered.toList ++
      pending.calls.filter fun call => !operation.concerns call := by
  cases operation with
  | register target deadline => simp [perform, register, Event.registered, Operation.concerns]
  | complete id result => simp [perform, complete, take, Event.registered, Operation.concerns]
  | take id => simp [perform, take, Event.registered, Operation.concerns]
  | cancelAll => rfl
  | failMember member reason => rfl
  | expireOverdue now => rfl

theorem claimed_eq (pending : PendingCalls) (operation : Operation) :
    (⟨pending, operation⟩ : Event).claimed = pending.calls.filter operation.concerns := by
  apply List.filter_congr
  intro call waits
  simp only [Event.after, calls_perform, List.mem_append, List.mem_filter, waits, true_and]
  cases operation with
  | register target deadline => simp [Operation.concerns]
  | _ => simp [Event.registered]

/-- As ids are unique, at most one call has a given id. -/
theorem filter_id (unique : pending.ids.Nodup) (id : CallId) :
    (pending.calls.filter fun call => call.id = id) = (pending.find? id).toList := by
  unfold ids at unique
  unfold find?
  generalize pending.calls = calls at unique
  induction calls with
  | nil => rfl
  | cons call rest ih =>
    obtain ⟨fresh, unique⟩ := List.nodup_cons.mp unique
    by_cases same : call.id = id
    · have alone : (rest.filter fun other => other.id = id) = [] := by
        apply List.filter_eq_nil_iff.mpr
        intro other among hit
        exact fresh (List.mem_map.mpr ⟨other, among, (of_decide_eq_true hit).trans same.symm⟩)
      simp [same, alone]
    · simpa [same] using ih unique

theorem id_of_find? {id : CallId} {call : PendingCall} (found : pending.find? id = some call) :
    call.id = id := by
  unfold find? at found
  simpa using List.find?_some found

theorem sent_perform (unique : pending.ids.Nodup) (operation : Operation) :
    (⟨pending, operation⟩ : Event).sent = operation.outcome.elim [] fun result =>
      (pending.calls.filter operation.concerns).map fun call => ⟨call.id, result⟩ := by
  cases operation with
  | complete id result =>
    have single : pending.calls.filter (Operation.complete id result).concerns =
        (pending.find? id).toList := filter_id unique id
    rw [single]
    cases found : pending.find? id with
    | none => simp [Event.sent, perform, complete, take, Operation.outcome, found]
    | some call =>
      simp [Event.sent, perform, complete, take, Operation.outcome, found, id_of_find? found]
  | register target deadline => rfl
  | take id => rfl
  | cancelAll => rfl
  | failMember member reason => rfl
  | expireOverdue now => rfl

theorem answer_perform (unique : pending.ids.Nodup) (operation : Operation) :
    (⟨pending, operation⟩ : Event).answer.claims =
      (pending.calls.filter operation.concerns).length := by
  cases operation with
  | register target deadline =>
    have nothing : pending.calls.filter (Operation.register target deadline).concerns = [] :=
      List.filter_eq_nil_iff.mpr fun call _ => Bool.false_ne_true
    rw [nothing]
    rfl
  | complete id result =>
    have single : pending.calls.filter (Operation.complete id result).concerns =
        (pending.find? id).toList := filter_id unique id
    rw [single]
    cases found : pending.find? id <;>
      simp [Event.answer, perform, complete, take, Answer.claims, found]
  | take id =>
    have single : pending.calls.filter (Operation.take id).concerns = (pending.find? id).toList :=
      filter_id unique id
    rw [single]
    cases found : pending.find? id <;> simp [Event.answer, perform, take, Answer.claims, found]
  | cancelAll => exact List.length_map _
  | failMember member reason => exact List.length_map _
  | expireOverdue now => exact List.length_map _

theorem exact_event (unique : pending.ids.Nodup) (operation : Operation) :
    (⟨pending, operation⟩ : Event).Exact where
  claimed := claimed_eq pending operation
  kept := calls_perform pending operation
  sent := by rw [claimed_eq, sent_perform unique]
  told := by rw [claimed_eq, answer_perform unique]

end

def registered (operations : List Operation) : List PendingCall :=
  (history operations).filterMap Event.registered

def claimed (operations : List Operation) : List PendingCall :=
  (history operations).flatMap Event.claimed

theorem registered_append (earlier : List Operation) (operation : Operation) :
    registered (earlier ++ [operation]) =
      registered earlier ++ (⟨run earlier, operation⟩ : Event).registered.toList := by
  rw [registered, history_append, List.filterMap_append, List.filterMap_cons, List.filterMap_nil]
  cases (⟨run earlier, operation⟩ : Event).registered <;> rfl

theorem claimed_append (earlier : List Operation) (operation : Operation) :
    claimed (earlier ++ [operation]) =
      claimed earlier ++ (⟨run earlier, operation⟩ : Event).claimed := by
  rw [claimed, history_append, List.flatMap_append, List.flatMap_singleton]
  rfl

theorem registered_perm (operations : List Operation) :
    (registered operations).Perm ((run operations).calls ++ claimed operations) := by
  induction operations using List.reverseRecOn with
  | nil => exact .refl _
  | append_singleton earlier operation ih =>
    let event : Event := ⟨run earlier, operation⟩
    let stays := (run earlier).calls.filter fun call => !operation.concerns call
    have split : (event.claimed ++ stays).Perm (run earlier).calls := by
      rw [claimed_eq]
      exact List.filter_append_perm _ _
    rw [registered_append, claimed_append, run_append, calls_perform]
    change (registered earlier ++ event.registered.toList).Perm
      (event.registered.toList ++ stays ++ (claimed earlier ++ event.claimed))
    have moved : (stays ++ (claimed earlier ++ event.claimed)).Perm
        ((run earlier).calls ++ claimed earlier) := by
      calc (stays ++ (claimed earlier ++ event.claimed)).Perm
            (stays ++ (event.claimed ++ claimed earlier)) := List.perm_append_comm.append_left _
        _ |>.Perm ((stays ++ event.claimed) ++ claimed earlier) := by rw [List.append_assoc]
        _ |>.Perm ((run earlier).calls ++ claimed earlier) :=
          (List.perm_append_comm.trans split).append_right _
    rw [List.append_assoc]
    exact List.perm_append_comm.trans ((ih.trans moved.symm).append_left _)

theorem ids_registered (operations : List Operation) :
    (registered operations).map PendingCall.id =
        (List.range (operations.countP Operation.registers)).map UInt64.ofNat ∧
      (run operations).nextId = UInt64.ofNat (operations.countP Operation.registers) := by
  induction operations using List.reverseRecOn with
  | nil => exact ⟨rfl, rfl⟩
  | append_singleton earlier operation ih =>
    obtain ⟨numbers, next⟩ := ih
    rw [registered_append, run_append, List.map_append, numbers, List.countP_append]
    cases operation with
    | register target deadline =>
      have one : [Operation.register target deadline].countP Operation.registers = 1 := rfl
      rw [one, List.range_succ, List.map_append]
      constructor
      · simp [Event.registered, register, next]
      · change (run earlier).nextId + 1 = _
        rw [next, UInt64.ofNat_add]
        rfl
    | _ => exact ⟨by simp [Event.registered, Operation.registers], next⟩

section

variable {operations : List Operation}

theorem registered_distinct (few : operations.countP Operation.registers < 2 ^ 64) :
    ((registered operations).map PendingCall.id).Nodup := by
  rw [(ids_registered operations).1]
  apply List.nodup_range.map_on
  intro one oneBelow other otherBelow same
  rw [List.mem_range] at oneBelow otherBelow
  have numbers := congrArg UInt64.toNat same
  rwa [UInt64.toNat_ofNat_of_lt' (Nat.lt_trans oneBelow few),
    UInt64.toNat_ofNat_of_lt' (Nat.lt_trans otherBelow few)] at numbers

theorem ids_distinct (few : operations.countP Operation.registers < 2 ^ 64) :
    ((run operations).ids ++ (claimed operations).map PendingCall.id).Nodup := by
  rw [ids, ← List.map_append]
  exact ((registered_perm operations).map _).nodup_iff.mp (registered_distinct few)

theorem exact_history (few : operations.countP Operation.registers < 2 ^ 64) :
    ∀ event ∈ history operations, event.Exact := by
  induction operations using List.reverseRecOn with
  | nil => exact fun _ none => absurd none List.not_mem_nil
  | append_singleton earlier operation ih =>
    have fewer : earlier.countP Operation.registers < 2 ^ 64 := by
      rw [List.countP_append] at few
      omega
    intro event passed
    rw [history_append, List.mem_append, List.mem_singleton] at passed
    rcases passed with passed | rfl
    · exact ih fewer event passed
    · exact exact_event (ids_distinct fewer).of_append_left operation

end

theorem countP_claimed {events : List Event} (id : CallId)
    (distinct : ((events.flatMap Event.claimed).map PendingCall.id).Nodup) :
    (events.countP fun event => id ∈ event.claimed.map PendingCall.id) =
      ((events.flatMap Event.claimed).map PendingCall.id).count id := by
  induction events with
  | nil => rfl
  | cons first rest ih =>
    rw [List.flatMap_cons, List.map_append] at distinct
    rw [List.flatMap_cons, List.map_append, List.count_append, List.countP_cons,
      ih distinct.of_append_right, Nat.add_comm]
    congr 1
    by_cases among : id ∈ first.claimed.map PendingCall.id
    · rw [List.count_eq_one_of_mem distinct.of_append_left among]
      simp [among]
    · rw [List.count_eq_zero_of_not_mem among]
      simp [among]

theorem sent_sublist {events : List Event} (exactly : ∀ event ∈ events, event.Exact) :
    ((events.flatMap Event.sent).map Delivery.call).Sublist
      ((events.flatMap Event.claimed).map PendingCall.id) := by
  induction events with
  | nil => exact .refl _
  | cons first rest ih =>
    obtain ⟨head, others⟩ := List.forall_mem_cons.mp exactly
    simp only [List.flatMap_cons, List.map_append]
    refine .append ?_ (ih others)
    rw [head.sent]
    cases first.operation.outcome with
    | none => exact List.nil_sublist _
    | some result => simp [Function.comp_def]

theorem length_claimed {events : List Event} (exactly : ∀ event ∈ events, event.Exact) :
    (events.map fun event => event.answer.claims).sum = (events.flatMap Event.claimed).length := by
  rw [List.length_flatMap]
  congr 1
  exact List.map_congr_left fun event passed => (exactly event passed).told

/-- The table of pending calls loses no call and ends none twice. -/
theorem run_conserves_calls (operations : List Operation)
    (few : operations.countP Operation.registers < 2 ^ 64) :
    ((registered operations).map PendingCall.id).Nodup ∧
    (∀ call, call ∈ (run operations).calls ↔
      call ∈ registered operations ∧ ∀ event ∈ history operations, call ∉ event.claimed) ∧
    (∀ id ∈ (registered operations).map PendingCall.id, id ∉ (run operations).ids →
      (history operations).countP (fun event => id ∈ event.claimed.map PendingCall.id) = 1) ∧
    (registered operations).length =
      (run operations).size + ((history operations).map fun event => event.answer.claims).sum ∧
    (∀ event ∈ history operations, event.Exact) ∧
    (((history operations).flatMap Event.sent).map Delivery.call).Nodup := by
  have balance := registered_perm operations
  have distinct := ids_distinct few
  have exactly := exact_history few
  refine ⟨registered_distinct few, ?_, ?_, ?_, exactly, ?_⟩
  · intro call
    have whereabouts : call ∈ registered operations ↔
        call ∈ (run operations).calls ∨ ∃ event ∈ history operations, call ∈ event.claimed := by
      rw [balance.mem_iff, List.mem_append, claimed, List.mem_flatMap]
    constructor
    · intro waits
      refine ⟨whereabouts.mpr (.inl waits), fun event passed gone => ?_⟩
      exact List.disjoint_of_nodup_append distinct (List.mem_map_of_mem waits)
        (List.mem_map_of_mem (List.mem_flatMap.mpr ⟨event, passed, gone⟩))
    · rintro ⟨known, unclaimed⟩
      refine (whereabouts.mp known).resolve_right ?_
      rintro ⟨event, passed, gone⟩
      exact unclaimed event passed gone
  · intro id known left
    have gone : id ∈ (claimed operations).map PendingCall.id := by
      rw [(balance.map _).mem_iff, List.map_append, List.mem_append] at known
      exact known.resolve_left left
    rw [countP_claimed id distinct.of_append_right]
    exact List.count_eq_one_of_mem distinct.of_append_right gone
  · rw [balance.length_eq, List.length_append, length_claimed exactly]
    rfl
  · exact distinct.of_append_right.sublist (sent_sublist exactly)

/--
Three calls to two members: a reply and a dropped caller end one, a departure another, and the third
waits on.
-/
def threeCalls : List Operation :=
  [.register ⟨"b"⟩ 10, .register ⟨"c"⟩ 20, .register ⟨"b"⟩ 30, .complete 0 (.ok []), .take 0,
    .failMember ⟨"c"⟩ "left the cluster", .expireOverdue 20]

theorem threeCalls_conserved :
    threeCalls.countP Operation.registers < 2 ^ 64 ∧
    (registered threeCalls).length = 3 ∧
    run threeCalls = ⟨3, [⟨2, ⟨"b"⟩, 30⟩]⟩ ∧
    (history threeCalls).map Event.answer = [.registered 0, .registered 1, .registered 2,
      .resolved true, .resolved false, .counted 1, .counted 0] ∧
    (registered threeCalls).length =
      (run threeCalls).size + ((history threeCalls).map fun event => event.answer.claims).sum := by
  have few : threeCalls.countP Operation.registers < 2 ^ 64 := by decide
  obtain ⟨_, _, _, balance, _, _⟩ := run_conserves_calls threeCalls few
  exact ⟨few, by decide, by decide, by decide, balance⟩

end PendingCalls

end ClusterCoordination
