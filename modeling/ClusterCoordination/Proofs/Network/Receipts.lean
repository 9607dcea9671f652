import Mathlib.Data.List.GetD
import ClusterCoordination.Node.Sending
import ClusterCoordination.Proofs.Network.Consignments
/-!
# Receipts

Whoever sends through an outbox is told once what became of it: refused, from the shutdown on, or
what the socket said to that very datagram. Nothing that was queued before is lost, as long as the
drains keep going.
-/

set_option autoImplicit false

namespace ClusterCoordination

namespace Node

variable {node : Node}

theorem push_of_closed (closed : node.outbox.closed = true) (address : SocketAddress) (data : Bytes)
    (receipt : Receipt) :
    node.push address ⟨data, some receipt⟩ = node.acknowledge ⟨receipt, .error .queueClosed⟩ := by
  simp [push, Outbox.push, closed]

theorem enqueue_of_closed (closed : node.outbox.closed = true) (address : SocketAddress)
    (data : Bytes) : node.enqueue address data = node := by
  simp [enqueue, push, Outbox.push, closed]

end Node

namespace Outbox

def Operation.pushed? : Operation → Option (SocketAddress × Outgoing)
  | .push address outgoing => some (address, outgoing)
  | .retain _ | .disconnect _ | .shutdown | .take _ | .complete .. => none

def Operation.isShutdown : Operation → Bool
  | .shutdown => true
  | .push .. | .retain _ | .disconnect _ | .take _ | .complete .. => false

theorem Operation.pushed?_of_isShutdown (operation : Operation)
    (shut : operation.isShutdown = true) :
    operation.pushed? = none := by
  cases operation <;> simp_all [Operation.isShutdown, Operation.pushed?]

def untilShutdown (operations : List Operation) : List Operation :=
  operations.takeWhile fun operation => !operation.isShutdown

def sinceShutdown (operations : List Operation) : List Operation :=
  operations.dropWhile fun operation => !operation.isShutdown

section

variable {outbox : Outbox}

/-! ### Shutting down -/

theorem closed_perform (outbox : Outbox) (operation : Operation) :
    (outbox.perform operation).closed = (outbox.closed || operation.isShutdown) := by
  cases operation <;> simp [perform, Operation.isShutdown, retain, disconnect, shutdown, prune]

theorem happens_pushed (outbox : Outbox) (operation : Operation) :
    ((outbox.happens operation).filterMap Event.entered?).map Consignment.pushed =
        (if outbox.closed then [] else operation.pushed?.toList) ∧
      (outbox.happens operation).filterMap Event.refused? =
        if outbox.closed then operation.pushed?.toList else [] := by
  cases operation with
  | push address outgoing =>
    cases closed : outbox.closed with
    | true => rw [happens_push_of_closed closed]; exact ⟨rfl, rfl⟩
    | false => rw [happens_push_of_opened closed]; exact ⟨rfl, rfl⟩
  | retain keep => simp [happens, Operation.pushed?]
  | disconnect address => simp [happens, Operation.pushed?]
  | shutdown => simp [happens, Operation.pushed?]
  | take id =>
    cases taken : (outbox.take id).2 with
    | none => simp [happens_take_of_none taken, Operation.pushed?]
    | some item =>
      obtain ⟨drain, outgoing, rest, found, sending, backlog, -, -⟩ := take_eq_some taken
      simp only [happens_take found, sending, backlog]
      simp [Operation.pushed?, Event.entered?, Event.refused?]
  | complete id result =>
    simp [happens, Operation.pushed?, List.filterMap_map, Function.comp_def, Event.entered?,
      Event.refused?]

theorem traced_pushed (outbox : Outbox) (operations : List Operation) :
    ((traced happens outbox operations).filterMap Event.entered?).map Consignment.pushed =
        (if outbox.closed then [] else (untilShutdown operations).filterMap Operation.pushed?) ∧
      (traced happens outbox operations).filterMap Event.refused? =
        (if outbox.closed then operations else sinceShutdown operations).filterMap
          Operation.pushed? := by
  induction operations generalizing outbox with
  | nil => simp [traced, untilShutdown, sinceShutdown]
  | cons operation rest ih =>
    obtain ⟨entered, refused⟩ := outbox.happens_pushed operation
    obtain ⟨enterLater, refusedLater⟩ := ih (outbox.perform operation)
    rw [traced, List.filterMap_append, List.filterMap_append, List.map_append, entered, refused,
      enterLater, refusedLater, closed_perform]
    have pushes (later : List Operation) : (operation :: later).filterMap Operation.pushed? =
        operation.pushed?.toList ++ later.filterMap Operation.pushed? := by
      cases pushed : operation.pushed? <;> simp [pushed]
    cases closed : outbox.closed with
    | true => simp [pushes]
    | false =>
      cases shut : operation.isShutdown with
      | true =>
        simp [untilShutdown, sinceShutdown, shut, pushes, operation.pushed?_of_isShutdown shut]
      | false => simp [untilShutdown, sinceShutdown, shut, pushes]

theorem nextDrain_take (outbox : Outbox) (id : DrainId) :
    (outbox.take id).1.nextDrain = outbox.nextDrain := by
  unfold take
  split
  · rfl
  · split <;> rfl

theorem nextDrain_complete (outbox : Outbox) (id : DrainId) (result : Except NetworkFault Unit) :
    (outbox.complete id result).1.nextDrain = outbox.nextDrain := by
  unfold complete
  split <;> rfl

structure Shut (outbox : Outbox) : Prop where
  closed : outbox.closed = true
  dropped : outbox.Dropped

theorem shut_shutdown (outbox : Outbox) : outbox.shutdown.Shut := ⟨rfl, outbox.dropped_shutdown⟩

theorem Shut.perform (shut : outbox.Shut) (operation : Operation) :
    (outbox.perform operation).Shut ∧ (outbox.perform operation).nextDrain = outbox.nextDrain := by
  have closed : (outbox.perform operation).closed = true := by
    rw [closed_perform, shut.closed, Bool.true_or]
  refine ⟨⟨closed, ?_⟩, ?_⟩
  · cases operation with
    | push address outgoing =>
      rw [Outbox.perform, push_of_closed shut.closed]
      exact shut.dropped
    | retain keep => exact shut.dropped.retain keep
    | disconnect address => exact shut.dropped.retain fun other => other ≠ address
    | shutdown => exact outbox.dropped_shutdown
    | take drain => exact shut.dropped.take drain
    | complete drain result => exact shut.dropped.complete drain result
  · cases operation with
    | push address outgoing => rw [Outbox.perform, push_of_closed shut.closed]
    | retain keep => rfl
    | disconnect address => rfl
    | shutdown => rfl
    | take drain => exact outbox.nextDrain_take drain
    | complete drain result => exact outbox.nextDrain_complete drain result

theorem Shut.performAll (shut : outbox.Shut) (operations : List Operation) :
    (outbox.performAll operations).Shut ∧
      (outbox.performAll operations).nextDrain = outbox.nextDrain := by
  induction operations generalizing outbox with
  | nil => exact ⟨shut, rfl⟩
  | cons operation rest ih =>
    obtain ⟨still, next⟩ := shut.perform operation
    obtain ⟨shutLater, same⟩ := ih still
    exact ⟨shutLater, same.trans next⟩

theorem performAll_of_shutdown (outbox : Outbox) {operations : List Operation}
    (shut : operations.any Operation.isShutdown = true) :
    (outbox.performAll operations).Shut ∧ (outbox.performAll operations).nextDrain =
      (outbox.performAll (untilShutdown operations)).nextDrain := by
  induction operations generalizing outbox with
  | nil => simp at shut
  | cons operation rest ih =>
    cases now : operation.isShutdown with
    | true =>
      obtain rfl : operation = .shutdown := by cases operation <;> simp_all [Operation.isShutdown]
      exact outbox.shut_shutdown.performAll rest
    | false =>
      have later := ih (outbox.perform operation) (by simpa [now] using shut)
      have goesOn : untilShutdown (operation :: rest) = operation :: untilShutdown rest := by
        simp [untilShutdown, now]
      rw [goesOn]
      exact later

theorem Shut.hasQueue (shut : outbox.Shut) (address : SocketAddress) :
    outbox.hasQueue address = false := by
  rw [Outbox.hasQueue, shut.dropped.queue?_eq_none]
  rfl

end

/-! ### Drains that keep going -/

/--
The operation is the next step of the drain: it takes while it is not sending, and completes while
it is.
-/
def Operation.moves (drain : Drain) : Operation → Bool
  | .take id => drain.id = id && drain.sending.isNone
  | .complete id _ => drain.id = id && drain.sending.isSome
  | .push .. | .retain _ | .disconnect _ | .shutdown => false

def first (schedule : Nat → Operation) (count : Nat) : List Operation :=
  (List.range count).map schedule

def reached (schedule : Nat → Operation) (moment : Nat) : Outbox := run (first schedule moment)

def past (schedule : Nat → Operation) (moment : Nat) : List Event := history (first schedule moment)

/-- Whenever there is something left for a drain to do, it eventually goes on. -/
def Fair (schedule : Nat → Operation) : Prop :=
  ∀ moment, ∀ drain ∈ (reached schedule moment).drains, drain.isIdle = false →
    ∃ later, moment ≤ later ∧ (schedule later).moves drain = true

section

variable {schedule : Nat → Operation} {id : DrainId} {earlier later : Nat}

theorem first_succ (schedule : Nat → Operation) (count : Nat) :
    first schedule (count + 1) = first schedule count ++ [schedule count] := by
  simp [first, List.range_succ]

theorem reached_succ (schedule : Nat → Operation) (moment : Nat) :
    reached schedule (moment + 1) = (reached schedule moment).perform (schedule moment) := by
  rw [reached, first_succ, run_append]
  rfl

theorem past_succ (schedule : Nat → Operation) (moment : Nat) :
    past schedule (moment + 1) =
      past schedule moment ++ (reached schedule moment).happens (schedule moment) := by
  rw [past, first_succ, history_append, traced, traced, List.append_nil]
  rfl

theorem past_prefix (schedule : Nat → Operation) (ordered : earlier ≤ later) :
    past schedule earlier <+: past schedule later := by
  induction ordered with
  | refl => exact List.prefix_refl _
  | step _ ih =>
    rw [past_succ]
    exact ih.trans (List.prefix_append _ _)

theorem balanced_reached (schedule : Nat → Operation) (moment : Nat) :
    (reached schedule moment).Balanced (past schedule moment) :=
  balanced_run (first schedule moment)

def progress (schedule : Nat → Operation) (id : DrainId) (moment : Nat) : Nat :=
  (passages (past schedule moment) id).length + (returns (past schedule moment) id).length

theorem lengths_mono (schedule : Nat → Operation) (id : DrainId) (ordered : earlier ≤ later) :
    (entries (past schedule earlier) id).length ≤ (entries (past schedule later) id).length ∧
      (passages (past schedule earlier) id).length ≤ (passages (past schedule later) id).length ∧
      (returns (past schedule earlier) id).length ≤ (returns (past schedule later) id).length := by
  obtain ⟨more, longer⟩ := past_prefix schedule ordered
  rw [← longer, entries_append, passages_append, returns_append, List.length_append,
    List.length_append, List.length_append]
  omega

theorem lengths_balance (schedule : Nat → Operation) (id : DrainId) (moment : Nat) :
    (entries (past schedule moment) id).length = (passages (past schedule moment) id).length +
        ((reached schedule moment).waitingAt id).length ∧
      (passages (past schedule moment) id).length = (returns (past schedule moment) id).length +
        ((reached schedule moment).underwayAt id).length := by
  have balanced := balanced_reached schedule moment
  constructor
  · rw [balanced.entered, List.length_append]
  · rw [balanced.passed, List.length_append, List.length_map]

theorem busy_iff {drain : Drain} :
    drain.isIdle = false ↔ 0 < drain.waits.length + drain.underway.length := by
  cases sending : drain.sending <;> cases backlog : drain.backlog <;>
    simp [Drain.isIdle, Drain.waits, Drain.underway, sending, backlog]

theorem length_underwayAt (outbox : Outbox) (id : DrainId) : (outbox.underwayAt id).length ≤ 1 := by
  rw [underwayAt, heldAt]
  cases outbox.drain? id with
  | none => exact Nat.zero_le 1
  | some drain => cases sending : drain.sending <;> simp [Drain.underway, sending]

theorem moves_congr {drain other : Drain} (same : other.id = drain.id)
    (underway : other.underway.length = drain.underway.length) (operation : Operation) :
    operation.moves other = operation.moves drain := by
  have sending : other.sending.isSome = drain.sending.isSome := by
    cases one : other.sending <;> cases two : drain.sending <;>
      simp_all [Drain.underway]
  have resting : other.sending.isNone = drain.sending.isNone := by
    rw [← Option.not_isSome, ← Option.not_isSome, sending]
  cases operation <;> simp only [Operation.moves, same, sending, resting]

theorem progress_lt_succ {moment : Nat} {drain : Drain}
    (found : (reached schedule moment).drain? id = some drain) (busy : drain.isIdle = false)
    (moved : (schedule moment).moves drain = true) :
    progress schedule id moment < progress schedule id (moment + 1) := by
  obtain ⟨-, rfl⟩ := drain?_eq_some found
  rw [progress, progress, past_succ, passages_append, returns_append, List.length_append,
    List.length_append]
  cases operation : schedule moment with
  | take taken =>
    simp only [operation, Operation.moves, Bool.and_eq_true, decide_eq_true_eq,
      Option.isNone_iff_eq_none] at moved
    obtain ⟨rfl, sending⟩ := moved
    cases backlog : drain.backlog with
    | nil => simp [Drain.isIdle, sending, backlog] at busy
    | cons outgoing rest =>
      simp only [happens_take found, sending, backlog]
      simp
  | complete completed result =>
    simp only [operation, Operation.moves, Bool.and_eq_true, decide_eq_true_eq,
      Option.isSome_iff_exists] at moved
    obtain ⟨rfl, outgoing, sending⟩ := moved
    simp [happens, underwayAt, heldAt_of_found found, Drain.underway, sending]
  | _ => simp [operation, Operation.moves] at moved

theorem Fair.goes_on (fair : Fair schedule) {moment : Nat}
    (left : 0 < ((reached schedule moment).waitingAt id).length +
      ((reached schedule moment).underwayAt id).length) :
    ∃ later, moment ≤ later ∧ progress schedule id moment < progress schedule id later := by
  cases found : (reached schedule moment).drain? id with
  | none => simp [waitingAt, underwayAt, heldAt, found] at left
  | some drain =>
    obtain ⟨present, named⟩ := drain?_eq_some found
    rw [waitingAt, underwayAt, heldAt_of_found found, heldAt_of_found found] at left
    obtain ⟨later, ordered, moved⟩ := fair moment drain present (busy_iff.mpr left)
    -- If nothing has come of the drain until it moves, it still has the same to do, so its move
    -- counts.
    by_cases further : progress schedule id moment < progress schedule id later
    · exact ⟨later, ordered, further⟩
    · obtain ⟨moreEntered, morePassed, moreReturned⟩ := lengths_mono schedule id ordered
      obtain ⟨entered, passed⟩ := lengths_balance schedule id moment
      obtain ⟨enteredLater, passedLater⟩ := lengths_balance schedule id later
      rw [waitingAt, heldAt_of_found found] at entered
      rw [underwayAt, heldAt_of_found found] at passed
      rw [progress, progress] at further
      cases foundLater : (reached schedule later).drain? id with
      | none =>
        rw [waitingAt, heldAt, foundLater, Option.elim_none, List.length_nil] at enteredLater
        rw [underwayAt, heldAt, foundLater, Option.elim_none, List.length_nil] at passedLater
        omega
      | some other =>
        rw [waitingAt, heldAt_of_found foundLater] at enteredLater
        rw [underwayAt, heldAt_of_found foundLater] at passedLater
        have sameName : other.id = drain.id := (drain?_eq_some foundLater).2.trans named.symm
        have movedLater := moves_congr sameName (by omega) (schedule later)
        have busy : other.isIdle = false := busy_iff.mpr (by omega)
        have step := progress_lt_succ foundLater busy (movedLater.trans moved)
        refine ⟨later + 1, Nat.le_succ_of_le ordered, ?_⟩
        rw [progress, progress] at step ⊢
        omega

theorem Fair.reaches (fair : Fair schedule) (id : DrainId) (moment goal : Nat) :
    ∃ later, moment ≤ later ∧ (goal ≤ progress schedule id later ∨
      ((reached schedule later).waitingAt id).length +
        ((reached schedule later).underwayAt id).length = 0) := by
  induction goal with
  | zero => exact ⟨moment, Nat.le_refl _, .inl (Nat.zero_le _)⟩
  | succ goal ih =>
    obtain ⟨later, ordered, far | nothing⟩ := ih
    · rcases Nat.eq_zero_or_pos (((reached schedule later).waitingAt id).length +
        ((reached schedule later).underwayAt id).length) with nothing | left
      · exact ⟨later, ordered, .inr nothing⟩
      · obtain ⟨last, behind, further⟩ := fair.goes_on left
        exact ⟨last, ordered.trans behind, .inl (Nat.lt_of_le_of_lt far further)⟩
    · exact ⟨later, ordered, .inr nothing⟩

/-- Everything that has entered the queue of a drain comes back, in order. -/
theorem Fair.returns_entries (fair : Fair schedule) (id : DrainId) (moment : Nat) :
    ∃ later, moment ≤ later ∧
      entries (past schedule moment) id <+: (returns (past schedule later) id).map Prod.fst := by
  obtain ⟨later, ordered, far⟩ :=
    fair.reaches id moment (2 * (entries (past schedule moment) id).length)
  refine ⟨later, ordered, ?_⟩
  have balanced := balanced_reached schedule later
  obtain ⟨more, longer⟩ := past_prefix schedule ordered
  have entered : entries (past schedule moment) id <+: entries (past schedule later) id := by
    rw [← longer, entries_append]
    exact List.prefix_append _ _
  have returned :
      (returns (past schedule later) id).map Prod.fst <+: entries (past schedule later) id := by
    rw [balanced.entered, balanced.passed, List.append_assoc]
    exact List.prefix_append _ _
  apply List.prefix_of_prefix_length_le entered returned
  obtain ⟨moreEntered, -⟩ := lengths_mono schedule id ordered
  obtain ⟨enteredLater, passedLater⟩ := lengths_balance schedule id later
  have single := length_underwayAt (reached schedule later) id
  rw [progress] at far
  rw [List.length_map]
  omega

theorem Fair.returns_all_entries (fair : Fair schedule) (moment : Nat) :
    ∃ later, moment ≤ later ∧ ∀ id,
      entries (past schedule moment) id <+: (returns (past schedule later) id).map Prod.fst := by
  -- Only finitely many drains have been given anything so far, so there is a moment that is late
  -- enough for all.
  have among (ids : List DrainId) : ∃ later, moment ≤ later ∧ ∀ id ∈ ids,
      entries (past schedule moment) id <+: (returns (past schedule later) id).map Prod.fst := by
    induction ids with
    | nil => exact ⟨moment, Nat.le_refl _, by simp⟩
    | cons id rest ih =>
      obtain ⟨one, afterOne, returned⟩ := fair.returns_entries id moment
      obtain ⟨others, afterOthers, returnedOthers⟩ := ih
      have stays {earlier : Nat} (id : DrainId) (ordered : earlier ≤ max one others) :
          (returns (past schedule earlier) id).map Prod.fst <+:
            (returns (past schedule (max one others)) id).map Prod.fst := by
        obtain ⟨more, longer⟩ := past_prefix schedule ordered
        rw [← longer, returns_append, List.map_append]
        exact List.prefix_append _ _
      refine ⟨max one others, afterOne.trans (Nat.le_max_left _ _), ?_⟩
      intro other among
      rcases List.mem_cons.mp among with rfl | later
      · exact returned.trans (stays other (Nat.le_max_left _ _))
      · exact (returnedOthers other later).trans (stays other (Nat.le_max_right _ _))
  obtain ⟨later, ordered, returned⟩ :=
    among (((past schedule moment).filterMap Event.entered?).map Consignment.drain)
  refine ⟨later, ordered, fun id => ?_⟩
  by_cases used : id ∈ ((past schedule moment).filterMap Event.entered?).map Consignment.drain
  · exact returned id used
  · have unused : entries (past schedule moment) id = [] := by
      apply List.filter_eq_nil_iff.mpr
      intro consignment entered same
      exact used (List.mem_map.mpr ⟨consignment, entered, by simpa using same⟩)
    rw [unused]
    exact List.nil_prefix

end

/--
Whatever is done to an outbox in whatever order, what is pushed before a shutdown enters a queue,
and what is pushed later is refused. Each drain passes on what has entered its queue, once each and
in order, and what has come back from the socket is what was passed on. These are also all the
datagrams that the socket is given, for the addresses they were pushed for, and all that the senders
are told. From a shutdown on there is no queue, none is made, and to push is to be refused. While
the drains keep going, whatever has entered comes back at last.
-/
theorem every_push_is_accounted_for :
    (∀ operations : List Operation,
      let outbox := run operations
      let events := history operations
      (events.filterMap Event.entered?).map Consignment.pushed =
        (untilShutdown operations).filterMap Operation.pushed? ∧
      events.filterMap Event.refused? = (sinceShutdown operations).filterMap Operation.pushed? ∧
      (∀ id, entries events id = passages events id ++ outbox.waitingAt id ∧
        passages events id = (returns events id).map Prod.fst ++ outbox.underwayAt id) ∧
      traced asksSocket empty operations = events.filterMap Event.asked? ∧
      traced tellsSender empty operations = events.filterMap Event.acknowledgement? ∧
      (operations.any Operation.isShutdown = true →
        outbox.nextDrain = (run (untilShutdown operations)).nextDrain ∧
        (∀ address, outbox.hasQueue address = false) ∧
        ∀ node : Node, node.outbox = outbox → ∀ address data, node.enqueue address data = node ∧
          ∀ receipt, node.push address ⟨data, some receipt⟩ =
            node.acknowledge ⟨receipt, .error .queueClosed⟩)) ∧
    ∀ schedule, Fair schedule → ∀ moment, ∃ later, moment ≤ later ∧ ∀ id,
      entries (past schedule moment) id <+: (returns (past schedule later) id).map Prod.fst := by
  refine ⟨fun operations => ?_, fun schedule fair => fair.returns_all_entries⟩
  intro outbox events
  obtain ⟨entered, refused⟩ := traced_pushed empty operations
  have balanced : outbox.Balanced events := balanced_run operations
  refine ⟨entered, refused, fun id => ⟨balanced.entered id, balanced.passed id⟩,
    traced_filterMap asksSocket_eq empty operations,
      traced_filterMap tellsSender_eq empty operations, ?_⟩
  intro shut
  obtain ⟨ended, made⟩ := performAll_of_shutdown empty shut
  refine ⟨made, ended.hasQueue, ?_⟩
  rintro node held address data
  have closed : node.outbox.closed = true := held ▸ ended.closed
  exact ⟨Node.enqueue_of_closed closed address data, Node.push_of_closed closed address data⟩

/--
A queue is disconnected while it holds two datagrams, and its successor is cleared by the shutdown.
All three are sent nevertheless, and only what is pushed too late is refused.
-/
theorem dropped_queues_are_sent_and_acknowledged :
    let address : SocketAddress := .unspecified
    let send (data : UInt8) : Operation := .push address ⟨[data], some (.call data.toUInt64)⟩
    let operations : List Operation :=
      [send 1, .push address ⟨[2], none⟩, .take 0, .disconnect address, send 3, .shutdown, send 4,
        .take 1, .complete 1 (.error .socketClosed), .complete 0 (.ok ()), .take 0,
          .complete 0 (.ok ())]
    let schedule (moment : Nat) : Operation := operations.getD moment .shutdown
    Fair schedule ∧
      (∃ later, ∀ id, entries (history operations) id <+:
        (returns (past schedule later) id).map Prod.fst) ∧
      traced asksSocket empty operations = [(address, [1]), (address, [3]), (address, [2])] ∧
      traced tellsSender empty operations =
        [⟨.call 4, .error .queueClosed⟩, ⟨.call 3, .error .socketClosed⟩, ⟨.call 1, .ok ()⟩] ∧
      (run operations).hasQueue address = false := by
  intro address send operations schedule
  have ends (extra : Nat) : (reached schedule (12 + extra)).drains = [] := by
    induction extra with
    | zero => decide +kernel
    | succ extra ih =>
      have idle : schedule (12 + extra) = .shutdown :=
        List.getD_eq_default _ _ (Nat.le_add_right 12 extra)
      rw [← Nat.add_assoc, reached_succ, idle]
      simp [perform, shutdown, retain, prune, ih]
  have begins : ∀ moment < 12, ∀ drain ∈ (reached schedule moment).drains, drain.isIdle = false →
      ∃ later ∈ List.range 12, moment ≤ later ∧ (schedule later).moves drain = true := by
    decide +kernel
  have fair : Fair schedule := by
    intro moment drain present busy
    rcases Nat.lt_or_ge moment 12 with early | late
    · obtain ⟨later, -, ordered, moved⟩ := begins moment early drain present busy
      exact ⟨later, ordered, moved⟩
    · obtain ⟨extra, rfl⟩ := Nat.exists_eq_add_of_le late
      rw [ends extra] at present
      simp at present
  obtain ⟨runs, schedules⟩ := every_push_is_accounted_for
  obtain ⟨-, -, -, asked, told, shut⟩ := runs operations
  obtain ⟨-, none, -⟩ := shut rfl
  obtain ⟨later, -, returned⟩ := schedules schedule fair 12
  refine ⟨fair, ⟨later, ?_⟩, asked.trans ?_, told.trans ?_, none address⟩
  · exact returned
  · decide +kernel
  · decide +kernel

end Outbox

end ClusterCoordination
