import ClusterCoordination.Proofs.Calls.NodeRuns
/-!
# Settling pending calls

Whatever ends calls without their callers gives an outcome to some of them and none to the others.
What happens to the table and to the deliveries is then the same, and one settlement after the other
is again one.
-/

set_option autoImplicit false

namespace ClusterCoordination

namespace Node

/--
Every call that has an outcome is over, and its outcome is delivered once. The others wait on.
-/
structure Settles (before after : Node) (outcome : PendingCall → Option CallResult) : Prop where
  calls : after.pending.calls = before.pending.calls.filter fun call => (outcome call).isNone
  deliveries : after.deliveries.Perm
    (before.deliveries ++
      before.pending.calls.filterMap fun call => (outcome call).map (Delivery.mk call.id))

section

variable {before middle after : Node} {outcome later : PendingCall → Option CallResult}

theorem Settles.congr {other : PendingCall → Option CallResult}
    (settles : before.Settles after outcome)
    (same : ∀ call ∈ before.pending.calls, outcome call = other call) :
    before.Settles after other where
  calls := by
    rw [settles.calls]
    apply List.filter_congr
    intro call waits
    rw [same call waits]
  deliveries := by
    have given :
        (before.pending.calls.filterMap fun call => (outcome call).map (Delivery.mk call.id)) =
        before.pending.calls.filterMap fun call => (other call).map (Delivery.mk call.id) := by
      apply List.filterMap_congr
      intro call waits
      rw [same call waits]
    exact given ▸ settles.deliveries

theorem Settles.quiet (settles : before.Settles middle outcome) (quiet : middle.Quiet after) :
    before.Settles after outcome where
  calls := by rw [quiet.pending, settles.calls]
  deliveries := by
    rw [quiet.deliveries]
    exact settles.deliveries

theorem Quiet.settles (quiet : before.Quiet middle) (settles : middle.Settles after outcome) :
    before.Settles after outcome where
  calls := by rw [settles.calls, quiet.pending]
  deliveries := by
    rw [← quiet.deliveries, ← quiet.pending]
    exact settles.deliveries

theorem perm_filterMap_or {Item Given : Type} (first second : Item → Option Given)
    (items : List Item) :
    (items.filterMap first ++
      (items.filter fun item => (first item).isNone).filterMap second).Perm
      (items.filterMap fun item => (first item).or (second item)) := by
  induction items with
  | nil => exact .refl []
  | cons item rest ih =>
    cases one : first item with
    | some given => simpa [one] using ih
    | none =>
      cases two : second item with
      | none => simpa [one, two] using ih
      | some given =>
        simp only [List.filterMap_cons, one, two, List.filter_cons, Option.isNone_none, if_true,
          Option.none_or]
        exact List.perm_middle.trans (ih.cons given)

theorem Settles.trans (one : before.Settles middle outcome) (other : middle.Settles after later) :
    before.Settles after fun call => (outcome call).or (later call) where
  calls := by
    rw [other.calls, one.calls, List.filter_filter]
    apply List.filter_congr
    intro call _
    cases outcome call <;> simp
  deliveries := by
    have merged := perm_filterMap_or (fun call => (outcome call).map (Delivery.mk call.id))
      (fun call => (later call).map (Delivery.mk call.id)) before.pending.calls
    simp only [Option.isNone_map, ← Option.map_or] at merged
    refine other.deliveries.trans ?_
    rw [one.calls]
    refine (one.deliveries.append_right _).trans ?_
    rw [List.append_assoc]
    exact merged.append_left before.deliveries

end

theorem settles_failWhere (node : Node) (condition : PendingCall → Bool) (error : ClusterError)
    (timeouts : Nat) :
    let (pending, deliveries) := node.pending.failWhere condition error
    node.Settles (({ node with pending := pending }.countTimeouts timeouts).deliver deliveries)
      fun call => if condition call then some (.error error) else none := by
  constructor
  case calls =>
    apply List.filter_congr
    intro call _
    cases condition call <;> rfl
  case deliveries =>
    have given : (node.pending.calls.filterMap fun call =>
        (if condition call then some (.error error) else none).map (Delivery.mk call.id)) =
        (node.pending.calls.filter condition).map fun call => ⟨call.id, .error error⟩ := by
      rw [← List.filterMap_eq_map, List.filterMap_filter]
      apply List.filterMap_congr
      intro call _
      cases condition call <;> rfl
    rw [given]
    exact .refl _

def overdue (now : Instant) (call : PendingCall) : Option CallResult :=
  if call.deadline ≤ now then some (.error .timeout) else none

theorem settles_expireCalls (node : Node) (now : Instant) :
    node.Settles (node.expireCalls now) (overdue now) := by
  have settles := node.settles_failWhere (fun call => call.deadline ≤ now) .timeout
    (node.pending.calls.filter fun call => call.deadline ≤ now).length
  change node.Settles _ fun call => if call.deadline ≤ now then some (.error .timeout) else none
  simpa [expireCalls, PendingCalls.expireOverdue, PendingCalls.failWhere] using settles

theorem settles_failAll (node : Node) (members : List MemberId) (reason : String) :
    node.Settles (members.foldl (fun node id => node.failCalls id reason) node) fun call =>
      if call.target ∈ members then some (.error (.unreachable call.target reason)) else none := by
  induction members generalizing node with
  | nil => exact ⟨by simp, by simp⟩
  | cons id rest ih =>
    have first := node.settles_failWhere (fun call => call.target = id) (.unreachable id reason) 0
    refine (first.trans (ih (node.failCalls id reason))).congr ?_
    intro call _
    by_cases same : call.target = id
    · simp [same]
    · simp [same]

end Node

end ClusterCoordination
