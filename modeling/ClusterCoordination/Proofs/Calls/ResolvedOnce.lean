import ClusterCoordination.Proofs.Calls.CallInvariant
/-!
# A remote call is resolved once

Whatever happens to a call, one claimant removes it from the table, and its caller is given the
outcome of that claimant.
-/

set_option autoImplicit false

namespace ClusterCoordination

namespace CallWorld

section

variable {world : CallWorld}

theorem awaitOutcome_at_deadline {node : Node} {now : Instant} {call : RemoteCall}
    (due : call.deadline ≤ now) : ∃ result, (node.awaitOutcome now call).2 = .settled result := by
  have late : ¬ now < call.deadline := Nat.not_lt.mpr due
  unfold Node.awaitOutcome
  split
  · exact ⟨_, rfl⟩
  · rw [if_neg late]
    split <;> exact ⟨_, rfl⟩

theorem Delivered.delivery? {id : CallId} {result : CallResult}
    (delivered : world.Delivered id result) :
    world.node.delivery? id = some ⟨id, result⟩ := by
  cases found : world.node.delivery? id with
  | none => exact absurd rfl (Node.delivery?_eq_none found _ delivered.1)
  | some delivery =>
    have outcome := delivered.result_eq found
    obtain ⟨_, same⟩ := Node.delivery?_eq_some found
    cases delivery
    simp_all

theorem poll_of_claimed {caller : Caller} {claim : Claim} (claimed : world.Claimed caller claim)
    (waits : caller.point = .waiting ∨ caller.point = .sending ∧
      (caller.deadline ≤ world.now ∨ (world.node.acknowledgement? caller.id).isSome)) :
    ∃ result, claim.claimant.result caller.target = some result ∧
      (world.node.pollRemote world.now caller.call).2 = .settled result := by
  have active : caller.point.isOver = false := by
    rcases waits with point | ⟨point, _⟩ <;> rw [point] <;> rfl
  obtain ⟨result, outcome, delivered⟩ := claimed.waits active
  refine ⟨result, outcome, Node.pollRemote_of_delivery delivered.delivery? claimed.gone ?_⟩
  rcases waits with point | ⟨_, ready⟩
  · left
    simp [Caller.call, Caller.stage, point]
  · exact .inr ready

theorem poll_at_deadline {caller : Caller} (due : caller.deadline ≤ world.now) :
    ∃ result, (world.node.pollRemote world.now caller.call).2 = .settled result := by
  have late : ¬ world.now < caller.call.deadline := Nat.not_lt.mpr due
  unfold Node.pollRemote
  split
  · exact awaitOutcome_at_deadline due
  · split
    · rw [if_neg late]
      exact awaitOutcome_at_deadline due
    · exact awaitOutcome_at_deadline due
    · split
      · exact ⟨_, rfl⟩
      · exact awaitOutcome_at_deadline due

theorem outstanding_of_pending {config : Config} (reached : Reachable config world) {id : CallId}
    (pending : id ∈ world.node.pending.ids) :
    ∃ caller, world.callers id = some caller ∧ caller.id = id ∧ world.Outstanding caller := by
  have sound := sound_of_reachable reached
  obtain ⟨call, listed, rfl⟩ := List.mem_map.mp pending
  obtain ⟨caller, known, _⟩ := sound.owned call listed
  obtain ⟨identity, _⟩ := sound.numbered call.id caller known
  rcases sound.resolving call.id caller known with outstanding | ⟨claim, claimed⟩
  · exact ⟨caller, known, identity, outstanding⟩
  · exact absurd (identity ▸ pending) claimed.gone

theorem undelivered_of_pending {config : Config} (reached : Reachable config world) {id : CallId}
    (pending : id ∈ world.node.pending.ids) : world.node.delivery? id = none := by
  obtain ⟨caller, -, rfl, outstanding⟩ := outstanding_of_pending reached pending
  unfold Node.delivery?
  rw [List.find?_eq_none]
  simpa using outstanding.undelivered

/--
In every run a call is in the table until one claimant removes it, and no second one does. What its
caller returns is what that claimant means to it. A timeout never comes before the deadline, and
each is counted once.
-/
theorem call_resolves_once {config : Config} (reached : Reachable config world) :
    (∀ id caller, world.callers id = some caller →
      (id ∈ world.node.pending.ids → world.claimsOn id = []) ∧
      (id ∉ world.node.pending.ids → ∃ claim, world.claimsOn id = [claim] ∧
        (claim.claimant.timesOut = true → caller.deadline ≤ claim.time ∧ claim.time ≤ world.now) ∧
        (∀ result, caller.point = .returned result →
          claim.claimant.result caller.target = some result) ∧
        (caller.point = .waiting ∨ caller.point = .sending ∧
            (caller.deadline ≤ world.now ∨ (world.node.acknowledgement? id).isSome) →
          ∃ result, claim.claimant.result caller.target = some result ∧
            (world.node.pollRemote world.now caller.call).2 = .settled result)) ∧
      (∀ result, caller.point = .stopped result → result = .error .cancelled) ∧
      (caller.point.isOver = true → id ∉ world.node.pending.ids) ∧
      (caller.deadline ≤ world.now →
        ∃ result, (world.node.pollRemote world.now caller.call).2 = .settled result)) ∧
    world.node.traffic.timedOut =
      (world.claims.filter fun claim => claim.claimant.timesOut).length := by
  have sound := sound_of_reachable reached
  refine ⟨?_, sound.timedOut⟩
  intro id caller known
  obtain ⟨rfl, _⟩ := sound.numbered id caller known
  rcases sound.resolving _ caller known with outstanding | ⟨claim, claimed⟩
  · have unfinished : ¬ caller.point.isOver = true := by simp [outstanding.active]
    refine ⟨fun _ => outstanding.unclaimed, fun gone => absurd outstanding.pending gone, ?_,
      fun finished => absurd finished unfinished, poll_at_deadline⟩
    intro result point
    exact absurd (by rw [point]; rfl) unfinished
  · refine ⟨fun pending => absurd pending claimed.gone, ?_, ?_, fun _ => claimed.gone,
      poll_at_deadline⟩
    · intro _
      refine ⟨claim, claimed.once, ?_, ?_, poll_of_claimed claimed⟩
      · intro timesOut
        exact ⟨claimed.punctual timesOut, claimed.past⟩
      · intro result point
        have fits := claimed.fits (by rw [point]; rfl)
        rwa [point] at fits
    · intro result point
      have fits := claimed.fits (by rw [point]; rfl)
      rwa [point] at fits

end

/-- The failure detector expires the call before its caller looks at the clock. -/
theorem overdue_call_counts_once :
    ∃ world, Reachable (.new "cluster" ⟨"a"⟩ .unspecified .unspecified []) world ∧
      (world.claims.filter fun claim => claim.claimant.timesOut).length = 1 ∧
      ∃ caller, world.callers 0 = some caller ∧
        ∃ result, (world.node.pollRemote world.now caller.call).2 = .settled result := by
  let config : Config := .new "cluster" ⟨"a"⟩ .unspecified .unspecified []
  let target : Member := .new ⟨"b"⟩ "" .unspecified
  let request : CallRequest := ⟨"calculator", "add", .empty⟩
  have written : ((Node.new config).beginRemote ⟨0, 0⟩ target request 0).2.wake = some 0 := by
    decide +kernel
  have fresh : Reachable config (start config) := .start
  rcases (Node.new config).beginRemote_cases ⟨0, 0⟩ target request 0 with
    ⟨issued, begins, pending, _, timedOut⟩ | ⟨_, _, fails, _⟩
  · have begun := fresh.next (.begin ⟨0, 0⟩ rfl target request 0 (by decide) begins)
    have expired := begun.next (.expire 0 (Nat.le_refl _))
    refine ⟨_, expired, ?_, ?_⟩
    · rw [← (call_resolves_once expired).2]
      refine (issued.expireCalls_resolves 0).timedOut.trans ?_
      rw [timedOut, pending]
      rfl
    · exact ⟨_, rfl, ((call_resolves_once expired).1 0 _ rfl).2.2.2.2 (Nat.le_refl _)⟩
  · rw [fails] at written
    simp [Branch.wake] at written

end CallWorld

end ClusterCoordination
