import Mathlib.Data.List.Nodup
import ClusterCoordination.Proofs.Calls.NodeRuns
import ClusterCoordination.Proofs.Nodes.Posting
/-!
# Calls beside one another

The callers of a node share its table and its deliveries. What one of them finds there depends on
its own call only, and what it does there touches no other, so callers that are polled one after the
other are each given what they would be given alone.
-/

set_option autoImplicit false

namespace ClusterCoordination

def Branch.callId? : Branch → Option CallId
  | .remotely call => some call.id
  | .settled _ | .locally .. | .broken => none

def callIds (branches : List (MemberId × Branch)) : List CallId :=
  branches.filterMap fun branch => branch.2.callId?

namespace Node

structure AlikeAt (id : CallId) (first second : Node) : Prop where
  delivery : second.delivery? id = first.delivery? id
  acknowledgement : second.acknowledgement? id = first.acknowledgement? id
  pending : id ∈ second.pending.ids ↔ id ∈ first.pending.ids

/-- Whoever polls anything but this call finds the same. -/
structure AlikeBut (id : CallId) (before after : Node) : Prop where
  config : after.config = before.config
  stopRequested : after.stopRequested = before.stopRequested
  others : ∀ other, other ≠ id → AlikeAt other before after

section

variable {id : CallId} {first second third : Node}

theorem AlikeAt.refl (id : CallId) (node : Node) : AlikeAt id node node := ⟨rfl, rfl, Iff.rfl⟩

theorem AlikeAt.trans (one : AlikeAt id first second) (other : AlikeAt id second third) :
    AlikeAt id first third where
  delivery := other.delivery.trans one.delivery
  acknowledgement := other.acknowledgement.trans one.acknowledgement
  pending := other.pending.trans one.pending

theorem AlikeBut.refl (id : CallId) (node : Node) : AlikeBut id node node :=
  ⟨rfl, rfl, fun other _ => .refl other node⟩

theorem AlikeBut.trans (one : AlikeBut id first second) (two : AlikeBut id second third) :
    AlikeBut id first third where
  config := two.config.trans one.config
  stopRequested := two.stopRequested.trans one.stopRequested
  others := fun other different => (one.others other different).trans (two.others other different)

theorem mem_ids_takeCall (node : Node) (id other : CallId) :
    other ∈ (node.takeCall id).1.pending.ids ↔ other ∈ node.pending.ids ∧ other ≠ id := by
  simp only [takeCall, PendingCalls.take, PendingCalls.ids, List.mem_map, List.mem_filter,
    decide_eq_true_eq]
  constructor
  · rintro ⟨call, ⟨present, different⟩, rfl⟩
    exact ⟨⟨call, present, rfl⟩, different⟩
  · rintro ⟨⟨call, present, rfl⟩, different⟩
    exact ⟨call, ⟨present, different⟩, rfl⟩

theorem alikeBut_takeCall (node : Node) (id : CallId) : AlikeBut id node (node.takeCall id).1 where
  config := rfl
  stopRequested := rfl
  others := by
    intro other different
    exact ⟨rfl, rfl, by simp [mem_ids_takeCall, different]⟩

theorem alikeBut_countTimeouts (node : Node) (id : CallId) (count : Nat) :
    AlikeBut id node (node.countTimeouts count) :=
  ⟨rfl, rfl, fun _ _ => ⟨rfl, rfl, Iff.rfl⟩⟩

theorem alikeBut_abandon (node : Node) (call : RemoteCall) :
    AlikeBut call.id node (node.abandon call) where
  config := rfl
  stopRequested := rfl
  others := by
    intro other different
    refine ⟨?_, ?_, mem_ids_takeCall node call.id other |>.trans (by simp [different])⟩
    · change (node.deliveries.filter _).find? _ = node.deliveries.find? _
      rw [List.find?_filter]
      congr 1
      funext delivery
      by_cases hit : delivery.call = other <;> simp [hit, different]
    · change (node.acknowledgements.filter _).find? _ = node.acknowledgements.find? _
      rw [List.find?_filter]
      congr 1
      funext acknowledgement
      by_cases hit : acknowledgement.receipt = .call other <;> simp [hit, different]

theorem alikeBut_conclude (node : Node) (caller : Caller) (result : CallResult) :
    AlikeBut caller.id node (node.conclude caller result).1 :=
  node.alikeBut_abandon caller.call

theorem alikeBut_look (node : Node) (now : Instant) (caller : Caller) :
    AlikeBut caller.id node (node.look now caller).1 := by
  have taken := node.alikeBut_takeCall caller.id
  unfold look
  split
  · split <;> exact .refl _ _
  · split
    next rest result =>
      rw [result] at taken
      exact taken.trans (rest.alikeBut_conclude caller _)
    next rest result => rwa [result] at taken
  · split
    · exact node.alikeBut_conclude caller _
    · exact .refl _ _
  · split
    next rest result =>
      rw [result] at taken
      exact (taken.trans (rest.alikeBut_countTimeouts _ 1)).trans (alikeBut_conclude _ caller _)
    next rest result => rwa [result] at taken
  · split
    · exact node.alikeBut_conclude caller _
    · exact node.alikeBut_conclude caller _
  · exact .refl _ _
  · exact .refl _ _
  · exact .refl _ _

theorem looks_id (now : Instant) (steps : Nat) (node : Node) (caller : Caller) :
    (looks now steps (node, caller)).2.id = caller.id := by
  induction steps generalizing node caller with
  | zero => rfl
  | succ steps ih =>
    rw [looks]
    exact (ih _ _).trans (CallWorld.look_id node now caller)

theorem alikeBut_looks (now : Instant) (steps : Nat) (node : Node) (caller : Caller) :
    AlikeBut caller.id node (looks now steps (node, caller)).1 := by
  induction steps generalizing node caller with
  | zero => exact .refl _ _
  | succ steps ih =>
    have later := ih (node.look now caller).1 (node.look now caller).2
    rw [CallWorld.look_id] at later
    exact (node.alikeBut_look now caller).trans later

theorem takeCall_snd_of_alikeAt (alike : AlikeAt id first second) :
    (second.takeCall id).2 = (first.takeCall id).2 := by
  by_cases present : id ∈ first.pending.ids
  · rw [takeCall_of_mem present, takeCall_of_mem (alike.pending.mpr present)]
  · rw [takeCall_of_not_mem present, takeCall_of_not_mem (mt alike.pending.mp present)]

theorem AlikeAt.takeCall (alike : AlikeAt id first second) :
    AlikeAt id (first.takeCall id).1 (second.takeCall id).1 where
  delivery := alike.delivery
  acknowledgement := alike.acknowledgement
  pending := by simp [mem_ids_takeCall]

theorem alikeAt_conclude (first second : Node) (caller : Caller) (result other : CallResult) :
    AlikeAt caller.id (first.conclude caller result).1 (second.conclude caller other).1 := by
  have forgotten (node : Node) (result : CallResult) :
      (node.conclude caller result).1.delivery? caller.id = none ∧
      (node.conclude caller result).1.acknowledgement? caller.id = none ∧
      caller.id ∉ (node.conclude caller result).1.pending.ids := by
    refine ⟨?_, ?_, fun present => ?_⟩
    · exact List.find?_eq_none.mpr fun delivery present same =>
        of_decide_eq_true (List.mem_filter.mp present).2 (of_decide_eq_true same)
    · exact List.find?_eq_none.mpr fun acknowledgement present same =>
        of_decide_eq_true (List.mem_filter.mp present).2 (of_decide_eq_true same)
    · exact ((mem_ids_takeCall node caller.id caller.id).mp present).2 rfl
  obtain ⟨delivery, acknowledgement, pending⟩ := forgotten first result
  obtain ⟨otherDelivery, otherAcknowledgement, otherPending⟩ := forgotten second other
  exact ⟨otherDelivery.trans delivery.symm, otherAcknowledgement.trans acknowledgement.symm,
    iff_of_false otherPending pending⟩

theorem look_of_alikeAt {caller : Caller} (alike : AlikeAt caller.id first second) (now : Instant) :
    (second.look now caller).2 = (first.look now caller).2 ∧
      AlikeAt caller.id (first.look now caller).1 (second.look now caller).1 := by
  have claimed := takeCall_snd_of_alikeAt alike
  have taken := alike.takeCall
  unfold look
  -- A look reads the acknowledgement, the delivery and the entry of its own call only.
  cases caller.point with
  | sending =>
    rw [alike.acknowledgement]
    dsimp only
    split <;> exact ⟨rfl, alike⟩
  | refused fault =>
    dsimp only
    cases one : first.takeCall caller.id with
    | mk rest here =>
      cases two : second.takeCall caller.id with
      | mk other there =>
        rw [one, two] at claimed taken
        obtain rfl : there = here := claimed
        cases there
        · exact ⟨rfl, taken⟩
        · exact ⟨rfl, alikeAt_conclude rest other caller _ _⟩
  | waiting =>
    rw [alike.delivery]
    dsimp only
    split
    · exact ⟨rfl, alikeAt_conclude first second caller _ _⟩
    · exact ⟨rfl, alike⟩
  | overdue =>
    dsimp only
    cases one : first.takeCall caller.id with
    | mk rest here =>
      cases two : second.takeCall caller.id with
      | mk other there =>
        rw [one, two] at claimed taken
        obtain rfl : there = here := claimed
        cases there
        · exact ⟨rfl, taken⟩
        · exact ⟨rfl, alikeAt_conclude _ _ caller _ _⟩
  | late =>
    rw [alike.delivery]
    dsimp only
    split <;> exact ⟨rfl, alikeAt_conclude first second caller _ _⟩
  | returned result => exact ⟨rfl, alike⟩
  | stopped result => exact ⟨rfl, alike⟩
  | dropped => exact ⟨rfl, alike⟩

theorem looks_of_alikeAt {caller : Caller} (alike : AlikeAt caller.id first second) (now : Instant)
    (steps : Nat) : (looks now steps (second, caller)).2 = (looks now steps (first, caller)).2 := by
  induction steps generalizing first second caller with
  | zero => rfl
  | succ steps ih =>
    obtain ⟨same, kept⟩ := look_of_alikeAt alike now
    have keptThere := (CallWorld.look_id first now caller).symm ▸ kept
    have next := ih keptThere
    rw [looks, looks, ← next, ← same]

end

section

variable {node : Node} {now : Instant}

theorem alikeBut_pollRemote (node : Node) (now : Instant) (call : RemoteCall) :
    AlikeBut call.id node (node.pollRemote now call).1 := by
  rw [pollRemote_eq_looks]
  exact alikeBut_looks now 5 node (.ofCall call)

theorem pollRemote_of_alikeAt {other : Node} {call : RemoteCall}
    (alike : AlikeAt call.id node other) (now : Instant) :
    (other.pollRemote now call).2 = (node.pollRemote now call).2 := by
  have same : (looks now 5 (other, .ofCall call)).2 = (looks now 5 (node, .ofCall call)).2 :=
    looks_of_alikeAt alike now 5
  rw [pollRemote_eq_looks, pollRemote_eq_looks]
  exact congrArg Caller.branch same

theorem unlessStopped_snd_congr {other : Node} (same : other.stopRequested = node.stopRequested)
    (branch : Branch) : (other.unlessStopped branch).2 = (node.unlessStopped branch).2 := by
  unfold unlessStopped
  rw [same]
  split
  · cases branch <;> rfl
  · rfl

theorem alikeBut_unlessStopped (node : Node) (call : RemoteCall) (branch : Branch)
    (own : branch.callId? = none ∨ branch.callId? = some call.id) :
    AlikeBut call.id node (node.unlessStopped branch).1 := by
  unfold unlessStopped
  split
  · cases branch with
    | remotely found =>
      obtain same : found.id = call.id := by simpa [Branch.callId?] using own
      exact same ▸ node.alikeBut_abandon found
    | settled | locally | broken => exact .refl _ _
  · exact .refl _ _

theorem Caller.branch_callId? (caller : Caller) :
    caller.branch.callId? = none ∨ caller.branch.callId? = some caller.id := by
  unfold Caller.branch
  cases caller.point <;> simp [Branch.callId?, Caller.call]

theorem pollRemote_callId? (node : Node) (now : Instant) (call : RemoteCall) :
    (node.pollRemote now call).2.callId? = none ∨
      (node.pollRemote now call).2.callId? = some call.id := by
  rw [pollRemote_eq_looks]
  have branch := Caller.branch_callId? (looks now 5 (node, .ofCall call)).2
  rwa [looks_id] at branch

theorem pollBranch_of_no_call {branch : Branch} (here : branch.callId? = none) :
    (node.pollBranch now branch).1 = node := by
  cases branch with
  | settled result => rfl
  | broken => rfl
  | locally due deadline ending =>
    unfold pollBranch unlessStopped
    dsimp only
    repeat' split
    all_goals rfl
  | remotely call => simp [Branch.callId?] at here

theorem pollBranch_callId? (node : Node) (now : Instant) (branch : Branch) :
    (node.pollBranch now branch).2.callId? = none ∨
      (node.pollBranch now branch).2.callId? = branch.callId? := by
  have stopped (node : Node) (branch : Branch) : (node.unlessStopped branch).2.callId? = none ∨
      (node.unlessStopped branch).2.callId? = branch.callId? := by
    unfold unlessStopped
    split
    · cases branch with
      | locally | remotely => exact .inl rfl
      | settled | broken => exact .inr rfl
    · exact .inr rfl
  cases branch with
  | settled | broken => exact .inr rfl
  | locally due deadline ending =>
    unfold pollBranch
    dsimp only
    split
    · split <;> exact .inl rfl
    · split
      · exact .inl rfl
      · exact stopped node _
  | remotely call =>
    rcases stopped (node.pollRemote now call).1 (node.pollRemote now call).2 with none | same
    · exact .inl none
    · rcases node.pollRemote_callId? now call with none | own
      · exact .inl (same.trans none)
      · exact .inr (same.trans own)

theorem alikeBut_pollBranch (node : Node) (now : Instant) {branch : Branch} {id : CallId}
    (own : branch.callId? = some id) : AlikeBut id node (node.pollBranch now branch).1 := by
  cases branch with
  | settled | locally | broken => simp [Branch.callId?] at own
  | remotely call =>
    obtain rfl : call.id = id := by simpa [Branch.callId?] using own
    exact (node.alikeBut_pollRemote now call).trans
      (alikeBut_unlessStopped _ call _ (node.pollRemote_callId? now call))

theorem pollBranch_of_alikeBut {other : Node} {id : CallId} (alike : AlikeBut id node other)
    {branch : Branch} (apart : branch.callId? ≠ some id) :
    (other.pollBranch now branch).2 = (node.pollBranch now branch).2 := by
  cases branch with
  | settled result => rfl
  | broken => rfl
  | locally due deadline ending =>
    have named : other.id = node.id := congrArg Config.id alike.config
    unfold pollBranch
    dsimp only
    rw [named]
    split
    · split <;> rfl
    · split
      · rfl
      · exact unlessStopped_snd_congr alike.stopRequested _
  | remotely call =>
    have different : call.id ≠ id := fun same => apart (congrArg some same)
    have same := pollRemote_of_alikeAt (alike.others call.id different) now
    have here := (node.alikeBut_pollRemote now call).stopRequested
    have there := (other.alikeBut_pollRemote now call).stopRequested
    unfold pollBranch
    dsimp only
    rw [same]
    exact unlessStopped_snd_congr (there.trans (alike.stopRequested.trans here.symm)) _

theorem pollBranches_eq_map (node : Node) (now : Instant) {branches : List (MemberId × Branch)}
    (apart : (callIds branches).Nodup) :
    (pollBranches now branches node).2 =
      branches.map fun branch => (branch.1, (node.pollBranch now branch.2).2) := by
  induction branches generalizing node with
  | nil => rfl
  | cons first rest ih =>
    obtain ⟨target, branch⟩ := first
    have spread : callIds ((target, branch) :: rest) = branch.callId?.toList ++ callIds rest := by
      unfold callIds
      cases here : branch.callId? <;> simp [here]
    rw [spread] at apart
    have others := ih (node.pollBranch now branch).1 (List.nodup_append.mp apart).2.1
    rw [List.map_cons]
    change (target, (node.pollBranch now branch).2) ::
      (pollBranches now rest (node.pollBranch now branch).1).2 = _
    rw [others]
    congr 1
    apply List.map_congr_left
    rintro ⟨name, other⟩ present
    congr 1
    -- The first poll leaves the node as it was for all calls but its own, and no other branch has
    -- that one.
    cases named : branch.callId? with
    | none => rw [pollBranch_of_no_call named]
    | some id =>
      refine pollBranch_of_alikeBut (node.alikeBut_pollBranch now named) ?_
      intro same
      have listed : id ∈ callIds rest := List.mem_filterMap.mpr ⟨(name, other), present, same⟩
      rw [named] at apart
      exact (List.nodup_append.mp apart).2.2 id (by simp) id listed rfl

end

end Node

end ClusterCoordination
