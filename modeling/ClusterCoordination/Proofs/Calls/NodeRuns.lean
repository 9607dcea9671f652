import ClusterCoordination.Node.Starting
import ClusterCoordination.Proofs.Calls.CallInvariant
import ClusterCoordination.Proofs.Nodes.Mailing
/-!
# What a node does, as steps of a run

Receiving a datagram, a round of the failure detector, the end of a node and a look of a caller are
nothing but steps of a run, one after the other.
-/

set_option autoImplicit false

namespace ClusterCoordination

namespace Node

theorem Quiet.refl (node : Node) : node.Quiet node := ⟨rfl, rfl, rfl⟩

theorem Quiet.trans {first second third : Node} (one : first.Quiet second)
    (other : second.Quiet third) : first.Quiet third where
  pending := other.pending.trans one.pending
  deliveries := other.deliveries.trans one.deliveries
  timedOut := other.timedOut.trans one.timedOut

theorem Mails.quiet {before after : Node} (mails : before.Mails after) : before.Quiet after := by
  obtain ⟨_, _, _, _, rfl⟩ := mails
  exact ⟨rfl, rfl, rfl⟩

theorem quiet_join (node : Node) (now : Instant) (member : Member) :
    node.Quiet (node.join now member) :=
  ⟨rfl, rfl, rfl⟩

theorem quiet_hear (node : Node) (now : Instant) (member : Member) :
    node.Quiet (node.hear now member) := by
  unfold hear
  split <;> exact ⟨rfl, rfl, rfl⟩

theorem quiet_onMessage (node : Node) (message : InboundMessage) :
    node.Quiet (node.onMessage message) := by
  unfold onMessage
  simp only
  split <;> exact ⟨rfl, rfl, rfl⟩

end Node

namespace CallWorld

variable {config : Config} {world : CallWorld}

/-- The run can go on until the node is as given, with no caller involved and no time passing. -/
def CanBecome (config : Config) (world : CallWorld) (node : Node) : Prop :=
  ∃ claims, Reachable config { world with node := node, claims := world.claims ++ claims }

theorem canBecome_self (reached : Reachable config world) : world.CanBecome config world.node :=
  ⟨[], by simpa using reached⟩

section

variable {node : Node}

theorem CanBecome.quiet (can : world.CanBecome config node) {after : Node}
    (quiet : node.Quiet after) : world.CanBecome config after := by
  obtain ⟨earlier, reached⟩ := can
  exact ⟨earlier, reached.next (.elsewhere after quiet)⟩

theorem CanBecome.turn (can : world.CanBecome config node) {after : Node} (claimant : Claimant)
    (step : ∀ current : CallWorld, current.node = node → current.now = world.now →
      Step current (current.turn after claimant)) : world.CanBecome config after := by
  obtain ⟨earlier, reached⟩ := can
  refine ⟨earlier ++ (node.pending.removed after.pending).map fun id => ⟨id, claimant, world.now⟩,
    ?_⟩
  rw [← List.append_assoc]
  exact reached.next (step _ rfl rfl)

theorem CanBecome.respond (can : world.CanBecome config node) (sender : MemberId)
    (response : Response) : world.CanBecome config (node.onResponse sender response) := by
  apply can.turn (.response sender response.outcome)
  rintro current rfl _
  exact .respond sender response

theorem CanBecome.leave (can : world.CanBecome config node) (target : MemberId) :
    world.CanBecome config (node.failCalls target Node.leftReason) := by
  apply can.turn .farewell
  rintro current rfl _
  exact .leave target

theorem CanBecome.die (can : world.CanBecome config node) (target : MemberId) :
    world.CanBecome config (node.failCalls target Node.silentReason) := by
  apply can.turn .death
  rintro current rfl _
  exact .die target

theorem CanBecome.expire (can : world.CanBecome config node) {moment : Instant}
    (past : moment ≤ world.now) : world.CanBecome config (node.expireCalls moment) := by
  apply can.turn .expiry
  rintro current rfl now
  exact .expire moment (now ▸ past)

theorem CanBecome.cancel (can : world.CanBecome config node) :
    world.CanBecome config node.cancelCalls := by
  apply can.turn .cancellation
  rintro current rfl _
  exact .cancel

end

theorem canBecome_receive (reached : Reachable config world) (choice : PeerChoice) (now : Instant)
    (data : Bytes) : world.CanBecome config (world.node.receive choice now data) := by
  have still := canBecome_self reached
  unfold Node.receive
  split
  · exact still
  · simp only
    split
    next frame _ =>
      unfold Node.onControl
      split
      · exact still
      · unfold Node.onControlFrame
        simp only
        split
        · refine still.quiet (.trans ?_ (Node.mails_discover _ _ _).quiet)
          exact (Node.quiet_join _ now _).trans (Node.mails_sendControl _ _ _ _).quiet
        · exact still.quiet ((Node.quiet_hear _ now _).trans (Node.mails_discover _ choice _).quiet)
        · unfold Node.bidFarewell
          -- The roster and the queue are no concern of calls; what fails them is the farewell.
          have left : world.CanBecome config
              { world.node with roster := (world.node.roster.leave now frame.member.id).1 } :=
            still.quiet ⟨rfl, rfl, rfl⟩
          exact (left.leave frame.member.id).quiet ⟨rfl, rfl, rfl⟩
    · exact still.quiet ⟨rfl, rfl, rfl⟩
    next response _ => exact still.respond _ response
    · exact still.quiet (Node.quiet_onMessage _ _)
    · exact still

theorem canBecome_markDead (reached : Reachable config world) (now : Instant) :
    world.CanBecome config (world.node.markDead now) := by
  have fold (dead : List MemberId) (node : Node) (can : world.CanBecome config node) :
      world.CanBecome config
        (dead.foldl (fun node id => node.failCalls id Node.silentReason) node) := by
    induction dead generalizing node with
    | nil => exact can
    | cons id rest ih => exact ih _ (can.die id)
  apply fold
  exact (canBecome_self reached).quiet ⟨rfl, rfl, rfl⟩

theorem canBecome_detectionRound (reached : Reachable config world) {now : Instant}
    (past : now ≤ world.now) : world.CanBecome config (world.node.detectionRound now) := by
  have purged : world.CanBecome config (((world.node.markDead now).purge now).dropQueues) :=
    (canBecome_markDead reached now).quiet ⟨rfl, rfl, rfl⟩
  exact (purged.expire past).quiet ⟨rfl, rfl, rfl⟩

theorem canBecome_finishStop (reached : Reachable config world) (now : Instant) :
    world.CanBecome config (world.node.finishStop now) := by
  have left : world.CanBecome config
      { world.node with roster := (world.node.roster.leave now world.node.id).1 } :=
    (canBecome_self reached).quiet ⟨rfl, rfl, rfl⟩
  exact left.cancel.quiet ⟨rfl, rfl, rfl⟩

theorem look_id (node : Node) (now : Instant) (caller : Caller) :
    (node.look now caller).2.id = caller.id := by
  unfold Node.look
  split
  · split
    · rfl
    · rfl
    · simp only
      split <;> rfl
  · split <;> rfl
  · split
    · rfl
    · simp only
      split <;> rfl
  · split <;> rfl
  · split <;> rfl
  · rfl
  · rfl
  · rfl

def look (world : CallWorld) (id : CallId) : CallWorld :=
  match world.callers id with
  | none => world
  | some caller =>
    (world.turn (world.node.look world.now caller).1 caller.point.claimant).follow
      (world.node.look world.now caller).2

def looks : Nat → CallId → CallWorld → CallWorld
  | 0, _, world => world
  | steps + 1, id, world => looks steps id (world.look id)

theorem reachable_look (reached : Reachable config world) (id : CallId) :
    Reachable config (world.look id) := by
  unfold look
  split
  · exact reached
  next known => exact reached.next (.look known)

theorem reachable_looks (reached : Reachable config world) (steps : Nat) (id : CallId) :
    Reachable config (world.looks steps id) := by
  induction steps generalizing world with
  | zero => exact reached
  | succ steps ih => exact ih (reachable_look reached id)

theorem looks_of_known (steps : Nat) {caller : Caller}
    (known : world.callers caller.id = some caller) :
    (world.looks steps caller.id).now = world.now ∧
      (world.looks steps caller.id).begun = world.begun ∧
      (world.looks steps caller.id).node = (Node.looks world.now steps (world.node, caller)).1 ∧
      (world.looks steps caller.id).callers caller.id =
        some (Node.looks world.now steps (world.node, caller)).2 ∧
      ∀ other, other ≠ caller.id →
        (world.looks steps caller.id).callers other = world.callers other := by
  induction steps generalizing world caller with
  | zero => exact ⟨rfl, rfl, rfl, known, fun _ _ => rfl⟩
  | succ steps ih =>
    have same := look_id world.node world.now caller
    have looked : world.look caller.id =
        (world.turn (world.node.look world.now caller).1 caller.point.claimant).follow
          (world.node.look world.now caller).2 := by
      simp only [look, known]
    have moved : (world.look caller.id).callers (world.node.look world.now caller).2.id =
        some (world.node.look world.now caller).2 := by
      rw [looked]
      exact if_pos rfl
    obtain ⟨now, begun, node, found, others⟩ := ih moved
    rw [same] at now begun node found others
    have kept : ∀ other, other ≠ caller.id →
        (world.look caller.id).callers other = world.callers other := by
      intro other different
      rw [looked]
      exact if_neg (same ▸ different)
    have time : (world.look caller.id).now = world.now := by rw [looked]; rfl
    have number : (world.look caller.id).begun = world.begun := by rw [looked]; rfl
    have stands : (world.look caller.id).node = (world.node.look world.now caller).1 := by
      rw [looked]; rfl
    rw [time, stands] at node found
    exact ⟨now.trans time, begun.trans number, node, found, fun other different =>
      (others other different).trans (kept other different)⟩

theorem reachable_pollRemote (reached : Reachable config world) {id : CallId} {caller : Caller}
    (known : world.callers id = some caller)
    (waits : caller.point = .sending ∨ caller.point = .waiting) :
    ∃ after found, Reachable config after ∧ after.now = world.now ∧ after.callers id = some found ∧
      world.node.pollRemote world.now caller.call = (after.node, found.branch) := by
  obtain ⟨rfl, _⟩ := (sound_of_reachable reached).numbered id caller known
  have shown : Caller.ofCall caller.call = caller := by
    obtain ⟨id, target, deadline, point⟩ := caller
    rcases waits with rfl | rfl <;> rfl
  obtain ⟨now, -, node, found, -⟩ := looks_of_known 5 known
  refine ⟨_, _, reachable_looks reached 5 caller.id, now, found, ?_⟩
  rw [Node.pollRemote_eq_looks, shown, node]

end CallWorld

end ClusterCoordination
