import ClusterCoordination.Proofs.Calls.NodeRuns
import ClusterCoordination.Proofs.Nodes.Running
/-!
# What a node does to its calls

Most of what a node does leaves the table of pending calls alone. Callers take calls from it, and
what they add to it are calls to other members that are alive.
-/

set_option autoImplicit false

namespace ClusterCoordination

namespace Node

section

variable (node : Node)

theorem quiet_handleMessages (now : Instant) : node.Quiet (node.handleMessages now).1 := by
  obtain ⟨_, _, _, _, handled⟩ := node.handleMessages_eq now
  rw [handled]
  exact ⟨rfl, rfl, rfl⟩

theorem quiet_answer (served : ServedRequest) (outcome : Except Status Bytes) :
    node.Quiet (node.answer served outcome) := by
  have counted : node.Quiet (node.forgetRequest served.id).countServed := ⟨rfl, rfl, rfl⟩
  unfold answer
  dsimp only
  split
  · exact counted.trans (mails_push _ _ _).quiet
  · exact counted

theorem quiet_work (now : Instant) (served : ServedRequest) (due deadline : Instant)
    (ending : Ending) : node.Quiet (node.work now served due deadline ending) := by
  unfold work
  split
  · split
    · exact node.quiet_answer served _
    · exact ⟨rfl, rfl, rfl⟩
  · split <;> exact ⟨rfl, rfl, rfl⟩

theorem quiet_serve (clock : Clock) (request : RequestId) :
    node.Quiet (node.serve clock request) := by
  unfold serve
  split
  · exact .refl node
  · split
    · exact ⟨rfl, rfl, rfl⟩
    · split
      · unfold beginServing
        split
        · exact ⟨rfl, rfl, rfl⟩
        · split
          · exact node.quiet_answer _ _
          · exact node.quiet_work _ _ _ _ _
      · exact node.quiet_work _ _ _ _ _

theorem quiet_beginStop {choice : PeerChoice} {after : Node}
    (stopping : node.beginStop choice = .ok after) : node.Quiet after := by
  have noted : node.Quiet { node with lifecycle := .stopping, stopRequested := true } :=
    ⟨rfl, rfl, rfl⟩
  exact noted.trans (mails_beginStop stopping).quiet

theorem quiet_finishStart (choice : PeerChoice) (now : Instant) (socket : SocketId) :
    node.Quiet (node.finishStart choice now socket) := by
  unfold finishStart
  dsimp only
  have joined : node.Quiet
      ({ node with socket := some socket, seeds := node.config.seedAddresses }.join now
        node.config.member) := ⟨rfl, rfl, rfl⟩
  exact (joined.trans (mails_sendJoins _ choice _).quiet).trans ⟨rfl, rfl, rfl⟩

theorem quiet_sent (drain : DrainId) (result : Except NetworkFault Unit) :
    node.Quiet (node.sent drain result) := by
  obtain ⟨_, _, _, sent⟩ := node.sent_eq drain result
  rw [sent]
  exact ⟨rfl, rfl, rfl⟩

end

theorem quiet_orStay {Answer : Type} {node : Node} {result : Except ClusterError (Node × Answer)}
    (quiet : ∀ after answer, result = .ok (after, answer) → node.Quiet after) :
    node.Quiet (node.orStay result) := by
  unfold orStay
  split
  next after answer => exact quiet after answer rfl
  next => exact .refl node

theorem quiet_whenRunning {Answer : Type} {node changed : Node} {answer : Answer}
    (quiet : node.Quiet changed) :
    node.Quiet (node.orStay (node.whenRunning (changed, answer))) := by
  apply quiet_orStay
  intro after answer running
  unfold whenRunning at running
  split at running
  · simp only [Except.ok.injEq, Prod.mk.injEq] at running
    exact running.1 ▸ quiet
  · simp at running

theorem Quiet.subset {before after : Node} (quiet : before.Quiet after) :
    after.pending.calls ⊆ before.pending.calls := by
  rw [quiet.pending]
  exact List.Subset.refl _

theorem takeCall_subset (node : Node) (id : CallId) :
    (node.takeCall id).1.pending.calls ⊆ node.pending.calls :=
  List.filter_subset_self _

theorem Polls.subset {before after : Node} (polls : before.Polls after) :
    after.pending.calls ⊆ before.pending.calls := by
  induction polls with
  | refl => exact List.Subset.refl _
  | take _ id ih => exact List.Subset.trans (takeCall_subset _ id) ih
  | count _ _ ih => exact ih
  | abandon _ call ih => exact List.Subset.trans (takeCall_subset _ call.id) ih

def CallsTheLiving (before after : Node) : Prop :=
  ∀ call ∈ after.pending.calls, call ∈ before.pending.calls ∨
    call.target ≠ before.id ∧ before.registry.isAlive call.target = true

section

variable {first second third : Node}

theorem callsTheLiving_of_subset (subset : second.pending.calls ⊆ first.pending.calls) :
    first.CallsTheLiving second :=
  fun _ waits => .inl (subset waits)

theorem Quiet.callsTheLiving (quiet : first.Quiet second) : first.CallsTheLiving second :=
  callsTheLiving_of_subset quiet.subset

theorem CallsTheLiving.trans (one : first.CallsTheLiving second) (utters : first.Utters second)
    (other : second.CallsTheLiving third) : first.CallsTheLiving third := by
  intro call waits
  rcases other call waits with older | living
  · exact one call older
  · rw [Node.id, utters.config, utters.registry] at living
    exact .inr living

end

theorem aliveMember_eq_ok {node : Node} {id : MemberId} {member : Member}
    (alive : node.aliveMember id = .ok member) :
    member.id = id ∧ node.registry.isAlive id = true := by
  unfold aliveMember at alive
  split at alive
  next known found =>
    split at alive
    next lives =>
      obtain rfl := Except.ok.inj alive
      obtain ⟨record, present, rfl⟩ := Option.map_eq_some_iff.mp found
      exact ⟨(Registry.record?_eq_some present).2, by simp [Registry.isAlive, found, lives]⟩
    next => simp at alive
  next => simp at alive

theorem beginRemote_calls (node : Node) (clock : Clock) (target : Member) (request : CallRequest)
    (timeout : Duration) :
    ∀ call ∈ (node.beginRemote clock target request timeout).1.pending.calls,
      call ∈ node.pending.calls ∨ call.target = target.id := by
  intro call waits
  have registered (waits : call ∈
      (node.registerCall target.id (clock.now + timeout)).1.pending.calls) :
      call ∈ node.pending.calls ∨ call.target = target.id := by
    rcases List.mem_cons.mp waits with rfl | older
    · exact .inr rfl
    · exact .inl older
  rcases node.beginRemote_cases clock target request timeout with
    ⟨issued, begins, pending, -, -⟩ | ⟨after, reason, begins, concludes⟩
  · rw [begins, pending] at waits
    exact registered waits
  · rw [begins, concludes.calls] at waits
    exact registered (List.mem_of_mem_filter waits)

theorem Places.callsTheLiving {before after : Node} (places : before.Places after) :
    before.CallsTheLiving after := by
  induction places with
  | refl => exact (Quiet.refl before).callsTheLiving
  | polls placed polled ih =>
    exact ih.trans placed.notifies.utters (callsTheLiving_of_subset polled.subset)
  | @remote node id member placed other alive clock request timeout ih =>
    refine ih.trans placed.notifies.utters ?_
    obtain ⟨rfl, lives⟩ := aliveMember_eq_ok alive
    intro call waits
    rcases node.beginRemote_calls clock member request timeout call waits with older | fresh
    · exact .inl older
    · exact .inr ⟨fresh ▸ other, fresh ▸ lives⟩

theorem receive_subset (node : Node) (choice : PeerChoice) (now : Instant) (data : Bytes) :
    (node.receive choice now data).pending.calls ⊆ node.pending.calls := by
  unfold receive
  split
  · exact List.Subset.refl _
  · dsimp only
    split
    · unfold onControl
      split
      · exact List.Subset.refl _
      · unfold onControlFrame
        dsimp only
        split
        · exact (((node.quiet_join now _).trans (mails_sendControl _ _ _ _).quiet).trans
            (mails_discover _ _ _).quiet).subset
        · exact ((node.quiet_hear now _).trans (mails_discover _ choice _).quiet).subset
        · exact List.filter_subset_self _
    · exact List.Subset.refl _
    next response _ =>
      rw [(node.onResponse_resolves _ response).calls]
      exact List.filter_subset_self _
    · exact (node.quiet_onMessage _).subset
    · exact List.Subset.refl _

theorem act_calls (node : Node) {action : Action} (other : ∀ now, action ≠ .detect now) :
    node.CallsTheLiving (node.act action) := by
  cases action with
  | detect now => exact absurd rfl (other now)
  | call clock targets request timeout =>
    simp only [act, beginCall]
    split
    next => exact (Quiet.refl node).callsTheLiving
    next => exact (node.places_beginBranches clock request _ targets).callsTheLiving
  | poll now branches =>
    exact callsTheLiving_of_subset (node.polls_pollBranches now branches).subset
  | abandon branches => exact callsTheLiving_of_subset (node.polls_abandonBranches branches).subset
  | beat choice => exact (node.mails_heartbeatRound choice).quiet.callsTheLiving
  | handle now => exact (node.quiet_handleMessages now).callsTheLiving
  | serve clock request => exact (node.quiet_serve clock request).callsTheLiving
  | message scope payload target =>
    exact (quiet_orStay fun _ _ sent => (mails_sendMessage sent).quiet).callsTheLiving
  | registerHandler scope handler =>
    simp only [act, Node.registerHandler]
    exact Quiet.callsTheLiving (quiet_whenRunning ⟨rfl, rfl, rfl⟩)
  | deregisterHandler scope =>
    simp only [act, Node.deregisterHandler]
    exact Quiet.callsTheLiving (quiet_whenRunning ⟨rfl, rfl, rfl⟩)
  | registerDispatcher targetType dispatcher =>
    simp only [act, Node.registerDispatcher]
    exact Quiet.callsTheLiving (quiet_whenRunning ⟨rfl, rfl, rfl⟩)
  | addService service =>
    simp only [act, Node.addService]
    exact Quiet.callsTheLiving (quiet_whenRunning ⟨rfl, rfl, rfl⟩)
  | beginStop choice =>
    simp only [act]
    cases stopped : node.beginStop choice with
    | error fault => exact (Quiet.refl node).callsTheLiving
    | ok after => exact (node.quiet_beginStop stopped).callsTheLiving

end Node

end ClusterCoordination
