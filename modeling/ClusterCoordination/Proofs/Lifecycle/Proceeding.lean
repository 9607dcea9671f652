import ClusterCoordination.Proofs.Calls.CallFootprint
import ClusterCoordination.Proofs.Nodes.Messages
/-!
# What a node does besides starting and stopping

From its start on, and long after it has stopped, a node takes in datagrams, looks for the silent,
serves requests and settles calls. None of this moves it on in its lifecycle, tells anyone that it
leaves or touches the record of the local member, and only what it is asked while it runs makes new
calls.
-/

set_option autoImplicit false

namespace ClusterCoordination

def Registry.Operation.Foreign (localId : MemberId) (operation : Registry.Operation) : Prop :=
  operation.Sweeps ∨ ∃ member, member.id ≠ localId ∧ operation.Concerns member

theorem Registry.Operation.Foreign.spares_local {localId : MemberId}
    {operation : Registry.Operation} (foreign : operation.Foreign localId) {record : MemberRecord}
    (own : record.member.id = localId) (place : Nat) :
    operation.onRecord localId place localId (some record) = some record := by
  rcases foreign with sweeps | ⟨member, other, concerns⟩
  · exact sweeps.spares_local own
  · exact concerns.spares (Ne.symm other) _

def bidsFarewell (data : Bytes) : Bool :=
  (ControlFrame.read? data).any fun frame => frame.kind = .leave

namespace Node

theorem bidsFarewell_of_controlDatagram {node : Node} {sample : PeerSample} {kind : ControlKind}
    {data : Bytes} (made : node.controlDatagram sample kind = .ok data) :
    bidsFarewell data = decide (kind = .leave) := by
  rw [bidsFarewell, read?_controlDatagram made]
  rfl

theorem Signals.stays {config : Config} {registry : Registry} {data : Bytes}
    (signals : Signals config registry data) : bidsFarewell data = false := by
  obtain ⟨speaker, -, -, ⟨choice, kind, staying, made⟩ | ⟨scope, payload, internal, made⟩⟩ :=
    signals
  · rw [bidsFarewell_of_controlDatagram made]
    exact decide_eq_false staying
  · have other : scope ≠ RawScope.control := by rcases internal with rfl | rfl <;> decide
    rw [bidsFarewell, read?_of_other other made]
    rfl

/--
The node stays where it is in its lifecycle, does nothing to the local member and bids nobody
farewell. Unless it runs, its calls only become fewer.
-/
structure Proceeds (before after : Node) : Prop extends
    Does (Registry.Operation.Foreign before.id) (fun _ data => bidsFarewell data = false)
      before after where
  lifecycle : after.lifecycle = before.lifecycle
  stopRequested : after.stopRequested = before.stopRequested
  calls : before.lifecycle ≠ .running → after.pending.calls ⊆ before.pending.calls

section

variable {first second third : Node}

theorem Proceeds.refl (node : Node) : node.Proceeds node where
  toDoes := (Sends.refl node).does
  lifecycle := rfl
  stopRequested := rfl
  calls := fun _ _ among => among

theorem Posts.proceeds {permits : SocketAddress → Bytes → Prop} (posts : Posts permits first second)
    (staying : ∀ address data, permits address data → bidsFarewell data = false)
    (calls : first.lifecycle ≠ .running → second.pending.calls ⊆ first.pending.calls) :
    first.Proceeds second where
  toDoes := (posts.mono staying).sends.does
  lifecycle := posts.lifecycle
  stopRequested := posts.stopRequested
  calls := calls

theorem Notifies.proceeds (notifies : first.Notifies second)
    (calls : first.lifecycle ≠ .running → second.pending.calls ⊆ first.pending.calls) :
    first.Proceeds second :=
  Posts.proceeds notifies (fun _ _ => Signals.stays) calls

end

section

variable (node : Node)

theorem proceeds_heartbeatRound (choice : PeerChoice) :
    node.Proceeds (node.heartbeatRound choice) :=
  (node.notifies_heartbeatRound choice).proceeds fun _ =>
    (node.mails_heartbeatRound choice).quiet.subset

theorem proceeds_handleMessages (now : Instant) : node.Proceeds (node.handleMessages now).1 := by
  obtain ⟨_, _, _, _, handled⟩ := node.handleMessages_eq now
  rw [handled]
  exact ⟨Sends.does ⟨rfl, rfl, rfl, rfl, .refl⟩, rfl, rfl, fun _ _ among => among⟩

theorem foldl_failCalls_subset (reason : String) (members : List MemberId) (node : Node) :
    (members.foldl (fun current id => current.failCalls id reason) node).pending.calls ⊆
      node.pending.calls := by
  induction members generalizing node with
  | nil => exact List.Subset.refl _
  | cons member rest ih => exact List.Subset.trans (ih _) (List.filter_subset_self _)

theorem proceeds_detectionRound (now : Instant) : node.Proceeds (node.detectionRound now) := by
  have does : node.Does Registry.Operation.Sweeps (fun _ data => bidsFarewell data = false)
      (node.detectionRound now) := node.detectionRound_does now
  have marked : (node.markDead now).pending.calls ⊆ node.pending.calls :=
    foldl_failCalls_subset silentReason _ { node with roster := _ }
  obtain ⟨operations, sweeps, registry⟩ := does.registry
  obtain ⟨_, _, _, _, _, round⟩ := node.detectionRound_eq now
  refine ⟨{ does with registry := ⟨operations, ?_, registry⟩ }, by rw [round], by rw [round], ?_⟩
  · intro operation among
    exact .inl (sweeps operation among)
  · intro _
    exact List.Subset.trans (List.filter_subset_self _) marked

theorem onControlFrame_rests (choice : PeerChoice) (now : Instant) (frame : ControlFrame) :
    (node.onControlFrame choice now frame).lifecycle = node.lifecycle ∧
      (node.onControlFrame choice now frame).stopRequested = node.stopRequested := by
  have asks (joined : Node) (choice : PeerChoice) :
      Posts (fun _ _ => True) joined (joined.discover choice frame.peers) :=
    posts_sendJoins choice fun _ _ _ _ _ => trivial
  unfold onControlFrame
  dsimp only
  split
  · have answered : Posts (fun _ _ => True) (node.join now frame.member)
        ((node.join now frame.member).sendControl (choice 0) frame.member.address .heartbeat) :=
      posts_sendControl fun _ _ => trivial
    have posts := answered.trans (asks _ choice.rest)
    exact ⟨posts.lifecycle, posts.stopRequested⟩
  · obtain ⟨roster, heard⟩ := node.hear_eq now frame.member
    rw [heard]
    exact ⟨(asks _ choice).lifecycle, (asks _ choice).stopRequested⟩
  · exact ⟨rfl, rfl⟩

theorem receive_rests (choice : PeerChoice) (now : Instant) (data : Bytes) :
    (node.receive choice now data).lifecycle = node.lifecycle ∧
      (node.receive choice now data).stopRequested = node.stopRequested := by
  unfold receive
  split
  · exact ⟨rfl, rfl⟩
  · dsimp only
    split
    · unfold onControl
      split
      · exact ⟨rfl, rfl⟩
      · exact node.onControlFrame_rests choice now _
    · exact ⟨rfl, rfl⟩
    · unfold onResponse
      split <;> exact ⟨rfl, rfl⟩
    · unfold onMessage
      dsimp only
      split <;> exact ⟨rfl, rfl⟩
    · exact ⟨rfl, rfl⟩

theorem Answers.stays {node : Node} {frame : ControlFrame} {address : SocketAddress} {data : Bytes}
    (answers : node.Answers frame address data) : bidsFarewell data = false := by
  rcases answers with ⟨-, -, _, made⟩ | ⟨-, _, -, -, -, -, _, made⟩
  · exact bidsFarewell_of_controlDatagram made
  · exact bidsFarewell_of_controlDatagram made

theorem proceeds_receive (choice : PeerChoice) (now : Instant) (data : Bytes) :
    node.Proceeds (node.receive choice now data) := by
  obtain ⟨lifecycle, stopRequested⟩ := node.receive_rests choice now data
  refine ⟨?_, lifecycle, stopRequested, fun _ => node.receive_subset choice now data⟩
  rcases node.receive_cases choice now data with sends | ⟨frame, -, other, received⟩
  · exact (sends.mono fun _ _ => False.elim).does
  · have does := node.onControlFrame_does choice now frame
    obtain ⟨operations, concern, registry⟩ := does.registry
    rw [received]
    refine { does with registry := ⟨operations, ?_, registry⟩, outbox := does.outbox.mono ?_ }
    · intro operation among
      exact .inr ⟨frame.member, other, concern operation among⟩
    · exact fun _ _ => Answers.stays

/--
Goes on with a request. Once the node is told to stop the request is given up; if the work comes
first, what has ended by then is still answered.
-/
def attend (node : Node) (clock : Clock) (id : RequestId) (workFirst : Bool) : Node :=
  if workFirst && node.stopRequested then
    { { node with stopRequested := false }.serve clock id with
      stopRequested := true }.forgetRequest id
  else node.serve clock id

theorem proceeds_serve (clock : Clock) (id : RequestId) : node.Proceeds (node.serve clock id) :=
  (node.notifies_serve clock id).proceeds fun _ => (node.quiet_serve clock id).subset

theorem proceeds_attend (clock : Clock) (id : RequestId) (workFirst : Bool) :
    node.Proceeds (node.attend clock id workFirst) := by
  unfold attend
  split
  next both =>
    have works := proceeds_serve { node with stopRequested := false } clock id
    have stopping : true = node.stopRequested := (Bool.and_eq_true_iff.mp both).2.symm
    exact ⟨⟨works.config, works.seeds, works.socket, works.registry, works.outbox⟩,
      works.lifecycle, stopping, works.calls⟩
  next => exact node.proceeds_serve clock id

end

section

variable (node : Node)

/-- A caller goes on. Once the node is told to stop, it may look at that before anything else. -/
def resume (node : Node) (now : Instant) (stopFirst : Bool) (branch : Branch) : Node × Branch :=
  if stopFirst && node.stopRequested then node.unlessStopped branch else node.pollBranch now branch

theorem polls_resume (now : Instant) (stopFirst : Bool) (branch : Branch) :
    node.Polls (node.resume now stopFirst branch).1 := by
  unfold resume
  split
  · exact node.polls_unlessStopped branch
  · exact node.polls_pollBranch now branch

theorem Polls.proceeds {before after : Node} (polls : before.Polls after) : before.Proceeds after :=
  polls.notifies.proceeds fun _ => polls.subset

end

end Node

end ClusterCoordination
