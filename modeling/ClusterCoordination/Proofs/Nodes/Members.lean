import ClusterCoordination.Proofs.Nodes.Footprint
/-!
# What changes the members of a node

A node learns of a member only from a control frame of that member, and what the frame says of
others makes it ask, not believe. Otherwise only the failure detector touches the members.
-/

set_option autoImplicit false

namespace ClusterCoordination

def Member.advertised (member : Member) : String × SocketAddress := (member.name, member.address)

namespace MemberRecord

theorem rejoin_advertised (now : Instant) (member : Member) (record : MemberRecord) :
    (record.rejoin now member).member.advertised = record.member.advertised ∨
      (record.rejoin now member).member.advertised = member.advertised := by
  unfold rejoin
  split
  · exact .inl rfl
  · exact .inr rfl

theorem leave_advertised (now : Instant) (record : MemberRecord) :
    (record.leave now).member.advertised = record.member.advertised := by
  unfold leave
  split <;> rfl

theorem hear_advertised (now : Instant) (record : MemberRecord) :
    (record.hear now).member.advertised = record.member.advertised := by
  unfold hear
  split
  · rfl
  · split <;> rfl

end MemberRecord

namespace Registry

def Operation.Concerns (member : Member) : Operation → Prop
  | .join _ joining => joining = member
  | .leave _ id | .heartbeat _ id => id = member.id
  | .checkLiveness .. | .purgeDead .. => False

def Operation.Sweeps : Operation → Prop
  | .join .. | .leave .. | .heartbeat .. => False
  | .checkLiveness .. | .purgeDead .. => True

namespace Operation

variable {operation : Operation} {member : Member} {localId id : MemberId} {place : Nat}

theorem Concerns.spares (concerns : operation.Concerns member) (other : id ≠ member.id)
    (found : Option MemberRecord) : operation.onRecord localId place id found = found := by
  cases operation with
  | join now joining =>
    obtain rfl : joining = member := concerns
    exact if_neg other
  | leave now leaving =>
    obtain rfl : leaving = member.id := concerns
    exact if_neg other
  | heartbeat now sender =>
    obtain rfl : sender = member.id := concerns
    exact if_neg other
  | checkLiveness now timeout => exact concerns.elim
  | purgeDead now grace => exact concerns.elim

theorem Concerns.retains (concerns : operation.Concerns member) {found : Option MemberRecord}
    (known : found.isSome) : (operation.onRecord localId place id found).isSome := by
  cases operation with
  | join now joining =>
    simp only [onRecord]
    split
    · rfl
    · exact known
  | leave now leaving =>
    simp only [onRecord]
    split
    · simpa using known
    · exact known
  | heartbeat now sender =>
    simp only [onRecord]
    split
    · simpa using known
    · exact known
  | checkLiveness now timeout => exact concerns.elim
  | purgeDead now grace => exact concerns.elim

theorem Concerns.advertised (concerns : operation.Concerns member) {found : Option MemberRecord}
    {after : MemberRecord} (result : operation.onRecord localId place id found = some after) :
    (∃ known, found = some known ∧ after.member.advertised = known.member.advertised) ∨
      after.member.advertised = member.advertised := by
  cases operation with
  | join now joining =>
    obtain rfl : joining = member := concerns
    simp only [onRecord] at result
    split at result
    · obtain rfl := Option.some.inj result
      cases found with
      | none => exact .inr rfl
      | some known =>
        rcases known.rejoin_advertised now joining with kept | renamed
        · exact .inl ⟨known, rfl, kept⟩
        · exact .inr renamed
    · exact .inl ⟨after, result, rfl⟩
  | leave now leaving =>
    simp only [onRecord] at result
    split at result
    · obtain ⟨known, rfl, rfl⟩ := Option.map_eq_some_iff.mp result
      exact .inl ⟨known, rfl, known.leave_advertised now⟩
    · exact .inl ⟨after, result, rfl⟩
  | heartbeat now sender =>
    simp only [onRecord] at result
    split at result
    · obtain ⟨known, rfl, rfl⟩ := Option.map_eq_some_iff.mp result
      exact .inl ⟨known, rfl, known.hear_advertised now⟩
    · exact .inl ⟨after, result, rfl⟩
  | checkLiveness now timeout => exact concerns.elim
  | purgeDead now grace => exact concerns.elim

theorem Sweeps.spares_local (sweeps : operation.Sweeps) {record : MemberRecord}
    (own : record.member.id = localId) :
    operation.onRecord localId place id (some record) = some record := by
  cases operation with
  | join now joining => exact sweeps.elim
  | leave now leaving => exact sweeps.elim
  | heartbeat now sender => exact sweeps.elim
  | checkLiveness now timeout => simp [onRecord, own]
  | purgeDead now grace => simp [onRecord, own, Option.filter]

theorem Sweeps.advertised (sweeps : operation.Sweeps) {found : Option MemberRecord}
    {after : MemberRecord} (result : operation.onRecord localId place id found = some after) :
    ∃ known, found = some known ∧ after.member.advertised = known.member.advertised := by
  cases operation with
  | join now joining => exact sweeps.elim
  | leave now leaving => exact sweeps.elim
  | heartbeat now sender => exact sweeps.elim
  | checkLiveness now timeout =>
    obtain ⟨known, rfl, rfl⟩ := Option.map_eq_some_iff.mp result
    refine ⟨known, rfl, ?_⟩
    split <;> rfl
  | purgeDead now grace => exact ⟨after, Option.eq_some_of_filter_eq_some result, rfl⟩

theorem Sweeps.finds_none (sweeps : operation.Sweeps) :
    operation.onRecord localId place id none = none := by
  cases operation with
  | join now joining => exact sweeps.elim
  | leave now leaving => exact sweeps.elim
  | heartbeat now sender => exact sweeps.elim
  | checkLiveness now timeout => rfl
  | purgeDead now grace => rfl

end Operation

end Registry

namespace Node

section

variable {allows : Registry.Operation → Prop} {permits : SocketAddress → Bytes → Prop}

theorem does_join (node : Node) (now : Instant) (member : Member) :
    Does (Registry.Operation.Concerns member) permits node (node.join now member) :=
  node.does_perform (.join now member) rfl

theorem hear_eq (node : Node) (now : Instant) (member : Member) :
    ∃ roster, node.hear now member = { node with roster := roster } := by
  unfold hear
  split <;> exact ⟨_, rfl⟩

theorem does_hear (node : Node) (now : Instant) (member : Member) :
    Does (Registry.Operation.Concerns member) permits node (node.hear now member) := by
  have heard : Does (Registry.Operation.Concerns member) permits node
      { node with roster := (node.roster.heartbeat now member.id).1 } :=
    node.does_perform (.heartbeat now member.id) rfl
  unfold hear
  split
  next roster _ result =>
    rw [result] at heard
    exact heard.trans (does_join _ now member)
  next roster _ _ _ result =>
    rw [result] at heard
    exact heard

theorem does_bidFarewell (node : Node) (now : Instant) (member : Member) :
    Does (Registry.Operation.Concerns member) permits node (node.bidFarewell now member) := by
  have left : Does (Registry.Operation.Concerns member) permits node
      { node with roster := (node.roster.leave now member.id).1 } :=
    node.does_perform (.leave now member.id) rfl
  have dropped (current : Node) : Sends permits current
      { current with outbox := current.outbox.disconnect member.address } :=
    sends_retain current _
  have failed (current : Node) : Sends permits current (current.failCalls member.id leftReason) :=
    ⟨rfl, rfl, rfl, rfl, .refl⟩
  exact (left.trans (failed _).does).trans (dropped _).does

/--
The datagrams with which a node that has come to this may answer a frame and ask for its peers,
whatever each of them advertises.
-/
def Answers (node : Node) (frame : ControlFrame) (address : SocketAddress) (data : Bytes) : Prop :=
  (frame.kind = .join ∧ address = frame.address ∧
      ∃ sample, node.controlDatagram sample .heartbeat = .ok data) ∨
    (frame.kind ≠ .leave ∧ ∃ peer ∈ frame.peers, peer.id ≠ node.id ∧
      node.registry.contains peer.id = false ∧ address = peer.address ∧
        ∃ sample, node.controlDatagram sample .join = .ok data)

theorem Answers.exists_frame {node : Node} {frame : ControlFrame} {address : SocketAddress}
    {data : Bytes} (answers : node.Answers frame address data) :
    ∃ sample kind, kind ≠ .leave ∧ node.controlDatagram sample kind = .ok data := by
  rcases answers with ⟨-, -, sample, made⟩ | ⟨-, -, -, -, -, -, sample, made⟩
  · exact ⟨sample, .heartbeat, by decide, made⟩
  · exact ⟨sample, .join, by decide, made⟩

theorem answers_congr {first second : Node} (config : first.config = second.config)
    (registry : first.registry = second.registry) (frame : ControlFrame) (address : SocketAddress)
    (data : Bytes) : first.Answers frame address data ↔ second.Answers frame address data := by
  unfold Answers
  simp only [controlDatagram_congr config registry, registry, Node.id, config]

theorem mem_strangers {id : MemberId} {registry : Registry} {peers : List Peer} {peer : Peer} :
    peer ∈ strangers id registry peers ↔
      peer ∈ peers ∧ peer.id ≠ id ∧ registry.contains peer.id = false := by
  simp [strangers]

theorem posts_discover {node : Node} {choice : PeerChoice} {frame : ControlFrame}
    (staying : frame.kind ≠ .leave) :
    Posts (node.Answers frame) node (node.discover choice frame.peers) := by
  apply posts_sendJoins
  intro address listed sample data made
  obtain ⟨peer, among, rfl⟩ := List.mem_map.mp listed
  obtain ⟨named, foreign, stranger⟩ := mem_strangers.mp among
  exact .inr ⟨staying, peer, named, foreign, stranger, rfl, sample, made⟩

theorem sends_discover {node : Node} {choice : PeerChoice} {frame : ControlFrame}
    (staying : frame.kind ≠ .leave) :
    Sends (node.Answers frame) node (node.discover choice frame.peers) :=
  (posts_discover staying).sends

theorem onControlFrame_does (node : Node) (choice : PeerChoice) (now : Instant)
    (frame : ControlFrame) :
    Does (Registry.Operation.Concerns frame.member)
      ((node.onControlFrame choice now frame).Answers frame) node
      (node.onControlFrame choice now frame) := by
  -- What is queued afterwards is made from the members there are by then.
  have final {middle after : Node}
      (joined : Does (Registry.Operation.Concerns frame.member) (middle.Answers frame) node middle)
      (sends : Sends (middle.Answers frame) middle after) :
      Does (Registry.Operation.Concerns frame.member) (after.Answers frame) node after := by
    have done := joined.trans sends.does
    have same := answers_congr sends.config sends.registry frame
    exact { done with outbox := done.outbox.mono fun address data => (same address data).mpr }
  unfold onControlFrame
  cases kind : frame.kind with
  | join =>
    have answered : Sends ((node.join now frame.member).Answers frame) (node.join now frame.member)
        ((node.join now frame.member).sendControl (choice 0) frame.member.address .heartbeat) :=
      sends_sendControl fun data made => .inl ⟨kind, rfl, _, made⟩
    refine final (does_join node now frame.member) (answered.trans ?_)
    refine (sends_discover (by simp [kind])).mono ?_
    intro address data
    exact (answers_congr answered.config answered.registry frame address data).mp
  | heartbeat =>
    exact final (does_hear node now frame.member) (sends_discover (by simp [kind]))
  | leave => exact does_bidFarewell node now frame.member

theorem sends_receive_of_unread {node : Node} {choice : PeerChoice} {now : Instant} {data : Bytes}
    (unread : ControlFrame.read? data = none) :
    Sends permits node (node.receive choice now data) := by
  unfold receive
  split
  next => exact .refl node
  next datagram decoded =>
    dsimp only
    split
    next frame content =>
      have mismatch : frame.sender ≠ ⟨datagram.sender⟩ := by
        intro same
        simp [ControlFrame.read?, decoded, content, same] at unread
      simp only [onControl, mismatch, ne_eq, not_false_eq_true, true_or, if_true]
      exact .refl node
    next => exact ⟨rfl, rfl, rfl, rfl, .refl⟩
    next response _ =>
      unfold onResponse
      split <;> exact ⟨rfl, rfl, rfl, rfl, .refl⟩
    next =>
      unfold onMessage
      dsimp only
      split <;> exact ⟨rfl, rfl, rfl, rfl, .refl⟩
    next => exact .refl node

theorem receive_cases (node : Node) (choice : PeerChoice) (now : Instant) (data : Bytes) :
    Sends (fun _ _ => False) node (node.receive choice now data) ∨
      ∃ frame, ControlFrame.read? data = some frame ∧ frame.sender ≠ node.id ∧
        node.receive choice now data = node.onControlFrame choice now frame := by
  cases read : ControlFrame.read? data with
  | none => exact .inl (sends_receive_of_unread read)
  | some frame =>
    have received : node.receive choice now data =
        if frame.sender = node.id then node else node.onControlFrame choice now frame :=
      receive_of_read read
    by_cases own : frame.sender = node.id
    · left
      rw [received, if_pos own]
      exact .refl node
    · exact .inr ⟨frame, rfl, own, received.trans (if_neg own)⟩

end

theorem detectionRound_does {permits : SocketAddress → Bytes → Prop} (node : Node) (now : Instant) :
    Does Registry.Operation.Sweeps permits node (node.detectionRound now) := by
  have failed (dead : List MemberId) (node : Node) :
      Sends permits node (dead.foldl (fun node id => node.failCalls id silentReason) node) := by
    apply sends_foldl
    intro current id _ _ _
    exact ⟨rfl, rfl, rfl, rfl, .refl⟩
  have checked : Does Registry.Operation.Sweeps permits node
      { node with roster := (node.roster.checkLiveness now node.config.heartbeatTimeout).1 } :=
    node.does_perform (.checkLiveness now _) trivial
  have marked : Does Registry.Operation.Sweeps permits node (node.markDead now) :=
    checked.trans (failed _ _).does
  have purged (node : Node) : Does Registry.Operation.Sweeps permits node (node.purge now) :=
    node.does_perform (.purgeDead now _) trivial
  have dropped (node : Node) : Sends permits node node.dropQueues := sends_retain node _
  have expired (node : Node) : Sends permits node (node.expireCalls now) :=
    ⟨rfl, rfl, rfl, rfl, .refl⟩
  have elected (node : Node) : Sends permits node node.elect := ⟨rfl, rfl, rfl, rfl, .refl⟩
  exact (((marked.trans (purged _)).trans (dropped _).does).trans (expired _).does).trans
    (elected _).does

end Node

end ClusterCoordination
