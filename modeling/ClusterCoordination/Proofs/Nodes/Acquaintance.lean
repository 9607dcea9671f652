import ClusterCoordination.Proofs.Nodes.Answering
/-!
# Getting acquainted

A node that reads of a stranger asks it to join, and knows it from the first frame of its own on.
Whom a node knows it asks no more, however often it reads of it.
-/

set_option autoImplicit false

namespace ClusterCoordination

structure MemberRecord.Presents (config : Config) (record : MemberRecord) : Prop where
  alive : record.member.alive = true
  stays : record.left = false
  name : record.member.name = config.name
  address : record.member.address = config.publicAddress

/--
Whatever is said in the name of the member, the member could say itself, and it is no farewell.
-/
def ControlFrame.Genuine (config : Config) (frame : ControlFrame) : Prop :=
  frame.sender = config.id →
    frame.kind ≠ .leave ∧ frame.name = config.name ∧ frame.address = config.publicAddress

def ControlFrame.without (id : MemberId) (frame : ControlFrame) : ControlFrame :=
  { frame with peers := frame.peers.filter fun peer => peer.id ≠ id }

namespace MemberRecord

variable {config : Config} {record : MemberRecord}

theorem presents_new {member : Member} (named : member.name = config.name)
    (addressed : member.address = config.publicAddress) (place : Nat) (now : Instant) :
    (new place now member).Presents config :=
  ⟨rfl, rfl, named, addressed⟩

theorem Presents.rejoin (presents : record.Presents config) {member : Member}
    (named : member.name = config.name) (addressed : member.address = config.publicAddress)
    (now : Instant) : (record.rejoin now member).Presents config := by
  have became : record.rejoin now member = { record with
      member := { record.member with address := member.address, name := member.name }
      lastHeard := if record.member.alive then now else record.lastHeard } :=
    if_neg (by simp [presents.stays])
  rw [became]
  exact ⟨presents.alive, presents.stays, named, addressed⟩

theorem Presents.hear (presents : record.Presents config) (now : Instant) :
    (record.hear now).Presents config := by
  have became : record.hear now = { record with lastHeard := now } := by
    rw [MemberRecord.hear, if_neg (by simp [presents.stays]), if_pos presents.alive]
  rw [became]
  exact ⟨presents.alive, presents.stays, presents.name, presents.address⟩

end MemberRecord

namespace Registry

variable {registry : Registry} {config : Config}

def Familiar (registry : Registry) (config : Config) : Prop :=
  ∀ record ∈ registry.record? config.id, record.Presents config

def Knows (registry : Registry) (config : Config) : Prop :=
  ∃ record ∈ registry.record? config.id, record.Presents config

theorem Knows.familiar (knows : registry.Knows config) : registry.Familiar config := by
  obtain ⟨record, found, presents⟩ := knows
  intro other alsoFound
  obtain rfl := Option.mem_unique alsoFound found
  exact presents

theorem familiar_of_stranger (stranger : registry.contains config.id = false) :
    registry.Familiar config := by
  intro record found
  have absent : registry.record? config.id = none := by simpa [contains] using stranger
  simp [absent] at found

theorem Familiar.join (familiar : registry.Familiar config) {member : Member}
    (same : member.id = config.id) (named : member.name = config.name)
    (addressed : member.address = config.publicAddress) (now : Instant) :
    (registry.join now member).1.Knows config := by
  unfold Knows
  rw [record?_join, if_pos same.symm]
  refine ⟨_, rfl, ?_⟩
  cases found : registry.record? config.id with
  | none => exact MemberRecord.presents_new named addressed _ now
  | some record => exact (familiar record found).rejoin named addressed now

theorem Familiar.heartbeat (familiar : registry.Familiar config)
    (known : registry.contains config.id = true) (now : Instant) :
    (registry.heartbeat now config.id).1.Knows config := by
  obtain ⟨record, found⟩ := Option.isSome_iff_exists.mp known
  refine ⟨record.hear now, ?_, (familiar record found).hear now⟩
  rw [heartbeat_treats, if_pos rfl, found]
  rfl

end Registry

namespace Node

variable {node : Node} {config : Config} {choice : PeerChoice} {now : Instant}
  {frame : ControlFrame}

theorem knows_onControlFrame (familiar : node.registry.Familiar config)
    (sender : frame.sender = config.id) (genuine : frame.Genuine config) :
    (node.onControlFrame choice now frame).registry.Knows config := by
  obtain ⟨staying, named, addressed⟩ := genuine sender
  cases kind : frame.kind with
  | join =>
    rw [registry_onJoin kind]
    exact familiar.join sender named addressed now
  | heartbeat =>
    have member : frame.member.id = config.id := sender
    rw [registry_onHeartbeat kind]
    cases known : node.registry.contains config.id with
    | false =>
      rw [registry_hear_stranger (member ▸ known)]
      exact familiar.join member named addressed now
    | true =>
      rw [registry_hear_known (member ▸ known), member]
      exact familiar.heartbeat known now
  | leave => exact absurd kind staying

theorem record?_onControlFrame (unique : node.registry.UniqueIds) {id : MemberId}
    (other : frame.sender ≠ id) :
    (node.onControlFrame choice now frame).registry.record? id = node.registry.record? id := by
  obtain ⟨operations, concern, registry⟩ := (node.onControlFrame_does choice now frame).registry
  rw [registry]
  apply Registry.performAll_record (fun found => found = node.registry.record? id) unique
  · rintro operation among place found rfl
    exact (concern operation among).spares other.symm _
  · rfl

theorem record?_receive_or_knows (unique : node.registry.UniqueIds)
    (familiar : node.registry.Familiar config) {data : Bytes}
    (genuine : ∀ frame ∈ ControlFrame.read? data, frame.Genuine config) (choice : PeerChoice)
    (now : Instant) :
    (node.receive choice now data).registry.record? config.id = node.registry.record? config.id ∨
      (node.receive choice now data).registry.Knows config := by
  rcases node.receive_cases choice now data with sends | ⟨frame, read, -, received⟩
  · exact .inl (congrArg (Registry.record? · config.id) sends.registry)
  · rw [received]
    by_cases sender : frame.sender = config.id
    · exact .inr (knows_onControlFrame familiar sender (genuine frame read))
    · exact .inl (record?_onControlFrame unique sender)

theorem record?_finishStart {id : MemberId} (other : node.id ≠ id) (choice : PeerChoice)
    (now : Instant) (socket : SocketId) :
    (node.finishStart choice now socket).registry.record? id = node.registry.record? id := by
  have utters := utters_finishStart node choice now socket
  rw [utters.registry, registry_join, Registry.record?_join]
  exact if_neg other.symm

theorem record?_finishStop {id : MemberId} (other : node.id ≠ id) (now : Instant) :
    (node.finishStop now).registry.record? id = node.registry.record? id := by
  have left : (node.finishStop now).registry = (node.registry.leave now node.id).1 :=
    node.roster.registry_perform (.leave now node.id)
  rw [left, Registry.leave_treats, if_neg other.symm]

theorem discover_asks (fresh : node.outbox.Numbered) (opened : node.outbox.closed = false)
    {peers : List Peer} {peer : Peer} (listed : peer ∈ peers) (foreign : peer.id ≠ node.id)
    (stranger : (node.discover choice peers).registry.contains peer.id = false) :
    ∃ turn, ∀ ask, (node.discover choice peers).controlDatagram (choice turn) .join = .ok ask →
      (peer.address, ask) ∈ (node.discover choice peers).outbox.queued := by
  have utters : node.Notifies (node.discover choice peers) := node.notifies_sendJoins choice _
  rw [utters.registry] at stranger
  have among : peer.address ∈ (strangers node.id node.registry peers).map Peer.address :=
    List.mem_map_of_mem (mem_strangers.mpr ⟨listed, foreign, stranger⟩)
  obtain ⟨turn, place⟩ := List.mem_iff_getElem?.mp among
  refine ⟨turn, fun ask made => mem_queued_sendJoins fresh opened place ?_⟩
  rwa [controlDatagram_congr utters.config utters.registry] at made

theorem asks_stranger (fresh : node.outbox.Numbered) (opened : node.outbox.closed = false)
    (staying : frame.kind ≠ .leave) {peer : Peer} (listed : peer ∈ frame.peers)
    (foreign : peer.id ≠ node.id)
    (stranger : (node.onControlFrame choice now frame).registry.contains peer.id = false) :
    ∃ turn, ∀ ask, (node.onControlFrame choice now frame).controlDatagram (choice turn) .join =
      .ok ask →
      (peer.address, ask) ∈ (node.onControlFrame choice now frame).outbox.queued := by
  cases kind : frame.kind with
  | join =>
    have replied :=
      (node.join now frame.member).utters_sendControl (choice 0) frame.address .heartbeat
    have self : ((node.join now frame.member).sendControl (choice 0) frame.address .heartbeat).id =
        node.id := congrArg Config.id replied.config
    rw [onControlFrame_join kind] at stranger ⊢
    obtain ⟨turn, asked⟩ := discover_asks (replied.outbox.numbered fresh)
      (replied.outbox.closed.trans opened) listed (self ▸ foreign) stranger
    exact ⟨turn + 1, asked⟩
  | heartbeat =>
    obtain ⟨roster, heard⟩ := node.hear_eq now frame.member
    have outbox : (node.hear now frame.member).outbox = node.outbox := by rw [heard]
    have self : (node.hear now frame.member).id = node.id := by rw [heard, Node.id, Node.id]
    rw [← outbox] at fresh opened
    rw [← self] at foreign
    simp only [onControlFrame, kind] at stranger ⊢
    exact discover_asks fresh opened listed foreign stranger
  | leave => exact absurd kind staying

/--
It makes no difference whether frames list the member, and whoever is asked to join is another one.
-/
structure Overlooks (node : Node) (id : MemberId) : Prop where
  unmoved : ∀ choice now data, ∀ frame ∈ ControlFrame.read? data,
    node.receive choice now data = node.onControl choice now frame.sender (frame.without id)
  others : ∀ choice now data, ∃ added,
    (node.receive choice now data).outbox.queued = node.outbox.queued + added ∧
      ∀ item ∈ added, ∀ said ∈ ControlFrame.read? item.2, said.kind = .join →
        ∃ frame ∈ ControlFrame.read? data, ∃ peer ∈ frame.peers,
          peer.id ≠ id ∧ node.registry.contains peer.id = false ∧ item.1 = peer.address

theorem discover_without {id : MemberId} (known : node.registry.contains id = true)
    (choice : PeerChoice) (peers : List Peer) :
    node.discover choice (peers.filter fun peer => peer.id ≠ id) = node.discover choice peers := by
  have same : strangers node.id node.registry (peers.filter fun peer => peer.id ≠ id) =
      strangers node.id node.registry peers := by
    rw [strangers, List.filter_filter]
    apply List.filter_congr
    intro peer _
    by_cases overlooked : peer.id = id
    · simp [overlooked, known]
    · simp [overlooked]
  rw [discover, same, ← discover]

theorem onControlFrame_without (unique : node.registry.UniqueIds) {id : MemberId}
    (known : node.registry.contains id = true) (choice : PeerChoice) (now : Instant)
    (frame : ControlFrame) :
    node.onControlFrame choice now (frame.without id) = node.onControlFrame choice now frame := by
  let anything : SocketAddress → Bytes → Prop := fun _ _ => True
  have joins : Does (Registry.Operation.Concerns frame.member) anything node
    (node.join now frame.member) := node.does_join now frame.member
  have hears : Does (Registry.Operation.Concerns frame.member) anything node
    (node.hear now frame.member) := node.does_hear now frame.member
  have joined := joins.contains unique known
  have heard := hears.contains unique known
  cases kind : frame.kind with
  | join =>
    have answered :=
      (node.join now frame.member).utters_sendControl (choice 0) frame.address .heartbeat
    have same : (frame.without id).kind = .join := kind
    rw [onControlFrame_join kind, onControlFrame_join same]
    exact discover_without (answered.registry ▸ joined) choice.rest frame.peers
  | heartbeat =>
    simp only [onControlFrame, ControlFrame.without, kind]
    exact discover_without heard choice frame.peers
  | leave =>
    simp only [onControlFrame, ControlFrame.without, kind]
    rfl

theorem overlooks_known (fresh : node.outbox.Numbered) (unique : node.registry.UniqueIds)
    {id : MemberId} (known : node.registry.contains id = true) : node.Overlooks id := by
  constructor
  · intro choice now data frame read
    rw [receive_of_read read, onControl, onControlFrame_without unique known]
    simp [ControlFrame.without]
  · intro choice now data
    obtain ⟨added, total, answers⟩ := receive_adds fresh choice now data
    refine ⟨added, total, ?_⟩
    intro item among said saidRead asks
    obtain ⟨frame, read, -, answer, -⟩ := answers item among
    rcases answer with ⟨-, -, sample, made⟩ | ⟨-, peer, listed, -, stranger, address, -⟩
    · rw [read?_controlDatagram made] at saidRead
      obtain rfl := Option.some.inj saidRead
      simp [controlFrame] at asks
    · refine ⟨frame, read, peer, listed, ?_, ?_, address⟩
      · rintro rfl
        rw [contains_receive unique known] at stranger
        simp at stranger
      · cases before : node.registry.contains peer.id with
        | false => rfl
        | true =>
          rw [contains_receive unique before] at stranger
          simp at stranger

end Node

end ClusterCoordination
