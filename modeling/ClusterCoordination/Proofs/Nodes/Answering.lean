import ClusterCoordination.Proofs.Nodes.Running
/-!
# How a node answers

A control frame makes its sender known. A join is answered by a heartbeat, and of the peers that a
frame lists exactly the strangers are asked to join.
-/

set_option autoImplicit false

namespace ClusterCoordination

theorem Registry.contains_iff {registry : Registry} {id : MemberId} :
    registry.contains id = true ↔ (registry.record? id).isSome :=
  Iff.rfl

theorem Registry.heartbeat_unknown_iff (registry : Registry) (now : Instant) (id : MemberId) :
    (registry.heartbeat now id).2.1 = .unknown ↔ registry.contains id = false := by
  unfold heartbeat contains
  cases registry.record? id with
  | none => simp
  | some known =>
    cases gone : known.left <;> cases alive : known.member.alive <;> simp [gone, alive]

namespace Node

variable {node : Node} {choice : PeerChoice} {now : Instant} {frame : ControlFrame}

theorem socket_sent (node : Node) (drain : DrainId) (result : Except NetworkFault Unit) :
    (node.sent drain result).socket = node.socket := by
  obtain ⟨_, _, _, sent⟩ := node.sent_eq drain result
  rw [sent]

theorem registry_sent (node : Node) (drain : DrainId) (result : Except NetworkFault Unit) :
    (node.sent drain result).registry = node.registry := by
  obtain ⟨_, _, _, sent⟩ := node.sent_eq drain result
  rw [sent]
  rfl

theorem outbox_sent (node : Node) (drain : DrainId) (result : Except NetworkFault Unit) :
    (node.sent drain result).outbox = (node.outbox.sent drain result).1 := by
  obtain ⟨_, _, _, sent⟩ := node.sent_eq drain result
  rw [sent]

theorem registry_join (node : Node) (now : Instant) (member : Member) :
    (node.join now member).registry = (node.registry.join now member).1 :=
  node.roster.registry_perform (.join now member)

theorem registry_onJoin (kind : frame.kind = .join) :
    (node.onControlFrame choice now frame).registry = (node.registry.join now frame.member).1 := by
  have answered := utters_sendControl (node.join now frame.member) (choice 0) frame.member.address
    .heartbeat
  have asked : Sends _ _ (((node.join now frame.member).sendControl (choice 0) frame.member.address
      .heartbeat).discover choice.rest frame.peers) := sends_discover (by simp [kind])
  simp only [onControlFrame, kind]
  rw [asked.registry, answered.registry, registry_join]

theorem registry_onHeartbeat (kind : frame.kind = .heartbeat) :
    (node.onControlFrame choice now frame).registry = (node.hear now frame.member).registry := by
  have asked : Sends _ _ ((node.hear now frame.member).discover choice frame.peers) :=
    sends_discover (by simp [kind])
  simp only [onControlFrame, kind]
  exact asked.registry

theorem contains_join (registry : Registry) (now : Instant) (member : Member) :
    (registry.join now member).1.contains member.id = true := by
  simp [Registry.contains, Registry.record?_join]

theorem registry_hear_known {member : Member} (known : node.registry.contains member.id = true) :
    (node.hear now member).registry = (node.registry.heartbeat now member.id).1 := by
  have heard := node.roster.registry_perform (.heartbeat now member.id)
  unfold hear
  split
  next roster view result =>
    have outcome : (node.registry.heartbeat now member.id).2.1 = .unknown :=
      congrArg (fun triple : Roster × HeartbeatOutcome × Option View => triple.2.1) result
    simp [Registry.heartbeat_unknown_iff, known] at outcome
  next roster outcome view _ result =>
    rw [Roster.perform, result] at heard
    exact heard

theorem registry_hear_stranger {member : Member}
    (stranger : node.registry.contains member.id = false) :
    (node.hear now member).registry = (node.registry.join now member).1 := by
  have absent : node.registry.record? member.id = none := by
    simpa [Registry.contains] using stranger
  have heard := node.roster.registry_perform (.heartbeat now member.id)
  have ignored : (node.registry.heartbeat now member.id).1 = node.registry := by
    simp [Registry.heartbeat, absent]
  have outcome : (node.registry.heartbeat now member.id).2.1 = .unknown :=
    (Registry.heartbeat_unknown_iff _ _ _).mpr stranger
  unfold hear
  split
  next roster view result =>
    rw [Roster.perform, result] at heard
    have same : roster.registry = node.registry := heard.trans ignored
    rw [registry_join]
    exact congrArg (fun registry => (Registry.join registry now member).1) same
  next roster other view known result =>
    have also : (node.registry.heartbeat now member.id).2.1 = other :=
      congrArg (fun triple : Roster × HeartbeatOutcome × Option View => triple.2.1) result
    exact absurd (also.symm.trans outcome) (by simpa using known)

theorem contains_onControlFrame (staying : frame.kind ≠ .leave) :
    (node.onControlFrame choice now frame).registry.contains frame.sender = true := by
  cases kind : frame.kind with
  | join =>
    rw [registry_onJoin kind]
    exact contains_join node.registry now frame.member
  | heartbeat =>
    rw [registry_onHeartbeat kind]
    cases known : node.registry.contains frame.sender with
    | false =>
      rw [registry_hear_stranger known]
      exact contains_join node.registry now frame.member
    | true =>
      have heard := Registry.heartbeat_treats node.registry now frame.sender frame.sender
      rw [if_pos rfl] at heard
      rw [registry_hear_known known]
      change ((node.registry.heartbeat now frame.sender).1.record? frame.sender).isSome = true
      rw [heard, Option.isSome_map]
      exact known
  | leave => exact absurd kind staying

theorem Does.contains {permits : SocketAddress → Bytes → Prop} {member : Member} {after : Node}
    (does : Does (Registry.Operation.Concerns member) permits node after)
    (unique : node.registry.UniqueIds) {id : MemberId} (known : node.registry.contains id = true) :
    after.registry.contains id = true := by
  obtain ⟨operations, concern, registry⟩ := does.registry
  rw [registry, Registry.contains_iff]
  apply Registry.performAll_record (fun found => found.isSome = true) unique
  · intro operation among place found present
    exact (concern operation among).retains present
  · exact known

theorem contains_receive (unique : node.registry.UniqueIds) {id : MemberId}
    (known : node.registry.contains id = true) (data : Bytes) :
    (node.receive choice now data).registry.contains id = true := by
  rcases node.receive_cases choice now data with sends | ⟨frame, -, -, received⟩
  · rwa [sends.registry]
  · rw [received]
    exact (node.onControlFrame_does choice now frame).contains unique known

theorem socket_receive (node : Node) (choice : PeerChoice) (now : Instant) (data : Bytes) :
    (node.receive choice now data).socket = node.socket := by
  rcases node.receive_cases choice now data with sends | ⟨frame, -, -, received⟩
  · exact sends.socket
  · rw [received]
    exact (node.onControlFrame_does choice now frame).socket

theorem queued_sendControl (fresh : node.outbox.Numbered) (opened : node.outbox.closed = false)
    {sample : PeerSample} {address : SocketAddress} {kind : ControlKind} {data : Bytes}
    (made : node.controlDatagram sample kind = .ok data) :
    (node.sendControl sample address kind).outbox.queued =
      (address, data) ::ₘ node.outbox.queued := by
  simp only [sendControl, made, enqueue, outbox_push]
  exact fresh.queued_push opened address _

theorem queued_subset_sendJoins (fresh : node.outbox.Numbered) (choice : PeerChoice)
    (addresses : List SocketAddress) :
    node.outbox.queued ⊆ (node.sendJoins choice addresses).outbox.queued := by
  obtain ⟨added, total, -⟩ := (node.notifies_sendJoins choice addresses).sends.outbox.queued fresh
  rw [total]
  exact fun _ among => Multiset.mem_add.mpr (.inl among)

theorem mem_queued_sendJoins (fresh : node.outbox.Numbered) (opened : node.outbox.closed = false)
    {addresses : List SocketAddress} {place : Nat} {address : SocketAddress}
    (listed : addresses[place]? = some address) {data : Bytes}
    (made : node.controlDatagram (choice place) .join = .ok data) :
    (address, data) ∈ (node.sendJoins choice addresses).outbox.queued := by
  induction addresses generalizing node choice place with
  | nil => simp at listed
  | cons first others ih =>
    have uttered := node.utters_sendControl (choice 0) first .join
    have stillFresh := uttered.outbox.numbered fresh
    cases place with
    | zero =>
      obtain rfl : first = address := by simpa using listed
      have sent : (first, data) ∈ (node.sendControl (choice 0) first .join).outbox.queued := by
        rw [queued_sendControl fresh opened made]
        exact Multiset.mem_cons_self _ _
      exact queued_subset_sendJoins stillFresh choice.rest others sent
    | succ place =>
      refine ih stillFresh (uttered.outbox.closed.trans opened) (by simpa using listed) ?_
      rw [controlDatagram_congr uttered.config uttered.registry]
      exact made

theorem queued_sendJoins (fresh : node.outbox.Numbered) (opened : node.outbox.closed = false)
    {data : Bytes} (made : ∀ place, node.controlDatagram (choice place) .join = .ok data)
    (addresses : List SocketAddress) :
    (node.sendJoins choice addresses).outbox.queued =
      (addresses.map fun address => (address, data) : Multiset _) + node.outbox.queued := by
  induction addresses generalizing node choice with
  | nil => simp [sendJoins]
  | cons first others ih =>
    have uttered := node.utters_sendControl (choice 0) first .join
    have same (place : Nat) :
        (node.sendControl (choice 0) first .join).controlDatagram (choice.rest place) .join =
          .ok data :=
      (controlDatagram_congr uttered.config uttered.registry _ _).trans (made (place + 1))
    rw [sendJoins, ih (uttered.outbox.numbered fresh) (uttered.outbox.closed.trans opened) same,
      queued_sendControl fresh opened (made 0), Multiset.add_cons, List.map_cons,
      ← Multiset.cons_coe, Multiset.cons_add]

theorem queued_discover (fresh : node.outbox.Numbered) (opened : node.outbox.closed = false)
    {data : Bytes} (made : ∀ place, node.controlDatagram (choice place) .join = .ok data)
    (peers : List Peer) :
    (node.discover choice peers).outbox.queued =
      ((strangers node.id node.registry peers).map fun peer => (peer.address, data) : Multiset _) +
        node.outbox.queued := by
  rw [discover, queued_sendJoins fresh opened made, List.map_map]
  rfl

theorem onControlFrame_join (kind : frame.kind = .join) :
    node.onControlFrame choice now frame =
      ((node.join now frame.member).sendControl (choice 0) frame.address .heartbeat).discover
        choice.rest frame.peers := by
  simp only [onControlFrame, kind]
  rfl

theorem queued_onJoin (fresh : node.outbox.Numbered) (opened : node.outbox.closed = false)
    (kind : frame.kind = .join) {answer ask : Bytes}
    (answered : (node.join now frame.member).controlDatagram (choice 0) .heartbeat = .ok answer)
    (asked : ∀ place, (node.join now frame.member).controlDatagram (choice place) .join = .ok ask) :
    (node.onControlFrame choice now frame).outbox.queued =
      ((strangers node.id (node.registry.join now frame.member).1 frame.peers).map fun peer =>
        (peer.address, ask) : Multiset _) + (frame.address, answer) ::ₘ node.outbox.queued := by
  rw [onControlFrame_join kind]
  have joined : (node.join now frame.member).outbox = node.outbox := rfl
  have own : (node.join now frame.member).id = node.id := rfl
  have replied :=
    (node.join now frame.member).utters_sendControl (choice 0) frame.address .heartbeat
  have reply : ((node.join now frame.member).sendControl (choice 0) frame.address
      .heartbeat).outbox.queued = (frame.address, answer) ::ₘ node.outbox.queued :=
    queued_sendControl (joined ▸ fresh) (joined ▸ opened) answered
  generalize (node.join now frame.member).sendControl (choice 0) frame.address .heartbeat = later
    at replied reply ⊢
  have same (place : Nat) : later.controlDatagram (choice.rest place) .join = .ok ask :=
    (controlDatagram_congr replied.config replied.registry _ _).trans (asked (place + 1))
  have stillFresh : later.outbox.Numbered := replied.outbox.numbered (joined ▸ fresh)
  have stillOpen : later.outbox.closed = false := replied.outbox.closed.trans (joined ▸ opened)
  have self : later.id = node.id := congrArg Config.id replied.config
  rw [queued_discover stillFresh stillOpen same, reply, self, replied.registry, registry_join]

theorem controlDatagram_onJoin (kind : frame.kind = .join) (sample : PeerSample)
    (said : ControlKind) :
    (node.onControlFrame choice now frame).controlDatagram sample said =
      (node.join now frame.member).controlDatagram sample said := by
  apply controlDatagram_congr
  · exact (node.onControlFrame_does choice now frame).config
  · rw [registry_join, registry_onJoin kind]

theorem onJoin_answers (fresh : node.outbox.Numbered) (opened : node.outbox.closed = false)
    (kind : frame.kind = .join) {answer : Bytes}
    (made : (node.onControlFrame choice now frame).controlDatagram (choice 0) .heartbeat =
      .ok answer) :
    (frame.address, answer) ∈ (node.onControlFrame choice now frame).outbox.queued := by
  rw [controlDatagram_onJoin kind] at made
  rw [onControlFrame_join kind]
  have joined : (node.join now frame.member).outbox = node.outbox := rfl
  have replied :=
    (node.join now frame.member).utters_sendControl (choice 0) frame.address .heartbeat
  have answered : (frame.address, answer) ∈ ((node.join now frame.member).sendControl (choice 0)
      frame.address .heartbeat).outbox.queued := by
    rw [queued_sendControl (joined ▸ fresh) (joined ▸ opened) made]
    exact Multiset.mem_cons_self _ _
  generalize (node.join now frame.member).sendControl (choice 0) frame.address .heartbeat = later
    at replied answered ⊢
  exact queued_subset_sendJoins (replied.outbox.numbered (joined ▸ fresh)) choice.rest _ answered

theorem receive_adds (fresh : node.outbox.Numbered) (choice : PeerChoice) (now : Instant)
    (data : Bytes) :
    ∃ added, (node.receive choice now data).outbox.queued = node.outbox.queued + added ∧
      ∀ item ∈ added, ∃ frame, ControlFrame.read? data = some frame ∧ frame.sender ≠ node.id ∧
        (node.receive choice now data).Answers frame item.1 item.2 ∧
        (frame.kind = .join → ∀ answer,
          (node.receive choice now data).controlDatagram (choice 0) .heartbeat = .ok answer →
            (frame.address, answer) ∈ (node.receive choice now data).outbox.queued) := by
  rcases node.receive_cases choice now data with sends | ⟨frame, read, other, received⟩
  · obtain ⟨added, total, never, -⟩ := sends.outbox.queued fresh
    exact ⟨added, total, fun item among => (never item among).elim⟩
  · obtain ⟨added, total, answers, refused⟩ :=
      (node.onControlFrame_does choice now frame).outbox.queued fresh
    rw [received]
    refine ⟨added, total, ?_⟩
    intro item among
    have opened : node.outbox.closed = false := by
      cases closed : node.outbox.closed with
      | false => rfl
      | true => simp [refused closed] at among
    exact ⟨frame, read, other, answers item among, fun kind _ => onJoin_answers fresh opened kind⟩

theorem queued_onHeartbeat (fresh : node.outbox.Numbered) (opened : node.outbox.closed = false)
    (kind : frame.kind = .heartbeat) {ask : Bytes}
    (asked : ∀ place, (node.hear now frame.member).controlDatagram (choice place) .join = .ok ask) :
    (node.onControlFrame choice now frame).outbox.queued =
      ((strangers node.id (node.hear now frame.member).registry frame.peers).map fun peer =>
        (peer.address, ask) : Multiset _) + node.outbox.queued := by
  obtain ⟨roster, heard⟩ := node.hear_eq now frame.member
  have config : (node.hear now frame.member).config = node.config := by rw [heard]
  have outbox : (node.hear now frame.member).outbox = node.outbox := by rw [heard]
  simp only [onControlFrame, kind]
  rw [queued_discover (outbox ▸ fresh) (outbox ▸ opened) asked, Node.id, config, outbox]
  rfl

end Node

end ClusterCoordination
