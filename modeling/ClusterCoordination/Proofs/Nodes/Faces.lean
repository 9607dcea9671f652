import ClusterCoordination.Proofs.Nodes.Answering
/-!
# Nodes seen from outside

As far as control frames are concerned, a node is its configuration, its members and the frames it
has queued. What it does to them can be computed frame by frame, without any bytes.
-/

set_option autoImplicit false

namespace ClusterCoordination

/-- The members of a node and the control frames it has queued, with where they go. -/
structure Face where
  registry : Registry
  queued : List (SocketAddress × ControlFrame)
deriving DecidableEq

/-- The frame that a node with these members sends if it advertises the first of them. -/
def saying (config : Config) (registry : Registry) (kind : ControlKind) : ControlFrame :=
  ({ Node.new config with roster := { Roster.new config.id with registry := registry } } :
    Node).controlFrame .first kind

def asking (config : Config) (registry : Registry) (peers : List Peer) :
    List (SocketAddress × ControlFrame) :=
  (Node.strangers config.id registry peers).map fun peer =>
    (peer.address, saying config registry .join)

def hearing (registry : Registry) (frame : ControlFrame) : Registry :=
  if frame.kind = .heartbeat ∧ registry.contains frame.sender then
    (registry.heartbeat 0 frame.sender).1
  else (registry.join 0 frame.member).1

def answering (config : Config) (registry : Registry) (frame : ControlFrame) :
    List (SocketAddress × ControlFrame) :=
  if frame.kind = .join then [(frame.address, saying config registry .heartbeat)] else []

def Face.hear (config : Config) (frame : ControlFrame) (face : Face) : Face :=
  let registry := hearing face.registry frame
  ⟨registry, asking config registry frame.peers ++ (answering config registry frame ++ face.queued)⟩

theorem Face.hear_append (config : Config) (frame : ControlFrame) (registry : Registry)
    (queued : List (SocketAddress × ControlFrame)) :
    Face.hear config frame ⟨registry, queued⟩ =
      ⟨(Face.hear config frame ⟨registry, []⟩).registry,
        (Face.hear config frame ⟨registry, []⟩).queued ++ queued⟩ := by
  simp [Face.hear]

def Face.without (face : Face) (address : SocketAddress) : Face :=
  ⟨face.registry, face.queued.filter fun item => ¬ item.1 = address⟩

def Face.start (config : Config) : Face :=
  let registry := ((Registry.new config.id).join 0 config.member).1
  ⟨registry, config.seedAddresses.map fun seed => (seed, saying config registry .join)⟩

def onWire (queued : List (SocketAddress × ControlFrame)) : Multiset (SocketAddress × Bytes) :=
  queued.map fun item => (item.1, item.2.wire)

namespace Node

structure Shows (node : Node) (config : Config) (face : Face) : Prop where
  configured : node.config = config
  registry : node.registry = face.registry
  bound : node.socket.isSome
  sound : node.outbox.Sound
  opened : node.outbox.closed = false
  queued : node.outbox.queued = onWire face.queued

variable {node : Node} {config : Config} {face : Face}

theorem onWire_append (first second : List (SocketAddress × ControlFrame)) :
    onWire (first ++ second) = onWire first + onWire second := by
  simp [onWire]

theorem controlDatagram_saying (node : Node) (configured : node.config = config)
    {registry : Registry} (members : node.registry = registry) {kind : ControlKind}
    (short : (saying config registry kind).Short) (place : Nat) :
    node.controlDatagram (PeerChoice.first place) kind =
      .ok (saying config registry kind).wire := by
  have same : node.controlFrame .first kind = saying config registry kind :=
    controlFrame_congr configured members .first kind
  rw [← same] at short ⊢
  exact controlDatagram_of_short short

theorem saying_of_staying (config : Config) (registry : Registry) {kind : ControlKind}
    (staying : kind ≠ .leave) :
    saying config registry kind = { saying config registry .join with kind := kind } := by
  cases kind with
  | join => rfl
  | heartbeat => rfl
  | leave => exact absurd rfl staying

theorem short_heartbeat {registry : Registry} (short : (saying config registry .join).Short) :
    (saying config registry .heartbeat).Short :=
  short.of_kind .heartbeat

theorem mem_onWire {address : SocketAddress} {data : Bytes}
    {queued : List (SocketAddress × ControlFrame)} :
    (address, data) ∈ onWire queued ↔ ∃ frame, (address, frame) ∈ queued ∧ frame.wire = data := by
  simp only [onWire, Multiset.mem_coe, List.mem_map, Prod.mk.injEq]
  constructor
  · rintro ⟨⟨_, frame⟩, among, rfl, rfl⟩
    exact ⟨frame, among, rfl⟩
  · rintro ⟨frame, among, rfl⟩
    exact ⟨(address, frame), among, rfl, rfl⟩

theorem Shows.sent (shows : node.Shows config face) {address : SocketAddress} {frame : ControlFrame}
    (only : (face.queued.filter fun item => item.1 = address) = [(address, frame)]) :
    ∃ drain, (node.outbox.take drain).2 = some (address, frame.wire) ∧
      (node.sent drain (.ok ())).Shows config (face.without address) := by
  have single : (node.outbox.queued.filter fun item => item.1 = address) =
      {(address, frame.wire)} := by
    rw [shows.queued, onWire, Multiset.filter_coe, List.filter_map]
    exact congrArg _ (congrArg (List.map _) only)
  obtain ⟨drain, taken⟩ := shows.sound.take_single single
  obtain ⟨_, _, _, sent⟩ := node.sent_eq drain (.ok ())
  have total := shows.sound.queued_sent taken (.ok ())
  refine ⟨drain, taken, ?_⟩
  rw [sent]
  refine ⟨shows.configured, shows.registry, shows.bound, shows.sound.sent taken (.ok ()),
    (Outbox.closed_sent taken (.ok ())).trans shows.opened, ?_⟩
  have listed : onWire face.queued =
      (address, frame.wire) ::ₘ onWire (face.without address).queued := by
    have split := List.filter_append_perm (fun item => decide (item.1 = address)) face.queued
    rw [only] at split
    refine (Multiset.coe_eq_coe.mpr (split.map _)).symm.trans ?_
    simp [onWire, Face.without]
  rw [shows.queued, listed] at total
  exact (Multiset.cons_inj_right _).mp total.symm

theorem registry_hearing (node : Node) {frame : ControlFrame} (staying : frame.kind ≠ .leave) :
    (node.onControlFrame .first 0 frame).registry = hearing node.registry frame := by
  unfold hearing
  cases kind : frame.kind with
  | join =>
    rw [registry_onJoin kind]
    exact (if_neg (by simp)).symm
  | heartbeat =>
    rw [registry_onHeartbeat kind]
    cases known : node.registry.contains frame.sender with
    | true =>
      rw [registry_hear_known known]
      exact (if_pos (by simp)).symm
    | false =>
      rw [registry_hear_stranger known]
      exact (if_neg (by simp)).symm
  | leave => exact absurd kind staying

theorem onWire_asking (config : Config) (registry : Registry) (peers : List Peer) :
    onWire (asking config registry peers) =
      ((strangers config.id registry peers).map fun peer =>
        (peer.address, (saying config registry .join).wire) : Multiset _) := by
  simp only [onWire, asking, List.map_map]
  rfl

theorem Shows.hears (shows : node.Shows config face) {frame : ControlFrame} (short : frame.Short)
    (foreign : frame.sender ≠ config.id) (staying : frame.kind ≠ .leave)
    (talks : (saying config (hearing face.registry frame) .join).Short) :
    (node.receive .first 0 frame.wire).Shows config (face.hear config frame) := by
  have elsewhere : frame.sender ≠ node.id := by
    rwa [Node.id, shows.configured]
  rw [receive_of_read short.read?, if_neg elsewhere]
  have does := node.onControlFrame_does .first 0 frame
  have registry : (node.onControlFrame .first 0 frame).registry = hearing face.registry frame := by
    rw [registry_hearing node staying, shows.registry]
  refine ⟨does.config.trans shows.configured, registry, ?_,
    does.outbox.sound shows.sound, does.outbox.closed.trans shows.opened, ?_⟩
  · rw [does.socket]
    exact shows.bound
  · rw [Face.hear, onWire_append, onWire_append, onWire_asking, ← shows.queued, ← shows.configured]
    rw [← shows.configured] at talks
    -- A join is answered first, and then the strangers among its peers are asked; a heartbeat is
    -- not answered.
    cases kind : frame.kind with
    | join =>
      have joined : (node.join 0 frame.member).registry = hearing face.registry frame := by
        rw [registry_join, ← registry_onJoin kind, registry]
      have answered := controlDatagram_saying (node.join 0 frame.member) rfl joined
        (short_heartbeat talks) 0
      have asked := controlDatagram_saying (node.join 0 frame.member) rfl joined talks
      rw [queued_onJoin shows.sound.isNumbered shows.opened kind answered asked, ← registry_join,
        joined, answering, if_pos kind, ← Multiset.singleton_add]
      rfl
    | heartbeat =>
      have heard : (node.hear 0 frame.member).registry = hearing face.registry frame := by
        rw [← registry_onHeartbeat kind, registry]
      obtain ⟨roster, hears⟩ := node.hear_eq 0 frame.member
      have configured : (node.hear 0 frame.member).config = node.config := by rw [hears]
      have asked := controlDatagram_saying (node.hear 0 frame.member) configured heard talks
      rw [queued_onHeartbeat shows.sound.isNumbered shows.opened kind asked, heard, answering,
        if_neg (by simp [kind])]
      exact (congrArg _ (Multiset.zero_add _)).symm
    | leave => exact absurd kind staying

theorem shows_finishStart {starting : Node} (begun : (new config).beginStart = .ok starting)
    (socket : SocketId) (talks : (saying config (Face.start config).registry .join).Short) :
    (starting.finishStart .first 0 socket).Shows config (.start config) := by
  have begins : { new config with lifecycle := .starting } = starting := Except.ok.inj begun
  subst begins
  let bound : Node :=
    { new config with lifecycle := .starting, socket := some socket, seeds := config.seedAddresses }
  have joined : (bound.join 0 config.member).registry = (Face.start config).registry :=
    bound.registry_join 0 config.member
  have asked := controlDatagram_saying (bound.join 0 config.member) rfl joined talks
  have utters := utters_finishStart { new config with lifecycle := .starting } .first 0 socket
  refine ⟨utters.config, utters.registry.trans joined, ?_,
    utters.outbox.sound Outbox.sound_empty, utters.outbox.closed, ?_⟩
  · rw [utters.socket]
    rfl
  · have joining :
        ((bound.join 0 config.member).sendJoins .first config.seedAddresses).outbox.queued =
        (config.seedAddresses.map fun seed =>
          (seed, (saying config (Face.start config).registry .join).wire) : Multiset _) + 0 :=
      queued_sendJoins Outbox.sound_empty.isNumbered rfl asked config.seedAddresses
    rw [Multiset.add_zero] at joining
    refine Eq.trans joining ?_
    simp only [onWire, Face.start, List.map_map]
    rfl

end Node

end ClusterCoordination
