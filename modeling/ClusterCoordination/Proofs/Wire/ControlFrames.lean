import ClusterCoordination.Proofs.Archive.Lengths
import ClusterCoordination.Proofs.Wire.Frames
/-!
# Control frames on the wire

Of a control frame that could be encoded, a node reads what its sender wrote. Whether one can be
encoded depends on what it says, not on its kind.
-/

set_option autoImplicit false

namespace ClusterCoordination

/-- The control frame of a datagram, if it is one and names the sender that the datagram names. -/
def ControlFrame.read? (data : Bytes) : Option ControlFrame :=
  match Datagram.decode data with
  | .error _ => none
  | .ok datagram =>
    match datagram.content with
    | .control frame => if frame.sender = ⟨datagram.sender⟩ then some frame else none
    | .request _ | .response _ | .message .. | .unreadable => none

theorem ControlFrame.read?_eq_some {data : Bytes} {frame : ControlFrame}
    (read : ControlFrame.read? data = some frame) :
    ∃ datagram, Datagram.decode data = .ok datagram ∧ datagram.content = .control frame ∧
      datagram.sender = frame.sender.text := by
  unfold read? at read
  split at read
  next => simp at read
  next datagram decoded =>
    split at read
    next other content =>
      simp only [Option.ite_none_right_eq_some, Option.some.injEq] at read
      obtain ⟨named, rfl⟩ := read
      exact ⟨datagram, decoded, content, by rw [named]⟩
    all_goals simp at read

theorem ControlFrame.length_write_kind (frame : ControlFrame) (kind : ControlKind) :
    (ControlFrame.form.schema.write
      (ControlFrame.form.toValue { frame with kind := kind })).length =
      (ControlFrame.form.schema.write (ControlFrame.form.toValue frame)).length := by
  have before : (ControlFrame.form.schema.place
      (ControlFrame.form.toValue { frame with kind := kind }) 0).before =
      (ControlFrame.form.schema.place (ControlFrame.form.toValue frame) 0).before := by
    obtain ⟨sender, name, address, old, peers⟩ := frame
    cases kind <;> cases old <;> rfl
  simp only [Schema.write, List.length_append, Schema.length_inPlace, before]

theorem pointsTo_address (address : SocketAddress) :
    SocketAddress.form.schema.PointsTo (SocketAddress.form.toValue address) 0 := by
  intro position
  cases address <;> exact Nat.le_refl 0

theorem pointsTo_kind (kind : ControlKind) :
    ControlKind.form.schema.PointsTo (ControlKind.form.toValue kind) 0 := by
  intro position
  cases kind <;> exact Nat.le_refl 0

theorem pointsTo_peer (peer : Peer) :
    Peer.form.schema.PointsTo (Peer.form.toValue peer)
      ((textBytes peer.id.text).length + ((textBytes peer.name).length + (0 + 0))) :=
  pointsTo_record (pointTo_cons (pointsTo_text peer.id.text) (pointTo_cons (pointsTo_text peer.name)
    (pointTo_cons (pointsTo_address peer.address) pointTo_nil)))

/-- How long the id and the name of a member may be for it to be able to send control frames. -/
def nameLimit : Nat := 65535

def isBrief (id : MemberId) (name : String) : Bool :=
  (textBytes id.text).length ≤ nameLimit && (textBytes name).length ≤ nameLimit

namespace ControlFrame

def Short (frame : ControlFrame) : Prop :=
  PayloadType.control.Fits frame ∧ (textBytes frame.sender.text).length ≤ 65535

instance (frame : ControlFrame) : Decidable frame.Short :=
  inferInstanceAs (Decidable ((_ = _ ∧ _ < _) ∧ _ ≤ _))

def datagram (frame : ControlFrame) : Datagram where
  scope := RawScope.control
  sender := frame.sender.text
  payload := PayloadType.control.form.schema.write (PayloadType.control.form.toValue frame)

def wire (frame : ControlFrame) : Bytes := frame.datagram.layout

variable {frame : ControlFrame}

theorem Short.writable (short : frame.Short) : frame.datagram.Writable := by
  have limit : frame.datagram.payload.length < 2147483648 := short.1.2
  exact ⟨short.2, by omega⟩

theorem Short.read? (short : frame.Short) : ControlFrame.read? frame.wire = some frame := by
  have content : frame.datagram.content = .control frame := by
    simp only [Datagram.content, datagram, if_true, Content.ofArchive,
      PayloadType.decode_write short.1]
  simp only [ControlFrame.read?, wire, Datagram.decode_layout short.writable, content]
  exact if_pos rfl

theorem Short.of_kind (short : frame.Short) (kind : ControlKind) :
    ({ frame with kind := kind } : ControlFrame).Short := by
  refine ⟨⟨rfl, ?_⟩, short.2⟩
  exact lt_of_eq_of_lt (frame.length_write_kind kind) short.1.2

structure Brief (frame : ControlFrame) : Prop where
  sender : isBrief frame.sender frame.name
  few : frame.peers.length ≤ advertisedPeers
  peers : frame.peers.all fun peer => isBrief peer.id peer.name

theorem Brief.short (brief : frame.Brief) : frame.Short := by
  have peers : ∀ value ∈ frame.peers.map Peer.form.toValue,
      Peer.form.schema.PointsTo value (2 * nameLimit) := by
    intro value among position
    obtain ⟨peer, listed, rfl⟩ := List.mem_map.mp among
    have points := pointsTo_peer peer position
    have limits := List.all_eq_true.mp brief.peers peer listed
    rw [isBrief, Bool.and_eq_true, decide_eq_true_iff, decide_eq_true_iff] at limits
    omega
  -- Sixteen peers with two names each, and the names of the sender, stay far below the limit.
  have listed : (Schema.list Peer.form.schema).PointsTo (frame.peers.map Peer.form.toValue)
      (frame.peers.length * (2 * nameLimit) + 4 + frame.peers.length * 48) := by
    have points := pointsTo_list peers
    rwa [List.length_map] at points
  have points : ControlFrame.form.schema.PointsTo (ControlFrame.form.toValue frame) _ :=
    pointsTo_record (pointTo_cons (pointsTo_text frame.sender.text)
      (pointTo_cons (pointsTo_text frame.name) (pointTo_cons (pointsTo_address frame.address)
        (pointTo_cons (pointsTo_kind frame.kind) (pointTo_cons listed pointTo_nil)))))
  have written := points.length_write_le
  have alignment : ControlFrame.form.schema.alignment = 4 := by decide
  have size : ControlFrame.form.schema.size = 60 := by decide
  have few := brief.few
  have limits := brief.sender
  rw [isBrief, Bool.and_eq_true, decide_eq_true_iff, decide_eq_true_iff] at limits
  rw [alignment, size] at written
  refine ⟨⟨rfl, Nat.lt_of_le_of_lt written ?_⟩, limits.1⟩
  unfold nameLimit advertisedPeers PayloadType.archiveLimit at *
  omega

instance (frame : ControlFrame) : Decidable frame.Brief :=
  decidable_of_iff
    (isBrief frame.sender frame.name ∧ frame.peers.length ≤ advertisedPeers ∧
      frame.peers.all fun peer => isBrief peer.id peer.name)
    ⟨fun ⟨sender, few, peers⟩ => ⟨sender, few, peers⟩,
    fun brief => ⟨brief.sender, brief.few, brief.peers⟩⟩

end ControlFrame

namespace Node

variable {node : Node}

theorem decode_of_datagram {scope : Int16} {payload data : Bytes}
    (made : node.datagram scope payload = .ok data) :
    Datagram.decode data = .ok ⟨scope, node.id.text, payload⟩ := by
  unfold datagram at made
  split at made
  next written encoded =>
    obtain rfl := Except.ok.inj made
    obtain ⟨writable, rfl⟩ := Datagram.encode_eq_ok_iff.mp encoded
    exact Datagram.decode_layout writable
  next => simp at made

theorem decode_of_frame {scope : Int16} {type : PayloadType} {value : type.Carrier} {data : Bytes}
    (framed : node.frame scope ⟨type, value⟩ = .ok data) :
    ∃ bytes, type.encode value = .ok bytes ∧ type.decode bytes = .ok value ∧
      Datagram.decode data = .ok ⟨scope, node.id.text, bytes⟩ := by
  unfold frame at framed
  split at framed
  next bytes encoded =>
    exact ⟨bytes, encoded, PayloadType.decode_of_encode encoded, decode_of_datagram framed⟩
  next => simp at framed

theorem read?_controlDatagram {sample : PeerSample} {kind : ControlKind} {data : Bytes}
    (made : node.controlDatagram sample kind = .ok data) :
    ControlFrame.read? data = some (node.controlFrame sample kind) := by
  obtain ⟨bytes, -, read, decoded⟩ := decode_of_frame made
  have content : Datagram.content ⟨RawScope.control, node.id.text, bytes⟩ =
      .control (node.controlFrame sample kind) := by
    simp [Datagram.content, Content.ofArchive, read]
  simp [ControlFrame.read?, decoded, content, controlFrame]

theorem controlDatagram_of_short {sample : PeerSample} {kind : ControlKind}
    (short : (node.controlFrame sample kind).Short) :
    node.controlDatagram sample kind = .ok (node.controlFrame sample kind).wire := by
  have encoded : Payload.encode ⟨.control, node.controlFrame sample kind⟩ =
      .ok (node.controlFrame sample kind).datagram.payload := PayloadType.encode_of_fits short.1
  have written : Datagram.encode ⟨RawScope.control, node.id.text,
      (node.controlFrame sample kind).datagram.payload⟩ =
        .ok (node.controlFrame sample kind).wire :=
    Datagram.encode_of_writable short.writable
  simp only [controlDatagram, frame, encoded, datagram, written]

theorem read?_of_other {scope : Int16} (other : scope ≠ RawScope.control) {payload data : Bytes}
    (made : node.datagram scope payload = .ok data) : ControlFrame.read? data = none := by
  have uncontrolled (frame : ControlFrame) :
      Datagram.content ⟨scope, node.id.text, payload⟩ ≠ .control frame := by
    unfold Datagram.content Content.ofArchive
    simp only [other, if_false]
    repeat' split
    all_goals simp
  cases read : ControlFrame.read? data with
  | none => rfl
  | some frame =>
    obtain ⟨datagram, decoded, content, -⟩ := ControlFrame.read?_eq_some read
    rw [decode_of_datagram made] at decoded
    obtain rfl := Except.ok.inj decoded
    exact absurd content (uncontrolled frame)

theorem receive_of_read {choice : PeerChoice} {now : Instant} {data : Bytes} {frame : ControlFrame}
    (read : ControlFrame.read? data = some frame) :
    node.receive choice now data =
      if frame.sender = node.id then node else node.onControlFrame choice now frame := by
  obtain ⟨datagram, decoded, content, named⟩ := ControlFrame.read?_eq_some read
  simp [receive, decoded, content, onControl, named]

theorem receive_wire {frame : ControlFrame} (brief : frame.Brief) (other : frame.sender ≠ node.id)
    (choice : PeerChoice) (now : Instant) :
    node.receive choice now frame.wire = node.onControlFrame choice now frame :=
  (receive_of_read brief.short.read?).trans (if_neg other)

end Node

end ClusterCoordination
