import ClusterCoordination.Node.Receiving
import ClusterCoordination.Proofs.Archive.Payload
import ClusterCoordination.Proofs.Wire.DatagramCodec
/-!
# Frames between nodes

A frame that fits into a datagram is read by whichever node receives it as the frame it was, sent by
the node it came from.
-/

set_option autoImplicit false

namespace ClusterCoordination

namespace Node

variable {node : Node}

theorem frame_of_fits (named : (textBytes node.id.text).length ≤ 65535) {type : PayloadType}
    {value : type.Carrier} (fits : type.Fits value) (scope : Int16) :
    ∃ data bytes, node.frame scope ⟨type, value⟩ = .ok data ∧
      Datagram.decode data = .ok ⟨scope, node.id.text, bytes⟩ ∧ type.decode bytes = .ok value := by
  let bytes := type.form.schema.write (type.form.toValue value)
  have short : bytes.length < 2147483648 := fits.2
  have writable : Datagram.Writable ⟨scope, node.id.text, bytes⟩ :=
    ⟨named, by change bytes.length ≤ _; omega⟩
  refine ⟨_, bytes, ?_, Datagram.decode_layout writable, PayloadType.decode_write fits⟩
  have encoded : Payload.encode ⟨type, value⟩ = .ok bytes := PayloadType.encode_of_fits fits
  simp only [frame, encoded, datagram, Datagram.encode_of_writable writable]

theorem receive_request (named : (textBytes node.id.text).length ≤ 65535) {request : Request}
    (fits : PayloadType.request.Fits request) :
    ∃ data, node.frame RawScope.request ⟨.request, request⟩ = .ok data ∧
      ∀ (receiver : Node) (choice : PeerChoice) (now : Instant),
        receiver.receive choice now data = receiver.onRequest node.id request := by
  obtain ⟨data, bytes, framed, decoded, read⟩ := frame_of_fits named fits RawScope.request
  refine ⟨data, framed, ?_⟩
  intro receiver choice now
  have content : Datagram.content ⟨RawScope.request, node.id.text, bytes⟩ = .request request := by
    simp [Datagram.content, Content.ofArchive, RawScope.request, RawScope.control, read]
  simp only [receive, decoded, content]

theorem content_response {sender : String} {bytes : Bytes} {response : Response}
    (read : PayloadType.response.decode bytes = .ok response) :
    Datagram.content ⟨RawScope.response, sender, bytes⟩ = .response response := by
  simp [Datagram.content, Content.ofArchive, RawScope.response, RawScope.request, RawScope.control,
    read]

theorem receive_response (named : (textBytes node.id.text).length ≤ 65535) {response : Response}
    (fits : PayloadType.response.Fits response) :
    ∃ data, node.frame RawScope.response ⟨.response, response⟩ = .ok data ∧
      ∀ (receiver : Node) (choice : PeerChoice) (now : Instant),
        receiver.receive choice now data = receiver.onResponse node.id response := by
  obtain ⟨data, bytes, framed, decoded, read⟩ := frame_of_fits named fits RawScope.response
  refine ⟨data, framed, ?_⟩
  intro receiver choice now
  simp only [receive, decoded, content_response read]

end Node

end ClusterCoordination
