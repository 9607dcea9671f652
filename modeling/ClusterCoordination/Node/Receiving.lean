import ClusterCoordination.Node.Sending
import ClusterCoordination.Wire.Content
/-!
# Receiving

What a node does with a datagram. Malformed ones, frames that claim another sender and frames of the
node itself leave no trace.
-/

set_option autoImplicit false

namespace ClusterCoordination

namespace Node

def join (node : Node) (now : Instant) (member : Member) : Node :=
  { node with roster := (node.roster.join now member).1 }

def hear (node : Node) (now : Instant) (member : Member) : Node :=
  match node.roster.heartbeat now member.id with
  | (roster, .unknown, _) => { node with roster := roster }.join now member
  | (roster, _, _) => { node with roster := roster }

def bidFarewell (node : Node) (now : Instant) (member : Member) : Node :=
  let left := { node with roster := (node.roster.leave now member.id).1 }
  let failed := left.failCalls member.id leftReason
  { failed with outbox := failed.outbox.disconnect member.address }

/-- The peers that a node asks to join: neither the node itself nor members that it knows. -/
def strangers (id : MemberId) (registry : Registry) (peers : List Peer) : List Peer :=
  peers.filter fun peer => !(decide (peer.id = id) || registry.contains peer.id)

-- A peer becomes a member only by a frame of its own.
def discover (node : Node) (choice : PeerChoice) (peers : List Peer) : Node :=
  node.sendJoins choice ((strangers node.id node.registry peers).map Peer.address)

def onControlFrame (node : Node) (choice : PeerChoice) (now : Instant) (frame : ControlFrame) :
    Node :=
  let member := frame.member
  match frame.kind with
  | .join =>
    ((node.join now member).sendControl (choice 0) member.address .heartbeat).discover choice.rest
      frame.peers
  | .heartbeat => (node.hear now member).discover choice frame.peers
  | .leave => node.bidFarewell now member

/-- A frame counts only if it names its sender, and that is another member. -/
def onControl (node : Node) (choice : PeerChoice) (now : Instant) (sender : MemberId)
    (frame : ControlFrame) : Node :=
  if frame.sender ≠ sender ∨ frame.sender = node.id then node
  else node.onControlFrame choice now frame

def onRequest (node : Node) (sender : MemberId) (request : Request) : Node :=
  let arrived : ServedRequest := ⟨node.nextRequest, sender, request, .arrived⟩
  { node with
    served := node.served ++ [arrived]
    nextRequest := node.nextRequest + 1 }.wake (.serving arrived.id)

/-- The outcome of a call has come. It is given to the caller, if that still waits. -/
def onResponse (node : Node) (sender : MemberId) (response : Response) : Node :=
  match node.pending.complete response.correlation (.ofOutcome response.outcome sender) with
  | (pending, some delivery) => { node with pending := pending }.deliver [delivery]
  | (_, none) => node

def onMessage (node : Node) (message : InboundMessage) : Node :=
  let queued := { node with inbound := node.inbound ++ [message] }
  if node.inbound.isEmpty && node.busy.isNone then queued.wake .handling else queued

def receive (node : Node) (choice : PeerChoice) (now : Instant) (data : Bytes) : Node :=
  match Datagram.decode data with
  | .error _ => node
  | .ok datagram =>
    let sender : MemberId := ⟨datagram.sender⟩
    match datagram.content with
    | .control frame => node.onControl choice now sender frame
    | .request request => node.onRequest sender request
    | .response response => node.onResponse sender response
    | .message scope payload => node.onMessage ⟨sender, scope, payload⟩
    | .unreadable => node

end Node

end ClusterCoordination
