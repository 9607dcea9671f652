import ClusterCoordination.Node.State
import ClusterCoordination.Wire.Datagram
/-!
# Sending

How a node makes datagrams and queues them. Control frames advertise some of the members the sender
believes to be alive; which of them is left to a choice.
-/

set_option autoImplicit false

namespace ClusterCoordination

def advertisedPeers : Nat := 16

/-- A way to choose which peers a frame advertises: as many as fit, each at most once. -/
structure PeerSample where
  choose : List Member → List Member
  chosen : ∀ members, ∃ others, (choose members ++ others).Perm members
  length_choose : ∀ members, (choose members).length = min advertisedPeers members.length

def PeerSample.first : PeerSample where
  choose := List.take advertisedPeers
  chosen := fun members =>
    ⟨members.drop advertisedPeers, by rw [List.take_append_drop]⟩
  length_choose := fun members => by simp

/-- The samples of the frames that are made in one step. Every frame has a sample of its own. -/
abbrev PeerChoice := Nat → PeerSample

namespace PeerChoice

def first : PeerChoice := fun _ => .first

/-- What is left for the frames to come once a frame has been made. -/
def rest (choice : PeerChoice) : PeerChoice := fun frame => choice (frame + 1)

end PeerChoice

namespace Node

def datagram (node : Node) (scope : Int16) (payload : Bytes) : Except ClusterError Bytes :=
  match Datagram.encode ⟨scope, node.id.text, payload⟩ with
  | .ok data => .ok data
  | .error fault => .error (.serialization fault.message)

def frame (node : Node) (scope : Int16) (payload : Payload) : Except ClusterError Bytes :=
  match payload.encode with
  | .ok bytes => node.datagram scope bytes
  | .error status => .error (.serialization status.message)

def push (node : Node) (address : SocketAddress) (outgoing : Outgoing) : Node :=
  match node.outbox.push address outgoing with
  | (outbox, .queued drain wake) =>
    let queued := { node with outbox := outbox }
    if wake then queued.wake (.draining drain) else queued
  | (outbox, .refused) =>
    let refused := { node with outbox := outbox }
    match outgoing.receipt with
    | some receipt => refused.acknowledge ⟨receipt, .error .queueClosed⟩
    | none => refused

def enqueue (node : Node) (address : SocketAddress) (data : Bytes) : Node :=
  node.push address ⟨data, none⟩

def alivePeers (node : Node) : List Member :=
  node.registry.members.filter fun member => member.alive && member.id ≠ node.id

def controlFrame (node : Node) (sample : PeerSample) (kind : ControlKind) : ControlFrame where
  sender := node.id
  name := node.config.name
  address := node.config.publicAddress
  kind := kind
  peers :=
    match kind with
    | .leave => []
    | .join | .heartbeat => (sample.choose node.alivePeers).map Member.peer

def controlDatagram (node : Node) (sample : PeerSample) (kind : ControlKind) :
    Except ClusterError Bytes :=
  node.frame RawScope.control ⟨.control, node.controlFrame sample kind⟩

def sendControl (node : Node) (sample : PeerSample) (address : SocketAddress) (kind : ControlKind) :
    Node :=
  match node.controlDatagram sample kind with
  | .ok data => node.enqueue address data
  | .error _ => node

def sendJoins (node : Node) (choice : PeerChoice) : List SocketAddress → Node
  | [] => node
  | address :: others =>
    (node.sendControl (choice 0) address .join).sendJoins choice.rest others

/-- All heartbeats of a round are the same frame. -/
def sendHeartbeats (node : Node) (sample : PeerSample) : Node :=
  match node.controlDatagram sample .heartbeat with
  | .ok data =>
    node.registry.heartbeatTargets.foldl (fun node member => node.enqueue member.address data) node
  | .error _ => node

def broadcast (node : Node) (scope : Scope) (payload : Bytes) : Except ClusterError (Node × Nat) :=
  match node.datagram scope.value payload with
  | .error error => .error error
  | .ok data =>
    let targets := node.alivePeers
    .ok (targets.foldl (fun node member => node.enqueue member.address data) node, targets.length)

def sendMessage (node : Node) (scope : Scope) (message : Payload) (target : Option MemberId) :
    Except ClusterError (Node × Nat) :=
  match node.whenRunning () with
  | .error error => .error error
  | .ok () =>
    match message.encode with
    | .error status => .error (.serialization status.message)
    | .ok payload =>
      match target with
      | none => node.broadcast scope payload
      | some id =>
        match node.aliveMember id with
        | .error error => .error error
        | .ok member =>
          match node.datagram scope.value payload with
          | .error error => .error error
          | .ok data => .ok (node.enqueue member.address data, 1)

end Node

end ClusterCoordination
