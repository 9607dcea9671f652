import ClusterCoordination.Proofs.Lifecycle.Requests
import ClusterCoordination.Proofs.Network.Bystanders
import ClusterCoordination.Proofs.Nodes.Tasks
/-!
# A node among its callers

A node on its network, with those who have called through it. Starting and stopping take several
steps, between which everybody else may do something; tasks go on for as long as they like.
-/

set_option autoImplicit false

namespace ClusterCoordination

namespace Node

def enter (node : Node) (now : Instant) (socket : SocketId) : Node :=
  { node with socket := some socket, seeds := node.config.seedAddresses }.join now
    node.config.member

def completeStart (node : Node) (choice : PeerChoice) : Node :=
  let asking := node.sendJoins choice node.seeds
  { asking with
    lifecycle := .running
    woken := asking.woken ++ activities node.config }

theorem finishStart_eq (node : Node) (choice : PeerChoice) (now : Instant) (socket : SocketId) :
    node.finishStart choice now socket = (node.enter now socket).completeStart choice := rfl

/-- Everything is given up; the socket is being closed. -/
def tearDown (node : Node) (now : Instant) : Node :=
  { node.finishStop now with lifecycle := .stopping }

theorem finishStop_eq (node : Node) (now : Instant) :
    node.finishStop now = { node.tearDown now with lifecycle := .stopped } := rfl

end Node

structure Host where
  network : Network
  node : Node
  -- The calls whose callers have not gone away.
  calls : List (MemberId × Branch)
  -- What has been handed to the socket, each with the address it is for.
  handed : List (SocketAddress × Bytes)

namespace Host

def new (network : Network) (config : Config) : Host := ⟨network, .new config, [], []⟩

inductive Event where
  | start
  | opened (now : Instant)
  -- The socket could not be opened, for a reason of its own.
  | refused (fault : NetworkFault)
  | resolved (choice : PeerChoice)
  | stop (choice : PeerChoice)
  -- The farewells have been sent, or that has taken too long.
  | announced (now : Instant)
  | closed
  | ask (question : Node.Question)
  | poll (place : Nat) (now : Instant) (stopFirst : Bool)
  | abandon (place : Nat)
  | receive (choice : PeerChoice) (now : Instant) (data : Bytes)
  | beat (choice : PeerChoice)
  | detect (now : Instant)
  | handle (now : Instant)
  | serve (clock : Clock) (request : RequestId) (workFirst : Bool)
  -- A drain hands its next datagram to the socket, and the socket puts it on the network.
  | take (drain : DrainId)
  | transmit (drain : DrainId)
  | elsewhere (operation : Network.Operation)

inductive Report where
  | started (result : Except ClusterError Unit)
  | stopped (result : Except ClusterError Unit)
  | answered (question : Node.Question) (result : Except ClusterError question.Answer)

namespace Report

def hasStarted : Report → Bool
  | .started (.ok ()) => true
  | _ => false

def hasFailed : Report → Bool
  | .started (.error (.startup _)) => true
  | _ => false

def hasStopped : Report → Bool
  | .stopped (.ok ()) => true
  | _ => false

end Report

/-- The tasks of the node have begun. -/
def isUp (host : Host) : Bool :=
  host.node.lifecycle = .running || host.node.lifecycle = .stopping ||
    host.node.lifecycle = .stopped

def isStopped (host : Host) : Bool := host.node.lifecycle = .stopped

def isOpening (host : Host) : Bool :=
  host.node.lifecycle = .starting && host.node.socket.isNone

def isResolving (host : Host) : Bool :=
  host.node.lifecycle = .starting && host.node.socket.isSome

def isAnnouncing (host : Host) : Bool :=
  host.node.lifecycle = .stopping && host.node.socket.isSome

def isClosing (host : Host) : Bool :=
  host.node.lifecycle = .stopping && host.node.socket.isNone

def become (host : Host) (node : Node) : Host := { host with node := node }

def fail (host : Host) (fault : NetworkFault) : Host × Option Report :=
  (host.become host.node.failStart, some (.started (.error (.startup fault))))

def openSocket (host : Host) (now : Instant) : Host × Option Report :=
  match host.network.bind host.node.config.listenAddress with
  | (network, .ok socket) =>
    ({ host with network := network, node := host.node.enter now socket }, none)
  | (network, .error fault) => { host with network := network }.fail fault

def hand (host : Host) (drain : DrainId) : Host :=
  match host.node.outbox.take drain with
  | (outbox, some item) =>
    { host with node := { host.node with outbox := outbox }, handed := host.handed ++ [item] }
  | (_, none) => host

def transmit (host : Host) (drain : DrainId) : Host :=
  match host.node.outbox.sending? drain with
  | some (target, data) =>
    let (network, result) := host.network.send host.node.config.listenAddress target data
    { host with network := network, node := host.node.completed drain result }
  | none => host

def poll (host : Host) (place : Nat) (now : Instant) (stopFirst : Bool) : Host :=
  match host.calls[place]? with
  | some (target, branch) =>
    let (node, branch) := host.node.resume now stopFirst branch
    { host with node := node, calls := host.calls.set place (target, branch) }
  | none => host

def abandon (host : Host) (place : Nat) : Host :=
  match host.calls[place]? with
  | some call =>
    { host with node := host.node.abandonBranches [call], calls := host.calls.eraseIdx place }
  | none => host

def ask (host : Host) (question : Node.Question) : Host × Option Report :=
  match host.node.ask question with
  | .ok (node, answer) =>
    ({ host with node := node, calls := host.calls ++ question.begun answer },
      some (.answered question (.ok answer)))
  | .error error => (host, some (.answered question (.error error)))

def work (host : Host) : Event → Host
  | .poll place now stopFirst => host.poll place now stopFirst
  | .abandon place => host.abandon place
  | .receive choice now data => host.become (host.node.receive choice now data)
  | .beat choice => host.become (host.node.heartbeatRound choice)
  | .detect now => host.become (host.node.detectionRound now)
  | .handle now => host.become (host.node.handleMessages now).1
  | .serve clock request workFirst => host.become (host.node.attend clock request workFirst)
  | .take drain => host.hand drain
  | .transmit drain => host.transmit drain
  | _ => host

def proceed (host : Host) (event : Event) : Host := if host.isUp then host.work event else host

/-- Nobody else does anything with the socket of the node. -/
def spares (host : Host) (operation : Network.Operation) : Bool :=
  operation.socket?.all fun socket => host.node.socket ≠ some socket

/-- What does not fit the state of the node leaves everything as it is. -/
def step (host : Host) : Event → Host × Option Report
  | .start =>
    match host.node.beginStart with
    | .ok starting => (host.become starting, none)
    | .error error => (host, some (.started (.error error)))
  | .opened now => if host.isOpening then host.openSocket now else (host, none)
  | .refused fault => if host.isOpening then host.fail fault else (host, none)
  | .resolved choice =>
    if host.isResolving then
      (host.become (host.node.completeStart choice), some (.started (.ok ())))
    else (host, none)
  | .stop choice =>
    match host.node.beginStop choice with
    | .ok stopping => (host.become stopping, none)
    | .error error => (host, some (.stopped (.error error)))
  | .announced now =>
    match host.node.socket with
    | some socket =>
      if host.isAnnouncing then
        ({ host with
            network := host.network.close socket
            node := host.node.tearDown now }, none)
      else (host, none)
    | none => (host, none)
  | .closed =>
    if host.isClosing then
      (host.become { host.node with lifecycle := .stopped }, some (.stopped (.ok ())))
    else (host, none)
  | .ask question => host.ask question
  | .elsewhere operation =>
    if host.spares operation then
      ({ host with network := (host.network.perform operation).1 }, none)
    else (host, none)
  | event => (host.proceed event, none)

def run (host : Host) : List Event → Host × List Report
  | [] => (host, [])
  | event :: rest =>
    let (next, report) := host.step event
    let (last, reports) := next.run rest
    (last, report.toList ++ reports)

theorem run_append (host : Host) (events more : List Event) :
    host.run (events ++ more) =
      (((host.run events).1.run more).1,
        (host.run events).2 ++ ((host.run events).1.run more).2) := by
  induction events generalizing host with
  | nil => rfl
  | cons event rest ih =>
    simp only [List.cons_append, run, ih, List.append_assoc]

end Host

end ClusterCoordination
