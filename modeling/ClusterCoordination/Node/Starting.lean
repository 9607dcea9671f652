import ClusterCoordination.Node.Receiving
/-!
# Starting and stopping

Starting opens the socket, registers the local member and asks the seeds for members. Stopping tells
the others, waits until they have been told, and then gives everything up.
-/

set_option autoImplicit false

namespace ClusterCoordination

def farewellTimeout : Duration := 1000

namespace Node

def transition (node : Node) (source target : Lifecycle) : Except ClusterError Node :=
  if node.lifecycle = source then .ok { node with lifecycle := target }
  else .error (.state source node.lifecycle)

def beginStart (node : Node) : Except ClusterError Node := node.transition .created .starting

def failStart (node : Node) : Node := { node with lifecycle := .failed }

-- The activities of a running node. The periodic ones need an interval.
def activities (config : Config) : List Activity :=
  [.reading, .handling] ++ if 0 < config.heartbeatInterval then [.beating, .detecting] else []

def finishStart (node : Node) (choice : PeerChoice) (now : Instant) (socket : SocketId) : Node :=
  let seeds := node.config.seedAddresses
  let joined := { node with socket := some socket, seeds := seeds }.join now node.config.member
  let asking := joined.sendJoins choice seeds
  { asking with
    lifecycle := .running
    woken := asking.woken ++ activities node.config }

def sayFarewell (node : Node) (choice : PeerChoice) : Node :=
  match node.controlDatagram (choice 0) .leave with
  | .error _ => node
  | .ok data =>
    let targets := node.registry.heartbeatTargets.filter Member.alive
    targets.foldl (fun node member => node.push member.address ⟨data, some (.farewell member.id)⟩)
      { node with farewells := targets.map Member.id }

/-- The node is told to stop: whatever it serves and calls is given up. -/
def beginStop (node : Node) (choice : PeerChoice) : Except ClusterError Node :=
  match node.transition .running .stopping with
  | .error error => .error error
  | .ok stopping =>
    .ok (({ stopping with
      stopRequested := true
      woken := stopping.woken ++ stopping.served.map fun request => .serving request.id
    } : Node).sayFarewell choice)

def finishStop (node : Node) (now : Instant) : Node :=
  let left := { node with roster := (node.roster.leave now node.id).1 }
  let silent := left.cancelCalls
  { silent with
    socket := none
    inbound := []
    busy := none
    farewells := []
    outbox := silent.outbox.shutdown
    lifecycle := .stopped }

end Node

end ClusterCoordination
