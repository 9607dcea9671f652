import ClusterCoordination.Node.Sending
/-!
# Periodic rounds

A heartbeat round tells the other members that the node is alive, and knocks on seeds where no
member is alive. A detection round finds dead members, forgets those dead for long, drops queues
that nobody needs and expires overdue calls.
-/

set_option autoImplicit false

namespace ClusterCoordination

namespace Node

def knock (node : Node) (choice : PeerChoice) : Node :=
  node.sendJoins choice (node.seeds.filter fun seed => !node.registry.hasAliveAddress seed)

def heartbeatRound (node : Node) (choice : PeerChoice) : Node :=
  (node.sendHeartbeats (choice 0)).knock choice.rest

def markDead (node : Node) (now : Instant) : Node :=
  let (roster, dead, _) := node.roster.checkLiveness now node.config.heartbeatTimeout
  dead.foldl (fun node id => node.failCalls id silentReason)
    { node with roster := roster }

def purge (node : Node) (now : Instant) : Node :=
  { node with roster := (node.roster.purgeDead now node.config.deadMemberGrace).1 }

def dropQueues (node : Node) : Node :=
  { node with
    -- Addresses that were advertised and never joined lose their queue here.
    outbox := node.outbox.retain fun address =>
      node.seeds.contains address || node.registry.hasAddress address }

/-- Calls whose deadline has passed time out, whether or not their callers look at the clock. -/
def expireCalls (node : Node) (now : Instant) : Node :=
  let (pending, expired) := node.pending.expireOverdue now
  ({ node with pending := pending }.countTimeouts expired.length).deliver expired

def elect (node : Node) : Node :=
  { node with
    roster := { node.roster with elector := (node.roster.elector.recompute node.registry.view).1 } }

def detectionRound (node : Node) (now : Instant) : Node :=
  ((((node.markDead now).purge now).dropQueues).expireCalls now).elect

end Node

end ClusterCoordination
