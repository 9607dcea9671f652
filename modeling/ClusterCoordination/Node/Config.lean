import ClusterCoordination.Clock
import ClusterCoordination.Member
/-!
# The configuration of a node

Who the node is, where it listens, which addresses it tries first, and how long it waits for what.
-/

set_option autoImplicit false

namespace ClusterCoordination

structure Config where
  clusterName : String
  id : MemberId
  name : String
  -- Where the node binds its socket.
  listenAddress : SocketAddress
  -- Where other members reach the node.
  publicAddress : SocketAddress
  seeds : List String
  heartbeatInterval : Duration
  -- A member that is silent for longer is considered dead.
  heartbeatTimeout : Duration
  -- How long a dead member is kept.
  deadMemberGrace : Duration
  callTimeout : Duration
deriving DecidableEq

namespace Config

def defaultClusterName : String := "cohort-cluster"

def new (clusterName : String) (id : MemberId) (listenAddress publicAddress : SocketAddress)
    (seeds : List String) : Config :=
  { clusterName, id, name := "", listenAddress, publicAddress, seeds
    heartbeatInterval := 1000
    heartbeatTimeout := 5000
    deadMemberGrace := 30000
    callTimeout := 2000 }

def member (config : Config) : Member := .new config.id config.name config.publicAddress

/-- The addresses of the seeds in ascending order, without the node's own. -/
def seedAddresses (config : Config) : List SocketAddress :=
  let own := [config.listenAddress, config.publicAddress]
  let found := (config.seeds.filterMap SocketAddress.ofText?).filter fun seed => !own.contains seed
  found.eraseDups.mergeSort SocketAddress.le

end Config

end ClusterCoordination
