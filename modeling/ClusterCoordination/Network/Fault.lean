import ClusterCoordination.Address
/-!
# Network faults

Why a datagram could not be sent or received.
-/

set_option autoImplicit false

namespace ClusterCoordination

inductive NetworkFault where
  | addressInUse (address : SocketAddress)
  -- One of the two ends is cut off.
  | unreachable (source target : SocketAddress)
  | notBound (target : SocketAddress)
  -- The socket bound to the target is gone without having been closed.
  | reset (target : SocketAddress)
  | socketClosed
  | queueClosed
deriving DecidableEq

def NetworkFault.message : NetworkFault → String
  | .addressInUse address => "Address " ++ address.text ++ " is already bound."
  | .unreachable source target =>
    "Address " ++ target.text ++ " is unreachable from " ++ source.text ++ "."
  | .notBound target => "No socket is bound to " ++ target.text ++ "."
  | .reset target => "Socket bound to " ++ target.text ++ " was closed."
  | .socketClosed => "Socket has been closed."
  | .queueClosed => "Outbound queue was closed."

end ClusterCoordination
