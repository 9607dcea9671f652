/-!
# The lifecycle of a node

A node is created, started once and stopped once. Stopped and failed nodes stay so.
-/

set_option autoImplicit false

namespace ClusterCoordination

inductive Lifecycle where
  | created
  | starting
  | running
  | stopping
  | stopped
  | failed
deriving DecidableEq

def Lifecycle.name : Lifecycle → String
  | .created => "Created"
  | .starting => "Starting"
  | .running => "Running"
  | .stopping => "Stopping"
  | .stopped => "Stopped"
  | .failed => "Failed"

end ClusterCoordination
