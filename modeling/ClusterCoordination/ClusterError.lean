import ClusterCoordination.Member
import ClusterCoordination.Network.Fault
import ClusterCoordination.Node.Lifecycle
import ClusterCoordination.Status
/-!
# Errors of a node

Why an operation of a node failed.
-/

set_option autoImplicit false

namespace ClusterCoordination

inductive ClusterError where
  | state (expected actual : Lifecycle)
  | timeout
  | unreachable (member : MemberId) (reason : String)
  | serialization (reason : String)
  | dispatch (reason : String)
  | cancelled
  | startup (fault : NetworkFault)
deriving DecidableEq

namespace ClusterError

def message : ClusterError → String
  | .state expected actual =>
    "Operation requires the cluster manager to be " ++ expected.name ++ " but it is " ++
      actual.name ++ "."
  | .timeout => "The remote call did not complete before its deadline."
  | .unreachable member reason => "Member " ++ member.text ++ " could not be reached: " ++ reason
  | .serialization reason => "Failed to encode or decode payload: " ++ reason
  | .dispatch reason => "Dispatch failed: " ++ reason
  | .cancelled => "The call was cancelled because the cluster manager stopped."
  | .startup fault => "Failed to start the cluster manager: " ++ fault.message

def ofStatus (status : Status) (member : MemberId) : ClusterError :=
  match status.code with
  | .serviceUnavailable | .internalError => .dispatch status.message
  | .invalidPayload => .serialization status.message
  | .connectionError => .unreachable member status.message
  | .timeout => .timeout

def notAlive (member : MemberId) : ClusterError := .unreachable member "Member is not alive."

def notMember (member : MemberId) : ClusterError :=
  .unreachable member "Member is not part of the cluster."

end ClusterError

abbrev CallResult := Except ClusterError Bytes

def CallResult.ofOutcome (outcome : Except Status Bytes) (member : MemberId) : CallResult :=
  match outcome with
  | .ok reply => .ok reply
  | .error status => .error (.ofStatus status member)

end ClusterCoordination
