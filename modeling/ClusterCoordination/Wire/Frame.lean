import ClusterCoordination.Member
import ClusterCoordination.Status
/-!
# Internal frames

What nodes say to one another besides the messages of applications: who is there, calls, and the
outcomes of calls. Each kind travels on a scope of its own, below the positive ones.
-/

set_option autoImplicit false

namespace ClusterCoordination

inductive ControlKind where
  | join
  | heartbeat
  | leave
deriving DecidableEq

def ControlKind.name : ControlKind → String
  | .join => "Join"
  | .heartbeat => "Heartbeat"
  | .leave => "Leave"

structure Peer where
  id : MemberId
  name : String
  address : SocketAddress
deriving DecidableEq

def Member.peer (member : Member) : Peer := ⟨member.id, member.name, member.address⟩

structure ControlFrame where
  sender : MemberId
  name : String
  address : SocketAddress
  kind : ControlKind
  peers : List Peer
deriving DecidableEq

def ControlFrame.member (frame : ControlFrame) : Member :=
  Member.new frame.sender frame.name frame.address

structure Request where
  correlation : UInt64
  targetType : String
  method : String
  argumentTypes : List String
  arguments : List Bytes
  deadline : UInt64
  replyAddress : SocketAddress
deriving DecidableEq

structure Response where
  correlation : UInt64
  outcome : Except Status Bytes

namespace RawScope

def control : Int16 := -1
def request : Int16 := -2
def response : Int16 := -3

end RawScope

end ClusterCoordination
