import ClusterCoordination.Address
import ClusterCoordination.Bytes
/-!
# Members

The members of a cluster and their identities. Ids are ordered by the bytes of their text.
-/

set_option autoImplicit false

namespace ClusterCoordination

structure MemberId where
  text : String
deriving DecidableEq

namespace MemberId

def bytes (id : MemberId) : Bytes := textBytes id.text

instance : LE MemberId := ⟨fun a b => a.bytes ≤ b.bytes⟩

instance (a b : MemberId) : Decidable (a ≤ b) := inferInstanceAs (Decidable (a.bytes ≤ b.bytes))

def le (a b : MemberId) : Bool := decide (a ≤ b)

def sort (ids : List MemberId) : List MemberId := ids.mergeSort le

end MemberId

structure Member where
  id : MemberId
  name : String
  address : SocketAddress
  alive : Bool
  -- The member is the elected master of the view it was taken from.
  isMaster : Bool
deriving DecidableEq

namespace Member

def new (id : MemberId) (name : String) (address : SocketAddress) : Member :=
  ⟨id, name, address, true, false⟩

end Member

def SocketAddress.name (address : SocketAddress) : String :=
  address.hostText ++ "-" ++ toString address.portNumber.toNat

def Member.displayName (member : Member) : String :=
  if member.name.isEmpty then member.address.name else member.name

end ClusterCoordination
