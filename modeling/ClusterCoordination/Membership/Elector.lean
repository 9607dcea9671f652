import ClusterCoordination.Membership.View
import ClusterCoordination.Watch
/-!
# Electing the master

The master is the alive member with the least id, so nodes with the same view agree on it.
-/

set_option autoImplicit false

namespace ClusterCoordination

instance : Min MemberId := ⟨fun a b => if a ≤ b then a else b⟩

def elect (members : List Member) : Option MemberId :=
  ((members.filter Member.alive).map Member.id).min?

structure Elector where
  localId : MemberId
  -- The version of the last view applied.
  version : Nat
  master : Option MemberId
  published : Watched (Option MemberId)
deriving DecidableEq

namespace Elector

def new (localId : MemberId) : Elector := ⟨localId, 0, none, .new none⟩

/--
Applies a view unless it is older than the last one applied. Gives the new master if it changed, and
publishes it.
-/
def recompute (elector : Elector) (view : View) : Elector × Option (Option MemberId) :=
  if view.version < elector.version then (elector, none)
  else
    let master := elect view.members
    let applied := { elector with version := view.version }
    if master = elector.master then (applied, none)
    else
      ({ applied with master := master, published := elector.published.write master }, some master)

def isMaster (elector : Elector) : Bool := elector.master = some elector.localId

end Elector

end ClusterCoordination
