import ClusterCoordination.Member
/-!
# Views

A snapshot of the members a node knows, in the order they first joined.
-/

set_option autoImplicit false

namespace ClusterCoordination

structure View where
  version : Nat
  members : List Member
deriving DecidableEq

namespace View

def find? (view : View) (id : MemberId) : Option Member :=
  view.members.find? fun member => member.id = id

def alive (view : View) : List Member := view.members.filter Member.alive

def aliveIds (view : View) : List MemberId := view.alive.map Member.id

def withMaster (view : View) (master : Option MemberId) : View :=
  { view with
    members := view.members.map fun member =>
      { member with isMaster := decide (some member.id = master) } }

def liveCount (view : View) : Nat := view.alive.length

def deadCount (view : View) : Nat := view.members.length - view.liveCount

end View

end ClusterCoordination
