import ClusterCoordination.Membership.View
import ClusterCoordination.Watch
/-!
# Membership changes

Turns the views of a registry into differences between sets of alive members.
-/

set_option autoImplicit false

namespace ClusterCoordination

structure MembershipChange where
  version : Nat
  joined : List Member
  left : List Member
deriving DecidableEq

def MembershipChange.empty : MembershipChange := ⟨0, [], []⟩

structure ChangeFeed where
  -- The version of the last view observed.
  version : Nat
  -- The ids alive in it, in ascending order.
  alive : List MemberId
  published : Watched MembershipChange
deriving DecidableEq

namespace ChangeFeed

def new : ChangeFeed := ⟨0, [], .new .empty⟩

def gone (id : MemberId) : Member := { Member.new id "" .unspecified with alive := false }

def difference (before : List MemberId) (view : View) : MembershipChange :=
  let alive := MemberId.sort view.aliveIds.eraseDups
  { version := view.version
    joined := (alive.filter fun id => !before.contains id).filterMap view.find?
    left := (before.filter fun id => !alive.contains id).map fun id =>
      (view.find? id).getD (gone id) }

/-- Observes a view newer than the last one, and publishes the difference if there is any. -/
def observe (feed : ChangeFeed) (view : View) : ChangeFeed :=
  if view.version ≤ feed.version then feed
  else
    let change := difference feed.alive view
    { version := view.version
      alive := MemberId.sort view.aliveIds.eraseDups
      published :=
        if change.joined.isEmpty && change.left.isEmpty then feed.published
        else feed.published.write change }

end ChangeFeed

end ClusterCoordination
