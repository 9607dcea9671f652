import ClusterCoordination.Membership.Changes
import ClusterCoordination.Membership.Elector
import ClusterCoordination.Membership.Registry
/-!
# The roster of a node

The registry together with everything that follows it: the counts of live and dead members, the
elector and the feed of changes. An operation first updates the registry, which may give a new view,
and then publishes that view to the others; the two halves are separate functions.
-/

set_option autoImplicit false

namespace ClusterCoordination

structure MemberCounts where
  live : Nat
  dead : Nat
deriving DecidableEq

def View.counts (view : View) : MemberCounts := ⟨view.liveCount, view.deadCount⟩

structure Roster where
  registry : Registry
  counts : MemberCounts
  elector : Elector
  changes : ChangeFeed
deriving DecidableEq

namespace Roster

def new (localId : MemberId) : Roster := ⟨.new localId, ⟨0, 0⟩, .new localId, .new⟩

def publish (roster : Roster) : Option View → Roster
  | none => roster
  | some view =>
    { roster with
      counts := view.counts
      elector := (roster.elector.recompute view).1
      changes := roster.changes.observe view }

def follow (roster : Roster) (registry : Registry) (view : Option View) : Roster :=
  ({ roster with registry := registry }).publish view

def join (roster : Roster) (now : Instant) (member : Member) : Roster × Option View :=
  let (registry, view) := roster.registry.join now member
  (roster.follow registry view, view)

def leave (roster : Roster) (now : Instant) (id : MemberId) : Roster × Option View :=
  let (registry, view) := roster.registry.leave now id
  (roster.follow registry view, view)

def heartbeat (roster : Roster) (now : Instant) (id : MemberId) :
    Roster × HeartbeatOutcome × Option View :=
  let (registry, outcome, view) := roster.registry.heartbeat now id
  (roster.follow registry view, outcome, view)

def checkLiveness (roster : Roster) (now : Instant) (timeout : Duration) :
    Roster × List MemberId × Option View :=
  let (registry, dead, view) := roster.registry.checkLiveness now timeout
  (roster.follow registry view, dead, view)

def purgeDead (roster : Roster) (now : Instant) (grace : Duration) :
    Roster × List MemberId × Option View :=
  let (registry, purged, view) := roster.registry.purgeDead now grace
  (roster.follow registry view, purged, view)

def master (roster : Roster) : Option MemberId := roster.elector.master

def view (roster : Roster) : View := roster.registry.view.withMaster roster.master

def get? (roster : Roster) (id : MemberId) : Option Member :=
  (roster.registry.get? id).map fun member =>
    { member with isMaster := decide (roster.master = some member.id) }

end Roster

end ClusterCoordination
