import ClusterCoordination.Clock
import ClusterCoordination.Membership.View
/-!
# The membership registry

The members known to a node and whether they are alive. Every operation that changes what a view
shows raises the version by one and gives the new view.
-/

set_option autoImplicit false

namespace ClusterCoordination

structure MemberRecord where
  member : Member
  -- The place of the member in the order of joins.
  joinedAt : Nat
  lastHeard : Instant
  deadSince : Option Instant
  left : Bool
deriving DecidableEq

inductive HeartbeatOutcome where
  -- The member was alive and has been heard from.
  | refreshed
  -- The member had been marked dead and is alive again.
  | revived
  -- The member has left, and is ignored until it is purged.
  | ignored
  | unknown
deriving DecidableEq

def HeartbeatOutcome.name : HeartbeatOutcome → String
  | .refreshed => "Refreshed"
  | .revived => "Revived"
  | .ignored => "Ignored"
  | .unknown => "Unknown"

structure Registry where
  localId : MemberId
  -- Grows by one at most with each operation, so that 64 bits are enough for 2 ^ 64 of them.
  version : Nat
  -- The place the next member to join will take. It grows no faster than the version.
  nextJoin : Nat
  -- One record for every known member, in no particular order.
  records : List MemberRecord
deriving DecidableEq

namespace Registry

def new (localId : MemberId) : Registry := ⟨localId, 0, 0, []⟩

def record? (registry : Registry) (id : MemberId) : Option MemberRecord :=
  registry.records.find? fun record => record.member.id = id

def get? (registry : Registry) (id : MemberId) : Option Member :=
  (registry.record? id).map MemberRecord.member

def contains (registry : Registry) (id : MemberId) : Bool := (registry.record? id).isSome

def isAlive (registry : Registry) (id : MemberId) : Bool :=
  (registry.get? id).any Member.alive

def hasAddress (registry : Registry) (address : SocketAddress) : Bool :=
  registry.records.any fun record => record.member.address = address

def hasAliveAddress (registry : Registry) (address : SocketAddress) : Bool :=
  registry.records.any fun record => record.member.alive && record.member.address = address

def members (registry : Registry) : List Member :=
  (registry.records.mergeSort fun a b => a.joinedAt ≤ b.joinedAt).map MemberRecord.member

def view (registry : Registry) : View := ⟨registry.version, registry.members⟩

/--
The members that should hear from the local one: dead ones too, so that they learn of it when they
come back, but none that has left.
-/
def heartbeatTargets (registry : Registry) : List Member :=
  (registry.records.filter fun record =>
    !record.left && record.member.id ≠ registry.localId).map MemberRecord.member

def bump (registry : Registry) : Registry × Option View :=
  let raised := { registry with version := registry.version + 1 }
  (raised, some raised.view)

def modify (registry : Registry) (id : MemberId)
    (change : MemberRecord → MemberRecord) : Registry :=
  { registry with
    records := registry.records.map fun record =>
      if record.member.id = id then change record else record }

def insert (registry : Registry) (now : Instant) (member : Member) : Registry :=
  { registry with
    nextJoin := registry.nextJoin + 1
    records :=
      { member := { member with alive := true, isMaster := false }
        joinedAt := registry.nextJoin
        lastHeard := now
        deadSince := none
        left := false } :: registry.records }

/--
Adds a member. Of a known one only name and address change, and it is heard from if it is alive; one
that has left is ignored. A join revives nobody.
-/
def join (registry : Registry) (now : Instant) (member : Member) : Registry × Option View :=
  match registry.record? member.id with
  | none => (registry.insert now member).bump
  | some known =>
    -- Who has left stays away until it is purged.
    if known.left then (registry, none)
    else
      let updated := registry.modify member.id fun record =>
        { record with
          member := { record.member with address := member.address, name := member.name }
          lastHeard := if record.member.alive then now else record.lastHeard }
      if known.member.address ≠ member.address ∨ known.member.name ≠ member.name then updated.bump
      else (updated, none)

/-- Marks a member as having left. It stays known, and dead, until it is purged. -/
def leave (registry : Registry) (now : Instant) (id : MemberId) : Registry × Option View :=
  match registry.record? id with
  | none => (registry, none)
  | some known =>
    if known.left then (registry, none)
    else
      (registry.modify id fun record =>
        { record with
          member := { record.member with alive := false }
          left := true
          deadSince := some (record.deadSince.getD now) }).bump

def heartbeat (registry : Registry) (now : Instant) (id : MemberId) :
    Registry × HeartbeatOutcome × Option View :=
  match registry.record? id with
  | none => (registry, .unknown, none)
  | some known =>
    if known.left then (registry, .ignored, none)
    else if known.member.alive then
      (registry.modify id fun record => { record with lastHeard := now }, .refreshed, none)
    else
      let (revived, view) := (registry.modify id fun record =>
        { record with
          member := { record.member with alive := true }
          lastHeard := now
          deadSince := none }).bump
      (revived, .revived, view)

def isSilent (registry : Registry) (now : Instant) (timeout : Duration) (record : MemberRecord) :
    Bool :=
  record.member.alive && record.member.id ≠ registry.localId && timeout < now - record.lastHeard

def checkLiveness (registry : Registry) (now : Instant) (timeout : Duration) :
    Registry × List MemberId × Option View :=
  let silent := registry.isSilent now timeout
  let dead := (registry.records.filter silent).map fun record => record.member.id
  if dead.isEmpty then (registry, [], none)
  else
    let (marked, view) := { registry with
      records := registry.records.map fun record =>
        if silent record then
          { record with member := { record.member with alive := false }, deadSince := some now }
        else record }.bump
    (marked, dead, view)

def isExpired (registry : Registry) (now : Instant) (grace : Duration) (record : MemberRecord) :
    Bool :=
  record.member.id ≠ registry.localId && record.deadSince.any fun since => grace ≤ now - since

/-- Forgets the expired members, and gives their ids. A member that joins again is a new one. -/
def purgeDead (registry : Registry) (now : Instant) (grace : Duration) :
    Registry × List MemberId × Option View :=
  let expired := registry.isExpired now grace
  let purged := (registry.records.filter expired).map fun record => record.member.id
  if purged.isEmpty then (registry, [], none)
  else
    let (kept, view) := { registry with
      records := registry.records.filter fun record => !expired record }.bump
    (kept, purged, view)

end Registry

end ClusterCoordination
