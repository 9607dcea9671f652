import Mathlib.Data.List.Find
import ClusterCoordination.Proofs.Membership.RegistrySteps
/-!
# The record of one member

A registry keeps a record for each member, and its operations treat the records one by one: what
becomes of a record depends on nothing but the record and the operation.
-/

set_option autoImplicit false

namespace ClusterCoordination

namespace MemberRecord

def new (place : Nat) (now : Instant) (member : Member) : MemberRecord where
  member := { member with alive := true, isMaster := false }
  joinedAt := place
  lastHeard := now
  deadSince := none
  left := false

def rejoin (now : Instant) (member : Member) (record : MemberRecord) : MemberRecord :=
  if record.left then record
  else
    { record with
      member := { record.member with address := member.address, name := member.name }
      lastHeard := if record.member.alive then now else record.lastHeard }

def leave (now : Instant) (record : MemberRecord) : MemberRecord :=
  if record.left then record
  else
    { record with
      member := { record.member with alive := false }
      left := true
      deadSince := some (record.deadSince.getD now) }

def hear (now : Instant) (record : MemberRecord) : MemberRecord :=
  if record.left then record
  else if record.member.alive then { record with lastHeard := now }
  else
    { record with
      member := { record.member with alive := true }
      lastHeard := now
      deadSince := none }

def die (now : Instant) (record : MemberRecord) : MemberRecord :=
  { record with member := { record.member with alive := false }, deadSince := some now }

end MemberRecord

namespace Registry

section

variable {registry : Registry}

@[simp] theorem record?_bump (registry : Registry) (id : MemberId) :
    registry.bump.1.record? id = registry.record? id := rfl

theorem record?_rewrite {change : MemberRecord → MemberRecord}
    (keeps : ∀ record ∈ registry.records, (change record).member.id = record.member.id)
    (id : MemberId) : (registry.rewrite change).record? id = (registry.record? id).map change := by
  unfold record? rewrite at *
  simp only [List.find?_map]
  congr 1
  apply List.find?_congr
  intro record present
  simp [keeps record present]

def Treats (registry after : Registry) (id : MemberId)
    (treat : MemberRecord → MemberRecord) : Prop :=
  ∀ other, after.record? other =
    if other = id then (registry.record? other).map treat else registry.record? other

theorem treats_self {id : MemberId} {treat : MemberRecord → MemberRecord}
    (fixed : ∀ known, registry.record? id = some known → treat known = known) :
    registry.Treats registry id treat := by
  intro other
  split
  next same =>
    subst same
    cases found : registry.record? other with
    | none => rfl
    | some known => simp [fixed known found]
  next => rfl

theorem treats_modify {id : MemberId} {change treat : MemberRecord → MemberRecord}
    (keeps : ∀ record, (change record).member.id = record.member.id)
    (agrees : ∀ known, registry.record? id = some known → change known = treat known) :
    registry.Treats (registry.modify id change) id treat := by
  intro other
  rw [modify_eq_rewrite, record?_rewrite (by intro record _; split <;> simp [keeps])]
  cases found : registry.record? other with
  | none => simp
  | some known =>
    obtain ⟨-, rfl⟩ := record?_eq_some found
    by_cases same : known.member.id = id
    · simp [same, agrees known (same ▸ found)]
    · simp [same]

theorem record?_retain (unique : registry.UniqueIds) (keep : MemberRecord → Bool) (id : MemberId) :
    (registry.retain keep).record? id = (registry.record? id).filter keep := by
  cases found : registry.record? id with
  | none =>
    have absent := List.find?_eq_none.mp found
    apply List.find?_eq_none.mpr
    intro record kept
    exact absent record (List.mem_of_mem_filter kept)
  | some known =>
    obtain ⟨present, rfl⟩ := record?_eq_some found
    cases kept : keep known with
    | true =>
      have stays : known ∈ (registry.retain keep).records := List.mem_filter.mpr ⟨present, kept⟩
      cases again : (registry.retain keep).record? known.member.id with
      | none => simpa using List.find?_eq_none.mp again known stays
      | some other =>
        obtain ⟨still, same⟩ := record?_eq_some again
        have identity := eq_of_record? unique found (List.mem_of_mem_filter still) same
        simp [identity, kept, Option.filter]
    | false =>
      simp only [Option.filter, kept]
      apply List.find?_eq_none.mpr
      intro record stays same
      obtain ⟨still, keeps⟩ := List.mem_filter.mp stays
      have identity := eq_of_record? unique found still (by simpa using same)
      simp [identity, kept] at keeps

theorem record?_insert (registry : Registry) (now : Instant) (member : Member) (id : MemberId) :
    (registry.insert now member).record? id =
      if id = member.id then some (.new registry.nextJoin now member) else registry.record? id := by
  unfold record? insert
  by_cases same : member.id = id
  · simp [same, MemberRecord.new]
  · simp [same, Ne.symm same]

end

/-- What an operation makes of the record of a member; `place` is that of the next to join. -/
def Operation.onRecord (localId : MemberId) (place : Nat) (id : MemberId) :
    Operation → Option MemberRecord → Option MemberRecord
  | .join now member, found =>
    if id = member.id then some (found.elim (.new place now member) (.rejoin now member)) else found
  | .leave now other, found => if id = other then found.map (.leave now) else found
  | .heartbeat now other, found => if id = other then found.map (.hear now) else found
  | .checkLiveness now timeout, found =>
    found.map fun record =>
      if record.member.alive && record.member.id ≠ localId && timeout < now - record.lastHeard then
        record.die now
      else record
  | .purgeDead now grace, found =>
    found.filter fun record =>
      !(record.member.id ≠ localId && record.deadSince.any fun since => grace ≤ now - since)

theorem leave_treats (registry : Registry) (now : Instant) (id : MemberId) :
    registry.Treats (registry.leave now id).1 id (.leave now) := by
  unfold leave
  split
  next fresh => exact treats_self (by simp [fresh])
  next known found =>
    split
    next gone => exact treats_self (by simp [found, MemberRecord.leave, gone])
    next here =>
      exact treats_modify (by intro record; rfl) (by simp [found, MemberRecord.leave, here])

theorem heartbeat_treats (registry : Registry) (now : Instant) (id : MemberId) :
    registry.Treats (registry.heartbeat now id).1 id (.hear now) := by
  unfold heartbeat
  split
  next fresh => exact treats_self (by simp [fresh])
  next known found =>
    split
    next gone => exact treats_self (by simp [found, MemberRecord.hear, gone])
    next here =>
      split
      next alive =>
        exact treats_modify (by intro record; rfl) (by simp [found, MemberRecord.hear, here, alive])
      next dead =>
        exact treats_modify (by intro record; rfl) (by simp [found, MemberRecord.hear, here, dead])

theorem record?_join (registry : Registry) (now : Instant) (member : Member) (id : MemberId) :
    (registry.join now member).1.record? id =
      if id = member.id then
        some ((registry.record? id).elim (.new registry.nextJoin now member) (.rejoin now member))
      else registry.record? id := by
  unfold join
  split
  next fresh =>
    rw [record?_bump, record?_insert]
    split
    next same => simp [same, fresh]
    next => rfl
  next known found =>
    have treated (after : Registry)
        (treats : registry.Treats after member.id (.rejoin now member)) :
        after.record? id =
          if id = member.id then
            some
              ((registry.record? id).elim (.new registry.nextJoin now member) (.rejoin now member))
          else registry.record? id := by
      rw [treats id]
      split
      next same => simp [same, found]
      next => rfl
    apply treated
    split
    next gone => exact treats_self (by simp [found, MemberRecord.rejoin, gone])
    next here =>
      -- Whether or not the view is raised, the records are those of the update.
      split
      · exact treats_modify (by intro record; rfl) (by simp [found, MemberRecord.rejoin, here])
      · exact treats_modify (by intro record; rfl) (by simp [found, MemberRecord.rejoin, here])

theorem record?_checkLiveness (registry : Registry) (now : Instant) (timeout : Duration)
    (id : MemberId) :
    (registry.checkLiveness now timeout).1.record? id =
      (registry.record? id).map fun record =>
        if registry.isSilent now timeout record then record.die now else record := by
  unfold checkLiveness
  simp only
  split
  next nobody =>
    have heard : ∀ record ∈ registry.records, registry.isSilent now timeout record = false := by
      simpa using nobody
    cases found : registry.record? id with
    | none => rfl
    | some known => simp [heard known (record?_eq_some found).1]
  next =>
    rw [record?_bump]
    exact record?_rewrite (by intro record _; split <;> rfl) id

theorem record?_purgeDead {registry : Registry} (unique : registry.UniqueIds) (now : Instant)
    (grace : Duration) (id : MemberId) :
    (registry.purgeDead now grace).1.record? id =
      (registry.record? id).filter fun record => !registry.isExpired now grace record := by
  unfold purgeDead
  simp only
  split
  next nobody =>
    have stays : ∀ record ∈ registry.records, registry.isExpired now grace record = false := by
      simpa using nobody
    cases found : registry.record? id with
    | none => rfl
    | some known => simp [Option.filter, stays known (record?_eq_some found).1]
  next =>
    rw [record?_bump]
    exact record?_retain unique _ id

theorem record?_perform {registry : Registry} (unique : registry.UniqueIds) (operation : Operation)
    (id : MemberId) :
    (registry.perform operation).1.record? id =
      operation.onRecord registry.localId registry.nextJoin id (registry.record? id) := by
  cases operation with
  | join now member => exact record?_join registry now member id
  | leave now other => exact leave_treats registry now other id
  | heartbeat now other => exact heartbeat_treats registry now other id
  | checkLiveness now timeout => exact record?_checkLiveness registry now timeout id
  | purgeDead now grace => exact record?_purgeDead unique now grace id

end Registry

end ClusterCoordination
