import ClusterCoordination.Proofs.Membership.Notifications
/-!
# What operations alter

An operation gives a view if it alters more of a record than the time at which its member was last
heard, and only then. So the records of the members decide what becomes of a registry, and the order
in which it keeps them has no part in it.
-/

set_option autoImplicit false

namespace ClusterCoordination

namespace MemberRecord

def timeless (record : MemberRecord) : MemberRecord := { record with lastHeard := 0 }

theorem timeless_rejoin_iff (now : Instant) (member : Member) (record : MemberRecord) :
    (record.rejoin now member).timeless = record.timeless ↔
      record.left = true ∨
        record.member.address = member.address ∧ record.member.name = member.name := by
  obtain ⟨⟨id, name, address, alive, isMaster⟩, place, heard, died, left⟩ := record
  cases left <;> simp [rejoin, timeless, eq_comm, and_comm]

theorem timeless_leave_iff (now : Instant) (record : MemberRecord) :
    (record.leave now).timeless = record.timeless ↔ record.left = true := by
  obtain ⟨member, place, heard, died, left⟩ := record
  cases left <;> simp [leave, timeless]

theorem timeless_hear_iff (now : Instant) (record : MemberRecord) :
    (record.hear now).timeless = record.timeless ↔
      record.left = true ∨ record.member.alive = true := by
  obtain ⟨⟨id, name, address, alive, isMaster⟩, place, heard, died, left⟩ := record
  cases left <;> cases alive <;> simp [hear, timeless]

theorem timeless_die {record : MemberRecord} (alive : record.member.alive = true) (now : Instant) :
    (record.die now).timeless ≠ record.timeless := by
  intro same
  have still := congrArg (fun record => record.member.alive) same
  simp [die, timeless, alive] at still

end MemberRecord

namespace Registry

def Alters (before after : Registry) (id : MemberId) : Prop :=
  (after.record? id).map MemberRecord.timeless ≠ (before.record? id).map MemberRecord.timeless

section

variable {registry after : Registry} {id : MemberId}

theorem Treats.alters_iff {treat : MemberRecord → MemberRecord}
    (treats : registry.Treats after id treat) :
    (∃ other, registry.Alters after other) ↔
      ∃ known, registry.record? id = some known ∧ (treat known).timeless ≠ known.timeless := by
  constructor
  · rintro ⟨other, alters⟩
    rw [Alters, treats other] at alters
    split at alters
    next same =>
      subst same
      cases found : registry.record? other with
      | none => simp [found] at alters
      | some known => exact ⟨known, rfl, by simpa [found] using alters⟩
    next => simp at alters
  · rintro ⟨known, found, different⟩
    refine ⟨id, ?_⟩
    rw [Alters, treats id, found]
    simpa using different

theorem isSome_join_iff (registry : Registry) (now : Instant) (member : Member) :
    (registry.join now member).2.isSome = true ↔
      ∃ id, registry.Alters (registry.join now member).1 id := by
  cases found : registry.record? member.id with
  | none =>
    have given : (registry.join now member).2.isSome = true := by simp [join, found, bump]
    refine iff_of_true given ⟨member.id, ?_⟩
    rw [Alters, record?_join, if_pos rfl, found]
    simp
  | some known =>
    have treats : registry.Treats (registry.join now member).1 member.id (.rejoin now member) := by
      intro other
      rw [record?_join]
      split
      next same => simp [same, found]
      next => rfl
    rw [treats.alters_iff, found]
    simp only [Option.some.injEq, exists_eq_left', ne_eq, MemberRecord.timeless_rejoin_iff]
    unfold join
    simp only [found]
    cases known.left with
    | true => simp
    | false =>
      simp only [Bool.false_eq_true, if_false, false_or, Classical.not_and_iff_not_or_not]
      split
      next different => simp [bump, different]
      next same => simp [same]

theorem isSome_leave_iff (registry : Registry) (now : Instant) (leaver : MemberId) :
    (registry.leave now leaver).2.isSome = true ↔
      ∃ id, registry.Alters (registry.leave now leaver).1 id := by
  rw [(leave_treats registry now leaver).alters_iff]
  simp only [MemberRecord.timeless_leave_iff, ne_eq, leave]
  cases registry.record? leaver with
  | none => simp
  | some known => cases gone : known.left <;> simp [gone, bump]

theorem isSome_heartbeat_iff (registry : Registry) (now : Instant) (sender : MemberId) :
    (registry.heartbeat now sender).2.2.isSome = true ↔
      ∃ id, registry.Alters (registry.heartbeat now sender).1 id := by
  rw [(heartbeat_treats registry now sender).alters_iff]
  simp only [MemberRecord.timeless_hear_iff, ne_eq, heartbeat]
  cases registry.record? sender with
  | none => simp
  | some known =>
    cases gone : known.left <;> cases alive : known.member.alive <;> simp [gone, alive, bump]

theorem isSome_checkLiveness_iff (unique : registry.UniqueIds) (now : Instant)
    (timeout : Duration) :
    (registry.checkLiveness now timeout).2.2.isSome = true ↔
      ∃ id, registry.Alters (registry.checkLiveness now timeout).1 id := by
  have told : (registry.checkLiveness now timeout).2.2.isSome =
      !(registry.checkLiveness now timeout).2.1.isEmpty :=
    (tellsChange_answer registry (.checkLiveness now timeout)).symm
  rw [told, Bool.not_eq_true', List.isEmpty_eq_false_iff_exists_mem]
  apply exists_congr
  intro id
  rw [Alters, record?_marked unique]
  split
  next dead =>
    obtain ⟨record, found, alive, -⟩ := (mem_dead_iff unique).mp dead
    simpa [dead, found] using MemberRecord.timeless_die alive now
  next heard => simp [heard]

theorem isSome_purgeDead_iff (unique : registry.UniqueIds) (now : Instant) (grace : Duration) :
    (registry.purgeDead now grace).2.2.isSome = true ↔
      ∃ id, registry.Alters (registry.purgeDead now grace).1 id := by
  have told : (registry.purgeDead now grace).2.2.isSome =
      !(registry.purgeDead now grace).2.1.isEmpty :=
    (tellsChange_answer registry (.purgeDead now grace)).symm
  rw [told, Bool.not_eq_true', List.isEmpty_eq_false_iff_exists_mem]
  apply exists_congr
  intro id
  rw [Alters, record?_kept unique]
  split
  next purged =>
    obtain ⟨record, died, found, -⟩ := (mem_purged_iff unique).mp purged
    simp [purged, found]
  next stays => simp [stays]

theorem isSome_perform_iff (unique : registry.UniqueIds) (operation : Operation) :
    (registry.perform operation).2.isSome = true ↔
      ∃ id, registry.Alters (registry.perform operation).1 id := by
  cases operation with
  | join now member => exact isSome_join_iff registry now member
  | leave now leaver => exact isSome_leave_iff registry now leaver
  | heartbeat now sender => exact isSome_heartbeat_iff registry now sender
  | checkLiveness now timeout => exact isSome_checkLiveness_iff unique now timeout
  | purgeDead now grace => exact isSome_purgeDead_iff unique now grace

end

end Registry

end ClusterCoordination
