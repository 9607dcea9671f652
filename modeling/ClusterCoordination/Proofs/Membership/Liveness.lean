import ClusterCoordination.Proofs.Membership.Departures
/-!
# Who is alive

A round gives the ids of those whose records it marks or forgets. Apart from such rounds and from
farewells nothing makes a living member a dead one.
-/

set_option autoImplicit false

namespace ClusterCoordination

namespace MemberRecord

theorem hear_alive (now : Instant) {record : MemberRecord} (alive : record.member.alive = true) :
    (record.hear now).member.alive = true := by
  unfold hear
  rw [if_pos alive]
  split <;> exact alive

end MemberRecord

namespace Registry

section

variable {registry : Registry} {id : MemberId} {record : MemberRecord}

theorem isAlive_of_record? (found : registry.record? id = some record) :
    registry.isAlive id = record.member.alive := by
  simp [isAlive, get?, found]

theorem contains_of_record? (found : registry.record? id = some record) :
    registry.contains id = true := by
  simp [contains, found]

theorem exists_record? (known : registry.contains id = true) :
    ∃ record, registry.record? id = some record :=
  Option.isSome_iff_exists.mp known

theorem exists_record?_of_isAlive (alive : registry.isAlive id = true) :
    ∃ record, registry.record? id = some record ∧ record.member.alive = true := by
  cases found : registry.record? id with
  | none => simp [isAlive, get?, found] at alive
  | some record => exact ⟨record, rfl, by rwa [isAlive_of_record? found] at alive⟩

theorem mem_ids_filter_iff (unique : registry.UniqueIds) {condition : MemberRecord → Bool} :
    id ∈ ((registry.records.filter condition).map fun record => record.member.id) ↔
      ∃ record, registry.record? id = some record ∧ condition record = true := by
  simp only [List.mem_map, List.mem_filter]
  constructor
  · rintro ⟨record, ⟨present, chosen⟩, rfl⟩
    exact ⟨record, record?_of_mem unique present, chosen⟩
  · rintro ⟨record, found, chosen⟩
    obtain ⟨present, same⟩ := record?_eq_some found
    exact ⟨record, ⟨present, chosen⟩, same⟩

theorem checkLiveness_dead (registry : Registry) (now : Instant) (timeout : Duration) :
    (registry.checkLiveness now timeout).2.1 =
      (registry.records.filter (registry.isSilent now timeout)).map fun record =>
        record.member.id := by
  unfold checkLiveness
  simp only
  split
  next nobody => simpa using nobody
  next => rfl

theorem mem_dead_iff (unique : registry.UniqueIds) {now : Instant} {timeout : Duration} :
    id ∈ (registry.checkLiveness now timeout).2.1 ↔
      ∃ record, registry.record? id = some record ∧ record.member.alive = true ∧
        id ≠ registry.localId ∧ timeout < now - record.lastHeard := by
  rw [checkLiveness_dead, mem_ids_filter_iff unique]
  apply exists_congr
  intro record
  apply and_congr_right
  intro found
  obtain ⟨-, rfl⟩ := record?_eq_some found
  simp [isSilent, and_assoc]

theorem mem_purged_iff (unique : registry.UniqueIds) {now : Instant} {grace : Duration} :
    id ∈ (registry.purgeDead now grace).2.1 ↔
      ∃ record died, registry.record? id = some record ∧ record.deadSince = some died ∧
        id ≠ registry.localId ∧ grace ≤ now - died := by
  rw [purgeDead_purged, mem_ids_filter_iff unique]
  apply exists_congr
  intro record
  simp only [exists_and_left]
  apply and_congr_right
  intro found
  obtain ⟨-, rfl⟩ := record?_eq_some found
  cases since : record.deadSince <;> simp [isExpired, since]

theorem nodup_dead (unique : registry.UniqueIds) (now : Instant) (timeout : Duration) :
    (registry.checkLiveness now timeout).2.1.Nodup := by
  rw [checkLiveness_dead]
  exact unique.sublist (List.filter_sublist.map _)

theorem nodup_purged (unique : registry.UniqueIds) (now : Instant) (grace : Duration) :
    (registry.purgeDead now grace).2.1.Nodup := by
  rw [purgeDead_purged]
  exact unique.sublist (List.filter_sublist.map _)

theorem record?_marked (unique : registry.UniqueIds) (now : Instant) (timeout : Duration)
    (id : MemberId) :
    (registry.checkLiveness now timeout).1.record? id =
      if id ∈ (registry.checkLiveness now timeout).2.1 then (registry.record? id).map (.die now)
      else registry.record? id := by
  simp only [record?_checkLiveness, checkLiveness_dead, mem_ids_filter_iff unique]
  cases found : registry.record? id with
  | none => simp
  | some record => cases silent : registry.isSilent now timeout record <;> simp [silent]

theorem record?_kept (unique : registry.UniqueIds) (now : Instant) (grace : Duration)
    (id : MemberId) :
    (registry.purgeDead now grace).1.record? id =
      if id ∈ (registry.purgeDead now grace).2.1 then none else registry.record? id := by
  simp only [record?_purgeDead unique, purgeDead_purged, mem_ids_filter_iff unique]
  cases found : registry.record? id with
  | none => simp
  | some record =>
    cases expired : registry.isExpired now grace record <;> simp [expired, Option.filter]

theorem Sound.dead_of_purged (sound : registry.Sound) {now : Instant} {grace : Duration}
    (purged : id ∈ (registry.purgeDead now grace).2.1) :
    registry.contains id = true ∧ registry.isAlive id = false := by
  obtain ⟨record, died, found, since, -⟩ := (mem_purged_iff sound.unique).mp purged
  refine ⟨contains_of_record? found, ?_⟩
  rw [isAlive_of_record? found, Bool.eq_false_iff]
  intro alive
  simp [(sound.coherent id record found).alive_iff.mp alive] at since

end

section

variable {registry : Registry} {id : MemberId}

theorem isAlive_eq_any (registry : Registry) (id : MemberId) :
    registry.isAlive id = (registry.record? id).any fun record => record.member.alive := by
  simp [isAlive, get?, Option.any_map]

theorem isAlive_join (alive : registry.isAlive id = true) (now : Instant) (member : Member) :
    (registry.join now member).1.isAlive id = true := by
  obtain ⟨record, found, lives⟩ := exists_record?_of_isAlive alive
  rw [isAlive_eq_any, record?_join, found]
  split
  · simpa using lives
  · simpa using lives

theorem isAlive_heartbeat (alive : registry.isAlive id = true) (now : Instant) (sender : MemberId) :
    (registry.heartbeat now sender).1.isAlive id = true := by
  obtain ⟨record, found, lives⟩ := exists_record?_of_isAlive alive
  rw [isAlive_eq_any, heartbeat_treats registry now sender id, found]
  split
  · exact record.hear_alive now lives
  · simpa using lives

theorem isAlive_leave (sound : registry.Sound) (now : Instant) (leaver id : MemberId) :
    (registry.leave now leaver).1.isAlive id = (registry.isAlive id && id ≠ leaver) := by
  rw [isAlive_eq_any, isAlive_eq_any, leave_treats registry now leaver id]
  cases found : registry.record? id with
  | none => simp
  | some record =>
    by_cases same : id = leaver
    · simp [same, ((sound.coherent id record found).leave_eq now).2.1]
    · simp [same]

theorem isAlive_checkLiveness (unique : registry.UniqueIds) (now : Instant) (timeout : Duration)
    (id : MemberId) :
    (registry.checkLiveness now timeout).1.isAlive id =
      (registry.isAlive id && !(registry.checkLiveness now timeout).2.1.contains id) := by
  rw [isAlive_eq_any, isAlive_eq_any, record?_marked unique]
  by_cases dead : id ∈ (registry.checkLiveness now timeout).2.1
  · cases registry.record? id <;> simp [dead, MemberRecord.die]
  · simp [dead]

theorem isAlive_purgeDead (sound : registry.Sound) (now : Instant) (grace : Duration)
    (id : MemberId) : (registry.purgeDead now grace).1.isAlive id = registry.isAlive id := by
  rw [isAlive_eq_any, record?_kept sound.unique]
  split
  next purged => exact (sound.dead_of_purged purged).2.symm
  next => exact (isAlive_eq_any registry id).symm

end

end Registry

end ClusterCoordination
