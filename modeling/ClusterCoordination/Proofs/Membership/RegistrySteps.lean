import Mathlib.Data.List.Nodup
import ClusterCoordination.Membership.Registry
/-!
# The steps of a registry

Whatever operation a registry carries out, it takes one of a few steps: it rewrites records in
place, appends a new one or drops some. What every operation preserves is derived from the step it
takes.
-/

set_option autoImplicit false

namespace ClusterCoordination

namespace Registry

inductive Operation where
  | join (now : Instant) (member : Member)
  | leave (now : Instant) (id : MemberId)
  | heartbeat (now : Instant) (id : MemberId)
  | checkLiveness (now : Instant) (timeout : Duration)
  | purgeDead (now : Instant) (grace : Duration)

def perform (registry : Registry) : Operation → Registry × Option View
  | .join now member => registry.join now member
  | .leave now id => registry.leave now id
  | .heartbeat now id =>
    let (after, _, view) := registry.heartbeat now id
    (after, view)
  | .checkLiveness now timeout =>
    let (after, _, view) := registry.checkLiveness now timeout
    (after, view)
  | .purgeDead now grace =>
    let (after, _, view) := registry.purgeDead now grace
    (after, view)

def ids (registry : Registry) : List MemberId :=
  registry.records.map fun record => record.member.id

def UniqueIds (registry : Registry) : Prop := registry.ids.Nodup

theorem members_perm (registry : Registry) :
    registry.members.Perm (registry.records.map MemberRecord.member) :=
  (List.mergeSort_perm _ _).map _

theorem members_ids_perm (registry : Registry) :
    (registry.members.map Member.id).Perm registry.ids := by
  have sorted := registry.members_perm.map Member.id
  rwa [List.map_map] at sorted

theorem aliveIds_perm (registry : Registry) :
    registry.view.aliveIds.Perm
      ((registry.records.filter fun record => record.member.alive).map fun record =>
        record.member.id) := by
  have sorted := (registry.members_perm.filter Member.alive).map Member.id
  rwa [List.filter_map, List.map_map] at sorted

theorem record?_eq_none_iff {registry : Registry} {id : MemberId} :
    registry.record? id = none ↔ id ∉ registry.ids := by
  simp [record?, ids]

theorem record?_eq_some {registry : Registry} {id : MemberId} {known : MemberRecord}
    (found : registry.record? id = some known) :
    known ∈ registry.records ∧ known.member.id = id := by
  refine ⟨List.mem_of_find?_eq_some found, ?_⟩
  simpa using List.find?_some found

theorem eq_of_record? {registry : Registry} {id : MemberId} {known record : MemberRecord}
    (unique : registry.UniqueIds) (found : registry.record? id = some known)
    (present : record ∈ registry.records) (same : record.member.id = id) : record = known := by
  obtain ⟨knownPresent, knownId⟩ := record?_eq_some found
  exact List.inj_on_of_nodup_map unique present knownPresent (same.trans knownId.symm)

theorem record?_of_mem {registry : Registry} {record : MemberRecord} (unique : registry.UniqueIds)
    (present : record ∈ registry.records) : registry.record? record.member.id = some record := by
  cases found : registry.record? record.member.id with
  | none => exact absurd (List.mem_map_of_mem present) (record?_eq_none_iff.mp found)
  | some known => rw [eq_of_record? unique found present rfl]

def rewrite (registry : Registry) (change : MemberRecord → MemberRecord) : Registry :=
  { registry with records := registry.records.map change }

def retain (registry : Registry) (keep : MemberRecord → Bool) : Registry :=
  { registry with records := registry.records.filter keep }

inductive Step (before : Registry) : Registry → Option View → Prop where
  | unchanged : Step before before none
  -- Only the times of records change.
  | touched (change : MemberRecord → MemberRecord)
      (keeps : ∀ record ∈ before.records,
        (change record).member = record.member ∧ (change record).joinedAt = record.joinedAt) :
      Step before (before.rewrite change) none
  | joined (now : Instant) (member : Member) (fresh : before.record? member.id = none) :
      Step before (before.insert now member).bump.1 (before.insert now member).bump.2
  | changed (change : MemberRecord → MemberRecord)
      (keeps : ∀ record ∈ before.records,
        (change record).member.id = record.member.id ∧ (change record).joinedAt = record.joinedAt) :
      Step before (before.rewrite change).bump.1 (before.rewrite change).bump.2
  | purged (keep : MemberRecord → Bool) :
      Step before (before.retain keep).bump.1 (before.retain keep).bump.2

theorem modify_eq_rewrite (registry : Registry) (id : MemberId)
    (change : MemberRecord → MemberRecord) :
    registry.modify id change =
      registry.rewrite fun record => if record.member.id = id then change record else record := rfl

theorem join_step {registry : Registry} (unique : registry.UniqueIds) (now : Instant)
    (member : Member) :
    Step registry (registry.join now member).1 (registry.join now member).2 := by
  unfold join
  split
  next fresh => exact .joined now member fresh
  next known found =>
    split
    · exact .unchanged
    · simp only [modify_eq_rewrite]
      split
      next different =>
        apply Step.changed
        intro record present
        split <;> simp
      next same =>
        simp only [not_or, Decidable.not_not] at same
        apply Step.touched
        intro record present
        split
        next hit =>
          -- The record is the one found, whose name and address are those of the member already.
          have identity := eq_of_record? unique found present hit
          subst identity
          simp [← same.1, ← same.2]
        next => simp

theorem leave_step (registry : Registry) (now : Instant) (id : MemberId) :
    Step registry (registry.leave now id).1 (registry.leave now id).2 := by
  unfold leave
  split
  · exact .unchanged
  · split
    · exact .unchanged
    · rw [modify_eq_rewrite]
      apply Step.changed
      intro record present
      split <;> simp

theorem heartbeat_step (registry : Registry) (now : Instant) (id : MemberId) :
    Step registry (registry.heartbeat now id).1 (registry.heartbeat now id).2.2 := by
  unfold heartbeat
  split
  · exact .unchanged
  · split
    · exact .unchanged
    · simp only [modify_eq_rewrite]
      split
      · apply Step.touched
        intro record present
        split <;> simp
      · apply Step.changed
        intro record present
        split <;> simp

theorem checkLiveness_step (registry : Registry) (now : Instant) (timeout : Duration) :
    Step registry (registry.checkLiveness now timeout).1
      (registry.checkLiveness now timeout).2.2 := by
  unfold checkLiveness
  simp only
  split
  · exact .unchanged
  · apply Step.changed
    intro record present
    split <;> simp

theorem purgeDead_step (registry : Registry) (now : Instant) (grace : Duration) :
    Step registry (registry.purgeDead now grace).1 (registry.purgeDead now grace).2.2 := by
  unfold purgeDead
  simp only
  split
  · exact .unchanged
  · exact .purged _

theorem perform_step {registry : Registry} (unique : registry.UniqueIds) (operation : Operation) :
    Step registry (registry.perform operation).1 (registry.perform operation).2 := by
  cases operation with
  | join now member => exact join_step unique now member
  | leave now id => exact leave_step registry now id
  | heartbeat now id => exact heartbeat_step registry now id
  | checkLiveness now timeout => exact checkLiveness_step registry now timeout
  | purgeDead now grace => exact purgeDead_step registry now grace

theorem ids_rewrite {registry : Registry} {change : MemberRecord → MemberRecord}
    (keeps : ∀ record ∈ registry.records, (change record).member.id = record.member.id) :
    (registry.rewrite change).ids = registry.ids := by
  simpa [ids, rewrite] using keeps

theorem members_rewrite {registry : Registry} {change : MemberRecord → MemberRecord}
    (keeps : ∀ record ∈ registry.records,
      (change record).member = record.member ∧ (change record).joinedAt = record.joinedAt) :
    (registry.rewrite change).members = registry.members := by
  simp only [members, rewrite]
  rw [← List.map_mergeSort (r := fun a b => decide (a.joinedAt ≤ b.joinedAt))]
  · rw [List.map_map]
    apply List.map_congr_left
    intro record present
    exact (keeps record (List.mem_mergeSort.mp present)).1
  · intro first firstPresent second secondPresent
    rw [(keeps first firstPresent).2, (keeps second secondPresent).2]

variable {before after : Registry} {view : Option View}

theorem Step.localId (step : Step before after view) : after.localId = before.localId := by
  cases step <;> rfl

theorem Step.unique (step : Step before after view) (unique : before.UniqueIds) :
    after.UniqueIds := by
  cases step with
  | unchanged => exact unique
  | touched change keeps =>
    have same : (before.rewrite change).ids = before.ids := by
      apply ids_rewrite
      intro record present
      rw [(keeps record present).1]
    simpa only [UniqueIds, same] using unique
  | joined now member fresh =>
    have absent := record?_eq_none_iff.mp fresh
    exact List.nodup_cons.mpr ⟨absent, unique⟩
  | changed change keeps =>
    have same : (before.rewrite change).ids = before.ids := by
      apply ids_rewrite
      intro record present
      exact (keeps record present).1
    change (before.rewrite change).UniqueIds
    simpa only [UniqueIds, same] using unique
  | purged keep => exact unique.sublist (List.filter_sublist.map _)

theorem Step.published {shown : View} (step : Step before after (some shown)) :
    shown = after.view ∧ after.version = before.version + 1 := by
  generalize given : some shown = view at step
  cases step with
  | unchanged => simp at given
  | touched => simp at given
  | joined => exact ⟨Option.some.inj given, rfl⟩
  | changed => exact ⟨Option.some.inj given, rfl⟩
  | purged => exact ⟨Option.some.inj given, rfl⟩

theorem Step.quiet (step : Step before after none) : after.view = before.view := by
  generalize given : none = view at step
  cases step with
  | unchanged => rfl
  | touched change keeps =>
    rw [Registry.view, Registry.view, members_rewrite keeps]
    rfl
  | joined => simp [bump] at given
  | changed => simp [bump] at given
  | purged => simp [bump] at given

end Registry

end ClusterCoordination
