import ClusterCoordination.Proofs.Membership.Alterations
/-!
# Repeated operations

Frames are duplicated and rounds come twice. To carry out an operation once more at the same instant
does nothing at all: what it makes of a record, it makes of it at once.
-/

set_option autoImplicit false

namespace ClusterCoordination

namespace MemberRecord

theorem rejoin_rejoin (now : Instant) (member : Member) (record : MemberRecord) :
    (record.rejoin now member).rejoin now member = record.rejoin now member := by
  obtain ⟨⟨id, name, address, alive, isMaster⟩, place, heard, died, left⟩ := record
  cases left <;> cases alive <;> rfl

theorem leave_leave (now : Instant) (record : MemberRecord) :
    (record.leave now).leave now = record.leave now := by
  obtain ⟨member, place, heard, died, left⟩ := record
  cases left <;> rfl

theorem hear_hear (now : Instant) (record : MemberRecord) :
    (record.hear now).hear now = record.hear now := by
  obtain ⟨⟨id, name, address, alive, isMaster⟩, place, heard, died, left⟩ := record
  cases left <;> cases alive <;> rfl

end MemberRecord

namespace Registry

theorem Operation.onRecord_onRecord (operation : Operation) (localId : MemberId) (place other : Nat)
    (id : MemberId) (found : Option MemberRecord) :
    operation.onRecord localId other id (operation.onRecord localId place id found) =
      operation.onRecord localId place id found := by
  cases operation with
  | join now member =>
    simp only [onRecord]
    split
    · cases found with
      | none => rfl
      | some known => exact congrArg some (known.rejoin_rejoin now member)
    · rfl
  | leave now leaver =>
    simp only [onRecord]
    split
    · simp only [Option.map_map, Function.comp_def, MemberRecord.leave_leave]
    · rfl
  | heartbeat now sender =>
    simp only [onRecord]
    split
    · simp only [Option.map_map, Function.comp_def, MemberRecord.hear_hear]
    · rfl
  | checkLiveness now timeout =>
    simp only [onRecord, Option.map_map]
    congr 1
    funext record
    -- Whoever has been found silent is not alive any more.
    by_cases silent : (record.member.alive && record.member.id ≠ localId &&
        timeout < now - record.lastHeard) = true
    · rw [Function.comp_apply, if_pos silent]
      rfl
    · rw [Function.comp_apply, if_neg silent, if_neg silent]
  | purgeDead now grace => simp only [onRecord, Option.filter_filter, Bool.and_self]

section

variable {registry first second : Registry}

theorem records_eq_filterMap (unique : registry.UniqueIds) :
    registry.records = registry.ids.filterMap registry.record? := by
  rw [ids, List.filterMap_map]
  have own : registry.records.filterMap (registry.record? ∘ fun record => record.member.id) =
      registry.records.filterMap some := by
    apply List.filterMap_congr
    intro record present
    exact record?_of_mem unique present
  rw [own, List.filterMap_some]

theorem Step.eq_of_unaltered {before after : Registry} (step : Step before after none)
    (unique : before.UniqueIds) (same : ∀ id, after.record? id = before.record? id) :
    after = before := by
  have ids : after.ids = before.ids := by
    generalize given : none = view at step
    cases step with
    | unchanged => rfl
    | touched change keeps =>
      apply ids_rewrite
      intro record present
      rw [(keeps record present).1]
    | joined => simp [bump] at given
    | changed => simp [bump] at given
    | purged => simp [bump] at given
  have records : after.records = before.records := by
    rw [records_eq_filterMap (step.unique unique), records_eq_filterMap unique, ids, funext same]
  generalize given : none = view at step
  cases step with
  | unchanged => rfl
  | touched change keeps =>
    exact congrArg (fun records => { before with records := records }) records
  | joined => simp [bump] at given
  | changed => simp [bump] at given
  | purged => simp [bump] at given

theorem perform_perform (unique : registry.UniqueIds) (operation : Operation) :
    (registry.perform operation).1.perform operation = ((registry.perform operation).1, none) := by
  have first := perform_step unique operation
  have settled := first.unique unique
  have again := perform_step settled operation
  have same : ∀ id, ((registry.perform operation).1.perform operation).1.record? id =
      (registry.perform operation).1.record? id := by
    intro id
    rw [record?_perform settled, record?_perform unique, first.localId, operation.onRecord_onRecord]
  have silent : ((registry.perform operation).1.perform operation).2 = none := by
    rw [← Option.not_isSome_iff_eq_none, isSome_perform_iff settled]
    rintro ⟨id, alters⟩
    exact alters (by rw [same])
  rw [silent] at again
  exact Prod.ext (again.eq_of_unaltered settled same) silent

end

end Registry

namespace Audience

/--
After every run an operation that is carried out a second time, at the same instant, leaves all as
it was after the first: the registry, the counts, the elector, the feed of changes, and what the
listeners have received. The caller is told of no change.
-/
theorem run_repeats_without_effect (localId : MemberId) (listeners : Nat)
    (operations : List Registry.Operation) (operation : Registry.Operation) :
    let once := (run localId listeners operations).perform operation
    once.perform operation = once ∧
      match once.roster.registry.answer operation with
      | .changed told => told = false
      | .heard outcome => outcome ≠ .revived
      | .found ids => ids = [] := by
  intro once
  let registry := Registry.run localId operations
  have unique : registry.UniqueIds := (Registry.sound_run localId operations).unique
  have reached : once.roster.registry = (registry.perform operation).1 := by
    rw [registry_perform, registry_run]
  have again := Registry.perform_perform unique operation
  rw [← reached] at again
  constructor
  · rw [perform, again]
    simp only [Option.toList_none, List.append_nil, List.map_id']
    rfl
  · have quiet := Registry.tellsChange_answer once.roster.registry operation
    rw [again] at quiet
    cases told : once.roster.registry.answer operation with
    | changed told => simpa [told, Registry.Answer.tellsChange] using quiet
    | heard outcome => simpa [told, Registry.Answer.tellsChange] using quiet
    | found ids => simpa [told, Registry.Answer.tellsChange] using quiet

end Audience

end ClusterCoordination
