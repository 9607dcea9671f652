import ClusterCoordination.Proofs.Membership.Records
/-!
# Departed members

Who has left does not come back: nothing but a heartbeat makes a dead record alive, and none does
that to the record of a member that has left. Such a record stays as it is until it is purged, and
whoever joins after that is a new member.
-/

set_option autoImplicit false

namespace ClusterCoordination

/-! ### Coherent records -/

structure MemberRecord.Coherent (record : MemberRecord) : Prop where
  alive_iff : record.member.alive = true ↔ record.deadSince = none
  left_dead : record.left = true → record.member.alive = false
  unflagged : record.member.isMaster = false

namespace MemberRecord

variable {record : MemberRecord}

@[simp] theorem rejoin_alive (now : Instant) (member : Member) (record : MemberRecord) :
    (record.rejoin now member).member.alive = record.member.alive := by
  unfold rejoin
  split <;> rfl

theorem leave_dead (now : Instant) (dead : record.member.alive = false) :
    (record.leave now).member.alive = false := by
  unfold leave
  split
  · exact dead
  · rfl

theorem Coherent.died_of_dead (coherent : record.Coherent) (dead : record.member.alive = false) :
    ∃ died, record.deadSince = some died := by
  apply Option.ne_none_iff_exists'.mp
  intro never
  simp [coherent.alive_iff.mpr never] at dead

theorem Coherent.leave_eq (coherent : record.Coherent) (now : Instant) :
    (record.leave now).left = true ∧
      (record.leave now).member = { record.member with alive := false } ∧
      (record.leave now).deadSince = some (record.deadSince.getD now) := by
  unfold MemberRecord.leave
  split
  next gone =>
    have dead := coherent.left_dead gone
    obtain ⟨died, since⟩ := coherent.died_of_dead dead
    exact ⟨gone, by rw [← dead], by simp [since]⟩
  next => exact ⟨rfl, rfl, rfl⟩

theorem coherent_new (place : Nat) (now : Instant) (member : Member) :
    (new place now member).Coherent :=
  ⟨by simp [new], by simp [new], rfl⟩

theorem Coherent.rejoin (coherent : record.Coherent) (now : Instant) (member : Member) :
    (record.rejoin now member).Coherent := by
  unfold MemberRecord.rejoin
  split
  · exact coherent
  · exact ⟨coherent.alive_iff, coherent.left_dead, coherent.unflagged⟩

theorem Coherent.leave (coherent : record.Coherent) (now : Instant) :
    (record.leave now).Coherent := by
  unfold MemberRecord.leave
  split
  · exact coherent
  · exact ⟨by simp, by simp, coherent.unflagged⟩

theorem Coherent.hear (coherent : record.Coherent) (now : Instant) :
    (record.hear now).Coherent := by
  unfold MemberRecord.hear
  split
  · exact coherent
  next here =>
    split
    · exact ⟨coherent.alive_iff, coherent.left_dead, coherent.unflagged⟩
    · exact ⟨by simp, by simp [here], coherent.unflagged⟩

theorem Coherent.die (coherent : record.Coherent) (now : Instant) : (record.die now).Coherent :=
  ⟨by simp [MemberRecord.die], by simp [MemberRecord.die], coherent.unflagged⟩

end MemberRecord

namespace Registry

def performAll (registry : Registry) (operations : List Operation) : Registry :=
  operations.foldl (fun registry operation => (registry.perform operation).1) registry

def run (localId : MemberId) (operations : List Operation) : Registry :=
  (new localId).performAll operations

theorem performAll_append (registry : Registry) (earlier later : List Operation) :
    registry.performAll (earlier ++ later) = (registry.performAll earlier).performAll later :=
  List.foldl_append

theorem run_append (localId : MemberId) (earlier : List Operation) (operation : Operation) :
    run localId (earlier ++ [operation]) = ((run localId earlier).perform operation).1 :=
  performAll_append _ _ _

theorem performAll_record (Holds : Option MemberRecord → Prop) {id : MemberId} {registry : Registry}
    (unique : registry.UniqueIds) {operations : List Operation}
    (keeps : ∀ operation ∈ operations, ∀ place found, Holds found →
      Holds (operation.onRecord registry.localId place id found))
    (holds : Holds (registry.record? id)) :
    Holds ((registry.performAll operations).record? id) := by
  induction operations generalizing registry with
  | nil => exact holds
  | cons operation rest ih =>
    have step := perform_step unique operation
    apply ih (step.unique unique)
    · intro later among
      rw [step.localId]
      exact keeps later (List.mem_cons_of_mem operation among)
    · rw [record?_perform unique]
      exact keeps operation List.mem_cons_self _ _ holds

theorem performAll_unique {registry : Registry} (unique : registry.UniqueIds)
    (operations : List Operation) : (registry.performAll operations).UniqueIds := by
  induction operations generalizing registry with
  | nil => exact unique
  | cons operation rest ih => exact ih ((perform_step unique operation).unique unique)

theorem performAll_localId {registry : Registry} (unique : registry.UniqueIds)
    (operations : List Operation) :
    (registry.performAll operations).localId = registry.localId := by
  induction operations generalizing registry with
  | nil => rfl
  | cons operation rest ih =>
    have step := perform_step unique operation
    exact (ih (step.unique unique)).trans step.localId

theorem Operation.onRecord_coherent (operation : Operation) {localId id : MemberId} {place : Nat}
    {found : Option MemberRecord} (coherent : ∀ record, found = some record → record.Coherent)
    {after : MemberRecord} (result : operation.onRecord localId place id found = some after) :
    after.Coherent := by
  cases operation with
  | join now member =>
    simp only [onRecord] at result
    split at result
    · cases found with
      | none =>
        obtain rfl := Option.some.inj result
        exact MemberRecord.coherent_new place now member
      | some known =>
        obtain rfl := Option.some.inj result
        exact (coherent known rfl).rejoin now member
    · exact coherent after result
  | leave now other =>
    simp only [onRecord] at result
    split at result
    · obtain ⟨known, rfl, rfl⟩ := Option.map_eq_some_iff.mp result
      exact (coherent known rfl).leave now
    · exact coherent after result
  | heartbeat now other =>
    simp only [onRecord] at result
    split at result
    · obtain ⟨known, rfl, rfl⟩ := Option.map_eq_some_iff.mp result
      exact (coherent known rfl).hear now
    · exact coherent after result
  | checkLiveness now timeout =>
    obtain ⟨known, rfl, rfl⟩ := Option.map_eq_some_iff.mp result
    split
    · exact (coherent known rfl).die now
    · exact coherent known rfl
  | purgeDead now grace =>
    exact coherent after (Option.eq_some_of_filter_eq_some result)

/-- Every member has one record, which is coherent and was given its place before the next one. -/
structure Sound (registry : Registry) : Prop where
  unique : registry.UniqueIds
  coherent : ∀ id record, registry.record? id = some record → record.Coherent
  placed : ∀ record ∈ registry.records, record.joinedAt < registry.nextJoin

theorem sound_new (localId : MemberId) : (new localId).Sound where
  unique := List.nodup_nil
  coherent := by simp [new, record?]
  placed := by simp [new]

theorem Step.placed {before after : Registry} {view : Option View} (step : Step before after view)
    (placed : ∀ record ∈ before.records, record.joinedAt < before.nextJoin) :
    ∀ record ∈ after.records, record.joinedAt < after.nextJoin := by
  cases step with
  | unchanged => exact placed
  | touched change keeps =>
    intro record present
    obtain ⟨known, was, rfl⟩ := List.mem_map.mp present
    rw [(keeps known was).2]
    exact placed known was
  | joined now member fresh =>
    intro record present
    rcases List.mem_cons.mp present with rfl | was
    · exact Nat.lt_succ_self before.nextJoin
    · exact Nat.lt_succ_of_lt (placed record was)
  | changed change keeps =>
    intro record present
    obtain ⟨known, was, rfl⟩ := List.mem_map.mp present
    rw [(keeps known was).2]
    exact placed known was
  | purged keep =>
    intro record present
    exact placed record (List.mem_of_mem_filter present)

section

variable {registry : Registry}

theorem Sound.perform (sound : registry.Sound) (operation : Operation) :
    (registry.perform operation).1.Sound := by
  have step := perform_step sound.unique operation
  refine ⟨step.unique sound.unique, ?_, step.placed sound.placed⟩
  intro id record found
  rw [record?_perform sound.unique] at found
  exact operation.onRecord_coherent (sound.coherent id) found

theorem Sound.performAll (sound : registry.Sound) (operations : List Operation) :
    (registry.performAll operations).Sound := by
  induction operations generalizing registry with
  | nil => exact sound
  | cons operation rest ih => exact ih (sound.perform operation)

theorem sound_run (localId : MemberId) (operations : List Operation) :
    (run localId operations).Sound :=
  (sound_new localId).performAll operations

/-! ### Coming back -/

theorem Operation.onRecord_revives {operation : Operation} {localId id : MemberId} {place : Nat}
    {before after : MemberRecord}
    (result : operation.onRecord localId place id (some before) = some after)
    (dead : before.member.alive = false) (alive : after.member.alive = true) :
    ∃ now, operation = .heartbeat now id ∧ before.left = false := by
  -- Every operation but a heartbeat leaves the dead dead.
  cases operation with
  | join now member =>
    have same : after.member.alive = before.member.alive := by
      simp only [onRecord, Option.elim] at result
      split at result
      · obtain rfl := Option.some.inj result
        exact MemberRecord.rejoin_alive now member before
      · obtain rfl := Option.some.inj result
        rfl
    simp [same, dead] at alive
  | leave now other =>
    have still : after.member.alive = false := by
      simp only [onRecord, Option.map_some] at result
      split at result
      · obtain rfl := Option.some.inj result
        exact MemberRecord.leave_dead now dead
      · obtain rfl := Option.some.inj result
        exact dead
    simp [still] at alive
  | heartbeat now other =>
    simp only [onRecord, Option.map_some] at result
    split at result
    next same =>
      subst same
      obtain rfl := Option.some.inj result
      refine ⟨now, rfl, ?_⟩
      cases gone : before.left with
      | false => rfl
      | true => simp [MemberRecord.hear, gone, dead] at alive
    next =>
      obtain rfl := Option.some.inj result
      simp [dead] at alive
  | checkLiveness now timeout =>
    have same : before = after := by simpa [onRecord, dead] using result
    simp [← same, dead] at alive
  | purgeDead now grace =>
    simp only [onRecord] at result
    have same : before = after := Option.some.inj (Option.eq_some_of_filter_eq_some result)
    simp [← same, dead] at alive

theorem Sound.revives (sound : registry.Sound) {operation : Operation} {id : MemberId}
    {before after : MemberRecord} (found : registry.record? id = some before)
    (result : (registry.perform operation).1.record? id = some after)
    (dead : before.member.alive = false) (alive : after.member.alive = true) :
    ∃ now, operation = .heartbeat now id ∧ before.left = false ∧
      (registry.heartbeat now id).2.1 = .revived := by
  rw [record?_perform sound.unique, found] at result
  obtain ⟨now, rfl, here⟩ := Operation.onRecord_revives result dead alive
  exact ⟨now, rfl, here, by simp [heartbeat, found, here, dead]⟩

/-! ### Until the purge -/

/-- The record stays exactly as it is, unless some purge among the operations removes it. -/
def KeepsUntilPurged (registry : Registry) (id : MemberId) (record : MemberRecord)
    (later : List Operation) : Prop :=
  (registry.performAll later).record? id = some record ∨
    ∃ earlier now grace rest, later = earlier ++ .purgeDead now grace :: rest ∧
      (registry.performAll earlier).record? id = some record ∧
      id ∈ ((registry.performAll earlier).purgeDead now grace).2.1 ∧
      ((registry.performAll earlier).purgeDead now grace).1.record? id = none

theorem purgeDead_purged (registry : Registry) (now : Instant) (grace : Duration) :
    (registry.purgeDead now grace).2.1 =
      (registry.records.filter (registry.isExpired now grace)).map fun record =>
        record.member.id := by
  unfold purgeDead
  simp only
  split
  next nobody => simpa using nobody
  next => rfl

theorem mem_purged {now : Instant} {grace : Duration} {id : MemberId} :
    id ∈ (registry.purgeDead now grace).2.1 ↔
      ∃ record ∈ registry.records, registry.isExpired now grace record = true ∧
        record.member.id = id := by
  simp only [purgeDead_purged, List.mem_map, List.mem_filter, and_assoc]

theorem Sound.stays (sound : registry.Sound) {id : MemberId} {record : MemberRecord}
    (found : registry.record? id = some record) (gone : record.left = true)
    (operation : Operation) :
    (registry.perform operation).1.record? id = some record ∨
      ∃ now grace, operation = .purgeDead now grace ∧ id ∈ (registry.purgeDead now grace).2.1 ∧
        (registry.purgeDead now grace).1.record? id = none := by
  have dead := (sound.coherent id record found).left_dead gone
  cases operation with
  | join now member =>
    left
    simp [record?_perform sound.unique, Operation.onRecord, found, MemberRecord.rejoin, gone]
  | leave now other =>
    left
    simp [record?_perform sound.unique, Operation.onRecord, found, MemberRecord.leave, gone]
  | heartbeat now other =>
    left
    simp [record?_perform sound.unique, Operation.onRecord, found, MemberRecord.hear, gone]
  | checkLiveness now timeout =>
    left
    simp [record?_perform sound.unique, Operation.onRecord, found, dead]
  | purgeDead now grace =>
    have result := record?_purgeDead sound.unique now grace id
    rw [found] at result
    cases expired : registry.isExpired now grace record with
    | true =>
      obtain ⟨present, same⟩ := record?_eq_some found
      exact .inr ⟨now, grace, rfl, mem_purged.mpr ⟨record, present, expired, same⟩,
        by simpa [Option.filter, expired] using result⟩
    | false =>
      left
      change (registry.purgeDead now grace).1.record? id = some record
      simpa [Option.filter, expired] using result

theorem Sound.keepsUntilPurged (sound : registry.Sound) {id : MemberId} {record : MemberRecord}
    (found : registry.record? id = some record) (gone : record.left = true)
    (later : List Operation) : registry.KeepsUntilPurged id record later := by
  induction later generalizing registry with
  | nil => exact .inl found
  | cons operation rest ih =>
    rcases sound.stays found gone operation with kept | ⟨now, grace, rfl, purged, absent⟩
    · rcases ih (sound.perform operation) kept with
        stays | ⟨earlier, now, grace, rest, rfl, still, purged, absent⟩
      · exact .inl stays
      · exact .inr ⟨operation :: earlier, now, grace, rest, rfl, still, purged, absent⟩
    · exact .inr ⟨[], now, grace, rest, rfl, found, purged, absent⟩

/-! ### Joining anew -/

def Operation.Joins (id : MemberId) : Operation → Prop
  | .join _ member => member.id = id
  | .leave .. | .heartbeat .. | .checkLiveness .. | .purgeDead .. => False

theorem Sound.absent_perform (sound : registry.Sound) {id : MemberId}
    (absent : registry.record? id = none) {operation : Operation} (other : ¬ operation.Joins id) :
    (registry.perform operation).1.record? id = none := by
  rw [record?_perform sound.unique, absent]
  cases operation with
  | join now member =>
    have different : id ≠ member.id := fun same => other same.symm
    simp [Operation.onRecord, different]
  | leave now id => simp [Operation.onRecord]
  | heartbeat now id => simp [Operation.onRecord]
  | checkLiveness now timeout => rfl
  | purgeDead now grace => rfl

theorem Sound.absent_performAll (sound : registry.Sound) {id : MemberId}
    (absent : registry.record? id = none) {later : List Operation}
    (others : ∀ operation ∈ later, ¬ operation.Joins id) :
    (registry.performAll later).record? id = none := by
  induction later generalizing registry with
  | nil => exact absent
  | cons operation rest ih =>
    apply ih (sound.perform operation)
    · exact sound.absent_perform absent (others operation List.mem_cons_self)
    · intro later present
      exact others later (List.mem_cons_of_mem operation present)

theorem Sound.purged_absent (sound : registry.Sound) {now : Instant} {grace : Duration}
    {id : MemberId} (purged : id ∈ (registry.purgeDead now grace).2.1) :
    (registry.purgeDead now grace).1.record? id = none := by
  obtain ⟨record, present, expired, same⟩ := mem_purged.mp purged
  rw [record?_purgeDead sound.unique]
  cases found : registry.record? id with
  | none => rfl
  | some known =>
    have identity := eq_of_record? sound.unique found present same
    simp [Option.filter, ← identity, expired]

end

/--
In every run a record is alive unless it has died, and only a heartbeat brings back one that has not
left. Who has left stays away until the purge, and is a new member after it.
-/
theorem run_never_resurrects (localId : MemberId) (operations : List Operation) (id : MemberId) :
    let registry := run localId operations
    (∀ record, registry.record? id = some record →
      (record.member.alive = true ↔ record.deadSince = none) ∧
        (record.left = true → record.member.alive = false) ∧ record.member.isMaster = false) ∧
    (∀ operation before after, registry.record? id = some before →
      (registry.perform operation).1.record? id = some after →
      before.member.alive = false → after.member.alive = true →
        ∃ now, operation = .heartbeat now id ∧ before.left = false ∧
          (registry.heartbeat now id).2.1 = .revived) ∧
    (∀ now before, registry.record? id = some before →
      ∃ departed, (registry.leave now id).1.record? id = some departed ∧ departed.left = true ∧
        departed.member = { before.member with alive := false } ∧
        departed.deadSince = some (before.deadSince.getD now) ∧
        ∀ later, (registry.leave now id).1.KeepsUntilPurged id departed later) ∧
    (∀ now member before, member.id = id → registry.record? id = some before →
      before.member.alive = false → before.left = false →
        (registry.join now member).1.record? id = some { before with
          member := { before.member with name := member.name, address := member.address } }) ∧
    (∀ now grace later, id ∈ (registry.purgeDead now grace).2.1 →
      (∀ operation ∈ later, ¬ operation.Joins id) →
        let forgetful := (registry.purgeDead now grace).1.performAll later
        forgetful.record? id = none ∧
          ∀ now member, member.id = id →
            ∃ fresh, (forgetful.join now member).1.record? id = some fresh ∧
              fresh.member = { member with alive := true, isMaster := false } ∧
              fresh.left = false ∧ fresh.deadSince = none ∧ fresh.lastHeard = now ∧
              ∀ known ∈ forgetful.records, known.joinedAt < fresh.joinedAt) := by
  intro registry
  have sound : registry.Sound := sound_run localId operations
  refine ⟨?_, ?_, ?_, ?_, ?_⟩
  · intro record found
    obtain ⟨alive, gone, flag⟩ := sound.coherent id record found
    exact ⟨alive, gone, flag⟩
  · intro operation before after found result dead alive
    exact sound.revives found result dead alive
  · intro now before found
    have departs : (registry.leave now id).1.record? id = some (before.leave now) := by
      simp [leave_treats registry now id id, found]
    obtain ⟨gone, member, since⟩ := (sound.coherent id before found).leave_eq now
    exact ⟨before.leave now, departs, gone, member, since,
      (sound.perform (.leave now id)).keepsUntilPurged departs gone⟩
  · rintro now member before rfl found dead here
    simp [record?_join, found, MemberRecord.rejoin, here, dead]
  · intro now grace later purged others forgetful
    have kept : (registry.purgeDead now grace).1.Sound := sound.perform (.purgeDead now grace)
    have absent := kept.absent_performAll (sound.purged_absent purged) others
    refine ⟨absent, ?_⟩
    rintro now member rfl
    refine ⟨.new forgetful.nextJoin now member, ?_, rfl, rfl, rfl, rfl,
      (kept.performAll later).placed⟩
    simp [record?_join, absent, forgetful]

/-- A member leaves, is heard from all the same, and joins again once it has been purged. -/
theorem departed_member_joins_anew :
    let member : Member := .new ⟨"b"⟩ "worker" .unspecified
    let registry := run ⟨"a"⟩ [.join 0 (.new ⟨"a"⟩ "" .unspecified), .join 5 member]
    let departed := (registry.leave 10 ⟨"b"⟩).1
    let purged := (departed.purgeDead 70 60).1
    (registry.record? ⟨"b"⟩).map (fun record => record.member.alive) = some true ∧
      departed.KeepsUntilPurged ⟨"b"⟩ ⟨{ member with alive := false }, 1, 5, some 10, true⟩
        [.heartbeat 20 ⟨"b"⟩, .join 30 member, .purgeDead 70 60] ∧
      purged.record? ⟨"b"⟩ = none ∧
      ∃ fresh, (purged.join 80 member).1.record? ⟨"b"⟩ = some fresh ∧ fresh.member = member ∧
        fresh.left = false ∧ fresh.joinedAt = 2 := by
  intro member registry departed purged
  have found : registry.record? ⟨"b"⟩ = some (.new 1 5 member) := by decide +kernel
  obtain ⟨-, -, departs, -, -⟩ :=
    run_never_resurrects ⟨"a"⟩ [.join 0 (.new ⟨"a"⟩ "" .unspecified), .join 5 member] ⟨"b"⟩
  obtain ⟨-, -, -, -, joins⟩ :=
    run_never_resurrects ⟨"a"⟩
      [.join 0 (.new ⟨"a"⟩ "" .unspecified), .join 5 member, .leave 10 ⟨"b"⟩] ⟨"b"⟩
  obtain ⟨record, departure, -, -, -, keeps⟩ := departs 10 _ found
  have left : departed.record? ⟨"b"⟩ =
      some ⟨{ member with alive := false }, 1, 5, some 10, true⟩ := by decide +kernel
  obtain rfl : record = ⟨{ member with alive := false }, 1, 5, some 10, true⟩ :=
    Option.some.inj (departure.symm.trans left)
  obtain ⟨absent, anew⟩ := joins 70 60 [] (by decide +kernel) (by simp)
  obtain ⟨fresh, present, same, here, -, -, -⟩ := anew 80 member rfl
  have place : (purged.join 80 member).1.record? ⟨"b"⟩ = some (.new 2 80 member) := by
    decide +kernel
  obtain rfl : fresh = .new 2 80 member := Option.some.inj (present.symm.trans place)
  exact ⟨by rw [found]; rfl, keeps _, absent, _, present, same, here, rfl⟩

end Registry

end ClusterCoordination
