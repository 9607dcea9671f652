import ClusterCoordination.Proofs.Membership.History
/-!
# Failure detection

Who is silent and who is expired is read off the history of each member alone. Two runs that agree
on the operations on a member and on the rounds treat it alike, whatever else happens in them.
-/

set_option autoImplicit false

namespace ClusterCoordination

def MemberRecord.unplaced (record : MemberRecord) : MemberRecord := { record with joinedAt := 0 }

namespace Registry

/-- The operation is about the member, or a round that looks through all of them. -/
def Operation.reaches (id : MemberId) : Operation → Bool
  | .join _ member => member.id = id
  | .leave _ other | .heartbeat _ other => other = id
  | .checkLiveness .. | .purgeDead .. => true

def fate (localId id : MemberId) (operations : List Operation) (found : Option MemberRecord) :
    Option MemberRecord :=
  (operations.filter (Operation.reaches id)).foldl
    (fun found operation => operation.onRecord localId 0 id found) found

section

variable {localId id : MemberId}

theorem Operation.onRecord_unplaced (operation : Operation) (place : Nat)
    (found : Option MemberRecord) :
    (operation.onRecord localId place id found).map MemberRecord.unplaced =
      operation.onRecord localId 0 id (found.map MemberRecord.unplaced) := by
  cases found with
  | none =>
    cases operation with
    | join now member => simp only [onRecord]; split <;> rfl
    | leave | heartbeat => simp only [onRecord]; split <;> rfl
    | checkLiveness | purgeDead => rfl
  | some record =>
    cases operation with
    | join now member =>
      simp only [onRecord]
      split
      · simp only [Option.elim, Option.map_some, Option.some.injEq, MemberRecord.rejoin,
          MemberRecord.unplaced]
        split <;> rfl
      · rfl
    | leave now other =>
      simp only [onRecord]
      split
      · simp only [Option.map_some, Option.some.injEq, MemberRecord.leave, MemberRecord.unplaced]
        split <;> rfl
      · rfl
    | heartbeat now other =>
      simp only [onRecord]
      split
      · simp only [Option.map_some, Option.some.injEq, MemberRecord.hear, MemberRecord.unplaced]
        split
        · rfl
        · split <;> rfl
      · rfl
    | checkLiveness now timeout =>
      simp only [onRecord, Option.map_some, Option.some.injEq, MemberRecord.unplaced]
      split <;> rfl
    | purgeDead now grace =>
      simp only [onRecord, Option.filter, Option.map_some, MemberRecord.unplaced]
      split <;> rfl

theorem Operation.onRecord_of_not_reaches {operation : Operation}
    (elsewhere : operation.reaches id = false) (place : Nat) (found : Option MemberRecord) :
    operation.onRecord localId place id found = found := by
  cases operation with
  | join now member =>
    have other : id ≠ member.id := by simpa [reaches, eq_comm] using elsewhere
    exact if_neg other
  | leave now other =>
    have different : id ≠ other := by simpa [reaches, eq_comm] using elsewhere
    exact if_neg different
  | heartbeat now other =>
    have different : id ≠ other := by simpa [reaches, eq_comm] using elsewhere
    exact if_neg different
  | checkLiveness now timeout => simp [reaches] at elsewhere
  | purgeDead now grace => simp [reaches] at elsewhere

theorem performAll_fate {registry : Registry} (unique : registry.UniqueIds) (id : MemberId)
    (operations : List Operation) :
    ((registry.performAll operations).record? id).map MemberRecord.unplaced =
      fate registry.localId id operations ((registry.record? id).map MemberRecord.unplaced) := by
  induction operations generalizing registry with
  | nil => rfl
  | cons operation rest ih =>
    have step := perform_step unique operation
    have later := ih (step.unique unique)
    rw [step.localId, record?_perform unique, operation.onRecord_unplaced] at later
    cases reached : operation.reaches id with
    | true =>
      rw [fate, List.filter_cons_of_pos reached]
      exact later
    | false =>
      rw [Operation.onRecord_of_not_reaches reached] at later
      rw [fate, List.filter_cons_of_neg (by simp [reached])]
      exact later

end

structure Alike (id : MemberId) (first second : Registry) : Prop where
  owner : first.localId = second.localId
  record : (first.record? id).map MemberRecord.unplaced =
    (second.record? id).map MemberRecord.unplaced

section

variable {id : MemberId} {first second : Registry}

theorem localId_run (localId : MemberId) (operations : List Operation) :
    (run localId operations).localId = localId := by
  have unique : (new localId).UniqueIds := List.nodup_nil
  exact performAll_localId unique operations

theorem alike_run (localId : MemberId) {operations others : List Operation}
    (same : others.filter (Operation.reaches id) = operations.filter (Operation.reaches id)) :
    Alike id (run localId others) (run localId operations) where
  owner := by rw [localId_run, localId_run]
  record := by
    have unique : (new localId).UniqueIds := List.nodup_nil
    rw [run, run, performAll_fate unique, performAll_fate unique, fate, fate, same]

theorem Alike.symm (alike : Alike id first second) : Alike id second first :=
  ⟨alike.owner.symm, alike.record.symm⟩

theorem Alike.counterpart (alike : Alike id first second) {record : MemberRecord}
    (found : first.record? id = some record) :
    ∃ place, second.record? id = some { record with joinedAt := place } := by
  have same := alike.record
  rw [found, Option.map_some] at same
  obtain ⟨other, present, equal⟩ := Option.map_eq_some_iff.mp same.symm
  refine ⟨other.joinedAt, present.trans (congrArg some ?_)⟩
  obtain ⟨member, place, heard, died, left⟩ := record
  obtain ⟨otherMember, otherPlace, otherHeard, otherDied, otherLeft⟩ := other
  simpa [MemberRecord.unplaced] using equal

theorem Alike.get? (alike : Alike id first second) : first.get? id = second.get? id := by
  have same := congrArg (Option.map MemberRecord.member) alike.record
  simp only [Option.map_map] at same
  exact same

theorem Alike.dead (alike : Alike id first second) (unique : first.UniqueIds)
    (alsoUnique : second.UniqueIds) {now : Instant} {timeout : Duration}
    (dead : id ∈ (first.checkLiveness now timeout).2.1) :
    id ∈ (second.checkLiveness now timeout).2.1 := by
  obtain ⟨record, found, alive, other, silent⟩ := (mem_dead_iff unique).mp dead
  obtain ⟨place, present⟩ := alike.counterpart found
  exact (mem_dead_iff alsoUnique).mpr ⟨_, present, alive, alike.owner ▸ other, silent⟩

theorem Alike.purged (alike : Alike id first second) (unique : first.UniqueIds)
    (alsoUnique : second.UniqueIds) {now : Instant} {grace : Duration}
    (purged : id ∈ (first.purgeDead now grace).2.1) : id ∈ (second.purgeDead now grace).2.1 := by
  obtain ⟨record, died, found, since, other, expired⟩ := (mem_purged_iff unique).mp purged
  obtain ⟨place, present⟩ := alike.counterpart found
  exact (mem_purged_iff alsoUnique).mpr ⟨_, died, present, since, alike.owner ▸ other, expired⟩

theorem Alike.treated (alike : Alike id first second) (unique : first.UniqueIds)
    (alsoUnique : second.UniqueIds) (now : Instant) (span : Duration) :
    (id ∈ (first.checkLiveness now span).2.1 ↔ id ∈ (second.checkLiveness now span).2.1) ∧
      (id ∈ (first.purgeDead now span).2.1 ↔ id ∈ (second.purgeDead now span).2.1) :=
  ⟨⟨alike.dead unique alsoUnique, alike.symm.dead alsoUnique unique⟩,
    ⟨alike.purged unique alsoUnique, alike.symm.purged alsoUnique unique⟩⟩

end

section

variable {registry : Registry} {id : MemberId}

theorem Sound.deadSince_leave (sound : registry.Sound) {record : MemberRecord}
    (found : registry.record? id = some record) (dead : record.member.alive = false)
    (moment : Instant) :
    ∃ departed, (registry.leave moment id).1.record? id = some departed ∧
      departed.deadSince = record.deadSince := by
  have coherent := sound.coherent id record found
  obtain ⟨died, since⟩ := coherent.died_of_dead dead
  refine ⟨record.leave moment, by simp [leave_treats registry moment id id, found], ?_⟩
  rw [(coherent.leave_eq moment).2.2, since]
  rfl

theorem Sound.purged_leave_iff (sound : registry.Sound) (known : registry.contains id = true)
    (dead : registry.isAlive id = false) (moment now : Instant) (grace : Duration) :
    id ∈ ((registry.leave moment id).1.purgeDead now grace).2.1 ↔
      id ∈ (registry.purgeDead now grace).2.1 := by
  obtain ⟨record, found⟩ := exists_record? known
  rw [isAlive_of_record? found] at dead
  obtain ⟨departed, present, since⟩ := sound.deadSince_leave found dead moment
  have departure := leave_step registry moment id
  rw [mem_purged_iff sound.unique, mem_purged_iff (departure.unique sound.unique),
    departure.localId, found, present]
  simp [since]

theorem Remembers.dead_iff {events : List Event} (remembers : registry.Remembers events)
    (unique : registry.UniqueIds) (known : registry.contains id = true) :
    ∃ heard, lastHeard events id = some heard ∧ ∀ now timeout,
      id ∈ (registry.checkLiveness now timeout).2.1 ↔
        id ≠ registry.localId ∧ registry.isAlive id = true ∧ timeout < now - heard := by
  obtain ⟨record, found⟩ := exists_record? known
  refine ⟨record.lastHeard, (remembers id record found).1, ?_⟩
  intro now timeout
  rw [mem_dead_iff unique, isAlive_of_record? found, found]
  simp [and_left_comm]

theorem Remembers.purged_iff {events : List Event} (remembers : registry.Remembers events)
    (sound : registry.Sound) (known : registry.contains id = true)
    (dead : registry.isAlive id = false) :
    ∃ died, diedAt events id = some died ∧ ∀ now grace,
      id ∈ (registry.purgeDead now grace).2.1 ↔ id ≠ registry.localId ∧ grace ≤ now - died := by
  obtain ⟨record, found⟩ := exists_record? known
  rw [isAlive_of_record? found] at dead
  obtain ⟨died, since⟩ := (sound.coherent id record found).died_of_dead dead
  refine ⟨died, (remembers id record found).2.trans since, ?_⟩
  intro now grace
  rw [mem_purged_iff sound.unique, found]
  simp [since]

theorem contains_of_dead (unique : registry.UniqueIds) {now : Instant} {timeout : Duration}
    (dead : id ∈ (registry.checkLiveness now timeout).2.1) : registry.contains id = true := by
  obtain ⟨record, found, -⟩ := (mem_dead_iff unique).mp dead
  exact contains_of_record? found

end

/--
In every run a round takes for dead exactly the others that are alive and were last heard from
longer than the timeout ago, and forgets exactly the others that are dead and died at least the
grace period ago. What other members do makes no difference to that, nor does it to leave when dead.
-/
theorem run_detects_by_history (localId : MemberId) (operations : List Operation) :
    let registry := run localId operations
    let events := (new localId).events operations
    (∀ id, registry.contains id = true → ∃ heard, lastHeard events id = some heard ∧
      ∀ now timeout, id ∈ (registry.checkLiveness now timeout).2.1 ↔
        id ≠ localId ∧ registry.isAlive id = true ∧ timeout < now - heard) ∧
    (∀ id, registry.contains id = true → registry.isAlive id = false →
      ∃ died, diedAt events id = some died ∧
        ∀ now grace, id ∈ (registry.purgeDead now grace).2.1 ↔ id ≠ localId ∧ grace ≤ now - died) ∧
    (∀ now timeout,
      let dead := (registry.checkLiveness now timeout).2.1
      dead.Nodup ∧ (∀ id ∈ dead, registry.contains id = true) ∧
        ∀ id, (registry.checkLiveness now timeout).1.record? id =
          if id ∈ dead then (registry.record? id).map (.die now) else registry.record? id) ∧
    (∀ now grace,
      let purged := (registry.purgeDead now grace).2.1
      purged.Nodup ∧ (∀ id ∈ purged, registry.contains id = true ∧ registry.isAlive id = false) ∧
        ∀ id, (registry.purgeDead now grace).1.record? id =
          if id ∈ purged then none else registry.record? id) ∧
    (∀ id others,
      others.filter (Operation.reaches id) = operations.filter (Operation.reaches id) →
        let other := run localId others
        other.get? id = registry.get? id ∧ ∀ now span,
          (id ∈ (other.checkLiveness now span).2.1 ↔ id ∈ (registry.checkLiveness now span).2.1) ∧
            (id ∈ (other.purgeDead now span).2.1 ↔ id ∈ (registry.purgeDead now span).2.1)) ∧
    ∀ id moment, registry.contains id = true → registry.isAlive id = false →
      ∀ now grace, id ∈ ((registry.leave moment id).1.purgeDead now grace).2.1 ↔
        id ∈ (registry.purgeDead now grace).2.1 := by
  intro registry events
  have sound : registry.Sound := sound_run localId operations
  have remembers : registry.Remembers events := remembers_run localId operations
  have owner : registry.localId = localId := localId_run localId operations
  refine ⟨?_, ?_, ?_, ?_, ?_, ?_⟩
  · intro id known
    rw [← owner]
    exact remembers.dead_iff sound.unique known
  · intro id known dead
    rw [← owner]
    exact remembers.purged_iff sound known dead
  · intro now timeout dead
    exact ⟨nodup_dead sound.unique now timeout, fun id => contains_of_dead sound.unique,
      record?_marked sound.unique now timeout⟩
  · intro now grace purged
    exact ⟨nodup_purged sound.unique now grace, fun id => sound.dead_of_purged,
      record?_kept sound.unique now grace⟩
  · intro id others same other
    have alike : Alike id other registry := alike_run localId same
    have alsoSound : other.Sound := sound_run localId others
    exact ⟨alike.get?, alike.treated alsoSound.unique sound.unique⟩
  · intro id moment known dead
    exact sound.purged_leave_iff known dead moment

/--
Silent at the timeout and no longer alive after it, a member is forgotten once the grace has passed.
-/
theorem silent_member_expires :
    let member (text : String) : Member := .new ⟨text⟩ "" .unspecified
    let operations : List Operation := [.join 0 (member "a"), .join 5 (member "b"),
      .join 6 (member "c"), .heartbeat 7 ⟨"c"⟩, .checkLiveness 57 50, .checkLiveness 58 50,
      .heartbeat 60 ⟨"b"⟩, .leave 80 ⟨"c"⟩]
    let registry := run ⟨"a"⟩ operations
    registry.contains ⟨"c"⟩ = true ∧ registry.isAlive ⟨"c"⟩ = false ∧
      diedAt ((new ⟨"a"⟩).events operations) ⟨"c"⟩ = some 58 ∧
      ⟨"c"⟩ ∉ (registry.purgeDead 100 43).2.1 ∧ ⟨"c"⟩ ∈ (registry.purgeDead 101 43).2.1 ∧
      ⟨"b"⟩ ∉ (registry.checkLiveness 110 50).2.1 ∧
        ⟨"b"⟩ ∈ (registry.checkLiveness 111 50).2.1 := by
  intro member operations registry
  obtain ⟨silences, deaths, -⟩ := run_detects_by_history ⟨"a"⟩ operations
  have known : registry.contains ⟨"c"⟩ = true := by decide +kernel
  have dead : registry.isAlive ⟨"c"⟩ = false := by decide +kernel
  have alive : registry.isAlive ⟨"b"⟩ = true := by decide +kernel
  obtain ⟨died, since, expires⟩ := deaths ⟨"c"⟩ known dead
  obtain ⟨heard, last, silent⟩ := silences ⟨"b"⟩ (by decide +kernel)
  have death : diedAt ((new ⟨"a"⟩).events operations) ⟨"c"⟩ = some 58 := by decide +kernel
  have heartbeat : lastHeard ((new ⟨"a"⟩).events operations) ⟨"b"⟩ = some 60 := by decide +kernel
  obtain rfl : died = 58 := Option.some.inj (since.symm.trans death)
  obtain rfl : heard = 60 := Option.some.inj (last.symm.trans heartbeat)
  refine ⟨known, dead, death, ?_, ?_, ?_, ?_⟩
  · rw [expires]
    decide
  · rw [expires]
    decide
  · rw [silent]
    simp
  · rw [silent]
    exact ⟨by decide, alive, by decide⟩

end Registry

end ClusterCoordination
