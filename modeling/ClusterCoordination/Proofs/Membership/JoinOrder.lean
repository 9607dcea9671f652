import Mathlib.Data.List.Perm.Subperm
import ClusterCoordination.Proofs.Membership.Alterations
/-!
# The order of joins

A view shows the members in the order in which they first joined. It is made anew for every view,
from records that are kept in no particular order, by the places that they were given: no two
records have the same place, and whoever joins is given a later place than everyone before.
-/

set_option autoImplicit false

namespace ClusterCoordination

namespace Registry

def ordered (registry : Registry) : List MemberRecord :=
  registry.records.mergeSort fun first second => first.joinedAt ≤ second.joinedAt

def shownIds (registry : Registry) : List MemberId := registry.view.members.map Member.id

structure Placed (registry : Registry) : Prop where
  distinct : (registry.records.map MemberRecord.joinedAt).Nodup
  before : ∀ record ∈ registry.records, record.joinedAt < registry.nextJoin

theorem placed_new (localId : MemberId) : (new localId).Placed := ⟨List.nodup_nil, by simp [new]⟩

theorem shownIds_eq (registry : Registry) :
    registry.shownIds = registry.ordered.map fun record => record.member.id :=
  List.map_map ..

theorem mem_shownIds_iff (registry : Registry) {id : MemberId} :
    id ∈ registry.shownIds ↔ registry.contains id = true := by
  rw [shownIds, view, registry.members_ids_perm.mem_iff, contains, Option.isSome_iff_ne_none, ne_eq,
    record?_eq_none_iff, Decidable.not_not]

section

variable {registry after : Registry}

theorem Placed.ascending (placed : registry.Placed) :
    registry.ordered.Pairwise fun first second => first.joinedAt < second.joinedAt := by
  have sorted : registry.ordered.Pairwise fun first second => first.joinedAt ≤ second.joinedAt := by
    let earlier (first second : MemberRecord) : Bool := decide (first.joinedAt ≤ second.joinedAt)
    have trans (first second third : MemberRecord) :
        earlier first second → earlier second third → earlier first third := by
      simpa [earlier] using Nat.le_trans
    have total (first second : MemberRecord) :
        (earlier first second || earlier second first) = true := by
      simpa [earlier] using Nat.le_total first.joinedAt second.joinedAt
    have weak := List.pairwise_mergeSort trans total registry.records
    simpa only [ordered, earlier, decide_eq_true_eq] using weak
  have distinct : registry.ordered.Pairwise fun first second =>
      first.joinedAt ≠ second.joinedAt := by
    rw [← List.pairwise_map]
    exact ((List.mergeSort_perm _ _).map MemberRecord.joinedAt).nodup_iff.mpr placed.distinct
  exact (sorted.and distinct).imp fun both => Nat.lt_of_le_of_ne both.1 both.2

/-- Only one arrangement of the records has their places in ascending order. -/
theorem Placed.ordered_eq (placed : registry.Placed) {line : List MemberRecord}
    (perm : line.Perm registry.records)
    (ascending : line.Pairwise fun first second => first.joinedAt < second.joinedAt) :
    registry.ordered = line := by
  refine List.Perm.eq_of_pairwise ?_ placed.ascending ascending
    ((List.mergeSort_perm _ _).trans perm.symm)
  intro first second _ _ less greater
  exact absurd (Nat.lt_trans less greater) (Nat.lt_irrefl _)

/-! ### What operations do to the order -/

theorem ordered_rewrite {change : MemberRecord → MemberRecord}
    (keeps : ∀ record ∈ registry.records, (change record).joinedAt = record.joinedAt) :
    (registry.rewrite change).ordered = registry.ordered.map change := by
  refine (List.map_mergeSort ?_).symm
  intro first firstPresent second secondPresent
  rw [keeps first firstPresent, keeps second secondPresent]

theorem shownIds_rewrite {change : MemberRecord → MemberRecord}
    (keeps : ∀ record ∈ registry.records,
      (change record).member.id = record.member.id ∧ (change record).joinedAt = record.joinedAt) :
    (registry.rewrite change).shownIds = registry.shownIds := by
  rw [shownIds_eq, shownIds_eq, ordered_rewrite fun record present => (keeps record present).2,
    List.map_map]
  apply List.map_congr_left
  intro record present
  exact (keeps record (List.mem_mergeSort.mp present)).1

theorem Placed.insert (placed : registry.Placed) (now : Instant) (member : Member) :
    (registry.insert now member).Placed where
  distinct := by
    refine List.nodup_cons.mpr ⟨?_, placed.distinct⟩
    intro taken
    obtain ⟨record, present, same⟩ := List.mem_map.mp taken
    exact absurd same (Nat.ne_of_lt (placed.before record present))
  before := by
    intro record present
    rcases List.mem_cons.mp present with rfl | was
    · exact Nat.lt_succ_self registry.nextJoin
    · exact Nat.lt_succ_of_lt (placed.before record was)

theorem Placed.ordered_insert (placed : registry.Placed) (now : Instant) (member : Member) :
    (registry.insert now member).ordered =
      registry.ordered ++ [.new registry.nextJoin now member] := by
  apply (placed.insert now member).ordered_eq
  · have same : (registry.insert now member).records =
        .new registry.nextJoin now member :: registry.records := rfl
    rw [same]
    exact List.perm_append_singleton .. |>.trans ((List.mergeSort_perm _ _).cons _)
  · refine List.pairwise_append.mpr ⟨placed.ascending, List.pairwise_singleton .., ?_⟩
    intro first present last listed
    obtain rfl := List.mem_singleton.mp listed
    exact placed.before first (List.mem_mergeSort.mp present)

theorem Placed.retain (placed : registry.Placed) (keep : MemberRecord → Bool) :
    (registry.retain keep).Placed where
  distinct := placed.distinct.sublist (List.filter_sublist.map _)
  before := fun record present => placed.before record (List.mem_of_mem_filter present)

theorem Placed.ordered_retain (placed : registry.Placed) (keep : MemberRecord → Bool) :
    (registry.retain keep).ordered = registry.ordered.filter keep :=
  (placed.retain keep).ordered_eq ((List.mergeSort_perm _ _).filter keep)
    (placed.ascending.filter keep)

theorem Step.keepsPlaces {view : Option View} (step : Step registry after view)
    (placed : registry.Placed) : after.Placed := by
  have rewritten {change : MemberRecord → MemberRecord}
      (keeps : ∀ record ∈ registry.records, (change record).joinedAt = record.joinedAt) :
      ((registry.rewrite change).records.map MemberRecord.joinedAt).Nodup := by
    have same : (registry.rewrite change).records.map MemberRecord.joinedAt =
        registry.records.map MemberRecord.joinedAt := by
      simpa [rewrite] using keeps
    rw [same]
    exact placed.distinct
  refine ⟨?_, step.placed placed.before⟩
  cases step with
  | unchanged => exact placed.distinct
  | touched change keeps => exact rewritten fun record present => (keeps record present).2
  | joined now member fresh => exact (placed.insert now member).distinct
  | changed change keeps => exact rewritten fun record present => (keeps record present).2
  | purged keep => exact (placed.retain keep).distinct

theorem placed_run (localId : MemberId) (operations : List Operation) :
    (run localId operations).Placed := by
  induction operations using List.reverseRecOn with
  | nil => exact placed_new localId
  | append_singleton earlier operation ih =>
    rw [run_append]
    exact (perform_step (sound_run localId earlier).unique operation).keepsPlaces ih

theorem Step.shownIds_cases {view : Option View} (step : Step registry after view)
    (placed : registry.Placed) :
    after.shownIds.Sublist registry.shownIds ∨
      ∃ id, registry.contains id = false ∧ after.contains id = true ∧
        after.shownIds = registry.shownIds ++ [id] := by
  cases step with
  | unchanged => exact .inl (List.Sublist.refl _)
  | touched change keeps =>
    have same : (registry.rewrite change).shownIds = registry.shownIds := by
      apply shownIds_rewrite
      intro record present
      exact ⟨congrArg Member.id (keeps record present).1, (keeps record present).2⟩
    exact .inl (same ▸ List.Sublist.refl _)
  | joined now member fresh =>
    refine .inr ⟨member.id, by simp [contains, fresh], ?_, ?_⟩
    · simp [contains, record?_insert]
    · change (registry.insert now member).shownIds = _
      rw [shownIds_eq, placed.ordered_insert, List.map_append, ← shownIds_eq]
      rfl
  | changed change keeps =>
    left
    change (registry.rewrite change).shownIds.Sublist _
    rw [shownIds_rewrite keeps]
  | purged keep =>
    left
    change (registry.retain keep).shownIds.Sublist _
    rw [shownIds_eq, placed.ordered_retain, shownIds_eq]
    exact List.filter_sublist.map _

end

theorem nodup_shownIds {registry : Registry} (unique : registry.UniqueIds) :
    registry.shownIds.Nodup :=
  registry.members_ids_perm.nodup_iff.mpr unique

theorem eq_filter_of_sublist {short long : List MemberId} {keep : MemberId → Bool}
    (sublist : short.Sublist long) (unique : long.Nodup)
    (kept : ∀ id ∈ long, keep id = true ↔ id ∈ short) : short = long.filter keep := by
  have within : short.Sublist (long.filter keep) := by
    have all : short.filter keep = short :=
      List.filter_eq_self.mpr fun id among => (kept id (sublist.subset among)).mpr among
    exact all ▸ sublist.filter keep
  have back : long.filter keep ⊆ short := by
    intro id among
    obtain ⟨present, keeps⟩ := List.mem_filter.mp among
    exact (kept id present).mp keeps
  exact within.eq_of_length_le (List.subperm_of_subset (unique.filter keep) back).length_le

section

variable {registry : Registry}

theorem contains_perform (unique : registry.UniqueIds) (operation : Operation) (id : MemberId) :
    (registry.perform operation).1.contains id =
      match operation with
      | .join _ member => registry.contains id || id = member.id
      | .purgeDead now grace =>
        registry.contains id && !(registry.purgeDead now grace).2.1.contains id
      | .leave .. | .heartbeat .. | .checkLiveness .. => registry.contains id := by
  cases operation with
  | join now member =>
    simp only [contains, record?_perform unique, Operation.onRecord]
    split
    next same => simp [same]
    next other => simp [other]
  | leave now leaver =>
    simp only [contains, record?_perform unique, Operation.onRecord]
    split <;> simp
  | heartbeat now sender =>
    simp only [contains, record?_perform unique, Operation.onRecord]
    split <;> simp
  | checkLiveness now timeout =>
    simp only [contains, record?_perform unique, Operation.onRecord, Option.isSome_map]
  | purgeDead now grace =>
    simp only [contains, perform, record?_kept unique]
    split
    next purged => simp [purged]
    next stays => simp [stays]

theorem shownIds_perform (unique : registry.UniqueIds) (placed : registry.Placed)
    (operation : Operation) :
    (registry.perform operation).1.shownIds =
      match operation with
      | .join _ member =>
        if registry.contains member.id then registry.shownIds else registry.shownIds ++ [member.id]
      | .purgeDead now grace =>
        registry.shownIds.filter fun id => !(registry.purgeDead now grace).2.1.contains id
      | .leave .. | .heartbeat .. | .checkLiveness .. => registry.shownIds := by
  have known := contains_perform unique operation
  rcases (perform_step unique operation).shownIds_cases placed with
    fewer | ⟨id, unknown, joined, added⟩
  · -- What is shown afterwards is a part of what was shown, in the same order, so it suffices to
    -- say who is still known.
    have filtered (keep : MemberId → Bool)
        (kept : ∀ id, registry.contains id = true →
          ((registry.perform operation).1.contains id = keep id)) :
        (registry.perform operation).1.shownIds = registry.shownIds.filter keep := by
      apply eq_filter_of_sublist fewer (nodup_shownIds unique)
      intro id shown
      rw [mem_shownIds_iff, kept id (registry.mem_shownIds_iff.mp shown)]
    have everyone (kept : ∀ id, registry.contains id = true →
        (registry.perform operation).1.contains id = true) :
        (registry.perform operation).1.shownIds = registry.shownIds := by
      rw [filtered (fun _ => true) kept, List.filter_true]
    cases operation with
    | join now member =>
      have familiar : registry.contains member.id = true := by
        apply registry.mem_shownIds_iff.mp
        apply fewer.subset
        rw [mem_shownIds_iff, known]
        simp
      simp only [familiar, if_true]
      exact everyone fun id present => by simp [known, present]
    | leave => exact everyone fun id present => (known id).trans present
    | heartbeat => exact everyone fun id present => (known id).trans present
    | checkLiveness => exact everyone fun id present => (known id).trans present
    | purgeDead now grace => exact filtered _ fun id present => by simp [known, present]
  · rw [known] at joined
    cases operation with
    | join now member =>
      obtain rfl : id = member.id := by simpa [unknown] using joined
      rw [added]
      simp [unknown]
    | leave => simp [unknown] at joined
    | heartbeat => simp [unknown] at joined
    | checkLiveness => simp [unknown] at joined
    | purgeDead => simp [unknown] at joined

end

/-! ### Any order of the records -/

/-- A run in which the records are put into any order between the operations. -/
inductive Shuffled (localId : MemberId) : List Operation → Registry → Prop where
  | start : Shuffled localId [] (new localId)
  | perform {operations : List Operation} {registry : Registry}
      (earlier : Shuffled localId operations registry) (operation : Operation) :
      Shuffled localId (operations ++ [operation]) (registry.perform operation).1
  | shuffle {operations : List Operation} {registry : Registry}
      (earlier : Shuffled localId operations registry) {records : List MemberRecord}
      (perm : records.Perm registry.records) :
      Shuffled localId operations { registry with records := records }

structure Agrees (first second : Registry) : Prop where
  owner : first.localId = second.localId
  version : first.version = second.version
  nextJoin : first.nextJoin = second.nextJoin
  record : ∀ id, first.record? id = second.record? id

section

variable {first second : Registry}

theorem Agrees.perm (agrees : Agrees first second) (unique : first.UniqueIds)
    (alsoUnique : second.UniqueIds) : first.records.Perm second.records := by
  rw [List.perm_ext_iff_of_nodup unique.of_map alsoUnique.of_map]
  have recorded {registry : Registry} (unique : registry.UniqueIds) (record : MemberRecord) :
      record ∈ registry.records ↔ registry.record? record.member.id = some record :=
    ⟨record?_of_mem unique, fun found => (record?_eq_some found).1⟩
  intro record
  rw [recorded unique, recorded alsoUnique, agrees.record]

theorem Agrees.view_eq (agrees : Agrees first second) (unique : first.UniqueIds)
    (alsoUnique : second.UniqueIds) (placed : first.Placed) (alsoPlaced : second.Placed) :
    first.view = second.view := by
  have ordered : first.ordered = second.ordered :=
    placed.ordered_eq ((List.mergeSort_perm _ _).trans (agrees.perm unique alsoUnique).symm)
      alsoPlaced.ascending
  have members : first.members = second.members := congrArg (List.map MemberRecord.member) ordered
  rw [view, view, agrees.version, members]

theorem nextJoin_perform (registry : Registry) (operation : Operation) :
    (registry.perform operation).1.nextJoin =
      match operation with
      | .join _ member =>
        if registry.contains member.id then registry.nextJoin else registry.nextJoin + 1
      | .leave .. | .heartbeat .. | .checkLiveness .. | .purgeDead .. => registry.nextJoin := by
  cases operation with
  | join now member =>
    cases found : registry.record? member.id with
    | none =>
      simp only [perform, join, contains, found]
      rfl
    | some known =>
      simp only [perform, join, contains, found, Option.isSome_some, if_true]
      split
      · rfl
      · split <;> rfl
  | leave now leaver =>
    simp only [perform, leave]
    split
    · rfl
    · split <;> rfl
  | heartbeat now sender =>
    simp only [perform, heartbeat]
    split
    · rfl
    · split
      · rfl
      · split <;> rfl
  | checkLiveness now timeout =>
    simp only [perform, checkLiveness]
    split <;> rfl
  | purgeDead now grace =>
    simp only [perform, purgeDead]
    split <;> rfl

/-- Words of 64 bits can count versions and joins through as many operations as they have values. -/
theorem counts_run_le (localId : MemberId) (operations : List Operation) :
    (run localId operations).version ≤ operations.length ∧
      (run localId operations).nextJoin ≤ operations.length := by
  induction operations using List.reverseRecOn with
  | nil => exact ⟨Nat.le_refl 0, Nat.le_refl 0⟩
  | append_singleton earlier operation ih =>
    have unique := (sound_run localId earlier).unique
    rw [run_append, version_perform unique, nextJoin_perform, List.length_append]
    constructor
    · split <;> simp <;> omega
    · cases operation with
      | join now member =>
        dsimp only
        split <;> simp <;> omega
      | leave | heartbeat | checkLiveness | purgeDead =>
        simp
        omega

theorem Agrees.isSome_perform (agrees : Agrees first second) (unique : first.UniqueIds)
    (alsoUnique : second.UniqueIds) (operation : Operation) :
    (first.perform operation).2.isSome = (second.perform operation).2.isSome := by
  rw [Bool.eq_iff_iff, isSome_perform_iff unique, isSome_perform_iff alsoUnique]
  simp only [Alters, record?_perform unique, record?_perform alsoUnique, agrees.record,
    agrees.owner, agrees.nextJoin]

theorem Agrees.perform (agrees : Agrees first second) (unique : first.UniqueIds)
    (alsoUnique : second.UniqueIds) (operation : Operation) :
    Agrees (first.perform operation).1 (second.perform operation).1 where
  owner := by
    rw [(perform_step unique operation).localId, (perform_step alsoUnique operation).localId,
      agrees.owner]
  version := by
    rw [version_perform unique, version_perform alsoUnique, tellsChange_answer, tellsChange_answer,
      agrees.isSome_perform unique alsoUnique, agrees.version]
  nextJoin := by
    rw [nextJoin_perform, nextJoin_perform]
    cases operation with
    | join now member =>
      have same : first.contains member.id = second.contains member.id := by
        rw [contains, contains, agrees.record]
      simp only [same, agrees.nextJoin]
    | leave | heartbeat | checkLiveness | purgeDead => exact agrees.nextJoin
  record := by
    intro id
    rw [record?_perform unique, record?_perform alsoUnique, agrees.record, agrees.owner,
      agrees.nextJoin]

theorem Agrees.announces (agrees : Agrees first second) (unique : first.UniqueIds)
    (alsoUnique : second.UniqueIds) (placed : first.Placed) (alsoPlaced : second.Placed)
    (operation : Operation) : (first.perform operation).2 = (second.perform operation).2 := by
  have step := perform_step unique operation
  have alsoStep := perform_step alsoUnique operation
  have view := (agrees.perform unique alsoUnique operation).view_eq (step.unique unique)
    (alsoStep.unique alsoUnique) (step.keepsPlaces placed) (alsoStep.keepsPlaces alsoPlaced)
  rw [perform_announces unique, perform_announces alsoUnique, Event.announcement,
    Event.announcement, tellsChange_answer, tellsChange_answer,
    agrees.isSome_perform unique alsoUnique, Event.after, Event.after, view]

theorem agrees_shuffle (unique : first.UniqueIds) {records : List MemberRecord}
    (perm : records.Perm first.records) : Agrees { first with records := records } first where
  owner := rfl
  version := rfl
  nextJoin := rfl
  record := by
    intro id
    have sameIds := perm.map fun record => record.member.id
    have alsoUnique : ({ first with records := records } : Registry).UniqueIds :=
      sameIds.nodup_iff.mpr unique
    apply Option.ext
    intro record
    constructor
    · intro found
      obtain ⟨present, rfl⟩ := record?_eq_some found
      exact record?_of_mem unique (perm.mem_iff.mp present)
    · intro found
      obtain ⟨present, rfl⟩ := record?_eq_some found
      exact record?_of_mem alsoUnique (perm.mem_iff.mpr present)

theorem shuffled_run (localId : MemberId) (operations : List Operation) :
    Shuffled localId operations (run localId operations) := by
  induction operations using List.reverseRecOn with
  | nil => exact .start
  | append_singleton earlier operation ih =>
    rw [run_append]
    exact ih.perform operation

theorem Shuffled.agrees {localId : MemberId} {operations : List Operation} {shuffled : Registry}
    (run : Shuffled localId operations shuffled) :
    shuffled.UniqueIds ∧ shuffled.Placed ∧ Agrees shuffled (Registry.run localId operations) := by
  induction run with
  | start => exact ⟨List.nodup_nil, placed_new localId, rfl, rfl, rfl, fun _ => rfl⟩
  | perform earlier operation ih =>
    obtain ⟨unique, placed, agrees⟩ := ih
    have step := perform_step unique operation
    rw [run_append]
    exact ⟨step.unique unique, step.keepsPlaces placed,
      agrees.perform unique (sound_run localId _).unique operation⟩
  | @shuffle operations registry earlier records perm ih =>
    obtain ⟨unique, placed, agrees⟩ := ih
    have sameIds := perm.map fun record => record.member.id
    have samePlaces := perm.map MemberRecord.joinedAt
    have shuffle := agrees_shuffle unique perm
    refine ⟨sameIds.nodup_iff.mpr unique, ⟨samePlaces.nodup_iff.mpr placed.distinct, ?_⟩,
      agrees.owner, agrees.version, agrees.nextJoin,
        fun id => (shuffle.record id).trans (agrees.record id)⟩
    intro record present
    exact placed.before record (perm.mem_iff.mp present)

end

/--
After every run no id is shown twice, and those shown are those known. An operation moves nobody: a
purge takes out those it gives, and whoever joins without being known is shown last, as is a member
that joins again after it was purged. In whatever order the records are kept meanwhile, the views
are the same.
-/
theorem run_keeps_join_order (localId : MemberId) (operations : List Operation) :
    let registry := run localId operations
    registry.shownIds.Nodup ∧
    (∀ id, id ∈ registry.shownIds ↔ registry.contains id = true) ∧
    (∀ operation, (registry.perform operation).1.shownIds =
      match operation with
      | .join _ member =>
        if registry.contains member.id then registry.shownIds else registry.shownIds ++ [member.id]
      | .purgeDead now grace =>
        registry.shownIds.filter fun id => !(registry.purgeDead now grace).2.1.contains id
      | .leave .. | .heartbeat .. | .checkLiveness .. => registry.shownIds) ∧
    (∀ now grace id later, id ∈ (registry.purgeDead now grace).2.1 →
      (∀ operation ∈ later, ¬ operation.Joins id) →
        let forgetful := (registry.purgeDead now grace).1.performAll later
        id ∉ forgetful.shownIds ∧
          ∀ now member, member.id = id →
            (forgetful.join now member).1.shownIds = forgetful.shownIds ++ [id]) ∧
    ∀ shuffled, Shuffled localId operations shuffled →
      shuffled.view = registry.view ∧
        ∀ operation, (shuffled.perform operation).2 = (registry.perform operation).2 := by
  intro registry
  have sound : registry.Sound := sound_run localId operations
  have placed : registry.Placed := placed_run localId operations
  refine ⟨nodup_shownIds sound.unique, fun id => registry.mem_shownIds_iff, ?_, ?_, ?_⟩
  · exact shownIds_perform sound.unique placed
  · intro past grace id later purged others forgetful
    have kept : (registry.purgeDead past grace).1.Sound := sound.perform (.purgeDead past grace)
    have absent : forgetful.record? id = none :=
      kept.absent_performAll (sound.purged_absent purged) others
    have unknown : forgetful.contains id = false := by simp [contains, absent]
    refine ⟨by simp [mem_shownIds_iff, unknown], ?_⟩
    rintro now member rfl
    have reached : forgetful = run localId (operations ++ .purgeDead past grace :: later) :=
      (performAll_append (new localId) operations (.purgeDead past grace :: later)).symm
    have shown := shownIds_perform (reached ▸ sound_run localId _).unique
      (reached ▸ placed_run localId _) (.join now member)
    simp only [unknown, Bool.false_eq_true, if_false] at shown
    exact shown
  · intro shuffled run
    obtain ⟨unique, alsoPlaced, agrees⟩ := run.agrees
    refine ⟨agrees.view_eq unique sound.unique alsoPlaced placed, ?_⟩
    exact agrees.announces unique sound.unique alsoPlaced placed

/--
A member that was forgotten joins again behind one that joined after it, whatever comes first in
store.
-/
theorem forgotten_member_joins_last :
    let member (text : String) : Member := .new ⟨text⟩ "" .unspecified
    let operations : List Operation :=
      [.join 0 (member "b"), .join 1 (member "c"), .join 2 (member "a"), .leave 3 ⟨"c"⟩]
    let registry := run ⟨"b"⟩ operations
    let forgetful := (registry.purgeDead 10 5).1
    registry.shownIds = [⟨"b"⟩, ⟨"c"⟩, ⟨"a"⟩] ∧ ⟨"c"⟩ ∈ (registry.purgeDead 10 5).2.1 ∧
      (forgetful.join 20 (member "c")).1.shownIds = [⟨"b"⟩, ⟨"a"⟩, ⟨"c"⟩] ∧
      ({ registry with records := registry.records.reverse } : Registry).view = registry.view := by
  intro member operations registry forgetful
  obtain ⟨-, -, steps, rejoins, shuffles⟩ := run_keeps_join_order ⟨"b"⟩ operations
  have purged : (registry.purgeDead 10 5).2.1 = [⟨"c"⟩] := by decide +kernel
  have gone : (⟨"c"⟩ : MemberId) ∈ (registry.purgeDead 10 5).2.1 := by simp [purged]
  have shown : registry.shownIds = [⟨"b"⟩, ⟨"c"⟩, ⟨"a"⟩] := by
    rw [shownIds_eq,
      (placed_run ⟨"b"⟩ operations).ordered_eq (List.reverse_perm _) (by decide +kernel)]
    decide +kernel
  have left : forgetful.shownIds =
      registry.shownIds.filter fun id => !(registry.purgeDead 10 5).2.1.contains id :=
    steps (.purgeDead 10 5)
  rw [shown, purged] at left
  have last : (forgetful.join 20 (member "c")).1.shownIds = forgetful.shownIds ++ [⟨"c"⟩] :=
    (rejoins 10 5 ⟨"c"⟩ [] gone (by simp)).2 20 (member "c") rfl
  refine ⟨shown, gone, ?_, ?_⟩
  · rw [last, left]
    decide
  · exact (shuffles _ ((shuffled_run ⟨"b"⟩ operations).shuffle (List.reverse_perm _))).1

end Registry

end ClusterCoordination
