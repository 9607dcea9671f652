import Mathlib.Data.Finset.Disjoint
import Mathlib.Data.Finset.SDiff
import Mathlib.Data.List.Induction
import ClusterCoordination.Membership.Changes
import ClusterCoordination.Proofs.Membership.Election
/-!
# Changes as differences

A feed of changes remembers who was alive in the newest view it has seen. What it publishes is the
difference between that and the next newer view, so whoever adds up the changes knows who is alive.
-/

set_option autoImplicit false

namespace ClusterCoordination

def View.UniqueIds (view : View) : Prop := (view.members.map Member.id).Nodup

instance : DecidablePred View.UniqueIds := fun view =>
  inferInstanceAs (Decidable (view.members.map Member.id).Nodup)

def View.aliveSet (view : View) : Finset MemberId := view.aliveIds.toFinset

namespace View

section

variable {view : View} {member : Member} {id : MemberId}

theorem find?_eq_some_iff (unique : view.UniqueIds) :
    view.find? id = some member ↔ member ∈ view.members ∧ member.id = id := by
  constructor
  · intro found
    exact ⟨List.mem_of_find?_eq_some found, by simpa using List.find?_some found⟩
  · rintro ⟨present, rfl⟩
    cases found : view.find? member.id with
    | none =>
      have other : ¬ member.id = member.id := by
        simpa using List.find?_eq_none.mp found member present
      exact absurd rfl other
    | some first =>
      have same : first.id = member.id := by simpa using List.find?_some found
      exact congrArg some
        (List.inj_on_of_nodup_map unique (List.mem_of_find?_eq_some found) present same)

theorem find?_id (found : view.find? id = some member) : member.id = id := by
  simpa using List.find?_some found

theorem alive_of_find? (unique : view.UniqueIds) (found : view.find? id = some member)
    (among : id ∈ view.aliveIds) : member.alive = true := by
  obtain ⟨other, present, alive, same⟩ := mem_aliveIds.mp among
  have again : view.find? id = some other := (find?_eq_some_iff unique).mpr ⟨present, same⟩
  rw [Option.some.inj (found.symm.trans again)]
  exact alive

theorem dead_of_find? (found : view.find? id = some member) (gone : id ∉ view.aliveIds) :
    member.alive = false := by
  rw [Bool.eq_false_iff]
  intro alive
  exact gone (mem_aliveIds.mpr ⟨member, List.mem_of_find?_eq_some found, alive, find?_id found⟩)

end

end View

namespace MembershipChange

def joinedIds (change : MembershipChange) : Finset MemberId :=
  (change.joined.map Member.id).toFinset

def leftIds (change : MembershipChange) : Finset MemberId := (change.left.map Member.id).toFinset

def apply (change : MembershipChange) (alive : Finset MemberId) : Finset MemberId :=
  (alive ∪ change.joinedIds) \ change.leftIds

def applyAll (changes : List MembershipChange) (alive : Finset MemberId) : Finset MemberId :=
  changes.foldl (fun alive change => change.apply alive) alive

end MembershipChange

namespace ChangeFeed

def aliveSet (feed : ChangeFeed) : Finset MemberId := feed.alive.toFinset

def observeAll (feed : ChangeFeed) (views : List View) : ChangeFeed := views.foldl observe feed

def run (views : List View) : ChangeFeed := new.observeAll views

def writings (feed : ChangeFeed) : List View → List MembershipChange
  | [] => []
  | view :: rest =>
    let after := feed.observe view
    let written := if after.published.writes = feed.published.writes then []
      else [after.published.value]
    written ++ after.writings rest

/-- None of the views has a greater version, and the version counts. -/
structure Highest (views : List View) (view : View) : Prop where
  delivered : view ∈ views
  positive : 0 < view.version
  greatest : ∀ other ∈ views, other.version ≤ view.version

/-- What a view tells whoever has taken the given ids for those of the alive. -/
structure Differs (before : Finset MemberId) (view : View) (change : MembershipChange) : Prop where
  version : change.version = view.version
  joined : ∀ member, member ∈ change.joined ↔
    member ∈ view.members ∧ member.alive = true ∧ member.id ∉ before
  left : ∀ id, id ∈ change.leftIds ↔ id ∈ before ∧ id ∉ view.aliveSet
  -- Of a member that the view no longer knows nothing but the id is left.
  shown : ∀ member ∈ change.left, member.alive = false ∧
    member = (view.find? member.id).getD (gone member.id)
  disjoint : Disjoint change.joinedIds change.leftIds
  once : (change.joined.map Member.id).Nodup ∧ (change.left.map Member.id).Nodup
  inhabited : ¬ (change.joined = [] ∧ change.left = [])

/-! ### One view -/

section

variable {before : List MemberId} {view : View} {id : MemberId}

theorem nodup_eraseDups (ids : List MemberId) : ids.eraseDups.Nodup := by
  match ids with
  | [] => simp
  | first :: rest =>
    rw [List.eraseDups_cons, List.nodup_cons]
    refine ⟨?_, nodup_eraseDups (rest.filter fun id => !id == first)⟩
    intro again
    simp [List.mem_eraseDups] at again
termination_by ids.length
decreasing_by exact Nat.lt_succ_of_le (List.length_filter_le _ rest)

theorem mem_sorted_aliveIds : id ∈ MemberId.sort view.aliveIds.eraseDups ↔ id ∈ view.aliveSet := by
  simp [MemberId.sort, View.aliveSet]

theorem nodup_sorted_aliveIds (view : View) : (MemberId.sort view.aliveIds.eraseDups).Nodup :=
  (List.mergeSort_perm _ _).nodup_iff.mpr (nodup_eraseDups _)

theorem find?_of_mem_aliveSet (unique : view.UniqueIds) (among : id ∈ view.aliveSet) :
    ∃ member, view.find? id = some member := by
  obtain ⟨member, present, -, same⟩ := View.mem_aliveIds.mp (List.mem_toFinset.mp among)
  exact ⟨member, (View.find?_eq_some_iff unique).mpr ⟨present, same⟩⟩

theorem mem_joined (unique : view.UniqueIds) {member : Member} :
    member ∈ (difference before view).joined ↔
      member ∈ view.members ∧ member.alive = true ∧ member.id ∉ before := by
  simp only [difference, List.mem_filterMap, List.mem_filter, mem_sorted_aliveIds,
    View.find?_eq_some_iff unique]
  constructor
  · rintro ⟨id, ⟨alive, fresh⟩, present, rfl⟩
    have found := (View.find?_eq_some_iff unique).mpr ⟨present, rfl⟩
    exact ⟨present, View.alive_of_find? unique found (List.mem_toFinset.mp alive),
      by simpa using fresh⟩
  · rintro ⟨present, alive, fresh⟩
    refine ⟨member.id, ⟨?_, by simpa using fresh⟩, present, rfl⟩
    exact List.mem_toFinset.mpr (View.mem_aliveIds.mpr ⟨member, present, alive, rfl⟩)

theorem joined_ids (unique : view.UniqueIds) :
    (difference before view).joined.map Member.id =
      (MemberId.sort view.aliveIds.eraseDups).filter fun id => !before.contains id := by
  simp only [difference, List.map_filterMap]
  have kept : ∀ id ∈ (MemberId.sort view.aliveIds.eraseDups).filter (fun id => !before.contains id),
      (view.find? id).map Member.id = some id := by
    intro id among
    obtain ⟨member, found⟩ :=
      find?_of_mem_aliveSet unique (mem_sorted_aliveIds.mp (List.mem_filter.mp among).1)
    rw [found, Option.map_some, View.find?_id found]
  rw [List.filterMap_congr kept, List.filterMap_some]

theorem left_ids (before : List MemberId) (view : View) :
    (difference before view).left.map Member.id =
      before.filter fun id => !(MemberId.sort view.aliveIds.eraseDups).contains id := by
  simp only [difference, List.map_map]
  apply List.map_id''
  intro id
  cases found : view.find? id with
  | none => simp [found, gone, Member.new]
  | some member => simpa [found] using View.find?_id found

theorem mem_joinedIds (unique : view.UniqueIds) :
    id ∈ (difference before view).joinedIds ↔ id ∈ view.aliveSet ∧ id ∉ before := by
  simp [MembershipChange.joinedIds, joined_ids unique, mem_sorted_aliveIds]

theorem mem_leftIds : id ∈ (difference before view).leftIds ↔ id ∈ before ∧ id ∉ view.aliveSet := by
  simp [MembershipChange.leftIds, left_ids, mem_sorted_aliveIds]

theorem shown_left {member : Member} (present : member ∈ (difference before view).left) :
    member.alive = false ∧ member = (view.find? member.id).getD (gone member.id) := by
  simp only [difference, List.mem_map, List.mem_filter] at present
  obtain ⟨id, ⟨-, dead⟩, rfl⟩ := present
  have absent : id ∉ view.aliveIds := by
    intro alive
    have among := mem_sorted_aliveIds.mpr (List.mem_toFinset.mpr alive)
    simp [among] at dead
  cases found : view.find? id with
  | none => simp [gone, Member.new, found]
  | some known =>
    have same := View.find?_id found
    simp [View.dead_of_find? found absent, same, found]

theorem apply_difference (unique : view.UniqueIds) :
    (difference before view).apply before.toFinset = view.aliveSet := by
  ext id
  simp only [MembershipChange.apply, Finset.mem_sdiff, Finset.mem_union, List.mem_toFinset,
    mem_joinedIds unique, mem_leftIds]
  tauto

theorem silent_iff (unique : view.UniqueIds) :
    ((difference before view).joined = [] ∧ (difference before view).left = []) ↔
      view.aliveSet = before.toFinset := by
  constructor
  · rintro ⟨nobody, none⟩
    have same : (difference before view).apply before.toFinset = view.aliveSet :=
      apply_difference unique
    have nothing : (difference before view).apply before.toFinset = before.toFinset := by
      simp [MembershipChange.apply, MembershipChange.joinedIds, MembershipChange.leftIds, nobody,
        none]
    exact same.symm.trans nothing
  · intro same
    constructor
    · rw [← List.map_eq_nil_iff, joined_ids unique, List.filter_eq_nil_iff]
      intro id alive
      have known : id ∈ before := List.mem_toFinset.mp (same ▸ mem_sorted_aliveIds.mp alive)
      simp [known]
    · rw [← List.map_eq_nil_iff, left_ids, List.filter_eq_nil_iff]
      intro id known
      have alive : id ∈ view.aliveSet := same ▸ List.mem_toFinset.mpr known
      simp [mem_sorted_aliveIds.mpr alive]

theorem differs_difference (unique : view.UniqueIds) (nodup : before.Nodup)
    (changed : view.aliveSet ≠ before.toFinset) :
    Differs before.toFinset view (difference before view) where
  version := rfl
  joined member := by simpa using mem_joined unique
  left id := by simpa using mem_leftIds
  shown member := shown_left
  disjoint := by
    rw [Finset.disjoint_left]
    intro id joined left
    exact ((mem_joinedIds unique).mp joined).2 (mem_leftIds.mp left).1
  once := by
    rw [joined_ids unique, left_ids]
    exact ⟨(nodup_sorted_aliveIds view).filter _, nodup.filter _⟩
  inhabited := fun silent => changed ((silent_iff unique).mp silent)

end

/-! ### Any views -/

section

variable {feed : ChangeFeed} {view : View} {views : List View}

theorem observe_stale (stale : view.version ≤ feed.version) : feed.observe view = feed :=
  if_pos stale

theorem version_observe (fresh : feed.version < view.version) :
    (feed.observe view).version = view.version := by
  rw [observe, if_neg (Nat.not_le.mpr fresh)]

theorem alive_observe (fresh : feed.version < view.version) :
    (feed.observe view).alive = MemberId.sort view.aliveIds.eraseDups := by
  rw [observe, if_neg (Nat.not_le.mpr fresh)]

theorem aliveSet_observe (fresh : feed.version < view.version) :
    (feed.observe view).aliveSet = view.aliveSet := by
  ext id
  rw [aliveSet, alive_observe fresh, List.mem_toFinset, mem_sorted_aliveIds]

theorem published_observe (unique : view.UniqueIds) (fresh : feed.version < view.version) :
    (feed.observe view).published =
      if view.aliveSet = feed.aliveSet then feed.published
      else feed.published.write (difference feed.alive view) := by
  have quiet : ((difference feed.alive view).joined.isEmpty &&
      (difference feed.alive view).left.isEmpty) = true ↔ view.aliveSet = feed.aliveSet := by
    rw [Bool.and_eq_true, List.isEmpty_iff, List.isEmpty_iff, silent_iff unique, aliveSet]
  rw [observe, if_neg (Nat.not_le.mpr fresh)]
  simp only [quiet]

structure Remembers (views : List View) (feed : ChangeFeed) : Prop where
  nodup : feed.alive.Nodup
  latest : ∀ view ∈ views, view.version ≤ feed.version
  source : (feed.version = 0 ∧ feed.aliveSet = ∅) ∨
    ∃ view, Highest views view ∧ view.version = feed.version ∧ feed.aliveSet = view.aliveSet

theorem remembers_new : new.Remembers [] where
  nodup := List.nodup_nil
  latest := by simp
  source := .inl ⟨rfl, rfl⟩

theorem Remembers.observe (remembers : feed.Remembers views) (view : View) :
    (feed.observe view).Remembers (views ++ [view]) := by
  -- A view that is newer than all before is remembered, and any other one changes nothing.
  rcases Nat.lt_or_ge feed.version view.version with fresh | stale
  · have version := version_observe fresh
    have bounded : ∀ other ∈ views ++ [view], other.version ≤ view.version := by
      intro other among
      rcases List.mem_append.mp among with known | last
      · exact Nat.le_trans (remembers.latest other known) (Nat.le_of_lt fresh)
      · rw [List.mem_singleton.mp last]
    refine ⟨?_, ?_, .inr ⟨view, ⟨by simp, Nat.zero_lt_of_lt fresh, bounded⟩, version.symm,
      aliveSet_observe fresh⟩⟩
    · rw [alive_observe fresh]
      exact nodup_sorted_aliveIds view
    · rwa [version]
  · rw [observe_stale stale]
    have bounded : ∀ other ∈ views ++ [view], other.version ≤ feed.version := by
      intro other among
      rcases List.mem_append.mp among with known | last
      · exact remembers.latest other known
      · rwa [List.mem_singleton.mp last]
    refine ⟨remembers.nodup, bounded, ?_⟩
    rcases remembers.source with nobody | ⟨highest, newest, version, shown⟩
    · exact .inl nobody
    · rw [← version] at bounded
      exact .inr ⟨highest, ⟨List.mem_append_left _ newest.delivered, newest.positive, bounded⟩,
        version, shown⟩

theorem Remembers.aliveSet_eq (remembers : feed.Remembers views)
    (versioned : ∀ first ∈ views, ∀ second ∈ views, first.version = second.version → first = second)
    (newest : Highest views view) : feed.aliveSet = view.aliveSet := by
  have behind := remembers.latest view newest.delivered
  rcases remembers.source with ⟨unset, -⟩ | ⟨highest, highestNewest, version, shown⟩
  · have positive := newest.positive
    omega
  · have same : highest.version = view.version :=
      Nat.le_antisymm (newest.greatest highest highestNewest.delivered) (version ▸ behind)
    rw [shown, versioned highest highestNewest.delivered view newest.delivered same]

theorem Remembers.observe_cases (remembers : feed.Remembers views) (unique : view.UniqueIds) :
    ((feed.observe view).aliveSet = feed.aliveSet ∧
      (feed.observe view).published = feed.published) ∨
    ((feed.observe view).aliveSet ≠ feed.aliveSet ∧ ∃ change,
      (feed.observe view).published = feed.published.write change ∧
      Differs feed.aliveSet view change ∧
      change.apply feed.aliveSet = (feed.observe view).aliveSet ∧
      feed.version < change.version ∧ change.version = (feed.observe view).version) := by
  rcases Nat.lt_or_ge feed.version view.version with fresh | stale
  · have published := published_observe unique fresh
    rw [aliveSet_observe fresh, version_observe fresh]
    split at published
    next same => exact .inl ⟨same, published⟩
    next changed =>
      exact .inr ⟨changed, difference feed.alive view, published,
        differs_difference unique remembers.nodup changed, apply_difference unique, fresh, rfl⟩
  · rw [observe_stale stale]
    exact .inl ⟨rfl, rfl⟩

end

/-! ### What is written -/

section

variable {feed : ChangeFeed} {view : View} {views : List View} {changes : List MembershipChange}

theorem run_append (views : List View) (view : View) :
    run (views ++ [view]) = (run views).observe view := List.foldl_append

theorem remembers_run (views : List View) : (run views).Remembers views := by
  induction views using List.reverseRecOn with
  | nil => exact remembers_new
  | append_singleton earlier view ih =>
    rw [run_append]
    exact ih.observe view

theorem writings_append (feed : ChangeFeed) (earlier later : List View) :
    feed.writings (earlier ++ later) =
      feed.writings earlier ++ (feed.observeAll earlier).writings later := by
  induction earlier generalizing feed with
  | nil => rfl
  | cons view rest ih =>
    simp only [List.cons_append, writings, ih, List.append_assoc]
    rfl

theorem writings_quiet (quiet : (feed.observe view).published = feed.published) :
    feed.writings [view] = [] := by
  simp [writings, quiet]

theorem writings_write {change : MembershipChange}
    (written : (feed.observe view).published = feed.published.write change) :
    feed.writings [view] = [change] := by
  simp [writings, written, Watched.write]

theorem applyAll_append (earlier : List MembershipChange) (change : MembershipChange)
    (alive : Finset MemberId) :
    MembershipChange.applyAll (earlier ++ [change]) alive =
      change.apply (MembershipChange.applyAll earlier alive) :=
  List.foldl_append

structure Tells (changes : List MembershipChange) (feed : ChangeFeed) : Prop where
  published : feed.published = ⟨changes.getLast?.getD .empty, changes.length⟩
  ascending : (0 :: changes.map MembershipChange.version).Pairwise (· < ·)
  bounded : ∀ change ∈ changes, change.version ≤ feed.version
  rebuilt : MembershipChange.applyAll changes ∅ = feed.aliveSet

theorem Tells.observe (tells : feed.Tells changes) (remembers : feed.Remembers views)
    (unique : view.UniqueIds) :
    (feed.observe view).Tells (changes ++ feed.writings [view]) := by
  have raised : feed.version ≤ (feed.observe view).version := by
    rcases Nat.lt_or_ge feed.version view.version with fresh | stale
    · rw [version_observe fresh]
      exact Nat.le_of_lt fresh
    · rw [observe_stale stale]
  -- A view is told of exactly if it changes who is remembered, and then its version is the highest
  -- so far.
  rcases remembers.observe_cases unique with
    ⟨same, quiet⟩ | ⟨-, change, written, -, applied, fresh, version⟩
  · rw [writings_quiet quiet, List.append_nil]
    refine ⟨quiet.trans tells.published, tells.ascending, ?_, tells.rebuilt.trans same.symm⟩
    intro change among
    exact Nat.le_trans (tells.bounded change among) raised
  · rw [writings_write written]
    constructor
    case published => simp [written, tells.published, Watched.write]
    case ascending =>
      rw [List.map_append, ← List.cons_append, List.pairwise_append]
      refine ⟨tells.ascending, List.pairwise_singleton _ _, ?_⟩
      intro version among last isLast
      rw [List.mem_singleton.mp isLast]
      rcases List.mem_cons.mp among with rfl | earlier
      · exact Nat.zero_lt_of_lt fresh
      · obtain ⟨known, written, rfl⟩ := List.mem_map.mp earlier
        exact Nat.lt_of_le_of_lt (tells.bounded known written) fresh
    case bounded =>
      intro other among
      rcases List.mem_append.mp among with earlier | last
      · exact Nat.le_trans (tells.bounded other earlier) raised
      · rw [List.mem_singleton.mp last, version]
    case rebuilt => rw [applyAll_append, tells.rebuilt, applied]

theorem tells_run (unique : ∀ view ∈ views, view.UniqueIds) :
    (run views).Tells (new.writings views) := by
  induction views using List.reverseRecOn with
  | nil => exact ⟨rfl, List.pairwise_singleton _ _, by simp [writings], rfl⟩
  | append_singleton earlier view ih =>
    have tells := ih fun other among => unique other (List.mem_append_left _ among)
    rw [run_append, writings_append]
    exact tells.observe (remembers_run earlier) (unique view (by simp))

end

/--
After the views, whatever their order, the feed remembers who is alive in the highest of them. A
view that changes whom it remembers makes it write one change, and any other view none. What it
writes is what joined and who left since the view before, and adding up all that has been written
gives who is alive.
-/
theorem run_writes_differences (views : List View) (unique : ∀ view ∈ views, view.UniqueIds)
    (versioned : ∀ first ∈ views, ∀ second ∈ views, first.version = second.version →
      first = second) :
    let feed := run views
    let changes := new.writings views
    (∀ highest, Highest views highest →
      feed.aliveSet = highest.aliveSet ∧ MembershipChange.applyAll changes ∅ = highest.aliveSet) ∧
    ((∃ highest, Highest views highest) ∨
      (∀ view ∈ views, view.version = 0) ∧ feed.aliveSet = ∅ ∧ changes = []) ∧
    feed.published = ⟨changes.getLast?.getD .empty, changes.length⟩ ∧
    (0 :: changes.map MembershipChange.version).Pairwise (· < ·) ∧
    ∀ earlier view later, views = earlier ++ view :: later →
      let before := run earlier
      let after := run (earlier ++ [view])
      (after.aliveSet = before.aliveSet → after.published = before.published ∧
        new.writings (earlier ++ [view]) = new.writings earlier) ∧
      (after.aliveSet ≠ before.aliveSet → ∃ change, Differs before.aliveSet view change ∧
        after.published = before.published.write change ∧
        new.writings (earlier ++ [view]) = new.writings earlier ++ [change]) := by
  intro feed changes
  have remembers : feed.Remembers views := remembers_run views
  have tells : feed.Tells changes := tells_run unique
  refine ⟨?_, ?_, tells.published, tells.ascending, ?_⟩
  · intro highest newest
    have shown := remembers.aliveSet_eq versioned newest
    exact ⟨shown, tells.rebuilt.trans shown⟩
  · rcases remembers.source with ⟨unset, nobody⟩ | ⟨highest, newest, -⟩
    · right
      refine ⟨fun view among => ?_, nobody, ?_⟩
      · exact Nat.le_zero.mp (unset ▸ remembers.latest view among)
      · rw [List.eq_nil_iff_forall_not_mem]
        intro change among
        have positive := List.rel_of_pairwise_cons tells.ascending (List.mem_map_of_mem among)
        have bounded := tells.bounded change among
        omega
    · exact .inl ⟨highest, newest⟩
  · rintro earlier view later rfl before after
    have observed : after = before.observe view := run_append earlier view
    have more : new.writings (earlier ++ [view]) = new.writings earlier ++ before.writings [view] :=
      writings_append new earlier [view]
    rw [more, observed]
    rcases (remembers_run earlier).observe_cases (unique view (by simp)) with
      ⟨same, quiet⟩ | ⟨changed, change, written, differs, -⟩
    · refine ⟨fun _ => ⟨quiet, ?_⟩, fun changed => absurd same changed⟩
      rw [writings_quiet quiet, List.append_nil]
    · refine ⟨fun same => absurd same changed, fun _ => ⟨change, differs, written, ?_⟩⟩
      rw [writings_write written]

/--
The second member is dead in a view that never comes and purged in the next. The feed has nothing
but its id to show, and says nothing of an older view, of one that comes again or of a change of
address.
-/
theorem purged_member_has_left :
    let member (text : String) : Member := .new ⟨text⟩ "n" .unspecified
    let moved := { member "a" with address := .v4 #v[127, 0, 0, 1] 1 }
    let views : List View := [⟨2, [member "a", member "b"]⟩, ⟨1, [member "b"]⟩, ⟨4, [member "a"]⟩,
      ⟨4, [member "a"]⟩, ⟨5, [moved]⟩]
    (run views).aliveSet = {⟨"a"⟩} ∧
      MembershipChange.applyAll (new.writings views) ∅ = {⟨"a"⟩} ∧
      (run views).published = ⟨⟨4, [], [gone ⟨"b"⟩]⟩, 2⟩ := by
  intro member moved views
  obtain ⟨remembered, -, published, -, -⟩ := run_writes_differences views (by decide) (by decide)
  obtain ⟨alive, rebuilt⟩ := remembered ⟨5, [moved]⟩ ⟨by simp [views], by decide, by decide⟩
  have sorted : (List.eraseDups [⟨"a"⟩, ⟨"b"⟩]).mergeSort MemberId.le = [⟨"a"⟩, ⟨"b"⟩] :=
    List.mergeSort_of_pairwise (by decide)
  have written : new.writings views =
      [⟨2, [member "a", member "b"], []⟩, ⟨4, [], [gone ⟨"b"⟩]⟩] := by
    simp [views, moved, member, Member.new, writings, observe, new, difference, View.aliveIds,
      View.alive, View.find?, MemberId.sort, sorted, gone, Watched.new, Watched.write]
  exact ⟨alive.trans (by decide), rebuilt.trans (by decide), published.trans (by rw [written]; rfl)⟩

end ChangeFeed

end ClusterCoordination
