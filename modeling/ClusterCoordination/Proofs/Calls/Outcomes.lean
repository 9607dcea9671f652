import Mathlib.Data.List.Induction
import ClusterCoordination.Calls.FanOut
import ClusterCoordination.Proofs.Bindings
import ClusterCoordination.Proofs.Membership.Election
/-!
# What a call to several members came to

The outcomes are one list. Its successes and failures, its first failure and the result it is turned
into are ways to look at it, and agree wherever no member has two outcomes that differ. A member
that has is looked up with the first of them and is given the last in the result.
-/

set_option autoImplicit false

namespace ClusterCoordination

variable {α : Type}

theorem Bindings.get?_eq_none_iff {Key Value : Type} [DecidableEq Key]
    (bindings : Bindings Key Value) (key : Key) :
    bindings.get? key = none ↔ key ∉ bindings.map Prod.fst := by
  simp only [get?, Option.map_eq_none_iff, List.find?_eq_none, List.mem_map, decide_eq_true_eq]
  constructor
  · rintro other ⟨entry, member, same⟩
    exact other entry member same
  · intro absent entry member same
    exact absent ⟨entry, member, same⟩

def IsAscending (entries : List (MemberId × α)) : Prop :=
  entries.Pairwise fun first second => first.1 ≤ second.1 ∧ first.1 ≠ second.1

theorem mem_insertSorted {id : MemberId} {value : α} {entries : List (MemberId × α)}
    {entry : MemberId × α} (member : entry ∈ insertSorted id value entries) :
    entry = (id, value) ∨ entry ∈ entries := by
  induction entries with
  | nil => exact .inl (List.mem_singleton.mp member)
  | cons head rest ih =>
    simp only [insertSorted] at member
    split at member
    · exact (List.mem_cons.mp member).imp_right (List.mem_cons_of_mem head)
    · split at member
      · exact List.mem_cons.mp member
      · rcases List.mem_cons.mp member with rfl | below
        · exact .inr List.mem_cons_self
        · exact (ih below).imp_right (List.mem_cons_of_mem head)

theorem IsAscending.insertSorted {entries : List (MemberId × α)} (ascending : IsAscending entries)
    (id : MemberId) (value : α) : IsAscending (insertSorted id value entries) := by
  induction entries with
  | nil => exact List.pairwise_singleton _ _
  | cons head rest ih =>
    obtain ⟨above, others⟩ := List.pairwise_cons.mp ascending
    simp only [ClusterCoordination.insertSorted]
    split
    next same => exact List.pairwise_cons.mpr ⟨by rwa [same], others⟩
    next differs =>
      split
      next below =>
        refine List.pairwise_cons.mpr ⟨fun entry member => ?_, ascending⟩
        rcases List.mem_cons.mp member with rfl | later
        · exact ⟨below, differs⟩
        · have higher := above entry later
          refine ⟨Std.le_trans below higher.1, ?_⟩
          rintro rfl
          exact differs (Std.le_antisymm below higher.1)
      next not_below =>
        refine List.pairwise_cons.mpr ⟨fun entry member => ?_, ih others⟩
        rcases mem_insertSorted member with rfl | later
        · exact ⟨(Std.le_total (a := id)).resolve_left not_below, fun same => differs same.symm⟩
        · exact above entry later

theorem get?_insertSorted (id : MemberId) (value : α) (entries : List (MemberId × α))
    (key : MemberId) :
    Bindings.get? (insertSorted id value entries) key =
      if id = key then some value else Bindings.get? entries key := by
  induction entries with
  | nil => by_cases same : id = key <;> simp [insertSorted, Bindings.get?, same]
  | cons head rest ih =>
    simp only [insertSorted]
    split
    next replaced =>
      subst replaced
      by_cases same : head.1 = key <;> simp [Bindings.get?, same]
    next differs =>
      split
      next => by_cases same : id = key <;> simp [Bindings.get?, same]
      next =>
        by_cases same : head.1 = key
        · have other : id ≠ key := fun again => differs (again.trans same.symm)
          simp [Bindings.get?, same, other]
        · simpa [Bindings.get?, List.find?_cons, same] using ih

namespace FanOut

def ofSuccess (success : MemberId × α) : MemberId × Except ClusterError α :=
  (success.1, .ok success.2)

def ofFailure (failure : MemberId × ClusterError) : MemberId × Except ClusterError α :=
  (failure.1, .error failure.2)

variable (result : FanOut α)

theorem successes_eq_filter :
    result.successes.map ofSuccess =
      result.outcomes.filter fun outcome => !isFailed outcome := by
  rw [successes, List.map_filterMap, ← List.filterMap_eq_filter]
  refine List.filterMap_congr fun outcome _ => ?_
  obtain ⟨id, _ | value⟩ := outcome <;> simp [isFailed, Option.guard, ofSuccess]

theorem failures_eq_filter :
    result.failures.map ofFailure = result.outcomes.filter isFailed := by
  rw [failures, List.map_filterMap, ← List.filterMap_eq_filter]
  refine List.filterMap_congr fun outcome _ => ?_
  obtain ⟨id, _ | value⟩ := outcome <;> simp [isFailed, Option.guard, ofFailure]

theorem firstFailure?_eq_find? :
    result.firstFailure?.map ofFailure = result.outcomes.find? isFailed := by
  rw [firstFailure?, ← List.head?_map, failures_eq_filter, List.head?_filter]

theorem isSuccess_iff :
    result.isSuccess = true ↔ ∀ outcome ∈ result.outcomes, isFailed outcome = false := by
  rw [isSuccess, Option.isNone_iff_eq_none, ← Option.map_eq_none_iff, firstFailure?_eq_find?,
    List.find?_eq_none]
  simp

/-- The outcome of the last call to a member. -/
def last? (id : MemberId) : Option (Except ClusterError α) := get? ⟨result.outcomes.reverse⟩ id

def collect (successes : List (MemberId × α)) : List (MemberId × α) :=
  successes.foldl (fun values (id, value) => insertSorted id value values) []

theorem collect_concat (successes : List (MemberId × α)) (success : MemberId × α) :
    collect (successes ++ [success]) = insertSorted success.1 success.2 (collect successes) := by
  rw [collect, List.foldl_append]
  rfl

theorem isAscending_collect (successes : List (MemberId × α)) :
    IsAscending (collect successes) := by
  induction successes using List.reverseRecOn with
  | nil => exact List.Pairwise.nil
  | append_singleton successes success ih =>
    rw [collect_concat]
    exact ih.insertSorted success.1 success.2

theorem get?_collect (successes : List (MemberId × α)) (id : MemberId) :
    Bindings.get? (collect successes) id = Bindings.get? successes.reverse id := by
  induction successes using List.reverseRecOn with
  | nil => rfl
  | append_singleton successes success ih =>
    rw [collect_concat, get?_insertSorted, ih, List.reverse_append, List.reverse_singleton,
      List.singleton_append]
    by_cases same : success.1 = id <;> simp [Bindings.get?, same]

theorem get?_map_ok (successes : List (MemberId × α)) (id : MemberId) :
    get? ⟨successes.map ofSuccess⟩ id =
      (Bindings.get? successes id).map .ok := by
  simp only [get?, Bindings.get?, List.find?_map, Option.map_map]
  rfl

variable {result}

theorem toResult_eq_ok {values : List (MemberId × α)} (successful : result.toResult = .ok values) :
    result.outcomes = result.successes.map ofSuccess ∧
      values = collect result.successes := by
  unfold toResult at successful
  split at successful
  next none_failed =>
    refine ⟨?_, (Except.ok.inj successful).symm⟩
    rw [successes_eq_filter, eq_comm, List.filter_eq_self]
    simpa [List.findIdx?_eq_none_iff] using none_failed
  next => cases successful

theorem toResult_eq_error {failure : PartialFailure α} (failed : result.toResult = .error failure) :
    failure.outcomes = result.outcomes ∧
      ∃ inside : failure.firstFailureIndex < result.outcomes.length,
        isFailed result.outcomes[failure.firstFailureIndex] = true ∧
        ∀ outcome ∈ result.outcomes.take failure.firstFailureIndex, isFailed outcome = false := by
  unfold toResult at failed
  split at failed
  next => cases failed
  next index found =>
    obtain rfl := Except.error.inj failed
    obtain ⟨inside, fails, before⟩ := List.findIdx?_eq_some_iff_getElem.mp found
    refine ⟨rfl, inside, fails, fun outcome among => ?_⟩
    obtain ⟨place, earlier, rfl⟩ := List.mem_take_iff_getElem.mp among
    simpa using before place (Nat.lt_of_lt_of_le earlier (Nat.min_le_left _ _))

theorem toResult_isOk_iff :
    (∃ values, result.toResult = .ok values) ↔ result.isSuccess = true := by
  rw [isSuccess_iff, ← List.findIdx?_eq_none_iff, toResult]
  split <;> simp_all

theorem firstFailure?_of_error {failure : PartialFailure α}
    (failed : result.toResult = .error failure) :
    ∃ id error, result.firstFailure? = some (id, error) ∧
      failure.firstFailure? = some (id, some error) := by
  obtain ⟨kept, inside, fails, before⟩ := toResult_eq_error failed
  have found : result.outcomes.find? isFailed =
      some result.outcomes[failure.firstFailureIndex] := by
    refine List.find?_eq_some_iff_getElem.mpr ⟨fails, _, inside, rfl, fun index earlier => ?_⟩
    have among : result.outcomes[index] ∈ result.outcomes.take failure.firstFailureIndex :=
      List.mem_take_iff_getElem.mpr
        ⟨index, Nat.lt_min.mpr ⟨earlier, Nat.lt_trans earlier inside⟩, rfl⟩
    simp [before _ among]
  rw [← firstFailure?_eq_find?, Option.map_eq_some_iff] at found
  obtain ⟨⟨id, error⟩, first, same⟩ := found
  refine ⟨id, error, first, ?_⟩
  rw [PartialFailure.firstFailure?, kept, List.getElem?_eq_getElem inside, ← same]
  rfl

theorem get?_of_agree {id : MemberId}
    (agree : ∀ outcome ∈ result.outcomes, outcome.1 = id → some outcome.2 = result.get? id) :
    result.last? id = result.get? id := by
  change (result.outcomes.reverse.find? _).map _ = _
  cases found : result.outcomes.reverse.find? (fun outcome => outcome.1 = id) with
  | none =>
    have absent : ∀ outcome ∈ result.outcomes, outcome.1 ≠ id := by
      simpa [List.find?_eq_none] using found
    have missing : result.outcomes.find? (fun outcome => outcome.1 = id) = none := by
      simpa [List.find?_eq_none] using absent
    simp [get?, missing]
  | some outcome =>
    have member : outcome ∈ result.outcomes := List.mem_reverse.mp (List.mem_of_find?_eq_some found)
    have same : outcome.1 = id := by simpa using List.find?_some found
    simp [← agree outcome member same]

theorem toResult_keys {values : List (MemberId × α)} (successful : result.toResult = .ok values)
    (id : MemberId) : id ∈ values.map Prod.fst ↔ id ∈ result.outcomes.map Prod.fst := by
  obtain ⟨outcomes, rfl⟩ := toResult_eq_ok successful
  have absent : id ∉ (collect result.successes).map Prod.fst ↔
      id ∉ result.outcomes.map Prod.fst := by
    rw [← Bindings.get?_eq_none_iff, get?_collect, Bindings.get?_eq_none_iff, outcomes,
      List.map_map, List.map_reverse, List.mem_reverse]
    rfl
  exact not_iff_not.mp absent

theorem toResult_get? {values : List (MemberId × α)} (successful : result.toResult = .ok values)
    (id : MemberId) : (Bindings.get? values id).map .ok = result.last? id := by
  obtain ⟨outcomes, rfl⟩ := toResult_eq_ok successful
  rw [get?_collect, ← get?_map_ok, last?, outcomes, List.map_reverse]

/--
A result without failures has one entry for each member that was called, with the last outcome of
that member, which is what the member is looked up with if all outcomes of it are alike. Otherwise
the outcomes are kept, with the place of the first failure. Successes and failures are parts of the
outcomes, each in order, and no outcome is in both or in neither.
-/
theorem outcomes_tell_one_story (result : FanOut α) :
    (result.isSuccess = true ↔ ∀ outcome ∈ result.outcomes, isFailed outcome = false) ∧
    ((∃ values, result.toResult = .ok values) ↔ result.isSuccess = true) ∧
    (∀ values, result.toResult = .ok values →
      IsAscending values ∧
      (∀ id, id ∈ values.map Prod.fst ↔ id ∈ result.outcomes.map Prod.fst) ∧
      (∀ id, (Bindings.get? values id).map .ok = result.last? id) ∧
      ∀ id, (∀ outcome ∈ result.outcomes, outcome.1 = id → some outcome.2 = result.get? id) →
        (Bindings.get? values id).map .ok = result.get? id) ∧
    (∀ failure, result.toResult = .error failure →
      (failure.outcomes = result.outcomes ∧
        ∃ inside : failure.firstFailureIndex < result.outcomes.length,
          isFailed result.outcomes[failure.firstFailureIndex] = true ∧
          ∀ outcome ∈ result.outcomes.take failure.firstFailureIndex, isFailed outcome = false) ∧
      ∃ id error, result.firstFailure? = some (id, error) ∧
        failure.firstFailure? = some (id, some error)) ∧
    result.successes.map ofSuccess = result.outcomes.filter (fun outcome => !isFailed outcome) ∧
    result.failures.map ofFailure = result.outcomes.filter isFailed ∧
    (result.successes.map ofSuccess ++ result.failures.map ofFailure).Perm result.outcomes := by
  refine ⟨result.isSuccess_iff, toResult_isOk_iff, fun values successful => ?_,
    fun failure failed => ⟨toResult_eq_error failed, firstFailure?_of_error failed⟩,
    result.successes_eq_filter, result.failures_eq_filter, ?_⟩
  · refine ⟨?_, toResult_keys successful, toResult_get? successful, fun id agree => ?_⟩
    · rw [(toResult_eq_ok successful).2]
      exact isAscending_collect result.successes
    · rw [toResult_get? successful, get?_of_agree agree]
  · rw [successes_eq_filter, failures_eq_filter]
    exact List.perm_append_comm.trans (List.filter_append_perm isFailed result.outcomes)

/-- The second of two calls to one member takes the place of the first. -/
theorem repeated_member_loses_success :
    let id : MemberId := ⟨"b"⟩
    let result : FanOut Bytes := ⟨[(id, .ok [1]), (id, .ok [2])]⟩
    result.toResult = .ok [(id, [2])] ∧ result.get? id = some (.ok [1]) ∧
      result.successes = [(id, [1]), (id, [2])] :=
  ⟨rfl, rfl, rfl⟩

/--
Two calls to one member that come to the same, and a third to another: one result, or one failure.
-/
theorem repeated_member_is_found :
    let b : MemberId := ⟨"b"⟩
    let a : MemberId := ⟨"a"⟩
    let successful : FanOut Bytes := ⟨[(b, .ok [1]), (a, .ok [2]), (b, .ok [1])]⟩
    let failed : FanOut Bytes := ⟨[(b, .ok [1]), (a, .error .timeout), (b, .ok [1])]⟩
    (∃ values, successful.toResult = .ok values ∧ IsAscending values ∧
      (Bindings.get? values b).map .ok = successful.get? b) ∧
    ∃ failure, failed.toResult = .error failure ∧
      failure.firstFailureIndex < failed.outcomes.length ∧
      ∃ id error, failed.firstFailure? = some (id, error) ∧
        failure.firstFailure? = some (id, some error) := by
  intro b a successful failed
  obtain ⟨_, _, ok, _⟩ := outcomes_tell_one_story successful
  obtain ⟨ascending, _, _, alike⟩ := ok [(a, [2]), (b, [1])] rfl
  obtain ⟨_, _, _, error, _⟩ := outcomes_tell_one_story failed
  obtain ⟨⟨_, inside, _⟩, first⟩ := error ⟨1, failed.outcomes⟩ rfl
  refine ⟨⟨_, rfl, ascending, alike b fun outcome member same => ?_⟩, _, rfl, inside, first⟩
  simp only [successful, List.mem_cons, List.not_mem_nil, or_false] at member
  rcases member with rfl | rfl | rfl
  · rfl
  · exact absurd same (by decide)
  · rfl

end FanOut

end ClusterCoordination
