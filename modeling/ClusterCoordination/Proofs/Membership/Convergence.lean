import Mathlib.Data.List.Induction
import ClusterCoordination.Proofs.Membership.Mastership
/-!
# Views in any order

Views may reach an elector late, again or not at all. What counts in the end is the last of those
with the greatest version, so electors that are given the same views agree, in whatever order they
are given them.
-/

set_option autoImplicit false

namespace ClusterCoordination

namespace Elector

/-- Whoever brings a view asks for the new master, or only tells that there is a view. -/
inductive Delivery where
  | asked (view : View)
  | told (view : View)
deriving DecidableEq

def Delivery.view : Delivery → View
  | .asked view | .told view => view

def deliver (elector : Elector) : Delivery → Elector × Option (Option MemberId)
  | .asked view => elector.recompute view
  | .told view => ((elector.recompute view).1, none)

def deliverAll (elector : Elector) (deliveries : List Delivery) : Elector :=
  deliveries.foldl (fun elector delivery => (elector.deliver delivery).1) elector

def run (localId : MemberId) (deliveries : List Delivery) : Elector :=
  (new localId).deliverAll deliveries

def writings (elector : Elector) : List Delivery → List (Option MemberId)
  | [] => []
  | delivery :: rest =>
    let after := (elector.deliver delivery).1
    let written := if after.published.writes = elector.published.writes then []
      else [after.published.value]
    written ++ after.writings rest

/-- Of the views with the greatest version it is the last. -/
def Newest (deliveries : List Delivery) (view : View) : Prop :=
  ∃ earlier delivery later, deliveries = earlier ++ delivery :: later ∧ delivery.view = view ∧
    (∀ other ∈ earlier, other.view.version ≤ view.version) ∧
      ∀ other ∈ later, other.view.version < view.version

section

variable {elector : Elector} {delivery : Delivery} {view : View}

theorem deliver_fst (elector : Elector) (delivery : Delivery) :
    (elector.deliver delivery).1 = (elector.recompute delivery.view).1 := by
  cases delivery <;> rfl

theorem deliver_stale (stale : delivery.view.version < elector.version) :
    (elector.deliver delivery).1 = elector := by
  rw [deliver_fst, recompute, if_pos stale]

theorem deliver_fresh (fresh : elector.version ≤ delivery.view.version) :
    (elector.deliver delivery).1.master = elect delivery.view.members ∧
      (elector.deliver delivery).1.version = delivery.view.version := by
  rw [deliver_fst]
  exact ⟨(Roster.recompute_fresh fresh).1, (Roster.recompute_fresh fresh).2.1⟩

theorem recompute_cases (elector : Elector) (view : View) :
    ((elector.recompute view).1.master = elector.master ∧
      (elector.recompute view).1.published = elector.published ∧
        (elector.recompute view).2 = none) ∨
    ((elector.recompute view).1.master ≠ elector.master ∧
      (elector.recompute view).1.published =
        elector.published.write (elector.recompute view).1.master ∧
      (elector.recompute view).2 = some (elector.recompute view).1.master) := by
  unfold recompute
  split
  next stale => exact .inl ⟨rfl, rfl, rfl⟩
  next fresh =>
    dsimp only
    split
    next same => exact .inl ⟨rfl, rfl, rfl⟩
    next changed => exact .inr ⟨changed, rfl, rfl⟩

theorem deliver_published (elector : Elector) (delivery : Delivery) :
    (elector.deliver delivery).1.published =
      if (elector.deliver delivery).1.master = elector.master then elector.published
      else elector.published.write (elector.deliver delivery).1.master := by
  rw [deliver_fst]
  rcases elector.recompute_cases delivery.view with ⟨same, kept, -⟩ | ⟨changed, written, -⟩
  · rw [if_pos same, kept]
  · rw [if_neg changed, written]

theorem answer_asked (elector : Elector) (view : View) :
    (elector.deliver (.asked view)).2 =
      if (elector.deliver (.asked view)).1.master = elector.master then none
      else some (elector.deliver (.asked view)).1.master := by
  change (elector.recompute view).2 =
    if (elector.recompute view).1.master = elector.master then none
    else some (elector.recompute view).1.master
  rcases elector.recompute_cases view with ⟨same, -, silent⟩ | ⟨changed, -, answered⟩
  · rw [if_pos same, silent]
  · rw [if_neg changed, answered]

theorem version_deliver_le {bound : Nat} (before : elector.version ≤ bound)
    (within : delivery.view.version ≤ bound) : (elector.deliver delivery).1.version ≤ bound := by
  rcases Nat.lt_or_ge delivery.view.version elector.version with stale | fresh
  · rwa [deliver_stale stale]
  · rwa [(deliver_fresh fresh).2]

end

section

variable {elector : Elector} {deliveries : List Delivery} {view : View}

theorem deliverAll_append (elector : Elector) (earlier later : List Delivery) :
    elector.deliverAll (earlier ++ later) = (elector.deliverAll earlier).deliverAll later :=
  List.foldl_append

theorem version_deliverAll_le {bound : Nat} (before : elector.version ≤ bound)
    (within : ∀ delivery ∈ deliveries, delivery.view.version ≤ bound) :
    (elector.deliverAll deliveries).version ≤ bound := by
  induction deliveries generalizing elector with
  | nil => exact before
  | cons delivery rest ih =>
    apply ih (version_deliver_le before (within delivery List.mem_cons_self))
    intro other among
    exact within other (List.mem_cons_of_mem delivery among)

theorem deliverAll_stale
    (stale : ∀ delivery ∈ deliveries, delivery.view.version < elector.version) :
    elector.deliverAll deliveries = elector := by
  induction deliveries with
  | nil => rfl
  | cons delivery rest ih =>
    have ignored := deliver_stale (stale delivery List.mem_cons_self)
    calc elector.deliverAll (delivery :: rest)
        = (elector.deliver delivery).1.deliverAll rest := rfl
      _ = elector.deliverAll rest := by rw [ignored]
      _ = elector := ih fun other among => stale other (List.mem_cons_of_mem delivery among)

theorem Newest.master (newest : Newest deliveries view) (localId : MemberId) :
    (run localId deliveries).master = elect view.members := by
  obtain ⟨earlier, delivery, later, rfl, rfl, atMost, below⟩ := newest
  have behind : ((new localId).deliverAll earlier).version ≤ delivery.view.version :=
    version_deliverAll_le (Nat.zero_le _) atMost
  obtain ⟨elected, version⟩ := deliver_fresh behind
  have settled : (((new localId).deliverAll earlier).deliver delivery).1.deliverAll later =
      (((new localId).deliverAll earlier).deliver delivery).1 := by
    apply deliverAll_stale
    rwa [version]
  rw [run, deliverAll_append]
  change ((((new localId).deliverAll earlier).deliver delivery).1.deliverAll later).master = _
  rw [settled, elected]

theorem Newest.mem (newest : Newest deliveries view) : view ∈ deliveries.map Delivery.view := by
  obtain ⟨earlier, delivery, later, rfl, rfl, -, -⟩ := newest
  exact List.mem_map_of_mem (List.mem_append_right earlier List.mem_cons_self)

theorem Newest.version_le (newest : Newest deliveries view) {other : View}
    (present : other ∈ deliveries.map Delivery.view) : other.version ≤ view.version := by
  obtain ⟨earlier, delivery, later, rfl, rfl, atMost, below⟩ := newest
  obtain ⟨delivered, among, rfl⟩ := List.mem_map.mp present
  rcases List.mem_append.mp among with before | after
  · exact atMost delivered before
  · rcases List.mem_cons.mp after with rfl | after
    · exact Nat.le_refl _
    · exact Nat.le_of_lt (below delivered after)

theorem exists_newest (inhabited : deliveries ≠ []) : ∃ view, Newest deliveries view := by
  induction deliveries using List.reverseRecOn with
  | nil => exact absurd rfl inhabited
  | append_singleton earlier delivery ih =>
    by_cases first : earlier = []
    · exact ⟨delivery.view, [], delivery, [], by rw [first], rfl, by simp, by simp⟩
    · obtain ⟨view, newest⟩ := ih first
      rcases Nat.lt_or_ge delivery.view.version view.version with stale | fresh
      · obtain ⟨before, latest, later, rfl, same, atMost, below⟩ := newest
        refine ⟨view, before, latest, later ++ [delivery], by simp, same, atMost, ?_⟩
        intro other among
        rcases List.mem_append.mp among with known | last
        · exact below other known
        · rwa [List.mem_singleton.mp last]
      · refine ⟨delivery.view, earlier, delivery, [], rfl, rfl, ?_, by simp⟩
        intro other among
        exact Nat.le_trans (newest.version_le (List.mem_map_of_mem among)) fresh

/-- Where a version stands for a view, the order of the deliveries does not matter. -/
theorem master_of_perm {others : List Delivery} (localId : MemberId)
    (same : (others.map Delivery.view).Perm (deliveries.map Delivery.view))
    (versioned : ∀ first ∈ deliveries.map Delivery.view, ∀ second ∈ deliveries.map Delivery.view,
      first.version = second.version → first = second) :
    (run localId others).master = (run localId deliveries).master := by
  by_cases none : deliveries = []
  · subst none
    have empty : others = [] := List.map_eq_nil_iff.mp same.eq_nil
    rw [empty]
  · have some : others ≠ [] := by
      rintro rfl
      exact none (List.map_eq_nil_iff.mp same.nil_eq.symm)
    obtain ⟨view, newest⟩ := exists_newest none
    obtain ⟨other, alsoNewest⟩ := exists_newest some
    have present := same.mem_iff.mp alsoNewest.mem
    have versions : other.version = view.version :=
      Nat.le_antisymm (newest.version_le present)
        (alsoNewest.version_le (same.mem_iff.mpr newest.mem))
    rw [newest.master, alsoNewest.master, versioned other present view newest.mem versions]

end

theorem value_deliverAll {elector : Elector} (shown : elector.published.value = elector.master)
    (deliveries : List Delivery) :
    (elector.deliverAll deliveries).published.value = (elector.deliverAll deliveries).master := by
  induction deliveries generalizing elector with
  | nil => exact shown
  | cons delivery rest ih =>
    apply ih
    rw [deliver_published]
    split
    next same => rw [shown, same]
    next => rfl

theorem writings_cons (elector : Elector) (delivery : Delivery) (rest : List Delivery) :
    elector.writings (delivery :: rest) =
      (if (elector.deliver delivery).1.master = elector.master then []
        else [(elector.deliver delivery).1.master]) ++
          (elector.deliver delivery).1.writings rest := by
  simp only [writings]
  rw [deliver_published]
  split
  · rw [if_pos rfl]
  · simp [Watched.write]

theorem writings_append (elector : Elector) (earlier later : List Delivery) :
    elector.writings (earlier ++ later) =
      elector.writings earlier ++ (elector.deliverAll earlier).writings later := by
  induction earlier generalizing elector with
  | nil => rfl
  | cons delivery rest ih =>
    rw [List.cons_append, writings_cons, writings_cons, ih, List.append_assoc]
    rfl

theorem writes_deliverAll (elector : Elector) (deliveries : List Delivery) :
    (elector.deliverAll deliveries).published.writes =
      elector.published.writes + (elector.writings deliveries).length := by
  induction deliveries generalizing elector with
  | nil => rfl
  | cons delivery rest ih =>
    rw [writings_cons, List.length_append, ← Nat.add_assoc]
    change ((elector.deliver delivery).1.deliverAll rest).published.writes = _
    rw [ih, deliver_published]
    split <;> rfl

theorem writings_differ (elector : Elector) (deliveries : List Delivery) :
    (elector.master :: elector.writings deliveries).IsChain (· ≠ ·) := by
  induction deliveries generalizing elector with
  | nil => exact .singleton _
  | cons delivery rest ih =>
    have later := ih (elector.deliver delivery).1
    rw [writings_cons]
    split
    next same => rwa [same] at later
    next changed => exact .cons_cons (Ne.symm changed) later

/--
In the end the master is that of the last view with the greatest version. Electors that are given
the same views in any order agree, if views of one version are the same. The watched value is the
master at every moment, and it is written exactly when the master changes, which is also when
whoever asks is told of it.
-/
theorem run_converges (localId : MemberId) (deliveries : List Delivery) :
    let elector := run localId deliveries
    let published := (new localId).writings deliveries
    (deliveries = [] → elector.master = none) ∧
    (deliveries ≠ [] → ∃ view, Newest deliveries view) ∧
    (∀ view, Newest deliveries view → elector.master = elect view.members) ∧
    (∀ others : List Delivery, (others.map Delivery.view).Perm (deliveries.map Delivery.view) →
      (∀ first ∈ deliveries.map Delivery.view, ∀ second ∈ deliveries.map Delivery.view,
        first.version = second.version → first = second) →
      (run localId others).master = elector.master) ∧
    elector.published.value = elector.master ∧
    elector.published.writes = published.length ∧
    (none :: published).IsChain (· ≠ ·) ∧
    ∀ delivery : Delivery,
      let after := (elector.deliver delivery).1
      (after.published = if after.master = elector.master then elector.published
        else elector.published.write after.master) ∧
      ((new localId).writings (deliveries ++ [delivery]) = published ++
        if after.master = elector.master then [] else [after.master]) ∧
      ∀ view, delivery = .asked view → (elector.deliver delivery).2 =
        if after.master = elector.master then none else some after.published.value := by
  intro elector published
  have shown : elector.published.value = elector.master := value_deliverAll rfl deliveries
  have counted := (new localId).writes_deliverAll deliveries
  refine ⟨?_, exists_newest, fun view newest => newest.master localId, ?_, shown,
    counted.trans (Nat.zero_add _), (new localId).writings_differ deliveries, ?_⟩
  · rintro rfl
    rfl
  · intro others same versioned
    exact master_of_perm localId same versioned
  · intro delivery after
    refine ⟨elector.deliver_published delivery, ?_, ?_⟩
    · rw [writings_append, writings_cons]
      exact congrArg (published ++ ·) (List.append_nil _)
    · rintro view rfl
      have value : after.published.value = after.master := value_deliverAll shown [.asked view]
      rw [value]
      exact elector.answer_asked view

/--
A view that comes late, and one that comes again, leave no trace, whichever way round they come.
-/
theorem late_views_change_nothing :
    let view (version : Nat) (name : String) : View := ⟨version, [.new ⟨name⟩ "" .unspecified]⟩
    let deliveries : List Delivery :=
      [.asked (view 5 "b"), .told (view 2 "a"), .asked (view 7 "c"), .told (view 7 "c")]
    (run ⟨"b"⟩ deliveries).master = some ⟨"c"⟩ ∧
      (run ⟨"b"⟩ deliveries.reverse).master = some ⟨"c"⟩ ∧
      (run ⟨"b"⟩ deliveries).published.writes = 2 := by
  intro view deliveries
  obtain ⟨-, -, elected, agrees, -, counted, -, -⟩ := run_converges ⟨"b"⟩ deliveries
  have newest : Newest deliveries (view 7 "c") :=
    ⟨[.asked (view 5 "b"), .told (view 2 "a"), .asked (view 7 "c")], .told (view 7 "c"), [], rfl,
      rfl, by decide, by decide⟩
  have master : (run ⟨"b"⟩ deliveries).master = some ⟨"c"⟩ :=
    (elected (view 7 "c") newest).trans (by decide +kernel)
  have reversed : (deliveries.reverse.map Delivery.view).Perm (deliveries.map Delivery.view) :=
    deliveries.reverse_perm.map Delivery.view
  exact ⟨master, (agrees deliveries.reverse reversed (by decide)).trans master,
    counted.trans (by decide +kernel)⟩

end Elector

end ClusterCoordination
