import ClusterCoordination.Proofs.Membership.Convergence
import ClusterCoordination.Proofs.Membership.Differences
import ClusterCoordination.Proofs.Membership.Notifications
/-!
# Views that overtake each other

An operation updates the registry under its lock, but publishes the view it has been given after it
has let go of the lock. So of two operations that overlap the later one may publish first. The
elector and the feed of changes pass over a view that comes late. The counts do not.
-/

set_option autoImplicit false

namespace ClusterCoordination

/-- A roster and the operations on it that have updated the registry and not published yet. -/
structure Overlap where
  roster : Roster
  -- The views they have been given, in the order of the updates.
  waiting : List View
  -- The views that have been published, in the order in which they were.
  published : List View

namespace Overlap

inductive Step where
  | update (operation : Registry.Operation)
  -- The operation whose view waits at the place publishes it.
  | publish (place : Nat)

def Step.operation? : Step → Option Registry.Operation
  | .update operation => some operation
  | .publish _ => none

def start (localId : MemberId) : Overlap := ⟨.new localId, [], []⟩

def step (overlap : Overlap) : Step → Overlap
  | .update operation =>
    let (registry, view) := overlap.roster.registry.perform operation
    { overlap with
      roster := { overlap.roster with registry := registry }
      waiting := overlap.waiting ++ view.toList }
  | .publish place =>
    let view := overlap.waiting[place]?
    { roster := overlap.roster.publish view
      waiting := overlap.waiting.eraseIdx place
      published := overlap.published ++ view.toList }

def run (localId : MemberId) (steps : List Step) : Overlap := steps.foldl step (start localId)

theorem run_append (localId : MemberId) (earlier : List Step) (next : Step) :
    run localId (earlier ++ [next]) = (run localId earlier).step next := List.foldl_append

/-- Where each operation publishes before the next one starts, the two steps are the operation. -/
theorem publish_after_update {overlap : Overlap} (settled : overlap.waiting = [])
    (operation : Registry.Operation) :
    ((overlap.step (.update operation)).step (.publish 0)).roster =
      overlap.roster.perform operation ∧
      ((overlap.step (.update operation)).step (.publish 0)).waiting = [] := by
  rw [Roster.perform_eq_follow]
  simp only [step, settled, List.nil_append]
  cases (overlap.roster.registry.perform operation).2 <;> exact ⟨rfl, rfl⟩

theorem registry_publish (roster : Roster) (view : Option View) :
    (roster.publish view).registry = roster.registry := by
  cases view <;> rfl

theorem registry_run (localId : MemberId) (steps : List Step) :
    (run localId steps).roster.registry =
      Registry.run localId (steps.filterMap Step.operation?) := by
  induction steps using List.reverseRecOn with
  | nil => rfl
  | append_singleton earlier next ih =>
    rw [run_append, List.filterMap_append]
    cases next with
    | update operation =>
      have last : [Step.update operation].filterMap Step.operation? = [operation] := rfl
      rw [last, Registry.run_append, ← ih]
      rfl
    | publish place =>
      have last : [Step.publish place].filterMap Step.operation? = [] := rfl
      rw [last, List.append_nil, ← ih]
      exact registry_publish _ _

theorem unique_run (localId : MemberId) (steps : List Step) :
    (run localId steps).roster.registry.UniqueIds := by
  rw [registry_run]
  exact (Registry.sound_run localId _).unique

structure Accounted (localId : MemberId) (overlap : Overlap) : Prop where
  versions : ((overlap.published ++ overlap.waiting).map View.version).Perm
    (List.range' 1 overlap.roster.registry.version)
  current : ∀ view ∈ overlap.published ++ overlap.waiting,
    view.version = overlap.roster.registry.version → view = overlap.roster.registry.view
  unique : ∀ view ∈ overlap.published ++ overlap.waiting, view.UniqueIds
  empty : overlap.roster.registry.version = 0 → overlap.roster.registry.view = ⟨0, []⟩
  counts : overlap.roster.counts = (overlap.published.getLast?.map View.counts).getD ⟨0, 0⟩
  elector : overlap.roster.elector = .run localId (overlap.published.map .told)
  changes : overlap.roster.changes = .run overlap.published

section

variable {localId : MemberId} {overlap : Overlap}

theorem accounted_start (localId : MemberId) : (start localId).Accounted localId where
  versions := .refl _
  current := by simp [start]
  unique := by simp [start]
  empty _ := by simp [start, Roster.new, Registry.new, Registry.view, Registry.members]
  counts := rfl
  elector := rfl
  changes := rfl

theorem Accounted.version_le (accounted : overlap.Accounted localId) {view : View}
    (given : view ∈ overlap.published ++ overlap.waiting) :
    1 ≤ view.version ∧ view.version ≤ overlap.roster.registry.version := by
  have listed := accounted.versions.mem_iff.mp (List.mem_map_of_mem given)
  rw [List.mem_range'_1] at listed
  omega

theorem Accounted.update (accounted : overlap.Accounted localId)
    (unique : overlap.roster.registry.UniqueIds) (operation : Registry.Operation) :
    (overlap.step (.update operation)).Accounted localId := by
  have taken := Registry.perform_step unique operation
  unfold step
  dsimp only
  cases given : overlap.roster.registry.perform operation with
  | mk after view =>
    rw [given] at taken
    dsimp only at taken ⊢
    -- Without a view the registry shows what it did before; with one, the view is the next in
    -- number.
    cases view with
    | none =>
      have quiet := taken.quiet
      have version : after.version = overlap.roster.registry.version := congrArg View.version quiet
      rw [Option.toList_none, List.append_nil]
      constructor
      case versions => rw [version]; exact accounted.versions
      case current => rw [version, quiet]; exact accounted.current
      case unique => exact accounted.unique
      case empty => rw [version, quiet]; exact accounted.empty
      case counts => exact accounted.counts
      case elector => exact accounted.elector
      case changes => exact accounted.changes
    | some shown =>
      obtain ⟨rfl, raised⟩ := taken.published
      rw [Option.toList_some]
      constructor
      case versions =>
        rw [← List.append_assoc, List.map_append, raised, List.range'_1_concat]
        apply accounted.versions.append
        rw [Nat.add_comm 1, ← raised]
        exact .refl _
      case current =>
        intro view among (same : view.version = after.version)
        rw [← List.append_assoc] at among
        rcases List.mem_append.mp among with earlier | last
        · have behind := (accounted.version_le earlier).2
          omega
        · exact List.mem_singleton.mp last
      case unique =>
        intro view among
        rw [← List.append_assoc] at among
        rcases List.mem_append.mp among with earlier | last
        · exact accounted.unique view earlier
        · rw [List.mem_singleton.mp last]
          exact after.members_ids_perm.nodup_iff.mpr (taken.unique unique)
      case empty =>
        intro (unset : after.version = 0)
        omega
      case counts => exact accounted.counts
      case elector => exact accounted.elector
      case changes => exact accounted.changes

theorem Accounted.publish (accounted : overlap.Accounted localId) (place : Nat) :
    (overlap.step (.publish place)).Accounted localId := by
  unfold step
  dsimp only
  cases chosen : overlap.waiting[place]? with
  | none =>
    rw [List.eraseIdx_of_length_le (List.getElem?_eq_none_iff.mp chosen), Option.toList_none,
      List.append_nil]
    exact accounted
  | some view =>
    obtain ⟨within, rfl⟩ := List.getElem?_eq_some_iff.mp chosen
    -- Publishing moves a view from those that wait to those that are published.
    have moved :
        (overlap.published ++ [overlap.waiting[place]] ++ overlap.waiting.eraseIdx place).Perm
        (overlap.published ++ overlap.waiting) := by
      rw [List.append_assoc]
      exact (List.getElem_cons_eraseIdx_perm within).append_left _
    constructor
    case versions => exact (moved.map View.version).trans accounted.versions
    case current => exact fun view among => accounted.current view (moved.mem_iff.mp among)
    case unique => exact fun view among => accounted.unique view (moved.mem_iff.mp among)
    case empty => exact accounted.empty
    case counts => simp [Roster.publish]
    case elector =>
      rw [Option.toList_some, List.map_append, Elector.run, Elector.deliverAll_append]
      change (overlap.roster.elector.recompute _).1 = _
      rw [accounted.elector]
      rfl
    case changes =>
      rw [Option.toList_some, ChangeFeed.run_append]
      change overlap.roster.changes.observe _ = _
      rw [accounted.changes]

theorem accounted_run (localId : MemberId) (steps : List Step) :
    (run localId steps).Accounted localId := by
  induction steps using List.reverseRecOn with
  | nil => exact accounted_start localId
  | append_singleton earlier next ih =>
    rw [run_append]
    cases next with
    | update operation => exact ih.update (unique_run localId earlier) operation
    | publish place => exact ih.publish place

theorem Accounted.versioned (accounted : overlap.Accounted localId) :
    ∀ first ∈ overlap.published ++ overlap.waiting, ∀ second ∈ overlap.published ++ overlap.waiting,
      first.version = second.version → first = second := by
  have distinct : ((overlap.published ++ overlap.waiting).map View.version).Nodup :=
    accounted.versions.nodup_iff.mpr List.nodup_range'
  intro first among second alsoAmong same
  exact List.inj_on_of_nodup_map distinct among alsoAmong same

theorem Accounted.newest (accounted : overlap.Accounted localId) (settled : overlap.waiting = []) :
    overlap.published = [] ∧ overlap.roster.registry.view = ⟨0, []⟩ ∨
      ChangeFeed.Highest overlap.published overlap.roster.registry.view := by
  have versions := accounted.versions
  rw [settled, List.append_nil] at versions
  rcases Nat.eq_zero_or_pos overlap.roster.registry.version with unset | positive
  · left
    rw [unset] at versions
    exact ⟨List.map_eq_nil_iff.mp versions.eq_nil, accounted.empty unset⟩
  · right
    have listed :
        overlap.roster.registry.version ∈ List.range' 1 overlap.roster.registry.version := by
      rw [List.mem_range'_1]
      omega
    obtain ⟨view, among, version⟩ := List.mem_map.mp (versions.mem_iff.mpr listed)
    have shown := accounted.current view (List.mem_append_left _ among) version
    refine ⟨shown ▸ among, positive, ?_⟩
    intro other given
    exact (accounted.version_le (List.mem_append_left _ given)).2

theorem Accounted.master (accounted : overlap.Accounted localId) (settled : overlap.waiting = []) :
    overlap.roster.master = elect overlap.roster.registry.view.members := by
  rw [Roster.master, accounted.elector]
  rcases accounted.newest settled with ⟨nothing, empty⟩ | highest
  · rw [nothing, empty]
    rfl
  · have inhabited : overlap.published.map Elector.Delivery.told ≠ [] := by
      rw [Ne, List.map_eq_nil_iff]
      exact List.ne_nil_of_mem highest.delivered
    obtain ⟨view, newest⟩ := Elector.exists_newest inhabited
    have views : (overlap.published.map Elector.Delivery.told).map Elector.Delivery.view =
        overlap.published := by
      rw [List.map_map]
      exact List.map_id _
    have among := newest.mem
    have least : overlap.roster.registry.view.version ≤ view.version := by
      apply newest.version_le
      rw [views]
      exact highest.delivered
    rw [views] at among
    have version : view.version = overlap.roster.registry.version :=
      Nat.le_antisymm (highest.greatest view among) least
    rw [newest.master, accounted.current view (List.mem_append_left _ among) version]

theorem Accounted.aliveSet (accounted : overlap.Accounted localId)
    (settled : overlap.waiting = []) :
    overlap.roster.changes.aliveSet = overlap.roster.registry.view.aliveSet := by
  have versioned := accounted.versioned
  rw [settled, List.append_nil] at versioned
  rw [accounted.changes]
  rcases accounted.newest settled with ⟨nothing, empty⟩ | highest
  · rw [nothing, empty]
    rfl
  · exact (ChangeFeed.remembers_run overlap.published).aliveSet_eq versioned highest

end

/--
Operations overlap in any way. Once they have all published, every view has been published once, and
the master and the members remembered as alive are those of the view that the registry shows,
whatever the order was. The counts are those of the view that was published last, which need not be
the newest.
-/
theorem run_counts_last_published (localId : MemberId) (steps : List Step)
    (settled : (run localId steps).waiting = []) :
    let overlap := run localId steps
    let roster := overlap.roster
    let shown := roster.registry.view
    roster.registry = Registry.run localId (steps.filterMap Step.operation?) ∧
    (overlap.published.map View.version).Perm (List.range' 1 shown.version) ∧
    roster.master = elect shown.members ∧
    roster.changes.aliveSet = shown.aliveSet ∧
    roster.counts = (overlap.published.getLast?.map View.counts).getD ⟨0, 0⟩ ∧
    ((∀ last, overlap.published.getLast? = some last → last.version = shown.version) →
      roster.counts = ⟨(shown.members.filter Member.alive).length,
        (shown.members.filter fun member => !member.alive).length⟩) := by
  intro overlap roster shown
  have accounted : overlap.Accounted localId := accounted_run localId steps
  have versions := accounted.versions
  have empty : overlap.waiting = [] := settled
  rw [empty, List.append_nil] at versions
  refine ⟨registry_run localId steps, versions, accounted.master settled,
    accounted.aliveSet settled, accounted.counts, ?_⟩
  intro newestLast
  rw [← View.counts_eq, accounted.counts]
  cases ending : overlap.published.getLast? with
  | none =>
    rw [List.getLast?_eq_none_iff] at ending
    rcases accounted.newest settled with ⟨-, nobody⟩ | highest
    · have none : shown = ⟨0, []⟩ := nobody
      rw [none]
      rfl
    · have among := highest.delivered
      rw [ending] at among
      simp at among
  | some last =>
    have among : last ∈ overlap.published ++ overlap.waiting :=
      List.mem_append_left _ (List.mem_of_getLast? ending)
    have same : last = shown := accounted.current last among (newestLast last ending)
    rw [same]
    rfl

/-- The first member to join publishes last, so the second is alive and not counted. -/
theorem overtaken_view_is_counted :
    let member (text : String) : Member := .new ⟨text⟩ "" .unspecified
    let overlap := run ⟨"a"⟩ [.update (.join 0 (member "a")), .update (.join 0 (member "b")),
      .publish 1, .publish 0]
    overlap.waiting = [] ∧ overlap.roster.counts = ⟨1, 0⟩ ∧
      (overlap.roster.registry.view.members.filter Member.alive).length = 2 ∧
      (overlap.roster.registry.view.members.filter fun member => !member.alive).length = 0 := by
  intro member overlap
  have lengths (registry : Registry) (condition : Member → Bool) :
      (registry.view.members.filter condition).length =
        ((registry.records.map MemberRecord.member).filter condition).length :=
    (registry.members_perm.filter condition).length_eq
  have counted : overlap.roster.counts =
      ((Registry.new ⟨"a"⟩).insert 0 (member "a")).bump.1.view.counts := rfl
  rw [counted, View.counts_eq, lengths, lengths, lengths, lengths]
  exact ⟨rfl, by decide, by decide, by decide⟩

/-- The same operations, which publish in the order in which they updated the registry. -/
theorem counts_settle_in_order :
    let member (text : String) : Member := .new ⟨text⟩ "" .unspecified
    let steps : List Step := [.update (.join 0 (member "a")), .update (.join 0 (member "b")),
      .publish 0, .publish 0]
    (run ⟨"a"⟩ steps).waiting = [] ∧
      (run ⟨"a"⟩ steps).roster.counts =
        ⟨((run ⟨"a"⟩ steps).roster.registry.view.members.filter Member.alive).length,
          ((run ⟨"a"⟩ steps).roster.registry.view.members.filter fun member =>
            !member.alive).length⟩ := by
  intro member steps
  obtain ⟨-, -, -, -, -, counted⟩ := run_counts_last_published ⟨"a"⟩ steps rfl
  refine ⟨rfl, counted ?_⟩
  intro last ending
  obtain rfl : (run ⟨"a"⟩ steps).roster.registry.view = last := Option.some.inj ending
  rfl

end Overlap

end ClusterCoordination
