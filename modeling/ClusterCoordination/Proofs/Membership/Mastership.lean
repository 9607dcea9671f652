import ClusterCoordination.Membership.Roster
import ClusterCoordination.Proofs.Membership.Election
import ClusterCoordination.Proofs.Membership.RegistrySteps
/-!
# Mastership

The elector follows the views of the registry and takes them for stale by their versions. However
the registry got where it is, the elector has the master of its present view.
-/

set_option autoImplicit false

namespace ClusterCoordination

namespace Roster

def perform (roster : Roster) : Registry.Operation → Roster
  | .join now member => (roster.join now member).1
  | .leave now id => (roster.leave now id).1
  | .heartbeat now id => (roster.heartbeat now id).1
  | .checkLiveness now timeout => (roster.checkLiveness now timeout).1
  | .purgeDead now grace => (roster.purgeDead now grace).1

def run (localId : MemberId) (operations : List Registry.Operation) : Roster :=
  operations.foldl perform (new localId)

theorem perform_eq_follow (roster : Roster) (operation : Registry.Operation) :
    roster.perform operation =
      roster.follow (roster.registry.perform operation).1
        (roster.registry.perform operation).2 := by
  cases operation <;> rfl

structure Sound (localId : MemberId) (roster : Roster) : Prop where
  unique : roster.registry.UniqueIds
  owner : roster.registry.localId = localId
  electing : roster.elector.localId = localId
  current : roster.elector.version ≤ roster.registry.version
  elected : roster.elector.master = elect roster.registry.view.members

theorem sound_new (localId : MemberId) : (new localId).Sound localId where
  unique := List.nodup_nil
  owner := rfl
  electing := rfl
  current := Nat.le_refl _
  elected := by simp [new, Elector.new, Registry.new, Registry.view, Registry.members, elect]

theorem recompute_fresh {elector : Elector} {view : View} (fresh : elector.version ≤ view.version) :
    (elector.recompute view).1.master = elect view.members ∧
      (elector.recompute view).1.version = view.version ∧
      (elector.recompute view).1.localId = elector.localId := by
  have notStale : ¬ view.version < elector.version := Nat.not_lt.mpr fresh
  simp only [Elector.recompute, notStale, if_false]
  split
  next same => exact ⟨same.symm, rfl, rfl⟩
  next changed => exact ⟨rfl, rfl, rfl⟩

theorem sound_follow {localId : MemberId} {roster : Roster} {after : Registry} {view : Option View}
    (sound : roster.Sound localId) (step : Registry.Step roster.registry after view) :
    (roster.follow after view).Sound localId := by
  have unique := step.unique sound.unique
  have owner := step.localId.trans sound.owner
  cases view with
  | none =>
    -- Nobody is told, but the members are shown as before.
    have quiet := step.quiet
    have sameVersion : after.version = roster.registry.version := congrArg View.version quiet
    refine ⟨unique, owner, sound.electing, ?_, ?_⟩
    · change roster.elector.version ≤ after.version
      rw [sameVersion]
      exact sound.current
    · change roster.elector.master = elect after.view.members
      rw [quiet]
      exact sound.elected
  | some shown =>
    -- The elector is behind the version that the registry has just raised.
    obtain ⟨rfl, raised⟩ := step.published
    have fresh : roster.elector.version ≤ after.view.version := by
      have current := sound.current
      have version : after.view.version = after.version := rfl
      omega
    obtain ⟨elected, version, electing⟩ := recompute_fresh fresh
    exact ⟨unique, owner, electing.trans sound.electing, Nat.le_of_eq version, elected⟩

theorem sound_perform {localId : MemberId} {roster : Roster} (sound : roster.Sound localId)
    (operation : Registry.Operation) : (roster.perform operation).Sound localId := by
  rw [perform_eq_follow]
  exact sound_follow sound (Registry.perform_step sound.unique operation)

theorem sound_run (localId : MemberId) (operations : List Registry.Operation) :
    (run localId operations).Sound localId := by
  have fold (roster : Roster) (sound : roster.Sound localId) :
      (operations.foldl perform roster).Sound localId := by
    induction operations generalizing roster with
    | nil => exact sound
    | cons operation rest ih => exact ih _ (sound_perform sound operation)
  exact fold (new localId) (sound_new localId)

section

variable {localId : MemberId} {roster : Roster}

theorem Sound.master_eq_some_iff (sound : roster.Sound localId) (id : MemberId) :
    roster.master = some id ↔ roster.registry.view.LeastAlive id := by
  rw [master, sound.elected, View.elect_eq_some_iff]

theorem Sound.master_eq_none_iff (sound : roster.Sound localId) :
    roster.master = none ↔ roster.registry.view.aliveIds = [] := by
  rw [master, sound.elected, View.elect_eq_none_iff]

theorem Sound.isMaster_iff (sound : roster.Sound localId) :
    roster.elector.isMaster = true ↔ roster.master = some localId := by
  simp [Elector.isMaster, sound.electing, master]

theorem Sound.flagged_of_master {id : MemberId} (sound : roster.Sound localId)
    (elected : roster.master = some id) :
    ∃ member, roster.view.members.filter Member.isMaster = [member] ∧ member.id = id ∧
      member.alive = true := by
  have least := (sound.master_eq_some_iff id).mp elected
  obtain ⟨member, present, alive, rfl⟩ := View.mem_aliveIds.mp least.1
  have unique : (roster.registry.view.members.map Member.id).Nodup :=
    roster.registry.members_ids_perm.nodup_iff.mpr sound.unique
  refine ⟨{ member with isMaster := true }, ?_, rfl, alive⟩
  rw [view, elected]
  exact View.flagged_withMaster unique present

theorem flagged_of_no_master (elected : roster.master = none) :
    roster.view.members.filter Member.isMaster = [] := by
  rw [view, elected]
  exact View.flagged_withMaster_none _

end

/--
After every run the master is the least alive id, one alive member is flagged if there is any, and
nodes that take the same members for alive agree.
-/
theorem run_has_single_master (localId : MemberId) (operations : List Registry.Operation) :
    let roster := run localId operations
    let alive := roster.registry.view.aliveIds
    (∀ id, roster.master = some id ↔ id ∈ alive ∧ ∀ other ∈ alive, id.bytes ≤ other.bytes) ∧
      (roster.master = none ↔ alive = []) ∧
      (roster.elector.isMaster = true ↔ roster.master = some localId) ∧
      (alive ≠ [] → ∃ member, roster.view.members.filter Member.isMaster = [member] ∧
        member.alive = true ∧ roster.master = some member.id) ∧
      (alive = [] → roster.view.members.filter Member.isMaster = []) ∧
      ∀ (otherId : MemberId) (otherOperations : List Registry.Operation),
        let other := run otherId otherOperations
        (∀ id, id ∈ alive ↔ id ∈ other.registry.view.aliveIds) →
          other.master = roster.master ∧
            (roster.elector.isMaster = true → other.elector.isMaster = true →
              otherId = localId) := by
  intro roster alive
  have sound : roster.Sound localId := sound_run localId operations
  refine ⟨sound.master_eq_some_iff, sound.master_eq_none_iff, sound.isMaster_iff, ?_, ?_, ?_⟩
  · intro inhabited
    cases elected : roster.master with
    | none => exact absurd (sound.master_eq_none_iff.mp elected) inhabited
    | some id =>
      obtain ⟨member, flagged, rfl, memberAlive⟩ := sound.flagged_of_master elected
      exact ⟨member, flagged, memberAlive, rfl⟩
  · intro deserted
    exact flagged_of_no_master (sound.master_eq_none_iff.mpr deserted)
  · intro otherId otherOperations other same
    have otherSound : other.Sound otherId := sound_run otherId otherOperations
    have agreed : other.master = roster.master := by
      rw [master, master, otherSound.elected, sound.elected]
      exact (View.elect_congr same).symm
    refine ⟨agreed, ?_⟩
    intro isMaster otherIsMaster
    have elected := sound.isMaster_iff.mp isMaster
    have otherElected := otherSound.isMaster_iff.mp otherIsMaster
    rw [agreed, elected] at otherElected
    exact (Option.some.inj otherElected).symm

/-- The second node has never heard of the member that the first takes for dead. -/
theorem two_histories_agree :
    let member (text : String) : Member := .new ⟨text⟩ "" .unspecified
    let first := run ⟨"b"⟩ [.join 0 (member "c"), .join 0 (member "b"), .join 10 (member "a"),
      .checkLiveness 60 50, .heartbeat 70 ⟨"c"⟩, .leave 80 ⟨"a"⟩]
    let second := run ⟨"c"⟩ [.join 5 (member "b"), .join 6 (member "c")]
    second.master = first.master ∧ first.elector.isMaster = true ∧
      second.elector.isMaster = false := by
  intro member first second
  have firstAlive : first.registry.view.aliveIds.Perm [⟨"b"⟩, ⟨"c"⟩] :=
    first.registry.aliveIds_perm
  have secondAlive : second.registry.view.aliveIds.Perm [⟨"c"⟩, ⟨"b"⟩] :=
    second.registry.aliveIds_perm
  have same : ∀ id, id ∈ first.registry.view.aliveIds ↔ id ∈ second.registry.view.aliveIds := by
    intro id
    simp only [firstAlive.mem_iff, secondAlive.mem_iff, List.mem_cons, List.not_mem_nil, or_false]
    exact or_comm
  obtain ⟨elects, -, masters, -, -, agrees⟩ := run_has_single_master ⟨"b"⟩ _
  have elected : first.master = some ⟨"b"⟩ := by
    apply (elects _).mpr
    refine ⟨firstAlive.mem_iff.mpr (by decide), ?_⟩
    intro other present
    have listed : other ∈ [⟨"b"⟩, ⟨"c"⟩] := firstAlive.mem_iff.mp present
    rcases List.mem_pair.mp listed with rfl | rfl <;> decide
  have leads := masters.mpr elected
  obtain ⟨agreed, alone⟩ := agrees ⟨"c"⟩ _ same
  refine ⟨agreed, leads, ?_⟩
  rw [Bool.eq_false_iff]
  intro both
  have collapsed := alone leads both
  simp at collapsed

end Roster

end ClusterCoordination
