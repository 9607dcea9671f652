import ClusterCoordination.Proofs.Membership.History
import ClusterCoordination.Proofs.Membership.Mastership
/-!
# Notifications

Whoever listens to a registry is given a view for every change of it, and none otherwise. The views
that a listener receives count the versions up from one, and each is what the registry showed after
its operation.
-/

set_option autoImplicit false

namespace ClusterCoordination

namespace Registry

inductive Answer where
  -- Whether the view has changed: of a join and of a departure.
  | changed (told : Bool)
  | heard (outcome : HeartbeatOutcome)
  -- Who was found: by a round.
  | found (ids : List MemberId)
deriving DecidableEq

def Answer.tellsChange : Answer → Bool
  | .changed told => told
  | .heard outcome => outcome = .revived
  | .found ids => !ids.isEmpty

def answer (registry : Registry) : Operation → Answer
  | .join now member => .changed (registry.join now member).2.isSome
  | .leave now id => .changed (registry.leave now id).2.isSome
  | .heartbeat now id => .heard (registry.heartbeat now id).2.1
  | .checkLiveness now timeout => .found (registry.checkLiveness now timeout).2.1
  | .purgeDead now grace => .found (registry.purgeDead now grace).2.1

theorem tellsChange_answer (registry : Registry) (operation : Operation) :
    (registry.answer operation).tellsChange = (registry.perform operation).2.isSome := by
  cases operation with
  | join now member => rfl
  | leave now id => rfl
  | heartbeat now id =>
    simp only [answer, perform, heartbeat]
    split
    · rfl
    · split
      · rfl
      · split <;> rfl
  | checkLiveness now timeout =>
    simp only [answer, perform, checkLiveness]
    split
    next => rfl
    next somebody =>
      rw [Answer.tellsChange, Bool.eq_false_iff.mpr somebody]
      rfl
  | purgeDead now grace =>
    simp only [answer, perform, purgeDead]
    split
    next => rfl
    next somebody =>
      rw [Answer.tellsChange, Bool.eq_false_iff.mpr somebody]
      rfl

def Event.announcement (event : Event) : Option View :=
  if (event.before.answer event.operation).tellsChange then some event.after.view else none

theorem perform_announces {registry : Registry} (unique : registry.UniqueIds)
    (operation : Operation) :
    (registry.perform operation).2 = (⟨registry, operation⟩ : Event).announcement := by
  have step := perform_step unique operation
  simp only [Event.announcement, tellsChange_answer]
  cases given : (registry.perform operation).2 with
  | none => rfl
  | some shown =>
    rw [given] at step
    exact congrArg some step.published.1

theorem version_perform {registry : Registry} (unique : registry.UniqueIds)
    (operation : Operation) :
    (registry.perform operation).1.version =
      if (registry.answer operation).tellsChange then registry.version + 1
        else registry.version := by
  have step := perform_step unique operation
  rw [tellsChange_answer]
  cases given : (registry.perform operation).2 with
  | none =>
    rw [given] at step
    exact congrArg View.version step.quiet
  | some shown =>
    rw [given] at step
    exact step.published.2

def announcements (localId : MemberId) (operations : List Operation) : List View :=
  ((new localId).events operations).filterMap Event.announcement

theorem announcements_append (localId : MemberId) (earlier : List Operation)
    (operation : Operation) :
    announcements localId (earlier ++ [operation]) = announcements localId earlier ++
      (⟨run localId earlier, operation⟩ : Event).announcement.toList := by
  have last : ((new localId).performAll earlier).events [operation] =
      [⟨run localId earlier, operation⟩] := rfl
  rw [announcements, events_append, List.filterMap_append, last, List.filterMap_cons,
    List.filterMap_nil]
  cases (⟨run localId earlier, operation⟩ : Event).announcement <;> rfl

theorem versions_announced (localId : MemberId) (operations : List Operation) :
    (announcements localId operations).map View.version =
      List.range' 1 (run localId operations).version := by
  induction operations using List.reverseRecOn with
  | nil => rfl
  | append_singleton earlier operation ih =>
    have version := version_perform (sound_run localId earlier).unique operation
    rw [announcements_append, List.map_append, ih, run_append, version, Event.announcement]
    dsimp only
    cases told : ((run localId earlier).answer operation).tellsChange with
    | true =>
      rw [told, if_pos rfl] at version
      rw [if_pos rfl, if_pos rfl, List.range'_1_concat, Nat.add_comm 1, ← version]
      rfl
    | false => simp

end Registry

namespace View

theorem counts_eq (view : View) :
    view.counts = ⟨(view.members.filter Member.alive).length,
      (view.members.filter fun member => !member.alive).length⟩ := by
  have split := List.length_eq_length_filter_add (l := view.members) Member.alive
  simp only [counts, liveCount, deadCount, alive, MemberCounts.mk.injEq, true_and]
  omega

end View

/-- A roster with any number of listeners, each given by the views it has received, oldest first. -/
structure Audience where
  roster : Roster
  received : List (List View)

namespace Audience

def start (localId : MemberId) (listeners : Nat) : Audience :=
  ⟨.new localId, List.replicate listeners []⟩

def perform (audience : Audience) (operation : Registry.Operation) : Audience :=
  let (registry, view) := audience.roster.registry.perform operation
  ⟨audience.roster.follow registry view, audience.received.map fun log => log ++ view.toList⟩

def run (localId : MemberId) (listeners : Nat) (operations : List Registry.Operation) : Audience :=
  operations.foldl perform (start localId listeners)

theorem run_append (localId : MemberId) (listeners : Nat) (earlier : List Registry.Operation)
    (operation : Registry.Operation) :
    run localId listeners (earlier ++ [operation]) =
      (run localId listeners earlier).perform operation :=
  List.foldl_append

theorem roster_perform (audience : Audience) (operation : Registry.Operation) :
    (audience.perform operation).roster = audience.roster.perform operation :=
  (Roster.perform_eq_follow audience.roster operation).symm

theorem registry_perform (audience : Audience) (operation : Registry.Operation) :
    (audience.perform operation).roster.registry =
      (audience.roster.registry.perform operation).1 := by
  unfold perform Roster.follow Roster.publish
  dsimp only
  split <;> rfl

structure Informed (localId : MemberId) (views : List View) (audience : Audience) : Prop where
  counts : audience.roster.counts = audience.roster.registry.view.counts
  elector : audience.roster.elector =
    views.foldl (fun elector view => (elector.recompute view).1) (.new localId)
  changes : audience.roster.changes = views.foldl ChangeFeed.observe .new
  received : ∀ log ∈ audience.received, log = views

theorem informed_start (localId : MemberId) (listeners : Nat) :
    Informed localId [] (start localId listeners) where
  counts := by
    simp [start, Roster.new, Registry.new, Registry.view, Registry.members, View.counts_eq]
  elector := rfl
  changes := rfl
  received := by
    intro log listening
    exact List.eq_of_mem_replicate listening

theorem Informed.perform {localId : MemberId} {views : List View} {audience : Audience}
    (informed : Informed localId views audience) (unique : audience.roster.registry.UniqueIds)
    (operation : Registry.Operation) :
    Informed localId (views ++ (audience.roster.registry.perform operation).2.toList)
      (audience.perform operation) := by
  have step := Registry.perform_step unique operation
  unfold Audience.perform
  cases given : audience.roster.registry.perform operation with
  | mk after view =>
    rw [given] at step
    dsimp only at step ⊢
    have received : ∀ log ∈ audience.received.map (fun log => log ++ view.toList),
        log = views ++ view.toList := by
      intro log listening
      obtain ⟨earlier, listened, rfl⟩ := List.mem_map.mp listening
      rw [informed.received earlier listened]
    cases view with
    | none =>
      rw [Option.toList_none, List.append_nil] at received ⊢
      exact ⟨informed.counts.trans (congrArg View.counts step.quiet.symm), informed.elector,
        informed.changes, received⟩
    | some shown =>
      obtain ⟨rfl, -⟩ := step.published
      refine ⟨rfl, ?_, ?_, received⟩
      · simp only [Option.toList_some, List.foldl_append, ← informed.elector]
        rfl
      · simp only [Option.toList_some, List.foldl_append, ← informed.changes]
        rfl

theorem registry_run (localId : MemberId) (listeners : Nat) (operations : List Registry.Operation) :
    (run localId listeners operations).roster.registry = Registry.run localId operations := by
  induction operations using List.reverseRecOn with
  | nil => rfl
  | append_singleton earlier operation ih =>
    rw [run_append, registry_perform, ih, Registry.run_append]

theorem informed_run (localId : MemberId) (listeners : Nat) (operations : List Registry.Operation) :
    Informed localId (Registry.announcements localId operations)
      (run localId listeners operations) := by
  induction operations using List.reverseRecOn with
  | nil => exact informed_start localId listeners
  | append_singleton earlier operation ih =>
    have unique := (Registry.sound_run localId earlier).unique
    have owned := registry_run localId listeners earlier
    have step := ih.perform (owned ▸ unique) operation
    rw [owned, Registry.perform_announces unique] at step
    rw [run_append, Registry.announcements_append]
    exact step

theorem length_received (localId : MemberId) (listeners : Nat)
    (operations : List Registry.Operation) :
    (run localId listeners operations).received.length = listeners := by
  induction operations using List.reverseRecOn with
  | nil => exact List.length_replicate
  | append_singleton earlier operation ih =>
    rw [run_append]
    exact (List.length_map ..).trans ih

theorem roster_run (localId : MemberId) (listeners : Nat) (operations : List Registry.Operation) :
    (run localId listeners operations).roster = Roster.run localId operations := by
  induction operations using List.reverseRecOn with
  | nil => rfl
  | append_singleton earlier operation ih =>
    rw [run_append, roster_perform, ih, Roster.run, Roster.run, List.foldl_append]
    rfl

theorem received_perform {audience : Audience} (unique : audience.roster.registry.UniqueIds)
    (operation : Registry.Operation) :
    let registry := audience.roster.registry
    let after := audience.perform operation
    let changed := after.roster.registry
    if (registry.answer operation).tellsChange then
      changed.version = registry.version + 1 ∧
        after.received = audience.received.map fun log => log ++ [changed.view]
    else changed.view = registry.view ∧ after.received = audience.received := by
  intro registry after changed
  have step := Registry.perform_step unique operation
  have written : after.received =
      audience.received.map fun log => log ++ (registry.perform operation).2.toList := rfl
  have reached : changed = (registry.perform operation).1 := registry_perform audience operation
  rw [Registry.tellsChange_answer, reached, written]
  cases given : (registry.perform operation).2 with
  | none =>
    rw [given] at step
    exact ⟨step.quiet, by simp⟩
  | some shown =>
    rw [given] at step
    obtain ⟨rfl, raised⟩ := step.published
    exact ⟨raised, rfl⟩

/--
After every run each listener has received the views numbered from one up to the version of the
registry, each as the registry showed it after the operation that told its caller of a change. The
elector and the feed of changes have followed the same views, and the counts are those of the view
that is shown. The next operation gives every listener one view more or, where it tells of no
change, none.
-/
theorem run_notifies_exactly (localId : MemberId) (listeners : Nat)
    (operations : List Registry.Operation) :
    let audience := run localId listeners operations
    let registry := audience.roster.registry
    audience.roster = Roster.run localId operations ∧ audience.received.length = listeners ∧
    (∀ log ∈ audience.received,
      log.map View.version = List.range' 1 registry.version ∧
      log = (((Registry.new localId).events operations).filterMap fun event =>
        if (event.before.answer event.operation).tellsChange then some event.after.view else none) ∧
      audience.roster.elector =
        log.foldl (fun elector view => (elector.recompute view).1) (.new localId) ∧
      audience.roster.changes = log.foldl ChangeFeed.observe .new) ∧
    audience.roster.counts = ⟨(registry.view.members.filter Member.alive).length,
      (registry.view.members.filter fun member => !member.alive).length⟩ ∧
    ∀ operation,
      let after := audience.perform operation
      let changed := after.roster.registry
      if (registry.answer operation).tellsChange then
        changed.version = registry.version + 1 ∧
          after.received = audience.received.map fun log => log ++ [changed.view]
      else changed.view = registry.view ∧ after.received = audience.received := by
  intro audience registry
  have informed : Informed localId (Registry.announcements localId operations) audience :=
    informed_run localId listeners operations
  have owned : registry = Registry.run localId operations :=
    registry_run localId listeners operations
  have unique : registry.UniqueIds := owned ▸ (Registry.sound_run localId operations).unique
  refine ⟨roster_run localId listeners operations, length_received localId listeners operations, ?_,
    informed.counts.trans (View.counts_eq _), received_perform unique⟩
  intro log listening
  obtain rfl := informed.received log listening
  exact ⟨owned ▸ Registry.versions_announced localId operations, rfl, informed.elector,
    informed.changes⟩

/--
Two members found silent at once make one view. A heartbeat makes one only if its sender was dead.
-/
theorem two_silences_notify_once :
    let member (text : String) : Member := .new ⟨text⟩ "" .unspecified
    let operations : List Registry.Operation := [.join 0 (member "a"), .join 0 (member "b"),
      .join 0 (member "c"), .heartbeat 10 ⟨"b"⟩, .checkLiveness 100 50]
    let audience := run ⟨"a"⟩ 2 operations
    audience.received.length = 2 ∧
      (∀ log ∈ audience.received, log.map View.version = [1, 2, 3, 4]) ∧
      audience.roster.counts = ⟨1, 2⟩ ∧
      ∀ log ∈ (audience.perform (.heartbeat 110 ⟨"c"⟩)).received, log.length = 5 := by
  intro member operations audience
  obtain ⟨-, number, logs, counts, next⟩ := run_notifies_exactly ⟨"a"⟩ 2 operations
  have version : audience.roster.registry.version = 4 := by decide +kernel
  have versions : ∀ log ∈ audience.received, log.map View.version = [1, 2, 3, 4] := by
    intro log listening
    rw [(logs log listening).1, version]
    decide
  have lengths (condition : Member → Bool) :
      (audience.roster.registry.view.members.filter condition).length =
        ((audience.roster.registry.records.map MemberRecord.member).filter condition).length :=
    (audience.roster.registry.members_perm.filter condition).length_eq
  rw [lengths, lengths] at counts
  refine ⟨number, versions, counts.trans (by decide +kernel), ?_⟩
  have revived : (audience.roster.registry.answer (.heartbeat 110 ⟨"c"⟩)).tellsChange = true := by
    decide +kernel
  have step := next (.heartbeat 110 ⟨"c"⟩)
  rw [if_pos revived] at step
  intro log listening
  rw [step.2] at listening
  obtain ⟨before, listened, rfl⟩ := List.mem_map.mp listening
  have seen := congrArg List.length (versions before listened)
  simpa using seen

end Audience

end ClusterCoordination
