import ClusterCoordination.Node.Queries
import ClusterCoordination.Proofs.Membership.Differences
import ClusterCoordination.Proofs.Membership.Liveness
import ClusterCoordination.Proofs.Membership.Mastership
/-!
# Waiting for members

Whoever waits for members looks at the registry, and sleeps on the feed of changes, which follows
the registry and writes only when somebody else is alive than before. Nobody sleeps through the
moment at which all the members they wait for are alive.
-/

set_option autoImplicit false

namespace ClusterCoordination

theorem Registry.isAlive_iff_mem_aliveSet {registry : Registry} (unique : registry.UniqueIds)
    {id : MemberId} : registry.isAlive id = true ↔ id ∈ registry.view.aliveSet := by
  rw [View.aliveSet, List.mem_toFinset, registry.aliveIds_perm.mem_iff, mem_ids_filter_iff unique,
    isAlive_eq_any, Option.any_eq_true]

namespace Roster

structure Followed (roster : Roster) : Prop where
  unique : roster.registry.UniqueIds
  version : roster.changes.version = roster.registry.version
  alive : roster.changes.aliveSet = roster.registry.view.aliveSet

structure Undisturbed (before after : Roster) : Prop where
  published : after.changes.published = before.changes.published
  alive : after.registry.view.aliveSet = before.registry.view.aliveSet

section

variable {roster : Roster}

theorem followed_new (localId : MemberId) : (new localId).Followed where
  unique := List.nodup_nil
  version := rfl
  alive := by simp [new, ChangeFeed.new, ChangeFeed.aliveSet, Registry.new, Registry.view,
    Registry.members, View.aliveSet, View.aliveIds, View.alive]

theorem Followed.follow (followed : roster.Followed) {after : Registry} {view : Option View}
    (step : Registry.Step roster.registry after view) :
    (roster.follow after view).Followed ∧ (roster.Undisturbed (roster.follow after view) ∨
      (roster.follow after view).changes.published.writes =
        roster.changes.published.writes + 1) := by
  have unique := step.unique followed.unique
  cases view with
  | none =>
    have quiet := step.quiet
    have version : after.version = roster.registry.version := congrArg View.version quiet
    have alive : after.view.aliveSet = roster.registry.view.aliveSet := congrArg View.aliveSet quiet
    exact ⟨⟨unique, followed.version.trans version.symm, followed.alive.trans alive.symm⟩,
      .inl ⟨rfl, alive⟩⟩
  | some shown =>
    obtain ⟨rfl, raised⟩ := step.published
    have fresh : roster.changes.version < after.view.version := by
      rw [followed.version]
      exact Nat.lt_of_lt_of_eq (Nat.lt_succ_self _) raised.symm
    have distinct : after.view.UniqueIds := after.members_ids_perm.nodup_iff.mpr unique
    refine ⟨⟨unique, ChangeFeed.version_observe fresh, ChangeFeed.aliveSet_observe fresh⟩, ?_⟩
    have published := ChangeFeed.published_observe distinct fresh
    split at published
    next same => exact .inl ⟨published, same.trans followed.alive⟩
    next => exact .inr (congrArg Watched.writes published)

theorem Followed.perform (followed : roster.Followed) (operation : Registry.Operation) :
    (roster.perform operation).Followed ∧ (roster.Undisturbed (roster.perform operation) ∨
      (roster.perform operation).changes.published.writes =
        roster.changes.published.writes + 1) := by
  rw [perform_eq_follow]
  exact followed.follow (Registry.perform_step followed.unique operation)

theorem followed_run (localId : MemberId) (operations : List Registry.Operation) :
    (run localId operations).Followed := by
  induction operations using List.reverseRecOn with
  | nil => exact followed_new localId
  | append_singleton earlier operation ih =>
    rw [run, List.foldl_append]
    exact (Followed.perform ih operation).1

end

end Roster

namespace Node

/-- Someone waits for the members with the given ids, and is suspended. -/
inductive AwaitsMembers (localId : MemberId) (ids : List MemberId) : Node → MemberWait → Prop where
  | begun {node : Node} {wait : MemberWait} (operations : List Registry.Operation)
      (roster : node.roster = .run localId operations) (now : Instant) (timeout : Duration)
      (waits : node.beginWait now ids timeout = .waiting wait) : AwaitsMembers localId ids node wait
  -- Whatever else becomes of the node, its registry carries out one operation.
  | operated {node after : Node} {wait : MemberWait} (awaits : AwaitsMembers localId ids node wait)
      (operation : Registry.Operation) (roster : after.roster = node.roster.perform operation) :
      AwaitsMembers localId ids after wait
  | polled {node : Node} {wait later : MemberWait} (awaits : AwaitsMembers localId ids node wait)
      (now : Instant) (waits : node.pollWait now wait = .waiting later) :
      AwaitsMembers localId ids node later

section

variable {node : Node} {now : Instant} {wait later : MemberWait} {ids : List MemberId}

theorem allAlive_iff : node.allAlive ids = true ↔ ∀ id ∈ ids, node.registry.isAlive id = true :=
  List.all_eq_true

theorem pollWait_eq_waiting (waits : node.pollWait now wait = .waiting later) :
    (node.roster.changes.published.writes = wait.seen ∨ node.allAlive wait.ids = false) ∧
      later = { wait with seen := node.roster.changes.published.writes } := by
  unfold pollWait Watched.isUnseen at waits
  dsimp only at waits
  split at waits
  next => simp at waits
  next looked =>
    split at waits
    next => simp at waits
    next =>
      simp only [Progress.waiting.injEq] at waits
      refine ⟨?_, waits.symm⟩
      by_cases seen : node.roster.changes.published.writes = wait.seen
      · exact .inl seen
      · simp only [seen, ne_eq, not_false_eq_true, decide_true, Bool.true_and,
          Bool.not_eq_true] at looked
        exact .inr looked

theorem pollWait_of_absent (absent : node.allAlive wait.ids = false) (now : Instant) :
    node.pollWait now wait =
      if wait.deadline ≤ now then .done (.error .timeout)
      else .waiting { wait with seen := node.roster.changes.published.writes } := by
  simp only [pollWait, absent, Bool.and_false, Bool.false_eq_true, if_false]

theorem beginWait_of_running (running : node.lifecycle = .running) (timeout : Duration) :
    node.beginWait now ids timeout =
      if node.allAlive ids then .done (.ok ()) else node.pollWait now ⟨ids, now + timeout, 0⟩ := by
  simp only [beginWait, whenRunning, running, if_true]

theorem beginWait_of_resting (resting : node.lifecycle ≠ .running) (timeout : Duration) :
    node.beginWait now ids timeout = .done (.error (.state .running node.lifecycle)) := by
  simp only [beginWait, whenRunning, resting, if_false]

theorem beginWait_eq_ok_iff {timeout : Duration} :
    node.beginWait now ids timeout = .done (.ok ()) ↔
      node.lifecycle = .running ∧ node.allAlive ids = true := by
  by_cases running : node.lifecycle = .running
  · rw [beginWait_of_running running]
    cases alive : node.allAlive ids with
    | true => simp [running]
    | false =>
      have absent : node.allAlive (⟨ids, now + timeout, 0⟩ : MemberWait).ids = false := alive
      rw [if_neg Bool.false_ne_true, pollWait_of_absent absent]
      split <;> simp
  · simp [beginWait_of_resting running, running]

theorem beginWait_eq_waiting {timeout : Duration}
    (waits : node.beginWait now ids timeout = .waiting wait) :
    node.allAlive ids = false ∧
      wait = ⟨ids, now + timeout, node.roster.changes.published.writes⟩ := by
  by_cases running : node.lifecycle = .running
  · rw [beginWait_of_running running] at waits
    split at waits
    next => simp at waits
    next absent => exact ⟨by simpa using absent, (pollWait_eq_waiting waits).2⟩
  · simp [beginWait_of_resting running] at waits

/--
The waiter has seen no more than was written, and has looked since the last write it has seen.
-/
structure Watchful (ids : List MemberId) (node : Node) (wait : MemberWait) : Prop where
  followed : node.roster.Followed
  asks : wait.ids = ids
  behind : wait.seen ≤ node.roster.changes.published.writes
  looked : wait.seen = node.roster.changes.published.writes → node.allAlive ids = false

theorem Watchful.operated (watchful : Watchful ids node wait) {after : Node}
    {operation : Registry.Operation} (roster : after.roster = node.roster.perform operation) :
    Watchful ids after wait := by
  obtain ⟨followed, undisturbed | written⟩ := watchful.followed.perform operation
  · have same : after.registry.isAlive = node.registry.isAlive := by
      funext id
      rw [Bool.eq_iff_iff, Node.registry, Node.registry, roster,
        Registry.isAlive_iff_mem_aliveSet followed.unique,
        Registry.isAlive_iff_mem_aliveSet watchful.followed.unique, undisturbed.alive]
    have looks : after.allAlive ids = node.allAlive ids := by rw [allAlive, same, allAlive]
    refine ⟨roster ▸ followed, watchful.asks, ?_, ?_⟩
    · rw [roster, undisturbed.published]
      exact watchful.behind
    · rw [roster, undisturbed.published, looks]
      exact watchful.looked
  · have behind := watchful.behind
    refine ⟨roster ▸ followed, watchful.asks, ?_, ?_⟩
    · rw [roster, written]
      omega
    · intro seen
      rw [roster, written] at seen
      omega

theorem Watchful.polled (watchful : Watchful ids node wait)
    (waits : node.pollWait now wait = .waiting later) : Watchful ids node later := by
  obtain ⟨looked, rfl⟩ := pollWait_eq_waiting waits
  refine ⟨watchful.followed, watchful.asks, Nat.le_refl _, fun _ => ?_⟩
  rcases looked with seen | absent
  · exact watchful.looked seen.symm
  · rwa [watchful.asks] at absent

theorem AwaitsMembers.watchful {localId : MemberId} (awaits : AwaitsMembers localId ids node wait) :
    Watchful ids node wait := by
  induction awaits with
  | begun operations roster now timeout waits =>
    obtain ⟨absent, rfl⟩ := beginWait_eq_waiting waits
    exact ⟨roster ▸ Roster.followed_run localId operations, rfl, Nat.le_refl _, fun _ => absent⟩
  | operated _ operation roster ih => exact ih.operated roster
  | polled _ now waits ih => exact ih.polled waits

theorem Watchful.pollWait_eq_ok_iff (watchful : Watchful ids node wait) (now : Instant) :
    node.pollWait now wait = .done (.ok ()) ↔ node.allAlive ids = true := by
  cases alive : node.allAlive ids with
  | false =>
    rw [pollWait_of_absent (watchful.asks ▸ alive)]
    split <;> simp
  | true =>
    have unseen : node.roster.changes.published.writes ≠ wait.seen := by
      intro seen
      have absent := watchful.looked seen.symm
      rw [alive] at absent
      simp at absent
    simp [pollWait, Watched.isUnseen, unseen, watchful.asks, alive]

theorem Watchful.pollWait_eq_error (watchful : Watchful ids node wait) {error : ClusterError}
    (failed : node.pollWait now wait = .done (.error error)) :
    error = .timeout ∧ wait.deadline ≤ now ∧ node.allAlive ids = false := by
  have absent : node.allAlive ids = false := by
    rw [Bool.eq_false_iff]
    intro alive
    rw [(watchful.pollWait_eq_ok_iff now).mpr alive] at failed
    simp at failed
  rw [pollWait_of_absent (watchful.asks ▸ absent)] at failed
  split at failed
  next late =>
    simp only [Progress.done.injEq, Except.error.injEq] at failed
    exact ⟨failed.symm, late, absent⟩
  next => simp at failed

/--
A wait that begins returns at once exactly if the node runs and all the members are alive. However
the registry goes on while someone is suspended, there is either an unseen change to wake them or a
member that is not alive; and a poll returns that the members are there exactly if all of them are
alive at that moment. It gives up only at the deadline, with somebody missing.
-/
theorem waiter_misses_no_wake_up (localId : MemberId) (ids : List MemberId) :
    (∀ (node : Node) (now : Instant) (timeout : Duration),
      node.beginWait now ids timeout = .done (.ok ()) ↔
        node.lifecycle = .running ∧ ∀ id ∈ ids, node.registry.isAlive id = true) ∧
    ∀ (node : Node) (wait : MemberWait), AwaitsMembers localId ids node wait →
      (node.roster.changes.published.isUnseen wait.seen = false →
        ∃ id ∈ ids, node.registry.isAlive id = false) ∧
      ∀ now,
        (node.pollWait now wait = .done (.ok ()) ↔ ∀ id ∈ ids, node.registry.isAlive id = true) ∧
        ∀ error, node.pollWait now wait = .done (.error error) →
          error = .timeout ∧ wait.deadline ≤ now ∧
            ∃ id ∈ ids, node.registry.isAlive id = false := by
  have missing {node : Node} (absent : node.allAlive ids = false) :
      ∃ id ∈ ids, node.registry.isAlive id = false := by
    simpa [allAlive] using absent
  constructor
  · intro node now timeout
    rw [beginWait_eq_ok_iff, allAlive_iff]
  · intro node wait awaits
    have watchful := awaits.watchful
    refine ⟨?_, fun now => ⟨?_, ?_⟩⟩
    · intro seen
      have written : node.roster.changes.published.writes = wait.seen := by
        simpa [Watched.isUnseen] using seen
      exact missing (watchful.looked written.symm)
    · rw [watchful.pollWait_eq_ok_iff, allAlive_iff]
    · intro error failed
      obtain ⟨timeout, late, absent⟩ := watchful.pollWait_eq_error failed
      exact ⟨timeout, late, missing absent⟩

/--
Of the two members awaited, the first dies before the second joins, and the wait ends at its return.
-/
theorem waiter_wakes_for_revival :
    let member (text : String) : Member := .new ⟨text⟩ "" .unspecified
    let shows (operations : List Registry.Operation) : Node :=
      { Node.new (.new "" ⟨"a"⟩ .unspecified .unspecified []) with
        lifecycle := .running
        roster := .run ⟨"a"⟩ operations }
    let alone : List Registry.Operation := [.join 0 (member "a")]
    let joined := alone ++ [.join 1 (member "b")]
    let died := joined ++ [.checkLiveness 70 50] ++ [.join 80 (member "c")]
    let revived := died ++ [.heartbeat 90 ⟨"b"⟩]
    let ids : List MemberId := [⟨"b"⟩, ⟨"c"⟩]
    ∃ wait : MemberWait, wait.ids = ids ∧
      wait.seen = (shows joined).roster.changes.published.writes ∧
      (shows died).pollWait 85 wait ≠ .done (.ok ()) ∧
      (shows revived).pollWait 95 wait = .done (.ok ()) ∧
      (shows revived).roster.changes.published.isUnseen wait.seen = true := by
  intro member shows alone joined died revived ids
  have begins : (shows alone).beginWait 0 ids 100 =
      .waiting ⟨ids, 100, (shows alone).roster.changes.published.writes⟩ := by
    rw [beginWait_of_running rfl, if_neg (by decide +kernel),
      pollWait_of_absent (by decide +kernel), if_neg (by decide)]
  have waits : (shows joined).pollWait 5 ⟨ids, 100, (shows alone).roster.changes.published.writes⟩ =
      .waiting ⟨ids, 100, (shows joined).roster.changes.published.writes⟩ := by
    rw [pollWait_of_absent (by decide +kernel), if_neg (by decide)]
  have extended (operations : List Registry.Operation) (operation : Registry.Operation) :
      (shows (operations ++ [operation])).roster = (shows operations).roster.perform operation := by
    simp only [shows, Roster.run, List.foldl_append, List.foldl_cons, List.foldl_nil]
  have awaits :=
    ((AwaitsMembers.begun alone rfl 0 100 begins).operated _ (extended alone _)).polled 5 waits
  have silent := awaits.operated _ (extended joined (.checkLiveness 70 50))
  have later := silent.operated _ (extended _ (.join 80 (member "c")))
  have last := later.operated _ (extended died (.heartbeat 90 ⟨"b"⟩))
  obtain ⟨-, suspended⟩ := waiter_misses_no_wake_up ⟨"a"⟩ ids
  have alive : ∀ id ∈ ids, (shows revived).registry.isAlive id = true := by decide +kernel
  refine ⟨_, rfl, rfl, ?_, (((suspended _ _ last).2 95).1).mpr alive, ?_⟩
  · rw [Ne, ((suspended _ _ later).2 85).1]
    decide +kernel
  · by_contra seen
    obtain ⟨id, awaited, absent⟩ := (suspended _ _ last).1 (Bool.eq_false_iff.mpr seen)
    rw [alive id awaited] at absent
    simp at absent

end

end Node

end ClusterCoordination
