import ClusterCoordination.Proofs.Calls.Orphans
import ClusterCoordination.Proofs.Membership.Mastership
import ClusterCoordination.Proofs.Nodes.Messages
/-!
# What a look for the silent leaves behind

The round has five parts, and later ones see what earlier ones did: the dead take their calls along
before the overdue ones expire, and may be forgotten at once, and then their queues are dropped.
Afterwards there is nothing left for another round at the same moment.
-/

set_option autoImplicit false

namespace ClusterCoordination

structure MemberRecord.Tolerated (config : Config) (now : Instant)
    (record : MemberRecord) : Prop where
  heard : record.member.alive = true → now - record.lastHeard ≤ config.heartbeatTimeout
  recent : ∀ died, record.deadSince = some died → now - died < config.deadMemberGrace

namespace Registry

/-- Another member is alive, and has not been heard from for longer than the timeout. -/
def FallsSilent (registry : Registry) (now : Instant) (timeout : Duration) (id : MemberId) : Prop :=
  id ≠ registry.localId ∧ ∃ record ∈ registry.records,
    record.member.id = id ∧ record.member.alive = true ∧ timeout < now - record.lastHeard

instance (registry : Registry) (now : Instant) (timeout : Duration) :
    DecidablePred (registry.FallsSilent now timeout) := fun _ =>
  inferInstanceAs (Decidable (_ ∧ _))

section

variable {registry : Registry} {now : Instant} {timeout grace : Duration} {record : MemberRecord}

theorem mem_dead_iff_fallsSilent {id : MemberId} :
    id ∈ (registry.checkLiveness now timeout).2.1 ↔ registry.FallsSilent now timeout id := by
  simp only [checkLiveness_dead, List.mem_map, List.mem_filter, isSilent, Bool.and_eq_true,
    decide_eq_true_eq, FallsSilent]
  constructor
  · rintro ⟨record, ⟨present, ⟨alive, other⟩, silent⟩, rfl⟩
    exact ⟨other, record, present, rfl, alive, silent⟩
  · rintro ⟨other, record, present, rfl, alive, silent⟩
    exact ⟨record, ⟨present, ⟨alive, other⟩, silent⟩, rfl⟩

theorem FallsSilent.alive (unique : registry.UniqueIds) {id : MemberId}
    (silent : registry.FallsSilent now timeout id) : registry.isAlive id = true := by
  obtain ⟨-, record, present, rfl, alive, -⟩ := silent
  rw [isAlive_of_record? (record?_of_mem unique present), alive]

theorem checkLiveness_of_heard
    (heard : ∀ record ∈ registry.records, registry.isSilent now timeout record = false) :
    registry.checkLiveness now timeout = (registry, [], none) := by
  have nobody : registry.records.filter (registry.isSilent now timeout) = [] := by
    simpa [List.filter_eq_nil_iff] using heard
  simp [checkLiveness, nobody]

theorem purgeDead_of_recent
    (recent : ∀ record ∈ registry.records, registry.isExpired now grace record = false) :
    registry.purgeDead now grace = (registry, [], none) := by
  have nobody : registry.records.filter (registry.isExpired now grace) = [] := by
    simpa [List.filter_eq_nil_iff] using recent
  simp [purgeDead, nobody]

theorem mem_checkLiveness :
    record ∈ (registry.checkLiveness now timeout).1.records ↔
      ∃ earlier ∈ registry.records,
        (if registry.isSilent now timeout earlier then earlier.die now else earlier) = record := by
  unfold checkLiveness
  simp only
  split
  next nobody =>
    have heard : ∀ record ∈ registry.records, registry.isSilent now timeout record = false := by
      simpa using nobody
    constructor
    · intro present
      exact ⟨record, present, by simp [heard record present]⟩
    · rintro ⟨earlier, present, rfl⟩
      simpa [heard earlier present] using present
  next => exact List.mem_map

theorem mem_purgeDead :
    record ∈ (registry.purgeDead now grace).1.records ↔
      record ∈ registry.records ∧ registry.isExpired now grace record = false := by
  unfold purgeDead
  simp only
  split
  next nobody =>
    have recent : ∀ record ∈ registry.records, registry.isExpired now grace record = false := by
      simpa using nobody
    exact ⟨fun present => ⟨present, recent record present⟩, And.left⟩
  next => simp [bump]

theorem isSilent_eq_false (silent : registry.isSilent now timeout record = false)
    (other : record.member.id ≠ registry.localId) (alive : record.member.alive = true) :
    now - record.lastHeard ≤ timeout := by
  simpa [isSilent, other, alive] using silent

theorem isExpired_eq_false (expired : registry.isExpired now grace record = false)
    (other : record.member.id ≠ registry.localId) {died : Instant}
    (since : record.deadSince = some died) : now - died < grace := by
  simpa [isExpired, other, since] using expired

theorem not_isSilent_of_tolerated {config : Config}
    (tolerated : record.member.id ≠ registry.localId → record.Tolerated config now) :
    registry.isSilent now config.heartbeatTimeout record = false := by
  rw [Bool.eq_false_iff]
  intro silent
  simp only [isSilent, Bool.and_eq_true, decide_eq_true_eq] at silent
  obtain ⟨⟨alive, other⟩, silent⟩ := silent
  exact absurd ((tolerated other).heard alive) (Nat.not_le.mpr silent)

theorem not_isExpired_of_tolerated {config : Config}
    (tolerated : record.member.id ≠ registry.localId → record.Tolerated config now) :
    registry.isExpired now config.deadMemberGrace record = false := by
  rw [Bool.eq_false_iff]
  intro expired
  simp only [isExpired, Bool.and_eq_true, decide_eq_true_eq, Option.any_eq_true] at expired
  obtain ⟨other, died, since, long⟩ := expired
  exact absurd ((tolerated other).recent died since) (Nat.not_lt.mpr long)

end

end Registry

namespace Outbox

section

variable {outbox : Outbox} {keep : SocketAddress → Bool}

theorem mem_retain {drain : Drain} :
    drain ∈ (outbox.retain keep).drains ↔ drain.isFinished = false ∧ ∃ earlier ∈ outbox.drains,
      { earlier with accepting := earlier.accepting && keep earlier.address } = drain := by
  simp [retain, prune, List.mem_filter, and_comm]

theorem hasQueue_retain (outbox : Outbox) (keep : SocketAddress → Bool) (address : SocketAddress) :
    (outbox.retain keep).hasQueue address = (outbox.hasQueue address && keep address) := by
  rw [Bool.eq_iff_iff]
  simp only [hasQueue, queue?, List.find?_isSome, Bool.and_eq_true, decide_eq_true_eq, mem_retain]
  constructor
  · rintro ⟨_, ⟨-, drain, present, rfl⟩, both, rfl⟩
    obtain ⟨accepting, kept⟩ := Bool.and_eq_true_iff.mp both
    exact ⟨⟨drain, present, accepting, rfl⟩, kept⟩
  · rintro ⟨⟨drain, present, accepting, rfl⟩, kept⟩
    refine ⟨_, ⟨?_, drain, present, rfl⟩, ?_, rfl⟩
    · simp [Drain.isFinished, accepting, kept]
    · simp [accepting, kept]

theorem retain_of_kept
    (kept : ∀ drain ∈ outbox.drains, drain.accepting = true → keep drain.address = true)
    (unfinished : ∀ drain ∈ outbox.drains, drain.isFinished = false) :
    outbox.retain keep = outbox := by
  have same : (outbox.drains.map fun drain =>
      { drain with accepting := drain.accepting && keep drain.address }) = outbox.drains := by
    conv_rhs => rw [← List.map_id outbox.drains]
    apply List.map_congr_left
    intro drain present
    have accepting : (drain.accepting && keep drain.address) = drain.accepting := by
      cases open? : drain.accepting with
      | false => rfl
      | true => exact kept drain present open?
    rw [accepting, id]
  have all : (outbox.drains.filter fun drain => !drain.isFinished) = outbox.drains := by
    rw [List.filter_eq_self]
    intro drain present
    rw [unfinished drain present]
    rfl
  simp only [retain, prune, same, all]

theorem retain_retain (outbox : Outbox) (keep : SocketAddress → Bool) :
    (outbox.retain keep).retain keep = outbox.retain keep := by
  apply retain_of_kept
  · intro drain present accepting
    obtain ⟨-, earlier, -, rfl⟩ := mem_retain.mp present
    exact (Bool.and_eq_true_iff.mp accepting).2
  · intro drain present
    exact (mem_retain.mp present).1

end

end Outbox

namespace Roster

variable {roster : Roster}

theorem current_follow {after : Registry} {view : Option View}
    (current : roster.elector.version ≤ roster.registry.version)
    (step : Registry.Step roster.registry after view) :
    (roster.follow after view).elector.version ≤ (roster.follow after view).registry.version := by
  cases view with
  | none =>
    have sameVersion : after.version = roster.registry.version := congrArg View.version step.quiet
    exact current.trans_eq sameVersion.symm
  | some shown =>
    obtain ⟨rfl, raised⟩ := step.published
    have fresh : roster.elector.version ≤ after.view.version :=
      Nat.le_trans current (Nat.le_of_lt (Nat.lt_of_lt_of_eq (Nat.lt_succ_self _) raised.symm))
    exact Nat.le_of_eq (recompute_fresh fresh).2.1

end Roster

theorem Elector.recompute_recompute (elector : Elector) (view : View) :
    ((elector.recompute view).1.recompute view).1 = (elector.recompute view).1 := by
  unfold recompute
  by_cases stale : view.version < elector.version
  · simp [stale]
  · by_cases same : elect view.members = elector.master <;> simp [stale, same]

namespace Node

/-! ### The parts of a round -/

section

variable (node : Node) (now : Instant)

theorem roster_detectionRound :
    let swept := ((node.roster.checkLiveness now node.config.heartbeatTimeout).1.purgeDead now
      node.config.deadMemberGrace).1
    (node.detectionRound now).roster =
      { swept with elector := (swept.elector.recompute swept.registry.view).1 } := by
  obtain ⟨pending, deliveries, woken, marked⟩ := node.markDead_eq now
  rw [detectionRound, marked]
  rfl

theorem registry_detectionRound :
    (node.detectionRound now).registry =
      ((node.registry.checkLiveness now node.config.heartbeatTimeout).1.purgeDead now
        node.config.deadMemberGrace).1 := by
  rw [registry, roster_detectionRound]
  exact (Roster.registry_perform _ (.purgeDead now _)).trans
    (congrArg (fun registry => (Registry.purgeDead registry now _).1)
      (node.roster.registry_perform (.checkLiveness now _)))

theorem mem_detectionRound {record : MemberRecord} :
    record ∈ (node.detectionRound now).registry.records ↔
      (∃ earlier ∈ node.registry.records,
        (if node.registry.isSilent now node.config.heartbeatTimeout earlier then earlier.die now
          else earlier) = record) ∧
      node.registry.isExpired now node.config.deadMemberGrace record = false := by
  have localId := (node.registry.checkLiveness_step now node.config.heartbeatTimeout).localId
  rw [registry_detectionRound, Registry.mem_purgeDead, Registry.mem_checkLiveness,
    Registry.isExpired, localId, ← Registry.isExpired]

theorem tolerated_detectionRound {record : MemberRecord}
    (present : record ∈ (node.detectionRound now).registry.records)
    (other : record.member.id ≠ node.registry.localId) : record.Tolerated node.config now := by
  obtain ⟨⟨earlier, -, treated⟩, recent⟩ := (node.mem_detectionRound now).mp present
  refine ⟨fun alive => ?_, fun died since => Registry.isExpired_eq_false recent other since⟩
  cases silent : node.registry.isSilent now node.config.heartbeatTimeout earlier with
  | true =>
    rw [if_pos silent] at treated
    simp [← treated, MemberRecord.die] at alive
  | false =>
    rw [if_neg (Bool.eq_false_iff.mp silent)] at treated
    subst treated
    exact Registry.isSilent_eq_false silent other alive

theorem mem_detectionRound_of_tolerated {record : MemberRecord}
    (present : record ∈ node.registry.records)
    (tolerated : record.member.id ≠ node.registry.localId → record.Tolerated node.config now) :
    record ∈ (node.detectionRound now).registry.records := by
  have heard := Registry.not_isSilent_of_tolerated tolerated
  have recent := Registry.not_isExpired_of_tolerated tolerated
  exact (node.mem_detectionRound now).mpr
    ⟨⟨record, present, if_neg (Bool.eq_false_iff.mp heard)⟩, recent⟩

theorem fallsSilent_iff (sound : node.registry.Sound) (id : MemberId) :
    node.registry.FallsSilent now node.config.heartbeatTimeout id ↔
      node.registry.isAlive id = true ∧ (node.detectionRound now).registry.isAlive id = false := by
  rw [isAlive_detectionRound sound, registry_markDead, Registry.isAlive_checkLiveness sound.unique,
    ← Registry.mem_dead_iff_fallsSilent]
  constructor
  · intro dead
    have alive := (Registry.mem_dead_iff_fallsSilent.mp dead).alive sound.unique
    simp [alive, dead]
  · rintro ⟨alive, gone⟩
    simpa [alive] using gone

/--
What comes of a call in the round: the silent take theirs along, and the overdue among the rest
expire.
-/
def roundOutcome (call : PendingCall) : Option CallResult :=
  if node.registry.FallsSilent now node.config.heartbeatTimeout call.target then
    some (.error (.unreachable call.target silentReason))
  else overdue now call

theorem settles_silent :
    node.Settles (node.markDead now) fun call =>
      if node.registry.FallsSilent now node.config.heartbeatTimeout call.target then
        some (.error (.unreachable call.target silentReason))
      else none := by
  let dead := (node.registry.checkLiveness now node.config.heartbeatTimeout).2.1
  have marked : node.Quiet
      { node with roster := (node.roster.checkLiveness now node.config.heartbeatTimeout).1 } :=
    ⟨rfl, rfl, rfl⟩
  have settles : node.Settles (node.markDead now) _ :=
    marked.settles (settles_failAll _ dead silentReason)
  apply settles.congr
  intro call _
  simp only [dead, Registry.mem_dead_iff_fallsSilent]

theorem settles_roundOutcome : node.Settles (node.detectionRound now) (node.roundOutcome now) := by
  have purged : (node.markDead now).Quiet ((node.markDead now).purge now).dropQueues :=
    ⟨rfl, rfl, rfl⟩
  have expired := ((node.settles_silent now).quiet purged).trans (settles_expireCalls _ now)
  have settles : node.Settles (node.detectionRound now) _ := expired.quiet ⟨rfl, rfl, rfl⟩
  apply settles.congr
  intro call _
  unfold roundOutcome
  split <;> simp

theorem awaited_detectionRound {call : PendingCall}
    (waits : call ∈ (node.detectionRound now).pending.calls) :
    now < call.deadline ∧
      ¬ node.registry.FallsSilent now node.config.heartbeatTimeout call.target := by
  rw [(node.settles_roundOutcome now).calls, List.mem_filter, Option.isNone_iff_eq_none] at waits
  obtain ⟨-, goesOn⟩ := waits
  unfold roundOutcome overdue at goesOn
  split at goesOn
  next => simp at goesOn
  next heard =>
    split at goesOn
    next => simp at goesOn
    next early => exact ⟨Nat.not_le.mp early, heard⟩

theorem traffic_detectionRound :
    (node.detectionRound now).traffic =
      { node.traffic with
        timedOut := node.traffic.timedOut + node.pending.calls.countP fun call =>
          !decide (node.registry.FallsSilent now node.config.heartbeatTimeout call.target) &&
            decide (call.deadline ≤ now) } := by
  obtain ⟨_, _, _, marked⟩ := node.markDead_eq now
  have traffic : (node.markDead now).traffic = node.traffic := by rw [marked]
  have calls := (node.settles_silent now).calls
  have counted : (node.detectionRound now).traffic = { (node.markDead now).traffic with
      timedOut := (node.markDead now).traffic.timedOut +
        ((node.markDead now).pending.calls.filter fun call => call.deadline ≤ now).length } := by
    simp [detectionRound, elect, expireCalls, PendingCalls.expireOverdue, PendingCalls.failWhere,
      countTimeouts, deliver, dropQueues, purge]
  have overdue : ((node.markDead now).pending.calls.filter fun call => call.deadline ≤ now).length =
      node.pending.calls.countP fun call =>
        !decide (node.registry.FallsSilent now node.config.heartbeatTimeout call.target) &&
          decide (call.deadline ≤ now) := by
    rw [calls, ← List.countP_eq_length_filter, List.countP_filter]
    apply List.countP_congr
    intro call _
    split <;> simp_all
  rw [counted, traffic, overdue]

theorem outbox_detectionRound :
    (node.detectionRound now).outbox = node.outbox.retain fun address =>
      node.seeds.contains address || (node.detectionRound now).registry.hasAddress address := by
  obtain ⟨_, _, _, _, _, round⟩ := node.detectionRound_eq now
  rw [round]
  rfl

theorem master_detectionRound (current : node.roster.elector.version ≤ node.registry.version) :
    (node.detectionRound now).roster.master =
      ClusterCoordination.elect (node.detectionRound now).registry.members := by
  let marked := (node.roster.checkLiveness now node.config.heartbeatTimeout).1
  have afterMarking : marked.elector.version ≤ marked.registry.version :=
    Roster.current_follow current
      (node.registry.checkLiveness_step now node.config.heartbeatTimeout)
  let swept := (marked.purgeDead now node.config.deadMemberGrace).1
  have afterPurging : swept.elector.version ≤ swept.registry.version :=
    Roster.current_follow afterMarking
      (marked.registry.purgeDead_step now node.config.deadMemberGrace)
  rw [registry, roster_detectionRound]
  exact (Roster.recompute_fresh afterPurging).1

/-! ### A second round -/

structure Swept (node : Node) (now : Instant) : Prop where
  tolerated : ∀ record ∈ node.registry.records, record.member.id ≠ node.registry.localId →
    record.Tolerated node.config now
  retained : node.outbox.retain (fun address =>
    node.seeds.contains address || node.registry.hasAddress address) = node.outbox
  timely : ∀ call ∈ node.pending.calls, now < call.deadline
  elected : (node.roster.elector.recompute node.registry.view).1 = node.roster.elector

end

section

variable {node : Node} {now : Instant}

theorem expireCalls_of_timely (timely : ∀ call ∈ node.pending.calls, now < call.deadline) :
    node.expireCalls now = node := by
  have nobody : (node.pending.calls.filter fun call => call.deadline ≤ now) = [] := by
    simpa [List.filter_eq_nil_iff] using timely
  have everybody : (node.pending.calls.filter fun call => !decide (call.deadline ≤ now)) =
      node.pending.calls := by
    simpa [List.filter_eq_self] using timely
  simp only [expireCalls, PendingCalls.expireOverdue, PendingCalls.failWhere, nobody, everybody,
    deliver, List.map_nil, List.append_nil]
  rfl

theorem Swept.detectionRound (swept : node.Swept now) : node.detectionRound now = node := by
  have heard := Registry.checkLiveness_of_heard fun record present =>
    Registry.not_isSilent_of_tolerated (swept.tolerated record present)
  have recent := Registry.purgeDead_of_recent fun record present =>
    Registry.not_isExpired_of_tolerated (swept.tolerated record present)
  have marked : node.markDead now = node := by
    have roster : node.roster.checkLiveness now node.config.heartbeatTimeout =
        (node.roster, [], none) := by
      rw [Roster.checkLiveness, ← registry, heard]
      rfl
    rw [markDead, roster]
    rfl
  have purged : node.purge now = node := by
    rw [purge, Roster.purgeDead, ← registry, recent]
    rfl
  have dropped : node.dropQueues = node := by
    rw [dropQueues, swept.retained]
  have elected : node.elect = node := by
    rw [elect, swept.elected]
  rw [Node.detectionRound, marked, purged, dropped, expireCalls_of_timely swept.timely, elected]

theorem swept_detectionRound (node : Node) (now : Instant) :
    (node.detectionRound now).Swept now := by
  obtain ⟨_, _, _, _, _, round⟩ := node.detectionRound_eq now
  have config : (node.detectionRound now).config = node.config := by rw [round]
  have seeds : (node.detectionRound now).seeds = node.seeds := by rw [round]
  have localId : (node.detectionRound now).registry.localId = node.registry.localId := by
    rw [registry_detectionRound, (Registry.purgeDead_step _ now _).localId,
      (Registry.checkLiveness_step _ now _).localId]
  constructor
  case tolerated =>
    intro record present other
    rw [config]
    exact node.tolerated_detectionRound now present (localId ▸ other)
  case retained =>
    rw [seeds, outbox_detectionRound]
    exact Outbox.retain_retain _ _
  case timely =>
    intro call waits
    exact (node.awaited_detectionRound now waits).1
  case elected =>
    rw [registry, roster_detectionRound]
    exact Elector.recompute_recompute _ _

/--
After a look for the silent, no other member is alive that was silent for too long, or known that
was dead for too long, and everybody else is as before. Whoever has died takes the calls to it
along, the overdue ones among the rest time out and are counted, and all others wait on. Just the
queues to seeds and to members are left, and the elector has the master of the members that are
left. A second look changes nothing.
-/
theorem detection_round_leaves_nothing_to_do (node : Node) (now : Instant) :
    let after := node.detectionRound now
    let silent := node.registry.FallsSilent now node.config.heartbeatTimeout
    (∀ record ∈ after.registry.records, record.member.id ≠ node.registry.localId →
      record.Tolerated node.config now) ∧
    (∀ record ∈ node.registry.records,
      (record.member.id ≠ node.registry.localId → record.Tolerated node.config now) →
        record ∈ after.registry.records) ∧
    (node.registry.Sound → ∀ id, silent id ↔
      node.registry.isAlive id = true ∧ after.registry.isAlive id = false) ∧
    (∀ call ∈ after.pending.calls, now < call.deadline ∧ ¬ silent call.target) ∧
    node.Settles after (fun call =>
      if silent call.target then some (.error (.unreachable call.target silentReason))
      else if call.deadline ≤ now then some (.error .timeout)
      else none) ∧
    after.traffic = { node.traffic with
      timedOut := node.traffic.timedOut +
        node.pending.calls.countP fun call => !silent call.target && call.deadline ≤ now } ∧
    (∀ address, after.outbox.hasQueue address =
      (node.outbox.hasQueue address &&
        (node.seeds.contains address || after.registry.hasAddress address))) ∧
    (node.roster.elector.version ≤ node.registry.version →
      after.roster.master = ClusterCoordination.elect after.registry.members) ∧
    after.detectionRound now = after := by
  intro after silent
  refine ⟨fun _ => node.tolerated_detectionRound now,
    fun _ => node.mem_detectionRound_of_tolerated now,
    node.fallsSilent_iff now, fun _ => node.awaited_detectionRound now,
    node.settles_roundOutcome now,
    node.traffic_detectionRound now, ?_, node.master_detectionRound now,
    (node.swept_detectionRound now).detectionRound⟩
  intro address
  rw [outbox_detectionRound]
  exact Outbox.hasQueue_retain _ _ address

/--
Dead members are not kept at all, so the round forgets one that it has just found silent, and drops
the queue to it. Of two overdue calls one is to that member, and only the other times out.
-/
theorem silent_member_is_forgotten_at_once :
    let place (port : UInt16) : SocketAddress := .v4 (Vector.replicate 4 0) port
    let config : Config :=
      { Config.new "cluster" ⟨"a"⟩ (place 1) (place 1) [] with
        heartbeatTimeout := 20, deadMemberGrace := 0 }
    let registry := Registry.run ⟨"a"⟩
      [.join 0 (.new ⟨"a"⟩ "" (place 1)), .join 0 (.new ⟨"b"⟩ "" (place 2)),
        .join 90 (.new ⟨"c"⟩ "" (place 3))]
    let node : Node :=
      { Node.new config with
        roster := { Roster.new ⟨"a"⟩ with registry := registry }
        pending := ⟨3, [⟨0, ⟨"b"⟩, 50⟩, ⟨1, ⟨"c"⟩, 50⟩, ⟨2, ⟨"c"⟩, 150⟩]⟩
        seeds := [place 4]
        outbox := ⟨3, [⟨0, place 2, true, [], none⟩, ⟨1, place 3, true, [], none⟩,
          ⟨2, place 4, true, [], none⟩], false⟩ }
    let after := node.detectionRound 100
    after.registry.isAlive ⟨"b"⟩ = false ∧
      (∀ record ∈ after.registry.records, record.member.id ≠ ⟨"b"⟩) ∧
      after.pending.calls = [⟨2, ⟨"c"⟩, 150⟩] ∧
      after.deliveries.Perm [⟨0, .error (.unreachable ⟨"b"⟩ silentReason)⟩, ⟨1, .error .timeout⟩] ∧
      after.traffic.timedOut = 1 ∧
      after.outbox.hasQueue (place 2) = false ∧ after.outbox.hasQueue (place 4) = true ∧
      after.roster.master = ClusterCoordination.elect after.registry.members ∧
      after.detectionRound 100 = after := by
  intro place config registry node after
  obtain ⟨-, -, deaths, -, settles, traffic, queues, master, again⟩ :=
    detection_round_leaves_nothing_to_do node 100
  have sound : node.registry.Sound := Registry.sound_run ⟨"a"⟩ _
  have silent : node.registry.FallsSilent 100 node.config.heartbeatTimeout ⟨"b"⟩ := by
    decide +kernel
  have heard : ¬ node.registry.FallsSilent 100 node.config.heartbeatTimeout ⟨"c"⟩ := by
    decide +kernel
  have table : node.pending.calls = [⟨0, ⟨"b"⟩, 50⟩, ⟨1, ⟨"c"⟩, 50⟩, ⟨2, ⟨"c"⟩, 150⟩] := rfl
  have uncollected : node.deliveries = [] := rfl
  have uncounted : node.traffic.timedOut = 0 := rfl
  have forgotten : ∀ record ∈ after.registry.records, record.member.id ≠ ⟨"b"⟩ := by decide +kernel
  have elsewhere : after.registry.hasAddress (place 2) = false := by decide +kernel
  refine ⟨((deaths sound ⟨"b"⟩).mp silent).2, forgotten, ?_, ?_, ?_, ?_, ?_,
    master (by decide +kernel), again⟩
  · rw [settles.calls, table]
    simp [silent, heard]
  · have given := settles.deliveries
    rw [table, uncollected] at given
    simpa [silent, heard] using given
  · rw [traffic, table]
    simp [silent, heard, uncounted]
  · rw [queues, elsewhere]
    decide +kernel
  · rw [queues]
    decide +kernel

end

end Node

end ClusterCoordination
