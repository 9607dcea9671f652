import ClusterCoordination.Proofs.Calls.CallFootprint
import ClusterCoordination.Proofs.Calls.Settlement
import ClusterCoordination.Proofs.Membership.Liveness
import ClusterCoordination.Proofs.Nodes.Answering
/-!
# No orphaned calls

A node waits only for other members that are alive. Whoever leaves or is found silent takes the
calls to it along, in the same step, and no others.
-/

set_option autoImplicit false

namespace ClusterCoordination

namespace Node

def bereaved (registry : Registry) (reason : String) (call : PendingCall) : Option CallResult :=
  if registry.isAlive call.target then none else some (.error (.unreachable call.target reason))

def Attended (node : Node) : Prop :=
  ∀ call ∈ node.pending.calls, call.target ≠ node.id ∧ node.registry.isAlive call.target = true

section

variable {node : Node}

theorem Attended.settles_bereaved {after : Node} {members : List MemberId} {reason : String}
    (attended : node.Attended)
    (settles : node.Settles after fun call =>
      if call.target ∈ members then some (.error (.unreachable call.target reason)) else none)
    (left : ∀ id, node.registry.isAlive id = true →
      (after.registry.isAlive id = true ↔ id ∉ members)) :
    node.Settles after (bereaved after.registry reason) := by
  apply settles.congr
  intro call waits
  have remains := left call.target (attended call waits).2
  by_cases gone : call.target ∈ members
  · have dead : ¬ after.registry.isAlive call.target = true := fun alive => remains.mp alive gone
    rw [bereaved, if_pos gone, if_neg dead]
  · rw [bereaved, if_neg gone, if_pos (remains.mpr gone)]

theorem settles_bidFarewell (sound : node.registry.Sound) (attended : node.Attended) (now : Instant)
    (member : Member) :
    node.Settles (node.bidFarewell now member)
      (bereaved (node.bidFarewell now member).registry leftReason) := by
  have left : node.Quiet { node with roster := (node.roster.leave now member.id).1 } :=
    ⟨rfl, rfl, rfl⟩
  have failed := left.settles (settles_failAll _ [member.id] leftReason)
  have settles : node.Settles (node.bidFarewell now member) _ := failed.quiet ⟨rfl, rfl, rfl⟩
  have registry : (node.bidFarewell now member).registry = (node.registry.leave now member.id).1 :=
    node.roster.registry_perform (.leave now member.id)
  apply attended.settles_bereaved settles
  intro id alive
  rw [registry, Registry.isAlive_leave sound, alive]
  simp

theorem registry_markDead (node : Node) (now : Instant) :
    (node.markDead now).registry =
      (node.registry.checkLiveness now node.config.heartbeatTimeout).1 := by
  have failed (members : List MemberId) (node : Node) :
      (members.foldl (fun node id => node.failCalls id silentReason) node).registry =
        node.registry := by
    induction members generalizing node with
    | nil => rfl
    | cons id rest ih => exact ih (node.failCalls id silentReason)
  exact (failed _ _).trans (node.roster.registry_perform (.checkLiveness now _))

theorem settles_markDead (sound : node.registry.Sound) (attended : node.Attended) (now : Instant) :
    node.Settles (node.markDead now) (bereaved (node.markDead now).registry silentReason) := by
  let dead := (node.registry.checkLiveness now node.config.heartbeatTimeout).2.1
  have marked : node.Quiet
      { node with roster := (node.roster.checkLiveness now node.config.heartbeatTimeout).1 } :=
    ⟨rfl, rfl, rfl⟩
  have settles : node.Settles (node.markDead now) _ :=
    marked.settles (settles_failAll _ dead silentReason)
  apply attended.settles_bereaved settles
  intro id alive
  rw [registry_markDead, Registry.isAlive_checkLiveness sound.unique, alive]
  simp [dead]

theorem isAlive_detectionRound (sound : node.registry.Sound) (now : Instant) (id : MemberId) :
    (node.detectionRound now).registry.isAlive id = (node.markDead now).registry.isAlive id := by
  have marked : (node.markDead now).registry.Sound := by
    rw [registry_markDead]
    exact sound.perform (.checkLiveness now _)
  have purged : (node.detectionRound now).registry =
      ((node.markDead now).registry.purgeDead now (node.markDead now).config.deadMemberGrace).1 :=
    (node.markDead now).roster.registry_perform (.purgeDead now _)
  rw [purged, Registry.isAlive_purgeDead marked]

theorem settles_detectionRound (sound : node.registry.Sound) (attended : node.Attended)
    (now : Instant) :
    node.Settles (node.detectionRound now) fun call =>
      (bereaved (node.detectionRound now).registry silentReason call).or (overdue now call) := by
  have purged : (node.markDead now).Quiet ((node.markDead now).purge now).dropQueues :=
    ⟨rfl, rfl, rfl⟩
  have expired :=
    ((settles_markDead sound attended now).quiet purged).trans (settles_expireCalls _ now)
  have settles : node.Settles (node.detectionRound now) _ := expired.quiet ⟨rfl, rfl, rfl⟩
  apply settles.congr
  intro call _
  simp only [bereaved, isAlive_detectionRound sound]

end

inductive Occurrence where
  | received (choice : PeerChoice) (now : Instant) (data : Bytes)
  | acted (action : Action)
  | sent (drain : DrainId) (result : Except NetworkFault Unit)

def undergo (node : Node) : Occurrence → Node
  | .received choice now data => node.receive choice now data
  | .acted action => node.act action
  | .sent drain result => node.sent drain result

def Occurrence.reason : Occurrence → String
  | .received .. => leftReason
  | .acted _ | .sent .. => silentReason

/-- Overdue calls time out when the node looks for the silent. -/
def Occurrence.lapse : Occurrence → PendingCall → Option CallResult
  | .acted (.detect now), call => overdue now call
  | .received .., _ | .acted _, _ | .sent .., _ => none

/-- What comes of a call in a step that takes members along and leaves these. -/
def Occurrence.outcome (occurrence : Occurrence) (registry : Registry) (call : PendingCall) :
    Option CallResult :=
  (bereaved registry occurrence.reason call).or (occurrence.lapse call)

structure Spares (before after : Node) : Prop where
  alive : ∀ id, before.registry.isAlive id = true → after.registry.isAlive id = true
  calls : before.CallsTheLiving after

section

variable {node : Node}

theorem Sends.spares {permits : SocketAddress → Bytes → Prop} {after : Node}
    (sends : Sends permits node after) (calls : node.CallsTheLiving after) : node.Spares after where
  alive := by
    intro id alive
    rwa [sends.registry]
  calls := calls

theorem isAlive_onControlFrame {choice : PeerChoice} {now : Instant} {frame : ControlFrame}
    (staying : frame.kind ≠ .leave) {id : MemberId} (alive : node.registry.isAlive id = true) :
    (node.onControlFrame choice now frame).registry.isAlive id = true := by
  cases kind : frame.kind with
  | join =>
    rw [registry_onJoin kind]
    exact Registry.isAlive_join alive now frame.member
  | heartbeat =>
    rw [registry_onHeartbeat kind]
    cases known : node.registry.contains frame.member.id with
    | false =>
      rw [registry_hear_stranger known]
      exact Registry.isAlive_join alive now frame.member
    | true =>
      rw [registry_hear_known known]
      exact Registry.isAlive_heartbeat alive now frame.member.id
  | leave => exact absurd kind staying

theorem receive_spares_or_settles (sound : node.registry.Sound) (attended : node.Attended)
    (choice : PeerChoice) (now : Instant) (data : Bytes) :
    node.Spares (node.receive choice now data) ∨
      node.Settles (node.receive choice now data)
        (bereaved (node.receive choice now data).registry leftReason) := by
  have calls := callsTheLiving_of_subset (node.receive_subset choice now data)
  rcases node.receive_cases choice now data with sends | ⟨frame, -, -, received⟩
  · exact .inl (sends.spares calls)
  · rw [received] at calls ⊢
    by_cases leaves : frame.kind = .leave
    · have departs : node.onControlFrame choice now frame = node.bidFarewell now frame.member := by
        simp only [onControlFrame, leaves]
      rw [departs]
      exact .inr (settles_bidFarewell sound attended now frame.member)
    · exact .inl ⟨fun _ => isAlive_onControlFrame leaves, calls⟩

theorem undergo_spares_or_settles (sound : node.registry.Sound) (attended : node.Attended)
    (occurrence : Occurrence) :
    node.Spares (node.undergo occurrence) ∨
      node.Settles (node.undergo occurrence)
        (occurrence.outcome (node.undergo occurrence).registry) := by
  cases occurrence with
  | received choice now data =>
    refine (receive_spares_or_settles sound attended choice now data).imp_right fun settles => ?_
    apply settles.congr
    intro call _
    exact Option.or_none.symm
  | acted action =>
    by_cases other : ∀ now, action ≠ .detect now
    · exact .inl ((node.act_utters other).spares (node.act_calls other))
    · push Not at other
      obtain ⟨now, rfl⟩ := other
      exact .inr (settles_detectionRound sound attended now)
  | sent drain result =>
    refine .inl ⟨?_, (node.quiet_sent drain result).callsTheLiving⟩
    intro id alive
    rwa [undergo, registry_sent]

theorem Attended.spares {after : Node} (attended : node.Attended) (same : after.id = node.id)
    (spares : node.Spares after) : after.Attended := by
  intro call waits
  rw [same]
  rcases spares.calls call waits with older | ⟨other, alive⟩
  · exact ⟨(attended call older).1, spares.alive _ (attended call older).2⟩
  · exact ⟨other, spares.alive _ alive⟩

theorem Attended.settles {after : Node} (attended : node.Attended) (same : after.id = node.id)
    {occurrence : Occurrence} (settles : node.Settles after (occurrence.outcome after.registry)) :
    after.Attended := by
  intro call waits
  rw [settles.calls, List.mem_filter, Option.isNone_iff_eq_none] at waits
  obtain ⟨older, spared⟩ := waits
  rw [same]
  refine ⟨(attended call older).1, ?_⟩
  have kept := (Option.or_eq_none_iff.mp spared).1
  unfold bereaved at kept
  split at kept
  next alive => exact alive
  next => simp at kept

end

section

variable {config : Config} {start : Instant} {node : Node}

theorem running_undergo (running : Running config start node) (occurrence : Occurrence) :
    Running config start (node.undergo occurrence) := by
  cases occurrence with
  | received choice now data => exact running.received choice now data
  | acted action => exact running.acted action
  | sent drain result => exact running.sent drain result

theorem attended_of_running (running : Running config start node) : node.Attended := by
  have undergone {node : Node} (running : Running config start node) (attended : node.Attended)
      (occurrence : Occurrence) : (node.undergo occurrence).Attended := by
    have after := settled_of_running (running_undergo running occurrence)
    have same : (node.undergo occurrence).id = node.id :=
      congrArg Config.id (after.configured.trans (settled_of_running running).configured.symm)
    rcases undergo_spares_or_settles (sound_of_running running) attended occurrence with
      spares | settles
    · exact attended.spares same spares
    · exact attended.settles same settles
  induction running with
  | @started starting begun choice socket =>
    have fresh : starting.pending.calls = [] := by
      have begins : { new config with lifecycle := .starting } = starting := Except.ok.inj begun
      exact begins ▸ rfl
    intro call waits
    rw [(starting.quiet_finishStart choice start socket).pending, fresh] at waits
    simp at waits
  | received running choice now data attended =>
    exact undergone running attended (.received choice now data)
  | acted running action attended => exact undergone running attended (.acted action)
  | sent running drain result attended => exact undergone running attended (.sent drain result)

theorem settles_finishStop (node : Node) (now : Instant) :
    node.Settles (node.finishStop now) fun _ => some (.error .cancelled) := by
  have left : node.Quiet { node with roster := (node.roster.leave now node.id).1 } :=
    ⟨rfl, rfl, rfl⟩
  have cancelled := left.settles (settles_failWhere _ (fun _ => true) .cancelled 0)
  exact cancelled.quiet ⟨rfl, rfl, rfl⟩

/--
At every moment until it has stopped, a node waits only for other members that are registered and
alive. When somebody is not alive after a step and was before it, exactly the calls to those who are
gone have become unreachable in that step, each once. A look for the silent also times out what is
overdue, which is no matter of who has died: marking the dead touches no call to anyone else.
Stopping cancels every call.
-/
theorem no_call_is_orphaned (running : Running config start node) :
    (∀ call ∈ node.pending.calls, call.target ≠ config.id ∧
      node.registry.contains call.target = true ∧ node.registry.isAlive call.target = true) ∧
    (∀ occurrence id, node.registry.isAlive id = true →
      (node.undergo occurrence).registry.isAlive id = false →
        node.Settles (node.undergo occurrence)
          (occurrence.outcome (node.undergo occurrence).registry)) ∧
    (∀ now, node.Settles (node.markDead now) (bereaved (node.markDead now).registry silentReason)) ∧
    ∀ now, node.Settles (node.finishStop now) fun _ => some (.error .cancelled) := by
  have sound := sound_of_running running
  have attended := attended_of_running running
  refine ⟨?_, ?_, settles_markDead sound attended, node.settles_finishStop⟩
  · intro call waits
    obtain ⟨other, alive⟩ := attended call waits
    obtain ⟨record, found, -⟩ := Registry.exists_record?_of_isAlive alive
    have named : node.id = config.id := congrArg Config.id (settled_of_running running).configured
    exact ⟨named ▸ other, Registry.contains_of_record? found, alive⟩
  · intro occurrence id before after
    rcases undergo_spares_or_settles sound attended occurrence with spares | settles
    · have still := spares.alive id before
      rw [after] at still
      simp at still
    · exact settles

end

/-- Of two members that are called, one leaves. The call to the other waits on. -/
theorem leaver_takes_its_call_along :
    let config : Config := .new "cluster" ⟨"a"⟩ .unspecified .unspecified []
    let frame (name : String) (kind : ControlKind) : ControlFrame :=
      ⟨⟨name⟩, "", .unspecified, kind, []⟩
    let started := ({ new config with lifecycle := .starting }).finishStart .first 5 0
    let known := (started.receive .first 6 (frame "b" .heartbeat).wire).receive .first 6
      (frame "c" .heartbeat).wire
    let calling := known.act (.call ⟨7, 0⟩ [⟨"b"⟩, ⟨"c"⟩] ⟨"calculator", "add", .empty⟩ none)
    let left := calling.receive .first 8 (frame "b" .leave).wire
    Running config 5 calling ∧ calling.pending.calls.map PendingCall.target = [⟨"c"⟩, ⟨"b"⟩] ∧
      left.pending.calls.map PendingCall.target = [⟨"c"⟩] ∧
      left.deliveries = [⟨0, .error (.unreachable ⟨"b"⟩ leftReason)⟩] := by
  intro config frame started known calling left
  have running : Running config 5 calling :=
    (((Running.started rfl .first 0).received .first 6 _).received .first 6 _).acted _
  let met := started.onControlFrame .first 6 (frame "b" .heartbeat)
  have first : started.receive .first 6 (frame "b" .heartbeat).wire = met :=
    receive_wire (by decide) (by decide +kernel) .first 6
  have second : known = met.onControlFrame .first 6 (frame "c" .heartbeat) :=
    (congrArg (fun node => receive node .first 6 _) first).trans
      (receive_wire (by decide) (by decide +kernel) .first 6)
  have calls : calling = (met.onControlFrame .first 6 (frame "c" .heartbeat)).act
      (.call ⟨7, 0⟩ [⟨"b"⟩, ⟨"c"⟩] ⟨"calculator", "add", .empty⟩ none) :=
    congrArg (fun node => act node _) second
  have departs : left = calling.onControlFrame .first 8 (frame "b" .leave) := by
    apply receive_wire (by decide)
    rw [calls]
    decide +kernel
  have table : calling.pending.calls =
      [⟨1, ⟨"c"⟩, 7 + config.callTimeout⟩, ⟨0, ⟨"b"⟩, 7 + config.callTimeout⟩] := by
    rw [calls]
    decide +kernel
  have alive : calling.registry.isAlive ⟨"b"⟩ = true := by
    rw [calls]
    decide +kernel
  have dead : left.registry.isAlive ⟨"b"⟩ = false := by
    rw [departs, calls]
    decide +kernel
  have stays : left.registry.isAlive ⟨"c"⟩ = true := by
    rw [departs, calls]
    decide +kernel
  have uncollected : calling.deliveries.isEmpty = true := by
    rw [calls]
    decide +kernel
  obtain ⟨-, steps, -, -⟩ := no_call_is_orphaned running
  have settles : calling.Settles left (bereaved left.registry leftReason) :=
    (steps (.received .first 8 (frame "b" .leave).wire) ⟨"b"⟩ alive dead).congr
      fun _ _ => Option.or_none
  refine ⟨running, by rw [table]; rfl, ?_, ?_⟩
  · rw [settles.calls, table]
    simp [bereaved, dead, stays]
  · have given := settles.deliveries
    rw [table, List.isEmpty_iff.mp uncollected] at given
    simpa [bereaved, dead, stays] using given

end Node

end ClusterCoordination
