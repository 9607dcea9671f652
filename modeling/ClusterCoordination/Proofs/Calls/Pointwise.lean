import ClusterCoordination.Calls.FanOut
import ClusterCoordination.Proofs.Calls.Answers
import ClusterCoordination.Proofs.Calls.ResolvedOnce
/-!
# Calls to several members, one by one

A call to several members comes to what the calls to each of them alone come to, target by target.
The calls share a table of pending calls and the queues of an outbox, and are resolved in any order.
-/

set_option autoImplicit false

namespace ClusterCoordination

/-! ### Where an answer leads -/

namespace CallWorld

section

variable {config : Config} {world arrived : CallWorld} {first : RemoteCall} {branch : Branch}

theorem Follows.settles (follows : world.Follows (.remotely first) branch)
    (reached : Reachable config world) {claim : Claim} {result : CallResult}
    (once : world.claimsOn first.id = [claim])
    (means : claim.claimant.result first.target = some result)
    (heard : ∀ later, branch = .remotely later → later.stage = .waiting ∨
      later.deadline ≤ world.now ∨ (world.node.acknowledgement? later.id).isSome = true) :
    (world.node.pollBranch world.now branch).2 = .settled result := by
  cases follows with
  | waiting _ stage known =>
    let current : RemoteCall := { first with stage := stage }
    have sound := sound_of_reachable reached
    rcases sound.resolving first.id _ known with outstanding | ⟨found, claimed⟩
    · have unclaimed : world.claimsOn first.id = [] := outstanding.unclaimed
      rw [once] at unclaimed
      simp at unclaimed
    · have same : world.claimsOn first.id = [found] := claimed.once
      obtain rfl : claim = found := by simpa [once] using same
      have waits : (Caller.ofCall current).point = .waiting ∨
          (Caller.ofCall current).point = .sending ∧ ((Caller.ofCall current).deadline ≤ world.now ∨
            (world.node.acknowledgement? (Caller.ofCall current).id).isSome) := by
        cases stage with
        | waiting => exact .inl rfl
        | sending => exact .inr ⟨rfl, (heard current rfl).resolve_left (by simp [current])⟩
      obtain ⟨given, meant, polled⟩ := poll_of_claimed claimed waits
      have agreed : claim.claimant.result first.target = some given := meant
      obtain rfl := Option.some.inj (means.symm.trans agreed)
      have shown : (Caller.ofCall current).call = current := by cases stage <;> rfl
      rw [shown] at polled
      exact Node.pollBranch_of_settled polled
  | resolved oneClaim meant =>
    obtain rfl : claim = _ := by simpa using once.symm.trans oneClaim
    obtain rfl := Option.some.inj (means.symm.trans meant)
    rfl

theorem claimed_of_response (reached : Reachable config world) (step : world.Step arrived)
    (follows : world.Follows (.remotely first) branch) (pending : first.id ∈ world.node.pending.ids)
    {member : MemberId} {outcome : Except Status Bytes}
    (received : arrived.node = world.node.onResponse member ⟨first.id, outcome⟩)
    (callers : arrived.callers = world.callers) :
    ∃ claim, arrived.claimsOn first.id = [claim] ∧
      claim.claimant.result first.target = some (.ofOutcome outcome member) := by
  have gone : first.id ∉ arrived.node.pending.ids := by
    rw [received]
    exact Node.not_pending_onResponse member ⟨first.id, outcome⟩
  have brought : arrived.node.delivery? first.id = some ⟨first.id, .ofOutcome outcome member⟩ := by
    rw [received]
    exact Node.delivery?_onResponse pending (undelivered_of_pending reached pending) member outcome
  have sound := sound_of_reachable (reached.next step)
  cases follows with
  | waiting _ stage known =>
    rw [← callers] at known
    rcases sound.resolving first.id _ known with outstanding | ⟨claim, claimed⟩
    · exact absurd outstanding.pending gone
    · obtain ⟨result, means, delivered⟩ := claimed.waits (by cases stage <;> rfl)
      have same : CallResult.ofOutcome outcome member = result := delivered.result_eq brought
      exact ⟨claim, claimed.once, same ▸ means⟩
  | resolved once means =>
    -- A call that has been resolved is in the table no more.
    obtain ⟨caller, -, own, outstanding⟩ := outstanding_of_pending reached pending
    have unclaimed := own ▸ outstanding.unclaimed
    rw [once] at unclaimed
    simp at unclaimed

end

end CallWorld

/-! ### Calls in time -/

/-- A call as it is made, and what each member would reply to it. -/
structure MultiCall where
  world : CallWorld
  clock : Clock
  request : CallRequest
  timeout : Option Duration
  replies : MemberId → Except Status Bytes

namespace MultiCall

def node (call : MultiCall) : Node := call.world.node

def limit (call : MultiCall) : Duration := call.timeout.getD call.node.config.callTimeout

/-- What comes of the call to one member: its reply, or why nobody is asked. -/
def outcome (call : MultiCall) (target : MemberId) : CallResult :=
  if target = call.node.id then .ofOutcome (call.replies target) target
  else
    match call.node.aliveMember target with
    | .error error => .error error
    | .ok _ => .ofOutcome (call.replies target) target

structure Able (config : Config) (call : MultiCall) : Prop where
  reached : CallWorld.Reachable config call.world
  reading : call.clock.now = call.world.now
  running : call.node.lifecycle = .running
  going : call.node.stopRequested = false
  sending : call.node.outbox.closed = false

/-- A request of the call waits in the queue for its target, under the id of the remote call. -/
def Asks (call : MultiCall) (begun : CallGroup) (target : MemberId) (remote : RemoteCall)
    (asked : Bytes) : Prop :=
  ∃ member, call.node.aliveMember target = .ok member ∧
    begun.world.node.outbox.Holds member.address ⟨asked, some (.call remote.id)⟩ ∧
    call.node.Reads asked (call.node.requestFrame call.clock remote.id call.request call.limit)

/--
The reply of the target at one place comes in time: the dispatcher of the node has returned before
the timeout, nobody is to be asked, or the request has been delivered, the target has answered it,
and the answer has been delivered while the call was pending.
-/
inductive InTime (call : MultiCall) (begun last : CallGroup) (asked : Nat → Bytes) (place : Nat)
    (target : MemberId) : Prop where
  | here (own : target = call.node.id) {delay : Duration}
      (invoked : call.node.dispatchers.invoke target call.request.targetType call.request.method
        call.request.arguments = ⟨delay, .returned (call.replies target)⟩)
      (timely : delay ≤ call.limit) (done : call.clock.now + delay ≤ last.world.now)
  | away (other : target ≠ call.node.id) {error : ClusterError}
      (missing : call.node.aliveMember target = .error error)
  | there (other : target ≠ call.node.id) {remote : RemoteCall}
      (began : begun.branches[place]? = some (target, .remotely remote)) {before : CallGroup}
      (leads : begun.Leads before) (pending : remote.id ∈ before.world.node.pending.ids)
      {answer : Bytes}
      (responds : Node.Responds target call.node.id call.request (call.replies target)
        (asked place) answer)
      {arrived : CallWorld} (step : before.world.Step arrived) {choice : PeerChoice}
      (received : arrived.node = before.world.node.receive choice before.world.now answer)
      (callers : arrived.callers = before.world.callers)
      (rest : CallGroup.Leads ⟨arrived, before.branches⟩ last)
      -- The caller knows that its request was sent, or it is late enough for it to look.
      (heard : ∀ later, last.branches[place]? = some (target, .remotely later) →
        later.stage = .waiting ∨ later.deadline ≤ last.world.now ∨
          (last.world.node.acknowledgement? later.id).isSome = true)

/--
These are the outcomes of the call to these targets. It begins, and then, in every run of the node,
whoever polls is given at each place the outcome of that place, provided the reply of that place
comes in time.
-/
def Yields (call : MultiCall) (config : Config) (targets : List MemberId)
    (outcomes : List (MemberId × CallResult)) : Prop :=
  ∃ (begun : CallGroup) (asked : Nat → Bytes),
    call.node.beginCall call.clock targets call.request call.timeout =
      .ok (begun.world.node, begun.branches) ∧
    CallWorld.Reachable config begun.world ∧ begun.world.now = call.world.now ∧
    (∀ place target remote, begun.branches[place]? = some (target, .remotely remote) →
      call.Asks begun target remote (asked place)) ∧
    ∀ last, begun.Leads last → last.world.node.stopRequested = false →
      let polled := Node.pollBranches last.world.now last.branches last.world.node
      (∃ after : CallWorld, after.node = polled.1 ∧ last.Leads ⟨after, polled.2⟩) ∧
      polled.2.map Prod.fst = targets ∧
      (∀ place outcome, outcomes[place]? = some outcome →
        call.InTime begun last asked place outcome.1 →
          polled.2[place]? = some (outcome.1, .settled outcome.2)) ∧
      ((∀ place outcome, outcomes[place]? = some outcome →
          call.InTime begun last asked place outcome.1) →
        settledOutcomes polled.2 = some outcomes)

section

variable {config : Config} {call : MultiCall}

theorem Able.stands (able : call.Able config) : call.node.Stands call.world.node :=
  ⟨rfl, rfl, rfl, able.going, able.sending⟩

theorem Able.kept (able : call.Able config) :
    (⟨call.world, []⟩ : CallGroup).Kept config call.node.id [] where
  reached := able.reached
  named := rfl
  apart := List.nodup_nil
  placed := rfl
  follows := by simp

variable {first : List (MemberId × Branch)} {begun last : CallGroup} {asked : Nat → Bytes}
  {place : Nat} {target : MemberId} {issued : Node} {one branch : Branch}

theorem InTime.settles (inTime : call.InTime begun last asked place target)
    (asks : ∀ remote, begun.branches[place]? = some (target, .remotely remote) →
      call.Asks begun target remote (asked place))
    (kept : begun.Kept config call.node.id first) (leads : begun.Leads last)
    (here : first[place]? = some (target, one))
    (begins : call.node.Begins call.clock call.request call.limit issued target one)
    (there : last.branches[place]? = some (target, branch)) :
    (last.world.node.pollBranch last.world.now branch).2 = .settled (call.outcome target) := by
  have keptLast := kept.leads leads
  obtain ⟨-, follows⟩ := keptLast.follows place _ _ here there
  cases inTime with
  | @here own delay invoked timely done =>
    have result : call.outcome target = .ofOutcome (call.replies target) last.world.node.id := by
      rw [keptLast.named, ← own]
      exact if_pos own
    rw [result]
    cases begins with
    | here _ =>
      simp only [Node.localBranch, invoked] at follows
      cases follows with
      | working => simp only [Node.pollBranch, if_pos done]
      | worked => rfl
      | outlasted _ late =>
        exact absurd (Nat.add_le_add_left timely call.clock.now) (Nat.not_le.mpr late)
    | away other | unwritten other | there other => exact absurd own other
  | @away other error missing =>
    have result : call.outcome target = .error error := by
      rw [outcome, if_neg other, missing]
    rw [result]
    cases begins with
    | here own => exact absurd own other
    | away _ found =>
      obtain rfl := Except.error.inj (missing.symm.trans found)
      cases follows with
      | settled => rfl
    | unwritten _ alive | there _ alive =>
      rw [missing] at alive
      simp at alive
  | @there other remote began before earlier pending answer responds arrived step choice received
      callers rest heard =>
    obtain ⟨member, alive, -, reads⟩ := asks remote began
    have result : call.outcome target = .ofOutcome (call.replies target) target := by
      rw [outcome, if_neg other, alive]
    obtain ⟨-, started⟩ := kept.follows place _ _ here began
    obtain ⟨origin, stage, same, branched, -, -⟩ := started.waits rfl
    obtain rfl : one = .remotely origin := same
    obtain rfl := Branch.remotely.inj branched
    -- The answer resolves the call while it is pending, so the claim on it is that of the response,
    -- and it stands until the caller looks.
    have response := responds.receive reads before.world.node choice before.world.now
    have keptBefore := kept.leads earlier
    have inside : place < before.branches.length := by
      obtain ⟨within, -⟩ := List.getElem?_eq_some_iff.mp here
      rwa [keptBefore.placed]
    obtain ⟨-, waits⟩ := keptBefore.follows place _ _ here (List.getElem?_eq_getElem inside)
    obtain ⟨claim, once, means⟩ := CallWorld.claimed_of_response keptBefore.reached step waits
      pending (received.trans response) callers
    obtain ⟨more, longer⟩ := CallGroup.claims_leads rest
    have kept := CallWorld.claimsOn_of_longer longer
      (CallWorld.sound_of_reachable keptLast.reached) once
    rw [result]
    refine follows.settles keptLast.reached kept means ?_
    rintro later rfl
    exact heard later there

end

section

variable {config : Config} {call : MultiCall} {targets : List MemberId}

theorem InTime.answered {begun before last : CallGroup} {asked : Nat → Bytes} {place : Nat}
    {target : MemberId} {remote : RemoteCall} (other : target ≠ call.node.id)
    (asks : call.Asks begun target remote (asked place))
    (began : begun.branches[place]? = some (target, .remotely remote)) (leads : begun.Leads before)
    (pending : remote.id ∈ before.world.node.pending.ids) {answer : Bytes}
    (responds : Node.Responds target call.node.id call.request (call.replies target) (asked place)
      answer)
    (rest : CallGroup.Leads
      ⟨before.world.turn (before.world.node.onResponse target ⟨remote.id, call.replies target⟩)
        (.response target (call.replies target)), before.branches⟩ last)
    (heard : ∀ later, last.branches[place]? = some (target, .remotely later) →
      later.stage = .waiting ∨ later.deadline ≤ last.world.now ∨
        (last.world.node.acknowledgement? later.id).isSome = true) :
    call.InTime begun last asked place target := by
  obtain ⟨-, -, -, reads⟩ := asks
  have received := responds.receive reads before.world.node .first before.world.now
  exact .there other began leads pending responds (.respond target ⟨remote.id, call.replies target⟩)
    received.symm rfl rest heard

theorem targets_of_kept {name : MemberId} {first : List (MemberId × Branch)} {group : CallGroup}
    (kept : group.Kept config name first) :
    group.branches.map Prod.fst = first.map Prod.fst := by
  apply List.ext_getElem (by simp [kept.placed])
  intro place here there
  rw [List.length_map] at here there
  rw [List.getElem_map, List.getElem_map]
  exact (kept.follows place _ _ (List.getElem?_eq_getElem there) (List.getElem?_eq_getElem here)).1

theorem settledOutcomes_settled (outcomes : List (MemberId × CallResult)) :
    settledOutcomes (outcomes.map fun outcome => (outcome.1, .settled outcome.2)) =
      some outcomes := by
  induction outcomes with
  | nil => rfl
  | cons outcome rest ih =>
    rw [List.map_cons, settledOutcomes, ih]
    rfl

theorem asks_of_kept {begun : CallGroup} {added : List (MemberId × Branch)}
    (begins : call.node.BeginsAll call.clock call.request call.limit begun.world.node targets added)
    (kept : begun.Kept config call.node.id added) (place : Nat) :
    ∃ asked, ∀ target remote, begun.branches[place]? = some (target, .remotely remote) →
      call.Asks begun target remote asked := by
  by_cases remotely : ∃ target remote, begun.branches[place]? = some (target, .remotely remote)
  · obtain ⟨target, remote, there⟩ := remotely
    obtain ⟨⟨_, one⟩, here, rfl, follows⟩ := kept.find there
    have asked : targets[place]? = some target := by
      rw [← begins.targets, List.getElem?_map, here]
      rfl
    obtain ⟨_, found, starts⟩ := begins.at_place asked
    obtain rfl : one = _ := congrArg Prod.snd (Option.some.inj (here.symm.trans found))
    obtain ⟨origin, stage, same, branched, -, -⟩ := follows.waits rfl
    obtain rfl := Branch.remotely.inj branched
    obtain rfl : one = .remotely origin := same
    cases starts with
    | @there _ _ alive id asked queued reads =>
      refine ⟨asked, ?_⟩
      intro name other again
      obtain ⟨rfl, rest⟩ := Prod.mk.inj (Option.some.inj (there.symm.trans again))
      obtain rfl := Branch.remotely.inj rest
      exact ⟨_, alive, queued, reads⟩
  · exact ⟨[], fun target remote there => absurd ⟨target, remote, there⟩ remotely⟩

theorem Able.yields (able : call.Able config)
    (room : call.world.begun + targets.length ≤ UInt64.size) :
    call.Yields config targets (targets.map fun target => (target, call.outcome target)) := by
  obtain ⟨added, issued, begins, grows⟩ :=
    able.kept.beginBranches able.stands able.reading room
  let begun : CallGroup := ⟨issued, (Node.beginBranches call.clock call.request call.limit targets
    call.world.node).2⟩
  have kept : begun.Kept config call.node.id added := grows.kept
  have node : begun.world.node = (Node.beginBranches call.clock call.request call.limit targets
    call.world.node).1 := grows.node
  rw [← node] at begins
  choose asked asks using asks_of_kept begins kept
  refine ⟨begun, asked, ?_, kept.reached, grows.now, asks, ?_⟩
  · have runs : call.node.whenRunning () = .ok () := if_pos able.running
    rw [Node.beginCall, runs, node]
    rfl
  intro last leads going polled
  have keptLast := kept.leads leads
  have given : polled.2 = last.branches.map fun branch =>
      (branch.1, (last.world.node.pollBranch last.world.now branch.2).2) :=
    last.world.node.pollBranches_eq_map last.world.now keptLast.apart
  have named : polled.2.map Prod.fst = targets := by
    rw [given, List.map_map, ← begins.targets, ← targets_of_kept keptLast]
    rfl
  have pointwise : ∀ place outcome,
      (targets.map fun target => (target, call.outcome target))[place]? = some outcome →
      call.InTime begun last asked place outcome.1 →
        polled.2[place]? = some (outcome.1, .settled outcome.2) := by
    intro place outcome found inTime
    rw [List.getElem?_map, Option.map_eq_some_iff] at found
    obtain ⟨target, wanted, rfl⟩ := found
    obtain ⟨one, here, starts⟩ := begins.at_place wanted
    obtain ⟨inside, -⟩ := List.getElem?_eq_some_iff.mp here
    have within : place < last.branches.length := keptLast.placed.symm ▸ inside
    have there := List.getElem?_eq_getElem within
    obtain ⟨same, -⟩ := keptLast.follows place _ _ here there
    have placed : last.branches[place]? = some (target, last.branches[place].2) :=
      there.trans (congrArg some (Prod.ext same rfl))
    have settled := inTime.settles (asks place target) kept leads here starts placed
    rw [given, List.getElem?_map, there, Option.map_some]
    exact congrArg some (Prod.ext same settled)
  have whole : (⟨last.world, [] ++ last.branches⟩ : CallGroup).Kept config call.node.id added :=
    keptLast
  obtain ⟨after, polling, -, node⟩ := whole.leads_pollBranches going
  refine ⟨⟨after, node, polling⟩, named, pointwise, fun inTime => ?_⟩
  have all : polled.2 = (targets.map fun target => (target, call.outcome target)).map fun outcome =>
      (outcome.1, .settled outcome.2) := by
    have long : polled.2.length = targets.length := by rw [← named, List.length_map]
    apply List.ext_getElem (by simp [long])
    intro place here there
    have inside : place < (targets.map fun target => (target, call.outcome target)).length := by
      simpa using there
    have found := List.getElem?_eq_getElem inside
    have settled := pointwise place _ found (inTime place _ found)
    rw [List.getElem?_eq_getElem here] at settled
    rw [List.getElem_map]
    exact Option.some.inj settled
  rw [all, settledOutcomes_settled]

/--
A call to several members has one outcome for each target, in order, which is the outcome of the
call to that target alone: in whatever order the calls are resolved, and whatever comes of the
others. A typed call is the same call, with every reply decoded by itself.
-/
theorem fan_out_is_pointwise (able : call.Able config)
    (room : call.world.begun + targets.length ≤ UInt64.size) :
    call.Yields config targets (targets.map fun target => (target, call.outcome target)) ∧
    (∀ target ∈ targets, call.Yields config [target] [(target, call.outcome target)]) ∧
    ∀ (message : Payload) (reply : PayloadType),
      Arguments.empty.push message = .ok call.request.arguments →
      (∀ members, call.node.beginTypedCall call.clock members call.request.targetType
          call.request.method message call.timeout =
        call.node.beginCall call.clock members call.request call.timeout) ∧
      let decoded := FanOut.decode reply ⟨targets.map fun target => (target, call.outcome target)⟩
      decoded.outcomes =
        targets.map (fun target => (target, decodeReply reply (call.outcome target))) ∧
      ∀ (place : Nat) (target : MemberId) (bytes : Bytes) (status : Status),
        targets[place]? = some target → call.outcome target = .ok bytes →
          reply.decode bytes = .error status →
            decoded.outcomes[place]? = some (target, .error (.serialization status.message)) := by
  refine ⟨able.yields room, fun target among => ?_, fun message reply archived => ⟨?_, ?_, ?_⟩⟩
  · have present : 0 < targets.length := List.length_pos_of_mem among
    have alone : call.world.begun + [target].length ≤ UInt64.size := by
      rw [List.length_singleton]
      omega
    exact able.yields alone
  · intro members
    rw [Node.beginTypedCall, archived]
  · rw [FanOut.decode, List.map_map]
    rfl
  · intro place target bytes status found replied garbled
    have unread : decodeReply reply (call.outcome target) =
        .error (.serialization status.message) := by
      rw [replied, decodeReply, garbled]
    dsimp only [FanOut.decode]
    rw [List.getElem?_map, List.getElem?_map, found, ← unread]
    rfl

theorem exists_remote {branches : List (MemberId × Branch)} {target : MemberId} {id : CallId}
    {due : Instant} {calls : List (MemberId × Option CallId × Option Instant)}
    (shows : branches.map (fun branch => (branch.1, branch.2.callId?, branch.2.wake)) = calls)
    (place : Nat) (listed : calls[place]? = some (target, some id, some due)) :
    ∃ remote, branches[place]? = some (target, .remotely remote) ∧ remote.id = id ∧
      remote.deadline = due := by
  rw [← shows, List.getElem?_map, Option.map_eq_some_iff] at listed
  obtain ⟨⟨target, branch⟩, found, same⟩ := listed
  cases branch with
  | remotely remote => simp_all [Branch.callId?, Branch.wake]
  | settled | locally | broken => simp [Branch.callId?] at same

/-- Of two calls to one member the later is resolved first, and no reply is taken for another. -/
theorem replies_come_in_any_order :
    let other : Member := .new ⟨"b"⟩ "" .unspecified
    let config : Config := .new "cluster" ⟨"a"⟩ .unspecified .unspecified []
    let node : Node := { Node.new config with
      lifecycle := .running
      roster := ((Roster.new config.id).join 0 other).1
      dispatchers := ⟨[("sizes", fun _ _ _ => .immediate (.ok []))]⟩ }
    let call : MultiCall := ⟨{ CallWorld.start config with node := node }, ⟨0, 0⟩,
      ⟨"sizes", "size", ⟨["u8"], [[5]], rfl⟩⟩, some 9,
      fun member => .ok (if member = config.id then [] else [7])⟩
    let outcomes : List (MemberId × CallResult) :=
      [(other.id, .ok [7]), (config.id, .ok []), (⟨"c"⟩, .error (.notMember ⟨"c"⟩)),
        (other.id, .ok [7])]
    ∃ begun last : CallGroup,
      call.node.beginTypedCall call.clock (outcomes.map Prod.fst) "sizes" "size"
        ⟨.u8, (5 : UInt8)⟩ call.timeout = .ok (begun.world.node, begun.branches) ∧
      begun.Leads last ∧
      settledOutcomes (Node.pollBranches last.world.now last.branches last.world.node).2 =
        some outcomes ∧
      (FanOut.decode .u8 ⟨outcomes⟩).outcomes =
        [(other.id, .ok (7 : UInt8)),
          (config.id, .error (.serialization "Payload is not a valid archived u8")),
          (⟨"c"⟩, .error (.notMember ⟨"c"⟩)), (other.id, .ok (7 : UInt8))] := by
  intro other config node call outcomes
  let targets : List MemberId := outcomes.map Prod.fst
  have able : call.Able config :=
    ⟨.next .start (.elsewhere node ⟨rfl, rfl, rfl⟩), rfl, rfl, rfl, rfl⟩
  have room : call.world.begun + targets.length ≤ UInt64.size := by decide
  obtain ⟨yields, -, typed⟩ := fan_out_is_pointwise able room
  obtain ⟨begun, asked, begins, -, started, asks, given⟩ := yields
  obtain ⟨same, decoded, -⟩ := typed ⟨.u8, (5 : UInt8)⟩ .u8 rfl
  have each : targets.map (fun target => (target, call.outcome target)) = outcomes := rfl
  let issued := Node.beginBranches call.clock call.request 9 targets node
  have began : issued = (begun.world.node, begun.branches) := Except.ok.inj begins
  -- What is written into the frames is for the kernel to compute.
  have calls : issued.2.map (fun branch => (branch.1, branch.2.callId?, branch.2.wake)) =
      [(other.id, some 0, some 9), (config.id, none, none), (⟨"c"⟩, none, none),
        (other.id, some 1, some 9)] := by
    decide +kernel
  have pending : issued.1.pending.ids = [1, 0] ∧
      (issued.1.onResponse other.id ⟨1, .ok [7]⟩).pending.ids = [0] := by
    decide +kernel
  have going : ((issued.1.onResponse other.id ⟨1, .ok [7]⟩).onResponse other.id
      ⟨0, .ok [7]⟩).stopRequested = false := by
    decide +kernel
  rw [began] at calls pending going
  obtain ⟨remote, there, own, due⟩ := exists_remote calls 0 rfl
  obtain ⟨second, behind, owns, dues⟩ := exists_remote calls 3 rfl
  have answers {place : Nat} {remote : RemoteCall}
      (there : begun.branches[place]? = some (other.id, .remotely remote))
      (fits : PayloadType.response.Fits ⟨remote.id, .ok [7]⟩) :
      ∃ answer, Node.Responds other.id node.id call.request (.ok [7]) (asked place) answer := by
    obtain ⟨-, -, -, reads⟩ := asks place other.id remote there
    exact Node.exists_responds_at_once reads ⟨2, 2⟩ rfl (by decide) fits
  have fits : PayloadType.response.Fits ⟨0, .ok [7]⟩ ∧ PayloadType.response.Fits ⟨1, .ok [7]⟩ := by
    unfold PayloadType.Fits
    decide +kernel
  obtain ⟨answer, responds⟩ := answers there (own ▸ fits.1)
  obtain ⟨reply, replies⟩ := answers behind (owns ▸ fits.2)
  -- The response to the second call comes first, then the one to the first, and then time passes.
  let one : CallWorld := begun.world.turn (begun.world.node.onResponse other.id ⟨1, .ok [7]⟩)
    (.response other.id (.ok [7]))
  let two : CallWorld := one.turn (one.node.onResponse other.id ⟨0, .ok [7]⟩)
    (.response other.id (.ok [7]))
  let last : CallGroup := ⟨{ two with now := 9 }, begun.branches⟩
  have toOne : begun.Step ⟨one, begun.branches⟩ := begun.step_respond other.id ⟨1, .ok [7]⟩
  have toTwo : CallGroup.Step ⟨one, begun.branches⟩ ⟨two, begun.branches⟩ :=
    CallGroup.step_respond ⟨one, begun.branches⟩ other.id ⟨0, .ok [7]⟩
  have before : two.now ≤ 9 := by
    change begun.world.now ≤ 9
    rw [started]
    exact Nat.zero_le 9
  have toLast : CallGroup.Step ⟨two, begun.branches⟩ last :=
    .elsewhere (.elapse 9 before) rfl fun _ _ => rfl
  have leads : begun.Leads last := .head toOne (.head toTwo (.single toLast))
  obtain ⟨-, -, -, settles⟩ := given last leads going
  refine ⟨begun, last, (same _).trans begins, leads, settles ?_, decoded⟩
  rw [each]
  have early : call.InTime begun last asked 0 other.id := by
    have waits : remote.id ∈ one.node.pending.ids := by
      rw [own]
      exact pending.2 ▸ List.mem_singleton_self 0
    refine .answered (by decide) (asks 0 other.id remote there) there (.single toOne) waits responds
      (own ▸ .single toLast) ?_
    intro later found
    obtain rfl : remote = later := by simpa [last, there] using found
    exact .inr (.inl (Nat.le_of_eq due))
  have late : call.InTime begun last asked 3 other.id := by
    have waits : second.id ∈ begun.world.node.pending.ids := by
      rw [owns, pending.1]
      exact List.mem_cons_self
    refine .answered (by decide) (asks 3 other.id second behind) behind .refl waits replies
      (owns ▸ .head toTwo (.single toLast)) ?_
    intro later found
    obtain rfl : second = later := by simpa [last, behind] using found
    exact .inr (.inl (Nat.le_of_eq dues))
  intro place outcome found
  rcases place with _ | _ | _ | _ | place
  · obtain rfl := Option.some.inj found
    exact early
  · obtain rfl := Option.some.inj found
    exact .here rfl rfl (Nat.zero_le 9) (Nat.zero_le 9)
  · obtain rfl := Option.some.inj found
    exact .away (by decide) rfl
  · obtain rfl := Option.some.inj found
    exact late
  · simp [outcomes] at found

end

end MultiCall

end ClusterCoordination
