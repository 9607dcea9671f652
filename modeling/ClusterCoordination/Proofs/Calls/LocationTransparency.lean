import ClusterCoordination.Node.Serving
import ClusterCoordination.Proofs.Calls.Resolution
import ClusterCoordination.Proofs.Wire.Frames
/-!
# Remote calls and local ones

A call to another member travels in two datagrams and through the tables of two nodes. What comes
back is what the dispatcher would have given to a caller on the spot.
-/

set_option autoImplicit false

namespace ClusterCoordination

theorem Arguments.ofParts_parts (arguments : Arguments) :
    ofParts arguments.tags arguments.payloads = .ok arguments := dif_pos arguments.aligned

namespace Node

def HasQueued (node : Node) (address : SocketAddress) (outgoing : Outgoing) : Prop :=
  ∃ drain ∈ node.outbox.drains, drain.accepting = true ∧ drain.address = address ∧
    drain.backlog.getLast? = some outgoing

theorem push_hasQueued {node : Node} (sending : node.outbox.closed = false)
    (address : SocketAddress) (outgoing : Outgoing) :
    (node.push address outgoing).HasQueued address outgoing := by
  unfold push Outbox.push
  rw [if_neg (by simp [sending])]
  cases queue : node.outbox.queue? address with
  | some drain =>
    have matching := List.find?_some queue
    simp only [Bool.and_eq_true, decide_eq_true_eq] at matching
    have longer : { drain with backlog := drain.backlog ++ [outgoing] } ∈
        (node.outbox.modify drain.id fun drain =>
          { drain with backlog := drain.backlog ++ [outgoing] }).drains :=
      List.mem_map.mpr ⟨drain, List.mem_of_find?_eq_some queue, if_pos rfl⟩
    simp only
    split <;> exact ⟨_, longer, matching.1, matching.2, by simp⟩
  | none =>
    have fresh : (⟨node.outbox.nextDrain, address, true, [outgoing], none⟩ : Drain) ∈
        node.outbox.drains ++ [⟨node.outbox.nextDrain, address, true, [outgoing], none⟩] := by
      simp
    exact ⟨_, fresh, rfl, rfl, rfl⟩

structure Serves (node : Node) (name : MemberId) (served : ServedRequest) : Prop where
  id : node.id = name
  listed : (node.served.find? fun request => request.id = served.id) = some served
  going : node.stopRequested = false
  sending : node.outbox.closed = false

/--
The work on a request ends: at once, or after the node has gone on to do other things and kept the
request as it was left.
-/
inductive Finishes (start : Node) (clock : Clock) (served : ServedRequest) (due : Instant) :
    Node → Prop where
  | atOnce (done : due ≤ clock.now) : Finishes start clock served due (start.serve clock served.id)
  | later {node : Node} {kept : ServedRequest} {later : Clock}
      (left : ((start.serve clock served.id).served.find? fun request => request.id = served.id) =
        some kept)
      (serves : node.Serves start.id kept) (done : due ≤ later.now) :
      Finishes start clock served due (node.serve later served.id)

inductive Ends (start : Node) (clock : Clock) (served : ServedRequest) (due : Instant) :
    Node → Clock → Prop where
  | atOnce (done : due ≤ clock.now) : Ends start clock served due start clock
  | later {node : Node} {kept : ServedRequest} {later : Clock}
      (left : ((start.serve clock served.id).served.find? fun request => request.id = served.id) =
        some kept)
      (serves : node.Serves start.id kept) (done : due ≤ later.now) :
      Ends start clock served due node later

theorem answer_queues {node : Node} (named : (textBytes node.id.text).length ≤ 65535)
    (sending : node.outbox.closed = false) (served : ServedRequest) {outcome : Except Status Bytes}
    (fits : PayloadType.response.Fits ⟨served.request.correlation, outcome⟩) :
    ∃ data, (node.answer served outcome).HasQueued served.request.replyAddress ⟨data, none⟩ ∧
      ∀ (receiver : Node) (choice : PeerChoice) (now : Instant),
        receiver.receive choice now data =
          receiver.onResponse node.id ⟨served.request.correlation, outcome⟩ := by
  let counted := (node.forgetRequest served.id).countServed
  have countedNamed : (textBytes counted.id.text).length ≤ 65535 := named
  obtain ⟨data, framed, received⟩ := receive_response countedNamed fits
  refine ⟨data, ?_, received⟩
  have answered : node.answer served outcome =
      counted.enqueue served.request.replyAddress data := by
    simp only [answer, counted] at framed ⊢
    rw [framed]
  have countedSending : counted.outbox.closed = false := sending
  rw [answered]
  exact push_hasQueued countedSending _ _

theorem work_done {node : Node} {now due : Instant} (done : due ≤ now) (served : ServedRequest)
    (deadline : Instant) (outcome : Except Status Bytes) :
    node.work now served due deadline (.returned outcome) = node.answer served outcome := by
  rw [work, if_pos done]

theorem answered_forgotten (node : Node) (served : ServedRequest) (outcome : Except Status Bytes) :
    ((node.answer served outcome).served.find? fun request => request.id = served.id) = none := by
  have forgotten : (node.answer served outcome).served =
      node.served.filter fun request => request.id ≠ served.id := by
    unfold answer
    simp only
    split
    · simp [enqueue, countServed, forgetRequest]
    · rfl
  rw [forgotten, List.find?_eq_none]
  intro request present
  simpa using (List.mem_filter.mp present).2

theorem work_begun {node : Node} {now due deadline : Instant} {served : ServedRequest}
    (listed : (node.served.find? fun request => request.id = served.id) = some served)
    (unfinished : ¬ due ≤ now) (early : now < deadline) (ending : Ending) :
    ((node.work now served due deadline ending).served.find? fun request => request.id =
      served.id) =
      some { served with stage := .working due deadline ending } := by
  unfold work
  rw [if_neg unfinished, if_neg (Nat.not_le.mpr early), List.find?_map]
  have sameIds : ((fun request : ServedRequest => decide (request.id = served.id)) ∘ fun request =>
      if request.id = served.id then { request with stage := .working due deadline ending }
      else request) = fun request => decide (request.id = served.id) := by
    funext request
    by_cases hit : request.id = served.id <;> simp [hit]
  rw [sameIds, listed]
  simp

section

variable {start : Node} {clock : Clock} {noted : ServedRequest} {name : MemberId}
  {arguments : Arguments} {delay : Duration} {outcome : Except Status Bytes}

theorem serve_arrived (serves : start.Serves name noted) (arrived : noted.stage = .arrived)
    (timely : (clock.localDeadline? noted.request.deadline).isSome = true)
    (tags : noted.request.argumentTypes = arguments.tags)
    (payloads : noted.request.arguments = arguments.payloads)
    (invoked : start.dispatchers.invoke noted.caller noted.request.targetType noted.request.method
      arguments = ⟨delay, .returned outcome⟩) :
    ∃ deadline, clock.now < deadline ∧ start.serve clock noted.id =
      start.work clock.now noted (clock.now + delay) deadline (.returned outcome) := by
  obtain ⟨deadline, found⟩ := Option.isSome_iff_exists.mp timely
  refine ⟨deadline, ?_, ?_⟩
  · unfold Clock.localDeadline? at found
    simp only at found
    split at found
    next ahead =>
      obtain rfl := Option.some.inj found
      exact Nat.lt_add_of_pos_right (Nat.sub_pos_of_lt ahead)
    · simp at found
  · simp [serve, serves.listed, serves.going, arrived, beginServing, found, tags, payloads,
      Arguments.ofParts_parts, invoked]

theorem answer_of_ends (serves : start.Serves name noted) {deadline : Instant}
    (early : clock.now < deadline)
    (worked : start.serve clock noted.id =
      start.work clock.now noted (clock.now + delay) deadline (.returned outcome))
    {last : Node} {later : Clock} (ends : Ends start clock noted (clock.now + delay) last later) :
    ∃ entry : ServedRequest, last.serve later noted.id = last.answer entry outcome ∧
      entry.request = noted.request ∧ last.id = name ∧ last.outbox.closed = false := by
  cases ends with
  | atOnce done => exact ⟨noted, by rw [worked, work_done done], rfl, serves.id, serves.sending⟩
  | @later node kept later left keeps done =>
    rw [worked] at left
    -- Work that has no delay is done at once, and leaves no request behind.
    by_cases quick : clock.now + delay ≤ clock.now
    · rw [work_done quick, answered_forgotten] at left
      simp at left
    · rw [work_begun serves.listed quick early] at left
      obtain rfl := Option.some.inj left
      have listed := keeps.listed
      have answered : last.serve later noted.id =
          last.answer
            { noted with stage := .working (clock.now + delay) deadline (.returned outcome) }
            outcome := by
        unfold serve
        simp only at listed
        rw [listed]
        simp only [keeps.going]
        exact work_done done _ deadline outcome
      exact ⟨_, answered, rfl, keeps.id.trans serves.id, keeps.sending⟩

theorem answer_of_finishes (serves : start.Serves name noted) {deadline : Instant}
    (early : clock.now < deadline)
    (worked : start.serve clock noted.id =
      start.work clock.now noted (clock.now + delay) deadline (.returned outcome))
    {ended : Node} (finishes : Finishes start clock noted (clock.now + delay) ended) :
    ∃ (last : Node) (entry : ServedRequest), ended = last.answer entry outcome ∧
      entry.request = noted.request ∧ last.id = name ∧ last.outbox.closed = false := by
  cases finishes with
  | atOnce done => exact ⟨start, answer_of_ends serves early worked (.atOnce done)⟩
  | @later node kept later left keeps done =>
    exact ⟨node, answer_of_ends serves early worked (.later left keeps done)⟩

end

theorem delivery?_onResponse {node : Node} {id : CallId} (pending : id ∈ node.pending.ids)
    (nothing : node.delivery? id = none) (sender : MemberId) (outcome : Except Status Bytes) :
    (node.onResponse sender ⟨id, outcome⟩).delivery? id = some ⟨id, .ofOutcome outcome sender⟩ := by
  have found := PendingCalls.find?_isSome_iff.mpr pending
  unfold delivery? at nothing
  simp [onResponse, PendingCalls.complete, PendingCalls.take, found, delivery?, deliver,
    List.find?_append, nothing]

theorem not_pending_onResponse {node : Node} (sender : MemberId) (response : Response) :
    response.correlation ∉ (node.onResponse sender response).pending.ids := by
  rw [PendingCalls.ids, (node.onResponse_resolves sender response).calls]
  simp

theorem pollBranch_of_settled {node : Node} {now : Instant} {call : RemoteCall}
    {result : CallResult} (polled : (node.pollRemote now call).2 = .settled result) :
    (node.pollBranch now (.remotely call)).2 = .settled result := by
  simp only [pollBranch, unlessStopped, polled]
  split <;> rfl

/-- A call in the name of a member returns a result from the node itself, once the work is done. -/
def ReturnsLocally (node : Node) (clock : Clock) (name : MemberId) (request : CallRequest)
    (timeout delay : Duration) (result : CallResult) : Prop :=
  let branch := node.localBranch clock name request timeout
  ∀ now, node.pollBranch now branch =
    (node, if clock.now + delay ≤ now then .settled result else branch)

theorem returnsLocally {node : Node} {clock : Clock} {name : MemberId} {request : CallRequest}
    {timeout delay : Duration} {outcome : Except Status Bytes} (going : node.stopRequested = false)
    (invoked : node.dispatchers.invoke name request.targetType request.method request.arguments =
      ⟨delay, .returned outcome⟩) (timely : delay ≤ timeout) :
    node.ReturnsLocally clock name request timeout delay (.ofOutcome outcome node.id) := by
  intro now
  have shape : node.localBranch clock name request timeout =
      .locally (clock.now + delay) (clock.now + timeout) (.returned outcome) := by
    simp only [localBranch, invoked]
  rw [shape]
  by_cases done : clock.now + delay ≤ now
  · simp only [pollBranch, if_pos done]
  · have early : ¬ clock.now + timeout ≤ now :=
      fun late => done (Nat.le_trans (Nat.add_le_add_left timely _) late)
    simp [pollBranch, if_neg done, early, unlessStopped, going]

theorem beginCall_queues {caller : Node} {clock : Clock} {target : Member} {request : CallRequest}
    {timeout : Duration} (running : caller.lifecycle = .running)
    (sending : caller.outbox.closed = false) (remote : target.id ≠ caller.id)
    (alive : caller.aliveMember target.id = .ok target)
    (named : (textBytes caller.id.text).length ≤ 65535)
    (fits : PayloadType.request.Fits
      (caller.requestFrame clock caller.pending.nextId request timeout)) :
    let call : RemoteCall := ⟨caller.pending.nextId, target.id, clock.now + timeout, .sending⟩
    ∃ (issued : Node) (asked : Bytes), caller.beginCall clock [target.id] request (some timeout) =
        .ok ((issued.pollBranch clock.now (.remotely call)).1,
          [(target.id, (issued.pollBranch clock.now (.remotely call)).2)]) ∧
      issued.HasQueued target.address ⟨asked, some (.call call.id)⟩ ∧
      ∀ (receiver : Node) (choice : PeerChoice) (now : Instant),
        receiver.receive choice now asked = receiver.onRequest caller.id
          (caller.requestFrame clock caller.pending.nextId request timeout) := by
  intro call
  let registered := (caller.registerCall target.id (clock.now + timeout)).1
  have registeredNamed : (textBytes registered.id.text).length ≤ 65535 := named
  obtain ⟨asked, framed, received⟩ := receive_request registeredNamed fits
  let issued := registered.countIssued.push target.address ⟨asked, some (.call call.id)⟩
  have begins : caller.beginRemote clock target request timeout = (issued, .remotely call) := by
    have entered : caller.registerCall target.id (clock.now + timeout) = (registered, call) := rfl
    have sameId : caller.pending.nextId = call.id := rfl
    rw [sameId] at framed
    rw [beginRemote, entered]
    simp only [framed]
    rfl
  refine ⟨issued, asked, ?_, ?_, received⟩
  · simp [beginCall, whenRunning, running, beginBranches, beginBranch, remote, alive, begins]
  · have stillSending : registered.countIssued.outbox.closed = false := sending
    exact push_hasQueued stillSending _ _

structure Keeps (look received : Node) (id : CallId) : Prop where
  delivery : look.delivery? id = received.delivery? id
  pending : id ∈ look.pending.ids → id ∈ received.pending.ids

/--
A call to another member, whose request and response are delivered and whose work ends in time,
returns what the dispatchers of that member return to a call on the spot in the name of the caller.
-/
theorem remote_call_returns_local_result {caller : Node} {clock : Clock} {target : Member}
    {request : CallRequest} {timeout : Duration} {table : DispatchTable} {delay : Duration}
    {outcome : Except Status Bytes} (running : caller.lifecycle = .running)
    (sending : caller.outbox.closed = false) (remote : target.id ≠ caller.id)
    (alive : caller.aliveMember target.id = .ok target)
    (callerNamed : (textBytes caller.id.text).length ≤ 65535)
    (targetNamed : (textBytes target.id.text).length ≤ 65535)
    (invoked : table.invoke caller.id request.targetType request.method request.arguments =
      ⟨delay, .returned outcome⟩) (timely : delay ≤ timeout)
    (requestFits : PayloadType.request.Fits
      (caller.requestFrame clock caller.pending.nextId request timeout))
    (responseFits : PayloadType.response.Fits ⟨caller.pending.nextId, outcome⟩) :
    let call : RemoteCall := ⟨caller.pending.nextId, target.id, clock.now + timeout, .sending⟩
    let result : CallResult := .ofOutcome outcome target.id
    -- The call begins, and its request is queued for the target.
    ∃ (issued : Node) (asked : Bytes), caller.beginCall clock [target.id] request (some timeout) =
        .ok ((issued.pollBranch clock.now (.remotely call)).1,
          [(target.id, (issued.pollBranch clock.now (.remotely call)).2)]) ∧
      issued.HasQueued target.address ⟨asked, some (.call call.id)⟩ ∧
    -- The request is delivered, and noted by the node it reaches.
    ∀ (arrival : Node) (choice : PeerChoice) (arrivedAt : Instant),
      let noted : ServedRequest := ⟨arrival.nextRequest, caller.id,
        caller.requestFrame clock call.id request timeout, .arrived⟩
      (arrival.receive choice arrivedAt asked).served = arrival.served ++ [noted] ∧
    -- The target serves it, and the work ends.
    ∀ (start : Node) (begun : Clock), start.Serves target.id noted → start.dispatchers = table →
      (begun.localDeadline? (clock.wireDeadline timeout)).isSome = true →
    ∀ ended, Finishes start begun noted (begun.now + delay) ended →
      ∃ answer, ended.HasQueued caller.config.publicAddress ⟨answer, none⟩ ∧
    -- The response is delivered while the call is pending, and the caller looks at any time after
    -- that.
    ∀ (back : Node) (backChoice : PeerChoice) (backAt : Instant),
      call.id ∈ back.pending.ids → back.delivery? call.id = none →
    ∀ (look : Node) (now : Instant) (stage : CallStage),
      look.Keeps (back.receive backChoice backAt answer) call.id →
      (stage = .waiting ∨ call.deadline ≤ now ∨ (look.acknowledgement? call.id).isSome) →
      (look.pollBranch now (.remotely { call with stage := stage })).2 = .settled result ∧
        start.ReturnsLocally begun caller.id request timeout delay result := by
  intro call result
  obtain ⟨issued, asked, begins, queued, requested⟩ :=
    beginCall_queues running sending remote alive callerNamed requestFits
  refine ⟨issued, asked, begins, queued, ?_⟩
  intro arrival choice arrivedAt noted
  rw [requested]
  refine ⟨rfl, ?_⟩
  intro start begun serves dispatchers inTime ended finishes
  subst dispatchers
  obtain ⟨deadline, early, worked⟩ := serve_arrived serves rfl inTime rfl rfl invoked
  obtain ⟨last, entry, rfl, sameRequest, lastId, lastSending⟩ :=
    answer_of_finishes serves early worked finishes
  have lastNamed : (textBytes last.id.text).length ≤ 65535 := by
    rw [lastId]
    exact targetNamed
  have answerFits : PayloadType.response.Fits ⟨entry.request.correlation, outcome⟩ := by
    rw [sameRequest]
    exact responseFits
  obtain ⟨answer, answered, responded⟩ := answer_queues lastNamed lastSending entry answerFits
  rw [sameRequest] at answered responded
  refine ⟨answer, answered, ?_⟩
  intro back backChoice backAt pending nothing look now stage kept ready
  rw [responded, lastId] at kept
  -- The response has put the outcome where the caller looks, and taken the call out of the table.
  have brought : look.delivery? call.id = some ⟨call.id, result⟩ :=
    kept.delivery.trans (delivery?_onResponse pending nothing target.id outcome)
  have gone : call.id ∉ look.pending.ids :=
    fun still => not_pending_onResponse target.id ⟨call.id, outcome⟩ (kept.pending still)
  constructor
  · exact pollBranch_of_settled (pollRemote_of_delivery brought gone ready)
  · have inPlace : start.ReturnsLocally begun caller.id request timeout delay
        (.ofOutcome outcome start.id) :=
      returnsLocally serves.going invoked timely
    rwa [serves.id] at inPlace

/-- Whoever asks is told its own name, which no frame carries but the datagram does. -/
theorem remote_caller_is_told_its_name :
    let target : Member := .new ⟨"b"⟩ "" .unspecified
    let config : Config := .new "cluster" ⟨"a"⟩ .unspecified .unspecified []
    let caller : Node := { Node.new config with
      lifecycle := .running
      roster := ((Roster.new config.id).join 0 target).1 }
    ∃ (ended : Node) (answer : Bytes), ended.HasQueued config.publicAddress ⟨answer, none⟩ ∧
      (((caller.registerCall target.id 9).1.receive .first 4 answer).pollBranch 5
        (.remotely ⟨0, target.id, 9, .waiting⟩)).2 = .settled (.ok (textBytes "a")) := by
  intro target config caller
  let whoami : Dispatcher := fun asking _ _ => .immediate (.ok (textBytes asking.text))
  let table : DispatchTable := ⟨[("names", whoami)]⟩
  let request : CallRequest := ⟨"names", "whoami", .empty⟩
  have alive : caller.aliveMember target.id = .ok target := rfl
  have invoked : table.invoke caller.id request.targetType request.method request.arguments =
      ⟨0, .returned (.ok (textBytes "a"))⟩ := rfl
  have requestFits : PayloadType.request.Fits (caller.requestFrame ⟨0, 0⟩ 0 request 9) := by
    unfold PayloadType.Fits
    decide +kernel
  have responseFits : PayloadType.response.Fits ⟨0, .ok (textBytes "a")⟩ := by
    unfold PayloadType.Fits
    decide +kernel
  obtain ⟨issued, asked, -, -, delivered⟩ := remote_call_returns_local_result rfl rfl (by decide)
    alive (by decide) (by decide) invoked (Nat.zero_le 9) requestFits responseFits
  let server : Node := Node.new (.new "cluster" target.id .unspecified .unspecified [])
  let noted : ServedRequest := ⟨0, caller.id, caller.requestFrame ⟨0, 0⟩ 0 request 9, .arrived⟩
  let start : Node := { server with dispatchers := table, served := [noted] }
  have serves : start.Serves target.id noted := ⟨rfl, rfl, rfl, rfl⟩
  obtain ⟨answer, answered, returned⟩ := (delivered server .first 2).2 start ⟨2, 2⟩ serves rfl rfl _
    (.atOnce (Nat.le_refl 2))
  let back : Node := (caller.registerCall target.id 9).1
  have result := returned back .first 4 (List.mem_singleton.mpr rfl) rfl
    (back.receive .first 4 answer) 5 .waiting ⟨rfl, fun still => still⟩ (.inl rfl)
  exact ⟨_, answer, answered, result.1⟩

end Node

end ClusterCoordination
