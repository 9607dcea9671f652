import Mathlib.Algebra.Ring.Nat
import ClusterCoordination.Proofs.Lifecycle.Bypassing
import ClusterCoordination.Proofs.Lifecycle.Following
import ClusterCoordination.Proofs.Lifecycle.Stages
/-!
# Serving requests

Between two visits to a request nothing happens to it, whatever else the node does meanwhile. So a
request asks its dispatcher once at most and is answered once at most, and as many requests are
counted as served as outcomes have been found.
-/

set_option autoImplicit false

namespace ClusterCoordination

/-! ### Arriving -/

namespace Node

def NumbersAnew (node : Node) : Prop := ∀ id, node.nextRequest ≤ id → node.request? id = none

theorem request?_onRequest (node : Node) (sender : MemberId) (request : Request) (id : RequestId) :
    (node.onRequest sender request).request? id =
      (node.request? id).or
        (if node.nextRequest = id then some ⟨node.nextRequest, sender, request, .arrived⟩
          else none) := by
  have appended : (node.onRequest sender request).served =
      node.served ++ [⟨node.nextRequest, sender, request, .arrived⟩] := rfl
  rw [request?, appended, List.find?_append]
  by_cases own : node.nextRequest = id <;> simp [request?, own]

end Node

namespace Host

variable {host : Host} {id : RequestId}

/-! ### What a step does to requests -/

def visit? (host : Host) : Event → Option (RequestId × Visit)
  | .serve clock request workFirst =>
    if host.isUp then some (request, ⟨host.node, clock, workFirst⟩) else none
  | _ => none

def visits (host : Host) : List Event → List (RequestId × Visit)
  | [] => []
  | event :: rest => (host.visit? event).toList ++ (host.step event).1.visits rest

def visitsTo (host : Host) (id : RequestId) (events : List Event) : List Visit :=
  (host.visits events).filterMap fun (request, visit) => if request = id then some visit else none

inductive Attends (host : Host) (event : Event) (after : Host) : Prop where
  | visits {request : RequestId} {visit : Visit}
      (visited : host.visit? event = some (request, visit))
      (found : visit.node = host.node) (left : after.node = visit.after request)
  | arrives {sender : MemberId} {request : Request} (unvisited : host.visit? event = none)
      (arrived : after.node = host.node.onRequest sender request)
  | bypasses (unvisited : host.visit? event = none) (bypasses : host.node.Bypasses after.node)

theorem attends_work (host : Host) (up : host.isUp = true) (event : Event) :
    host.Attends event (host.work event) := by
  cases event with
  | poll place now stopFirst =>
    refine .bypasses rfl ?_
    simp only [work, poll]
    split
    · exact (host.node.polls_resume now stopFirst _).bypasses
    · exact .refl host.node
  | abandon place =>
    refine .bypasses rfl ?_
    simp only [work, abandon]
    split
    · exact (host.node.polls_abandonBranches _).bypasses
    · exact .refl host.node
  | receive choice now data =>
    rcases host.node.receive_brings choice now data with bypasses | ⟨sender, request, arrived⟩
    · exact .bypasses rfl bypasses
    · exact .arrives rfl arrived
  | beat choice => exact .bypasses rfl (host.node.mails_heartbeatRound choice).bypasses
  | detect now => exact .bypasses rfl (host.node.bypasses_detectionRound now)
  | handle now => exact .bypasses rfl (host.node.bypasses_handleMessages now)
  | serve clock request workFirst => exact .visits (if_pos up) rfl rfl
  | take drain =>
    refine .bypasses rfl ?_
    simp only [work, hand]
    split
    · exact ⟨rfl, rfl, rfl⟩
    · exact .refl host.node
  | transmit drain =>
    refine .bypasses rfl ?_
    simp only [work, transmit]
    split
    · exact host.node.bypasses_completed drain _
    · exact .refl host.node
  | _ => exact .bypasses rfl (.refl host.node)

theorem attends_proceed (host : Host) (event : Event) :
    host.Attends event (host.proceed event) := by
  unfold proceed
  split
  next up => exact host.attends_work up event
  next asleep =>
    refine .bypasses ?_ (.refl host.node)
    cases event with
    | serve => exact if_neg asleep
    | _ => rfl

theorem attends_step (host : Host) (event : Event) : host.Attends event (host.step event).1 := by
  cases event with
  | start =>
    refine .bypasses rfl ?_
    simp only [step]
    split
    next starting begun =>
      obtain ⟨-, rfl⟩ := Node.beginStart_eq_ok begun
      exact ⟨rfl, rfl, rfl⟩
    next => exact .refl host.node
  | opened now =>
    refine .bypasses rfl ?_
    simp only [step, openSocket]
    split
    · split <;> exact ⟨rfl, rfl, rfl⟩
    · exact .refl host.node
  | refused fault =>
    refine .bypasses rfl ?_
    simp only [step]
    split <;> exact ⟨rfl, rfl, rfl⟩
  | resolved choice =>
    refine .bypasses rfl ?_
    simp only [step]
    split
    · exact host.node.bypasses_completeStart choice
    · exact .refl host.node
  | stop choice =>
    refine .bypasses rfl ?_
    simp only [step]
    split
    next stopping halted => exact Node.bypasses_beginStop halted
    next => exact .refl host.node
  | announced now =>
    refine .bypasses rfl ?_
    simp only [step]
    split
    · split <;> exact ⟨rfl, rfl, rfl⟩
    · exact .refl host.node
  | closed =>
    refine .bypasses rfl ?_
    simp only [step]
    split <;> exact ⟨rfl, rfl, rfl⟩
  | ask question =>
    refine .bypasses rfl ?_
    simp only [step, ask]
    split
    next asked => exact Node.bypasses_ask asked
    next => exact .refl host.node
  | elsewhere operation =>
    refine .bypasses rfl ?_
    simp only [step]
    split <;> exact ⟨rfl, rfl, rfl⟩
  | _ => exact host.attends_proceed _

theorem Attends.numbersAnew {event : Event} {after : Host} (attends : host.Attends event after)
    (anew : host.node.NumbersAnew) : after.node.NumbersAnew := by
  intro id later
  cases attends with
  | @visits request visit _ found left =>
    have touches := visit.touchesOnly_after request
    rw [left, touches.nextRequest, found] at later
    have missing : visit.node.request? id = none := by
      rw [found]
      exact anew id later
    rw [left]
    by_cases same : id = request
    · subst same
      exact (Visit.ignores_of_missing missing).2
    · rw [touches.others id same, missing]
  | arrives _ arrived =>
    rw [arrived] at later ⊢
    have past : host.node.nextRequest < id := later
    rw [Node.request?_onRequest, anew id (Nat.le_of_lt past), if_neg (Nat.ne_of_lt past)]
    rfl
  | bypasses _ bypasses =>
    rw [bypasses.nextRequest] at later
    rw [Node.request?, bypasses.served]
    exact anew id later

theorem numbersAnew_run (network : Network) (config : Config) (events : List Event) :
    ((new network config).run events).1.node.NumbersAnew := by
  have kept (host : Host) (anew : host.node.NumbersAnew) :
      (host.run events).1.node.NumbersAnew := by
    induction events generalizing host with
    | nil => exact anew
    | cons event rest ih => exact ih _ ((host.attends_step event).numbersAnew anew)
  exact kept _ fun _ _ => rfl

theorem Attends.request? {event : Event} {after : Host} (attends : host.Attends event after)
    (old : id < host.node.nextRequest)
    (unvisited : ∀ visit, host.visit? event ≠ some (id, visit)) :
    after.node.request? id = host.node.request? id := by
  cases attends with
  | @visits request visit visited found left =>
    have other : id ≠ request := by
      rintro rfl
      exact unvisited visit visited
    rw [left, (visit.touchesOnly_after request).others id other, found]
  | arrives _ arrived =>
    rw [arrived, Node.request?_onRequest, if_neg (Nat.ne_of_gt old), Option.or_none]
  | bypasses _ bypasses => rw [Node.request?, bypasses.served, ← Node.request?]

theorem Attends.nextRequest_le {event : Event} {after : Host} (attends : host.Attends event after) :
    host.node.nextRequest ≤ after.node.nextRequest := by
  cases attends with
  | @visits request visit _ found left =>
    rw [left, (visit.touchesOnly_after request).nextRequest, found]
  | arrives _ arrived =>
    rw [arrived]
    exact Nat.le_succ _
  | bypasses _ bypasses => rw [bypasses.nextRequest]

theorem follow_visitsTo (events : List Event) (old : id < host.node.nextRequest) :
    Visit.Follow id (host.node.request? id) (host.visitsTo id events) := by
  -- The number has been given before, so that no request that arrives meanwhile gets it.
  induction events generalizing host with
  | nil => trivial
  | cons event rest ih =>
    have attends := host.attends_step event
    have follow := ih (Nat.lt_of_lt_of_le old attends.nextRequest_le)
    by_cases visited : ∃ visit, host.visit? event = some (id, visit)
    · obtain ⟨visit, visited⟩ := visited
      have listed : host.visitsTo id (event :: rest) =
          visit :: (host.step event).1.visitsTo id rest := by
        simp [visitsTo, visits, visited]
      rw [listed]
      cases attends with
      | visits again found left =>
        obtain ⟨rfl, rfl⟩ := Prod.mk.inj (Option.some.inj (visited.symm.trans again))
        rw [left] at follow
        exact ⟨by rw [found], follow⟩
      | arrives unvisited => simp [visited] at unvisited
      | bypasses unvisited => simp [visited] at unvisited
    · have unvisited := not_exists.mp visited
      have listed : host.visitsTo id (event :: rest) = (host.step event).1.visitsTo id rest := by
        cases visit : host.visit? event with
        | none => simp [visitsTo, visits, visit]
        | some item =>
          have other : item.1 ≠ id := by
            rintro rfl
            exact unvisited item.2 visit
          simp [visitsTo, visits, visit, other]
      rw [listed, ← attends.request? old unvisited]
      exact follow

/-! ### What is counted -/

end Host

def Visit.counted (visit : Visit) (id : RequestId) : Nat :=
  (visit.after id).traffic.served - visit.node.traffic.served

theorem Visit.ignores_or_replies (visit : Visit) (id : RequestId) :
    visit.node.Ignores (visit.after id) ∨
      ∃ request outcome, visit.node.Replies (visit.after id) request outcome := by
  cases found : visit.node.request? id with
  | none => exact .inl (Visit.ignores_of_missing found).1
  | some entry =>
    cases Visit.comes found with
    | replies _ _ _ replies => exact .inr ⟨_, _, replies⟩
    | dropped _ _ ignores => exact .inl ignores
    | goesOn _ _ _ _ ignores => exact .inl ignores

theorem Visit.served_after (visit : Visit) (id : RequestId) :
    (visit.after id).traffic.served = visit.node.traffic.served + visit.counted id := by
  have grows : visit.node.traffic.served ≤ (visit.after id).traffic.served := by
    rcases visit.ignores_or_replies id with ignores | ⟨_, _, replies⟩
    · rw [ignores.traffic]
    · rw [replies.traffic]
      exact Nat.le_succ _
  exact (Nat.add_sub_of_le grows).symm

theorem Visit.outbox_of_closed {visit : Visit} (closed : visit.node.outbox.closed = true)
    (id : RequestId) : (visit.after id).outbox = visit.node.outbox := by
  rcases visit.ignores_or_replies id with ignores | ⟨request, outcome, replies⟩
  · exact ignores.outbox
  · cases framed : visit.node.frame RawScope.response
        ⟨.response, ⟨request.correlation, outcome⟩⟩ with
    | error error => exact replies.unmade error framed
    | ok data =>
      have pushed := (replies.queued data framed).1
      rw [Outbox.push_of_closed closed] at pushed
      exact pushed

namespace Host

variable {host : Host} {id : RequestId}

theorem served_run (host : Host) (events : List Event) :
    (host.run events).1.node.traffic.served = host.node.traffic.served +
      ((host.visits events).map fun (request, visit) => visit.counted request).sum := by
  induction events generalizing host with
  | nil => rfl
  | cons event rest ih =>
    have later := ih (host.step event).1
    change ((host.step event).1.run rest).1.node.traffic.served = _
    rw [later]
    cases host.attends_step event with
    | visits visited found left =>
      simp [visits, visited, left, Visit.served_after, found, Nat.add_assoc]
    | arrives unvisited arrived =>
      have same : (host.step event).1.node.traffic = host.node.traffic := by
        rw [arrived]
        rfl
      simp [visits, unvisited, same]
    | bypasses unvisited bypasses => simp [visits, unvisited, bypasses.count]

theorem Stage.closed_of_stopped {config : Config} (stage : host.Stage config)
    (stopped : host.node.lifecycle = .stopped) : host.node.outbox.closed = true := by
  cases stage with
  | idle idle => rcases idle.early with early | early | early <;> simp [early] at stopped
  | entered entered => simp [entered.starting] at stopped
  | up up => rcases up.begun with begun | begun <;> simp [begun] at stopped
  | down down => exact down.closed

theorem outbox_of_stopped {config : Config} (stage : host.Stage config) (events : List Event) :
    ∀ visit ∈ host.visitsTo id events, visit.node.lifecycle = .stopped →
      (visit.after id).outbox = visit.node.outbox := by
  have closed : ∀ item ∈ host.visits events, item.2.node.lifecycle = .stopped →
      item.2.node.outbox.closed = true := by
    induction events generalizing host with
    | nil => simp [visits]
    | cons event rest ih =>
      intro item among stopped
      rcases List.mem_append.mp among with now | later
      · cases host.attends_step event with
        | visits visited found =>
          simp only [visited, Option.toList_some, List.mem_singleton] at now
          subst now
          rw [found] at stopped ⊢
          exact stage.closed_of_stopped stopped
        | arrives unvisited => simp [unvisited] at now
        | bypasses unvisited => simp [unvisited] at now
      · exact ih (stage.moves (host.step_moves event)) item later stopped
  intro visit among stopped
  obtain ⟨item, listed, same⟩ := List.mem_filterMap.mp among
  simp only [Option.ite_none_right_eq_some, Option.some.injEq] at same
  obtain ⟨-, rfl⟩ := same
  exact Visit.outbox_of_closed (closed item listed stopped) id

/-! ### Serving -/

theorem step_receive_request {choice : PeerChoice} {now : Instant} {data : Bytes}
    {datagram : Datagram} {request : Request} (up : host.isUp = true)
    (decoded : Datagram.decode data = .ok datagram) (asked : datagram.content = .request request) :
    (host.step (.receive choice now data)).1 =
      host.become (host.node.onRequest ⟨datagram.sender⟩ request) := by
  have received : host.node.receive choice now data =
      host.node.onRequest ⟨datagram.sender⟩ request := by
    rw [Node.receive, decoded]
    simp only [asked]
  rw [← received]
  exact if_pos up

theorem follow_received (network : Network) (config : Config) (events : List Event)
    (choice : PeerChoice) (now : Instant) {data : Bytes} {datagram : Datagram} {request : Request}
    (rest : List Event) (up : ((new network config).run events).1.isUp = true)
    (decoded : Datagram.decode data = .ok datagram) (asked : datagram.content = .request request) :
    let host := ((new network config).run events).1
    Visit.Follow host.node.nextRequest
      (some ⟨host.node.nextRequest, ⟨datagram.sender⟩, request, .arrived⟩)
      ((host.step (.receive choice now data)).1.visitsTo host.node.nextRequest rest) := by
  intro host
  have noted : (host.step (.receive choice now data)).1.node =
      host.node.onRequest ⟨datagram.sender⟩ request :=
    congrArg Host.node (step_receive_request up decoded asked)
  -- Numbers are given once, so nothing has been known of this request before it arrived.
  have fresh : host.node.request? host.node.nextRequest = none :=
    numbersAnew_run network config events _ (Nat.le_refl _)
  have old : host.node.nextRequest < (host.step (.receive choice now data)).1.node.nextRequest := by
    rw [noted]
    exact Nat.lt_succ_self _
  have follow := (host.step (.receive choice now data)).1.follow_visitsTo rest old
  rwa [noted, Node.request?_onRequest, fresh, Option.none_or, if_pos rfl] at follow

/--
Of all visits to a request that a running node has received, only the first asks a dispatcher: the
one for its type, in the name of the sender, unless its deadline is not ahead or its arguments do
not go with their types. A visit replies, and counts the request as served, exactly if it finds the
outcome there before it looks at a stop, after visits that found the work neither done nor overdue
and the node not told to stop. All others leave what is sent and what is counted alone, and what is
no visit counts nothing. So there is no reply once a visit has found the work unfinished at its
deadline or after a stop, or has looked at the stop first; and a node that has stopped sends none.
-/
theorem request_is_answered_at_most_once (network : Network) (config : Config)
    (events : List Event) (choice : PeerChoice) (now : Instant) {data : Bytes} {datagram : Datagram}
    {request : Request} (rest : List Event)
    (running : ((new network config).run events).1.node.lifecycle = .running)
    (decoded : Datagram.decode data = .ok datagram) (asked : datagram.content = .request request) :
    let host := ((new network config).run events).1
    let id := host.node.nextRequest
    let caller : MemberId := ⟨datagram.sender⟩
    let arrived := (host.step (.receive choice now data)).1
    let visits := arrived.visitsTo id rest
    host.node.Ignores arrived.node ∧
    (∀ first others, visits = first :: others →
      first.Consults id (first.call? caller request).toList ∧
        ∀ other ∈ others, other.Consults id []) ∧
    AnsweredOnce id request visits (Visit.Brings caller request) ∧
    (∀ before visit after, visits = before ++ visit :: after →
      visit.Forfeits caller request before →
        ∀ other ∈ visit :: after, other.node.Ignores (other.after id)) ∧
    (∀ visit ∈ visits, visit.node.lifecycle = .stopped →
      (visit.after id).outbox = visit.node.outbox) ∧
    (arrived.run rest).1.node.traffic.served = arrived.node.traffic.served +
      ((arrived.visits rest).map fun (request, visit) => visit.counted request).sum := by
  intro host id caller arrived visits
  have up : host.isUp = true := by simp [isUp, host, running]
  have noted : arrived.node = host.node.onRequest caller request :=
    congrArg Host.node (step_receive_request up decoded asked)
  have stage : arrived.Stage config :=
    ((stage_new network config).run events).moves (host.step_moves _)
  have follow : Visit.Follow id (some ⟨id, caller, request, .arrived⟩) visits :=
    follow_received network config events choice now rest up decoded asked
  have once := answeredOnce_of_arrived rfl follow
  refine ⟨?_, ?_, once, ?_, outbox_of_stopped stage rest, arrived.served_run rest⟩
  · rw [noted]
    exact ⟨rfl, rfl⟩
  · intro first others shape
    rw [shape] at follow
    exact ⟨Visit.consults follow.1,
      Visit.consults_nothing follow.2 fun _ => Visit.stage_after first⟩
  · intro before visit after shape forfeits
    exact once.ignores_of_forfeits shape forfeits

/-! ### A dispatcher that takes its time -/

theorem visitsTo_serve (up : host.isUp = true) (clock : Clock) (workFirst : Bool)
    (rest : List Event) :
    host.visitsTo id (.serve clock id workFirst :: rest) =
      ⟨host.node, clock, workFirst⟩ ::
        (host.become (host.node.attend clock id workFirst)).visitsTo id rest := by
  have visited :
      host.visit? (.serve clock id workFirst) = some (id, ⟨host.node, clock, workFirst⟩) :=
    if_pos up
  have stepped : (host.step (.serve clock id workFirst)).1 =
      host.become (host.node.attend clock id workFirst) := if_pos up
  simp [visitsTo, visits, visited, stepped]

theorem isUp_attend (up : host.isUp = true) (clock : Clock) (workFirst : Bool) :
    (host.become (host.node.attend clock id workFirst)).isUp = true := by
  have same := (host.node.proceeds_attend clock id workFirst).lifecycle
  rw [isUp, become, same]
  exact up

theorem step_registerDispatcher (running : host.node.lifecycle = .running) (targetType : String)
    (dispatcher : Dispatcher) :
    (host.step (.ask (.registerDispatcher targetType dispatcher))).1.node =
      { host.node with dispatchers := (host.node.dispatchers.register targetType dispatcher).1
        } := by
  simp only [step, ask, Node.ask, Node.registerDispatcher, Node.whenRunning, running]
  rfl

def slow : Dispatcher := fun _ _ _ => ⟨4, .returned (.ok [42])⟩

def slowConfig : Config := .new "cluster" ⟨"b"⟩ .unspecified .unspecified []

def startedHost : Host := ((new .empty slowConfig).run [.start, .opened 0, .resolved .first]).1

def slowHost : Host := (startedHost.step (.ask (.registerDispatcher "slow" slow))).1

def hurried : Request := ⟨7, "slow", "run", [], [], 104, .unspecified⟩

def hurriedHost : Host := slowHost.become (slowHost.node.onRequest ⟨"a"⟩ hurried)

def earlyVisit (wall : Nat) : Visit := ⟨hurriedHost.node, ⟨5, wall⟩, false⟩

theorem slowHost_runs : slowHost.node.lifecycle = .running ∧ slowHost.node.nextRequest = 0 ∧
    slowHost.node.stopRequested = false ∧ slowHost.node.id = ⟨"b"⟩ := by
  decide +kernel

theorem stopRequested_hurriedHost : hurriedHost.node.stopRequested = false := slowHost_runs.2.2.1

theorem isUp_slowHost : slowHost.isUp = true := by simp [isUp, slowHost_runs.1]

theorem isUp_hurriedHost : hurriedHost.isUp = true := isUp_slowHost

theorem exists_hurried : ∃ data datagram, Datagram.decode data = .ok datagram ∧
    datagram.sender = "a" ∧ datagram.content = .request hurried ∧
      (slowHost.step (.receive .first 4 data)).1 = hurriedHost := by
  have fits : PayloadType.request.Fits hurried := by
    unfold PayloadType.Fits
    decide +kernel
  let sender : Node := .new (.new "cluster" ⟨"a"⟩ .unspecified .unspecified [])
  have named : (textBytes sender.id.text).length ≤ 65535 := by decide
  obtain ⟨data, bytes, -, decoded, read⟩ := Node.frame_of_fits named fits RawScope.request
  have content : Datagram.content ⟨RawScope.request, sender.id.text, bytes⟩ = .request hurried := by
    simp [Datagram.content, Content.ofArchive, RawScope.request, RawScope.control, read]
  exact ⟨data, _, decoded, rfl, content, step_receive_request isUp_slowHost decoded content⟩

theorem answer_slow : hurriedHost.node.dispatchers.answer ⟨⟨"a"⟩, "slow", "run", .empty⟩ =
    ⟨4, .returned (.ok [42])⟩ := by
  have running : startedHost.node.lifecycle = .running := by decide +kernel
  have registered := step_registerDispatcher running "slow" slow
  have kept (host : Host) : (host.become (host.node.onRequest ⟨"a"⟩ hurried)).node.dispatchers =
      host.node.dispatchers := rfl
  rw [hurriedHost, kept, slowHost, registered]
  simp [DispatchTable.answer, DispatchTable.invoke, DispatchTable.find?, DispatchTable.register,
    slow]

theorem begins?_earlyVisit {wall : Nat} (ahead : wall < 104) :
    (earlyVisit wall).begins? ⟨"a"⟩ hurried =
      some ⟨9, 5 + (104 - wall), .returned (.ok [42])⟩ := by
  have heeded : (earlyVisit wall).isGivenUp = false := by
    rw [Visit.isGivenUp, earlyVisit, stopRequested_hurriedHost]
    rfl
  have small : wall < UInt64.size := Nat.lt_trans ahead (by decide)
  have reading : (earlyVisit wall).wall = wall := Nat.mod_eq_of_lt small
  have awaited : ¬ ((earlyVisit wall).isGivenUp = true ∨
      hurried.deadline.toNat ≤ (earlyVisit wall).wall) := by
    simp only [heeded, reading, Bool.false_eq_true, false_or]
    exact Nat.not_le.mpr ahead
  have call : (earlyVisit wall).call? ⟨"a"⟩ hurried = some ⟨⟨"a"⟩, "slow", "run", .empty⟩ := by
    rw [Visit.call?, if_neg awaited]
    rfl
  have answer : (earlyVisit wall).node.dispatchers.answer ⟨⟨"a"⟩, "slow", "run", .empty⟩ =
      ⟨4, .returned (.ok [42])⟩ := answer_slow
  rw [Visit.begins?, if_neg awaited, call]
  simp only [answer, reading]
  rfl

theorem brings_slow {wall : Nat} (ahead : wall < 104) {second : Visit}
    (heeded : second.isGivenUp = false) (done : 9 ≤ second.clock.now) :
    second.Brings ⟨"a"⟩ hurried [earlyVisit wall] (.ok [42]) := by
  refine ⟨_, begins?_earlyVisit ahead, ?_, heeded, done, rfl⟩
  intro earlier among
  obtain rfl := List.mem_singleton.mp among
  refine ⟨stopRequested_hurriedHost, (by decide : 5 < 9), ?_⟩
  exact Nat.lt_add_of_pos_right (Nat.sub_pos_of_lt ahead)

theorem visitsTo_hurriedHost (wall : Nat) (clock : Clock) (workFirst : Bool) :
    hurriedHost.visitsTo 0 [.serve ⟨5, wall⟩ 0 false, .serve clock 0 workFirst] =
      [earlyVisit wall, ⟨(earlyVisit wall).after 0, clock, workFirst⟩] := by
  rw [visitsTo_serve isUp_hurriedHost, visitsTo_serve (isUp_attend isUp_hurriedHost _ _)]
  rfl

theorem stopRequested_earlyVisit (wall : Nat) :
    ((earlyVisit wall).after 0).stopRequested = false :=
  (hurriedHost.node.proceeds_attend ⟨5, wall⟩ 0 false).stopRequested.trans stopRequested_hurriedHost

theorem run_slowHost : ((new .empty slowConfig).run
    ([.start, .opened 0, .resolved .first] ++ [.ask (.registerDispatcher "slow" slow)])).1 =
      slowHost := by
  rw [run_append]
  rfl

/-- Work that ends at the deadline itself is answered, and nothing is done before. -/
theorem work_done_at_the_deadline_is_answered :
    ∃ data datagram, Datagram.decode data = .ok datagram ∧ datagram.content = .request hurried ∧
      ∃ first second, (slowHost.step (.receive .first 4 data)).1.visitsTo 0
          [.serve ⟨5, 100⟩ 0 false, .serve ⟨9, 104⟩ 0 false] = [first, second] ∧
        first.node.Ignores (first.after 0) ∧
        second.node.Replies (second.after 0) hurried (.ok [42]) := by
  obtain ⟨data, datagram, decoded, sender, content, received⟩ := exists_hurried
  obtain ⟨running, numbered, -⟩ := slowHost_runs
  rw [← run_slowHost] at running
  obtain ⟨-, -, once, -⟩ := request_is_answered_at_most_once .empty slowConfig _ .first 4
    [.serve ⟨5, 100⟩ 0 false, .serve ⟨9, 104⟩ 0 false] running decoded content
  rw [run_slowHost, numbered, sender, received, visitsTo_hurriedHost] at once
  let second : Visit := ⟨(earlyVisit 100).after 0, ⟨9, 104⟩, false⟩
  have early : ∀ outcome, ¬ (earlyVisit 100).Brings ⟨"a"⟩ hurried [] outcome := by
    rintro outcome ⟨work, begins, yields⟩
    obtain rfl := Option.some.inj ((begins?_earlyVisit (by decide)).symm.trans begins)
    exact absurd yields.done (by decide : ¬ 9 ≤ 5)
  have heeded : second.isGivenUp = false := by
    simp [second, Visit.isGivenUp, stopRequested_earlyVisit]
  have brings := brings_slow (by decide : 100 < 104) heeded (Nat.le_refl 9)
  refine ⟨data, datagram, decoded, content, earlyVisit 100, second, ?_, ?_, ?_⟩
  · rw [received]
    exact visitsTo_hurriedHost 100 ⟨9, 104⟩ false
  · exact once.ignores [] (earlyVisit 100) _ rfl early
  · exact (once.replies [earlyVisit 100] second [] _ rfl brings).1

theorem answeredOnce_hurried (rest : List Event) :
    AnsweredOnce 0 hurried (hurriedHost.visitsTo 0 rest) (Visit.Brings ⟨"a"⟩ hurried) := by
  obtain ⟨data, datagram, decoded, sender, content, received⟩ := exists_hurried
  have up := isUp_slowHost
  rw [← run_slowHost] at up
  have follow := follow_received .empty slowConfig _ .first 4 rest up decoded content
  dsimp only at follow
  rw [run_slowHost, slowHost_runs.2.1, sender, received] at follow
  exact answeredOnce_of_arrived rfl follow

theorem step_stop (running : host.node.lifecycle = .running) (choice : PeerChoice) :
    (host.step (.stop choice)).1.isUp = true ∧
      (host.step (.stop choice)).1.node.stopRequested = true ∧
      (host.step (.stop choice)).1.node.id = host.node.id := by
  cases stopping : host.node.beginStop choice with
  | error error => simp [Node.beginStop, Node.transition, running] at stopping
  | ok after =>
    have keeps := Node.beginStop_keeps stopping
    have stepped : (host.step (.stop choice)).1 = host.become after := by
      simp only [step, stopping]
    rw [stepped]
    refine ⟨?_, keeps.stopRequested, congrArg Config.id keeps.config⟩
    simp [isUp, become, keeps.lifecycle]

theorem exists_reply {node : Node} (named : node.id = ⟨"b"⟩) :
    ∃ reply, node.frame RawScope.response ⟨.response, ⟨7, .ok [42]⟩⟩ = .ok reply := by
  have fits : PayloadType.response.Fits ⟨7, .ok [42]⟩ := by
    unfold PayloadType.Fits
    decide +kernel
  have short : (textBytes node.id.text).length ≤ 65535 := by
    rw [named]
    decide
  obtain ⟨reply, -, made, -⟩ := Node.frame_of_fits short fits RawScope.response
  exact ⟨reply, made⟩

theorem id_earlyVisit (wall : Nat) : ((earlyVisit wall).after 0).id = ⟨"b"⟩ := by
  have kept := (hurriedHost.node.proceeds_attend ⟨5, wall⟩ 0 false).config
  exact (congrArg Config.id kept).trans slowHost_runs.2.2.2

/--
Work that has not ended at the deadline is answered and counted all the same if it is looked at
again only after both. And so is work that has ended in time, if it is looked at before a stop that
came first.
-/
theorem outcome_is_sent_after_deadline_or_stop :
    slowHost.node.lifecycle = .running ∧ ∃ data datagram, Datagram.decode data = .ok datagram ∧
      datagram.sender = "a" ∧ datagram.content = .request hurried ∧
      (∃ first second, (slowHost.step (.receive .first 4 data)).1.visitsTo 0
          [.serve ⟨5, 101⟩ 0 false, .serve ⟨9, 105⟩ 0 false] = [first, second] ∧
        (∃ work, first.begins? ⟨"a"⟩ hurried = some work ∧ work.deadline < work.due) ∧
        hurried.deadline.toNat < second.wall ∧
        second.node.Replies (second.after 0) hurried (.ok [42]) ∧
        ∃ reply, second.node.frame RawScope.response ⟨.response, ⟨7, .ok [42]⟩⟩ = .ok reply) ∧
      ∃ first second, (slowHost.step (.receive .first 4 data)).1.visitsTo 0
          [.serve ⟨5, 100⟩ 0 false, .stop .first, .serve ⟨9, 104⟩ 0 true] = [first, second] ∧
        second.node.stopRequested = true ∧
        second.node.Replies (second.after 0) hurried (.ok [42]) ∧
        ∃ reply, second.node.frame RawScope.response ⟨.response, ⟨7, .ok [42]⟩⟩ = .ok reply := by
  obtain ⟨data, datagram, decoded, sender, content, received⟩ := exists_hurried
  refine ⟨slowHost_runs.1, data, datagram, decoded, sender, content, ?_, ?_⟩
  · let second : Visit := ⟨(earlyVisit 101).after 0, ⟨9, 105⟩, false⟩
    have visits := visitsTo_hurriedHost 101 ⟨9, 105⟩ false
    have heeded : second.isGivenUp = false := by
      simp [second, Visit.isGivenUp, stopRequested_earlyVisit]
    have once := answeredOnce_hurried [.serve ⟨5, 101⟩ 0 false, .serve ⟨9, 105⟩ 0 false]
    rw [visits] at once
    have brings := brings_slow (by decide : 101 < 104) heeded (Nat.le_refl 9)
    refine ⟨earlyVisit 101, second, received ▸ visits, ⟨_, begins?_earlyVisit (by decide), ?_⟩, ?_,
      (once.replies [earlyVisit 101] second [] _ rfl brings).1, exists_reply (id_earlyVisit 101)⟩
    · exact (by decide : 8 < 9)
    · exact (by decide : 104 < 105)
  · let early : Host := hurriedHost.become ((earlyVisit 100).after 0)
    have running : early.node.lifecycle = .running :=
      (hurriedHost.node.proceeds_attend ⟨5, 100⟩ 0 false).lifecycle.trans slowHost_runs.1
    obtain ⟨up, stopped, same⟩ := step_stop running .first
    let second : Visit := ⟨(early.step (.stop .first)).1.node, ⟨9, 104⟩, true⟩
    let rest : List Event := [.serve ⟨5, 100⟩ 0 false, .stop .first, .serve ⟨9, 104⟩ 0 true]
    have visits : hurriedHost.visitsTo 0 rest = [earlyVisit 100, second] := by
      have skipped : early.visitsTo 0 [.stop .first, .serve ⟨9, 104⟩ 0 true] =
          (early.step (.stop .first)).1.visitsTo 0 [.serve ⟨9, 104⟩ 0 true] := rfl
      rw [visitsTo_serve isUp_hurriedHost]
      refine congrArg _ (skipped.trans ?_)
      rw [visitsTo_serve up]
      rfl
    have heeded : second.isGivenUp = false := by simp [second, Visit.isGivenUp]
    have once := answeredOnce_hurried rest
    rw [visits] at once
    have brings := brings_slow (by decide : 100 < 104) heeded (Nat.le_refl 9)
    exact ⟨earlyVisit 100, second, received ▸ visits, stopped,
      (once.replies [earlyVisit 100] second [] _ rfl brings).1,
      exists_reply (same.trans (id_earlyVisit 100))⟩

end Host

end ClusterCoordination
