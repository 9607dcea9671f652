import ClusterCoordination.Proofs.Lifecycle.Departure
/-!
# Messages to one member and to all

A message is made into a datagram before it is queued for anyone. Step by step, everything that can
fail does so before the first datagram is queued, and then one copy stands at the end of the line to
the address of each member the message is for, in the order of the view.
-/

set_option autoImplicit false

namespace ClusterCoordination

namespace Node

/-- A message for all is for those members that are alive, without the local one. -/
def hears (id : MemberId) (member : Member) : Bool := member.alive && member.id ≠ id

/-- What is done to a node before an error occurs stays done. -/
abbrev Sending := ExceptT ClusterError (StateM Node)

namespace Sending

section

variable {α β : Type}

def perform (sending : Sending α) (node : Node) : Except ClusterError α × Node :=
  sending.run.run node

theorem perform_bind (first : Sending β) (next : β → Sending α) (node : Node) :
    perform (first >>= next) node =
      match perform first node with
      | (.ok value, after) => perform (next value) after
      | (.error error, after) => (.error error, after) := by
  change ((ExceptT.bindCont next (perform first node).1) (perform first node).2) = _
  rcases perform first node with ⟨_ | value, after⟩ <;> rfl

theorem perform_get (next : Node → Sending α) (node : Node) :
    perform (get >>= next) node = perform (next node) node := rfl

theorem perform_ofExcept (result : Except ClusterError β) (next : β → Sending α) (node : Node) :
    perform (MonadExcept.ofExcept result >>= next) node =
      match result with
      | .ok value => perform (next value) node
      | .error error => (.error error, node) := by
  cases result <;> rfl

end

def queue (member : Member) (data : Bytes) : Sending Unit :=
  modify fun node => node.enqueue member.address data

def visit (data : Bytes) (count : Nat) (member : Member) : Sending Nat := do
  let node ← get
  if !member.alive || member.id = node.id then return count
  queue member data
  return count + 1

def broadcast (scope : Scope) (payload : Bytes) : Sending Nat := do
  let node ← get
  let data ← MonadExcept.ofExcept (node.datagram scope.value payload)
  node.registry.view.members.foldlM (visit data) 0

def sendTo (scope : Scope) (payload : Bytes) (member : Member) : Sending Unit := do
  let node ← get
  let data ← MonadExcept.ofExcept (node.datagram scope.value payload)
  queue member data

def sendMessage (scope : Scope) (message : Payload) (target : Option MemberId) : Sending Nat := do
  let node ← get
  MonadExcept.ofExcept (node.whenRunning ())
  let payload ← MonadExcept.ofExcept
    (message.encode.mapError fun status => .serialization status.message)
  match target with
  | none => broadcast scope payload
  | some id => do
    let member ← MonadExcept.ofExcept (node.aliveMember id)
    sendTo scope payload member
    return 1

theorem perform_visit (data : Bytes) (count : Nat) (member : Member) (node : Node) :
    perform (visit data count member) node =
      if hears node.id member then (.ok (count + 1), node.enqueue member.address data)
      else (.ok count, node) := by
  rw [visit, perform_get, hears]
  by_cases lives : member.alive = true <;> by_cases own : member.id = node.id <;>
    simp [lives, own] <;> rfl

theorem perform_visits (data : Bytes) (members : List Member) (count : Nat) (node : Node) :
    perform (members.foldlM (visit data) count) node =
      (.ok (count + (members.filter (hears node.id)).length),
        (members.filter (hears node.id)).foldl
          (fun current member => current.enqueue member.address data) node) := by
  induction members generalizing count node with
  | nil => rfl
  | cons member rest ih =>
    rw [List.foldlM_cons, perform_bind, perform_visit]
    cases asked : hears node.id member with
    | true =>
      have same : (node.enqueue member.address data).id = node.id := by
        obtain ⟨_, _, _, _, mailed⟩ := node.mails_push member.address ⟨data, none⟩
        rw [enqueue, mailed]
        rfl
      rw [List.filter_cons_of_pos asked, List.length_cons, List.foldl_cons]
      simp only [if_true]
      rw [ih, same, Nat.add_assoc, Nat.add_comm 1]
    | false =>
      rw [List.filter_cons_of_neg (by simp [asked])]
      exact ih count node

theorem perform_sendMessage (scope : Scope) (message : Payload) (target : Option MemberId)
    (node : Node) :
    perform (sendMessage scope message target) node =
      match node.sendMessage scope message target with
      | .ok (after, count) => (.ok count, after)
      | .error error => (.error error, node) := by
  rw [sendMessage, perform_get, perform_ofExcept, Node.sendMessage]
  -- Both look at the state, the archive, the target and the datagram in this order.
  cases node.whenRunning () with
  | error error => rfl
  | ok running =>
    dsimp only
    rw [perform_ofExcept]
    cases message.encode with
    | error status => rfl
    | ok payload =>
      cases target with
      | none =>
        dsimp only [Except.mapError]
        rw [broadcast, perform_get, perform_ofExcept, Node.broadcast]
        cases node.datagram scope.value payload with
        | error error => rfl
        | ok data =>
          dsimp only
          rw [perform_visits, Nat.zero_add]
          rfl
      | some id =>
        dsimp only [Except.mapError]
        rw [perform_ofExcept]
        cases node.aliveMember id with
        | error error => rfl
        | ok member =>
          dsimp only
          rw [sendTo, bind_assoc, perform_get, bind_assoc, perform_ofExcept]
          cases node.datagram scope.value payload <;> rfl

end Sending

section

variable {node after : Node} {scope : Scope} {message : Payload} {target : Option MemberId}
  {count : Nat}

theorem aliveMember_eq_ok_iff {id : MemberId} {member : Member} :
    node.aliveMember id = .ok member ↔
      node.registry.get? id = some member ∧ member.alive = true := by
  unfold aliveMember
  cases node.registry.get? id with
  | none => simp
  | some known => cases lives : known.alive <;> simp <;> grind

theorem datagram_isOk_iff {scope : Int16} {payload : Bytes} :
    (∃ data, node.datagram scope payload = .ok data) ↔
      Datagram.Writable ⟨scope, node.id.text, payload⟩ := by
  unfold datagram
  by_cases writable : Datagram.Writable ⟨scope, node.id.text, payload⟩
  · simp [Datagram.encode_of_writable writable, writable]
  · simp [Datagram.encode_of_not_writable writable, writable]

theorem sendMessage_isOk_iff :
    (∃ sent, node.sendMessage scope message target = .ok sent) ↔
      node.lifecycle = .running ∧
      (∃ payload, message.encode = .ok payload ∧
        Datagram.Writable ⟨scope.value, node.id.text, payload⟩) ∧
      ∀ id, target = some id → ∃ member, node.aliveMember id = .ok member := by
  unfold sendMessage whenRunning
  by_cases running : node.lifecycle = .running
  · rw [if_pos running]
    cases message.encode with
    | error status => simp
    | ok payload =>
      have written : (∃ data, node.datagram scope.value payload = .ok data) ↔
        Datagram.Writable ⟨scope.value, node.id.text, payload⟩ := datagram_isOk_iff
      cases target with
      | none =>
        unfold broadcast
        cases made : node.datagram scope.value payload <;> simp_all
      | some id =>
        cases alive : node.aliveMember id <;> cases made : node.datagram scope.value payload <;>
          simp_all
  · simp [running]

theorem sendMessage_of_unreachable {payload : Bytes} {id : MemberId} {error : ClusterError}
    (running : node.lifecycle = .running) (encoded : message.encode = .ok payload)
    (unreachable : node.aliveMember id = .error error) :
    node.sendMessage scope message (some id) = .error error := by
  simp only [sendMessage, whenRunning, if_pos running, encoded, unreachable]

theorem count_of_sendMessage (done : node.sendMessage scope message target = .ok (after, count)) :
    count = (node.recipients target).length := by
  obtain ⟨running, ⟨payload, encoded, writable⟩, alive⟩ := sendMessage_isOk_iff.mp ⟨_, done⟩
  obtain ⟨data, made⟩ := datagram_isOk_iff.mpr writable
  simp only [sendMessage, whenRunning, if_pos running, encoded] at done
  cases target with
  | none =>
    simp only [broadcast, made, Except.ok.injEq, Prod.mk.injEq] at done
    exact done.2.symm
  | some id =>
    obtain ⟨member, found⟩ := alive id rfl
    simp only [found, made, Except.ok.injEq, Prod.mk.injEq] at done
    rw [recipients, found]
    exact done.2.symm

theorem receive_of_datagram {payload data : Bytes}
    (made : node.datagram scope.value payload = .ok data) (receiver : Node) (choice : PeerChoice)
    (now : Instant) :
    receiver.receive choice now data = receiver.onMessage ⟨node.id, scope, payload⟩ := by
  have read := read?_of_message made
  rw [InboundMessage.read?, decode_of_datagram made] at read
  rw [receive, decode_of_datagram made]
  cases content : Datagram.content ⟨scope.value, node.id.text, payload⟩ <;>
    simp_all

end

/-- The members that a message is for, in the order of the view. -/
def IsFor (node : Node) (members : List Member) : Option MemberId → Prop
  | none => members = node.registry.view.members.filter (hears node.id)
  | some id =>
    ∃ member, node.registry.get? id = some member ∧ member.alive = true ∧ members = [member]

theorem isFor_recipients {node : Node} {target : Option MemberId}
    (alive : ∀ id, target = some id → ∃ member, node.aliveMember id = .ok member) :
    node.IsFor (node.recipients target) target := by
  cases target with
  | none => rfl
  | some id =>
    obtain ⟨member, found⟩ := alive id rfl
    obtain ⟨known, lives⟩ := aliveMember_eq_ok_iff.mp found
    exact ⟨member, known, lives, by rw [recipients, found]; rfl⟩

theorem mem_filter_hears_iff {node : Node} (sound : node.registry.Sound) (member : Member) :
    member ∈ node.registry.view.members.filter (hears node.id) ↔
      ∃ record, node.registry.record? member.id = some record ∧ record.member = member ∧
        member.alive = true ∧ record.left = false ∧ member.id ≠ node.id := by
  rw [List.mem_filter, Registry.view, node.registry.members_perm.mem_iff, List.mem_map]
  simp only [hears, Bool.and_eq_true, decide_eq_true_eq]
  constructor
  · rintro ⟨⟨record, present, rfl⟩, alive, other⟩
    have found := Registry.record?_of_mem sound.unique present
    refine ⟨record, found, rfl, alive, ?_, other⟩
    cases left : record.left with
    | false => rfl
    | true => simp [(sound.coherent _ record found).left_dead left] at alive
  · rintro ⟨record, found, rfl, alive, -, other⟩
    exact ⟨⟨record, (Registry.record?_eq_some found).1, rfl⟩, alive, other⟩

end Node

namespace Host

section

variable {host after : Host}

theorem Moves.keyed {event : Event} {report : Option Report} (moves : host.Moves event after report)
    (keyed : host.node.outbox.Keyed) : after.node.outbox.Keyed := by
  cases moves with
  | begins => exact keyed
  | fails => exact keyed
  | enters => exact keyed
  | @runs choice =>
    have asks := host.node.notifies_sendJoins choice host.node.seeds
    exact (asks.outbox.line keyed).1
  | halts _ _ halted => exact ((Node.beginStop_keeps halted).outbox.line keyed).1
  | parts => exact keyed.shutdown
  | ends => exact keyed
  | continues continues => exact continues.flows.keyed keyed

theorem keyed_run (network : Network) (config : Config) (events : List Event) :
    ((new network config).run events).1.node.outbox.Keyed := by
  have preserved (host : Host) (keyed : host.node.outbox.Keyed) :
      (host.run events).1.node.outbox.Keyed := by
    induction events generalizing host with
    | nil => exact keyed
    | cons event rest ih => exact ih _ ((host.step_moves event).keyed keyed)
  exact preserved (new network config) Outbox.keyed_empty

end

/--
A running node sends a message to all others that are alive, or to the one it is meant for, and to
nobody else: each is sent one copy of the same datagram, which stands at the end of the line to its
address and is a message to everyone who receives it. If it cannot be sent, nothing has happened.
-/
theorem run_sends_all_or_nothing (network : Network) (config : Config) (events : List Event)
    (running : ((new network config).run events).1.node.lifecycle = .running) (scope : Scope)
    (message : Payload) (target : Option MemberId) :
    let node := ((new network config).run events).1.node
    ((∃ sent, node.sendMessage scope message target = .ok sent) ↔
      (∃ payload, message.encode = .ok payload ∧
        Datagram.Writable ⟨scope.value, config.id.text, payload⟩) ∧
      ∀ id, target = some id →
        ∃ member, node.registry.get? id = some member ∧ member.alive = true) ∧
    (∃ own, node.registry.get? config.id = some own ∧ own.alive = true ∧
      own.address = config.publicAddress) ∧
    (∀ error, node.sendMessage scope message target = .error error →
      (Node.Sending.sendMessage scope message target).perform node = (.error error, node)) ∧
    (∀ after count, node.sendMessage scope message target = .ok (after, count) →
      (Node.Sending.sendMessage scope message target).perform node = (.ok count, after) ∧
      ∃ payload data members, message.encode = .ok payload ∧ 0 < scope.value ∧
        Datagram.decode data = .ok ⟨scope.value, config.id.text, payload⟩ ∧
        (∀ (receiver : Node) (choice : PeerChoice) (now : Instant),
          receiver.receive choice now data = receiver.onMessage ⟨config.id, scope, payload⟩) ∧
        node.IsFor members target ∧ count = members.length ∧
        after = members.foldl (fun current member => current.enqueue member.address data) node ∧
        ∀ address, after.outbox.line address = node.outbox.line address ++
          (members.filter fun member => member.address = address).map fun _ => data) ∧
    (∀ member, member ∈ node.registry.view.members.filter (Node.hears node.id) ↔
      ∃ record, node.registry.record? member.id = some record ∧ record.member = member ∧
        member.alive = true ∧ record.left = false ∧ member.id ≠ config.id) ∧
    (node.registry.view.members.map Member.id).Nodup := by
  intro node
  have up : ((new network config).run events).1.Up config :=
    ((stage_new network config).run events).up_of_running running
  have named : node.id = config.id := congrArg Config.id up.configured
  have steps := Node.Sending.perform_sendMessage scope message target node
  refine ⟨?_, ?_, ?_, ?_, ?_, ?_⟩
  · rw [Node.sendMessage_isOk_iff, named]
    simp only [Node.aliveMember_eq_ok_iff]
    exact and_iff_right running
  · obtain ⟨start, own⟩ := up.present
    exact ⟨config.member, by rw [Registry.get?, own]; rfl, rfl, rfl⟩
  · intro error failed
    rw [steps, failed]
  · intro after count done
    obtain ⟨-, -, alive⟩ := Node.sendMessage_isOk_iff.mp ⟨_, done⟩
    obtain ⟨payload, data, encoded, made, mailed⟩ := Node.sendMessage_eq_ok done
    have keyed : node.outbox.Keyed := keyed_run network config events
    rw [done] at steps
    refine ⟨steps, payload, data, node.recipients target, encoded, scope.positive, ?_, ?_,
      Node.isFor_recipients alive, Node.count_of_sendMessage done, mailed, fun address => ?_⟩
    · rw [Node.decode_of_datagram made, named]
    · rw [← named]
      exact Node.receive_of_datagram made
    · rw [mailed, Node.line_enqueueAll keyed up.opened]
  · rw [← named]
    exact Node.mem_filter_hears_iff up.registry
  · exact node.registry.members_ids_perm.nodup_iff.mpr up.registry.unique

/-- A node greets the one member it has heard of, and cannot write to one it has not. -/
theorem greeting_is_queued_once :
    let config : Config := .new "cluster" ⟨"a"⟩ .unspecified .unspecified []
    let heartbeat : ControlFrame := ⟨⟨"b"⟩, "", .v4 (Vector.replicate 4 1) 7, .heartbeat, []⟩
    let opening : List Event := [.start, .opened 0, .resolved .first]
    let node := ((new .empty config).run (opening ++ [.receive .first 1 heartbeat.wire])).1.node
    let scope : Scope := ⟨1, by decide⟩
    let greeting : Payload := ⟨.text, "hello"⟩
    (∃ after data payload, node.sendMessage scope greeting none = .ok (after, 1) ∧
      after.outbox.line heartbeat.address = node.outbox.line heartbeat.address ++ [data] ∧
      ∀ (receiver : Node) (choice : PeerChoice) (now : Instant),
        receiver.receive choice now data = receiver.onMessage ⟨⟨"a"⟩, scope, payload⟩) ∧
    (Node.Sending.sendMessage scope greeting (some ⟨"c"⟩)).perform node =
      (.error (.notMember ⟨"c"⟩), node) := by
  intro config heartbeat opening node scope greeting
  let started := ((new .empty config).run opening).1
  have begun : started.isUp = true := by decide +kernel
  have heard : started.node.receive .first 1 heartbeat.wire =
      started.node.onControlFrame .first 1 heartbeat :=
    Node.receive_wire (by decide) (by decide +kernel) .first 1
  have reached : ((new .empty config).run (opening ++ [.receive .first 1 heartbeat.wire])).1 =
      started.become (started.node.onControlFrame .first 1 heartbeat) := by
    rw [run_append]
    exact run_receive begun heard []
  have known : node = started.node.onControlFrame .first 1 heartbeat := congrArg Host.node reached
  have running :
      ((new .empty config).run (opening ++ [.receive .first 1 heartbeat.wire])).1.node.lifecycle =
        .running := by
    rw [reached]
    decide +kernel
  obtain ⟨payload, encoded, short⟩ : ∃ payload, greeting.encode = .ok payload ∧
      payload.length < 100 :=
    ⟨greeting.type.form.schema.write (greeting.type.form.toValue greeting.value), by decide +kernel⟩
  have named : (textBytes "a").length ≤ 65535 := by decide +kernel
  constructor
  · obtain ⟨possible, -, -, sends, -⟩ :=
      run_sends_all_or_nothing .empty config _ running scope greeting none
    obtain ⟨⟨after, count⟩, done⟩ :=
      possible.mpr ⟨⟨payload, encoded, named, by dsimp only; omega⟩, by simp⟩
    obtain ⟨-, payload, data, members, -, -, -, received, rfl, rfl, -, line⟩ :=
      sends after count done
    have peers : (node.registry.view.members.filter (Node.hears node.id)) = [heartbeat.member] := by
      apply List.perm_singleton.mp
      rw [known]
      exact ((Registry.members_perm _).filter _).trans (.of_eq (by decide +kernel))
    rw [peers] at done line
    refine ⟨after, data, payload, done, (line _).trans ?_, received⟩
    rfl
  · obtain ⟨-, -, fails, -⟩ :=
      run_sends_all_or_nothing .empty config _ running scope greeting (some ⟨"c"⟩)
    have unknown : node.aliveMember ⟨"c"⟩ = .error (.notMember ⟨"c"⟩) := by
      rw [known]
      decide +kernel
    exact fails _ (Node.sendMessage_of_unreachable running encoded unknown)

end Host

end ClusterCoordination
