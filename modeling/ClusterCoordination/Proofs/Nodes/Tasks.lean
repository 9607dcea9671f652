import ClusterCoordination.Proofs.Nodes.Messages
/-!
# The tasks of a node

Drains, the reader and the task that hands messages to handlers make one step at a time. Whichever
of them does, messages leave the node, or one of its queues, in the order in which they got there.
-/

set_option autoImplicit false

namespace ClusterCoordination

def Node.completed (node : Node) (drain : DrainId) (result : Except NetworkFault Unit) : Node :=
  let (outbox, acknowledgement) := node.outbox.complete drain result
  let completed := { node with outbox := outbox }
  match acknowledgement with
  | some acknowledgement => completed.acknowledge acknowledgement
  | none => completed

def Outbox.sending? (outbox : Outbox) (drain : DrainId) : Option (SocketAddress × Bytes) :=
  (outbox.drain? drain).bind fun drain =>
    drain.sending.map fun outgoing => (drain.address, outgoing.data)

theorem Outbox.mem_line_of_sending? {outbox : Outbox} {drain : DrainId} {address : SocketAddress}
    {data : Bytes} (sending : outbox.sending? drain = some (address, data)) :
    data ∈ outbox.line address := by
  obtain ⟨known, found, taken⟩ := Option.bind_eq_some_iff.mp sending
  obtain ⟨outgoing, busy, same⟩ := Option.map_eq_some_iff.mp taken
  obtain ⟨rfl, rfl⟩ := Prod.mk.inj same
  refine mem_line.mpr ⟨known, List.mem_of_find?_eq_some found, rfl, ?_⟩
  simp [Drain.pending, busy]

namespace Node

structure Sane (config : Config) (node : Node) : Prop where
  configured : node.config = config
  keyed : node.outbox.Keyed
  unique : node.registry.UniqueIds
  own : ∀ address, ∀ message ∈ node.outbox.messages address, message.sender = config.id
  shut : node.outbox.closed = true → node.lifecycle = .stopped ∧ node.socket = none

section

variable {config : Config} {node after : Node}

theorem sane_new (config : Config) : Sane config (new config) where
  configured := rfl
  keyed := Outbox.keyed_empty
  unique := List.nodup_nil
  own := by simp [new, Outbox.messages, Outbox.line, Outbox.empty]
  shut := by simp [new, Outbox.empty]

theorem Sane.queues (sane : Sane config node) (opened : node.socket.isSome = true) :
    node.outbox.closed = false := by
  cases closed : node.outbox.closed with
  | false => rfl
  | true =>
    rw [(sane.shut closed).2] at opened
    simp at opened

theorem Does.unique {allows : Registry.Operation → Prop} {permits : SocketAddress → Bytes → Prop}
    (does : Does allows permits node after) (unique : node.registry.UniqueIds) :
    after.registry.UniqueIds := by
  obtain ⟨operations, -, registry⟩ := does.registry
  rw [registry]
  exact Registry.performAll_unique unique operations

theorem unique_receive (choice : PeerChoice) (now : Instant) (data : Bytes)
    (unique : node.registry.UniqueIds) : (node.receive choice now data).registry.UniqueIds := by
  rcases node.receive_cases choice now data with sends | ⟨frame, -, -, received⟩
  · rwa [sends.registry]
  · rw [received]
    exact (node.onControlFrame_does choice now frame).unique unique

theorem Sane.stirs (sane : Sane config node) {arrived : List InboundMessage}
    {drops : SocketAddress → Prop} (stirs : Stirs arrived drops node after)
    (unique : after.registry.UniqueIds) : Sane config after := by
  obtain ⟨keyed, closed⟩ := stirs.keyed sane.keyed
  refine ⟨stirs.config.trans sane.configured, keyed, unique, ?_, ?_⟩
  · intro address
    rw [stirs.messages sane.keyed]
    exact sane.own address
  · intro shut
    obtain ⟨stopped, unplugged⟩ := sane.shut (closed ▸ shut)
    refine ⟨?_, stirs.socket.trans unplugged⟩
    rcases stirs.lifecycle with same | ⟨running, -⟩
    · exact same.trans stopped
    · rw [stopped] at running
      simp at running

theorem Sane.reduce (sane : Sane config node) (same : after.config = node.config)
    (registry : after.registry = node.registry) (keyed : after.outbox.Keyed)
    (closed : after.outbox.closed = node.outbox.closed)
    (lifecycle : after.lifecycle = node.lifecycle) (socket : after.socket = node.socket)
    (fewer : ∀ address, ∀ message ∈ after.outbox.messages address,
      message ∈ node.outbox.messages address) : Sane config after where
  configured := same.trans sane.configured
  keyed := keyed
  unique := registry ▸ sane.unique
  own := fun address message among => sane.own address message (fewer address message among)
  shut := by
    rw [closed, lifecycle, socket]
    exact sane.shut

theorem Sane.take (sane : Sane config node) (drain : DrainId) :
    Sane config { node with outbox := (node.outbox.take drain).1 } := by
  refine sane.reduce rfl rfl (sane.keyed.take drain) (Outbox.closed_take _ _) rfl rfl ?_
  intro address
  rw [Outbox.messages, (sane.keyed.line_take drain address).1]
  exact fun _ among => among

theorem completed_eq (node : Node) (drain : DrainId) (result : Except NetworkFault Unit) :
    ∃ acknowledgements farewells woken, node.completed drain result =
      { node with
        outbox := (node.outbox.complete drain result).1
        acknowledgements := acknowledgements
        farewells := farewells
        woken := woken } := by
  unfold completed acknowledge
  dsimp only
  split
  · split <;> exact ⟨_, _, _, rfl⟩
  · exact ⟨_, _, _, rfl⟩

theorem Sane.completed (sane : Sane config node) (drain : DrainId)
    (result : Except NetworkFault Unit) : Sane config (node.completed drain result) := by
  obtain ⟨_, _, _, completed⟩ := node.completed_eq drain result
  rw [completed]
  refine sane.reduce rfl rfl (sane.keyed.complete drain result) (Outbox.closed_complete _ _ _) rfl
    rfl ?_
  intro address message among
  cases found : node.outbox.drain? drain with
  | none =>
    have same : (node.outbox.complete drain result).1 = node.outbox := by
      simp [Outbox.complete, found]
    rwa [same] at among
  | some known =>
    obtain rfl : known.id = drain := by simpa using List.find?_some found
    obtain ⟨ahead, behind, before, afterwards, -⟩ :=
      sane.keyed.line_complete (List.mem_of_find?_eq_some found) result address
    obtain ⟨data, waits, read⟩ := List.mem_filterMap.mp among
    refine List.mem_filterMap.mpr ⟨data, ?_, read⟩
    rw [afterwards] at waits
    rw [before]
    simp only [List.mem_append] at waits ⊢
    exact waits.elim (fun old => .inl (.inl old)) .inr

theorem Sane.sendMessage (sane : Sane config node) {scope : Scope} {message : Payload}
    {target : Option MemberId} {number : Nat}
    (done : node.sendMessage scope message target = .ok (after, number)) : Sane config after := by
  obtain ⟨payload, data, -, made, rfl⟩ := sendMessage_eq_ok done
  have posts := node.posts_enqueue_all (node.recipients target) data
  obtain ⟨keyed, closed, lines⟩ := posts.outbox.line sane.keyed
  refine ⟨posts.config.trans sane.configured, keyed, posts.registry ▸ sane.unique, ?_, ?_⟩
  · intro address sent among
    obtain ⟨⟨added, line, same⟩, -⟩ := lines address
    rw [Outbox.messages, line, List.filterMap_append] at among
    rcases List.mem_append.mp among with old | new
    · exact sane.own address sent old
    · obtain ⟨queued, waits, read⟩ := List.mem_filterMap.mp new
      rw [same queued waits, read?_of_message made, Option.some.injEq] at read
      rw [← read, Node.id, sane.configured]
  · rw [closed, posts.lifecycle, posts.socket]
    exact sane.shut

theorem beginStart_eq_ok {starting : Node} (begun : node.beginStart = .ok starting) :
    node.lifecycle = .created ∧ starting = { node with lifecycle := .starting } := by
  unfold beginStart transition at begun
  split at begun
  next created => exact ⟨created, (Except.ok.inj begun).symm⟩
  next => simp at begun

theorem Sane.beginStart (sane : Sane config node) {starting : Node}
    (begun : node.beginStart = .ok starting) :
    Sane config starting ∧ starting.outbox.closed = false := by
  obtain ⟨created, rfl⟩ := beginStart_eq_ok begun
  have opened : node.outbox.closed = false := by
    cases closed : node.outbox.closed with
    | false => rfl
    | true =>
      rw [(sane.shut closed).1] at created
      simp at created
  exact ⟨⟨sane.configured, sane.keyed, sane.unique, sane.own, by simp [opened]⟩, opened⟩

theorem Sane.failStart (sane : Sane config node) (opened : node.outbox.closed = false) :
    Sane config node.failStart :=
  ⟨sane.configured, sane.keyed, sane.unique, sane.own, by simp [Node.failStart, opened]⟩

theorem Sane.finishStart (sane : Sane config node) (opened : node.outbox.closed = false)
    (choice : PeerChoice) (now : Instant) (socket : SocketId) :
    Sane config (node.finishStart choice now socket) := by
  let joined : Node :=
    { node with socket := some socket, seeds := node.config.seedAddresses }.join now
      node.config.member
  have asks : joined.Notifies (joined.sendJoins choice node.config.seedAddresses) :=
    joined.notifies_sendJoins choice _
  have stirs : Stirs [] (fun _ => False) joined _ := asks.stirs
  obtain ⟨keyed, closed⟩ := stirs.keyed sane.keyed
  have joins : joined.registry = (node.registry.join now node.config.member).1 :=
    node.roster.registry_perform (.join now node.config.member)
  have unique : joined.registry.UniqueIds :=
    joins ▸ (Registry.join_step sane.unique now node.config.member).unique sane.unique
  refine ⟨asks.config.trans sane.configured, keyed, asks.registry ▸ unique, ?_, ?_⟩
  · intro address message among
    exact sane.own address message (stirs.messages sane.keyed address ▸ among)
  · intro shut
    have closing : joined.outbox.closed = true := closed ▸ shut
    rw [show joined.outbox.closed = false from opened] at closing
    simp at closing

theorem Sane.finishStop (sane : Sane config node) (now : Instant) :
    Sane config (node.finishStop now) where
  configured := sane.configured
  keyed := sane.keyed.shutdown
  unique := by
    have leaves : (node.finishStop now).registry = (node.registry.leave now node.id).1 :=
      node.roster.registry_perform (.leave now node.id)
    rw [leaves]
    exact (Registry.leave_step node.registry now node.id).unique sane.unique
  own := by
    intro address message among
    change message ∈ node.outbox.shutdown.messages address at among
    rw [Outbox.messages, Outbox.line_shutdown] at among
    exact sane.own address message among
  shut := fun _ => ⟨rfl, rfl⟩

theorem Sane.handNext (sane : Sane config node) {now : Instant} {message : InboundMessage}
    (handed : node.handNext now = some (message, after)) : Sane config after := by
  obtain ⟨-, _, _, _, -, rfl⟩ := handNext_eq_some handed
  exact ⟨sane.configured, sane.keyed, sane.unique, sane.own, sane.shut⟩

theorem Sane.finishBusy (sane : Sane config node) {now : Instant}
    (finished : node.finishBusy now = some after) : Sane config after := by
  obtain ⟨_, rfl⟩ := finishBusy_eq_some finished
  exact ⟨sane.configured, sane.keyed, sane.unique, sane.own, sane.shut⟩

/-- The messages that a node gives away and gets: by address where they leave it. -/
structure Flow where
  handed : List InboundMessage
  read : List InboundMessage
  departed : SocketAddress → List InboundMessage
  posted : SocketAddress → List InboundMessage

def Flow.none : Flow := ⟨[], [], fun _ => [], fun _ => []⟩

structure Passes (flow : Flow) (drops : SocketAddress → Prop) (before after : Node) : Prop where
  socket : after.socket = before.socket
  inbound : flow.handed ++ after.inbound = before.inbound ++ flow.read
  outbox : ∀ address, before.outbox.stale address = [] →
    flow.departed address ++ after.outbox.messages address =
      before.outbox.messages address ++ flow.posted address
  stale : ∀ address, ¬ drops address → before.outbox.stale address = [] →
    after.outbox.stale address = []

def letters (node : Node) (scope : Scope) (message : Payload) (target : Option MemberId)
    (address : SocketAddress) : List InboundMessage :=
  match message.encode with
  | .ok payload =>
    ((node.recipients target).filter fun member => member.address = address).map fun _ =>
      ⟨node.id, scope, payload⟩
  | .error _ => []

def departing (node : Node) (drain : DrainId) (address : SocketAddress) : List InboundMessage :=
  (node.outbox.sending? drain).toList.filterMap fun item =>
    if item.1 = address then InboundMessage.read? item.2 else none

theorem stale_eq_nil {before after : Outbox} {address : SocketAddress}
    (kept : ∀ data ∈ after.leftover address, data ∈ before.leftover address)
    (settled : before.stale address = []) : after.stale address = [] := by
  apply List.eq_nil_iff_forall_not_mem.mpr
  intro message among
  have older := Outbox.stale_subset kept message among
  rw [settled] at older
  simp at older

variable {drops : SocketAddress → Prop}

theorem passes_refl (node : Node) : Passes .none drops node node where
  socket := rfl
  inbound := (List.append_nil _).symm
  outbox := fun _ _ => (List.append_nil _).symm
  stale := fun _ _ settled => settled

theorem Passes.mono {flow : Flow} {more : SocketAddress → Prop}
    (passes : Passes flow drops node after)
    (within : ∀ address, drops address → more address) : Passes flow more node after :=
  { passes with stale := fun address kept => passes.stale address (mt (within address) kept) }

theorem Stirs.passes {arrived : List InboundMessage} (stirs : Stirs arrived drops node after)
    (keyed : node.outbox.Keyed) : Passes { Flow.none with read := arrived } drops node after where
  socket := stirs.socket
  inbound := stirs.inbound
  outbox := by
    intro address _
    rw [stirs.messages keyed]
    exact (List.append_nil _).symm
  stale := by
    intro address kept settled
    apply List.eq_nil_iff_forall_not_mem.mpr
    intro message among
    have older := stirs.stale keyed kept message among
    rw [settled] at older
    simp at older

theorem passes_sendMessage (keyed : node.outbox.Keyed) (opened : node.outbox.closed = false)
    {scope : Scope} {message : Payload} {target : Option MemberId} {number : Nat}
    (done : node.sendMessage scope message target = .ok (after, number)) :
    Passes { Flow.none with posted := node.letters scope message target } drops node after := by
  obtain ⟨payload, data, encoded, made, rfl⟩ := sendMessage_eq_ok done
  have posts := node.posts_enqueue_all (node.recipients target) data
  refine ⟨posts.socket, ?_, ?_, ?_⟩
  · rw [posts.inbound]
    exact (List.append_nil _).symm
  · intro address _
    rw [messages_enqueue_all (read?_of_message made) keyed opened]
    simp [Flow.none, letters, encoded]
  · intro address _
    exact stale_eq_nil ((posts.outbox.line keyed).2.2 address).2

theorem passes_take (keyed : node.outbox.Keyed) (drain : DrainId) :
    Passes .none drops node { node with outbox := (node.outbox.take drain).1 } where
  socket := rfl
  inbound := (List.append_nil _).symm
  outbox := by
    intro address _
    rw [Outbox.messages, (keyed.line_take drain address).1]
    exact (List.append_nil _).symm
  stale := by
    intro address _ settled
    rw [Outbox.stale, (keyed.line_take drain address).2]
    exact settled

theorem departing_eq {drain : Drain} (keyed : node.outbox.Keyed)
    (present : drain ∈ node.outbox.drains) (address : SocketAddress) :
    node.departing drain.id address =
      (if drain.address = address then drain.sending.toList.map Outgoing.data else []).filterMap
        InboundMessage.read? := by
  have found := Outbox.drain?_of_nodup keyed.unique present
  cases sending : drain.sending with
  | none => simp [departing, Outbox.sending?, found, sending]
  | some outgoing =>
    by_cases here : drain.address = address <;>
      simp [departing, Outbox.sending?, found, sending, here, List.filterMap_cons]

theorem passes_completed (keyed : node.outbox.Keyed) (drain : DrainId)
    (result : Except NetworkFault Unit) :
    Passes { Flow.none with departed := node.departing drain } drops node
      (node.completed drain result) := by
  obtain ⟨_, _, _, completed⟩ := node.completed_eq drain result
  rw [completed]
  refine ⟨rfl, (List.append_nil _).symm, ?_,
    fun _ _ => stale_eq_nil fun _ => Outbox.leftover_complete⟩
  intro address settled
  cases found : node.outbox.drain? drain with
  | none =>
    have same : (node.outbox.complete drain result).1 = node.outbox := by
      simp [Outbox.complete, found]
    simp [departing, Outbox.sending?, found, same, Flow.none]
  | some known =>
    obtain rfl : known.id = drain := by simpa using List.find?_some found
    have present := List.mem_of_find?_eq_some found
    obtain ⟨ahead, behind, before, afterwards, older⟩ := keyed.line_complete present result address
    -- No message is ahead of what is sent, for that would be in a dropped queue.
    have silent : ahead.filterMap InboundMessage.read? = [] ∨ known.address ≠ address := by
      by_cases here : known.address = address
      · left
        apply List.filterMap_eq_nil_iff.mpr
        intro data waits
        rcases older data waits with dropped | other
        · exact List.filterMap_eq_nil_iff.mp settled data dropped
        · exact absurd here other
      · exact .inr here
    simp only [departing_eq keyed present, Outbox.messages, before, afterwards, Flow.none,
      List.filterMap_append, List.append_nil]
    rcases silent with empty | other
    · simp [empty]
    · simp [other]

theorem passes_handNext {now : Instant} {message : InboundMessage}
    (handed : node.handNext now = some (message, after)) :
    Passes { Flow.none with handed := [message] } drops node after := by
  obtain ⟨-, rest, _, _, inbound, rfl⟩ := handNext_eq_some handed
  refine ⟨rfl, ?_, fun _ _ => (List.append_nil _).symm, fun _ _ settled => settled⟩
  rw [inbound]
  exact (List.append_nil _).symm

theorem passes_finishBusy {now : Instant} (finished : node.finishBusy now = some after) :
    Passes .none drops node after := by
  obtain ⟨_, rfl⟩ := finishBusy_eq_some finished
  exact ⟨rfl, (List.append_nil _).symm, fun _ _ => (List.append_nil _).symm,
    fun _ _ settled => settled⟩

end

end Node

end ClusterCoordination
