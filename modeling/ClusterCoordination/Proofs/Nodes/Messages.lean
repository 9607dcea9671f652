import ClusterCoordination.Proofs.Network.Lines
import ClusterCoordination.Proofs.Nodes.Running
/-!
# Messages on their way through a node

A message is queued once for each of its recipients, and waits for its handler in the order in which
it arrived. Whatever else a node does, the messages it has queued and those that wait stay where
they are.
-/

set_option autoImplicit false

namespace ClusterCoordination

def InboundMessage.read? (data : Bytes) : Option InboundMessage :=
  match Datagram.decode data with
  | .error _ => none
  | .ok datagram =>
    match datagram.content with
    | .message scope payload => some ⟨⟨datagram.sender⟩, scope, payload⟩
    | .control _ | .request _ | .response _ | .unreadable => none

namespace Outbox

/-- The messages that have yet to be sent to an address, in order. -/
def messages (outbox : Outbox) (address : SocketAddress) : List InboundMessage :=
  (outbox.line address).filterMap InboundMessage.read?

/-- Those of them that are in dropped queues. -/
def stale (outbox : Outbox) (address : SocketAddress) : List InboundMessage :=
  (outbox.leftover address).filterMap InboundMessage.read?

theorem stale_subset {before after : Outbox} {address : SocketAddress}
    (kept : ∀ data ∈ after.leftover address, data ∈ before.leftover address) :
    ∀ message ∈ after.stale address, message ∈ before.stale address := by
  intro message among
  obtain ⟨data, waits, read⟩ := List.mem_filterMap.mp among
  exact List.mem_filterMap.mpr ⟨data, kept data waits, read⟩

end Outbox

namespace Node

variable {node : Node}

theorem read?_of_message {scope : Scope} {payload data : Bytes}
    (made : node.datagram scope.value payload = .ok data) :
    InboundMessage.read? data = some ⟨node.id, scope, payload⟩ := by
  have request : scope.value ≠ RawScope.request := by
    intro same
    exact absurd (same ▸ scope.positive) (by decide)
  have response : scope.value ≠ RawScope.response := by
    intro same
    exact absurd (same ▸ scope.positive) (by decide)
  have content :
      Datagram.content ⟨scope.value, node.id.text, payload⟩ = .message scope payload := by
    simp [Datagram.content, scope_ne_control scope, request, response, Scope.ofValue,
      scope.positive]
  simp only [InboundMessage.read?, decode_of_datagram made, content]

theorem read?_of_controlDatagram {sample : PeerSample} {kind : ControlKind} {data : Bytes}
    (made : node.controlDatagram sample kind = .ok data) : InboundMessage.read? data = none := by
  obtain ⟨datagram, decoded, content, -⟩ := ControlFrame.read?_eq_some (read?_controlDatagram made)
  simp only [InboundMessage.read?, decoded, content]

theorem read?_of_signals {config : Config} {registry : Registry} {data : Bytes}
    (signals : Signals config registry data) : InboundMessage.read? data = none := by
  obtain ⟨speaker, -, -, ⟨sample, kind, -, made⟩ | ⟨scope, payload, internal, made⟩⟩ := signals
  · exact read?_of_controlDatagram made
  · have content (message : Scope) (bytes : Bytes) :
        Datagram.content ⟨scope, speaker.id.text, payload⟩ ≠ .message message bytes := by
      unfold Datagram.content Content.ofArchive
      rcases internal with rfl | rfl <;> repeat' split
      all_goals simp_all [RawScope.request, RawScope.response]
    unfold InboundMessage.read?
    rw [decode_of_datagram made]
    dsimp only
    split
    next message bytes carried => exact absurd carried (content message bytes)
    all_goals rfl

theorem line_enqueueAll (keyed : node.outbox.Keyed) (opened : node.outbox.closed = false)
    (members : List Member) (data : Bytes) (address : SocketAddress) :
    (members.foldl (fun current member => current.enqueue member.address data) node).outbox.line
        address =
      node.outbox.line address ++
        (members.filter fun member => member.address = address).map fun _ => data := by
  induction members generalizing node with
  | nil => exact (List.append_nil _).symm
  | cons member rest ih =>
    have queued : (node.enqueue member.address data).outbox =
        (node.outbox.push member.address ⟨data, none⟩).1 :=
      node.outbox_push member.address _
    rw [List.foldl_cons, ih (queued ▸ keyed.push _ _) (by rw [queued, Outbox.closed_push, opened]),
      queued, keyed.line_push opened]
    by_cases here : member.address = address <;> simp [here]

theorem messages_enqueue_all {members : List Member} {data : Bytes} {message : InboundMessage}
    (read : InboundMessage.read? data = some message) (keyed : node.outbox.Keyed)
    (opened : node.outbox.closed = false) (address : SocketAddress) :
    (members.foldl (fun current member => current.enqueue member.address data) node).outbox.messages
        address =
      node.outbox.messages address ++
        (members.filter fun member => member.address = address).map fun _ => message := by
  rw [Outbox.messages, line_enqueueAll keyed opened, List.filterMap_append, List.filterMap_map,
    ← Outbox.messages]
  congr 1
  exact List.filterMap_eq_map_iff_forall_eq_some.mpr fun _ _ => read

/--
What a node becomes when it neither sends messages nor hands any over: some may have arrived, and
queues for some addresses may have been dropped.
-/
structure Stirs (arrived : List InboundMessage) (drops : SocketAddress → Prop)
    (before after : Node) :
    Prop where
  config : after.config = before.config
  socket : after.socket = before.socket
  lifecycle : after.lifecycle = before.lifecycle ∨
    (before.lifecycle = .running ∧ after.lifecycle = .stopping)
  inbound : after.inbound = before.inbound ++ arrived
  busy : after.busy = before.busy
  outbox : before.outbox.Pushes (fun _ data => InboundMessage.read? data = none) after.outbox ∨
    ∃ keep, after.outbox = before.outbox.retain keep ∧
      ∀ address, ¬ drops address → keep address = true

section

variable {before after : Node} {arrived : List InboundMessage} {drops : SocketAddress → Prop}

theorem Notifies.stirs (notifies : before.Notifies after) : Stirs [] drops before after where
  config := notifies.config
  socket := notifies.socket
  lifecycle := .inl notifies.lifecycle
  inbound := by rw [notifies.inbound, List.append_nil]
  busy := notifies.busy
  outbox := .inl (notifies.outbox.mono fun _ _ => read?_of_signals)

theorem Stirs.refl (node : Node) : Stirs [] drops node node := Notifies.stirs (Posts.refl node)

theorem Stirs.keyed (stirs : Stirs arrived drops before after) (keyed : before.outbox.Keyed) :
    after.outbox.Keyed ∧ after.outbox.closed = before.outbox.closed := by
  rcases stirs.outbox with pushes | ⟨keep, retained, -⟩
  · obtain ⟨stillKeyed, closed, -⟩ := pushes.line keyed
    exact ⟨stillKeyed, closed⟩
  · rw [retained]
    exact ⟨keyed.retain keep, rfl⟩

theorem Stirs.messages (stirs : Stirs arrived drops before after) (keyed : before.outbox.Keyed)
    (address : SocketAddress) : after.outbox.messages address = before.outbox.messages address := by
  rcases stirs.outbox with pushes | ⟨keep, retained, -⟩
  · obtain ⟨-, -, lines⟩ := pushes.line keyed
    obtain ⟨⟨added, line, silent⟩, -⟩ := lines address
    rw [Outbox.messages, line, List.filterMap_append, List.filterMap_eq_nil_iff.mpr silent,
      List.append_nil, Outbox.messages]
  · rw [retained, Outbox.messages, Outbox.line_retain, Outbox.messages]

theorem Stirs.stale (stirs : Stirs arrived drops before after) (keyed : before.outbox.Keyed)
    {address : SocketAddress} (kept : ¬ drops address) :
    ∀ message ∈ after.outbox.stale address, message ∈ before.outbox.stale address := by
  apply Outbox.stale_subset
  rcases stirs.outbox with pushes | ⟨keep, retained, keeps⟩
  · exact ((pushes.line keyed).2.2 address).2
  · rw [retained]
    exact fun data waits => Outbox.leftover_retain (keeps address kept) waits

end

theorem foldl_failCalls_eq (reason : String) (members : List MemberId) (node : Node) :
    ∃ pending deliveries woken,
      members.foldl (fun current id => current.failCalls id reason) node =
        { node with pending := pending, deliveries := deliveries, woken := woken } := by
  induction members generalizing node with
  | nil => exact ⟨node.pending, node.deliveries, node.woken, rfl⟩
  | cons member rest ih => exact ih (node.failCalls member reason)

theorem markDead_eq (node : Node) (now : Instant) :
    ∃ pending deliveries woken, node.markDead now =
      { node with
        roster := (node.roster.checkLiveness now node.config.heartbeatTimeout).1
        pending := pending
        deliveries := deliveries
        woken := woken } :=
  foldl_failCalls_eq silentReason (node.roster.checkLiveness now node.config.heartbeatTimeout).2.1
    { node with roster := (node.roster.checkLiveness now node.config.heartbeatTimeout).1 }

theorem detectionRound_eq (node : Node) (now : Instant) :
    ∃ roster pending deliveries traffic woken, node.detectionRound now =
      { node with
        roster := roster
        pending := pending
        deliveries := deliveries
        traffic := traffic
        woken := woken
        outbox := node.outbox.retain fun address =>
          node.seeds.contains address || roster.registry.hasAddress address } := by
  obtain ⟨pending, deliveries, woken, marked⟩ := node.markDead_eq now
  rw [detectionRound, marked]
  exact ⟨_, _, _, _, _, rfl⟩

def Action.isSilent : Action → Bool
  | .handle _ | .message .. => false
  | _ => true

theorem act_stirs (node : Node) {action : Action} (silent : action.isSilent = true) :
    Stirs [] (fun address => (node.act action).registry.hasAddress address = false) node
      (node.act action) := by
  cases action with
  | handle now => simp [Action.isSilent] at silent
  | message scope payload target => simp [Action.isSilent] at silent
  | detect now =>
    obtain ⟨roster, _, _, _, _, round⟩ := node.detectionRound_eq now
    have keeps (address : SocketAddress) (kept : ¬ roster.registry.hasAddress address = false) :
        (node.seeds.contains address || roster.registry.hasAddress address) = true := by
      rw [Bool.not_eq_false] at kept
      rw [kept, Bool.or_true]
    simp only [act, round]
    exact ⟨rfl, rfl, .inl rfl, (List.append_nil _).symm, rfl, .inr ⟨_, rfl, keeps⟩⟩
  | beginStop choice =>
    simp only [act]
    cases stopped : node.beginStop choice with
    | error fault => exact .refl node
    | ok after =>
      have posts : node.lifecycle = .running ∧
          Posts (fun _ data => InboundMessage.read? data = none)
            { node with lifecycle := .stopping, stopRequested := true } after :=
        posts_beginStop stopped fun _ made _ _ => read?_of_controlDatagram made
      obtain ⟨running, posts⟩ := posts
      exact ⟨posts.config, posts.socket, .inr ⟨running, posts.lifecycle⟩,
        posts.inbound.trans (List.append_nil _).symm, posts.busy, .inl posts.outbox⟩
  | _ =>
    refine (node.act_notifies ?_).stirs
    exact trivial

def Farewell (data : Bytes) (address : SocketAddress) : Prop :=
  ∃ frame ∈ ControlFrame.read? data, frame.kind = .leave ∧ frame.address = address

instance (data : Bytes) (address : SocketAddress) : Decidable (Farewell data address) :=
  inferInstanceAs (Decidable (∃ frame ∈ _, _))

theorem onControlFrame_stirs (node : Node) (choice : PeerChoice) (now : Instant)
    (frame : ControlFrame) :
    Stirs [] (fun address => frame.kind = .leave ∧ frame.address = address) node
      (node.onControlFrame choice now frame) := by
  -- The members that there are once the frame has been taken in are those that the node asks with.
  have discovers {joined middle : Node} {choice : PeerChoice} (staying : frame.kind ≠ .leave)
      (begins : ∃ roster, joined = { node with roster := roster })
      (answered : Posts (joined.Answers frame) joined middle) :
      Stirs [] (fun address => frame.kind = .leave ∧ frame.address = address) node
        (middle.discover choice frame.peers) := by
    have asks : Posts (joined.Answers frame) middle (middle.discover choice frame.peers) := by
      refine (posts_discover staying).mono ?_
      intro address data
      exact (answers_congr answered.config answered.registry frame address data).mp
    have posts := answered.trans asks
    obtain ⟨roster, rfl⟩ := begins
    refine ⟨posts.config, posts.socket, .inl posts.lifecycle,
      posts.inbound.trans (List.append_nil _).symm, posts.busy, .inl (posts.outbox.mono ?_)⟩
    rintro address data (⟨-, -, _, made⟩ | ⟨-, _, -, -, -, -, _, made⟩)
    · exact read?_of_controlDatagram made
    · exact read?_of_controlDatagram made
  have leaves : frame.kind = .leave →
      node.onControlFrame choice now frame = node.bidFarewell now frame.member := by
    intro kind
    simp only [onControlFrame, kind]
  by_cases leaving : frame.kind = .leave
  · rw [leaves leaving]
    refine ⟨rfl, rfl, .inl rfl, (List.append_nil _).symm, rfl,
      .inr ⟨fun other => other ≠ frame.address, rfl, ?_⟩⟩
    intro address kept
    have other : address ≠ frame.address := fun same => kept ⟨leaving, same.symm⟩
    simpa using other
  · unfold onControlFrame
    split
    next kind =>
      refine discovers leaving ⟨_, rfl⟩ (posts_sendControl ?_)
      intro data made
      exact .inl ⟨kind, rfl, _, made⟩
    next =>
      exact discovers leaving (node.hear_eq now frame.member) (Posts.refl _)
    next kind => exact absurd kind leaving

theorem receive_stirs (node : Node) (choice : PeerChoice) (now : Instant) (data : Bytes) :
    Stirs (InboundMessage.read? data).toList (Farewell data) node
      (node.receive choice now data) := by
  have still (after : Node) (same : Stirs [] (Farewell data) node after)
      (silent : InboundMessage.read? data = none) :
      Stirs (InboundMessage.read? data).toList (Farewell data) node after := by
    rwa [silent]
  cases decoded : Datagram.decode data with
  | error fault =>
    have received : node.receive choice now data = node := by simp [receive, decoded]
    rw [received]
    exact still node (.refl node) (by simp [InboundMessage.read?, decoded])
  | ok datagram =>
    cases content : datagram.content with
    | control frame =>
      apply still _ _ (by simp [InboundMessage.read?, decoded, content])
      simp only [receive, decoded, content, onControl]
      split
      next => exact .refl node
      next counts =>
        simp only [not_or, Decidable.not_not] at counts
        have read : ControlFrame.read? data = some frame := by
          simp [ControlFrame.read?, decoded, content, counts.1]
        -- The frame counts, so an address whose queue is dropped is that of a farewell which was
        -- read.
        have stirs := node.onControlFrame_stirs choice now frame
        refine { stirs with outbox := stirs.outbox.imp_right ?_ }
        rintro ⟨keep, retained, keeps⟩
        refine ⟨keep, retained, fun address kept => keeps address ?_⟩
        rintro ⟨leaving, here⟩
        exact kept ⟨frame, read, leaving, here⟩
    | request request =>
      apply still _ _ (by simp [InboundMessage.read?, decoded, content])
      simp only [receive, decoded, content]
      exact Notifies.stirs ⟨rfl, rfl, rfl, rfl, rfl, rfl, rfl, rfl, .refl⟩
    | response response =>
      apply still _ _ (by simp [InboundMessage.read?, decoded, content])
      simp only [receive, decoded, content, onResponse]
      split <;> exact Notifies.stirs ⟨rfl, rfl, rfl, rfl, rfl, rfl, rfl, rfl, .refl⟩
    | message scope payload =>
      have read : InboundMessage.read? data = some ⟨⟨datagram.sender⟩, scope, payload⟩ := by
        simp [InboundMessage.read?, decoded, content]
      simp only [receive, decoded, content, onMessage, read]
      split <;> exact ⟨rfl, rfl, .inl rfl, rfl, rfl, .inl .refl⟩
    | unreadable =>
      apply still _ _ (by simp [InboundMessage.read?, decoded, content])
      simp only [receive, decoded, content]
      exact .refl node

def keeping (node : Node) (messages : List InboundMessage) : Node :=
  { node with inbound := messages }

def handNext (node : Node) (now : Instant) : Option (InboundMessage × Node) :=
  match node.busy, node.inbound with
  | none, message :: rest => some (message, ((node.keeping rest).dispatchMessage now message).1)
  | _, _ => none

def finishBusy (node : Node) (now : Instant) : Option Node :=
  match node.busy with
  | some busy => if now < busy.due then none else some (node.finishHandling busy.handling).1
  | none => none

theorem handNext_eq_some {now : Instant} {message : InboundMessage} {after : Node}
    (handed : node.handNext now = some (message, after)) :
    node.busy = none ∧ ∃ rest traffic busy, node.inbound = message :: rest ∧
      after = { node with inbound := rest, traffic := traffic, busy := busy } := by
  unfold handNext at handed
  split at handed
  next first rest idle inbound =>
    obtain ⟨_, _, busy, dispatched⟩ := (node.keeping rest).dispatchMessage_eq now first
    simp only [Option.some.injEq, Prod.mk.injEq] at handed
    obtain ⟨rfl, rfl⟩ := handed
    exact ⟨idle, rest, _, busy, inbound, dispatched⟩
  next => simp at handed

theorem finishBusy_eq_some {now : Instant} {after : Node}
    (finished : node.finishBusy now = some after) :
    ∃ traffic, after = { node with traffic := traffic, busy := none } := by
  unfold finishBusy at finished
  split at finished
  next busy _ =>
    split at finished
    · simp at finished
    · obtain ⟨_, freed⟩ := node.finishHandling_eq busy.handling
      exact ⟨_, (Option.some.inj finished).symm.trans freed⟩
  next => simp at finished

inductive Hands (now : Instant) : Node → List InboundMessage → Node → Prop where
  | none (node : Node) : Hands now node [] node
  | hand {node after last : Node} {message : InboundMessage} {rest : List InboundMessage}
      (handed : node.handNext now = some (message, after)) (later : Hands now after rest last) :
      Hands now node (message :: rest) last
  | finish {node after last : Node} {messages : List InboundMessage}
      (finished : node.finishBusy now = some after) (later : Hands now after messages last) :
      Hands now node messages last

theorem dispatchMessage_keeping (node : Node) (rest : List InboundMessage) (now : Instant)
    (message : InboundMessage) :
    (node.keeping rest).dispatchMessage now message =
      ((node.dispatchMessage now message).1.keeping rest,
        (node.dispatchMessage now message).2) := by
  have table : (node.keeping rest).handlers = node.handlers := rfl
  simp only [dispatchMessage, accept, table]
  cases node.handlers.hand message.sender message.scope message.payload with
  | unbound => rfl
  | undecodable status => rfl
  | handled handling =>
    simp only [finishHandling]
    split
    · split <;> rfl
    · rfl

theorem dispatchMessages_hands (now : Instant) (messages : List InboundMessage) {node : Node}
    (idle : node.busy = none) :
    ∃ handed, Hands now (node.keeping messages) handed (dispatchMessages now messages node).1 ∧
      messages = handed ++ (dispatchMessages now messages node).1.inbound := by
  induction messages generalizing node with
  | nil => exact ⟨[], .none _, rfl⟩
  | cons message rest ih =>
    have next : (node.keeping (message :: rest)).handNext now =
        some (message, (node.dispatchMessage now message).1.keeping rest) := by
      have first : (node.keeping (message :: rest)).handNext now =
          some (message, ((node.keeping rest).dispatchMessage now message).1) := by
        simp only [handNext, keeping, idle]
      rw [first, dispatchMessage_keeping]
    unfold dispatchMessages
    dsimp only
    split
    · exact ⟨[message], .hand next (.none _), rfl⟩
    next free =>
      have stillIdle : (node.dispatchMessage now message).1.busy = none := by simpa using free
      obtain ⟨handed, hands, split⟩ := ih stillIdle
      exact ⟨message :: handed, .hand next hands, congrArg (message :: ·) split⟩

/-- A node that handles its messages hands them over one by one, the oldest first. -/
theorem handleMessages_hands (node : Node) (now : Instant) :
    ∃ handed, Hands now node handed (node.handleMessages now).1 ∧
      node.inbound = handed ++ (node.handleMessages now).1.inbound := by
  unfold handleMessages
  split
  next idle => exact dispatchMessages_hands now node.inbound idle
  next busy occupied =>
    split
    · exact ⟨[], .none _, rfl⟩
    next due =>
      have finished : node.finishBusy now = some (node.finishHandling busy.handling).1 := by
        simp only [finishBusy, occupied, due, if_false]
      obtain ⟨_, freed⟩ := node.finishHandling_eq busy.handling
      have idle : (node.finishHandling busy.handling).1.busy = none := by rw [freed]
      have kept : (node.finishHandling busy.handling).1.inbound = node.inbound := by rw [freed]
      obtain ⟨handed, hands, split⟩ := dispatchMessages_hands now
        (node.finishHandling busy.handling).1.inbound idle
      exact ⟨handed, .finish finished hands, kept.symm.trans split⟩

end Node

end ClusterCoordination
