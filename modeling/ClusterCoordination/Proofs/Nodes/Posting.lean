import ClusterCoordination.Node.Handling
import ClusterCoordination.Node.Queries
import ClusterCoordination.Node.Rounds
import ClusterCoordination.Node.Serving
import ClusterCoordination.Node.Starting
import ClusterCoordination.Proofs.Calls.Polling
import ClusterCoordination.Proofs.Network.Queued
import ClusterCoordination.Proofs.Wire.ControlFrames
/-!
# What a node posts

Most of what a node does touches neither its members nor the messages that wait for their handlers.
It puts datagrams of the node into queues, none of which is a message, and drops no queue.
-/

set_option autoImplicit false

namespace ClusterCoordination

namespace Node

structure Posts (permits : SocketAddress → Bytes → Prop) (before after : Node) : Prop where
  config : after.config = before.config
  seeds : after.seeds = before.seeds
  socket : after.socket = before.socket
  lifecycle : after.lifecycle = before.lifecycle
  stopRequested : after.stopRequested = before.stopRequested
  registry : after.registry = before.registry
  inbound : after.inbound = before.inbound
  busy : after.busy = before.busy
  outbox : before.outbox.Pushes permits after.outbox

section

variable {permits : SocketAddress → Bytes → Prop} {first second third : Node}

theorem Posts.refl (node : Node) : Posts permits node node :=
  ⟨rfl, rfl, rfl, rfl, rfl, rfl, rfl, rfl, .refl⟩

theorem Posts.trans (one : Posts permits first second) (other : Posts permits second third) :
    Posts permits first third where
  config := other.config.trans one.config
  seeds := other.seeds.trans one.seeds
  socket := other.socket.trans one.socket
  lifecycle := other.lifecycle.trans one.lifecycle
  stopRequested := other.stopRequested.trans one.stopRequested
  registry := other.registry.trans one.registry
  inbound := other.inbound.trans one.inbound
  busy := other.busy.trans one.busy
  outbox := one.outbox.trans other.outbox

theorem Posts.mono {more : SocketAddress → Bytes → Prop} (posts : Posts permits first second)
    (permitted : ∀ address data, permits address data → more address data) :
    Posts more first second :=
  { posts with outbox := posts.outbox.mono permitted }

theorem posts_foldl {Item : Type} {step : Node → Item → Node} (items : List Item) (node : Node)
    (each : ∀ current item, item ∈ items → current.config = node.config →
      current.registry = node.registry → Posts permits current (step current item)) :
    Posts permits node (items.foldl step node) := by
  have loop (rest : List Item) (within : ∀ item ∈ rest, item ∈ items) (current : Node)
      (posts : Posts permits node current) : Posts permits node (rest.foldl step current) := by
    induction rest generalizing current with
    | nil => exact posts
    | cons item rest ih =>
      apply ih
      · intro later among
        exact within later (List.mem_cons_of_mem item among)
      · exact posts.trans
          (each current item (within item List.mem_cons_self) posts.config posts.registry)
  exact loop items (fun _ among => among) node (.refl node)

end

section

variable {permits : SocketAddress → Bytes → Prop} {node : Node}

theorem posts_acknowledge (node : Node) (acknowledgement : Acknowledgement) :
    Posts permits node (node.acknowledge acknowledgement) := by
  unfold acknowledge
  split <;> exact ⟨rfl, rfl, rfl, rfl, rfl, rfl, rfl, rfl, .refl⟩

theorem outbox_push (node : Node) (address : SocketAddress) (outgoing : Outgoing) :
    (node.push address outgoing).outbox = (node.outbox.push address outgoing).1 := by
  unfold push
  split
  next outbox drain wake result =>
    rw [result]
    dsimp only
    split <;> rfl
  next outbox result =>
    rw [result]
    dsimp only
    split
    · unfold acknowledge
      split <;> rfl
    · rfl

theorem posts_push {node : Node} {address : SocketAddress} {outgoing : Outgoing}
    (permitted : permits address outgoing.data) :
    Posts permits node (node.push address outgoing) := by
  have pushed : node.outbox.Pushes permits (node.outbox.push address outgoing).1 :=
    Outbox.Pushes.refl.push address outgoing permitted
  unfold push
  split
  next outbox drain wake result =>
    rw [result] at pushed
    dsimp only
    split <;> exact ⟨rfl, rfl, rfl, rfl, rfl, rfl, rfl, rfl, pushed⟩
  next outbox result =>
    rw [result] at pushed
    have refused : Posts permits node { node with outbox := outbox } :=
      ⟨rfl, rfl, rfl, rfl, rfl, rfl, rfl, rfl, pushed⟩
    dsimp only
    split
    · exact refused.trans (posts_acknowledge _ _)
    · exact refused

theorem queued_foldl_push {Item : Type} {step : Node → Item → Node} {address : Item → SocketAddress}
    (outgoing : Item → Outgoing) (asks : Item → Bool) (items : List Item) (node : Node)
    (fresh : node.outbox.Numbered) (opened : node.outbox.closed = false)
    (each : ∀ current item, current.config = node.config → current.registry = node.registry →
      step current item =
        if asks item then current.push (address item) (outgoing item) else current) :
    (items.foldl step node).outbox.queued =
      ((items.filter asks).map fun item => (address item, (outgoing item).data) : Multiset _) +
        node.outbox.queued := by
  induction items generalizing node with
  | nil => simp
  | cons item rest ih =>
    have first := each node item rfl rfl
    rw [List.foldl_cons, first]
    cases asked : asks item with
    | false =>
      rw [List.filter_cons_of_neg (by simp [asked])]
      exact ih node fresh opened each
    | true =>
      have pushed : Posts (fun _ _ => True) node (node.push (address item) (outgoing item)) :=
        posts_push trivial
      have next := ih (node.push (address item) (outgoing item))
        (pushed.outbox.reaches.numbered fresh) (pushed.outbox.reaches.closed.trans opened)
        fun current item config registry =>
          each current item (config.trans pushed.config) (registry.trans pushed.registry)
      rw [outbox_push, fresh.queued_push opened] at next
      rw [List.filter_cons_of_pos asked, List.map_cons, ← Multiset.cons_coe, Multiset.cons_add,
        ← Multiset.add_cons]
      exact next

theorem datagram_congr {first second : Node} (config : first.config = second.config) (scope : Int16)
    (payload : Bytes) :
    first.datagram scope payload = second.datagram scope payload := by
  simp only [datagram, Node.id, config]

theorem controlFrame_congr {first second : Node} (config : first.config = second.config)
    (registry : first.registry = second.registry) (sample : PeerSample) (kind : ControlKind) :
    first.controlFrame sample kind = second.controlFrame sample kind := by
  unfold controlFrame alivePeers Node.id
  rw [config, registry]

theorem controlDatagram_congr {first second : Node} (config : first.config = second.config)
    (registry : first.registry = second.registry) (sample : PeerSample) (kind : ControlKind) :
    first.controlDatagram sample kind = second.controlDatagram sample kind := by
  simp only [controlDatagram, controlFrame_congr config registry, frame, datagram_congr config]

theorem posts_sendControl {node : Node} {sample : PeerSample} {address : SocketAddress}
    {kind : ControlKind}
    (permitted : ∀ data, node.controlDatagram sample kind = .ok data → permits address data) :
    Posts permits node (node.sendControl sample address kind) := by
  unfold sendControl
  split
  next data made => exact posts_push (permitted data made)
  next => exact .refl node

theorem posts_sendJoins {node : Node} (choice : PeerChoice) {addresses : List SocketAddress}
    (permitted : ∀ address ∈ addresses, ∀ sample data,
      node.controlDatagram sample .join = .ok data → permits address data) :
    Posts permits node (node.sendJoins choice addresses) := by
  induction addresses generalizing node choice with
  | nil => exact .refl node
  | cons address others ih =>
    have first : Posts permits node (node.sendControl (choice 0) address .join) :=
      posts_sendControl (permitted address List.mem_cons_self _)
    refine first.trans (ih choice.rest ?_)
    intro other among sample data made
    rw [controlDatagram_congr first.config first.registry] at made
    exact permitted other (List.mem_cons_of_mem address among) sample data made

/--
A datagram that a node with these members could make, and that is neither message nor farewell.
-/
def Signals (config : Config) (registry : Registry) (data : Bytes) : Prop :=
  ∃ node : Node, node.config = config ∧ node.registry = registry ∧
    ((∃ sample kind, kind ≠ .leave ∧ node.controlDatagram sample kind = .ok data) ∨
      ∃ scope payload, (scope = RawScope.request ∨ scope = RawScope.response) ∧
        node.datagram scope payload = .ok data)

abbrev Notifies (before after : Node) : Prop :=
  Posts (fun _ data => Signals before.config before.registry data) before after

theorem signals_controlDatagram {current : Node} (config : current.config = node.config)
    (registry : current.registry = node.registry) {sample : PeerSample} {kind : ControlKind}
    {data : Bytes} (staying : kind ≠ .leave)
    (made : current.controlDatagram sample kind = .ok data) :
    Signals node.config node.registry data :=
  ⟨current, config, registry, .inl ⟨sample, kind, staying, made⟩⟩

theorem signals_frame {current : Node} (config : current.config = node.config) {scope : Int16}
    (internal : scope = RawScope.request ∨ scope = RawScope.response) {payload : Payload}
    {data : Bytes} (made : current.frame scope payload = .ok data) :
    Signals node.config node.registry data := by
  unfold frame at made
  split at made
  next bytes _ =>
    exact ⟨node, rfl, rfl, .inr ⟨scope, bytes, internal, datagram_congr config scope bytes ▸ made⟩⟩
  next => simp at made

theorem Notifies.trans {first second third : Node} (one : first.Notifies second)
    (other : second.Notifies third) : first.Notifies third := by
  refine Posts.trans one (other.mono ?_)
  intro _ data signalled
  rwa [one.config, one.registry] at signalled

theorem notifies_sendJoins (node : Node) (choice : PeerChoice) (addresses : List SocketAddress) :
    node.Notifies (node.sendJoins choice addresses) :=
  posts_sendJoins choice fun _ _ _ _ made => signals_controlDatagram rfl rfl (by decide) made

end

section

variable (node : Node)

theorem notifies_sendHeartbeats (sample : PeerSample) :
    node.Notifies (node.sendHeartbeats sample) := by
  unfold sendHeartbeats
  split
  next data made =>
    apply posts_foldl
    intro current member _ _ _
    exact posts_push (signals_controlDatagram rfl rfl (by decide) made)
  next => exact .refl node

theorem notifies_heartbeatRound (choice : PeerChoice) :
    node.Notifies (node.heartbeatRound choice) :=
  (node.notifies_sendHeartbeats (choice 0)).trans (notifies_sendJoins _ choice.rest _)

theorem notifies_answer (served : ServedRequest) (outcome : Except Status Bytes) :
    node.Notifies (node.answer served outcome) := by
  have counted : node.Notifies (node.forgetRequest served.id).countServed :=
    ⟨rfl, rfl, rfl, rfl, rfl, rfl, rfl, rfl, .refl⟩
  unfold answer
  dsimp only
  split
  next data made => exact counted.trans (posts_push (signals_frame rfl (.inr rfl) made))
  next => exact counted

theorem notifies_work (now : Instant) (served : ServedRequest) (due deadline : Instant)
    (ending : Ending) : node.Notifies (node.work now served due deadline ending) := by
  unfold work
  split
  · split
    · exact node.notifies_answer served _
    · exact ⟨rfl, rfl, rfl, rfl, rfl, rfl, rfl, rfl, .refl⟩
  · split <;> exact ⟨rfl, rfl, rfl, rfl, rfl, rfl, rfl, rfl, .refl⟩

theorem notifies_serve (clock : Clock) (request : RequestId) :
    node.Notifies (node.serve clock request) := by
  unfold serve
  split
  · exact .refl node
  · split
    · exact ⟨rfl, rfl, rfl, rfl, rfl, rfl, rfl, rfl, .refl⟩
    · split
      · unfold beginServing
        split
        · exact ⟨rfl, rfl, rfl, rfl, rfl, rfl, rfl, rfl, .refl⟩
        · split
          · exact node.notifies_answer _ _
          · exact node.notifies_work _ _ _ _ _
      · exact node.notifies_work _ _ _ _ _

end

section

theorem Polls.notifies {before after : Node} (polls : before.Polls after) :
    before.Notifies after := by
  induction polls with
  | refl => exact .refl before
  | take _ _ ih | count _ _ ih | abandon _ _ ih =>
    exact ih.trans ⟨rfl, rfl, rfl, rfl, rfl, rfl, rfl, rfl, .refl⟩

theorem notifies_beginRemote (node : Node) (clock : Clock) (target : Member) (request : CallRequest)
    (timeout : Duration) : node.Notifies (node.beginRemote clock target request timeout).1 := by
  have registered : node.Notifies (node.registerCall target.id (clock.now + timeout)).1 :=
    ⟨rfl, rfl, rfl, rfl, rfl, rfl, rfl, rfl, .refl⟩
  unfold beginRemote
  dsimp only
  split
  next => exact registered.trans (polls_settle _ _ _).notifies
  next data made =>
    refine registered.trans ?_
    have counted : Notifies (node.registerCall target.id (clock.now + timeout)).1
        (node.registerCall target.id (clock.now + timeout)).1.countIssued :=
      ⟨rfl, rfl, rfl, rfl, rfl, rfl, rfl, rfl, .refl⟩
    exact counted.trans (posts_push (signals_frame rfl (.inl rfl) made))

theorem Places.notifies {before after : Node} (places : before.Places after) :
    before.Notifies after := by
  induction places with
  | refl => exact .refl before
  | remote _ _ _ clock request timeout ih =>
    exact ih.trans (notifies_beginRemote _ clock _ request timeout)
  | polls _ polled ih => exact ih.trans polled.notifies

def survivors (node : Node) : List Member := node.registry.heartbeatTargets.filter Member.alive

theorem posts_sayFarewell {permits : SocketAddress → Bytes → Prop} {node : Node}
    {choice : PeerChoice} (permitted : ∀ data, node.controlDatagram (choice 0) .leave = .ok data →
      ∀ member ∈ node.survivors, permits member.address data) :
    Posts permits node (node.sayFarewell choice) := by
  unfold sayFarewell
  split
  next => exact .refl node
  next data made =>
    have noted : Posts permits node { node with farewells := node.survivors.map Member.id } :=
      ⟨rfl, rfl, rfl, rfl, rfl, rfl, rfl, rfl, .refl⟩
    refine noted.trans (posts_foldl _ _ ?_)
    intro current member told _ _
    exact posts_push (permitted data made member told)

theorem beginStop_eq_ok {node after : Node} {choice : PeerChoice}
    (stopping : node.beginStop choice = .ok after) :
    node.lifecycle = .running ∧ ∃ woken,
      after = Node.sayFarewell
        { node with lifecycle := .stopping, stopRequested := true, woken := woken } choice := by
  unfold beginStop transition at stopping
  split at stopping
  next => simp at stopping
  next state begun =>
    split at begun
    next running =>
      obtain rfl := Except.ok.inj begun
      exact ⟨running, _, (Except.ok.inj stopping).symm⟩
    next => simp at begun

theorem posts_beginStop {permits : SocketAddress → Bytes → Prop} {node after : Node}
    {choice : PeerChoice} (stopping : node.beginStop choice = .ok after)
    (permitted : ∀ data, node.controlDatagram (choice 0) .leave = .ok data →
      ∀ member ∈ node.survivors, permits member.address data) :
    node.lifecycle = .running ∧
      Posts permits { node with lifecycle := .stopping, stopRequested := true } after := by
  obtain ⟨running, woken, rfl⟩ := beginStop_eq_ok stopping
  have noted : Posts permits { node with lifecycle := .stopping, stopRequested := true }
      { node with lifecycle := .stopping, stopRequested := true, woken := woken } :=
    ⟨rfl, rfl, rfl, rfl, rfl, rfl, rfl, rfl, .refl⟩
  exact ⟨running, noted.trans (posts_sayFarewell permitted)⟩

end

def recipients (node : Node) : Option MemberId → List Member
  | none => node.alivePeers
  | some id => (node.aliveMember id).toOption.toList

theorem sendMessage_eq_ok {node after : Node} {scope : Scope} {message : Payload}
    {target : Option MemberId} {count : Nat}
    (done : node.sendMessage scope message target = .ok (after, count)) :
    ∃ payload data, message.encode = .ok payload ∧ node.datagram scope.value payload = .ok data ∧
      after = (node.recipients target).foldl
        (fun current member => current.enqueue member.address data) node := by
  unfold sendMessage at done
  split at done
  next => simp at done
  next =>
    split at done
    next => simp at done
    next payload encoded =>
      split at done
      next =>
        unfold broadcast at done
        split at done
        next => simp at done
        next data made =>
          simp only [Except.ok.injEq, Prod.mk.injEq] at done
          exact ⟨payload, data, encoded, made, done.1.symm⟩
      next id =>
        split at done
        next => simp at done
        next member alive =>
          split at done
          next => simp at done
          next data made =>
            simp only [Except.ok.injEq, Prod.mk.injEq] at done
            refine ⟨payload, data, encoded, made, ?_⟩
            rw [← done.1, recipients, alive]
            rfl

theorem posts_enqueue_all (node : Node) (members : List Member) (data : Bytes) :
    Posts (fun _ queued => queued = data) node
      (members.foldl (fun current member => current.enqueue member.address data) node) := by
  apply posts_foldl
  intro current member _ _ _
  exact posts_push rfl

end Node

end ClusterCoordination
