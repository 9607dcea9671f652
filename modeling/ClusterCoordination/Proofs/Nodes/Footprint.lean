import ClusterCoordination.Proofs.Membership.Departures
import ClusterCoordination.Proofs.Membership.Mastership
import ClusterCoordination.Proofs.Nodes.Posting
/-!
# What a node touches

Whatever a node does, its members are the outcome of operations on its registry, and what it queues
are datagrams of its own. Here every piece of an activity gets its footprint: the operations it may
carry out and the datagrams it may queue.
-/

set_option autoImplicit false

namespace ClusterCoordination

theorem Roster.registry_perform (roster : Roster) (operation : Registry.Operation) :
    (roster.perform operation).registry = (roster.registry.perform operation).1 := by
  rw [perform_eq_follow]
  unfold follow publish
  split <;> rfl

namespace Node

structure Sends (permits : SocketAddress → Bytes → Prop) (before after : Node) : Prop where
  config : after.config = before.config
  seeds : after.seeds = before.seeds
  socket : after.socket = before.socket
  registry : after.registry = before.registry
  outbox : before.outbox.Reaches permits after.outbox

/-- The registry carries out operations that are allowed, and what is queued is permitted. -/
structure Does (allows : Registry.Operation → Prop) (permits : SocketAddress → Bytes → Prop)
    (before after : Node) : Prop where
  config : after.config = before.config
  seeds : after.seeds = before.seeds
  socket : after.socket = before.socket
  registry : ∃ operations, (∀ operation ∈ operations, allows operation) ∧
    after.registry = before.registry.performAll operations
  outbox : before.outbox.Reaches permits after.outbox

section

variable {allows : Registry.Operation → Prop} {permits : SocketAddress → Bytes → Prop}
variable {first second third : Node}

theorem Sends.refl (node : Node) : Sends permits node node := ⟨rfl, rfl, rfl, rfl, .refl⟩

theorem Sends.trans (one : Sends permits first second) (other : Sends permits second third) :
    Sends permits first third where
  config := other.config.trans one.config
  seeds := other.seeds.trans one.seeds
  socket := other.socket.trans one.socket
  registry := other.registry.trans one.registry
  outbox := one.outbox.trans other.outbox

theorem Sends.mono {more : SocketAddress → Bytes → Prop} (sends : Sends permits first second)
    (permitted : ∀ address data, permits address data → more address data) :
    Sends more first second :=
  { sends with outbox := sends.outbox.mono permitted }

theorem Posts.sends (posts : Posts permits first second) : Sends permits first second :=
  ⟨posts.config, posts.seeds, posts.socket, posts.registry, posts.outbox.reaches⟩

theorem Sends.does (sends : Sends permits first second) : Does allows permits first second where
  config := sends.config
  seeds := sends.seeds
  socket := sends.socket
  registry := ⟨[], by simp, sends.registry⟩
  outbox := sends.outbox

theorem Does.trans (one : Does allows permits first second)
    (other : Does allows permits second third) :
    Does allows permits first third where
  config := other.config.trans one.config
  seeds := other.seeds.trans one.seeds
  socket := other.socket.trans one.socket
  registry := by
    obtain ⟨earlier, allowed, became⟩ := one.registry
    obtain ⟨later, alsoAllowed, ended⟩ := other.registry
    refine ⟨earlier ++ later, ?_, ?_⟩
    · intro operation among
      exact (List.mem_append.mp among).elim (allowed operation) (alsoAllowed operation)
    · rw [ended, became, Registry.performAll, Registry.performAll, Registry.performAll,
        List.foldl_append]
  outbox := one.outbox.trans other.outbox

theorem does_perform (node : Node) (operation : Registry.Operation) (allowed : allows operation) :
    Does allows permits node { node with roster := node.roster.perform operation } where
  config := rfl
  seeds := rfl
  socket := rfl
  registry := ⟨[operation], by simpa using allowed, node.roster.registry_perform operation⟩
  outbox := .refl

theorem sends_foldl {Item : Type} {step : Node → Item → Node} (items : List Item) (node : Node)
    (each : ∀ current item, item ∈ items → current.config = node.config →
      current.registry = node.registry → Sends permits current (step current item)) :
    Sends permits node (items.foldl step node) := by
  have loop (rest : List Item) (within : ∀ item ∈ rest, item ∈ items) (current : Node)
      (sends : Sends permits node current) : Sends permits node (rest.foldl step current) := by
    induction rest generalizing current with
    | nil => exact sends
    | cons item rest ih =>
      apply ih
      · intro later among
        exact within later (List.mem_cons_of_mem item among)
      · exact sends.trans
          (each current item (within item List.mem_cons_self) sends.config sends.registry)
  exact loop items (fun _ among => among) node (.refl node)

end

section

variable {permits : SocketAddress → Bytes → Prop}

theorem sends_retain (node : Node) (keep : SocketAddress → Bool) :
    Sends permits node { node with outbox := node.outbox.retain keep } :=
  ⟨rfl, rfl, rfl, rfl, Outbox.Reaches.refl.retain keep⟩

theorem sends_sendControl {node : Node} {sample : PeerSample} {address : SocketAddress}
    {kind : ControlKind}
    (permitted : ∀ data, node.controlDatagram sample kind = .ok data → permits address data) :
    Sends permits node (node.sendControl sample address kind) :=
  (posts_sendControl permitted).sends

/-- A datagram that a node with these members could make: a control frame, or anything else. -/
def Speaks (config : Config) (registry : Registry) (data : Bytes) : Prop :=
  ∃ node : Node, node.config = config ∧ node.registry = registry ∧
    ((∃ sample kind, node.controlDatagram sample kind = .ok data) ∨
      ∃ scope payload, scope ≠ RawScope.control ∧ node.datagram scope payload = .ok data)

abbrev Utters (before after : Node) : Prop :=
  Sends (fun _ data => Speaks before.config before.registry data) before after

variable {node : Node}

theorem speaks_controlDatagram {current : Node} (config : current.config = node.config)
    (registry : current.registry = node.registry) {sample : PeerSample} {kind : ControlKind}
    {data : Bytes} (made : current.controlDatagram sample kind = .ok data) :
    Speaks node.config node.registry data :=
  ⟨current, config, registry, .inl ⟨sample, kind, made⟩⟩

theorem speaks_datagram {current : Node} (config : current.config = node.config) {scope : Int16}
    (other : scope ≠ RawScope.control) {payload data : Bytes}
    (made : current.datagram scope payload = .ok data) : Speaks node.config node.registry data :=
  ⟨node, rfl, rfl, .inr ⟨scope, payload, other, datagram_congr config scope payload ▸ made⟩⟩

theorem Signals.speaks {config : Config} {registry : Registry} {data : Bytes}
    (signals : Signals config registry data) : Speaks config registry data := by
  obtain ⟨node, sameConfig, sameRegistry,
      ⟨sample, kind, -, made⟩ | ⟨scope, payload, internal, made⟩⟩ :=
    signals
  · exact ⟨node, sameConfig, sameRegistry, .inl ⟨sample, kind, made⟩⟩
  · have other : scope ≠ RawScope.control := by rcases internal with rfl | rfl <;> decide
    exact ⟨node, sameConfig, sameRegistry, .inr ⟨scope, payload, other, made⟩⟩

theorem Notifies.utters {before after : Node} (notifies : before.Notifies after) :
    before.Utters after :=
  (notifies.mono fun _ _ => Signals.speaks).sends

theorem Utters.trans {first second third : Node} (one : first.Utters second)
    (other : second.Utters third) : first.Utters third := by
  refine Sends.trans one (other.mono ?_)
  intro _ data spoken
  rwa [one.config, one.registry] at spoken

theorem utters_sendControl (node : Node) (sample : PeerSample) (address : SocketAddress)
    (kind : ControlKind) : node.Utters (node.sendControl sample address kind) :=
  sends_sendControl fun _ made => speaks_controlDatagram rfl rfl made

end

section

variable (node : Node)

theorem finishHandling_eq (handling : Handling) :
    ∃ dispatched, (node.finishHandling handling).1 =
      { node with traffic := { node.traffic with dispatched := dispatched }, busy := none } := by
  unfold finishHandling
  dsimp only
  split <;> exact ⟨_, rfl⟩

theorem accept_eq (now : Instant) (handed : Handed Handling) :
    ∃ dispatched dropped busy, (node.accept now handed).1 =
      { node with
        traffic := { node.traffic with dispatched := dispatched, dropped := dropped }
        busy := busy } := by
  unfold accept
  split
  · exact ⟨_, _, node.busy, rfl⟩
  · exact ⟨_, _, node.busy, rfl⟩
  · split
    · obtain ⟨dispatched, freed⟩ := node.finishHandling_eq ‹_›
      exact ⟨dispatched, _, none, freed⟩
    · exact ⟨_, _, _, rfl⟩

theorem dispatchMessage_eq (now : Instant) (message : InboundMessage) :
    ∃ dispatched dropped busy, (node.dispatchMessage now message).1 =
      { node with
        traffic := { node.traffic with dispatched := dispatched, dropped := dropped }
        busy := busy } :=
  node.accept_eq now _

theorem dispatchMessages_eq (now : Instant) (messages : List InboundMessage) (node : Node) :
    ∃ dispatched dropped inbound busy, (dispatchMessages now messages node).1 =
      { node with
        traffic := { node.traffic with dispatched := dispatched, dropped := dropped }
        inbound := inbound
        busy := busy } := by
  induction messages generalizing node with
  | nil => exact ⟨_, _, [], node.busy, rfl⟩
  | cons message rest ih =>
    obtain ⟨dispatched, dropped, busy, handed⟩ := node.dispatchMessage_eq now message
    unfold dispatchMessages
    dsimp only
    rw [handed]
    split
    · exact ⟨dispatched, dropped, rest, busy, rfl⟩
    · exact ih _

theorem handleMessages_eq (now : Instant) :
    ∃ dispatched dropped inbound busy, (node.handleMessages now).1 =
      { node with
        traffic := { node.traffic with dispatched := dispatched, dropped := dropped }
        inbound := inbound
        busy := busy } := by
  unfold handleMessages
  split
  · exact dispatchMessages_eq now node.inbound node
  · split
    · exact ⟨_, _, node.inbound, node.busy, rfl⟩
    next busy _ _ =>
      obtain ⟨dispatched, freed⟩ := node.finishHandling_eq busy.handling
      dsimp only
      rw [freed]
      exact dispatchMessages_eq now node.inbound _

theorem utters_handleMessages (now : Instant) : node.Utters (node.handleMessages now).1 := by
  obtain ⟨_, _, _, _, handled⟩ := node.handleMessages_eq now
  rw [handled]
  exact ⟨rfl, rfl, rfl, rfl, .refl⟩

theorem scope_ne_control (scope : Scope) : scope.value ≠ RawScope.control := by
  intro same
  have positive := scope.positive
  rw [same] at positive
  exact absurd positive (by decide)

theorem utters_sendMessage {scope : Scope} {message : Payload} {target : Option MemberId}
    {after : Node} {count : Nat}
    (done : node.sendMessage scope message target = .ok (after, count)) :
    node.Utters after := by
  obtain ⟨payload, data, -, made, rfl⟩ := sendMessage_eq_ok done
  refine ((node.posts_enqueue_all _ data).mono ?_).sends
  rintro _ _ rfl
  exact speaks_datagram rfl (scope_ne_control scope) made

end

section

theorem utters_beginStop {node after : Node} {choice : PeerChoice}
    (stopping : node.beginStop choice = .ok after) : node.Utters after := by
  have begun : node.Utters { node with lifecycle := .stopping, stopRequested := true } :=
    ⟨rfl, rfl, rfl, rfl, .refl⟩
  have said : Posts (fun _ data => Speaks node.config node.registry data)
      { node with lifecycle := .stopping, stopRequested := true } after :=
    (posts_beginStop stopping fun _ made _ _ => speaks_controlDatagram rfl rfl made).2
  exact begun.trans said.sends

end

end Node

end ClusterCoordination
