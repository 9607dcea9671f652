import ClusterCoordination.Proofs.Lifecycle.Steps
/-!
# The stages of a host

How far a node has come says what it is like: untouched until its socket is open, then with nobody
but itself among its members, then up, and in the end down.
-/

set_option autoImplicit false

namespace ClusterCoordination

theorem Registry.record?_performAll_foreign {registry : Registry} (unique : registry.UniqueIds)
    {operations : List Registry.Operation}
    (foreign : ∀ operation ∈ operations, operation.Foreign registry.localId) {record : MemberRecord}
    (own : registry.record? registry.localId = some record) :
    (registry.performAll operations).record? registry.localId = some record := by
  apply performAll_record (fun found => found = some record) unique
  · rintro operation among place _ rfl
    exact (foreign operation among).spares_local (record?_eq_some own).2 place
  · exact own

namespace Host

/-- The farewells that have been queued so far. -/
def farewells (host : Host) : Multiset (SocketAddress × Bytes) :=
  host.posted.filter fun item => bidsFarewell item.2 = true

/-- The socket has not been opened, nor will it be if that has failed. -/
structure Idle (config : Config) (host : Host) : Prop where
  early : host.node.lifecycle = .created ∨ host.node.lifecycle = .starting ∨
    host.node.lifecycle = .failed
  node : host.node = { Node.new config with lifecycle := host.node.lifecycle }
  calls : host.calls = []
  handed : host.handed = []

/-- The socket is open, and the addresses of the seeds are being looked for. -/
structure Entered (config : Config) (host : Host) : Prop where
  node : ∃ now socket,
    host.node = ({ Node.new config with lifecycle := .starting } : Node).enter now socket
  calls : host.calls = []
  handed : host.handed = []

structure Registered (config : Config) (host : Host) : Prop where
  configured : host.node.config = config
  registry : host.node.registry.Sound
  owner : host.node.registry.localId = config.id
  outbox : host.node.outbox.Numbered

/-- The node runs, or says farewell. -/
structure Up (config : Config) (host : Host) : Prop extends Registered config host where
  begun : host.node.lifecycle = .running ∨ host.node.lifecycle = .stopping
  plugged : host.node.socket.isSome = true
  told : host.node.stopRequested = decide (host.node.lifecycle = .stopping)
  present : ∃ start, host.node.registry.record? config.id = some (.new 0 start config.member)
  opened : host.node.outbox.closed = false
  silent : host.node.lifecycle = .running → host.farewells = 0

/-- The node has given everything up, and may still hand over what it had queued. -/
structure Down (config : Config) (host : Host) : Prop extends Registered config host where
  ended : host.node.lifecycle = .stopping ∨ host.node.lifecycle = .stopped
  unplugged : host.node.socket = none
  told : host.node.stopRequested = true
  gone : ∃ record, host.node.registry.record? config.id = some record ∧ record.left = true
  idle : host.node.pending.calls = []
  closed : host.node.outbox.closed = true
  dropped : host.node.outbox.Dropped

inductive Stage (config : Config) (host : Host) : Prop where
  | idle (idle : host.Idle config)
  | entered (entered : host.Entered config)
  | up (up : host.Up config)
  | down (down : host.Down config)

section

variable {config : Config} {host after : Host}

theorem Continues.registered (continues : host.Continues after)
    (registered : host.Registered config) :
    after.Registered config := by
  obtain ⟨operations, -, registry⟩ := continues.registry
  refine ⟨continues.config.trans registered.configured, ?_, ?_,
    continues.flows.numbered registered.outbox⟩
  · rw [registry]
    exact registered.registry.performAll operations
  · rw [registry, Registry.performAll_localId registered.registry.unique, registered.owner]

theorem Continues.record? (continues : host.Continues after) (registered : host.Registered config)
    {record : MemberRecord} (own : host.node.registry.record? config.id = some record) :
    after.node.registry.record? config.id = some record := by
  obtain ⟨operations, foreign, registry⟩ := continues.registry
  have same : host.node.id = host.node.registry.localId := by
    rw [registered.owner, Node.id, registered.configured]
  rw [same] at foreign
  rw [← registered.owner] at own ⊢
  rw [registry]
  exact Registry.record?_performAll_foreign registered.registry.unique foreign own

theorem Continues.farewells (continues : host.Continues after) (fresh : host.node.outbox.Numbered) :
    after.farewells = host.farewells := by
  obtain ⟨added, total, staying, -⟩ := continues.flows.posted fresh
  have none : (added.filter fun item => bidsFarewell item.2 = true) = 0 := by
    apply Multiset.filter_eq_nil.mpr
    intro item among
    simp [staying item among]
  rw [Host.farewells, total, Multiset.filter_add, none, Multiset.add_zero, Host.farewells]

theorem Up.continues (up : host.Up config) (continues : host.Continues after) :
    after.Up config where
  toRegistered := continues.registered up.toRegistered
  begun := by
    rw [continues.lifecycle]
    exact up.begun
  plugged := by
    rw [continues.socket]
    exact up.plugged
  told := by rw [continues.stopRequested, continues.lifecycle, up.told]
  present := by
    obtain ⟨start, own⟩ := up.present
    exact ⟨start, continues.record? up.toRegistered own⟩
  opened := continues.flows.closed.trans up.opened
  silent := by
    rw [continues.lifecycle, continues.farewells up.outbox]
    exact up.silent

theorem Down.continues (down : host.Down config) (continues : host.Continues after) :
    after.Down config where
  toRegistered := continues.registered down.toRegistered
  ended := by
    rw [continues.lifecycle]
    exact down.ended
  unplugged := continues.socket.trans down.unplugged
  told := continues.stopRequested.trans down.told
  gone := by
    obtain ⟨record, own, left⟩ := down.gone
    exact ⟨record, continues.record? down.toRegistered own, left⟩
  idle := by
    have resting : host.node.lifecycle ≠ .running := by
      rcases down.ended with stopping | stopped
      · simp [stopping]
      · simp [stopped]
    have fewer := continues.calls resting
    rw [down.idle] at fewer
    exact List.subset_nil.mp fewer
  closed := continues.flows.closed.trans down.closed
  dropped := continues.flows.dropped down.closed down.dropped

theorem Stage.continues (stage : host.Stage config) (continues : host.Continues after) :
    after.Stage config := by
  have asleep (down : host.isUp = false) (stays : host.Idle config ∨ host.Entered config) :
      after.Stage config := by
    obtain ⟨node, calls, handed⟩ := continues.asleep down
    rcases stays with idle | entered
    · refine .idle ⟨?_, ?_, calls.trans idle.calls, handed.trans idle.handed⟩
      · rw [node]
        exact idle.early
      · rw [node]
        exact idle.node
    · refine .entered ⟨?_, calls.trans entered.calls, handed.trans entered.handed⟩
      rw [node]
      exact entered.node
  cases stage with
  | idle idle =>
    apply asleep _ (.inl idle)
    rcases idle.early with early | early | early <;> simp [isUp, early]
  | entered entered =>
    apply asleep _ (.inr entered)
    obtain ⟨now, socket, node⟩ := entered.node
    simp [isUp, node, Node.enter, Node.join]
  | up up => exact .up (up.continues continues)
  | down down => exact .down (down.continues continues)

theorem Entered.completes (entered : host.Entered config) (choice : PeerChoice) :
    (host.become (host.node.completeStart choice)).Up config := by
  obtain ⟨now, socket, node⟩ := entered.node
  have asks := host.node.notifies_sendJoins choice host.node.seeds
  have empty : host.node.outbox = .empty := by rw [node]; rfl
  have fresh : host.node.outbox.Numbered := by
    rw [empty]
    exact Outbox.sound_empty.isNumbered
  have registry : (host.node.completeStart choice).registry = host.node.registry := asks.registry
  -- The only member so far is the node itself, and all it has queued are joins to its seeds.
  have joins : host.node.registry = ((Registry.new config.id).join now config.member).1 := by
    rw [node]
    exact Roster.registry_perform (.new config.id) (.join now config.member)
  have unique : (Registry.new config.id).UniqueIds := List.nodup_nil
  constructor
  case toRegistered =>
    constructor
    · rw [become, ← show host.node.config = config by rw [node]; rfl]
      exact asks.config
    · rw [become, registry, joins]
      exact Registry.sound_run config.id [.join now config.member]
    · rw [become, registry, joins]
      exact (Registry.join_step unique now config.member).localId
    · exact asks.outbox.reaches.numbered fresh
  case begun => exact .inl rfl
  case plugged =>
    have socket : (host.node.completeStart choice).socket = host.node.socket := asks.socket
    rw [become, socket, node]
    rfl
  case told =>
    have told : (host.node.completeStart choice).stopRequested = host.node.stopRequested :=
      asks.stopRequested
    rw [become, told, node]
    rfl
  case present =>
    refine ⟨now, ?_⟩
    rw [become, registry, joins, Registry.record?_join]
    simp [Config.member, Member.new, Registry.record?, Registry.new]
  case opened =>
    have closed : (host.node.completeStart choice).outbox.closed = host.node.outbox.closed :=
      asks.outbox.reaches.closed
    rw [become, closed, empty]
    rfl
  case silent =>
    intro _
    obtain ⟨added, total, signals, -⟩ := asks.outbox.reaches.queued fresh
    have queued : (host.node.completeStart choice).outbox.queued = added := by
      rw [empty] at total
      exact total.trans (Multiset.zero_add _)
    apply Multiset.filter_eq_nil.mpr
    intro item among
    rw [posted, become, entered.handed, queued] at among
    have signal := signals item (by simpa using among)
    simp [signal.stays]

theorem Up.halts (up : host.Up config) {choice : PeerChoice} {stopping : Node}
    (halted : host.node.beginStop choice = .ok stopping) : (host.become stopping).Up config := by
  have said := Node.beginStop_keeps halted
  have registry : stopping.registry = host.node.registry := said.registry
  constructor
  case toRegistered =>
    refine ⟨said.config.trans up.configured, ?_, ?_, said.outbox.reaches.numbered up.outbox⟩
    · rw [become, registry]
      exact up.registry
    · rw [become, registry]
      exact up.owner
  case begun => exact .inr said.lifecycle
  case plugged =>
    have socket : stopping.socket = host.node.socket := said.socket
    rw [become, socket]
    exact up.plugged
  case told => simp [become, said.lifecycle, said.stopRequested]
  case present =>
    rw [become, registry]
    exact up.present
  case opened => exact said.outbox.reaches.closed.trans up.opened
  case silent => simp [become, said.lifecycle]

theorem Up.parts (up : host.Up config) (stopping : host.node.lifecycle = .stopping) (now : Instant)
    (network : Network) :
    ({ host with network := network, node := host.node.tearDown now } : Host).Down config := by
  -- The node leaves its own registry, and from then on its record stays dead.
  have leaves : (host.node.tearDown now).registry =
      (host.node.registry.perform (.leave now host.node.id)).1 :=
    host.node.roster.registry_perform (.leave now host.node.id)
  have same : host.node.id = config.id := congrArg Config.id up.configured
  constructor
  case toRegistered =>
    refine ⟨up.configured, ?_, ?_, ?_⟩
    · rw [leaves]
      exact up.registry.performAll [.leave now host.node.id]
    · rw [leaves]
      exact (Registry.performAll_localId up.registry.unique [.leave now host.node.id]).trans
        up.owner
    · exact up.outbox.shutdown
  case ended => exact .inl rfl
  case unplugged => rfl
  case told =>
    have told := up.told
    rw [stopping] at told
    exact told
  case gone =>
    obtain ⟨start, own⟩ := up.present
    refine ⟨(MemberRecord.new 0 start config.member).leave now, ?_, rfl⟩
    rw [leaves, Registry.record?_perform up.registry.unique, own, same]
    simp [Registry.Operation.onRecord]
  case idle => exact List.filter_eq_nil_iff.mpr (by simp)
  case closed => rfl
  case dropped => exact host.node.outbox.dropped_shutdown

theorem Down.ends (down : host.Down config) :
    (host.become { host.node with lifecycle := .stopped }).Down config where
  toRegistered := ⟨down.configured, down.registry, down.owner, down.outbox⟩
  ended := .inr rfl
  unplugged := down.unplugged
  told := down.told
  gone := down.gone
  idle := down.idle
  closed := down.closed
  dropped := down.dropped

theorem Idle.unplugged (idle : host.Idle config) : host.node.socket = none := by
  rw [idle.node]
  rfl

theorem Entered.starting (entered : host.Entered config) : host.node.lifecycle = .starting := by
  obtain ⟨now, socket, node⟩ := entered.node
  rw [node]
  rfl

theorem Entered.plugged (entered : host.Entered config) : host.node.socket.isSome = true := by
  obtain ⟨now, socket, node⟩ := entered.node
  rw [node]
  rfl

theorem Stage.idle_of_created (stage : host.Stage config)
    (created : host.node.lifecycle = .created) :
    host.Idle config := by
  cases stage with
  | idle idle => exact idle
  | entered entered => simp [entered.starting] at created
  | up up => rcases up.begun with begun | begun <;> simp [begun] at created
  | down down => rcases down.ended with ended | ended <;> simp [ended] at created

theorem Stage.idle_or_entered (stage : host.Stage config)
    (starting : host.node.lifecycle = .starting) :
    host.Idle config ∨ host.Entered config := by
  cases stage with
  | idle idle => exact .inl idle
  | entered entered => exact .inr entered
  | up up => rcases up.begun with begun | begun <;> simp [begun] at starting
  | down down => rcases down.ended with ended | ended <;> simp [ended] at starting

theorem Stage.up_or_down (stage : host.Stage config)
    (begun : host.node.lifecycle = .running ∨ host.node.lifecycle = .stopping) :
    host.Up config ∨ host.Down config := by
  cases stage with
  | idle idle => rcases idle.early with early | early | early <;> simp [early] at begun
  | entered entered => simp [entered.starting] at begun
  | up up => exact .inl up
  | down down => exact .inr down

theorem Stage.idle_of_opening (stage : host.Stage config)
    (starting : host.node.lifecycle = .starting)
    (unplugged : host.node.socket = none) : host.Idle config := by
  rcases stage.idle_or_entered starting with idle | entered
  · exact idle
  · have plugged := entered.plugged
    simp [unplugged] at plugged

theorem Stage.up_of_running (stage : host.Stage config) (running : host.node.lifecycle = .running) :
    host.Up config := by
  rcases stage.up_or_down (.inl running) with up | down
  · exact up
  · rcases down.ended with ended | ended <;> simp [running] at ended

theorem Stage.moves {event : Event} {report : Option Report} (stage : host.Stage config)
    (moves : host.Moves event after report) : after.Stage config := by
  cases moves with
  | begins created =>
    have idle := stage.idle_of_created created
    refine .idle ⟨.inr (.inl rfl), ?_, idle.calls, idle.handed⟩
    rw [become, idle.node]
  | fails starting unplugged =>
    have idle := stage.idle_of_opening starting unplugged
    refine .idle ⟨.inr (.inr rfl), ?_, idle.calls, idle.handed⟩
    rw [Node.failStart, idle.node]
  | @enters now starting unplugged =>
    have idle := stage.idle_of_opening starting unplugged
    refine .entered ⟨⟨now, host.network.nextId, ?_⟩, idle.calls, idle.handed⟩
    have fresh := idle.node
    rw [starting] at fresh
    dsimp only
    rw [fresh]
  | runs starting plugged =>
    rcases stage.idle_or_entered starting with idle | entered
    · simp [idle.unplugged] at plugged
    · exact .up (entered.completes _)
  | halts running became halted => exact .up ((stage.up_of_running running).halts halted)
  | parts stopping plugged =>
    rcases stage.up_or_down (.inr stopping) with up | down
    · exact .down (up.parts stopping _ _)
    · simp [down.unplugged] at plugged
  | ends stopping unplugged =>
    rcases stage.up_or_down (.inr stopping) with up | down
    · have plugged := up.plugged
      simp [unplugged] at plugged
    · exact .down down.ends
  | continues continues => exact stage.continues continues

theorem stage_new (network : Network) (config : Config) : (new network config).Stage config :=
  .idle ⟨.inl rfl, rfl, rfl, rfl⟩

theorem Stage.run (stage : host.Stage config) (events : List Event) :
    (host.run events).1.Stage config := by
  induction events generalizing host with
  | nil => exact stage
  | cons event rest ih => exact ih (stage.moves (host.step_moves event))

end

end Host

end ClusterCoordination
