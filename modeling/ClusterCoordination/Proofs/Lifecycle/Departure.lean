import ClusterCoordination.Proofs.Lifecycle.Cancellation
import ClusterCoordination.Proofs.Lifecycle.Farewells
import ClusterCoordination.Proofs.Lifecycle.Transitions
/-!
# How a node departs

A node that stops says farewell, waits until the others have been told, and gives everything up.
What its tasks and callers do meanwhile and afterwards brings nothing of that back.
-/

set_option autoImplicit false

namespace ClusterCoordination

theorem Lifecycle.Leads.ends {source target : Lifecycle} (leads : source.Leads target)
    (ended : source = .stopping ∨ source = .stopped) : target = .stopped := by
  cases leads with
  | finish => rfl
  | _ => simp at ended

namespace Host

structure Bound (host : Host) : Prop where
  sound : host.network.Sound
  bound : ∀ socket, host.node.socket = some socket →
    host.network.bound? host.node.config.listenAddress = some socket

structure Fades (before : Host) (events : List Event) (after : Host) : Prop where
  posted : after.posted = before.posted
  handed : ∃ sent, after.handed = before.handed ++ sent
  stopped : after.node.lifecycle = .stopped ↔ before.node.lifecycle = .stopped ∨ .closed ∈ events

/-- The node gives everything up at once; what it had queued may still be handed over. -/
structure GivesUp (config : Config) (before after : Host) : Prop where
  down : after.Down config
  stopping : after.node.lifecycle = .stopping
  queued : after.node.outbox.queued = before.node.outbox.queued
  handed : after.handed = before.handed
  free : after.network.bound? config.listenAddress = none
  cancelled : ∀ call ∈ before.node.pending.calls,
    ⟨call.id, .error .cancelled⟩ ∈ after.node.deliveries

section

variable {config : Config} {host after : Host} {event : Event} {report : Option Report}

/-! ### The address of the node -/

theorem Moves.bound (moves : host.Moves event after report) (bound : host.Bound) : after.Bound := by
  cases moves with
  | begins => exact ⟨bound.sound, bound.bound⟩
  | fails starting unplugged _ _ sound =>
    refine ⟨sound bound.sound, ?_⟩
    intro socket plugged
    simp [Node.failStart, unplugged] at plugged
  | enters starting unplugged free =>
    refine ⟨bound.sound.bind _, ?_⟩
    intro socket plugged
    obtain rfl : host.network.nextId = socket := Option.some.inj plugged
    exact (Network.bound?_bind free _).trans (if_pos rfl)
  | @runs choice =>
    have asks := host.node.notifies_sendJoins choice host.node.seeds
    refine ⟨bound.sound, ?_⟩
    intro socket plugged
    have listens : (host.node.completeStart choice).config = host.node.config := asks.config
    rw [become, listens]
    exact bound.bound socket (asks.socket.symm.trans plugged)
  | halts _ _ halted =>
    have said := Node.beginStop_keeps halted
    refine ⟨bound.sound, ?_⟩
    intro socket plugged
    rw [become, said.config]
    exact bound.bound socket (said.socket.symm.trans plugged)
  | parts =>
    refine ⟨bound.sound.close _, ?_⟩
    intro socket plugged
    simp [Node.tearDown, Node.finishStop] at plugged
  | ends => exact ⟨bound.sound, bound.bound⟩
  | continues continues =>
    obtain ⟨sound, stays⟩ := continues.network bound.sound
    refine ⟨sound, ?_⟩
    intro socket plugged
    rw [continues.socket] at plugged
    rw [continues.config]
    exact stays socket _ plugged (bound.bound socket plugged)

theorem Bound.run (bound : host.Bound) (events : List Event) : (host.run events).1.Bound := by
  induction events generalizing host with
  | nil => exact bound
  | cons event rest ih => exact ih ((host.step_moves event).bound bound)

theorem bound_new (config : Config) : (new .empty config).Bound :=
  ⟨Network.sound_empty, fun _ plugged => by simp [new, Node.new] at plugged⟩

/-! ### While the others are being told -/

theorem Moves.continues_of_stopping (moves : host.Moves event after report) (up : host.Up config)
    (stopping : host.node.lifecycle = .stopping) (quiet : ∀ now, event ≠ .announced now) :
    host.Continues after := by
  cases moves with
  | begins created => simp [stopping] at created
  | fails starting => simp [stopping] at starting
  | enters starting => simp [stopping] at starting
  | runs starting => simp [stopping] at starting
  | halts running => simp [stopping] at running
  | parts => exact absurd rfl (quiet _)
  | ends _ unplugged =>
    have plugged := up.plugged
    simp [unplugged] at plugged
  | continues continues => exact continues

theorem run_stop (running : host.node.lifecycle = .running) (choice : PeerChoice) :
    ∃ stopping, host.node.beginStop choice = .ok stopping ∧
      ∀ later, (host.run (.stop choice :: later)).1 = ((host.become stopping).run later).1 := by
  obtain ⟨stopping, halted⟩ : ∃ stopping, host.node.beginStop choice = .ok stopping := by
    simp only [Node.beginStop, Node.transition, running, if_true]
    exact ⟨_, rfl⟩
  refine ⟨stopping, halted, ?_⟩
  intro later
  simp only [run, step, halted]

theorem Up.waits (up : host.Up config) (stopping : host.node.lifecycle = .stopping)
    {events : List Event} (quiet : ∀ now, .announced now ∉ events) :
    (host.run events).1.Up config ∧ (host.run events).1.node.lifecycle = .stopping ∧
      (host.run events).1.farewells = host.farewells := by
  induction events generalizing host with
  | nil => exact ⟨up, stopping, rfl⟩
  | cons event rest ih =>
    simp only [List.mem_cons, not_or] at quiet
    have first := (host.step_moves event).continues_of_stopping up stopping fun now same =>
      (quiet now).1 same.symm
    obtain ⟨later, still, bidden⟩ :=
      ih (up.continues first) (first.lifecycle.trans stopping) fun now => (quiet now).2
    exact ⟨later, still, bidden.trans (first.farewells up.outbox)⟩

theorem Up.farewells_halts (up : host.Up config) {choice : PeerChoice} {stopping : Node}
    (halted : host.node.beginStop choice = .ok stopping) (short : config.farewell.Short) :
    (host.become stopping).farewells =
      (host.node.alivePeers.map fun member => (member.address, config.farewell.wire) :
        List (SocketAddress × Bytes)) := by
  have running := (Node.beginStop_eq_ok halted).1
  have owner : host.node.registry.localId = host.node.id := by
    rw [up.owner, Node.id, up.configured]
  have queued : stopping.outbox.queued =
      (host.node.survivors.map fun member => (member.address, config.farewell.wire) : Multiset _) +
        host.node.outbox.queued := by
    rw [← up.configured] at short ⊢
    exact Node.queued_beginStop up.outbox up.opened short halted
  have leaves : bidsFarewell config.farewell.wire = true := by
    rw [bidsFarewell, short.read?]
    rfl
  -- A running node has queued no farewell before, so all there are come from stopping.
  have total : (host.become stopping).posted =
      (host.node.survivors.map fun member => (member.address, config.farewell.wire) : Multiset _) +
        host.posted := by
    simp only [posted, become, queued, ← Multiset.add_assoc]
    exact congrArg (· + host.node.outbox.queued) (Multiset.add_comm _ _)
  have told : ((host.node.survivors.map fun member => (member.address, config.farewell.wire) :
      Multiset (SocketAddress × Bytes)).filter fun item => bidsFarewell item.2 = true) =
        host.node.survivors.map fun member => (member.address, config.farewell.wire) := by
    apply Multiset.filter_eq_self.mpr
    intro item among
    obtain ⟨member, -, rfl⟩ := List.mem_map.mp (Multiset.mem_coe.mp among)
    exact leaves
  have before := up.silent running
  rw [farewells] at before ⊢
  rw [total, Multiset.filter_add, told, before, Multiset.add_zero]
  exact Multiset.coe_eq_coe.mpr ((Node.survivors_perm up.registry owner).map _)

/-! ### Giving everything up -/

theorem mem_deliveries_tearDown (node : Node) (now : Instant) {call : PendingCall}
    (pending : call ∈ node.pending.calls) :
    ⟨call.id, .error .cancelled⟩ ∈ (node.tearDown now).deliveries := by
  let left : Node := { node with roster := (node.roster.leave now node.id).1 }
  exact (left.cancelCalls_resolves.delivered _).mpr (.inr ⟨call, pending, rfl, rfl⟩)

theorem Up.gives_up (up : host.Up config) (stopping : host.node.lifecycle = .stopping)
    (bound : host.Bound) (now : Instant) : host.GivesUp config (host.step (.announced now)).1 := by
  obtain ⟨socket, plugged⟩ := Option.isSome_iff_exists.mp up.plugged
  have announcing : host.isAnnouncing = true := by simp [isAnnouncing, stopping, plugged]
  simp only [step, plugged, announcing, if_true]
  constructor
  case down => exact up.parts stopping now _
  case stopping => rfl
  case queued => exact Outbox.queued_shutdown _
  case handed => rfl
  case free =>
    have held := bound.bound socket plugged
    rw [up.configured] at held
    exact (bound.sound.bound?_close socket _).trans (if_pos held)
  case cancelled => exact fun _ pending => mem_deliveries_tearDown host.node now pending

/-! ### After that -/

theorem Fades.refl (host : Host) : host.Fades [] host :=
  ⟨rfl, ⟨[], (List.append_nil _).symm⟩, by simp⟩

theorem Fades.trans {events more : List Event} {last : Host} (one : host.Fades events after)
    (other : after.Fades more last) : host.Fades (events ++ more) last where
  posted := other.posted.trans one.posted
  handed := by
    obtain ⟨sent, first⟩ := one.handed
    obtain ⟨later, second⟩ := other.handed
    exact ⟨sent ++ later, by rw [second, first, List.append_assoc]⟩
  stopped := by rw [other.stopped, one.stopped, List.mem_append, or_assoc]

theorem Moves.continues_of_down (moves : host.Moves event after report) (down : host.Down config)
    (other : event ≠ .closed) : host.Continues after := by
  have final {lifecycle : Lifecycle} (here : host.node.lifecycle = lifecycle) :
      lifecycle = .stopping ∨ lifecycle = .stopped := here ▸ down.ended
  cases moves with
  | begins created => simpa using final created
  | fails starting => simpa using final starting
  | enters starting => simpa using final starting
  | runs starting => simpa using final starting
  | halts running => simpa using final running
  | parts _ plugged => simp [down.unplugged] at plugged
  | ends => exact absurd rfl other
  | continues continues => exact continues

theorem Continues.fades (continues : host.Continues after) (down : host.Down config)
    (other : event ≠ .closed) : host.Fades [event] after where
  posted := by
    obtain ⟨added, total, -, refused⟩ := continues.flows.posted down.outbox
    rw [total, refused down.closed, Multiset.add_zero]
  handed := continues.flows.handed
  stopped := by simp [continues.lifecycle, Ne.symm other]

theorem Down.fades_closed (down : host.Down config) :
    host.Fades [.closed] (host.step .closed).1 := by
  have stays : host.Fades [.closed] (host.become { host.node with lifecycle := .stopped }) :=
    ⟨rfl, ⟨[], (List.append_nil _).symm⟩, by simp [become]⟩
  rcases down.ended with stopping | stopped
  · have closing : host.isClosing = true := isClosing_iff.mpr ⟨stopping, down.unplugged⟩
    simp only [step, closing, if_true]
    exact stays
  · have done : host.isClosing = false := by simp [isClosing, stopped]
    simp only [step, done, Bool.false_eq_true, if_false]
    exact ⟨rfl, ⟨[], (List.append_nil _).symm⟩, by simp [stopped]⟩

theorem Down.step (down : host.Down config) (event : Event) : (host.step event).1.Down config := by
  by_cases closing : event = .closed
  · subst closing
    simp only [Host.step]
    split
    · exact down.ends
    · exact down
  · exact down.continues ((host.step_moves event).continues_of_down down closing)

theorem Down.fades_step (down : host.Down config) (event : Event) :
    host.Fades [event] (host.step event).1 := by
  by_cases closing : event = .closed
  · subst closing
    exact down.fades_closed
  · exact ((host.step_moves event).continues_of_down down closing).fades down closing

theorem Down.run (down : host.Down config) (events : List Event) :
    (host.run events).1.Down config ∧ host.Fades events (host.run events).1 := by
  induction events generalizing host with
  | nil => exact ⟨down, .refl host⟩
  | cons event rest ih =>
    obtain ⟨later, fades⟩ := ih (down.step event)
    exact ⟨later, (down.fades_step event).trans fades⟩

theorem Down.free_step (down : host.Down config) (sound : host.network.Sound)
    {address : SocketAddress} (free : host.network.bound? address = none)
    (others : event ≠ .elsewhere (.bind address)) :
    (host.step event).1.network.bound? address = none := by
  have resting : host.node.lifecycle ≠ .starting := by
    rcases down.ended with stopping | stopped
    · simp [stopping]
    · simp [stopped]
  -- The tasks of the node send and receive, but they bind nothing.
  have works (event : Event) : (host.proceed event).network.bound? address = none := by
    unfold proceed
    split
    · cases event with
      | poll => simp only [work, poll]; split <;> exact free
      | abandon => simp only [work, abandon]; split <;> exact free
      | take => simp only [work, hand]; split <;> exact free
      | transmit =>
        simp only [work, transmit]
        split
        · exact (host.network.bound?_send _ _ _ address).trans free
        · exact free
      | _ => exact free
    · exact free
  cases event with
  | start => simp only [Host.step]; split <;> exact free
  | opened => simpa [Host.step, isOpening, resting] using free
  | refused => simpa [Host.step, isOpening, resting] using free
  | resolved => simpa [Host.step, isResolving, resting] using free
  | stop => simp only [Host.step]; split <;> exact free
  | announced => simpa [Host.step, down.unplugged] using free
  | closed => simp only [Host.step]; split <;> exact free
  | ask question => simp only [Host.step, ask]; split <;> exact free
  | elsewhere operation =>
    simp only [Host.step]
    split
    · exact sound.free_perform free fun same => others (congrArg Event.elsewhere same)
    · exact free
  | _ => exact works _

theorem Down.free_run (down : host.Down config) (bound : host.Bound) {address : SocketAddress}
    (free : host.network.bound? address = none) {events : List Event}
    (others : .elsewhere (.bind address) ∉ events) :
    (host.run events).1.network.bound? address = none := by
  induction events generalizing host with
  | nil => exact free
  | cons event rest ih =>
    simp only [List.mem_cons, not_or] at others
    have still := down.free_step bound.sound free (Ne.symm others.1)
    exact ih (down.step event) ((host.step_moves event).bound bound) still others.2

/-! ### Callers -/

theorem Moves.stays_ended (moves : host.Moves event after report)
    (ended : host.node.lifecycle = .stopping ∨ host.node.lifecycle = .stopped) :
    after.node.lifecycle = .stopping ∨ after.node.lifecycle = .stopped := by
  rcases moves.leads with same | leads
  · rwa [same]
  · exact .inr (leads.ends ended)

theorem stays_ended_run (ended : host.node.lifecycle = .stopping ∨ host.node.lifecycle = .stopped)
    (events : List Event) :
    (host.run events).1.node.lifecycle = .stopping ∨
      (host.run events).1.node.lifecycle = .stopped := by
  induction events generalizing host with
  | nil => exact ended
  | cons event rest ih => exact ih ((host.step_moves event).stays_ended ended)

theorem Stage.stopRequested (stage : host.Stage config)
    (ended : host.node.lifecycle = .stopping ∨ host.node.lifecycle = .stopped) :
    host.node.stopRequested = true := by
  cases stage with
  | idle idle => rcases idle.early with early | early | early <;> simp [early] at ended
  | entered entered => simp [entered.starting] at ended
  | up up =>
    rw [up.told]
    rcases up.begun with running | stopping
    · simp [running] at ended
    · exact decide_eq_true stopping
  | down down => exact down.told

theorem step_poll_ends (stage : host.Stage config)
    (ended : host.node.lifecycle = .stopping ∨ host.node.lifecycle = .stopped) {place : Nat}
    {target : MemberId} {branch : Branch} (waits : host.calls[place]? = some (target, branch))
    (now : Instant) (stopFirst : Bool) :
    ∃ outcome, (host.step (.poll place now stopFirst)).1.calls[place]? = some (target, outcome) ∧
      ((∃ result, outcome = .settled result ∧
        (result = .error .cancelled ∨ host.node.AtHand now branch result)) ∨
      (outcome = .broken ∧ branch.HasCrashed now)) := by
  have begun : host.isUp = true := by
    rcases ended with stopping | stopped
    · simp [isUp, stopping]
    · simp [isUp, stopped]
  have polled : (host.step (.poll place now stopFirst)).1.calls =
      host.calls.set place (target, (host.node.resume now stopFirst branch).2) := by
    simp only [Host.step, proceed, begun, work, poll, waits, if_true]
  have inside : place < host.calls.length := by
    obtain ⟨inside, -⟩ := List.getElem?_eq_some_iff.mp waits
    exact inside
  refine ⟨(host.node.resume now stopFirst branch).2, ?_,
    Node.resume_ends (stage.stopRequested ended) now stopFirst branch⟩
  rw [polled, List.getElem?_set_self inside]

/-! ### From the stop on -/

/--
However a node comes to run, and whatever it is in the middle of: when it stops, it says farewell
once to each other member that is alive then and to nobody else, and gives everything up for good.
Calls that wait are cancelled, unless their outcome is there when their callers go on, and all that
is ever handed to the socket afterwards was queued before.
-/
theorem run_departs (config : Config) (events meanwhile rest : List Event) (choice : PeerChoice)
    (now : Instant) (named : (textBytes config.id.text).length ≤ 65535)
    (running : ((new .empty config).run events).1.node.lifecycle = .running)
    (unannounced : ∀ moment, .announced moment ∉ meanwhile) :
    let before := ((new .empty config).run events).1
    let last := (before.run (.stop choice :: meanwhile)).1
    let torn := (last.step (.announced now)).1
    let host := (torn.run rest).1
    ((textBytes config.id.text).length + (textBytes config.name).length + farewellOverhead <
        PayloadType.archiveLimit →
      ControlFrame.read? config.farewell.wire = some config.farewell ∧
      host.farewells = (before.node.alivePeers.map fun member =>
        (member.address, config.farewell.wire) : List (SocketAddress × Bytes))) ∧
    host.node.pending.calls = [] ∧
    (∀ call ∈ last.node.pending.calls, ⟨call.id, .error .cancelled⟩ ∈ torn.node.deliveries) ∧
    (∃ record, host.node.registry.record? config.id = some record ∧ record.left = true ∧
      record.member.alive = false) ∧
    host.node.outbox.closed = true ∧
    (∀ address, host.node.outbox.queue? address = none) ∧
    torn.network.bound? config.listenAddress = none ∧
    (.elsewhere (.bind config.listenAddress) ∉ rest →
      host.network.bound? config.listenAddress = none) ∧
    (host.node.lifecycle = .stopped ↔ .closed ∈ rest) ∧
    (∃ sent, host.handed = torn.handed ++ sent ∧
      (sent : Multiset (SocketAddress × Bytes)) + host.node.outbox.queued =
        last.node.outbox.queued) ∧
    ∀ later place target branch,
      (before.run (.stop choice :: later)).1.calls[place]? = some (target, branch) →
      ∀ moment stopFirst, ∃ outcome,
        ((before.run (.stop choice :: later)).1.step
          (.poll place moment stopFirst)).1.calls[place]? =
          some (target, outcome) ∧
        ((∃ result, outcome = .settled result ∧ (result = .error .cancelled ∨
          (before.run (.stop choice :: later)).1.node.AtHand moment branch result)) ∨
        (outcome = .broken ∧ branch.HasCrashed moment)) := by
  intro before last torn host
  have up : before.Up config := ((stage_new .empty config).run events).up_of_running running
  obtain ⟨stopping, halted, continuing⟩ := run_stop running choice
  have became : (before.become stopping).node.lifecycle = .stopping :=
    (Node.beginStop_keeps halted).lifecycle
  obtain ⟨waits, still, bidden⟩ := (up.halts halted).waits became unannounced
  rw [← continuing meanwhile] at waits still bidden
  have bound : last.Bound := ((bound_new config).run events).run (.stop choice :: meanwhile)
  have gives : last.GivesUp config torn := waits.gives_up still bound now
  have tornBound : torn.Bound := (last.step_moves (.announced now)).bound bound
  obtain ⟨gone, fades⟩ := gives.down.run rest
  -- The outbox was closed with all that was queued in it, and has taken nothing since.
  have posted : host.posted = last.posted := by
    rw [fades.posted, Host.posted, Host.posted, gives.queued, gives.handed]
  refine ⟨?_, gone.idle, gives.cancelled, ?_, gone.closed, gone.dropped.queue?_eq_none, gives.free,
    gives.down.free_run tornBound gives.free, ?_, ?_, ?_⟩
  · intro brief
    have short := Config.short_farewell named brief
    refine ⟨short.read?, ?_⟩
    rw [farewells, posted, ← farewells, bidden]
    exact up.farewells_halts halted short
  · obtain ⟨record, own, left⟩ := gone.gone
    exact ⟨record, own, left, (gone.registry.coherent config.id record own).left_dead left⟩
  · rw [fades.stopped, gives.stopping]
    simp
  · obtain ⟨sent, handed⟩ := fades.handed
    refine ⟨sent, handed, ?_⟩
    rw [Host.posted, Host.posted, handed, gives.handed, ← Multiset.coe_add,
      Multiset.add_assoc] at posted
    exact Multiset.add_right_inj.mp posted
  · intro later place target branch
    rw [continuing later]
    have stage : (before.become stopping).Stage config := .up (up.halts halted)
    exact step_poll_ends (stage.run later) (stays_ended_run (.inl became) later)

end

theorem run_receive {host : Host} {after : Node} {choice : PeerChoice} {now : Instant}
    {data : Bytes} (begun : host.isUp = true) (received : host.node.receive choice now data = after)
    (rest : List Event) :
    (host.run (.receive choice now data :: rest)).1 = ((host.become after).run rest).1 := by
  simp only [run, step, proceed, begun, work, if_true, received]

/--
A node says farewell to the one member that it has heard of, and its call to that one is cancelled.
-/
theorem called_peer_is_told :
    let config : Config := .new "cluster" ⟨"a"⟩ .unspecified .unspecified []
    let heartbeat : ControlFrame := ⟨⟨"b"⟩, "", .v4 (Vector.replicate 4 1) 7, .heartbeat, []⟩
    let opening : List Event := [.start, .opened 0, .resolved .first]
    let call : Event := .ask (.call ⟨2, 0⟩ [⟨"b"⟩] ⟨"calculator", "add", .empty⟩ none)
    let events : List Event := opening ++ [.receive .first 1 heartbeat.wire, call]
    let before := ((new .empty config).run events).1
    let torn := ((before.run [.stop .first]).1.step (.announced 3)).1
    let host := (torn.run [.closed]).1
    before.node.pending.calls.map PendingCall.id = [0] ∧
      host.farewells = {(heartbeat.address, config.farewell.wire)} ∧
      host.node.pending.calls = [] ∧ host.node.lifecycle = .stopped ∧
      torn.network.bound? config.listenAddress = none := by
  intro config heartbeat opening call events
  let started := ((new .empty config).run opening).1
  have begun : started.isUp = true := by decide +kernel
  have heard : started.node.receive .first 1 heartbeat.wire =
      started.node.onControlFrame .first 1 heartbeat :=
    Node.receive_wire (by decide) (by decide +kernel) .first 1
  have called : ((new .empty config).run events).1 =
      ((started.become (started.node.onControlFrame .first 1 heartbeat)).run [call]).1 := by
    simp only [events, run_append]
    exact run_receive begun heard [call]
  have running : ((new .empty config).run events).1.node.lifecycle = .running := by
    rw [called]
    decide +kernel
  have pending :
      ((new .empty config).run events).1.node.pending.calls.map PendingCall.id = [0] := by
    rw [called]
    decide +kernel
  have peers : ((new .empty config).run events).1.node.alivePeers.Perm [heartbeat.member] := by
    rw [called]
    exact ((Registry.members_perm _).filter _).trans (.of_eq (by decide +kernel))
  have departs :=
    run_departs config events [] [.closed] .first 3 (by decide +kernel) running (by simp)
  dsimp only at departs ⊢
  obtain ⟨tells, idle, -, -, -, -, free, -, stopped, -⟩ := departs
  obtain ⟨-, farewells⟩ := tells (by decide +kernel)
  refine ⟨pending, ?_, idle, stopped.mpr (by simp), free⟩
  rw [farewells]
  exact Multiset.coe_eq_coe.mpr (peers.map _)

end Host

end ClusterCoordination
