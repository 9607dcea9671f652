import ClusterCoordination.Proofs.Lifecycle.Hosts
/-!
# What a step does to a host

A step either takes the node to the next point of its start or its stop, or goes on as before: the
node keeps its place in its lifecycle, bids nobody farewell and hands over nothing that was not
queued.
-/

set_option autoImplicit false

namespace ClusterCoordination

theorem Node.beginStop_keeps {node after : Node} {choice : PeerChoice}
    (stopping : node.beginStop choice = .ok after) :
    Node.Posts (fun _ _ => True)
    { node with lifecycle := .stopping, stopRequested := true } after :=
  (posts_beginStop stopping fun _ _ _ _ => trivial).2

namespace Host

/-- What has been queued so far, whether or not it has been handed to the socket since. -/
def posted (host : Host) : Multiset (SocketAddress × Bytes) :=
  (host.handed : Multiset (SocketAddress × Bytes)) + host.node.outbox.queued

structure Flows (before after : Host) : Prop where
  closed : after.node.outbox.closed = before.node.outbox.closed
  numbered : before.node.outbox.Numbered → after.node.outbox.Numbered
  keyed : before.node.outbox.Keyed → after.node.outbox.Keyed
  dropped : before.node.outbox.closed = true → before.node.outbox.Dropped →
    after.node.outbox.Dropped
  handed : ∃ later, after.handed = before.handed ++ later
  posted : before.node.outbox.Numbered → ∃ added, after.posted = before.posted + added ∧
    (∀ item ∈ added, bidsFarewell item.2 = false) ∧
      (before.node.outbox.closed = true → added = 0)

/-- The node proceeds, unless its tasks have yet to begin, and its socket stays bound. -/
structure Continues (before after : Host) : Prop where
  config : after.node.config = before.node.config
  lifecycle : after.node.lifecycle = before.node.lifecycle
  socket : after.node.socket = before.node.socket
  stopRequested : after.node.stopRequested = before.node.stopRequested
  asleep : before.isUp = false →
    after.node = before.node ∧ after.calls = before.calls ∧ after.handed = before.handed
  registry : ∃ operations : List Registry.Operation,
    (∀ operation ∈ operations, operation.Foreign before.node.id) ∧
      after.node.registry = before.node.registry.performAll operations
  calls : before.node.lifecycle ≠ .running → after.node.pending.calls ⊆ before.node.pending.calls
  flows : before.Flows after
  network : before.network.Sound → after.network.Sound ∧
    ∀ socket address, before.node.socket = some socket →
      before.network.bound? address = some socket →
      after.network.bound? address = some socket

section

variable {host : Host}

theorem Flows.refl (host : Host) : host.Flows host where
  closed := rfl
  numbered := id
  keyed := id
  dropped := fun _ dropped => dropped
  handed := ⟨[], (List.append_nil _).symm⟩
  posted := fun _ => ⟨0, (Multiset.add_zero _).symm, by simp, fun _ => rfl⟩

theorem Continues.refl (host : Host) : host.Continues host where
  config := rfl
  lifecycle := rfl
  socket := rfl
  stopRequested := rfl
  asleep := fun _ => ⟨rfl, rfl, rfl⟩
  registry := ⟨[], by simp, rfl⟩
  calls := fun _ _ among => among
  flows := .refl host
  network := fun sound => ⟨sound, fun _ _ _ bound => bound⟩

theorem continues_of_proceeds {after : Node} (up : host.isUp = true)
    (proceeds : host.node.Proceeds after) (calls : List (MemberId × Branch)) :
    host.Continues { host with node := after, calls := calls } where
  config := proceeds.config
  lifecycle := proceeds.lifecycle
  socket := proceeds.socket
  stopRequested := proceeds.stopRequested
  asleep := fun asleep => absurd up (by simp [asleep])
  registry := proceeds.registry
  calls := proceeds.calls
  flows :=
    { closed := proceeds.outbox.closed
      numbered := proceeds.outbox.numbered
      keyed := proceeds.outbox.keyed
      dropped := proceeds.outbox.dropped
      handed := ⟨[], (List.append_nil _).symm⟩
      posted := by
        intro fresh
        obtain ⟨added, total, staying, refused⟩ := proceeds.outbox.queued fresh
        exact ⟨added, by simp only [posted, total, Multiset.add_assoc], staying, refused⟩ }
  network := fun sound => ⟨sound, fun _ _ _ bound => bound⟩

theorem continues_hand (up : host.isUp = true) (drain : DrainId) :
    host.Continues (host.hand drain) := by
  unfold hand
  split
  next outbox item taking =>
    have after : (host.node.outbox.take drain).1 = outbox := congrArg Prod.fst taking
    have taken : (host.node.outbox.take drain).2 = some item := congrArg Prod.snd taking
    subst after
    refine ⟨rfl, rfl, rfl, rfl, fun asleep => absurd up (by simp [asleep]), ⟨[], by simp, rfl⟩,
      fun _ _ among => among, ?_, fun sound => ⟨sound, fun _ _ _ bound => bound⟩⟩
    refine ⟨Outbox.closed_take _ _, fun fresh => fresh.take drain, fun keyed => keyed.take drain,
      fun _ dropped => dropped.take drain,
      ⟨[item], rfl⟩, fun fresh => ⟨0, ?_, by simp, fun _ => rfl⟩⟩
    simp only [posted, fresh.queued_take taken, ← Multiset.coe_add, Multiset.coe_singleton,
      Multiset.add_zero, ← Multiset.singleton_add, Multiset.add_assoc]
  next => exact .refl host

theorem continues_transmit (up : host.isUp = true) (drain : DrainId) :
    host.Continues (host.transmit drain) := by
  unfold transmit
  split
  next target data sending =>
    obtain ⟨_, _, _, completed⟩ := host.node.completed_eq drain
      (host.network.send host.node.config.listenAddress target data).2
    dsimp only
    rw [completed]
    refine ⟨rfl, rfl, rfl, rfl, fun asleep => absurd up (by simp [asleep]), ⟨[], by simp, rfl⟩,
      fun _ _ among => among, ?_, ?_⟩
    · refine ⟨Outbox.closed_complete _ _ _, fun fresh => fresh.complete drain _,
        fun keyed => keyed.complete drain _, fun _ dropped => dropped.complete drain _,
        ⟨[], (List.append_nil _).symm⟩, fun _ => ⟨0, ?_, by simp, fun _ => rfl⟩⟩
      simp only [posted, Outbox.queued_complete, Multiset.add_zero]
    · intro sound
      refine ⟨sound.send _ _ _, ?_⟩
      intro socket address _ bound
      obtain ⟨arrived, spares, -⟩ :=
        Network.spares_send sound socket host.node.config.listenAddress target data
      exact spares.bound address bound
  next => exact .refl host

theorem continues_elsewhere {operation : Network.Operation}
    (others : host.spares operation = true) :
    host.Continues { host with network := (host.network.perform operation).1 } := by
  refine ⟨rfl, rfl, rfl, rfl, fun _ => ⟨rfl, rfl, rfl⟩, ⟨[], by simp, rfl⟩, fun _ _ among => among,
    ⟨rfl, id, id, fun _ dropped => dropped, ⟨[], (List.append_nil _).symm⟩,
      fun _ => ⟨0, (Multiset.add_zero _).symm, by simp, fun _ => rfl⟩⟩, ?_⟩
  intro sound
  refine ⟨sound.perform operation, ?_⟩
  intro socket address plugged bound
  obtain ⟨known, found, -⟩ := sound.owned address socket bound
  have other : operation.socket? ≠ some socket := by
    intro same
    simp [spares, same, plugged] at others
  obtain ⟨_, spares, -⟩ := Network.spares_perform sound found other
  exact spares.bound address bound

theorem continues_work (up : host.isUp = true) (event : Event) :
    host.Continues (host.work event) := by
  have becomes {after : Node} (proceeds : host.node.Proceeds after) :
      host.Continues (host.become after) :=
    continues_of_proceeds up proceeds host.calls
  cases event with
  | poll place now stopFirst =>
    simp only [work, poll]
    split
    · exact continues_of_proceeds up (host.node.polls_resume now stopFirst _).proceeds _
    · exact .refl host
  | abandon place =>
    simp only [work, abandon]
    split
    · exact continues_of_proceeds up (host.node.polls_abandonBranches _).proceeds _
    · exact .refl host
  | receive choice now data => exact becomes (host.node.proceeds_receive choice now data)
  | beat choice => exact becomes (host.node.proceeds_heartbeatRound choice)
  | detect now => exact becomes (host.node.proceeds_detectionRound now)
  | handle now => exact becomes (host.node.proceeds_handleMessages now)
  | serve clock request workFirst =>
    exact becomes (host.node.proceeds_attend clock request workFirst)
  | take drain => exact continues_hand up drain
  | transmit drain => exact continues_transmit up drain
  | _ => exact .refl host

theorem continues_proceed (host : Host) (event : Event) : host.Continues (host.proceed event) := by
  unfold proceed
  split
  next up => exact continues_work up event
  next => exact .refl host

def Report.isRoutine (report : Report) : Bool :=
  !report.hasStarted && !report.hasFailed && !report.hasStopped

inductive Moves (host : Host) : Event → Host → Option Report → Prop where
  | begins (created : host.node.lifecycle = .created) :
      Moves host .start (host.become { host.node with lifecycle := .starting }) none
  | fails {event : Event} {network : Network} {fault : NetworkFault}
      (starting : host.node.lifecycle = .starting) (unplugged : host.node.socket = none)
      (sockets : network.sockets = host.network.sockets)
      (bindings : network.bindings = host.network.bindings)
      (sound : host.network.Sound → network.Sound) :
      Moves host event { host with network := network, node := host.node.failStart }
        (some (.started (.error (.startup fault))))
  | enters {now : Instant} (starting : host.node.lifecycle = .starting)
      (unplugged : host.node.socket = none)
      (free : host.network.isBound host.node.config.listenAddress = false) :
      Moves host (.opened now)
        { host with
          network := (host.network.bind host.node.config.listenAddress).1
          node := host.node.enter now host.network.nextId } none
  | runs {choice : PeerChoice} (starting : host.node.lifecycle = .starting)
      (plugged : host.node.socket.isSome = true) :
      Moves host (.resolved choice) (host.become (host.node.completeStart choice))
        (some (.started (.ok ())))
  | halts {choice : PeerChoice} {stopping : Node} (running : host.node.lifecycle = .running)
      (became : stopping.lifecycle = .stopping)
        (halted : host.node.beginStop choice = .ok stopping) :
      Moves host (.stop choice) (host.become stopping) none
  | parts {now : Instant} {socket : SocketId} (stopping : host.node.lifecycle = .stopping)
      (plugged : host.node.socket = some socket) :
      Moves host (.announced now)
        { host with
          network := host.network.close socket
          node := host.node.tearDown now } none
  | ends (stopping : host.node.lifecycle = .stopping) (unplugged : host.node.socket = none) :
      Moves host .closed (host.become { host.node with lifecycle := .stopped })
        (some (.stopped (.ok ())))
  | continues {event : Event} {after : Host} {report : Option Report}
      (continues : host.Continues after)
      (routine : report.all Report.isRoutine = true) : Moves host event after report

theorem beginStart_eq_error {node : Node} {error : ClusterError}
    (refused : node.beginStart = .error error) : error = .state .created node.lifecycle := by
  unfold Node.beginStart Node.transition at refused
  split at refused
  · simp at refused
  · exact (Except.error.inj refused).symm

theorem isOpening_iff :
    host.isOpening = true ↔ host.node.lifecycle = .starting ∧ host.node.socket = none := by
  simp [isOpening]

theorem isResolving_iff :
    host.isResolving = true ↔ host.node.lifecycle = .starting ∧ host.node.socket.isSome = true := by
  simp [isResolving]

theorem isClosing_iff :
    host.isClosing = true ↔ host.node.lifecycle = .stopping ∧ host.node.socket = none := by
  simp [isClosing]

theorem moves_openSocket (opening : host.isOpening = true) (now : Instant) :
    host.Moves (.opened now) (host.openSocket now).1 (host.openSocket now).2 := by
  obtain ⟨starting, unplugged⟩ := isOpening_iff.mp opening
  unfold openSocket
  have sound : host.network.Sound → _ := fun sound => sound.bind host.node.config.listenAddress
  cases free : host.network.isBound host.node.config.listenAddress with
  | true =>
    rw [Network.bind_of_bound free] at sound ⊢
    exact .fails starting unplugged rfl rfl sound
  | false =>
    have entered : Moves host (.opened now) _ none := .enters starting unplugged free
    rw [Network.bind_of_free free] at entered ⊢
    exact entered

theorem step_moves (host : Host) (event : Event) :
    host.Moves event (host.step event).1 (host.step event).2 := by
  have stays (event : Event) : host.Moves event host none := .continues (.refl host) rfl
  cases event with
  | start =>
    simp only [step]
    split
    next starting begun =>
      obtain ⟨created, rfl⟩ := Node.beginStart_eq_ok begun
      exact .begins created
    next error refused =>
      have state := beginStart_eq_error refused
      exact .continues (.refl host) (by simp [state, Report.isRoutine, Report.hasStarted,
        Report.hasFailed, Report.hasStopped])
  | opened now =>
    simp only [step]
    split
    next opening => exact moves_openSocket opening now
    next => exact stays _
  | refused fault =>
    simp only [step]
    split
    next opening =>
      obtain ⟨starting, unplugged⟩ := isOpening_iff.mp opening
      exact .fails starting unplugged rfl rfl id
    next => exact stays _
  | resolved choice =>
    simp only [step]
    split
    next resolving =>
      obtain ⟨starting, plugged⟩ := isResolving_iff.mp resolving
      exact .runs starting plugged
    next => exact stays _
  | stop choice =>
    simp only [step]
    split
    next stopping halted =>
      exact .halts (Node.beginStop_eq_ok halted).1 (Node.beginStop_keeps halted).lifecycle halted
    next => exact .continues (.refl host) rfl
  | announced now =>
    simp only [step]
    split
    next socket plugged =>
      split
      next announcing =>
        simp only [isAnnouncing, Bool.and_eq_true, decide_eq_true_eq] at announcing
        exact .parts announcing.1 plugged
      next => exact stays _
    next => exact stays _
  | closed =>
    simp only [step]
    split
    next closing =>
      obtain ⟨stopping, unplugged⟩ := isClosing_iff.mp closing
      exact .ends stopping unplugged
    next => exact stays _
  | ask question =>
    simp only [step, ask]
    split
    next after answer asked =>
      have up : host.isUp = true := by simp [isUp, Node.running_of_ask asked]
      exact .continues (continues_of_proceeds up (Node.proceeds_ask asked) _) rfl
    next => exact .continues (.refl host) rfl
  | elsewhere operation =>
    simp only [step]
    split
    next others => exact .continues (continues_elsewhere others) rfl
    next => exact stays _
  | _ => exact .continues (continues_proceed host _) rfl

end

end Host

end ClusterCoordination
