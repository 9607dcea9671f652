import ClusterCoordination.Proofs.Cluster.Exchange
import ClusterCoordination.Proofs.Cluster.Runs
/-!
# Messages are forwarded

As long as a message is on its way from one node to another, one of them can bring it nearer to its
handler: a drain, the reader, or the task that hands messages over. Nothing that a handler does can
keep them from it.
-/

set_option autoImplicit false

namespace ClusterCoordination

theorem Outbox.sending?_take {outbox : Outbox} {id : DrainId} {item : SocketAddress × Bytes}
    (taken : (outbox.take id).2 = some item) : (outbox.take id).1.sending? id = some item := by
  obtain ⟨drain, outgoing, rest, found, -, -, rfl, after⟩ := take_eq_some taken
  rw [after, sending?, drain?_modify (by intro drain; rfl) found]
  rfl

theorem Outbox.Keyed.ready {outbox : Outbox} (keyed : outbox.Keyed) {address : SocketAddress}
    (waits : outbox.line address ≠ []) :
    ∃ id data, outbox.sending? id = some (address, data) ∨
      (outbox.take id).2 = some (address, data) := by
  obtain ⟨data, among⟩ := List.exists_mem_of_ne_nil _ waits
  obtain ⟨drain, present, rfl, holds⟩ := mem_line.mp among
  have found := drain?_of_nodup keyed.unique present
  cases sending : drain.sending with
  | some outgoing =>
    refine ⟨drain.id, outgoing.data, .inl ?_⟩
    simp [Outbox.sending?, found, sending]
  | none =>
    cases backlog : drain.backlog with
    | nil => simp [Drain.pending, sending, backlog] at holds
    | cons outgoing rest =>
      refine ⟨drain.id, outgoing.data, .inr ?_⟩
      simp [Outbox.take, found, sending, backlog]

theorem Outbox.Keyed.length_complete {outbox : Outbox} (keyed : outbox.Keyed) {id : DrainId}
    {address : SocketAddress} {data : Bytes} (sending : outbox.sending? id = some (address, data))
    (result : Except NetworkFault Unit) :
    ((outbox.complete id result).1.line address).length < (outbox.line address).length := by
  obtain ⟨drain, found, taken⟩ := Option.bind_eq_some_iff.mp sending
  obtain ⟨outgoing, busy, same⟩ := Option.map_eq_some_iff.mp taken
  obtain ⟨rfl, rfl⟩ := Prod.mk.inj same
  obtain rfl : drain.id = id := by simpa using List.find?_some found
  obtain ⟨ahead, behind, before, afterwards, -⟩ :=
    keyed.line_complete (List.mem_of_find?_eq_some found) result drain.address
  simp [before, afterwards, busy]

/-- The move brings messages from the sender nearer to the handlers of the receiver. -/
def Move.Forwards {count : Nat} (sender receiver : Fin count) : Move count → Prop
  | .take mover _ | .transmit mover _ => mover = sender
  | .read mover _ _ | .hand mover _ | .finish mover _ => mover = receiver
  | _ => False

namespace Fabric

variable {count : Nat} {configs : Fin count → Config} {sender receiver : Fin count}

section

variable (configs sender receiver)

/-- How much is left to do until everything on its way to the receiver has been handled. -/
def remaining (fabric : Fabric count) : Nat :=
  4 * ((fabric.nodes sender).outbox.line (configs receiver).listenAddress).length +
    3 * (fabric.waiting receiver).length + 2 * (fabric.nodes receiver).inbound.length +
      (fabric.nodes receiver).busy.toList.length

theorem underway_of_done {fabric : Fabric count}
    (done : fabric.remaining configs sender receiver = 0) :
    fabric.underway configs sender receiver = [] := by
  simp only [remaining, Nat.add_eq_zero_iff, Nat.mul_eq_zero, List.length_eq_zero_iff] at done
  obtain ⟨⟨⟨line, waiting⟩, inbound⟩, -⟩ := done
  simp_all [underway, travelling, InboundMessage.readAll, InboundMessage.sentBy, Outbox.messages]

end

section

variable {before after : Fabric count} {move : Move count}

theorem Step.forwarded (step : Step before move after) (apart : sender ≠ receiver)
    (forwards : move.Forwards sender receiver) :
    (∀ index, (after.nodes index).socket = (before.nodes index).socket) ∧
      (after.nodes sender).registry = (before.nodes sender).registry ∧
        after.network.isolated = before.network.isolated := by
  cases step with
  | taken =>
    exact ⟨field_put Node.socket _ (by rfl), field_put Node.registry _ (by rfl) sender, rfl⟩
  | @transmitted mover drain target data sending =>
    obtain ⟨_, _, _, completed⟩ := (before.nodes mover).completed_eq drain
      (before.network.send (before.nodes mover).config.listenAddress target data).2
    rw [completed]
    refine ⟨field_put Node.socket _ (by rfl), field_put Node.registry _ (by rfl) sender, ?_⟩
    exact Network.isolated_send ..
  | @received mover choice now socket data =>
    obtain rfl : mover = receiver := forwards
    have stirs := (before.nodes mover).receive_stirs choice now data
    refine ⟨field_put Node.socket _ stirs.socket, ?_, ?_⟩
    · rw [nodes_put_other _ apart]
    · exact Network.isolated_receive ..
  | handed _ handed =>
    obtain ⟨-, _, _, _, -, rfl⟩ := Node.handNext_eq_some handed
    exact ⟨field_put Node.socket _ (by rfl), field_put Node.registry _ (by rfl) sender, rfl⟩
  | finished _ finished =>
    obtain ⟨_, rfl⟩ := Node.finishBusy_eq_some finished
    exact ⟨field_put Node.socket _ (by rfl), field_put Node.registry _ (by rfl) sender, rfl⟩
  | _ => exact forwards.elim

theorem Calm.forwarded (calm : before.Calm configs sender receiver) (apart : sender ≠ receiver)
    (step : Step before move after) (forwards : move.Forwards sender receiver) :
    after.Calm configs sender receiver := by
  obtain ⟨sockets, registry, isolated⟩ := step.forwarded apart forwards
  constructor
  · rw [isOpen, sockets]
    exact calm.sends
  · rw [isOpen, sockets]
    exact calm.receives
  · rw [registry]
    exact calm.registered
  · rw [isolated]
    exact calm.connected

theorem clean_of_forwards (apart : sender ≠ receiver) (forwards : move.Forwards sender receiver) :
    before.Clean configs sender receiver move := by
  cases move with
  | read mover choice now => exact fun same => absurd (same.symm.trans forwards) apart
  | outside operation => exact forwards.elim
  | _ => trivial

theorem along_of_forwards (apart : sender ≠ receiver) (calm : before.Calm configs sender receiver)
    {moves : List (Move count)} (forwards : ∀ move ∈ moves, move.Forwards sender receiver)
    (made : before.steps? moves = some after) :
    before.Along (Calm configs sender receiver) (Clean configs sender receiver) moves := by
  induction moves generalizing before with
  | nil => exact calm
  | cons move rest ih =>
    obtain ⟨middle, first, later⟩ := steps?_cons_eq_some made
    have forward := forwards move List.mem_cons_self
    refine (along_cons first).mpr ⟨calm, clean_of_forwards apart forward, ?_⟩
    exact ih (calm.forwarded apart (step_of_step? first) forward)
      (fun other among => forwards other (List.mem_cons_of_mem move among)) later

end

section

variable {fabric : Fabric count}

theorem transmit_nearer (wired : fabric.Wired configs) (apart : sender ≠ receiver)
    (calm : fabric.Calm configs sender receiver) {drain : DrainId} {data : Bytes}
    (sending : (fabric.nodes sender).outbox.sending? drain =
      some ((configs receiver).listenAddress, data)) :
    ∃ after, fabric.step? (.transmit sender drain) = some after ∧
      after.remaining configs sender receiver < fabric.remaining configs sender receiver := by
  obtain ⟨id, plugged⟩ := Option.isSome_iff_exists.mp calm.receives
  refine ⟨fabric.put _ sender _, by simp only [step?, sending]; rfl, ?_⟩
  obtain ⟨_, _, _, completed⟩ := (fabric.nodes sender).completed_eq drain
    (fabric.network.send (fabric.nodes sender).config.listenAddress
      (configs receiver).listenAddress data).2
  have shorter := (wired.sane sender).keyed.length_complete sending
    (fabric.network.send (fabric.nodes sender).config.listenAddress
      (configs receiver).listenAddress data).2
  have arrives := (calm.accepts wired plugged data).inbox
  simp only [remaining, waiting, nodes_put_self, nodes_put_other _ apart.symm, network_put, plugged,
    Option.map_some, Option.getD_some, completed, arrives, List.length_append,
      List.length_singleton]
  omega

theorem take_ready (sane : (fabric.nodes sender).Sane (configs sender)) (apart : sender ≠ receiver)
    {drain : DrainId} {item : SocketAddress × Bytes}
    (takes : ((fabric.nodes sender).outbox.take drain).2 = some item) :
    ∃ after, fabric.step? (.take sender drain) = some after ∧
      after.remaining configs sender receiver = fabric.remaining configs sender receiver ∧
        (after.nodes sender).outbox.sending? drain = some item := by
  let taken : Node :=
    { fabric.nodes sender with outbox := ((fabric.nodes sender).outbox.take drain).1 }
  refine ⟨fabric.put fabric.network sender taken, ?_, ?_, ?_⟩
  · have split : (fabric.nodes sender).outbox.take drain =
        (((fabric.nodes sender).outbox.take drain).1, some item) := Prod.ext rfl takes
    simp only [step?]
    rw [split]
  · simp only [remaining, waiting, nodes_put_self, nodes_put_other _ apart.symm, network_put]
    rw [(sane.keyed.line_take drain _).1]
  · rw [nodes_put_self]
    exact Outbox.sending?_take takes

theorem read_nearer (wired : fabric.Wired configs) (apart : sender ≠ receiver)
    (opened : fabric.isOpen receiver = true) (waits : fabric.waiting receiver ≠ []) :
    ∃ after, fabric.step? (.read receiver .first 0) = some after ∧
      after.remaining configs sender receiver < fabric.remaining configs sender receiver := by
  obtain ⟨id, plugged⟩ := Option.isSome_iff_exists.mp opened
  obtain ⟨socket, found, -⟩ := wired.socket plugged
  obtain ⟨data, rest, inbox⟩ := List.exists_cons_of_ne_nil (waiting_eq plugged ▸ waits)
  have takes := Network.receive_of_cons found ((Network.inbox_of_socket? found).symm.trans inbox)
  refine ⟨fabric.put _ receiver _, by simp only [step?, plugged, takes]; rfl, ?_⟩
  have left :
      (fabric.network.modify id fun socket => { socket with inbox := rest }).inbox id = rest :=
    (Network.inbox_put found (fun _ => rest) id).trans (if_pos rfl)
  have stirs := (fabric.nodes receiver).receive_stirs .first 0 data
  have few : (InboundMessage.read? data).toList.length ≤ 1 := by
    cases InboundMessage.read? data <;> simp
  simp only [remaining, waiting, nodes_put_self, nodes_put_other _ apart, network_put, plugged,
    stirs.socket, stirs.inbound, stirs.busy, Option.map_some, Option.getD_some, inbox, left,
    List.length_append, List.length_cons]
  omega

theorem hand_nearer (apart : sender ≠ receiver) (opened : fabric.isOpen receiver = true)
    (idle : (fabric.nodes receiver).busy = none) (waits : (fabric.nodes receiver).inbound ≠ []) :
    ∃ after, fabric.step? (.hand receiver 0) = some after ∧
      after.remaining configs sender receiver < fabric.remaining configs sender receiver := by
  obtain ⟨message, rest, inbound⟩ := List.exists_cons_of_ne_nil waits
  have able : ((fabric.nodes receiver).handNext 0).isSome = true := by
    simp [Node.handNext, idle, inbound]
  obtain ⟨⟨first, node⟩, handed⟩ := Option.isSome_iff_exists.mp able
  refine ⟨fabric.put _ receiver node, by simp [step?, opened, handed]; rfl, ?_⟩
  obtain ⟨-, others, _, busy, split, rfl⟩ := Node.handNext_eq_some handed
  have few : busy.toList.length ≤ 1 := by
    cases busy <;> simp
  simp only [remaining, waiting, nodes_put_self, nodes_put_other _ apart, network_put, split,
    List.length_cons]
  omega

theorem finish_nearer (apart : sender ≠ receiver) (opened : fabric.isOpen receiver = true)
    {busy : BusyHandler} (occupied : (fabric.nodes receiver).busy = some busy) :
    ∃ after, fabric.step? (.finish receiver busy.due) = some after ∧
      after.remaining configs sender receiver < fabric.remaining configs sender receiver := by
  have able : ((fabric.nodes receiver).finishBusy busy.due).isSome = true := by
    simp [Node.finishBusy, occupied]
  obtain ⟨node, finished⟩ := Option.isSome_iff_exists.mp able
  refine ⟨fabric.put _ receiver node, by simp [step?, opened, finished]; rfl, ?_⟩
  obtain ⟨_, rfl⟩ := Node.finishBusy_eq_some finished
  simp [remaining, waiting, nodes_put_other _ apart, occupied]

theorem nearer (wired : fabric.Wired configs) (apart : sender ≠ receiver)
    (calm : fabric.Calm configs sender receiver)
    (unfinished : fabric.remaining configs sender receiver ≠ 0) :
    ∃ moves after, (∀ move ∈ moves, move.Forwards sender receiver) ∧
      fabric.steps? moves = some after ∧
        after.remaining configs sender receiver < fabric.remaining configs sender receiver := by
  have single {move : Move count} (made : ∃ after, fabric.step? move = some after ∧
      after.remaining configs sender receiver < fabric.remaining configs sender receiver)
      (forwards : move.Forwards sender receiver) :
      ∃ moves after, (∀ move ∈ moves, move.Forwards sender receiver) ∧
        fabric.steps? moves = some after ∧
          after.remaining configs sender receiver < fabric.remaining configs sender receiver := by
    obtain ⟨after, step, less⟩ := made
    exact ⟨[move], after, by simpa using forwards, by simp [steps?, step], less⟩
  -- From the sender on: what is queued is sent, what has arrived is read, and what was read is
  -- handed over one by one.
  by_cases queued : (fabric.nodes sender).outbox.line (configs receiver).listenAddress = []
  · by_cases waits : fabric.waiting receiver = []
    · cases occupied : (fabric.nodes receiver).busy with
      | some busy => exact single (finish_nearer apart calm.receives occupied) rfl
      | none =>
        refine single (hand_nearer apart calm.receives occupied ?_) rfl
        intro inbound
        simp [remaining, queued, waits, occupied, inbound] at unfinished
    · exact single (read_nearer wired apart calm.receives waits) rfl
  · obtain ⟨drain, data, sending | takes⟩ := (wired.sane sender).keyed.ready queued
    · exact single (transmit_nearer wired apart calm sending) rfl
    · obtain ⟨middle, taken, same, sending⟩ := take_ready (wired.sane sender) apart takes
      have step := step_of_step? taken
      obtain ⟨after, transmitted, less⟩ := transmit_nearer (wired.step step) apart
        (calm.forwarded apart step rfl) sending
      refine ⟨[.take sender drain, .transmit sender drain], after, ?_, ?_, same ▸ less⟩
      · intro move among
        rcases List.mem_pair.mp among with rfl | rfl <;> rfl
      · rw [steps?_cons taken, steps?_cons transmitted, steps?]

theorem finishes (wired : fabric.Wired configs) (apart : sender ≠ receiver)
    (calm : fabric.Calm configs sender receiver) :
    ∃ moves after, (∀ move ∈ moves, move.Forwards sender receiver) ∧
      fabric.steps? moves = some after ∧ after.underway configs sender receiver = [] := by
  induction left : fabric.remaining configs sender receiver using Nat.strong_induction_on
    generalizing fabric with
  | _ amount ih =>
    by_cases done : fabric.remaining configs sender receiver = 0
    · exact ⟨[], fabric, by simp, rfl, underway_of_done configs sender receiver done⟩
    · obtain ⟨moves, middle, forwards, made, less⟩ := nearer wired apart calm done
      have ends := (along_of_forwards apart calm forwards made).ends made
      obtain ⟨more, after, forward, later, finished⟩ :=
        ih _ (left ▸ less) (wired.steps made) ends rfl
      refine ⟨moves ++ more, after, ?_, (steps?_append made).trans later, finished⟩
      intro move among
      exact (List.mem_append.mp among).elim (forwards move) (forward move)

end

end Fabric

end ClusterCoordination
