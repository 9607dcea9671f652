import ClusterCoordination.Proofs.Cluster.Fabric
/-!
# From one node to another

The messages that one node sends to the address of another wait in a queue of the sender, travel to
the socket of the receiver, and wait there again for their handlers. Each of the three stages gives
what it gets, in the same order, whatever move is made.
-/

set_option autoImplicit false

namespace ClusterCoordination

namespace InboundMessage

def sentBy (id : MemberId) (messages : List InboundMessage) : List InboundMessage :=
  messages.filter fun message => message.sender = id

def readAll (id : MemberId) (datagrams : List Bytes) : List InboundMessage :=
  sentBy id (datagrams.filterMap read?)

section

variable {id : MemberId}

theorem sentBy_append (first second : List InboundMessage) :
    sentBy id (first ++ second) = sentBy id first ++ sentBy id second :=
  List.filter_append ..

theorem sentBy_eq_self {messages : List InboundMessage}
    (own : ∀ message ∈ messages, message.sender = id) : sentBy id messages = messages := by
  apply List.filter_eq_self.mpr
  simpa using own

theorem readAll_append (first second : List Bytes) :
    readAll id (first ++ second) = readAll id first ++ readAll id second := by
  rw [readAll, List.filterMap_append, sentBy_append, readAll, readAll]

theorem readAll_singleton (data : Bytes) : readAll id [data] = sentBy id (read? data).toList := by
  rw [readAll, List.filterMap_cons, List.filterMap_nil]
  cases read? data <;> rfl

theorem readAll_eq_nil {datagrams : List Bytes}
    (others : ∀ data ∈ datagrams, ∀ message ∈ read? data, message.sender ≠ id) :
    readAll id datagrams = [] := by
  apply List.filter_eq_nil_iff.mpr
  intro message among
  obtain ⟨data, waits, read⟩ := List.mem_filterMap.mp among
  simpa using others data waits message read

end

end InboundMessage

def Move.index? {count : Nat} : Move count → Option (Fin count)
  | .start index .. | .act index _ | .message index .. | .take index _ | .transmit index _
  | .read index .. | .hand index _ | .finish index _ | .stop index _ => some index
  | .outside _ => none

namespace Fabric

variable {count : Nat}

def waiting (fabric : Fabric count) (index : Fin count) : List Bytes :=
  ((fabric.nodes index).socket.map fabric.network.inbox).getD []

/-! ### What a move does to one node -/

def flow (fabric : Fabric count) (index : Fin count) (move : Move count) : Node.Flow :=
  if move.index? = some index then
    match move with
    | .message _ scope message target =>
      { Node.Flow.none with posted := (fabric.nodes index).letters scope message target }
    | .transmit _ drain => { Node.Flow.none with departed := (fabric.nodes index).departing drain }
    | .read _ _ _ =>
      { Node.Flow.none with
        read := ((fabric.waiting index).head?.bind InboundMessage.read?).toList }
    | .hand _ now =>
      { Node.Flow.none with handed := (((fabric.nodes index).handNext now).map Prod.fst).toList }
    | _ => .none
  else .none

def drops (fabric : Fabric count) (index : Fin count) (move : Move count)
    (address : SocketAddress) :
    Prop :=
  match move with
  | .act mover action =>
    mover = index ∧ ((fabric.nodes index).act action).registry.hasAddress address = false
  | .read mover _ _ =>
    mover = index ∧ ∃ data ∈ (fabric.waiting index).head?, Node.Farewell data address
  | _ => False

section

variable {configs : Fin count → Config} {before after : Fabric count} {move : Move count}
  {index : Fin count}

theorem Step.nodes_other (step : Step before move after) (different : move.index? ≠ some index) :
    after.nodes index = before.nodes index := by
  cases step with
  | outside => rfl
  | _ => exact nodes_put_other _ (fun same => different (congrArg some same.symm)) _

theorem Wired.not_started (wired : before.Wired configs) (opened : before.isOpen index = true)
    {starting : Node} {network : Network} {socket : SocketId}
    (begun : (before.nodes index).beginStart = .ok starting) :
    before.network.bind starting.config.listenAddress ≠ (network, .ok socket) := by
  intro bound
  obtain ⟨-, rfl⟩ := Node.beginStart_eq_ok begun
  obtain ⟨id, plugged⟩ := Option.isSome_iff_exists.mp opened
  have busy : before.network.isBound (before.nodes index).config.listenAddress = true := by
    rw [(wired.sane index).configured, Network.isBound, wired.bound index id plugged]
    rfl
  rw [Network.bind_of_bound busy] at bound
  simp at bound

theorem waiting_eq {fabric : Fabric count} {id : SocketId}
    (plugged : (fabric.nodes index).socket = some id) :
    fabric.waiting index = fabric.network.inbox id := by
  rw [waiting, plugged]
  rfl

theorem Step.passes (step : Step before move after) (wired : before.Wired configs)
    (opened : before.isOpen index = true) (still : after.isOpen index = true) :
    Node.Passes (before.flow index move) (before.drops index move) (before.nodes index)
      (after.nodes index) := by
  -- A move of another node leaves this one as it is.
  by_cases mine : move.index? = some index
  · unfold flow
    rw [if_pos mine]
    have sane := wired.sane index
    cases step with
    | outside => simp [Move.index?] at mine
    | started begun bound =>
      obtain rfl := Option.some.inj mine
      exact absurd bound (wired.not_started opened begun)
    | refused begun =>
      obtain rfl := Option.some.inj mine
      obtain ⟨-, rfl⟩ := Node.beginStart_eq_ok begun
      rw [nodes_put_self]
      obtain ⟨-, inbound, outbox, stale⟩ := (before.nodes _).passes_refl
      exact ⟨rfl, inbound, outbox, stale⟩
    | acted _ silent =>
      obtain rfl := Option.some.inj mine
      rw [nodes_put_self]
      exact (((before.nodes _).act_stirs silent).passes sane.keyed).mono fun _ gone => ⟨rfl, gone⟩
    | messaged _ done =>
      obtain rfl := Option.some.inj mine
      rw [nodes_put_self]
      exact Node.passes_sendMessage sane.keyed (sane.queues opened) done
    | taken =>
      obtain rfl := Option.some.inj mine
      rw [nodes_put_self]
      exact Node.passes_take sane.keyed _
    | transmitted =>
      obtain rfl := Option.some.inj mine
      rw [nodes_put_self]
      exact Node.passes_completed sane.keyed _ _
    | @received mover choice now socket data plugged arrived =>
      obtain rfl := Option.some.inj mine
      rw [nodes_put_self]
      obtain ⟨rest, inbox, -⟩ := Network.receive_eq_some arrived
      have first : (before.waiting mover).head? = some data := by
        rw [waiting_eq plugged, inbox]
        rfl
      have passes := ((before.nodes mover).receive_stirs choice now data).passes sane.keyed
      rw [first]
      exact passes.mono fun address leaves => ⟨rfl, data, first, leaves⟩
    | handed _ handed =>
      obtain rfl := Option.some.inj mine
      rw [nodes_put_self]
      dsimp only
      rw [handed]
      exact Node.passes_handNext handed
    | finished _ finished =>
      obtain rfl := Option.some.inj mine
      rw [nodes_put_self]
      exact Node.passes_finishBusy finished
    | stopped =>
      obtain rfl := Option.some.inj mine
      rw [isOpen, nodes_put_self] at still
      simp [Node.finishStop] at still
  · unfold flow
    rw [if_neg mine, step.nodes_other mine]
    exact Node.passes_refl _

end

/-! ### One node and another -/

section

variable (configs : Fin count → Config) (sender receiver : Fin count)

/-- The sender knows the receiver to be alive where it listens, and nothing cuts them off. -/
structure Calm (fabric : Fabric count) : Prop where
  sends : fabric.isOpen sender = true
  receives : fabric.isOpen receiver = true
  registered : ∃ member ∈ (fabric.nodes sender).registry.get? (configs receiver).id,
    member.alive = true ∧ member.address = (configs receiver).listenAddress
  connected : ¬ ((configs sender).listenAddress ∈ fabric.network.isolated ∨
    (configs receiver).listenAddress ∈ fabric.network.isolated)

/--
The sender does not read a farewell from the receiver's address, and nobody outside uses its name.
-/
def Clean (fabric : Fabric count) : Move count → Prop
  | .read mover _ _ => mover = sender →
      ∀ data ∈ (fabric.waiting sender).head?, ¬ Node.Farewell data (configs receiver).listenAddress
  | .outside (.send _ target data) => target = (configs receiver).listenAddress →
      ∀ message ∈ InboundMessage.read? data, message.sender ≠ (configs sender).id
  | _ => True

/-- No queue to the receiver that was dropped holds a message. -/
def Settled (fabric : Fabric count) : Prop :=
  (fabric.nodes sender).outbox.stale (configs receiver).listenAddress = []

instance (fabric : Fabric count) : Decidable (fabric.Calm configs sender receiver) :=
  decidable_of_iff
    (fabric.isOpen sender = true ∧ fabric.isOpen receiver = true ∧
      (∃ member ∈ (fabric.nodes sender).registry.get? (configs receiver).id,
        member.alive = true ∧ member.address = (configs receiver).listenAddress) ∧
      ¬ ((configs sender).listenAddress ∈ fabric.network.isolated ∨
        (configs receiver).listenAddress ∈ fabric.network.isolated))
    ⟨fun ⟨sends, receives, registered, connected⟩ => ⟨sends, receives, registered, connected⟩,
      fun ⟨sends, receives, registered, connected⟩ => ⟨sends, receives, registered, connected⟩⟩

instance (fabric : Fabric count) : DecidablePred (fabric.Clean configs sender receiver)
  | .read .. => inferInstanceAs (Decidable (_ → ∀ data ∈ _, ¬ Node.Farewell _ _))
  | .outside (.send ..) => inferInstanceAs (Decidable (_ → ∀ message ∈ _, _ ≠ _))
  | .start .. | .act .. | .message .. | .take .. | .transmit .. | .hand .. | .finish .. | .stop ..
  | .outside (.bind _) | .outside (.receive _) | .outside (.close _) | .outside (.drop _)
  | .outside (.isolate _) | .outside (.heal _) => isTrue trivial

instance (fabric : Fabric count) : Decidable (fabric.Settled configs sender receiver) :=
  inferInstanceAs (Decidable (_ = _))

def travelling (fabric : Fabric count) : List InboundMessage :=
  InboundMessage.readAll (configs sender).id (fabric.waiting receiver)

/-- The messages of the sender that the receiver has yet to hand over, the oldest first. -/
def underway (fabric : Fabric count) : List InboundMessage :=
  InboundMessage.sentBy (configs sender).id (fabric.nodes receiver).inbound ++
    fabric.travelling configs sender receiver ++
    (fabric.nodes sender).outbox.messages (configs receiver).listenAddress

def handedOver (fabric : Fabric count) (move : Move count) : List InboundMessage :=
  InboundMessage.sentBy (configs sender).id (fabric.flow receiver move).handed

end

section

variable {configs : Fin count → Config} {sender receiver : Fin count} {before after : Fabric count}
  {move : Move count}

theorem flow_read {index : Fin count} (unread : ∀ choice now, move ≠ .read index choice now) :
    (before.flow index move).read = [] := by
  unfold flow
  split
  next mine =>
    cases move with
    | read mover choice now =>
      obtain rfl := Option.some.inj mine
      exact absurd rfl (unread choice now)
    | _ => rfl
  next => rfl

theorem flow_departed {index : Fin count} {address : SocketAddress}
    (unsent : ∀ drain data, move = .transmit index drain →
      (before.nodes index).outbox.sending? drain ≠ some (address, data)) :
    (before.flow index move).departed address = [] := by
  unfold flow
  split
  next mine =>
    cases move with
    | transmit mover drain =>
      obtain rfl := Option.some.inj mine
      apply List.filterMap_eq_nil_iff.mpr
      rintro ⟨target, data⟩ sending
      rw [if_neg]
      rintro rfl
      exact unsent drain data rfl (by simpa using sending)
    | _ => rfl
  next => rfl

def Brings (fabric : Fabric count) (id : SocketId) (move : Move count) (data : Bytes) : Prop :=
  ∃ target, fabric.network.bound? target = some id ∧
    ((∃ mover drain, move = .transmit mover drain ∧
        (fabric.nodes mover).outbox.sending? drain = some (target, data)) ∨
      ∃ source, move = .outside (.send source target data))

theorem Step.spares (step : Step before move after) (wired : before.Wired configs)
    {index : Fin count} {id : SocketId} (plugged : (before.nodes index).socket = some id)
    (still : after.isOpen index = true) (unread : ∀ choice now, move ≠ .read index choice now) :
    ∃ arrived, Network.Spares id arrived before.network after.network ∧
      ∀ data ∈ arrived, before.Brings id move data := by
  obtain ⟨socket, found, present⟩ := wired.socket plugged
  have quiet (spares : Network.Spares id [] before.network after.network) :
      ∃ arrived, Network.Spares id arrived before.network after.network ∧
        ∀ data ∈ arrived, before.Brings id move data :=
    ⟨[], spares, by simp⟩
  have binds {address : SocketAddress} {result : Network × Except NetworkFault SocketId}
      (became : before.network.bind address = result) :
      Network.Spares id [] before.network result.1 :=
    became ▸ Network.spares_bind wired.sound found address
  -- No two nodes share a socket, so only the node itself could have closed this one or read from
  -- it.
  cases step with
  | started _ became => exact quiet (binds became)
  | refused _ became => exact quiet (binds became)
  | stopped plug =>
    refine quiet (Network.spares_close wired.sound ?_)
    rintro rfl
    obtain rfl := wired.apart _ _ _ plug plugged
    rw [isOpen, nodes_put_self] at still
    simp [Node.finishStop] at still
  | @transmitted mover drain target data sending =>
    obtain ⟨arrived, spares, what⟩ := Network.spares_send wired.sound id
      (before.nodes mover).config.listenAddress target data
    refine ⟨arrived, spares, ?_⟩
    intro datagram among
    obtain ⟨rfl, bound⟩ := what datagram among
    exact ⟨target, bound, .inl ⟨mover, drain, rfl, sending⟩⟩
  | @received mover choice now other data plug _ =>
    refine quiet (Network.spares_receive ?_)
    rintro rfl
    obtain rfl := wired.apart mover index other plug plugged
    exact unread choice now rfl
  | @outside operation foreign =>
    obtain ⟨arrived, spares, what⟩ :=
      Network.spares_perform wired.sound found (ne_of_isForeign foreign plugged)
    refine ⟨arrived, spares, ?_⟩
    intro data among
    obtain ⟨source, target, rfl, bound⟩ := what data among
    exact ⟨target, bound, .inr ⟨source, rfl⟩⟩
  | _ => exact quiet (.refl _ id)

theorem Wired.signed (wired : before.Wired configs) {mover : Fin count} {drain : DrainId}
    {target : SocketAddress} {data : Bytes}
    (sending : (before.nodes mover).outbox.sending? drain = some (target, data)) :
    ∀ message ∈ InboundMessage.read? data, message.sender = (configs mover).id := by
  intro message read
  apply (wired.sane mover).own target
  exact List.mem_filterMap.mpr ⟨data, Outbox.mem_line_of_sending? sending, read⟩

theorem Calm.accepts (calm : before.Calm configs sender receiver) (wired : before.Wired configs)
    {id : SocketId} (plugged : (before.nodes receiver).socket = some id) (data : Bytes) :
    Network.Spares id [data] before.network
      (before.network.send (before.nodes sender).config.listenAddress
        (configs receiver).listenAddress data).1 := by
  obtain ⟨socket, found, present⟩ := wired.socket plugged
  rw [(wired.sane sender).configured]
  exact Network.spares_accept calm.connected (wired.bound receiver id plugged) found present

theorem Step.travels (step : Step before move after) (wired : before.Wired configs)
    (named : ∀ other, other ≠ sender → (configs other).id ≠ (configs sender).id)
    (calm : before.Calm configs sender receiver) (clean : before.Clean configs sender receiver move)
    (still : after.isOpen receiver = true) :
    InboundMessage.sentBy (configs sender).id (before.flow receiver move).read ++
        after.travelling configs sender receiver =
      before.travelling configs sender receiver ++
        (before.flow sender move).departed (configs receiver).listenAddress := by
  obtain ⟨id, plugged⟩ := Option.isSome_iff_exists.mp calm.receives
  have stays := (step.passes wired calm.receives still).socket.trans plugged
  simp only [travelling, waiting_eq plugged, waiting_eq stays]
  -- The receiver takes the first datagram off, or one of the sender's arrives behind the others, or
  -- what arrives is somebody else's.
  by_cases reads : ∃ choice now, move = .read receiver choice now
  · obtain ⟨choice, now, rfl⟩ := reads
    rw [flow_departed (by simp), List.append_nil]
    cases step with
    | @received _ _ _ other data plug arrived =>
      obtain rfl : other = id := Option.some.inj (plug.symm.trans plugged)
      obtain ⟨rest, inbox, left⟩ := Network.receive_eq_some arrived
      have first : (before.flow receiver (.read receiver choice now)).read =
          (InboundMessage.read? data).toList := by
        simp [flow, Move.index?, waiting_eq plugged, inbox]
      rw [first, network_put, inbox, left, ← InboundMessage.readAll_singleton,
        ← InboundMessage.readAll_append]
      rfl
  · rw [flow_read (by simpa using reads), InboundMessage.sentBy, List.filter_nil, List.nil_append]
    by_cases sends : ∃ drain data, move = .transmit sender drain ∧
        (before.nodes sender).outbox.sending? drain = some ((configs receiver).listenAddress, data)
    · obtain ⟨drain, data, rfl, sending⟩ := sends
      have departs : (before.flow sender (.transmit sender drain)).departed
          (configs receiver).listenAddress = (InboundMessage.read? data).toList := by
        cases read : InboundMessage.read? data <;>
          simp [flow, Move.index?, Node.departing, sending, read]
      have spares : Network.Spares id [data] before.network after.network := by
        cases step with
        | transmitted sends =>
          obtain ⟨rfl, rfl⟩ := Prod.mk.inj (Option.some.inj (sends.symm.trans sending))
          exact calm.accepts wired plugged _
      rw [spares.inbox, departs, InboundMessage.readAll_append, InboundMessage.readAll_singleton,
        InboundMessage.sentBy_eq_self]
      simpa using wired.signed sending
    · obtain ⟨arrived, spares, what⟩ := step.spares wired plugged still (by simpa using reads)
      -- Other nodes sign with names of their own, and nobody outside uses the name of the sender.
      have foreign : InboundMessage.readAll (configs sender).id arrived = [] := by
        apply InboundMessage.readAll_eq_nil
        intro data waits message read
        obtain ⟨target, there, sent⟩ := what data waits
        obtain rfl := wired.sound.bound?_inj (wired.bound receiver id plugged) there
        rcases sent with ⟨mover, drain, rfl, sending⟩ | ⟨source, rfl⟩
        · rw [wired.signed sending message read]
          apply named
          rintro rfl
          exact sends ⟨drain, data, rfl, sending⟩
        · exact clean rfl message read
      have silent : (before.flow sender move).departed (configs receiver).listenAddress = [] :=
        flow_departed fun drain data moves sending => sends ⟨drain, data, moves, sending⟩
      rw [spares.inbox, InboundMessage.readAll_append, foreign, silent]

theorem Step.settled (step : Step before move after) (wired : before.Wired configs)
    (calm : before.Calm configs sender receiver) (clean : before.Clean configs sender receiver move)
    (still : after.Calm configs sender receiver)
    (settled : before.Settled configs sender receiver) :
    after.Settled configs sender receiver := by
  refine (step.passes wired calm.sends still.sends).stale _ ?_ settled
  cases move with
  | act mover action =>
    rintro ⟨rfl, unknown⟩
    cases step with
    | acted =>
      obtain ⟨member, known, -, here⟩ := still.registered
      rw [nodes_put_self] at known
      obtain ⟨record, found, rfl⟩ := Option.map_eq_some_iff.mp known
      have listed := List.any_eq_false.mp unknown record (List.mem_of_find?_eq_some found)
      simp [here] at listed
  | read mover choice now =>
    rintro ⟨rfl, data, first, leaves⟩
    exact clean rfl data first leaves
  | _ => exact fun dropped => dropped

/-- Three queues of which each gives to the one before it are one queue. -/
theorem append_of_stages {α : Type}
    {out first last input first' second second' third third' : List α} {middle : List α}
    (one : out ++ first' = first ++ middle) (two : middle ++ second' = second ++ last)
    (three : last ++ third' = third ++ input) :
    out ++ (first' ++ second' ++ third') = first ++ second ++ third ++ input :=
  calc
    out ++ (first' ++ second' ++ third') = (out ++ first') ++ second' ++ third' := by simp
    _ = first ++ (middle ++ second') ++ third' := by simp [one]
    _ = first ++ second ++ (last ++ third') := by simp [two]
    _ = first ++ second ++ third ++ input := by simp [three]

theorem Step.conserves (step : Step before move after) (wired : before.Wired configs)
    (named : ∀ other, other ≠ sender → (configs other).id ≠ (configs sender).id)
    (calm : before.Calm configs sender receiver) (clean : before.Clean configs sender receiver move)
    (still : after.Calm configs sender receiver)
    (settled : before.Settled configs sender receiver) :
    before.handedOver configs sender receiver move ++ after.underway configs sender receiver =
      before.underway configs sender receiver ++
        (before.flow sender move).posted (configs receiver).listenAddress := by
  have queues := (step.passes wired calm.sends still.sends).outbox _ settled
  have travels := step.travels wired named calm clean still.receives
  have hands := congrArg (InboundMessage.sentBy (configs sender).id)
    (step.passes wired calm.receives still.receives).inbound
  rw [InboundMessage.sentBy_append, InboundMessage.sentBy_append] at hands
  exact append_of_stages hands travels queues

end

end Fabric

end ClusterCoordination
