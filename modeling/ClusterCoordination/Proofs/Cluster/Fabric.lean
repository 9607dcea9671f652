import ClusterCoordination.Proofs.Cluster.Honesty
import ClusterCoordination.Proofs.Network.Bystanders
import ClusterCoordination.Proofs.Nodes.Tasks
/-!
# Nodes on a network

The nodes of a cluster, together with the network through which they reach one another. Every task
of a node makes one step at a time, in any order: a drain takes a datagram or sends the one it has
taken, the reader receives a datagram, a message is handed to its handler, a handler ends. Others
have sockets on the same network.
-/

set_option autoImplicit false

namespace ClusterCoordination

structure Fabric (count : Nat) where
  network : Network
  nodes : Cluster count

inductive Move (count : Nat) where
  | start (index : Fin count) (choice : PeerChoice) (now : Instant)
  | act (index : Fin count) (action : Node.Action)
  | message (index : Fin count) (scope : Scope) (message : Payload) (target : Option MemberId)
  | take (index : Fin count) (drain : DrainId)
  | transmit (index : Fin count) (drain : DrainId)
  | read (index : Fin count) (choice : PeerChoice) (now : Instant)
  | hand (index : Fin count) (now : Instant)
  | finish (index : Fin count) (now : Instant)
  | stop (index : Fin count) (now : Instant)
  | outside (operation : Network.Operation)

namespace Fabric

variable {count : Nat}

def created (configs : Fin count → Config) : Fabric count :=
  ⟨.empty, fun index => .new (configs index)⟩

def put (fabric : Fabric count) (network : Network) (index : Fin count)
    (node : Node) : Fabric count :=
  ⟨network, fabric.nodes.put index node⟩

def isOpen (fabric : Fabric count) (index : Fin count) : Bool := (fabric.nodes index).socket.isSome

def isForeign (fabric : Fabric count) (operation : Network.Operation) : Bool :=
  match operation.socket? with
  | some id => decide (∀ index, (fabric.nodes index).socket ≠ some id)
  | none => true

def step? (fabric : Fabric count) : Move count → Option (Fabric count)
  | .start index choice now =>
    match (fabric.nodes index).beginStart with
    | .error _ => none
    | .ok starting =>
      match fabric.network.bind starting.config.listenAddress with
      | (network, .ok socket) =>
        some (fabric.put network index (starting.finishStart choice now socket))
      | (network, .error _) => some (fabric.put network index starting.failStart)
  | .act index action =>
    if fabric.isOpen index && action.isSilent then
      some (fabric.put fabric.network index ((fabric.nodes index).act action))
    else none
  | .message index scope message target =>
    if fabric.isOpen index then
      match (fabric.nodes index).sendMessage scope message target with
      | .ok (after, _) => some (fabric.put fabric.network index after)
      | .error _ => none
    else none
  | .take index drain =>
    match (fabric.nodes index).outbox.take drain with
    | (outbox, some _) =>
      some (fabric.put fabric.network index { fabric.nodes index with outbox := outbox })
    | (_, none) => none
  | .transmit index drain =>
    match (fabric.nodes index).outbox.sending? drain with
    | none => none
    | some (target, data) =>
      let (network, result) :=
        fabric.network.send (fabric.nodes index).config.listenAddress target data
      some (fabric.put network index ((fabric.nodes index).completed drain result))
  | .read index choice now =>
    match (fabric.nodes index).socket with
    | none => none
    | some socket =>
      match fabric.network.receive socket with
      | (network, .ok (some data)) =>
        some (fabric.put network index ((fabric.nodes index).receive choice now data))
      | (_, _) => none
  | .hand index now =>
    if fabric.isOpen index then
      ((fabric.nodes index).handNext now).map fun handed =>
        fabric.put fabric.network index handed.2
    else none
  | .finish index now =>
    if fabric.isOpen index then
      ((fabric.nodes index).finishBusy now).map (fabric.put fabric.network index)
    else none
  | .stop index now =>
    match (fabric.nodes index).socket with
    | none => none
    | some socket =>
      some (fabric.put (fabric.network.close socket) index ((fabric.nodes index).finishStop now))
  | .outside operation =>
    if fabric.isForeign operation then
      some { fabric with network := (fabric.network.perform operation).1 }
    else none

def steps? (fabric : Fabric count) : List (Move count) → Option (Fabric count)
  | [] => some fabric
  | move :: rest => (fabric.step? move).bind fun after => after.steps? rest

def Reachable (configs : Fin count → Config) (fabric : Fabric count) : Prop :=
  ∃ moves, (created configs).steps? moves = some fabric

inductive Step (before : Fabric count) : Move count → Fabric count → Prop where
  | started {index : Fin count} {choice : PeerChoice} {now : Instant} {starting : Node}
      {network : Network} {socket : SocketId}
      (begun : (before.nodes index).beginStart = .ok starting)
      (bound : before.network.bind starting.config.listenAddress = (network, .ok socket)) :
      Step before (.start index choice now)
        (before.put network index (starting.finishStart choice now socket))
  | refused {index : Fin count} {choice : PeerChoice} {now : Instant} {starting : Node}
      {network : Network} {fault : NetworkFault}
      (begun : (before.nodes index).beginStart = .ok starting)
      (unbound : before.network.bind starting.config.listenAddress = (network, .error fault)) :
      Step before (.start index choice now) (before.put network index starting.failStart)
  | acted {index : Fin count} {action : Node.Action} (opened : before.isOpen index = true)
      (silent : action.isSilent = true) :
      Step before (.act index action)
        (before.put before.network index ((before.nodes index).act action))
  | messaged {index : Fin count} {scope : Scope} {message : Payload} {target : Option MemberId}
      {after : Node} {number : Nat} (opened : before.isOpen index = true)
      (done : (before.nodes index).sendMessage scope message target = .ok (after, number)) :
      Step before (.message index scope message target) (before.put before.network index after)
  | taken {index : Fin count} {drain : DrainId} {item : SocketAddress × Bytes}
      (taken : ((before.nodes index).outbox.take drain).2 = some item) :
      Step before (.take index drain) (before.put before.network index
        { before.nodes index with outbox := ((before.nodes index).outbox.take drain).1 })
  | transmitted {index : Fin count} {drain : DrainId} {target : SocketAddress} {data : Bytes}
      (sending : (before.nodes index).outbox.sending? drain = some (target, data)) :
      Step before (.transmit index drain)
        (before.put
          (before.network.send (before.nodes index).config.listenAddress target data).1 index
          ((before.nodes index).completed drain
            (before.network.send (before.nodes index).config.listenAddress target data).2))
  | received {index : Fin count} {choice : PeerChoice} {now : Instant} {socket : SocketId}
      {data : Bytes} (plugged : (before.nodes index).socket = some socket)
      (arrived : (before.network.receive socket).2 = .ok (some data)) :
      Step before (.read index choice now)
        (before.put (before.network.receive socket).1 index
          ((before.nodes index).receive choice now data))
  | handed {index : Fin count} {now : Instant} {message : InboundMessage} {after : Node}
      (opened : before.isOpen index = true)
      (handed : (before.nodes index).handNext now = some (message, after)) :
      Step before (.hand index now) (before.put before.network index after)
  | finished {index : Fin count} {now : Instant} {after : Node}
      (opened : before.isOpen index = true)
      (finished : (before.nodes index).finishBusy now = some after) :
      Step before (.finish index now) (before.put before.network index after)
  | stopped {index : Fin count} {now : Instant} {socket : SocketId}
      (plugged : (before.nodes index).socket = some socket) :
      Step before (.stop index now)
        (before.put (before.network.close socket) index ((before.nodes index).finishStop now))
  | outside {operation : Network.Operation} (foreign : before.isForeign operation = true) :
      Step before (.outside operation)
        { before with network := (before.network.perform operation).1 }

theorem step_of_step? {before after : Fabric count} {move : Move count}
    (made : before.step? move = some after) : Step before move after := by
  cases move with
  | start index choice now =>
    simp only [step?] at made
    split at made
    next => simp at made
    next starting begun =>
      split at made
      next bound => exact Option.some.inj made ▸ .started begun bound
      next unbound => exact Option.some.inj made ▸ .refused begun unbound
  | act index action =>
    simp only [step?] at made
    split at made
    next able =>
      rw [Bool.and_eq_true] at able
      exact Option.some.inj made ▸ .acted able.1 able.2
    next => simp at made
  | message index scope message target =>
    simp only [step?] at made
    split at made
    next opened =>
      split at made
      next done => exact Option.some.inj made ▸ .messaged opened done
      next => simp at made
    next => simp at made
  | take index drain =>
    simp only [step?] at made
    split at made
    next outbox item result =>
      have step : Step before (.take index drain) _ := .taken (congrArg Prod.snd result)
      rw [result] at step
      exact Option.some.inj made ▸ step
    next => simp at made
  | transmit index drain =>
    simp only [step?] at made
    split at made
    next => simp at made
    next sending => exact Option.some.inj made ▸ .transmitted sending
  | read index choice now =>
    simp only [step?] at made
    split at made
    next => simp at made
    next socket plugged =>
      split at made
      next network data result =>
        have step : Step before (.read index choice now) _ :=
          .received plugged (congrArg Prod.snd result)
        rw [result] at step
        exact Option.some.inj made ▸ step
      next => simp at made
  | hand index now =>
    simp only [step?] at made
    split at made
    next opened =>
      obtain ⟨⟨message, node⟩, handed, rfl⟩ := Option.map_eq_some_iff.mp made
      exact .handed opened handed
    next => simp at made
  | finish index now =>
    simp only [step?] at made
    split at made
    next opened =>
      obtain ⟨node, finished, rfl⟩ := Option.map_eq_some_iff.mp made
      exact .finished opened finished
    next => simp at made
  | stop index now =>
    simp only [step?] at made
    split at made
    next => simp at made
    next plugged => exact Option.some.inj made ▸ .stopped plugged
  | outside operation =>
    simp only [step?] at made
    split at made
    next foreign => exact Option.some.inj made ▸ .outside foreign
    next => simp at made

end Fabric

namespace Fabric

variable {count : Nat} {configs : Fin count → Config} {fabric : Fabric count}

@[simp] theorem nodes_put_self (network : Network) (index : Fin count) (node : Node) :
    (fabric.put network index node).nodes index = node :=
  Cluster.put_self ..

theorem nodes_put_other (network : Network) {index other : Fin count} (different : other ≠ index)
    (node : Node) : (fabric.put network index node).nodes other = fabric.nodes other :=
  Cluster.put_other _ different node

theorem field_put {α : Type} (field : Node → α) (network : Network) {index : Fin count}
    {node : Node} (same : field node = field (fabric.nodes index)) (other : Fin count) :
    field ((fabric.put network index node).nodes other) = field (fabric.nodes other) := by
  by_cases here : other = index
  · rw [here, nodes_put_self, same]
  · rw [nodes_put_other network here]

@[simp] theorem network_put (network : Network) (index : Fin count) (node : Node) :
    (fabric.put network index node).network = network :=
  rfl

/-- Every open node has a socket of its own, which is bound where the node listens. -/
structure Wired (configs : Fin count → Config) (fabric : Fabric count) : Prop where
  sound : fabric.network.Sound
  sane : ∀ index, (fabric.nodes index).Sane (configs index)
  bound : ∀ index id, (fabric.nodes index).socket = some id →
    fabric.network.bound? (configs index).listenAddress = some id
  kept : ∀ index id, (fabric.nodes index).socket = some id →
    (fabric.network.socket? id).map Socket.dropped = some false
  apart : ∀ first second id, (fabric.nodes first).socket = some id →
    (fabric.nodes second).socket = some id → first = second

theorem wired_created (configs : Fin count → Config) : (created configs).Wired configs where
  sound := Network.sound_empty
  sane := fun index => Node.sane_new (configs index)
  bound := by simp [created, Node.new]
  kept := by simp [created, Node.new]
  apart := by simp [created, Node.new]

theorem Wired.socket (wired : fabric.Wired configs) {index : Fin count} {id : SocketId}
    (plugged : (fabric.nodes index).socket = some id) :
    ∃ socket, fabric.network.socket? id = some socket ∧ socket.dropped = false := by
  obtain ⟨socket, found, present⟩ := Option.map_eq_some_iff.mp (wired.kept index id plugged)
  exact ⟨socket, found, present⟩

theorem Wired.put (wired : fabric.Wired configs) {network : Network} (sound : network.Sound)
    {index : Fin count} {node : Node} (sane : node.Sane (configs index))
    (spared : ∀ other id, other ≠ index → (fabric.nodes other).socket = some id →
      ∃ arrived, Network.Spares id arrived fabric.network network)
    (own : ∀ id, node.socket = some id → network.bound? (configs index).listenAddress = some id ∧
      (network.socket? id).map Socket.dropped = some false ∧
      ∀ other, other ≠ index → (fabric.nodes other).socket ≠ some id) :
    (fabric.put network index node).Wired configs := by
  have others {other : Fin count} {id : SocketId} (different : other ≠ index)
      (plugged : ((fabric.put network index node).nodes other).socket = some id) :
      (fabric.nodes other).socket = some id := by
    rwa [nodes_put_other network different] at plugged
  have mine {id : SocketId}
      (plugged : ((fabric.put network index node).nodes index).socket = some id) :
      node.socket = some id := by
    rwa [nodes_put_self] at plugged
  constructor
  · exact sound
  · intro other
    by_cases same : other = index
    · subst same
      rwa [nodes_put_self]
    · rw [nodes_put_other network same]
      exact wired.sane other
  · intro other id plugged
    by_cases same : other = index
    · subst same
      exact (own id (mine plugged)).1
    · obtain ⟨arrived, spares⟩ := spared other id same (others same plugged)
      exact spares.bound _ (wired.bound other id (others same plugged))
  · intro other id plugged
    by_cases same : other = index
    · subst same
      exact (own id (mine plugged)).2.1
    · obtain ⟨arrived, spares⟩ := spared other id same (others same plugged)
      exact spares.dropped.trans (wired.kept other id (others same plugged))
  · intro first second id one another
    by_cases here : first = index
    · by_cases there : second = index
      · rw [here, there]
      · subst here
        exact absurd (others there another) ((own id (mine one)).2.2 second there)
    · by_cases there : second = index
      · subst there
        exact absurd (others here one) ((own id (mine another)).2.2 first here)
      · exact wired.apart first second id (others here one) (others there another)

theorem Wired.stay (wired : fabric.Wired configs) {network : Network} (sound : network.Sound)
    {index : Fin count} {node : Node} (sane : node.Sane (configs index))
    (same : node.socket = (fabric.nodes index).socket)
    (spared : ∀ other id, (fabric.nodes other).socket = some id →
      ∃ arrived, Network.Spares id arrived fabric.network network) :
    (fabric.put network index node).Wired configs := by
  refine wired.put sound sane (fun other id _ => spared other id) ?_
  intro id plugged
  rw [same] at plugged
  obtain ⟨arrived, spares⟩ := spared index id plugged
  refine ⟨spares.bound _ (wired.bound index id plugged),
    spares.dropped.trans (wired.kept index id plugged), ?_⟩
  intro other different alsoPlugged
  exact different (wired.apart other index id alsoPlugged plugged)

theorem Wired.act (wired : fabric.Wired configs) {index : Fin count} {node : Node}
    (sane : node.Sane (configs index)) (same : node.socket = (fabric.nodes index).socket) :
    (fabric.put fabric.network index node).Wired configs :=
  wired.stay wired.sound sane same fun _ id _ => ⟨[], .refl fabric.network id⟩

theorem Wired.bind (wired : fabric.Wired configs) (address : SocketAddress) :
    ∀ other id, (fabric.nodes other).socket = some id →
      ∃ arrived, Network.Spares id arrived fabric.network (fabric.network.bind address).1 := by
  intro other id plugged
  obtain ⟨socket, found, -⟩ := wired.socket plugged
  exact ⟨[], Network.spares_bind wired.sound found address⟩

theorem Wired.ne_socket (wired : fabric.Wired configs) {index other : Fin count}
    {id socket : SocketId} (plugged : (fabric.nodes index).socket = some socket)
    (different : other ≠ index)
    (alsoPlugged : (fabric.nodes other).socket = some id) : socket ≠ id := by
  rintro rfl
  exact different (wired.apart other index socket alsoPlugged plugged)

theorem Wired.start (wired : fabric.Wired configs) {index : Fin count} {starting : Node}
    {network : Network} {id : SocketId} (begun : (fabric.nodes index).beginStart = .ok starting)
    (bound : fabric.network.bind starting.config.listenAddress = (network, .ok id))
    (choice : PeerChoice) (now : Instant) :
    (fabric.put network index (starting.finishStart choice now id)).Wired configs := by
  obtain ⟨starts, opened⟩ := (wired.sane index).beginStart begun
  rw [starts.configured] at bound
  -- Binding has succeeded, so the address was free and the socket is new.
  have free : fabric.network.isBound (configs index).listenAddress = false := by
    cases taken : fabric.network.isBound (configs index).listenAddress with
    | false => rfl
    | true => simp [Network.bind_of_bound taken] at bound
  have fresh : fabric.network.nextId = id := by
    rw [Network.bind_of_free free] at bound
    exact Except.ok.inj (congrArg Prod.snd bound)
  have became : (fabric.network.bind (configs index).listenAddress).1 = network :=
    congrArg Prod.fst bound
  refine wired.put (became ▸ wired.sound.bind _) (starts.finishStart opened choice now id)
    (fun other id _ plugged => became ▸ wired.bind _ other id plugged) ?_
  intro socket plugged
  obtain rfl : id = socket := by
    have asks := Node.utters_finishStart starting choice now id
    exact Option.some.inj (asks.socket.symm.trans plugged)
  subst fresh
  refine ⟨?_, ?_, ?_⟩
  · rw [← became, Network.bound?_bind free, if_pos rfl]
  · rw [← became, Network.socket?_bind free, if_pos rfl]
    rfl
  · intro other _ alsoPlugged
    obtain ⟨known, found, -⟩ := wired.socket alsoPlugged
    exact Nat.lt_irrefl _ (wired.sound.numbered _ known found)

theorem Wired.refuse (wired : fabric.Wired configs) {index : Fin count} {starting : Node}
    (begun : (fabric.nodes index).beginStart = .ok starting) (address : SocketAddress) :
    (fabric.put (fabric.network.bind address).1 index starting.failStart).Wired configs := by
  obtain ⟨starts, opened⟩ := (wired.sane index).beginStart begun
  obtain ⟨-, rfl⟩ := Node.beginStart_eq_ok begun
  exact wired.stay (wired.sound.bind address) (starts.failStart opened) rfl (wired.bind address)

theorem Wired.transmit (wired : fabric.Wired configs) (index : Fin count) (drain : DrainId)
    (source target : SocketAddress) (data : Bytes) (result : Except NetworkFault Unit) :
    (fabric.put (fabric.network.send source target data).1 index
      ((fabric.nodes index).completed drain result)).Wired configs := by
  obtain ⟨_, _, _, completed⟩ := (fabric.nodes index).completed_eq drain result
  refine wired.stay (wired.sound.send _ _ _) ((wired.sane index).completed drain _)
    (by rw [completed]) ?_
  intro other id _
  obtain ⟨arrived, spares, -⟩ := Network.spares_send wired.sound id source target data
  exact ⟨arrived, spares⟩

theorem Wired.read (wired : fabric.Wired configs) {index : Fin count} {socket : SocketId}
    (plugged : (fabric.nodes index).socket = some socket) (choice : PeerChoice) (now : Instant)
    (data : Bytes) :
    (fabric.put (fabric.network.receive socket).1 index
      ((fabric.nodes index).receive choice now data)).Wired configs := by
  have stirs := (fabric.nodes index).receive_stirs choice now data
  have unique := Node.unique_receive choice now data (wired.sane index).unique
  refine wired.put (wired.sound.receive socket) ((wired.sane index).stirs stirs unique) ?_ ?_
  · intro other id different alsoPlugged
    exact ⟨[], Network.spares_receive (wired.ne_socket plugged different alsoPlugged)⟩
  · intro id own
    obtain rfl : socket = id := by
      rw [stirs.socket, plugged] at own
      exact Option.some.inj own
    refine ⟨?_, ?_, ?_⟩
    · exact (Network.bound?_receive _ _ _).trans (wired.bound index socket plugged)
    · exact (Network.dropped_receive _ _ _).trans (wired.kept index socket plugged)
    · exact fun other different alsoPlugged => wired.ne_socket plugged different alsoPlugged rfl

theorem Wired.stop (wired : fabric.Wired configs) {index : Fin count} {socket : SocketId}
    (plugged : (fabric.nodes index).socket = some socket) (now : Instant) :
    (fabric.put (fabric.network.close socket) index
      ((fabric.nodes index).finishStop now)).Wired configs := by
  refine wired.put (wired.sound.close socket) ((wired.sane index).finishStop now) ?_ ?_
  · intro other id different alsoPlugged
    exact ⟨[], Network.spares_close wired.sound (wired.ne_socket plugged different alsoPlugged)⟩
  · intro id own
    simp [Node.finishStop] at own

theorem ne_of_isForeign {operation : Network.Operation}
    (foreign : fabric.isForeign operation = true) {index : Fin count} {id : SocketId}
    (plugged : (fabric.nodes index).socket = some id) :
    operation.socket? ≠ some id := by
  intro asked
  simp only [isForeign, asked, decide_eq_true_eq] at foreign
  exact foreign index plugged

theorem Wired.outside (wired : fabric.Wired configs) {operation : Network.Operation}
    (foreign : fabric.isForeign operation = true) :
    { fabric with network := (fabric.network.perform operation).1 }.Wired configs := by
  have spared (index : Fin count) (id : SocketId)
      (plugged : (fabric.nodes index).socket = some id) :
      ∃ arrived, Network.Spares id arrived fabric.network (fabric.network.perform operation).1 := by
    obtain ⟨socket, found, -⟩ := wired.socket plugged
    obtain ⟨arrived, spares, -⟩ := Network.spares_perform wired.sound found
      (ne_of_isForeign foreign plugged)
    exact ⟨arrived, spares⟩
  constructor
  · exact wired.sound.perform operation
  · exact wired.sane
  · intro index id plugged
    obtain ⟨arrived, spares⟩ := spared index id plugged
    exact spares.bound _ (wired.bound index id plugged)
  · intro index id plugged
    obtain ⟨arrived, spares⟩ := spared index id plugged
    exact spares.dropped.trans (wired.kept index id plugged)
  · exact wired.apart

theorem Wired.step {before after : Fabric count} {move : Move count} (wired : before.Wired configs)
    (step : Step before move after) : after.Wired configs := by
  cases step with
  | started begun bound => exact wired.start begun bound _ _
  | @refused index choice now starting network fault begun unbound =>
    have became : (before.network.bind starting.config.listenAddress).1 = network :=
      congrArg Prod.fst unbound
    exact became ▸ wired.refuse begun _
  | @acted index action opened silent =>
    have stirs := (before.nodes index).act_stirs silent
    have unique := ((before.nodes index).act_does action).unique (wired.sane index).unique
    exact wired.act ((wired.sane index).stirs stirs unique) stirs.socket
  | @messaged index scope message target node number opened done =>
    have posts := Node.utters_sendMessage (before.nodes index) done
    exact wired.act ((wired.sane index).sendMessage done) posts.socket
  | @taken index drain item taken => exact wired.act ((wired.sane index).take drain) rfl
  | transmitted sending => exact wired.transmit _ _ _ _ _ _
  | received plugged arrived => exact wired.read plugged _ _ _
  | @handed index now message node opened handed =>
    have sane := (wired.sane index).handNext handed
    obtain ⟨-, _, _, _, -, rfl⟩ := Node.handNext_eq_some handed
    exact wired.act sane rfl
  | @finished index now node opened finished =>
    have sane := (wired.sane index).finishBusy finished
    obtain ⟨_, rfl⟩ := Node.finishBusy_eq_some finished
    exact wired.act sane rfl
  | stopped plugged => exact wired.stop plugged _
  | outside foreign => exact wired.outside foreign

theorem Wired.steps {before after : Fabric count} (wired : before.Wired configs)
    {moves : List (Move count)} (made : before.steps? moves = some after) :
    after.Wired configs := by
  induction moves generalizing before with
  | nil =>
    obtain rfl := Option.some.inj made
    exact wired
  | cons move rest ih =>
    obtain ⟨middle, first, later⟩ := Option.bind_eq_some_iff.mp made
    exact ih (wired.step (step_of_step? first)) later

theorem wired_of_reachable (reached : Reachable configs fabric) : fabric.Wired configs := by
  obtain ⟨moves, made⟩ := reached
  exact (wired_created configs).steps made

end Fabric

end ClusterCoordination
