import ClusterCoordination.Proofs.Network.Deliveries
/-!
# Exact delivery

What a network keeps is what has happened on it. So whoever holds a socket can tell from the past
alone what it receives next, and where a datagram it sends ends up.
-/

set_option autoImplicit false

namespace ClusterCoordination

namespace Network

/-! ### What is kept of the past -/

def Effect.socket? : Effect → Option SocketId
  | .opened id _ | .received id _ | .closed id | .dropped id => some id
  | .accepted _ _ | .isolated _ | .healed _ => none

structure Recalls (network : Network) (past : List Effect) : Prop where
  sound : network.Sound
  known : ∀ effect ∈ past, ∀ id, effect.socket? = some id → (network.socket? id).isSome = true
  opened : ∀ id address,
    (network.socket? id).map Socket.address = some address ↔ Opened id address past
  dropped : ∀ id, (network.socket? id).map Socket.dropped = some true ↔ Dropped id past
  bound : ∀ id address, network.bound? address = some id ↔ Holds id address past
  isolated : ∀ address, address ∈ network.isolated ↔ CutOff address past
  inboxes : ∀ id address, Opened id address past → ¬ Dropped id past →
    receivedBy id past ++ network.inbox id = acceptedFor id address past

section

variable {network : Network} {past : List Effect} {id : SocketId} {address target : SocketAddress}
  {data : Bytes} {socket : Socket}

@[simp] theorem opened_concat {effect : Effect} :
    Opened id address (past ++ [effect]) ↔
      Opened id address past ∨ effect = .opened id address := by
  simp [Opened, eq_comm]

@[simp] theorem closed_concat {effect : Effect} :
    Closed id (past ++ [effect]) ↔ Closed id past ∨ effect = .closed id := by
  simp [Closed, eq_comm]

@[simp] theorem dropped_concat {effect : Effect} :
    Dropped id (past ++ [effect]) ↔ Dropped id past ∨ effect = .dropped id := by
  simp [Dropped, eq_comm]

theorem acceptedFor_of_not_opened (absent : ¬ Opened id address past) :
    acceptedFor id address past = [] := by
  have before : ¬ Opened id address (past.takeWhile fun effect => effect ≠ .closed id) :=
    fun opened => absent ((List.takeWhile_sublist _).subset opened)
  rw [acceptedFor, lifetime, dropWhile_of_not_opened before, List.filterMap_nil]

theorem recalls_empty : empty.Recalls [] where
  sound := sound_empty
  known := by simp
  opened := by simp [empty, socket?, Opened]
  dropped := by simp [empty, socket?, Dropped]
  bound := by simp [empty, bound?, Holds, Opened]
  isolated := by simp [empty, CutOff]
  inboxes := by simp [Opened]

theorem map_socket?_modify {α : Type} (network : Network) (id : SocketId) {change : Socket → Socket}
    (keeps : ∀ socket, (change socket).id = socket.id) {field : Socket → α}
    (same : ∀ socket, field (change socket) = field socket) (other : SocketId) :
    ((network.modify id change).socket? other).map field = (network.socket? other).map field := by
  rw [socket?_modify network id keeps, Option.map_map]
  congr 1
  funext socket
  dsimp only [Function.comp]
  split
  · exact same socket
  · rfl

@[simp] theorem isolated_modify (network : Network) (id : SocketId) (change : Socket → Socket) :
    (network.modify id change).isolated = network.isolated :=
  rfl

@[simp] theorem isolated_drop (network : Network) (id : SocketId) :
    (network.drop id).isolated = network.isolated :=
  rfl

@[simp] theorem isolated_close (network : Network) (id : SocketId) :
    (network.close id).isolated = network.isolated :=
  rfl

@[simp] theorem socket?_close (network : Network) (id other : SocketId) :
    (network.close id).socket? other = network.socket? other :=
  rfl

@[simp] theorem inbox_close (network : Network) (id other : SocketId) :
    (network.close id).inbox other = network.inbox other :=
  rfl

@[simp] theorem socket?_setIsolated (network : Network) (listed : List SocketAddress)
    (id : SocketId) :
    { network with isolated := listed }.socket? id = network.socket? id :=
  rfl

@[simp] theorem bound?_setIsolated (network : Network) (listed : List SocketAddress)
    (address : SocketAddress) :
    { network with isolated := listed }.bound? address = network.bound? address :=
  rfl

@[simp] theorem inbox_setIsolated (network : Network) (listed : List SocketAddress)
    (id : SocketId) :
    { network with isolated := listed }.inbox id = network.inbox id :=
  rfl

theorem Recalls.known_concat (recalls : network.Recalls past) {after : Network} {effect : Effect}
    (keeps : ∀ id, (network.socket? id).isSome = true → (after.socket? id).isSome = true)
    (new : ∀ id, effect.socket? = some id → (after.socket? id).isSome = true) :
    ∀ earlier ∈ past ++ [effect], ∀ id, earlier.socket? = some id →
      (after.socket? id).isSome = true := by
  intro earlier happened id named
  rcases List.mem_append.mp happened with before | last
  · exact keeps id (recalls.known earlier before id named)
  · obtain rfl := List.mem_singleton.mp last
    exact new id named

theorem isSome_socket?_modify (network : Network) (id : SocketId) {change : Socket → Socket}
    (keeps : ∀ socket, (change socket).id = socket.id) (other : SocketId) :
    ((network.modify id change).socket? other).isSome = (network.socket? other).isSome := by
  rw [socket?_modify network id keeps, Option.isSome_map]

/-! ### One operation -/

theorem Recalls.count (recalls : network.Recalls past) :
    { network with nextId := network.nextId + 1 }.Recalls past :=
  { recalls with
    sound :=
      ⟨fun id socket found => Nat.lt_succ_of_lt (recalls.sound.numbered id socket found),
        recalls.sound.single, recalls.sound.owned⟩ }

theorem Recalls.fresh (recalls : network.Recalls past) :
    network.socket? network.nextId = none := by
  cases found : network.socket? network.nextId with
  | none => rfl
  | some socket => exact absurd (recalls.sound.numbered _ _ found) (Nat.lt_irrefl _)

theorem Recalls.not_mem_of_unknown (recalls : network.Recalls past)
    (unknown : network.socket? id = none) {effect : Effect}
    (named : effect.socket? = some id) : effect ∉ past := by
  intro happened
  have present := recalls.known effect happened id named
  rw [unknown] at present
  simp at present

theorem Recalls.receivedBy_of_unknown (recalls : network.Recalls past)
    (unknown : network.socket? id = none) : receivedBy id past = [] := by
  apply List.filterMap_eq_nil_iff.mpr
  intro effect happened
  cases effect with
  | received receiver data =>
    have other : receiver ≠ id := by
      rintro rfl
      exact recalls.not_mem_of_unknown unknown rfl happened
    simp [Effect.receivedBy?, other]
  | _ => rfl

theorem Recalls.bound_bind (recalls : network.Recalls past) (free : network.isBound address = false)
    (id : SocketId) (target : SocketAddress) :
    (network.bind address).1.bound? target = some id ↔
      Holds id target (past ++ [.opened network.nextId address]) := by
  have unclosed : ¬ Closed network.nextId past := recalls.not_mem_of_unknown recalls.fresh rfl
  have unbound := isBound_eq_false.mp free
  have others := recalls.bound id target
  rw [bound?_bind free]
  by_cases here : address = target
  · subst here
    rw [if_pos rfl]
    simp only [Option.some.injEq, Holds, opened_concat, closed_concat]
    by_cases same : network.nextId = id
    · subst same
      simpa using unclosed
    · rw [unbound] at others
      simpa [same, Holds] using others
  · simpa [here, Holds] using others

theorem Recalls.bind (recalls : network.Recalls past) (free : network.isBound address = false) :
    (network.bind address).1.Recalls (past ++ [.opened network.nextId address]) where
  sound := recalls.sound.bind address
  known := by
    apply recalls.known_concat
    · intro id present
      rw [socket?_bind free]
      split
      · rfl
      · exact present
    · intro id named
      obtain rfl := Option.some.inj named
      rw [socket?_bind free, if_pos rfl]
      rfl
  opened := by
    intro id target
    rw [socket?_bind free, opened_concat, ← recalls.opened]
    by_cases same : network.nextId = id
    · subst same
      simp [recalls.fresh]
    · simp [same]
  dropped := by
    intro id
    rw [socket?_bind free, dropped_concat, ← recalls.dropped]
    by_cases same : network.nextId = id
    · subst same
      simp [recalls.fresh]
    · simp [same]
  bound := recalls.bound_bind free
  isolated := by
    intro target
    have kept := recalls.isolated target
    rw [bind_of_free free, cutOff_concat]
    simpa using kept
  inboxes := by
    intro id target opened present
    rw [receivedBy_concat, acceptedFor_concat]
    simp only [Effect.receivedBy?, Effect.acceptedAt?, Option.toList_none, List.append_nil,
      ite_self]
    rw [inbox_bind free]
    by_cases same : network.nextId = id
    · subst same
      -- Nothing has been told of a socket that is new.
      have unopened : ¬ Opened network.nextId target past :=
        recalls.not_mem_of_unknown recalls.fresh rfl
      rw [recalls.receivedBy_of_unknown recalls.fresh, acceptedFor_of_not_opened unopened,
        if_pos rfl, List.append_nil]
    · rw [if_neg same]
      apply recalls.inboxes id target
      · simpa [same] using opened
      · simpa using present

theorem Recalls.put (recalls : network.Recalls past) (id : SocketId)
    (inbox : List Bytes → List Bytes) {effect : Effect}
    (transfer : (∃ target data, effect = .accepted target data) ∨
      ∃ data, effect = .received id data)
    (found : network.socket? id = some socket)
    (inboxes : ∀ other address, Opened other address past → ¬ Dropped other past →
      receivedBy other (past ++ [effect]) ++
          (if other = id then inbox (network.inbox id) else network.inbox other) =
        acceptedFor other address (past ++ [effect])) :
    (network.modify id fun socket => { socket with inbox := inbox socket.inbox }).Recalls
      (past ++ [effect]) where
  sound := recalls.sound.put id inbox
  known := by
    apply recalls.known_concat
    · intro other present
      rw [isSome_socket?_modify network id (by intro socket; rfl)]
      exact present
    · intro other named
      rw [isSome_socket?_modify network id (by intro socket; rfl)]
      rcases transfer with ⟨target, data, rfl⟩ | ⟨data, rfl⟩
      · simp [Effect.socket?] at named
      · obtain rfl := Option.some.inj named
        rw [found]
        rfl
  opened := by
    intro other address
    rw [map_socket?_modify network id (by intro socket; rfl) (by intro socket; rfl), recalls.opened]
    rcases transfer with ⟨target, data, rfl⟩ | ⟨data, rfl⟩ <;> simp
  dropped := by
    intro other
    rw [map_socket?_modify network id (by intro socket; rfl) (by intro socket; rfl),
      recalls.dropped]
    rcases transfer with ⟨target, data, rfl⟩ | ⟨data, rfl⟩ <;> simp
  bound := by
    intro other address
    have before := recalls.bound other address
    rcases transfer with ⟨target, data, rfl⟩ | ⟨data, rfl⟩ <;> simpa [Holds] using before
  isolated := by
    intro address
    have before := recalls.isolated address
    rw [cutOff_concat]
    rcases transfer with ⟨target, data, rfl⟩ | ⟨data, rfl⟩ <;> simpa using before
  inboxes := by
    intro other address opened present
    rw [inbox_put found]
    apply inboxes
    · rcases transfer with ⟨target, data, rfl⟩ | ⟨data, rfl⟩ <;> simpa using opened
    · rcases transfer with ⟨target, data, rfl⟩ | ⟨data, rfl⟩ <;> simpa using present

theorem Recalls.accept (recalls : network.Recalls past) (bound : network.bound? target = some id)
    (data : Bytes) :
    (network.modify id fun socket => { socket with inbox := socket.inbox ++ [data] }).Recalls
      (past ++ [.accepted target data]) := by
  obtain ⟨socket, found, -⟩ := recalls.sound.owned target id bound
  apply recalls.put id (fun inbox => inbox ++ [data]) (.inl ⟨target, data, rfl⟩) found
  intro other address opened present
  rw [receivedBy_concat, acceptedFor_concat, ← recalls.inboxes other address opened present]
  simp only [Effect.receivedBy?, Effect.acceptedAt?, Option.toList_none, List.append_nil]
  by_cases mine : other = id
  · subst mine
    -- The socket has the one address at which it was opened.
    have holds := (recalls.bound other target).mp bound
    have same : address = target := by
      have here := (recalls.opened other address).mpr opened
      have there := (recalls.opened other target).mpr holds.1
      exact Option.some.inj (here.symm.trans there)
    subst same
    simp [holds]
  · by_cases holds : Holds other address past
    · have elsewhere : target ≠ address := by
        rintro rfl
        exact mine (Option.some.inj (((recalls.bound other target).mpr holds).symm.trans bound))
      simp [mine, elsewhere]
    · simp [mine, holds]

theorem Recalls.receive (recalls : network.Recalls past) (found : network.socket? id = some socket)
    {rest : List Bytes} (inbox : socket.inbox = data :: rest) :
    (network.modify id fun socket => { socket with inbox := rest }).Recalls
      (past ++ [.received id data]) := by
  apply recalls.put id (fun _ => rest) (.inr ⟨data, rfl⟩) found
  intro other address opened present
  rw [receivedBy_concat, acceptedFor_concat, ← recalls.inboxes other address opened present]
  simp only [Effect.acceptedAt?, Option.toList_none, ite_self, List.append_nil]
  by_cases mine : other = id
  · subst mine
    simp [Effect.receivedBy?, inbox_of_socket? found, inbox]
  · simp [Effect.receivedBy?, mine, Ne.symm mine]

theorem Recalls.close (recalls : network.Recalls past) (found : network.socket? id = some socket) :
    (network.close id).Recalls (past ++ [.closed id]) where
  sound := recalls.sound.close id
  known := by
    apply recalls.known_concat
    · exact fun other present => present
    · intro other named
      obtain rfl := Option.some.inj named
      change (network.socket? id).isSome = true
      rw [found]
      rfl
  opened := by simpa using recalls.opened
  dropped := by simpa using recalls.dropped
  bound := by
    intro other address
    have before := recalls.bound other address
    rw [recalls.sound.bound?_close]
    by_cases mine : network.bound? address = some id
    · rw [if_pos mine]
      rw [mine, Option.some.injEq] at before
      by_cases same : id = other
      · simp [Holds, same]
      · simpa [Holds, same] using before
    · rw [if_neg mine, before]
      by_cases same : id = other
      · subst same
        simpa [Holds] using mt before.mpr mine
      · simp [Holds, same]
  isolated := by
    intro address
    rw [cutOff_concat]
    simpa using recalls.isolated address
  inboxes := by
    intro other address opened present
    have before := recalls.inboxes other address (by simpa using opened) (by simpa using present)
    rw [receivedBy_concat, acceptedFor_concat]
    simpa [Effect.receivedBy?, Effect.acceptedAt?] using before

theorem Recalls.drop (recalls : network.Recalls past) (found : network.socket? id = some socket) :
    (network.drop id).Recalls (past ++ [.dropped id]) where
  sound := recalls.sound.modify id (by intro socket; rfl) (by intro socket; rfl)
  known := by
    apply recalls.known_concat
    · intro other present
      rw [Network.drop, isSome_socket?_modify network id (by intro socket; rfl)]
      exact present
    · intro other named
      obtain rfl := Option.some.inj named
      rw [Network.drop, isSome_socket?_modify network id (by intro socket; rfl), found]
      rfl
  opened := by
    intro other address
    rw [Network.drop, map_socket?_modify network id (by intro socket; rfl) (by intro socket; rfl),
      recalls.opened]
    simp
  dropped := by
    intro other
    rw [Network.drop, socket?_modify network id (by intro socket; rfl), dropped_concat,
      ← recalls.dropped]
    by_cases mine : id = other
    · subst mine
      simp [found]
    · simp [Ne.symm mine, mine]
  bound := by
    intro other address
    simpa [Holds, Network.drop] using recalls.bound other address
  isolated := by
    intro address
    rw [cutOff_concat]
    simpa using recalls.isolated address
  inboxes := by
    intro other address opened present
    simp only [dropped_concat, Effect.dropped.injEq, not_or] at present
    have before := recalls.inboxes other address (by simpa using opened) present.1
    have untouched : (network.drop id).inbox other = network.inbox other := by
      rw [inbox, network.socket?_drop_other (Ne.symm present.2), inbox]
    rw [receivedBy_concat, acceptedFor_concat, untouched]
    simpa [Effect.receivedBy?, Effect.acceptedAt?] using before

theorem Recalls.setIsolated (recalls : network.Recalls past) {effect : Effect}
    (listed : List SocketAddress)
    (cuts : (∃ address, effect = .isolated address) ∨ ∃ address, effect = .healed address)
    (isolated : ∀ address, address ∈ listed ↔ CutOff address (past ++ [effect])) :
    { network with isolated := listed }.Recalls (past ++ [effect]) := by
  have silent : effect.socket? = none ∧ (∀ id, effect.receivedBy? id = none) ∧
      ∀ address, effect.acceptedAt? address = none := by
    rcases cuts with ⟨address, rfl⟩ | ⟨address, rfl⟩ <;> exact ⟨rfl, fun _ => rfl, fun _ => rfl⟩
  have unopened (id : SocketId) (address : SocketAddress) : effect ≠ .opened id address := by
    rintro rfl
    simp [Effect.socket?] at silent
  have unclosed (id : SocketId) : effect ≠ .closed id := by
    rintro rfl
    simp [Effect.socket?] at silent
  have undropped (id : SocketId) : effect ≠ .dropped id := by
    rintro rfl
    simp [Effect.socket?] at silent
  constructor
  · exact ⟨recalls.sound.numbered, recalls.sound.single, recalls.sound.owned⟩
  · apply recalls.known_concat
    · exact fun other present => present
    · intro other named
      rw [silent.1] at named
      simp at named
  · simpa [unopened] using recalls.opened
  · simpa [undropped] using recalls.dropped
  · simpa [Holds, unopened, unclosed] using recalls.bound
  · exact isolated
  · intro id address opened present
    have before := recalls.inboxes id address (by simpa [unopened] using opened)
      (by simpa [undropped] using present)
    rw [receivedBy_concat, acceptedFor_concat, silent.2.1, silent.2.2]
    simpa using before

theorem Recalls.isolate (recalls : network.Recalls past) (address : SocketAddress) :
    (network.isolate address).Recalls (past ++ [.isolated address]) := by
  apply recalls.setIsolated _ (.inl ⟨address, rfl⟩)
  intro other
  rw [cutOff_concat, List.mem_cons, recalls.isolated]
  simp [eq_comm (a := other)]

theorem Recalls.heal (recalls : network.Recalls past) (address : SocketAddress) :
    (network.heal address).Recalls (past ++ [.healed address]) := by
  apply recalls.setIsolated _ (.inr ⟨address, rfl⟩)
  intro other
  rw [cutOff_concat, List.mem_filter, recalls.isolated]
  simp [eq_comm (a := other)]

theorem send_cases (network : Network) (source target : SocketAddress) (data : Bytes)
    (sound : network.Sound) :
    (∃ fault, network.send source target data = (network, .error fault)) ∨
      ∃ id, network.bound? target = some id ∧ network.send source target data =
        (network.modify id fun socket => { socket with inbox := socket.inbox ++ [data] },
          .ok ()) := by
  by_cases cut : source ∈ network.isolated ∨ target ∈ network.isolated
  · exact .inl ⟨_, send_of_cut data cut⟩
  · cases bound : network.bound? target with
    | none => exact .inl ⟨_, send_of_free data cut bound⟩
    | some id =>
      obtain ⟨socket, found, -⟩ := sound.owned target id bound
      cases gone : socket.dropped with
      | true => exact .inl ⟨_, send_of_dropped data cut bound found gone⟩
      | false => exact .inr ⟨id, rfl, send_of_bound data cut bound found gone⟩

theorem receive_of_cons (found : network.socket? id = some socket) {rest : List Bytes}
    (inbox : socket.inbox = data :: rest) :
    network.receive id =
      (network.modify id fun socket => { socket with inbox := rest }, .ok (some data)) := by
  simp only [receive, found, inbox]

theorem receive_of_nil (found : network.socket? id = some socket) (inbox : socket.inbox = []) :
    network.receive id =
      (network, if network.isOpen socket then .ok none else .error .socketClosed) := by
  simp only [receive, found, inbox]

theorem whenHeld_of_held (held : network.held? id = some socket)
    (operation : Socket → Network × Answer) : network.whenHeld id operation = operation socket := by
  rw [whenHeld, held]

theorem whenHeld_of_unheld (held : network.held? id = none)
    (operation : Socket → Network × Answer) :
    network.whenHeld id operation = (network, .unheld) := by
  rw [whenHeld, held]

theorem socket?_of_held? (held : network.held? id = some socket) :
    network.socket? id = some socket :=
  (Option.filter_eq_some_iff.mp held).1

theorem Recalls.perform (recalls : network.Recalls past) (operation : Operation) :
    (network.perform operation).1.Recalls
      (past ++ (operation.effect (network.perform operation).2).toList) := by
  cases operation with
  | bind address =>
    cases free : network.isBound address with
    | true =>
      simp only [Network.perform, bind_of_bound free, Prod.map]
      simpa [Operation.effect] using recalls.count
    | false =>
      have opened := recalls.bind free
      simp only [Network.perform, Prod.map]
      rw [bind_of_free free] at opened ⊢
      exact opened
  | send id target data =>
    cases held : network.held? id with
    | none => simpa [Network.perform, whenHeld_of_unheld held, Operation.effect] using recalls
    | some socket =>
      simp only [Network.perform, whenHeld_of_held held]
      rcases send_cases network socket.address target data recalls.sound with
        ⟨fault, failed⟩ | ⟨owner, bound, accepted⟩
      · rw [failed]
        simpa [Operation.effect] using recalls
      · rw [accepted]
        exact recalls.accept bound data
  | receive id =>
    cases held : network.held? id with
    | none => simpa [Network.perform, whenHeld_of_unheld held, Operation.effect] using recalls
    | some socket =>
      have found := socket?_of_held? held
      simp only [Network.perform, whenHeld_of_held held]
      cases inbox : socket.inbox with
      | nil =>
        rw [receive_of_nil found inbox]
        by_cases opened : network.isOpen socket = true <;>
          simpa [opened, Operation.effect] using recalls
      | cons data rest =>
        rw [receive_of_cons found inbox]
        exact recalls.receive found inbox
  | close id =>
    cases held : network.held? id with
    | none => simpa [Network.perform, whenHeld_of_unheld held, Operation.effect] using recalls
    | some socket =>
      simp only [Network.perform, whenHeld_of_held held]
      exact recalls.close (socket?_of_held? held)
  | drop id =>
    cases held : network.held? id with
    | none => simpa [Network.perform, whenHeld_of_unheld held, Operation.effect] using recalls
    | some socket =>
      simp only [Network.perform, whenHeld_of_held held]
      exact recalls.drop (socket?_of_held? held)
  | isolate address => exact recalls.isolate address
  | heal address => exact recalls.heal address

end

/-! ### Every run -/

theorem performAll_concat (network : Network) (operations : List Operation)
    (operation : Operation) :
    network.performAll (operations ++ [operation]) =
      ((network.performAll operations).perform operation).1 :=
  List.foldl_concat _ _ _ _

theorem run_recalls (operations : List Operation) :
    (run operations).Recalls (Network.past operations) := by
  induction operations using List.reverseRecOn with
  | nil => exact recalls_empty
  | append_singleton earlier operation recalls =>
    rw [run, Network.past, performAll_concat, effects_concat]
    exact recalls.perform operation

def Has (id : SocketId) (address : SocketAddress) (past : List Effect) : Prop :=
  Opened id address past ∧ ¬ Dropped id past

instance (id : SocketId) (address : SocketAddress) (past : List Effect) :
    Decidable (Has id address past) :=
  inferInstanceAs (Decidable (_ ∧ _))

structure Faithful (network : Network) (past : List Effect) : Prop where
  delivered : ∀ id address, Has id address past →
    receivedBy id past ++ network.inbox id = acceptedFor id address past
  single : ∀ id other address, Holds id address past → Holds other address past → id = other
  unreachable : ∀ id source target data, Has id source past →
    (CutOff source past ∨ CutOff target past) →
      network.perform (.send id target data) =
        (network, .sent (.error (.unreachable source target)))
  refused : ∀ id source target data, Has id source past →
    ¬ (CutOff source past ∨ CutOff target past) → (∀ owner, ¬ Holds owner target past) →
      network.perform (.send id target data) = (network, .sent (.error (.notBound target)))
  reset : ∀ id source target data, Has id source past →
    ¬ (CutOff source past ∨ CutOff target past) →
      ∀ owner, Holds owner target past → Dropped owner past →
        network.perform (.send id target data) = (network, .sent (.error (.reset target)))
  accepted : ∀ id source target data, Has id source past →
    ¬ (CutOff source past ∨ CutOff target past) →
      ∀ owner, Holds owner target past → ¬ Dropped owner past →
        (network.perform (.send id target data)).2 = .sent (.ok ()) ∧
          ∀ other, (network.perform (.send id target data)).1.inbox other =
            if other = owner then network.inbox owner ++ [data] else network.inbox other
  -- The next datagram that was accepted and not received, then nothing, or a failure once closed.
  received : ∀ id address, Has id address past →
    (network.perform (.receive id)).2 =
      .received
        (match (acceptedFor id address past)[(receivedBy id past).length]? with
          | some data => .ok (some data)
          | none => if Closed id past then .error .socketClosed else .ok none)

section

variable {network : Network} {past : List Effect} {id : SocketId} {address target : SocketAddress}

theorem Recalls.held (recalls : network.Recalls past) (has : Has id address past) :
    ∃ socket, network.held? id = some socket ∧ socket.address = address := by
  obtain ⟨socket, found, opened⟩ :=
    Option.map_eq_some_iff.mp ((recalls.opened id address).mpr has.1)
  have present : socket.dropped = false := by
    have dropped := mt (recalls.dropped id).mp has.2
    simpa [found] using dropped
  exact ⟨socket, by simp [held?, found, present], opened⟩

theorem Recalls.owner (recalls : network.Recalls past) (holds : Holds id target past) :
    network.bound? target = some id ∧ ∃ socket, network.socket? id = some socket ∧
      (socket.dropped = true ↔ Dropped id past) := by
  have bound := (recalls.bound id target).mpr holds
  obtain ⟨socket, found, -⟩ := recalls.sound.owned target id bound
  have dropped := recalls.dropped id
  rw [found] at dropped
  exact ⟨bound, socket, found, by simpa using dropped⟩

theorem Recalls.eq_of_holds (recalls : network.Recalls past) {other : SocketId}
    (holds : Holds id address past) (again : Holds other address past) : id = other := by
  have here := (recalls.bound id address).mpr holds
  have there := (recalls.bound other address).mpr again
  exact Option.some.inj (here.symm.trans there)

theorem Recalls.faithful (recalls : network.Recalls past) : network.Faithful past := by
  have clear {source target : SocketAddress} (uncut : ¬ (CutOff source past ∨ CutOff target past)) :
      ¬ (source ∈ network.isolated ∨ target ∈ network.isolated) := by
    rwa [recalls.isolated, recalls.isolated]
  constructor
  case delivered => exact fun id address has => recalls.inboxes id address has.1 has.2
  case single => exact fun id other address holds again => recalls.eq_of_holds holds again
  case unreachable =>
    intro id source target data has cut
    obtain ⟨socket, held, rfl⟩ := recalls.held has
    rw [← recalls.isolated, ← recalls.isolated] at cut
    simp only [Network.perform, whenHeld_of_held held, send_of_cut data cut, Prod.map]
  case refused =>
    intro id source target data has uncut unheld
    obtain ⟨socket, held, rfl⟩ := recalls.held has
    have free : network.bound? target = none := by
      cases bound : network.bound? target with
      | none => rfl
      | some owner => exact absurd ((recalls.bound owner target).mp bound) (unheld owner)
    simp only [Network.perform, whenHeld_of_held held, send_of_free data (clear uncut) free,
      Prod.map]
  case reset =>
    intro id source target data has uncut owner holds gone
    obtain ⟨socket, held, rfl⟩ := recalls.held has
    obtain ⟨bound, owned, found, dropped⟩ := recalls.owner holds
    simp only [Network.perform, whenHeld_of_held held,
      send_of_dropped data (clear uncut) bound found (dropped.mpr gone), Prod.map]
  case accepted =>
    intro id source target data has uncut owner holds present
    obtain ⟨socket, held, rfl⟩ := recalls.held has
    obtain ⟨bound, owned, found, dropped⟩ := recalls.owner holds
    have kept : owned.dropped = false := by simpa using mt dropped.mp present
    simp only [Network.perform, whenHeld_of_held held,
      send_of_bound data (clear uncut) bound found kept,
      Prod.map]
    exact ⟨trivial, inbox_put found fun inbox => inbox ++ [data]⟩
  case received =>
    intro id address has
    obtain ⟨socket, held, rfl⟩ := recalls.held has
    have found := socket?_of_held? held
    -- What has been received, and then what the inbox holds, is all that was accepted.
    have delivered := recalls.inboxes id socket.address has.1 has.2
    rw [inbox_of_socket? found] at delivered
    rw [← delivered, List.getElem?_append_right (Nat.le_refl _), Nat.sub_self]
    simp only [Network.perform, whenHeld_of_held held, Prod.map]
    cases inbox : socket.inbox with
    | cons data rest => rw [receive_of_cons found inbox]; rfl
    | nil =>
      have still : network.isOpen socket = true ↔ ¬ Closed id past := by
        rw [isOpen, decide_eq_true_iff, id_of_socket? found, recalls.bound]
        exact ⟨fun holds => holds.2, fun unclosed => ⟨has.1, unclosed⟩⟩
      rw [receive_of_nil found inbox]
      by_cases closed : Closed id past
      · have shut : ¬ network.isOpen socket = true := fun isOpen => still.mp isOpen closed
        simp [closed, shut]
      · simp [closed, still.mpr closed]

end

/-- Datagrams are delivered in order, once, and to the socket that was bound when they were sent. -/
theorem run_is_faithful (operations : List Operation) :
    (run operations).Faithful (past operations) :=
  (run_recalls operations).faithful

/--
Of two sockets bound one after the other to an address, each has what was sent in its time; the
closed one still receives.
-/
theorem rebound_address_starts_afresh :
    let here : SocketAddress := .v4 #v[127, 0, 0, 1] 1
    let there : SocketAddress := .v4 #v[127, 0, 0, 1] 2
    let operations : List Operation :=
      [.bind here, .bind there, .send 0 there [1], .close 1, .send 0 there [2], .bind there,
        .send 0 there [3]]
    Has 1 there (past operations) ∧ Has 2 there (past operations) ∧
      receivedBy 1 (past operations) ++ (run operations).inbox 1 = [[1]] ∧
      receivedBy 2 (past operations) ++ (run operations).inbox 2 = [[3]] ∧
      ((run operations).perform (.receive 1)).2 = .received (.ok (some [1])) := by
  intro here there operations
  have earlier : Has 1 there (past operations) := by decide +kernel
  have later : Has 2 there (past operations) := by decide +kernel
  have faithful := run_is_faithful operations
  refine ⟨earlier, later, ?_, ?_, ?_⟩
  · exact (faithful.delivered 1 there earlier).trans (by decide +kernel)
  · exact (faithful.delivered 2 there later).trans (by decide +kernel)
  · exact (faithful.received 1 there earlier).trans (by decide +kernel)

end Network

end ClusterCoordination
