import ClusterCoordination.Proofs.Network.ExactDelivery
/-!
# Sockets that stand by

What is done with one socket leaves every other one bound where it is. All that another socket may
notice is a datagram that arrives.
-/

set_option autoImplicit false

namespace ClusterCoordination

namespace Network

def Operation.socket? : Operation → Option SocketId
  | .send id _ _ | .receive id | .close id | .drop id => some id
  | .bind _ | .isolate _ | .heal _ => none

def Effect.rebind (bound : SocketAddress → Option SocketId) :
    Effect → SocketAddress → Option SocketId
  | .opened id address => Function.update bound address (some id)
  | .closed id => fun address => if bound address = some id then none else bound address
  | .accepted .. | .received .. | .dropped _ | .isolated _ | .healed _ => bound

/-- The socket stays bound where it is, and has got no more than the datagrams that have arrived. -/
structure Spares (id : SocketId) (arrived : List Bytes) (before after : Network) : Prop where
  bound : ∀ address, before.bound? address = some id → after.bound? address = some id
  dropped : (after.socket? id).map Socket.dropped = (before.socket? id).map Socket.dropped
  inbox : after.inbox id = before.inbox id ++ arrived

section

variable {network : Network} {id other : SocketId}

theorem Spares.refl (network : Network) (id : SocketId) : Spares id [] network network :=
  ⟨fun _ bound => bound, rfl, (List.append_nil _).symm⟩

theorem Sound.send (sound : network.Sound) (source target : SocketAddress) (data : Bytes) :
    (network.send source target data).1.Sound := by
  rcases send_cases network source target data sound with ⟨fault, failed⟩ | ⟨owner, -, accepted⟩
  · rwa [failed]
  · rw [accepted]
    exact sound.put owner fun inbox => inbox ++ [data]

theorem Sound.receive (sound : network.Sound) (id : SocketId) : (network.receive id).1.Sound := by
  unfold Network.receive
  split
  · exact sound
  · split
    · exact sound.put id fun _ => _
    · exact sound

@[simp] theorem isolated_send (network : Network) (source target : SocketAddress) (data : Bytes) :
    (network.send source target data).1.isolated = network.isolated := by
  unfold Network.send
  split
  · rfl
  · split
    · rfl
    · split <;> rfl

@[simp] theorem isolated_receive (network : Network) (id : SocketId) :
    (network.receive id).1.isolated = network.isolated := by
  unfold Network.receive
  split
  · rfl
  · split <;> rfl

@[simp] theorem bound?_receive (network : Network) (id : SocketId) (address : SocketAddress) :
    (network.receive id).1.bound? address = network.bound? address := by
  unfold Network.receive
  split
  · rfl
  · split <;> rfl

@[simp] theorem bound?_send (network : Network) (source target : SocketAddress) (data : Bytes)
    (address : SocketAddress) :
    (network.send source target data).1.bound? address = network.bound? address := by
  unfold Network.send
  split
  · rfl
  · split
    · rfl
    · split <;> rfl

theorem dropped_receive (network : Network) (receiver id : SocketId) :
    ((network.receive receiver).1.socket? id).map Socket.dropped =
      (network.socket? id).map Socket.dropped := by
  unfold Network.receive
  split
  · rfl
  · split
    · exact map_socket?_modify network receiver (by intro socket; rfl) (by intro socket; rfl) id
    · rfl

theorem spares_bind (sound : network.Sound) {socket : Socket}
    (found : network.socket? id = some socket) (address : SocketAddress) :
    Spares id [] network (network.bind address).1 := by
  have older := sound.numbered id socket found
  cases free : network.isBound address with
  | true =>
    rw [bind_of_bound free]
    exact ⟨fun _ bound => bound, rfl, (List.append_nil _).symm⟩
  | false =>
    have kept : (network.bind address).1.socket? id = network.socket? id := by
      rw [socket?_bind free, if_neg (Nat.ne_of_gt older)]
    refine ⟨?_, by rw [kept], ?_⟩
    · intro target bound
      rw [bound?_bind free, if_neg]
      · exact bound
      · rintro rfl
        rw [isBound_eq_false.mp free] at bound
        simp at bound
    · rw [inbox_bind free, if_neg (Nat.ne_of_gt older), List.append_nil]

theorem spares_append {owner : SocketId} {socket : Socket}
    (found : network.socket? owner = some socket) (data : Bytes) (id : SocketId) :
    Spares id (if id = owner then [data] else []) network
      (network.modify owner fun socket => { socket with inbox := socket.inbox ++ [data] }) := by
  have arrives := inbox_put found (fun inbox => inbox ++ [data]) id
  have kept : ((network.modify owner fun socket =>
      { socket with inbox := socket.inbox ++ [data] }).socket? id).map Socket.dropped =
        (network.socket? id).map Socket.dropped :=
    map_socket?_modify network owner (by intro socket; rfl) (by intro socket; rfl) id
  refine ⟨fun _ bound => bound, kept, arrives.trans ?_⟩
  split
  next mine => rw [mine]
  next => exact (List.append_nil _).symm

theorem spares_send (sound : network.Sound) (id : SocketId) (source target : SocketAddress)
    (data : Bytes) :
    ∃ arrived, Spares id arrived network (network.send source target data).1 ∧
      ∀ datagram ∈ arrived, datagram = data ∧ network.bound? target = some id := by
  rcases send_cases network source target data sound with ⟨fault, failed⟩ | ⟨owner, bound, accepted⟩
  · rw [failed]
    exact ⟨[], .refl network id, by simp⟩
  · obtain ⟨socket, found, -⟩ := sound.owned target owner bound
    rw [accepted]
    refine ⟨_, spares_append found data id, ?_⟩
    intro datagram among
    obtain ⟨rfl, only⟩ := List.mem_ite_nil_right.mp among
    exact ⟨List.mem_singleton.mp only, bound⟩

theorem spares_accept {source target : SocketAddress} {data : Bytes} {socket : Socket}
    (clear : ¬ (source ∈ network.isolated ∨ target ∈ network.isolated))
    (bound : network.bound? target = some id) (found : network.socket? id = some socket)
    (present : socket.dropped = false) :
    Spares id [data] network (network.send source target data).1 := by
  rw [send_of_bound data clear bound found present]
  have spares := spares_append found data id
  rwa [if_pos rfl] at spares

theorem receive_eq_some {data : Bytes} (received : (network.receive id).2 = .ok (some data)) :
    ∃ rest, network.inbox id = data :: rest ∧ (network.receive id).1.inbox id = rest := by
  unfold Network.receive at received ⊢
  split at received
  next => simp at received
  next socket found =>
    split at received
    next first rest inbox =>
      obtain rfl : first = data := by simpa using received
      refine ⟨rest, (inbox_of_socket? found).trans inbox, ?_⟩
      exact (inbox_put found (fun _ => rest) id).trans (if_pos rfl)
    next =>
      split at received <;> simp at received

theorem inbox_receive (different : other ≠ id) :
    (network.receive other).1.inbox id = network.inbox id := by
  unfold Network.receive
  split
  · rfl
  next socket found =>
    split
    next data rest _ =>
      exact (inbox_put found (fun _ => rest) id).trans (if_neg (Ne.symm different))
    · rfl

theorem spares_receive (different : other ≠ id) :
    Spares id [] network (network.receive other).1 where
  bound := fun address bound => (bound?_receive network other address).trans bound
  dropped := dropped_receive network other id
  inbox := by rw [inbox_receive different, List.append_nil]

theorem spares_close (sound : network.Sound) (different : other ≠ id) :
    Spares id [] network (network.close other) := by
  refine ⟨?_, rfl, (List.append_nil _).symm⟩
  intro address bound
  rw [sound.bound?_close, bound, if_neg]
  simpa using Ne.symm different

theorem spares_drop (different : other ≠ id) : Spares id [] network (network.drop other) := by
  have kept := network.socket?_drop_other (Ne.symm different)
  exact ⟨fun _ bound => bound, by rw [kept], by rw [inbox, kept, List.append_nil, inbox]⟩

theorem Sound.perform (sound : network.Sound) (operation : Operation) :
    (network.perform operation).1.Sound := by
  have held (asked : SocketId) (change : Socket → Network × Answer)
      (stays : ∀ socket, (change socket).1.Sound) : (network.whenHeld asked change).1.Sound := by
    unfold whenHeld
    split
    · exact sound
    · exact stays _
  cases operation with
  | bind address => exact sound.bind address
  | send sender target data =>
    exact held sender _ fun socket => sound.send socket.address target data
  | receive receiver => exact held receiver _ fun _ => sound.receive receiver
  | close closing => exact held closing _ fun _ => sound.close closing
  | drop dropping =>
    exact held dropping _ fun _ =>
      sound.modify dropping (by intro socket; rfl) (by intro socket; rfl)
  | isolate address => exact ⟨sound.numbered, sound.single, sound.owned⟩
  | heal address => exact ⟨sound.numbered, sound.single, sound.owned⟩

theorem bound?_bind_of_ok {address : SocketAddress} (opened : (network.bind address).2 = .ok id) :
    network.isBound address = false ∧ id = network.nextId ∧
      (network.bind address).1.bound? = Function.update network.bound? address (some id) := by
  cases free : network.isBound address with
  | true => simp [bind_of_bound free] at opened
  | false =>
    obtain rfl : network.nextId = id := by simpa [bind_of_free free] using opened
    refine ⟨rfl, rfl, ?_⟩
    funext target
    rw [bound?_bind free, Function.update_apply]
    simp only [eq_comm]

theorem Sound.bound?_perform (sound : network.Sound) (operation : Operation) :
    (network.perform operation).1.bound? =
      match operation.effect (network.perform operation).2 with
      | some effect => effect.rebind network.bound?
      | none => network.bound? := by
  cases operation with
  | bind address =>
    simp only [Network.perform, Prod.map]
    cases result : (network.bind address).2 with
    | ok id => exact (bound?_bind_of_ok result).2.2
    | error fault =>
      cases free : network.isBound address with
      | true => rw [bind_of_bound free]; rfl
      | false => simp [bind_of_free free] at result
  | send id target data =>
    cases held : network.held? id with
    | none => simp only [Network.perform, whenHeld_of_unheld held]; rfl
    | some socket =>
      simp only [Network.perform, whenHeld_of_held held, Prod.map]
      rw [funext (network.bound?_send socket.address target data)]
      cases (network.send socket.address target data).2 <;> rfl
  | receive id =>
    cases held : network.held? id with
    | none => simp only [Network.perform, whenHeld_of_unheld held]; rfl
    | some socket =>
      simp only [Network.perform, whenHeld_of_held held, Prod.map]
      rw [funext (network.bound?_receive id)]
      rcases (network.receive id).2 with fault | (_ | data) <;> rfl
  | close id =>
    cases held : network.held? id with
    | none => simp only [Network.perform, whenHeld_of_unheld held]; rfl
    | some socket =>
      simp only [Network.perform, whenHeld_of_held held]
      funext address
      exact sound.bound?_close id address
  | drop id =>
    cases held : network.held? id with
    | none => simp only [Network.perform, whenHeld_of_unheld held]; rfl
    | some socket => simp only [Network.perform, whenHeld_of_held held]; rfl
  | isolate address => rfl
  | heal address => rfl

theorem closed_of_effect {operation : Operation} {answer : Answer}
    (closed : operation.effect answer = some (.closed id)) :
    operation = .close id := by
  unfold Operation.effect at closed
  split at closed <;> simp_all

theorem opened_of_effect {operation : Operation} {answer : Answer}
    {address : SocketAddress} (opened : operation.effect answer = some (.opened id address)) :
    operation = .bind address ∧ answer = .bound (.ok id) := by
  unfold Operation.effect at opened
  split at opened <;> simp_all

theorem Sound.free_perform (sound : network.Sound) {address : SocketAddress}
    (free : network.bound? address = none) {operation : Operation}
    (others : operation ≠ .bind address) : (network.perform operation).1.bound? address = none := by
  rw [sound.bound?_perform]
  cases told : operation.effect (network.perform operation).2 with
  | none => exact free
  | some effect =>
    cases effect with
    | opened fresh here =>
      have elsewhere : address ≠ here := by
        rintro rfl
        exact others (opened_of_effect told).1
      exact (Function.update_of_ne elsewhere _ _).trans free
    | closed gone => simp [Effect.rebind, free]
    | accepted | received | dropped | isolated | healed => exact free

theorem spares_perform (sound : network.Sound) {socket : Socket}
    (found : network.socket? id = some socket) {operation : Operation}
    (others : operation.socket? ≠ some id) :
    ∃ arrived, Spares id arrived network (network.perform operation).1 ∧
      ∀ data ∈ arrived, ∃ sender target, operation = .send sender target data ∧
        network.bound? target = some id := by
  have quiet {after : Network} (spares : Spares id [] network after) :
      ∃ arrived, Spares id arrived network after ∧
        ∀ data ∈ arrived, ∃ sender target, operation = .send sender target data ∧
          network.bound? target = some id :=
    ⟨[], spares, by simp⟩
  -- An operation on a socket that was thrown away does nothing.
  have held (asked : SocketId) (change : Socket → Network × Answer)
      (spares : ∀ socket, Spares id [] network (change socket).1) :
      Spares id [] network (network.whenHeld asked change).1 := by
    unfold whenHeld
    split
    · exact .refl network id
    · exact spares _
  cases operation with
  | bind address => exact quiet (spares_bind sound found address)
  | send sender target data =>
    simp only [Network.perform]
    cases known : network.held? sender with
    | none =>
      rw [whenHeld_of_unheld known]
      exact quiet (.refl network id)
    | some socket =>
      rw [whenHeld_of_held known]
      obtain ⟨arrived, spares, what⟩ := spares_send sound id socket.address target data
      refine ⟨arrived, spares, ?_⟩
      intro datagram among
      obtain ⟨rfl, bound⟩ := what datagram among
      exact ⟨sender, target, rfl, bound⟩
  | receive receiver =>
    exact quiet (held receiver _ fun _ => spares_receive fun same => others (congrArg some same))
  | close closing =>
    exact quiet (held closing _ fun _ => spares_close sound fun same => others (congrArg some same))
  | drop dropping =>
    exact quiet (held dropping _ fun _ => spares_drop fun same => others (congrArg some same))
  | isolate address => exact quiet ⟨fun _ bound => bound, rfl, (List.append_nil _).symm⟩
  | heal address => exact quiet ⟨fun _ bound => bound, rfl, (List.append_nil _).symm⟩

end

end Network

end ClusterCoordination
