import Mathlib.Data.List.Nodup
import ClusterCoordination.Network.Memory
/-!
# Sockets and their addresses

What each operation on a network does to the sockets, to what the addresses are bound to and to the
inboxes.
-/

set_option autoImplicit false

namespace ClusterCoordination

namespace Network

def inbox (network : Network) (id : SocketId) : List Bytes :=
  ((network.socket? id).map Socket.inbox).getD []

structure Sound (network : Network) : Prop where
  numbered : ∀ id socket, network.socket? id = some socket → id < network.nextId
  single : (network.bindings.map Prod.fst).Nodup
  owned : ∀ address id, network.bound? address = some id →
    ∃ socket, network.socket? id = some socket ∧ socket.address = address

theorem sound_empty : empty.Sound where
  numbered := by simp [empty, socket?]
  single := List.nodup_nil
  owned := by simp [empty, bound?]

section

variable {network : Network} {id : SocketId} {address target : SocketAddress} {socket : Socket}

theorem id_of_socket? (found : network.socket? id = some socket) : socket.id = id := by
  simpa using List.find?_some found

theorem inbox_of_socket? (found : network.socket? id = some socket) :
    network.inbox id = socket.inbox := by
  rw [inbox, found]
  rfl

theorem Sound.bound?_inj (sound : network.Sound) (here : network.bound? address = some id)
    (there : network.bound? target = some id) : address = target := by
  obtain ⟨socket, found, rfl⟩ := sound.owned address id here
  obtain ⟨same, again, rfl⟩ := sound.owned target id there
  rw [Option.some.inj (found.symm.trans again)]

@[simp] theorem bound?_modify (network : Network) (id : SocketId) (change : Socket → Socket)
    (address : SocketAddress) :
    (network.modify id change).bound? address = network.bound? address :=
  rfl

theorem socket?_modify (network : Network) (id : SocketId) {change : Socket → Socket}
    (keeps : ∀ socket, (change socket).id = socket.id) (other : SocketId) :
    (network.modify id change).socket? other =
      (network.socket? other).map fun socket => if other = id then change socket else socket := by
  have same : (fun socket : Socket =>
      decide ((if socket.id = id then change socket else socket).id = other)) =
        fun socket => decide (socket.id = other) := by
    funext socket
    split
    · rw [keeps]
    · rfl
  simp only [socket?, modify, List.find?_map, Function.comp_def, same]
  cases found : network.sockets.find? fun socket => decide (socket.id = other) with
  | none => rfl
  | some socket =>
    have named : socket.id = other := by simpa using List.find?_some found
    simp only [Option.map_some, named]

theorem Sound.modify (sound : network.Sound) (id : SocketId) {change : Socket → Socket}
    (keeps : ∀ socket, (change socket).id = socket.id)
    (stays : ∀ socket, (change socket).address = socket.address) :
    (network.modify id change).Sound where
  numbered := by
    intro other socket found
    rw [socket?_modify network id keeps] at found
    obtain ⟨known, present, -⟩ := Option.map_eq_some_iff.mp found
    exact sound.numbered other known present
  single := sound.single
  owned := by
    intro address other bound
    obtain ⟨socket, found, rfl⟩ := sound.owned address other bound
    refine ⟨_, (socket?_modify network id keeps other).trans (congrArg _ found), ?_⟩
    dsimp only [Option.map_some]
    split
    · exact stays socket
    · rfl

theorem bind_of_bound (bound : network.isBound address = true) :
    network.bind address =
      ({ network with nextId := network.nextId + 1 }, .error (.addressInUse address)) := by
  simp only [bind, bound, if_true]

theorem bind_of_free (free : network.isBound address = false) :
    network.bind address =
      ({ network with
          nextId := network.nextId + 1
          sockets := ⟨network.nextId, address, [], false⟩ :: network.sockets
          bindings := (address, network.nextId) :: network.bindings }, .ok network.nextId) := by
  simp only [bind, free, Bool.false_eq_true, if_false]

theorem isBound_eq_false : network.isBound address = false ↔ network.bound? address = none := by
  simp [isBound]

theorem socket?_bind (free : network.isBound address = false) (id : SocketId) :
    (network.bind address).1.socket? id =
      if network.nextId = id then some ⟨network.nextId, address, [], false⟩
        else network.socket? id := by
  rw [bind_of_free free]
  simp only [socket?, List.find?_cons]
  split <;> simp_all

theorem inbox_bind (free : network.isBound address = false) (id : SocketId) :
    (network.bind address).1.inbox id = if network.nextId = id then [] else network.inbox id := by
  rw [inbox, socket?_bind free]
  split <;> rfl

theorem bound?_bind (free : network.isBound address = false) (target : SocketAddress) :
    (network.bind address).1.bound? target =
      if address = target then some network.nextId else network.bound? target := by
  rw [bind_of_free free]
  simp only [bound?, List.find?_cons]
  split <;> simp_all

theorem not_mem_of_free (free : network.isBound address = false) :
    address ∉ network.bindings.map Prod.fst := by
  intro listed
  obtain ⟨binding, present, rfl⟩ := List.mem_map.mp listed
  have absent := Option.map_eq_none_iff.mp (isBound_eq_false.mp free)
  simpa using List.find?_eq_none.mp absent binding present

theorem Sound.bind (sound : network.Sound) (address : SocketAddress) :
    (network.bind address).1.Sound := by
  cases free : network.isBound address with
  | true =>
    rw [bind_of_bound free]
    exact ⟨fun id socket found => Nat.lt_succ_of_lt (sound.numbered id socket found), sound.single,
      sound.owned⟩
  | false =>
    constructor
    · intro id socket found
      rw [bind_of_free free]
      rw [socket?_bind free] at found
      split at found
      next fresh => exact fresh ▸ Nat.lt_succ_self _
      next => exact Nat.lt_succ_of_lt (sound.numbered id socket found)
    · rw [bind_of_free free]
      exact List.nodup_cons.mpr ⟨not_mem_of_free free, sound.single⟩
    · intro target id bound
      rw [bound?_bind free] at bound
      rw [socket?_bind free]
      split at bound
      next same =>
        obtain rfl := Option.some.inj bound
        exact ⟨_, if_pos rfl, same⟩
      next =>
        obtain ⟨socket, found, opened⟩ := sound.owned target id bound
        have older := sound.numbered id socket found
        exact ⟨socket, by rw [if_neg (Nat.ne_of_gt older), found], opened⟩

theorem Sound.bound?_close (sound : network.Sound) (id : SocketId) (address : SocketAddress) :
    (network.close id).bound? address =
      if network.bound? address = some id then none else network.bound? address := by
  have kept (bindings : List (SocketAddress × SocketId)) (single : (bindings.map Prod.fst).Nodup) :
      (((bindings.filter fun binding => binding.2 ≠ id).find? fun binding =>
        decide (binding.1 = address)).map (·.2)) =
      if ((bindings.find? fun binding => decide (binding.1 = address)).map (·.2)) = some id
        then none
      else (bindings.find? fun binding => decide (binding.1 = address)).map (·.2) := by
    induction bindings with
    | nil => rfl
    | cons binding rest ih =>
      obtain ⟨fresh, single⟩ := List.nodup_cons.mp single
      by_cases here : binding.1 = address
      · have found : (binding :: rest).find? (fun binding => decide (binding.1 = address)) =
            some binding := List.find?_cons_of_pos (by simpa using here)
        rw [found]
        by_cases mine : binding.2 = id
        · -- No other binding has the address.
          have absent : rest.find? (fun binding => decide (binding.1 = address)) = none := by
            apply List.find?_eq_none.mpr
            intro other present same
            exact fresh (here ▸ of_decide_eq_true same ▸ List.mem_map_of_mem present)
          have later := ih single
          rw [absent] at later
          simpa [mine] using later
        · simp [mine, here]
      · have skipped : (binding :: rest).find? (fun binding => decide (binding.1 = address)) =
            rest.find? (fun binding => decide (binding.1 = address)) :=
          List.find?_cons_of_neg (by simpa using here)
        rw [skipped, ← ih single]
        by_cases mine : binding.2 = id <;> simp [mine, here]
  exact kept network.bindings sound.single

theorem Sound.close (sound : network.Sound) (id : SocketId) : (network.close id).Sound where
  numbered := sound.numbered
  single := sound.single.sublist (List.filter_sublist.map _)
  owned := by
    intro address other bound
    rw [sound.bound?_close] at bound
    split at bound
    · simp at bound
    · exact sound.owned address other bound

theorem send_of_cut {source : SocketAddress} (data : Bytes)
    (cut : source ∈ network.isolated ∨ target ∈ network.isolated) :
    network.send source target data = (network, .error (.unreachable source target)) := by
  unfold send
  rw [if_pos (by simpa using cut)]

section

variable {source : SocketAddress} (data : Bytes)
  (clear : ¬ (source ∈ network.isolated ∨ target ∈ network.isolated))
include clear

theorem send_of_free (free : network.bound? target = none) :
    network.send source target data = (network, .error (.notBound target)) := by
  unfold send
  rw [if_neg (by simpa using clear), free]

theorem send_of_dropped (bound : network.bound? target = some id)
    (found : network.socket? id = some socket) (gone : socket.dropped = true) :
    network.send source target data = (network, .error (.reset target)) := by
  unfold send
  rw [if_neg (by simpa using clear), bound]
  simp [found, gone]

theorem send_of_bound (bound : network.bound? target = some id)
    (found : network.socket? id = some socket) (present : socket.dropped = false) :
    network.send source target data =
      (network.modify id fun socket => { socket with inbox := socket.inbox ++ [data] },
        .ok ()) := by
  unfold send
  rw [if_neg (by simpa using clear), bound]
  simp [found, present]

end

theorem Sound.put (sound : network.Sound) (id : SocketId) (inbox : List Bytes → List Bytes) :
    (network.modify id fun socket => { socket with inbox := inbox socket.inbox }).Sound :=
  sound.modify id (by intro socket; rfl) (by intro socket; rfl)

theorem inbox_put (found : network.socket? id = some socket) (inbox : List Bytes → List Bytes)
    (other : SocketId) :
    (network.modify id fun socket => { socket with inbox := inbox socket.inbox }).inbox other =
      if other = id then inbox (network.inbox id) else network.inbox other := by
  rw [Network.inbox, socket?_modify network id (by intro socket; rfl)]
  split
  next same =>
    rw [same, found, inbox_of_socket? found]
    rfl
  next =>
    rw [Option.map_map]
    rfl

theorem socket?_drop_other (network : Network) {id other : SocketId} (different : other ≠ id) :
    (network.drop id).socket? other = network.socket? other := by
  rw [drop, socket?_modify network id (by intro socket; rfl)]
  simp [different]

end

end Network

end ClusterCoordination
