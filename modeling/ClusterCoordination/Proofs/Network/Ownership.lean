import ClusterCoordination.Proofs.Network.Bystanders
/-!
# Who an address belongs to

An address belongs to the socket that was opened there last, until that very socket is closed.
Sockets that had the address before, and cuts of the network, have no say in it.
-/

set_option autoImplicit false

namespace ClusterCoordination

namespace Network

/-- The socket was the last to be opened at the address, and has not been closed since. -/
def Owns (id : SocketId) (address : SocketAddress) (past : List Effect) : Prop :=
  Since (.opened id address)
    (fun effect => effect = .closed id ∨ ∃ other, effect = .opened other address) past

section

variable {network : Network} {past : List Effect} {operation : Operation} {id : SocketId}
  {address : SocketAddress}

theorem rebind_owns {bound : SocketAddress → Option SocketId}
    (decided : ∀ address id, bound address = some id ↔ Owns id address past) (effect : Effect)
    (address : SocketAddress) (id : SocketId) :
    effect.rebind bound address = some id ↔ Owns id address (past ++ [effect]) := by
  rw [Owns, since_concat, ← Owns, ← decided]
  cases effect with
  | opened opener opening =>
    by_cases here : opening = address
    · subst here
      simp [Effect.rebind, Function.update_self]
    · simp [Effect.rebind, Function.update_of_ne (Ne.symm here), here]
  | closed gone =>
    by_cases mine : bound address = some gone
    · simp [Effect.rebind, mine, eq_comm]
    · have spared (owned : bound address = some id) : gone ≠ id := by
        rintro rfl
        exact mine owned
      simpa [Effect.rebind, mine] using spared
  | accepted | received | dropped | isolated | healed => simp [Effect.rebind]

theorem Sound.bound?_perform_of_ne_close (sound : network.Sound)
    (bound : network.bound? address = some id) (other : operation ≠ .close id) :
    (network.perform operation).1.bound? address = some id := by
  rw [sound.bound?_perform]
  cases told : operation.effect (network.perform operation).2 with
  | none => exact bound
  | some effect =>
    cases effect with
    | opened fresh here =>
      obtain ⟨rfl, answer⟩ := opened_of_effect told
      have opened : (network.bind here).2 = .ok fresh := by
        simpa [Network.perform, Prod.map] using answer
      have free := (bound?_bind_of_ok opened).1
      have elsewhere : address ≠ here := by
        rintro rfl
        simp [isBound_eq_false.mp free] at bound
      exact (Function.update_of_ne elsewhere _ _).trans bound
    | closed gone =>
      have foreign : network.bound? address ≠ some gone := by
        intro mine
        obtain rfl := Option.some.inj (bound.symm.trans mine)
        exact other (closed_of_effect told)
      exact (if_neg foreign).trans bound
    | accepted | received | dropped | isolated | healed => exact bound

theorem Sound.bound?_perform_close (sound : network.Sound)
    (unbound : ∀ address, network.bound? address ≠ some id) :
    (network.perform (.close id)).1.bound? = network.bound? := by
  cases held : network.held? id with
  | none => simp only [Network.perform, whenHeld_of_unheld held]
  | some socket =>
    simp only [Network.perform, whenHeld_of_held held]
    funext address
    exact (sound.bound?_close id address).trans (if_neg (unbound address))

end

theorem run_owns (operations : List Operation) (address : SocketAddress) (id : SocketId) :
    (run operations).bound? address = some id ↔ Owns id address (Network.past operations) := by
  induction operations using List.reverseRecOn generalizing address id with
  | nil => simp [run, performAll, empty, bound?, Network.past, effects, Owns, Since]
  | append_singleton earlier operation ih =>
    rw [run, Network.past, performAll_concat, effects_concat, ← run,
      (run_recalls earlier).sound.bound?_perform]
    change _ ↔ Owns id address (Network.past earlier ++
      (operation.effect ((run earlier).perform operation).2).toList)
    cases operation.effect ((run earlier).perform operation).2 with
    | none => simpa using ih address id
    | some effect => exact rebind_owns ih effect address id

/-- Addresses are given to one socket at a time, and only that socket gives them back. -/
structure Exclusive (network : Network) (past : List Effect) : Prop where
  single : ∀ address id other, (address, id) ∈ network.bindings →
    (address, other) ∈ network.bindings → id = other
  sole : ∀ address id other, Holds id address past → Holds other address past → id = other
  isBound : ∀ address, network.isBound address = true ↔ ∃ id, Owns id address past
  opens : ∀ address, (∃ id, (network.perform (.bind address)).2 = .bound (.ok id)) ↔
    network.isBound address = false
  refuses : ∀ address, network.isBound address = true →
    (network.perform (.bind address)).2 = .bound (.error (.addressInUse address)) ∧
      (network.perform (.bind address)).1.bound? = network.bound?
  -- A socket that is opened is a new one, and takes its address only.
  takes : ∀ address id, (network.perform (.bind address)).2 = .bound (.ok id) →
    (∀ effect ∈ past, effect.socket? ≠ some id) ∧
      (network.perform (.bind address)).1.bound? = Function.update network.bound? address (some id)
  releases : ∀ operation address id, network.bound? address = some id →
    (network.perform operation).1.bound? address ≠ some id → operation = .close id
  closedAgain : ∀ id, Closed id past →
    (network.perform (.close id)).1.bound? = network.bound?
  rebound : ∀ id other address, Opened id address past → network.bound? address = some other →
    other ≠ id → (network.perform (.close id)).1.bound? = network.bound?
  isolates : ∀ address, (network.perform (.isolate address)).1.bound? = network.bound?
  heals : ∀ address, (network.perform (.heal address)).1.bound? = network.bound?

theorem Recalls.exclusive {network : Network} {past : List Effect} (recalls : network.Recalls past)
    (owns : ∀ address id, network.bound? address = some id ↔ Owns id address past) :
    network.Exclusive past := by
  have sound := recalls.sound
  constructor
  case single =>
    intro address id other here there
    exact congrArg Prod.snd (List.inj_on_of_nodup_map sound.single here there rfl)
  case sole => exact fun address id other holds again => recalls.eq_of_holds holds again
  case isBound =>
    intro address
    rw [Network.isBound, Option.isSome_iff_exists]
    exact exists_congr (owns address)
  case opens =>
    intro address
    cases free : network.isBound address with
    | true => simp [Network.perform, Prod.map, bind_of_bound free]
    | false => simp [Network.perform, Prod.map, bind_of_free free]
  case refuses =>
    intro address taken
    simp only [Network.perform, Prod.map, bind_of_bound taken]
    exact ⟨trivial, rfl⟩
  case takes =>
    intro address id answer
    have opened : (network.bind address).2 = .ok id := by
      simpa [Network.perform, Prod.map] using answer
    obtain ⟨-, rfl, taken⟩ := bound?_bind_of_ok opened
    refine ⟨?_, taken⟩
    intro effect among named
    obtain ⟨socket, found⟩ := Option.isSome_iff_exists.mp (recalls.known effect among _ named)
    exact Nat.lt_irrefl _ (sound.numbered _ socket found)
  case releases =>
    intro operation address id bound left
    by_contra other
    exact left (sound.bound?_perform_of_ne_close bound other)
  case closedAgain =>
    intro id closed
    apply sound.bound?_perform_close
    intro address bound
    exact ((recalls.bound id address).mp bound).2 closed
  case rebound =>
    intro id other address opened bound different
    apply sound.bound?_perform_close
    intro target mine
    -- The socket was opened at one address only, which another socket has by now.
    obtain ⟨socket, found, rfl⟩ := sound.owned target id mine
    have here := (recalls.opened id address).mpr opened
    rw [found] at here
    obtain rfl := Option.some.inj here
    exact different (Option.some.inj (bound.symm.trans mine))
  case isolates => exact fun address => rfl
  case heals => exact fun address => rfl

/--
Whatever is done with sockets and addresses, an address is bound to at most one socket, and only
closing that very socket releases it.
-/
theorem run_binds_exclusively (operations : List Operation) :
    (run operations).Exclusive (Network.past operations) :=
  (run_recalls operations).exclusive (run_owns operations)

-- A socket that was closed and is closed again does not release what was opened after it.
example :
    let here : SocketAddress := .v4 #v[127, 0, 0, 1] 1
    (run [.bind here, .close 0, .bind here, .close 0]).bound? here = some 1 := by
  decide

end Network

end ClusterCoordination
