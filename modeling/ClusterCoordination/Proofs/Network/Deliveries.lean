import Mathlib.Data.List.Induction
import Mathlib.Data.List.TakeWhile
import ClusterCoordination.Proofs.Network.Sockets
/-!
# What sockets receive

Whoever holds a socket sends, receives, closes it and throws it away; addresses are cut off and
healed. A socket receives, in order, what was sent to its address while it was bound there, and
nothing else.
-/

set_option autoImplicit false

namespace ClusterCoordination

namespace Network

inductive Operation where
  | bind (address : SocketAddress)
  | send (id : SocketId) (target : SocketAddress) (data : Bytes)
  | receive (id : SocketId)
  | close (id : SocketId)
  | drop (id : SocketId)
  | isolate (address : SocketAddress)
  | heal (address : SocketAddress)
deriving DecidableEq

inductive Answer where
  | bound (result : Except NetworkFault SocketId)
  | sent (result : Except NetworkFault Unit)
  | received (result : Except NetworkFault (Option Bytes))
  | done
  -- Nobody holds such a socket, so nobody can have asked.
  | unheld
deriving DecidableEq

/-- The socket, unless it was never opened or has been thrown away. -/
def held? (network : Network) (id : SocketId) : Option Socket :=
  (network.socket? id).filter fun socket => !socket.dropped

def whenHeld (network : Network) (id : SocketId) (operation : Socket → Network × Answer) :
    Network × Answer :=
  match network.held? id with
  | none => (network, .unheld)
  | some socket => operation socket

def perform (network : Network) : Operation → Network × Answer
  | .bind address => (network.bind address).map (fun after => after) .bound
  | .send id target data =>
    network.whenHeld id fun socket =>
      (network.send socket.address target data).map (fun after => after) .sent
  | .receive id =>
    network.whenHeld id fun _ => (network.receive id).map (fun after => after) .received
  | .close id => network.whenHeld id fun _ => (network.close id, .done)
  | .drop id => network.whenHeld id fun _ => (network.drop id, .done)
  | .isolate address => (network.isolate address, .done)
  | .heal address => (network.heal address, .done)

/-- What can be told afterwards of an operation that was not in vain. -/
inductive Effect where
  | opened (id : SocketId) (address : SocketAddress)
  | accepted (target : SocketAddress) (data : Bytes)
  | received (id : SocketId) (data : Bytes)
  | closed (id : SocketId)
  | dropped (id : SocketId)
  | isolated (address : SocketAddress)
  | healed (address : SocketAddress)
deriving DecidableEq

def Operation.effect : Operation → Answer → Option Effect
  | .bind address, .bound (.ok id) => some (.opened id address)
  | .send _ target data, .sent (.ok ()) => some (.accepted target data)
  | .receive id, .received (.ok (some data)) => some (.received id data)
  | .close id, .done => some (.closed id)
  | .drop id, .done => some (.dropped id)
  | .isolate address, .done => some (.isolated address)
  | .heal address, .done => some (.healed address)
  | _, _ => none

def performAll (network : Network) (operations : List Operation) : Network :=
  operations.foldl (fun network operation => (network.perform operation).1) network

def run (operations : List Operation) : Network := empty.performAll operations

def effects (network : Network) : List Operation → List Effect
  | [] => []
  | operation :: rest =>
    (operation.effect (network.perform operation).2).toList ++
      (network.perform operation).1.effects rest

def past (operations : List Operation) : List Effect := empty.effects operations

theorem effects_concat (network : Network) (earlier : List Operation) (operation : Operation) :
    network.effects (earlier ++ [operation]) = network.effects earlier ++
      (operation.effect ((network.performAll earlier).perform operation).2).toList := by
  induction earlier generalizing network with
  | nil => exact List.append_nil _
  | cons first rest ih =>
    simp only [List.cons_append, effects, ih, List.append_assoc]
    rfl

def Opened (id : SocketId) (address : SocketAddress) (past : List Effect) : Prop :=
  .opened id address ∈ past

def Closed (id : SocketId) (past : List Effect) : Prop := .closed id ∈ past

def Dropped (id : SocketId) (past : List Effect) : Prop := .dropped id ∈ past

/-- The socket was opened at the address, and was not closed afterwards. -/
def Holds (id : SocketId) (address : SocketAddress) (past : List Effect) : Prop :=
  Opened id address past ∧ ¬ Closed id past

def Since (start : Effect) (undoes : Effect → Prop) (past : List Effect) : Prop :=
  ∃ earlier later, past = earlier ++ start :: later ∧ ∀ effect ∈ later, ¬ undoes effect

def CutOff (address : SocketAddress) (past : List Effect) : Prop :=
  ∃ earlier later, past = earlier ++ .isolated address :: later ∧ .healed address ∉ later

instance (id : SocketId) (past : List Effect) : Decidable (Closed id past) :=
  inferInstanceAs (Decidable (_ ∈ past))

instance (id : SocketId) (past : List Effect) : Decidable (Dropped id past) :=
  inferInstanceAs (Decidable (_ ∈ past))

instance (id : SocketId) (address : SocketAddress) (past : List Effect) :
    Decidable (Opened id address past) :=
  inferInstanceAs (Decidable (_ ∈ past))

instance (id : SocketId) (address : SocketAddress) (past : List Effect) :
    Decidable (Holds id address past) :=
  inferInstanceAs (Decidable (_ ∧ _))

/-- What has happened while the socket was bound to the address. -/
def lifetime (id : SocketId) (address : SocketAddress) (past : List Effect) : List Effect :=
  (past.takeWhile fun effect => effect ≠ .closed id).dropWhile fun effect =>
    effect ≠ .opened id address

def Effect.acceptedAt? (address : SocketAddress) : Effect → Option Bytes
  | .accepted target data => if target = address then some data else none
  | _ => none

def Effect.receivedBy? (id : SocketId) : Effect → Option Bytes
  | .received receiver data => if receiver = id then some data else none
  | _ => none

/-- The datagrams accepted for the address while the socket was bound to it, oldest first. -/
def acceptedFor (id : SocketId) (address : SocketAddress) (past : List Effect) : List Bytes :=
  (lifetime id address past).filterMap (Effect.acceptedAt? address)

/-- The datagrams that the socket has received, oldest first. -/
def receivedBy (id : SocketId) (past : List Effect) : List Bytes :=
  past.filterMap (Effect.receivedBy? id)

section

variable {id : SocketId} {address : SocketAddress} {past : List Effect}

theorem lifetime_of_closed (closed : Closed id past) (effect : Effect) :
    lifetime id address (past ++ [effect]) = lifetime id address past := by
  have ends : (past.takeWhile fun effect => effect ≠ .closed id).length ≠ past.length := by
    intro whole
    have all := List.takeWhile_eq_self_iff.mp ((List.takeWhile_prefix _).eq_of_length whole)
    simpa using all _ closed
  rw [lifetime, List.takeWhile_append, if_neg ends, lifetime]

theorem lifetime_of_open (opened : ¬ Closed id past) (effect : Effect) :
    lifetime id address (past ++ [effect]) =
      (past ++ [effect].takeWhile fun effect => effect ≠ .closed id).dropWhile fun effect =>
        effect ≠ .opened id address := by
  rw [lifetime, List.takeWhile_append_of_pos]
  intro earlier present
  have other : earlier ≠ .closed id := by
    rintro rfl
    exact opened present
  simpa using other

theorem dropWhile_of_not_opened (absent : ¬ Opened id address past) :
    (past.dropWhile fun effect => effect ≠ .opened id address) = [] := by
  apply List.dropWhile_eq_nil_iff.mpr
  intro effect present
  have other : effect ≠ .opened id address := by
    rintro rfl
    exact absent present
  simpa using other

theorem acceptedFor_concat (id : SocketId) (address : SocketAddress) (past : List Effect)
    (effect : Effect) :
    acceptedFor id address (past ++ [effect]) = acceptedFor id address past ++
      if Holds id address past then (effect.acceptedAt? address).toList else [] := by
  -- The effect counts only while the socket is open, so the cases are those of its lifetime.
  by_cases closed : Closed id past
  · have ended : ¬ Holds id address past := fun holds => holds.2 closed
    rw [acceptedFor, lifetime_of_closed closed, if_neg ended, List.append_nil, acceptedFor]
  · have whole : (past.takeWhile fun effect => effect ≠ .closed id) = past := by
      apply List.takeWhile_eq_self_iff.mpr
      intro earlier present
      have other : earlier ≠ .closed id := by
        rintro rfl
        exact closed present
      simpa using other
    rw [acceptedFor, acceptedFor, lifetime_of_open closed, lifetime, whole, List.dropWhile_append]
    by_cases opened : Opened id address past
    · have started :
          (past.dropWhile fun effect => effect ≠ .opened id address).isEmpty = false := by
        rw [Bool.eq_false_iff]
        intro empty
        have all := List.dropWhile_eq_nil_iff.mp (List.isEmpty_iff.mp empty)
        simpa using all _ opened
      rw [started, if_neg (by simp), if_pos ⟨opened, closed⟩, List.filterMap_append]
      congr 1
      by_cases ends : effect = .closed id
      · subst ends
        simp [Effect.acceptedAt?]
      · have goesOn : ([effect].takeWhile fun effect => effect ≠ .closed id) = [effect] := by
          simp [ends]
        rw [goesOn, List.filterMap_cons, List.filterMap_nil]
        cases effect.acceptedAt? address <;> rfl
    · have never : ¬ Holds id address past := fun holds => opened holds.1
      rw [dropWhile_of_not_opened opened, if_neg never]
      by_cases begins : effect = .opened id address
      · subst begins
        simp [Effect.acceptedAt?]
      · by_cases ends : effect = .closed id <;> simp [begins, ends]

theorem receivedBy_concat (id : SocketId) (past : List Effect) (effect : Effect) :
    receivedBy id (past ++ [effect]) = receivedBy id past ++ (effect.receivedBy? id).toList := by
  rw [receivedBy, List.filterMap_append, receivedBy, List.filterMap_cons, List.filterMap_nil]
  cases effect.receivedBy? id <;> rfl

theorem since_concat {start : Effect} {undoes : Effect → Prop} (past : List Effect)
    (effect : Effect) :
    Since start undoes (past ++ [effect]) ↔
      effect = start ∨ (Since start undoes past ∧ ¬ undoes effect) := by
  constructor
  · rintro ⟨earlier, later, whole, kept⟩
    rcases List.eq_nil_or_concat' later with rfl | ⟨before, last, rfl⟩
    · left
      exact List.singleton_inj.mp (List.append_inj' whole rfl).2
    · right
      have parts : past ++ [effect] = (earlier ++ start :: before) ++ [last] := by
        rw [whole, List.append_assoc]
        rfl
      obtain ⟨same, ended⟩ := List.append_inj' parts rfl
      obtain rfl := List.singleton_inj.mp ended
      simp only [List.mem_append, List.mem_singleton] at kept
      exact ⟨⟨earlier, before, same, fun other among => kept other (.inl among)⟩,
        kept effect (.inr rfl)⟩
  · rintro (rfl | ⟨⟨earlier, later, rfl, kept⟩, spared⟩)
    · exact ⟨past, [], rfl, by simp⟩
    · refine ⟨earlier, later ++ [effect], by simp, ?_⟩
      simpa [or_imp, forall_and] using ⟨kept, spared⟩

theorem cutOff_iff_since (address : SocketAddress) (past : List Effect) :
    CutOff address past ↔ Since (.isolated address)
    (fun effect => effect = .healed address) past := by
  simp only [CutOff, Since, List.forall_mem_ne']

theorem cutOff_concat (address : SocketAddress) (past : List Effect) (effect : Effect) :
    CutOff address (past ++ [effect]) ↔
      effect = .isolated address ∨ (CutOff address past ∧ effect ≠ .healed address) := by
  rw [cutOff_iff_since, since_concat, cutOff_iff_since]

end

end Network

end ClusterCoordination
