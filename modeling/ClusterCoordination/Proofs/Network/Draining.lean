import ClusterCoordination.Proofs.Network.Lines
/-!
# In what order datagrams are handed over

Datagrams are pushed, queues are dropped, and every drain takes what waits in its queue and sends
it, in any order. A drain hands its datagrams over one at a time and in order. The same holds of all
datagrams for an address, provided that its queue is not made anew while a dropped one is still
being drained. A choice of drains is one of their ids and addresses, which they keep.
-/

set_option autoImplicit false

namespace ClusterCoordination

namespace Outbox

inductive Operation where
  | push (address : SocketAddress) (outgoing : Outgoing)
  | retain (keep : SocketAddress → Bool)
  | disconnect (address : SocketAddress)
  | shutdown
  | take (drain : DrainId)
  | complete (drain : DrainId) (result : Except NetworkFault Unit)

def perform (outbox : Outbox) : Operation → Outbox
  | .push address outgoing => (outbox.push address outgoing).1
  | .retain keep => outbox.retain keep
  | .disconnect address => outbox.disconnect address
  | .shutdown => outbox.shutdown
  | .take drain => (outbox.take drain).1
  | .complete drain result => (outbox.complete drain result).1

def performAll (outbox : Outbox) (operations : List Operation) : Outbox :=
  operations.foldl perform outbox

def run (operations : List Operation) : Outbox := empty.performAll operations

abbrev Choice := DrainId → SocketAddress → Bool

def Choice.only (id : DrainId) : Choice := fun drain _ => drain = id

def Choice.every (address : SocketAddress) : Choice := fun _ target => target = address

/-- The drain whose queue takes what is pushed for the address. -/
def receiver (outbox : Outbox) (address : SocketAddress) : DrainId :=
  match outbox.queue? address with
  | some drain => drain.id
  | none => outbox.nextDrain

def newlyQueued (chosen : Choice) (outbox : Outbox) : Operation → List Bytes
  | .push address outgoing =>
    if outbox.closed = false ∧ chosen (outbox.receiver address) address then [outgoing.data] else []
  | _ => []

def newlyHanded (chosen : Choice) (outbox : Outbox) : Operation → List Bytes
  | .take drain =>
    match (outbox.take drain).2 with
    | some (address, data) => if chosen drain address then [data] else []
    | none => []
  | _ => []

def along (does : Outbox → Operation → List Bytes) : Outbox → List Operation → List Bytes
  | _, [] => []
  | outbox, operation :: rest => does outbox operation ++ along does (outbox.perform operation) rest

def queuedIn (chosen : Choice) (operations : List Operation) : List Bytes :=
  along (newlyQueued chosen) empty operations

def handedBy (chosen : Choice) (operations : List Operation) : List Bytes :=
  along (newlyHanded chosen) empty operations

def drainsOf (outbox : Outbox) (chosen : Choice) : List Drain :=
  outbox.drains.filter fun drain => chosen drain.id drain.address

def waitingIn (outbox : Outbox) (chosen : Choice) : List Bytes :=
  (outbox.drainsOf chosen).flatMap fun drain => drain.backlog.map Outgoing.data

/-- The datagrams that have been handed over and are still being sent. -/
def inProgress (outbox : Outbox) (chosen : Choice) : List Bytes :=
  (outbox.drainsOf chosen).filterMap fun drain => drain.sending.map Outgoing.data

/-- Whenever a push makes a queue with a chosen drain, no other drain that is chosen is left. -/
def Undisturbed (chosen : Choice) : Outbox → List Operation → Prop
  | _, [] => True
  | outbox, operation :: rest =>
    (∀ address outgoing, operation = .push address outgoing → outbox.queue? address = none →
      chosen outbox.nextDrain address → outbox.drainsOf chosen = []) ∧
    Undisturbed chosen (outbox.perform operation) rest

section

variable {outbox : Outbox} {chosen : Choice}

theorem Keyed.perform (keyed : outbox.Keyed) (operation : Operation) :
    (outbox.perform operation).Keyed := by
  cases operation with
  | push address outgoing => exact keyed.push address outgoing
  | retain keep => exact keyed.retain keep
  | disconnect address => exact keyed.retain fun other => other ≠ address
  | shutdown => exact keyed.shutdown
  | take drain => exact keyed.take drain
  | complete drain result => exact keyed.complete drain result

theorem drainsOf_modify (outbox : Outbox) (id : DrainId) (change : Drain → Drain)
    (keeps : ∀ drain, (change drain).id = drain.id)
    (stays : ∀ drain, (change drain).address = drain.address) (chosen : Choice) :
    (outbox.modify id change).drainsOf chosen =
      (outbox.drainsOf chosen).map fun drain => if drain.id = id then change drain else drain := by
  have same : (fun drain : Drain => chosen (if drain.id = id then change drain else drain).id
      (if drain.id = id then change drain else drain).address) =
        fun drain => chosen drain.id drain.address := by
    funext drain
    split
    · rw [keeps, stays]
    · rfl
  simp only [drainsOf, Outbox.modify, List.filter_map, Function.comp_def, same]

theorem drainsOf_modify_of_other (keyed : outbox.Keyed) {drain : Drain}
    (present : drain ∈ outbox.drains) (other : ¬ chosen drain.id drain.address)
    (change : Drain → Drain) (keeps : ∀ drain, (change drain).id = drain.id)
    (stays : ∀ drain, (change drain).address = drain.address) :
    (outbox.modify drain.id change).drainsOf chosen = outbox.drainsOf chosen := by
  rw [drainsOf_modify outbox drain.id change keeps stays, List.map_congr_left (g := id),
    List.map_id]
  intro known among
  obtain ⟨listed, picked⟩ := List.mem_filter.mp among
  apply if_neg
  intro same
  obtain rfl := List.inj_on_of_nodup_map keyed.unique listed present same
  exact other picked

theorem drainsOf_of_mem (alone : (outbox.drainsOf chosen).length ≤ 1) {drain : Drain}
    (present : drain ∈ outbox.drains) (picked : chosen drain.id drain.address) :
    outbox.drainsOf chosen = [drain] := by
  have among : drain ∈ outbox.drainsOf chosen := List.mem_filter.mpr ⟨present, picked⟩
  have some : 0 < (outbox.drainsOf chosen).length := List.length_pos_of_mem among
  obtain ⟨only, single⟩ := List.length_eq_one_iff.mp (Nat.le_antisymm alone some)
  rw [single, List.mem_singleton] at among
  rw [single, among]

theorem length_drainsOf_modify (outbox : Outbox) (id : DrainId) (change : Drain → Drain)
    (keeps : ∀ drain, (change drain).id = drain.id)
    (stays : ∀ drain, (change drain).address = drain.address) (chosen : Choice) :
    ((outbox.modify id change).drainsOf chosen).length = (outbox.drainsOf chosen).length := by
  rw [drainsOf_modify outbox id change keeps stays, List.length_map]

theorem waitingIn_of_mem (alone : (outbox.drainsOf chosen).length ≤ 1) {drain : Drain}
    (present : drain ∈ outbox.drains) (picked : chosen drain.id drain.address) :
    outbox.waitingIn chosen = drain.backlog.map Outgoing.data := by
  rw [waitingIn, drainsOf_of_mem alone present picked, List.flatMap_singleton]

theorem waitingIn_modify (keyed : outbox.Keyed) (alone : (outbox.drainsOf chosen).length ≤ 1)
    {drain : Drain} (present : drain ∈ outbox.drains) (change : Drain → Drain)
    (keeps : ∀ drain, (change drain).id = drain.id)
    (stays : ∀ drain, (change drain).address = drain.address) :
    (outbox.modify drain.id change).waitingIn chosen =
      if chosen drain.id drain.address then (change drain).backlog.map Outgoing.data
      else outbox.waitingIn chosen := by
  by_cases picked : chosen drain.id drain.address
  · rw [if_pos picked, waitingIn, drainsOf_modify outbox drain.id change keeps stays,
      drainsOf_of_mem alone present picked]
    simp
  · rw [if_neg picked, waitingIn,
      drainsOf_modify_of_other keyed present picked change keeps stays, waitingIn]

theorem drainsOf_prune (outbox : Outbox) (chosen : Choice) :
    outbox.prune.drainsOf chosen =
      (outbox.drainsOf chosen).filter fun drain => !drain.isFinished := by
  simp only [drainsOf, Outbox.prune, List.filter_filter, Bool.and_comm]

theorem waitingIn_prune (outbox : Outbox) (chosen : Choice) :
    outbox.prune.waitingIn chosen = outbox.waitingIn chosen := by
  rw [waitingIn, waitingIn, drainsOf_prune]
  induction outbox.drainsOf chosen with
  | nil => rfl
  | cons drain rest ih =>
    cases finished : drain.isFinished with
    | false => simp [finished, ih]
    | true =>
      have empty : drain.backlog = [] := by simp_all [Drain.isFinished]
      simp [finished, ih, empty]

theorem length_drainsOf_prune (outbox : Outbox) (chosen : Choice) :
    (outbox.prune.drainsOf chosen).length ≤ (outbox.drainsOf chosen).length := by
  rw [drainsOf_prune]
  exact List.length_filter_le _ _

theorem retain_spares (outbox : Outbox) (keep : SocketAddress → Bool) (chosen : Choice) :
    (outbox.retain keep).waitingIn chosen = outbox.waitingIn chosen ∧
      ((outbox.retain keep).drainsOf chosen).length ≤ (outbox.drainsOf chosen).length := by
  have dropped : ({ outbox with
      drains := outbox.drains.map fun drain =>
        { drain with accepting := drain.accepting && keep drain.address } } : Outbox).drainsOf
          chosen = (outbox.drainsOf chosen).map fun drain =>
            { drain with accepting := drain.accepting && keep drain.address } := by
    simp only [drainsOf, List.filter_map]
    rfl
  unfold retain
  constructor
  · rw [waitingIn_prune, waitingIn, dropped, List.flatMap_map, waitingIn]
  · refine (length_drainsOf_prune _ _).trans ?_
    rw [dropped, List.length_map]

/-- What waits loses what is handed over at its head, and gains what is queued at its end. -/
structure Advances (chosen : Choice) (outbox : Outbox) (operation : Operation) : Prop where
  order : newlyHanded chosen outbox operation ++ (outbox.perform operation).waitingIn chosen =
    outbox.waitingIn chosen ++ newlyQueued chosen outbox operation
  alone : ((outbox.perform operation).drainsOf chosen).length ≤ 1

section

variable (keyed : outbox.Keyed) (alone : (outbox.drainsOf chosen).length ≤ 1)
include keyed alone

theorem push_advances (address : SocketAddress) (outgoing : Outgoing)
    (undisturbed : outbox.queue? address = none → chosen outbox.nextDrain address →
      outbox.drainsOf chosen = []) :
    Advances chosen outbox (.push address outgoing) := by
  cases closed : outbox.closed with
  | true =>
    constructor <;> simp only [Outbox.perform, push_of_closed closed]
    · simp [newlyHanded, newlyQueued, closed]
    · exact alone
  | false =>
    cases queue : outbox.queue? address with
    | some drain =>
      obtain ⟨present, rfl⟩ := queue?_mem queue
      let change (drain : Drain) : Drain := { drain with backlog := drain.backlog ++ [outgoing] }
      have after :
          outbox.perform (.push drain.address outgoing) = outbox.modify drain.id change := by
        simp [Outbox.perform, Outbox.push, closed, queue, change]
      constructor
      · rw [after, waitingIn_modify keyed alone present change (by intro drain; rfl)
          (by intro drain; rfl)]
        by_cases picked : chosen drain.id drain.address
        · simp [newlyHanded, newlyQueued, closed, receiver, queue, picked, change,
            waitingIn_of_mem alone present picked]
        · simp [newlyHanded, newlyQueued, receiver, queue, picked]
      · rwa [after, length_drainsOf_modify outbox drain.id change (by intro drain; rfl)
          (by intro drain; rfl)]
    | none =>
      -- The queue is made anew, which the hypothesis allows only if no chosen drain is left.
      have after : (outbox.perform (.push address outgoing)).drainsOf chosen =
          outbox.drainsOf chosen ++
            if chosen outbox.nextDrain address then
              [⟨outbox.nextDrain, address, true, [outgoing], none⟩] else [] := by
        simp [Outbox.perform, Outbox.push, closed, queue, drainsOf, List.filter_cons]
      by_cases picked : chosen outbox.nextDrain address
      · rw [undisturbed queue picked, if_pos picked] at after
        constructor
        · rw [waitingIn, after, waitingIn, undisturbed queue picked]
          simp [newlyHanded, newlyQueued, closed, receiver, queue, picked]
        · rw [after]
          exact Nat.le_refl 1
      · rw [if_neg picked, List.append_nil] at after
        constructor
        · rw [waitingIn, after, waitingIn]
          simp [newlyHanded, newlyQueued, receiver, queue, picked]
        · rwa [after]

theorem take_advances (id : DrainId) : Advances chosen outbox (.take id) := by
  cases taken : (outbox.take id).2 with
  | none =>
    constructor <;> simp only [Outbox.perform, take_of_none taken]
    · simp [newlyHanded, newlyQueued, taken]
    · exact alone
  | some item =>
    obtain ⟨drain, outgoing, rest, found, -, backlog, rfl, after⟩ := take_eq_some taken
    have present := List.mem_of_find?_eq_some found
    obtain rfl : drain.id = id := by simpa using List.find?_some found
    let change (drain : Drain) : Drain := { drain with backlog := rest, sending := some outgoing }
    constructor
    · rw [Outbox.perform, after, waitingIn_modify keyed alone present change (by intro drain; rfl)
        (by intro drain; rfl)]
      by_cases picked : chosen drain.id drain.address
      · simp [newlyHanded, newlyQueued, taken, picked, change, backlog,
          waitingIn_of_mem alone present picked]
      · simp [newlyHanded, newlyQueued, taken, picked]
    · rwa [Outbox.perform, after,
        length_drainsOf_modify outbox drain.id change (by intro drain; rfl)
        (by intro drain; rfl)]

omit keyed in
theorem complete_advances (id : DrainId) (result : Except NetworkFault Unit) :
    Advances chosen outbox (.complete id result) := by
  cases found : outbox.drain? id with
  | none =>
    have after : (outbox.complete id result).1 = outbox := by simp [Outbox.complete, found]
    constructor <;> simp only [Outbox.perform, after]
    · simp [newlyHanded, newlyQueued]
    · exact alone
  | some drain =>
    have after : (outbox.complete id result).1 =
        (outbox.modify id fun drain => { drain with sending := none }).prune := by
      simp [Outbox.complete, found]
    have becomes := drainsOf_modify outbox id (fun drain => { drain with sending := none })
      (by intro drain; rfl) (by intro drain; rfl) chosen
    constructor
    · rw [Outbox.perform, after, waitingIn_prune, waitingIn, becomes, List.flatMap_map]
      simp only [newlyHanded, newlyQueued, List.nil_append, List.append_nil, waitingIn]
      congr 1
      funext drain
      split <;> rfl
    · rw [Outbox.perform, after]
      refine (length_drainsOf_prune _ _).trans ?_
      rwa [becomes, List.length_map]

theorem perform_advances (operation : Operation)
    (undisturbed : ∀ address outgoing, operation = .push address outgoing →
      outbox.queue? address = none → chosen outbox.nextDrain address →
        outbox.drainsOf chosen = []) :
    Advances chosen outbox operation := by
  have dropped (keep : SocketAddress → Bool) :
      (outbox.retain keep).waitingIn chosen = outbox.waitingIn chosen ++ [] ∧
        ((outbox.retain keep).drainsOf chosen).length ≤ 1 := by
    obtain ⟨order, fewer⟩ := outbox.retain_spares keep chosen
    exact ⟨by rw [order, List.append_nil], fewer.trans alone⟩
  cases operation with
  | push address outgoing =>
    exact push_advances keyed alone address outgoing (undisturbed address outgoing rfl)
  | retain keep => exact ⟨(dropped keep).1, (dropped keep).2⟩
  | disconnect address => exact ⟨(dropped _).1, (dropped _).2⟩
  | shutdown => exact ⟨(dropped fun _ => false).1, (dropped fun _ => false).2⟩
  | take drain => exact take_advances keyed alone drain
  | complete drain result => exact complete_advances alone drain result

theorem performAll_advances (operations : List Operation)
    (undisturbed : Undisturbed chosen outbox operations) :
    along (newlyHanded chosen) outbox operations ++
        (outbox.performAll operations).waitingIn chosen =
      outbox.waitingIn chosen ++ along (newlyQueued chosen) outbox operations ∧
    ((outbox.performAll operations).drainsOf chosen).length ≤ 1 := by
  induction operations generalizing outbox with
  | nil => exact ⟨by simp [along, performAll], alone⟩
  | cons operation rest ih =>
    obtain ⟨now, later⟩ := undisturbed
    have step := perform_advances keyed alone operation now
    obtain ⟨order, single⟩ := ih (keyed.perform operation) step.alone later
    refine ⟨?_, single⟩
    calc
      (newlyHanded chosen outbox operation ++
            along (newlyHanded chosen) (outbox.perform operation) rest) ++
          ((outbox.perform operation).performAll rest).waitingIn chosen
        = newlyHanded chosen outbox operation ++ ((outbox.perform operation).waitingIn chosen ++
            along (newlyQueued chosen) (outbox.perform operation) rest) := by
          rw [List.append_assoc, order]
      _ = outbox.waitingIn chosen ++ (newlyQueued chosen outbox operation ++
            along (newlyQueued chosen) (outbox.perform operation) rest) := by
          rw [← List.append_assoc, step.order, List.append_assoc]

end

theorem Keyed.undisturbed_only (keyed : outbox.Keyed) (id : DrainId) (operations : List Operation) :
    Undisturbed (.only id) outbox operations := by
  induction operations generalizing outbox with
  | nil => trivial
  | cons operation rest ih =>
    refine ⟨?_, ih (keyed.perform operation)⟩
    rintro address outgoing rfl - fresh
    apply List.filter_eq_nil_iff.mpr
    intro drain present same
    have new : outbox.nextDrain = id := of_decide_eq_true fresh
    have old : drain.id = id := of_decide_eq_true same
    exact Nat.ne_of_lt (keyed.numbered drain present) (old.trans new.symm)

end

/--
Every drain hands over one datagram at a time, in the order in which they were queued. So do all
drains of an address together, if no queue is made for the address while an older one of it is still
drained.
-/
theorem run_hands_in_order (operations : List Operation) :
    (∀ id, handedBy (.only id) operations ++ (run operations).waitingIn (.only id) =
        queuedIn (.only id) operations ∧
      ((run operations).inProgress (.only id)).length ≤ 1) ∧
    ∀ address, Undisturbed (.every address) empty operations →
      handedBy (.every address) operations ++ (run operations).waitingIn (.every address) =
          queuedIn (.every address) operations ∧
        ((run operations).inProgress (.every address)).length ≤ 1 := by
  have ordered (chosen : Choice) (undisturbed : Undisturbed chosen empty operations) :
      handedBy chosen operations ++ (run operations).waitingIn chosen =
          queuedIn chosen operations ∧
        ((run operations).inProgress chosen).length ≤ 1 := by
    obtain ⟨order, alone⟩ := performAll_advances keyed_empty (Nat.zero_le 1) operations undisturbed
    exact ⟨order, (List.length_filterMap_le _ _).trans alone⟩
  exact ⟨fun id => ordered (.only id) (keyed_empty.undisturbed_only id operations),
    fun address => ordered (.every address)⟩

/--
A queue is dropped while it holds datagrams, and made anew before they are sent. Then two drains
send to the address at once, and the second datagram that was queued is handed over last.
-/
theorem remade_queue_overtakes :
    let address : SocketAddress := .unspecified
    let operations : List Operation :=
      [.push address ⟨[1], none⟩, .push address ⟨[2], none⟩, .take 0, .disconnect address,
        .push address ⟨[3], none⟩, .take 1]
    queuedIn (.every address) operations = [[1], [2], [3]] ∧
      handedBy (.every address) operations = [[1], [3]] ∧
      (run operations).waitingIn (.every address) = [[2]] ∧
      (run operations).inProgress (.every address) = [[1], [3]] := by
  decide +kernel

/-- A dropped queue that is drained before the next push disturbs nothing. -/
theorem drained_queue_is_remade_in_order :
    let address : SocketAddress := .unspecified
    let operations : List Operation :=
      [.push address ⟨[1], none⟩, .disconnect address, .take 0, .complete 0 (.ok ()),
        .push address ⟨[2], none⟩, .take 1]
    Undisturbed (.every address) empty operations ∧
      handedBy (.every address) operations ++ (run operations).waitingIn (.every address) =
        queuedIn (.every address) operations ∧
      handedBy (.every address) operations = [[1], [2]] := by
  intro address operations
  have undisturbed : Undisturbed (.every address) empty operations := by
    refine ⟨?_, ?_, ?_, ?_, ?_, ?_, trivial⟩ <;> rintro target outgoing ⟨⟩
    · exact fun _ _ => rfl
    · intro _ _
      decide +kernel
  exact ⟨undisturbed, ((run_hands_in_order operations).2 address undisturbed).1, by decide +kernel⟩

end Outbox

end ClusterCoordination
