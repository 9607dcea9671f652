import Mathlib.Data.List.Induction
import ClusterCoordination.Proofs.Network.Draining
/-!
# What becomes of a datagram

A datagram that is pushed is refused or enters the queue of a drain. What has entered is passed to
the socket, and comes back from it with a result. Each drain does this in the order in which it was
queued, and nothing else happens to a datagram: dropping a queue is no event in its life.
-/

set_option autoImplicit false

namespace ClusterCoordination

deriving instance DecidableEq for Acknowledgement

structure Consignment where
  drain : DrainId
  address : SocketAddress
  outgoing : Outgoing
deriving DecidableEq

def Consignment.pushed (consignment : Consignment) : SocketAddress × Outgoing :=
  (consignment.address, consignment.outgoing)

namespace Drain

def waits (drain : Drain) : List Consignment :=
  drain.backlog.map fun outgoing => ⟨drain.id, drain.address, outgoing⟩

def underway (drain : Drain) : List Consignment :=
  drain.sending.toList.map fun outgoing => ⟨drain.id, drain.address, outgoing⟩

theorem nothing_of_finished {drain : Drain} (finished : drain.isFinished = true) :
    drain.waits = [] ∧ drain.underway = [] := by
  have empty : drain.backlog = [] ∧ drain.sending = none := by simp_all [isFinished]
  simp [waits, underway, empty]

end Drain

namespace Outbox

inductive Event where
  | refused (address : SocketAddress) (outgoing : Outgoing)
  | entered (consignment : Consignment)
  | passed (consignment : Consignment)
  | returned (consignment : Consignment) (result : Except NetworkFault Unit)

namespace Event

def refused? : Event → Option (SocketAddress × Outgoing)
  | .refused address outgoing => some (address, outgoing)
  | .entered _ | .passed _ | .returned .. => none

def entered? : Event → Option Consignment
  | .entered consignment => some consignment
  | .refused .. | .passed _ | .returned .. => none

def passed? : Event → Option Consignment
  | .passed consignment => some consignment
  | .refused .. | .entered _ | .returned .. => none

def returned? : Event → Option (Consignment × Except NetworkFault Unit)
  | .returned consignment result => some (consignment, result)
  | .refused .. | .entered _ | .passed _ => none

def acknowledgement? : Event → Option Acknowledgement
  | .refused _ outgoing => outgoing.receipt.map fun receipt => ⟨receipt, .error .queueClosed⟩
  | .returned consignment result =>
    consignment.outgoing.receipt.map fun receipt => ⟨receipt, result⟩
  | .entered _ | .passed _ => none

def asked? : Event → Option (SocketAddress × Bytes)
  | .passed consignment => some (consignment.address, consignment.outgoing.data)
  | .refused .. | .entered _ | .returned .. => none

end Event

def entries (history : List Event) (id : DrainId) : List Consignment :=
  (history.filterMap Event.entered?).filter fun consignment => consignment.drain = id

def passages (history : List Event) (id : DrainId) : List Consignment :=
  (history.filterMap Event.passed?).filter fun consignment => consignment.drain = id

def returns (history : List Event) (id : DrainId) : List (Consignment × Except NetworkFault Unit) :=
  (history.filterMap Event.returned?).filter fun item => item.1.drain = id

@[simp] theorem sees_nothing (id : DrainId) :
    entries [] id = [] ∧ passages [] id = [] ∧ returns [] id = [] := ⟨rfl, rfl, rfl⟩

@[simp] theorem sees_entered (consignment : Consignment) (id : DrainId) :
    entries [.entered consignment] id = (if consignment.drain = id then [consignment] else []) ∧
      passages [.entered consignment] id = [] ∧ returns [.entered consignment] id = [] := by
  simp [entries, passages, returns, Event.entered?, Event.passed?, Event.returned?,
    List.filter_cons]

@[simp] theorem sees_passed (consignment : Consignment) (id : DrainId) :
    entries [.passed consignment] id = [] ∧
      passages [.passed consignment] id = (if consignment.drain = id then [consignment] else []) ∧
      returns [.passed consignment] id = [] := by
  simp [entries, passages, returns, Event.entered?, Event.passed?, Event.returned?,
    List.filter_cons]

@[simp] theorem sees_returned (consignment : Consignment) (result : Except NetworkFault Unit)
    (id : DrainId) :
    entries [.returned consignment result] id = [] ∧
      passages [.returned consignment result] id = [] ∧
      returns [.returned consignment result] id =
        if consignment.drain = id then [(consignment, result)] else [] := by
  simp [entries, passages, returns, Event.entered?, Event.passed?, Event.returned?,
    List.filter_cons]

section

variable (earlier later : List Event) (id : DrainId)

theorem entries_append :
    entries (earlier ++ later) id = entries earlier id ++ entries later id := by
  simp [entries]

theorem passages_append :
    passages (earlier ++ later) id = passages earlier id ++ passages later id := by
  simp [passages]

theorem returns_append :
    returns (earlier ++ later) id = returns earlier id ++ returns later id := by
  simp [returns]

end

def heldAt (part : Drain → List Consignment) (outbox : Outbox) (id : DrainId) : List Consignment :=
  (outbox.drain? id).elim [] part

def waitingAt : Outbox → DrainId → List Consignment := heldAt Drain.waits

def underwayAt : Outbox → DrainId → List Consignment := heldAt Drain.underway

def happens (outbox : Outbox) : Operation → List Event
  | .push address outgoing =>
    if outbox.closed then [.refused address outgoing]
    else [.entered ⟨outbox.receiver address, address, outgoing⟩]
  | .take id =>
    match outbox.underwayAt id, outbox.waitingAt id with
    | [], next :: _ => [.passed next]
    | _, _ => []
  | .complete id result =>
    (outbox.underwayAt id).map fun consignment => .returned consignment result
  | .retain _ | .disconnect _ | .shutdown => []

def traced {Item : Type} (shows : Outbox → Operation → List Item) :
    Outbox → List Operation → List Item
  | _, [] => []
  | outbox, operation :: rest =>
    shows outbox operation ++ traced shows (outbox.perform operation) rest

def history (operations : List Operation) : List Event := traced happens empty operations

def asksSocket (outbox : Outbox) : Operation → List (SocketAddress × Bytes)
  | .take id => (outbox.take id).2.toList
  | _ => []

/-- What senders are told: by the outbox that refuses, or by the drain that has sent. -/
def tellsSender (outbox : Outbox) : Operation → List Acknowledgement
  | .push address outgoing =>
    match (outbox.push address outgoing).2, outgoing.receipt with
    | .refused, some receipt => [⟨receipt, .error .queueClosed⟩]
    | _, _ => []
  | .complete id result => (outbox.complete id result).2.toList
  | _ => []

section

variable {outbox : Outbox} {id : DrainId} {part : Drain → List Consignment}

/-! ### What a drain holds -/

theorem drain?_eq_some {drain : Drain} (found : outbox.drain? id = some drain) :
    drain ∈ outbox.drains ∧ drain.id = id :=
  ⟨List.mem_of_find?_eq_some found, by simpa using List.find?_some found⟩

theorem heldAt_of_found {drain : Drain} (found : outbox.drain? id = some drain) :
    outbox.heldAt part id = part drain := by
  rw [heldAt, found, Option.elim_some]

theorem drain?_of_fresh (keyed : outbox.Keyed) : outbox.drain? outbox.nextDrain = none := by
  apply List.find?_eq_none.mpr
  intro drain present
  simpa using Nat.ne_of_lt (keyed.numbered drain present)

theorem heldAt_of_fresh (keyed : outbox.Keyed) : outbox.heldAt part outbox.nextDrain = [] := by
  rw [heldAt, drain?_of_fresh keyed, Option.elim_none]

theorem heldAt_map {change : Drain → Drain} (keeps : ∀ drain, (change drain).id = drain.id)
    (outbox : Outbox) (id : DrainId) :
    heldAt part { outbox with drains := outbox.drains.map change } id =
      outbox.heldAt (part ∘ change) id := by
  simp only [heldAt, drain?, List.find?_map, Function.comp_def, keeps, Option.elim_map]

theorem heldAt_modify {change : Drain → Drain} {drain : Drain}
    (found : outbox.drain? id = some drain) (keeps : ∀ drain, (change drain).id = drain.id)
    (other : DrainId) :
    (outbox.modify id change).heldAt part other =
      if other = id then part (change drain) else outbox.heldAt part other := by
  have changed :
      ∀ known : Drain, (if known.id = id then change known else known).id = known.id := by
    intro known
    split
    · exact keeps known
    · rfl
  rw [modify, heldAt_map changed]
  by_cases same : other = id
  · subst same
    rw [if_pos rfl, heldAt_of_found found]
    simp [(drain?_eq_some found).2]
  · rw [if_neg same, heldAt, heldAt]
    cases known : outbox.drain? other with
    | none => rfl
    | some drain => simp [(drain?_eq_some known).2, same]

theorem heldAt_prune (unique : (outbox.drains.map Drain.id).Nodup)
    (nothing : ∀ drain : Drain, drain.isFinished = true → part drain = []) (id : DrainId) :
    outbox.prune.heldAt part id = outbox.heldAt part id := by
  have distinct : (outbox.prune.drains.map Drain.id).Nodup :=
    unique.sublist (List.filter_sublist.map _)
  cases after : outbox.prune.drain? id with
  | some drain =>
    obtain ⟨present, rfl⟩ := drain?_eq_some after
    have before := drain?_of_nodup unique (List.mem_of_mem_filter present)
    rw [heldAt_of_found after, heldAt_of_found before]
  | none =>
    rw [heldAt, heldAt, after, Option.elim_none]
    cases before : outbox.drain? id with
    | none => rfl
    | some drain =>
      obtain ⟨present, rfl⟩ := drain?_eq_some before
      symm
      apply nothing
      by_contra unfinished
      have kept : drain ∈ outbox.prune.drains :=
        List.mem_filter.mpr ⟨present, by simpa using unfinished⟩
      rw [drain?_of_nodup distinct kept] at after
      simp at after

theorem heldAt_retain (keyed : outbox.Keyed) (keep : SocketAddress → Bool)
    (nothing : ∀ drain : Drain, drain.isFinished = true → part drain = [])
    (ignores : ∀ drain accepting, part { drain with accepting := accepting } = part drain)
    (id : DrainId) : (outbox.retain keep).heldAt part id = outbox.heldAt part id := by
  let drop (drain : Drain) : Drain :=
    { drain with accepting := drain.accepting && keep drain.address }
  have unique : ((outbox.drains.map drop).map Drain.id).Nodup := by
    rw [List.map_map]
    exact keyed.unique
  have dropped : heldAt part { outbox with drains := outbox.drains.map drop } id =
      outbox.heldAt (part ∘ drop) id := heldAt_map (by intro drain; rfl) outbox id
  have same : part ∘ drop = part := funext fun drain => ignores drain _
  rw [retain, heldAt_prune unique nothing, dropped, same]

theorem heldAt_new (keyed : outbox.Keyed) (address : SocketAddress) (outgoing : Outgoing)
    (id : DrainId) :
    heldAt part { outbox with
        nextDrain := outbox.nextDrain + 1
        drains := outbox.drains ++ [⟨outbox.nextDrain, address, true, [outgoing], none⟩] } id =
      if id = outbox.nextDrain then part ⟨outbox.nextDrain, address, true, [outgoing], none⟩
      else outbox.heldAt part id := by
  have unknown : outbox.drain? outbox.nextDrain = none := drain?_of_fresh keyed
  simp only [heldAt, drain?, List.find?_append, List.find?_cons, List.find?_nil] at unknown ⊢
  by_cases same : id = outbox.nextDrain
  · subst same
    simp [unknown]
  · simp [Ne.symm same, same]

/-! ### One operation -/

structure Conserves (outbox : Outbox) (operation : Operation) : Prop where
  waiting : ∀ id, outbox.waitingAt id ++ entries (outbox.happens operation) id =
    passages (outbox.happens operation) id ++ (outbox.perform operation).waitingAt id
  underway : ∀ id, outbox.underwayAt id ++ passages (outbox.happens operation) id =
    (returns (outbox.happens operation) id).map Prod.fst ++ (outbox.perform operation).underwayAt id

theorem conserves_of_same {operation : Operation}
    (quiet : ∀ id, entries (outbox.happens operation) id = [] ∧
      passages (outbox.happens operation) id = [] ∧ returns (outbox.happens operation) id = [])
    (same : ∀ id, (outbox.perform operation).waitingAt id = outbox.waitingAt id ∧
      (outbox.perform operation).underwayAt id = outbox.underwayAt id) :
    outbox.Conserves operation := by
  constructor <;> intro id <;> obtain ⟨nothingEnters, nothingPasses, nothingReturns⟩ := quiet id
  · rw [nothingEnters, nothingPasses, (same id).1, List.append_nil, List.nil_append]
  · rw [nothingPasses, nothingReturns, (same id).2, List.append_nil, List.map_nil, List.nil_append]

theorem conserves_of_idle {operation : Operation} (quiet : outbox.happens operation = [])
    (same : outbox.perform operation = outbox) : outbox.Conserves operation :=
  conserves_of_same (fun _ => quiet ▸ ⟨rfl, rfl, rfl⟩) fun _ => same.symm ▸ ⟨rfl, rfl⟩

theorem conserves_retain (keyed : outbox.Keyed) {operation : Operation}
    (keep : SocketAddress → Bool) (quiet : outbox.happens operation = [])
    (drops : (outbox.perform operation).drains = (outbox.retain keep).drains) :
    outbox.Conserves operation := by
  have held (part : Drain → List Consignment) (id : DrainId) :
      (outbox.perform operation).heldAt part id = (outbox.retain keep).heldAt part id := by
    rw [heldAt, heldAt, drain?, drain?, drops]
  apply conserves_of_same
  · intro id
    rw [quiet]
    exact ⟨rfl, rfl, rfl⟩
  · intro id
    rw [waitingAt, underwayAt, held, held]
    exact ⟨heldAt_retain keyed keep (fun _ finished => (Drain.nothing_of_finished finished).1)
        (fun _ _ => rfl) id,
      heldAt_retain keyed keep (fun _ finished => (Drain.nothing_of_finished finished).2)
        (fun _ _ => rfl) id⟩

theorem heldAt_push (keyed : outbox.Keyed) (opened : outbox.closed = false)
    (address : SocketAddress) (outgoing : Outgoing) (id : DrainId) :
    (outbox.push address outgoing).1.waitingAt id = outbox.waitingAt id ++
        (if outbox.receiver address = id then [⟨outbox.receiver address, address, outgoing⟩]
          else []) ∧
      (outbox.push address outgoing).1.underwayAt id = outbox.underwayAt id := by
  cases queue : outbox.queue? address with
  | some drain =>
    obtain ⟨present, rfl⟩ := queue?_mem queue
    have found := drain?_of_nodup keyed.unique present
    have receiver : outbox.receiver drain.address = drain.id := by rw [Outbox.receiver, queue]
    have after : (outbox.push drain.address outgoing).1 = outbox.modify drain.id
        fun drain => { drain with backlog := drain.backlog ++ [outgoing] } := by
      simp [push, opened, queue]
    rw [after, receiver, waitingAt, underwayAt, heldAt_modify found (by intro drain; rfl),
      heldAt_modify found (by intro drain; rfl)]
    by_cases same : id = drain.id
    · subst same
      simp [heldAt_of_found found, Drain.waits, Drain.underway]
    · simp [same, Ne.symm same]
  | none =>
    have receiver : outbox.receiver address = outbox.nextDrain := by rw [Outbox.receiver, queue]
    have after : (outbox.push address outgoing).1 = { outbox with
        nextDrain := outbox.nextDrain + 1
        drains := outbox.drains ++ [⟨outbox.nextDrain, address, true, [outgoing], none⟩] } := by
      simp [push, opened, queue]
    rw [after, receiver, waitingAt, underwayAt, heldAt_new keyed, heldAt_new keyed]
    by_cases same : id = outbox.nextDrain
    · subst same
      simp [heldAt_of_fresh keyed, Drain.waits, Drain.underway]
    · simp [same, Ne.symm same]

theorem happens_push_of_closed (closed : outbox.closed = true) (address : SocketAddress)
    (outgoing : Outgoing) :
    outbox.happens (.push address outgoing) = [.refused address outgoing] := by
  rw [happens, if_pos closed]

theorem happens_push_of_opened (opened : outbox.closed = false) (address : SocketAddress)
    (outgoing : Outgoing) : outbox.happens (.push address outgoing) =
      [.entered ⟨outbox.receiver address, address, outgoing⟩] := by
  rw [happens, opened, if_neg Bool.false_ne_true]

theorem conserves_push (keyed : outbox.Keyed) (address : SocketAddress) (outgoing : Outgoing) :
    outbox.Conserves (.push address outgoing) := by
  cases closed : outbox.closed with
  | true =>
    apply conserves_of_same <;> intro id
    · rw [happens_push_of_closed closed]
      exact ⟨rfl, rfl, rfl⟩
    · rw [perform, push_of_closed closed]
      exact ⟨rfl, rfl⟩
  | false =>
    have happens := happens_push_of_opened closed address outgoing
    constructor <;> intro id <;> obtain ⟨waiting, underway⟩ :=
      heldAt_push keyed closed address outgoing id
    · simp [happens, perform, waiting]
    · simp [happens, perform, underway]

theorem happens_take {drain : Drain} (found : outbox.drain? id = some drain) :
    outbox.happens (.take id) =
      match drain.sending, drain.backlog with
      | none, outgoing :: _ => [.passed ⟨drain.id, drain.address, outgoing⟩]
      | _, _ => [] := by
  simp only [happens, underwayAt, waitingAt, heldAt_of_found found, Drain.underway, Drain.waits]
  cases drain.sending <;> cases drain.backlog <;> rfl

theorem happens_take_of_none (taken : (outbox.take id).2 = none) :
    outbox.happens (.take id) = [] := by
  cases found : outbox.drain? id with
  | none => simp [happens, underwayAt, waitingAt, heldAt, found]
  | some drain =>
    rw [happens_take found]
    simp only [take, found] at taken
    split at taken
    next => simp at taken
    next idle => simp only

theorem conserves_take (id : DrainId) : outbox.Conserves (.take id) := by
  cases taken : (outbox.take id).2 with
  | none => exact conserves_of_idle (happens_take_of_none taken) (take_of_none taken)
  | some item =>
    obtain ⟨drain, outgoing, rest, found, sending, backlog, -, after⟩ := take_eq_some taken
    obtain ⟨-, rfl⟩ := drain?_eq_some found
    have happens : outbox.happens (.take drain.id) =
        [.passed ⟨drain.id, drain.address, outgoing⟩] := by
      simp only [happens_take found, sending, backlog]
    constructor <;> intro id <;> rw [happens, perform, after]
    · rw [waitingAt, heldAt_modify found (by intro drain; rfl)]
      by_cases same : id = drain.id
      · subst same
        simp [heldAt_of_found found, Drain.waits, backlog]
      · simp [same, Ne.symm same]
    · rw [underwayAt, heldAt_modify found (by intro drain; rfl)]
      by_cases same : id = drain.id
      · subst same
        simp [heldAt_of_found found, Drain.underway, sending]
      · simp [same, Ne.symm same]

theorem conserves_complete (keyed : outbox.Keyed) (id : DrainId)
    (result : Except NetworkFault Unit) :
    outbox.Conserves (.complete id result) := by
  cases found : outbox.drain? id with
  | none =>
    apply conserves_of_idle
    · simp [happens, underwayAt, heldAt, found]
    · simp [perform, complete, found]
  | some drain =>
    obtain ⟨-, rfl⟩ := drain?_eq_some found
    let rested := outbox.modify drain.id fun drain => { drain with sending := none }
    have after : outbox.perform (.complete drain.id result) = rested.prune := by
      simp [perform, complete, found, rested]
    have unique : (rested.drains.map Drain.id).Nodup :=
      (keyed.modify drain.id (by intro drain; rfl) (by intro drain; rfl)
        (by intro drain; rfl)).unique
    have happens : outbox.happens (.complete drain.id result) =
        drain.underway.map fun consignment => .returned consignment result := by
      rw [Outbox.happens, underwayAt, heldAt_of_found found]
    -- A drain that is removed holds nothing, so removing it takes nothing away.
    constructor <;> intro id <;> rw [happens, after]
    · rw [waitingAt, heldAt_prune unique (fun _ finished => (Drain.nothing_of_finished finished).1),
        heldAt_modify found (by intro drain; rfl)]
      by_cases same : id = drain.id
      · subst same
        cases sending : drain.sending <;>
          simp [heldAt_of_found found, Drain.waits, Drain.underway, sending]
      · cases sending : drain.sending <;> simp [same, Drain.underway, sending]
    · rw [underwayAt,
        heldAt_prune unique (fun _ finished => (Drain.nothing_of_finished finished).2),
        heldAt_modify found (by intro drain; rfl)]
      by_cases same : id = drain.id
      · subst same
        cases sending : drain.sending <;>
          simp [heldAt_of_found found, Drain.underway, sending]
      · cases sending : drain.sending <;> simp [same, Ne.symm same, Drain.underway, sending]

theorem Keyed.conserves (keyed : outbox.Keyed) (operation : Operation) :
    outbox.Conserves operation := by
  cases operation with
  | push address outgoing => exact conserves_push keyed address outgoing
  | retain keep => exact conserves_retain keyed keep rfl rfl
  | disconnect address => exact conserves_retain keyed (fun other => other ≠ address) rfl rfl
  | shutdown => exact conserves_retain keyed (fun _ => false) rfl rfl
  | take drain => exact conserves_take drain
  | complete drain result => exact conserves_complete keyed drain result

theorem asksSocket_eq (outbox : Outbox) (operation : Operation) :
    outbox.asksSocket operation = (outbox.happens operation).filterMap Event.asked? := by
  cases operation with
  | push address outgoing =>
    rw [happens]
    split <;> rfl
  | retain keep => rfl
  | disconnect address => rfl
  | shutdown => rfl
  | take id =>
    rw [asksSocket]
    cases taken : (outbox.take id).2 with
    | none => rw [happens_take_of_none taken]; rfl
    | some item =>
      obtain ⟨drain, outgoing, rest, found, sending, backlog, rfl, -⟩ := take_eq_some taken
      simp only [happens_take found, sending, backlog]
      rfl
  | complete id result =>
    simp [asksSocket, happens, List.filterMap_map, Function.comp_def, Event.asked?]

theorem tellsSender_eq (outbox : Outbox) (operation : Operation) :
    outbox.tellsSender operation = (outbox.happens operation).filterMap Event.acknowledgement? := by
  cases operation with
  | push address outgoing =>
    cases closed : outbox.closed with
    | true =>
      cases receipt : outgoing.receipt <;>
        simp [tellsSender, happens, push, closed, receipt, Event.acknowledgement?]
    | false =>
      simp only [tellsSender, happens, push, closed, Bool.false_eq_true, if_false]
      cases outbox.queue? address <;> rfl
  | retain keep => rfl
  | disconnect address => rfl
  | shutdown => rfl
  | take id =>
    have silent : outbox.tellsSender (.take id) = [] := rfl
    rw [silent]
    cases taken : (outbox.take id).2 with
    | none => rw [happens_take_of_none taken]; rfl
    | some item =>
      obtain ⟨drain, outgoing, rest, found, sending, backlog, -, -⟩ := take_eq_some taken
      simp only [happens_take found, sending, backlog]
      rfl
  | complete id result =>
    cases found : outbox.drain? id with
    | none => simp [tellsSender, happens, complete, underwayAt, heldAt, found]
    | some drain =>
      rw [happens, underwayAt, heldAt_of_found found]
      cases sending : drain.sending with
      | none => simp [tellsSender, complete, found, Drain.underway, sending]
      | some outgoing =>
        cases receipt : outgoing.receipt <;>
          simp [tellsSender, complete, found, Drain.underway, sending, receipt,
            Event.acknowledgement?]

/-! ### Every run -/

theorem traced_append {Item : Type} (shows : Outbox → Operation → List Item) (outbox : Outbox)
    (earlier later : List Operation) :
    traced shows outbox (earlier ++ later) =
      traced shows outbox earlier ++ traced shows (outbox.performAll earlier) later := by
  induction earlier generalizing outbox with
  | nil => rfl
  | cons operation rest ih =>
    rw [List.cons_append, traced, traced, ih, List.append_assoc]
    rfl

theorem traced_filterMap {Item Shown : Type} {shows : Outbox → Operation → List Item}
    {reads : Outbox → Operation → List Shown} {read : Item → Option Shown}
    (same : ∀ outbox operation, reads outbox operation = (shows outbox operation).filterMap read)
    (outbox : Outbox) (operations : List Operation) :
    traced reads outbox operations = (traced shows outbox operations).filterMap read := by
  induction operations generalizing outbox with
  | nil => rfl
  | cons operation rest ih => rw [traced, traced, List.filterMap_append, same, ih]

theorem run_append (earlier later : List Operation) :
    run (earlier ++ later) = (run earlier).performAll later := List.foldl_append

theorem history_append (earlier later : List Operation) :
    history (earlier ++ later) = history earlier ++ traced happens (run earlier) later :=
  traced_append happens empty earlier later

structure Balanced (outbox : Outbox) (history : List Event) : Prop where
  keyed : outbox.Keyed
  entered : ∀ id, entries history id = passages history id ++ outbox.waitingAt id
  passed : ∀ id, passages history id = (returns history id).map Prod.fst ++ outbox.underwayAt id

theorem Balanced.perform {history : List Event} (balanced : outbox.Balanced history)
    (operation : Operation) :
    (outbox.perform operation).Balanced (history ++ outbox.happens operation) := by
  have conserves := balanced.keyed.conserves operation
  refine ⟨balanced.keyed.perform operation, fun id => ?_, fun id => ?_⟩
  · calc
      entries (history ++ outbox.happens operation) id
        = passages history id ++
            (outbox.waitingAt id ++ entries (outbox.happens operation) id) := by
          rw [entries_append, balanced.entered, List.append_assoc]
      _ = passages (history ++ outbox.happens operation) id ++
            (outbox.perform operation).waitingAt id := by
          rw [conserves.waiting, passages_append, List.append_assoc]
  · calc
      passages (history ++ outbox.happens operation) id
        = (returns history id).map Prod.fst ++
            (outbox.underwayAt id ++ passages (outbox.happens operation) id) := by
          rw [passages_append, balanced.passed, List.append_assoc]
      _ = (returns (history ++ outbox.happens operation) id).map Prod.fst ++
            (outbox.perform operation).underwayAt id := by
          rw [conserves.underway, returns_append, List.map_append, List.append_assoc]

theorem balanced_run (operations : List Operation) :
    (run operations).Balanced (history operations) := by
  induction operations using List.reverseRecOn with
  | nil => exact ⟨keyed_empty, fun _ => rfl, fun _ => rfl⟩
  | append_singleton earlier operation ih =>
    rw [run_append, history_append, traced, traced, List.append_nil]
    exact ih.perform operation

end

end Outbox

end ClusterCoordination
