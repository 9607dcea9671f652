import Mathlib.Data.Multiset.AddSub
import Mathlib.Data.List.Nodup
import Mathlib.Data.Multiset.Filter
import ClusterCoordination.Network.Outbox
/-!
# What waits to be sent

Datagrams enter an outbox by being pushed and leave it by being taken. Dropping queues loses nothing
of what they hold.
-/

set_option autoImplicit false

namespace ClusterCoordination

def Drain.waiting (drain : Drain) : List (SocketAddress × Bytes) :=
  drain.backlog.map fun outgoing => (drain.address, outgoing.data)

theorem Drain.waiting_of_finished {drain : Drain} (finished : drain.isFinished = true) :
    drain.waiting = [] := by
  have empty : drain.backlog = [] := by simp_all [isFinished]
  simp [waiting, empty]

namespace Outbox

def queued (outbox : Outbox) : Multiset (SocketAddress × Bytes) :=
  outbox.drains.flatMap Drain.waiting

structure Numbered (outbox : Outbox) : Prop where
  unique : (outbox.drains.map Drain.id).Nodup
  numbered : ∀ drain ∈ outbox.drains, drain.id < outbox.nextDrain

structure Sound (outbox : Outbox) : Prop where
  unique : (outbox.drains.map Drain.id).Nodup
  numbered : ∀ drain ∈ outbox.drains, drain.id < outbox.nextDrain
  atRest : ∀ drain ∈ outbox.drains, drain.sending = none

theorem sound_empty : empty.Sound where
  unique := List.nodup_nil
  numbered := by simp [empty]
  atRest := by simp [empty]

@[simp] theorem queued_empty : empty.queued = 0 := rfl

section

variable {outbox : Outbox}

theorem split_of_nodup (unique : (outbox.drains.map Drain.id).Nodup) {drain : Drain}
    (present : drain ∈ outbox.drains) :
    ∃ earlier later, outbox.drains = earlier ++ drain :: later ∧
      ∀ change, (outbox.modify drain.id change).drains = earlier ++ change drain :: later := by
  obtain ⟨earlier, later, split⟩ := List.append_of_mem present
  refine ⟨earlier, later, split, ?_⟩
  intro change
  rw [split, List.map_append, List.map_cons, List.nodup_middle] at unique
  have others : ∀ other ∈ earlier ++ later, other.id ≠ drain.id := by
    intro other among same
    have listed := List.mem_map_of_mem (f := Drain.id) among
    rw [List.map_append, same] at listed
    exact (List.nodup_cons.mp unique).1 listed
  have apart (drains : List Drain) (among : ∀ other ∈ drains, other ∈ earlier ++ later) :
      drains.map (fun other => if other.id = drain.id then change other else other) = drains := by
    rw [List.map_congr_left (g := id), List.map_id]
    intro other present
    exact if_neg (others other (among other present))
  simp only [modify, split, List.map_append, List.map_cons, if_true]
  rw [apart earlier (by simp +contextual), apart later (by simp +contextual)]

theorem drain?_of_nodup (unique : (outbox.drains.map Drain.id).Nodup) {drain : Drain}
    (present : drain ∈ outbox.drains) : outbox.drain? drain.id = some drain := by
  cases found : outbox.drain? drain.id with
  | none => simpa using List.find?_eq_none.mp found drain present
  | some other =>
    have named : other.id = drain.id := by simpa using List.find?_some found
    have among := List.mem_of_find?_eq_some found
    rw [List.inj_on_of_nodup_map unique among present named]

theorem Sound.isNumbered (sound : outbox.Sound) : outbox.Numbered := ⟨sound.unique, sound.numbered⟩

theorem Sound.split (sound : outbox.Sound) {drain : Drain} (present : drain ∈ outbox.drains) :
    ∃ earlier later, outbox.drains = earlier ++ drain :: later ∧
      ∀ change, (outbox.modify drain.id change).drains = earlier ++ change drain :: later :=
  split_of_nodup sound.unique present

theorem Sound.drain?_of_mem (sound : outbox.Sound) {drain : Drain}
    (present : drain ∈ outbox.drains) :
    outbox.drain? drain.id = some drain :=
  drain?_of_nodup sound.unique present

theorem Numbered.modify (fresh : outbox.Numbered) {change : Drain → Drain} (id : DrainId)
    (keeps : ∀ drain, (change drain).id = drain.id) : (outbox.modify id change).Numbered := by
  constructor
  · rw [Outbox.modify, List.map_map]
    convert fresh.unique using 2
    funext drain
    dsimp only [Function.comp]
    split
    · exact keeps drain
    · rfl
  · intro drain present
    obtain ⟨known, was, rfl⟩ := List.mem_map.mp present
    split
    · rw [keeps]
      exact fresh.numbered known was
    · exact fresh.numbered known was

theorem Sound.modify (sound : outbox.Sound) {change : Drain → Drain} (id : DrainId)
    (keeps : ∀ drain, (change drain).id = drain.id)
    (stays : ∀ drain, drain.sending = none → (change drain).sending = none) :
    (outbox.modify id change).Sound := by
  obtain ⟨unique, numbered⟩ := sound.isNumbered.modify id keeps
  refine ⟨unique, numbered, ?_⟩
  intro drain present
  obtain ⟨known, was, rfl⟩ := List.mem_map.mp present
  split
  · exact stays known (sound.atRest known was)
  · exact sound.atRest known was

theorem queued_prune (outbox : Outbox) : outbox.prune.queued = outbox.queued := by
  have kept (drains : List Drain) :
      (drains.filter fun drain => !drain.isFinished).flatMap Drain.waiting =
        drains.flatMap Drain.waiting := by
    induction drains with
    | nil => rfl
    | cons drain rest ih =>
      cases finished : drain.isFinished with
      | false => simp [finished, ih]
      | true => simp [finished, ih, Drain.waiting_of_finished finished]
  exact congrArg Multiset.ofList (kept outbox.drains)

theorem Numbered.prune (fresh : outbox.Numbered) : outbox.prune.Numbered where
  unique := fresh.unique.sublist (List.filter_sublist.map _)
  numbered := fun drain present => fresh.numbered drain (List.mem_of_mem_filter present)

theorem Sound.prune (sound : outbox.Sound) : outbox.prune.Sound where
  unique := sound.isNumbered.prune.unique
  numbered := sound.isNumbered.prune.numbered
  atRest := fun drain present => sound.atRest drain (List.mem_of_mem_filter present)

theorem queued_retain (outbox : Outbox) (keep : SocketAddress → Bool) :
    (outbox.retain keep).queued = outbox.queued := by
  unfold retain
  rw [queued_prune]
  simp only [queued, List.flatMap_map]
  rfl

theorem Numbered.retain (fresh : outbox.Numbered) (keep : SocketAddress → Bool) :
    (outbox.retain keep).Numbered := by
  have dropped : (outbox.drains.map fun drain =>
      { drain with accepting := drain.accepting && keep drain.address }).map Drain.id =
        outbox.drains.map Drain.id := by
    rw [List.map_map]
    rfl
  constructor
  · exact (dropped ▸ fresh.unique).sublist (List.filter_sublist.map _)
  · intro drain present
    obtain ⟨known, was, rfl⟩ := List.mem_map.mp (List.mem_of_mem_filter present)
    exact fresh.numbered known was

theorem Sound.retain (sound : outbox.Sound) (keep : SocketAddress → Bool) :
    (outbox.retain keep).Sound := by
  obtain ⟨unique, numbered⟩ := sound.isNumbered.retain keep
  refine ⟨unique, numbered, ?_⟩
  intro drain present
  obtain ⟨known, was, rfl⟩ := List.mem_map.mp (List.mem_of_mem_filter present)
  exact sound.atRest known was

theorem queued_shutdown (outbox : Outbox) : outbox.shutdown.queued = outbox.queued :=
  outbox.queued_retain fun _ => false

theorem Numbered.shutdown (fresh : outbox.Numbered) : outbox.shutdown.Numbered :=
  have retained := fresh.retain fun _ => false
  ⟨retained.unique, retained.numbered⟩

theorem Sound.shutdown (sound : outbox.Sound) : outbox.shutdown.Sound :=
  have retained := sound.retain fun _ => false
  ⟨retained.unique, retained.numbered, retained.atRest⟩

/-! ### Pushing -/

theorem queue?_mem {address : SocketAddress} {drain : Drain}
    (queue : outbox.queue? address = some drain) :
    drain ∈ outbox.drains ∧ drain.address = address := by
  refine ⟨List.mem_of_find?_eq_some queue, ?_⟩
  have accepts := List.find?_some queue
  simp at accepts
  exact accepts.2

theorem push_of_closed (closed : outbox.closed = true) (address : SocketAddress)
    (outgoing : Outgoing) : (outbox.push address outgoing).1 = outbox := by
  simp [push, closed]

@[simp] theorem closed_push (outbox : Outbox) (address : SocketAddress) (outgoing : Outgoing) :
    (outbox.push address outgoing).1.closed = outbox.closed := by
  unfold push
  split
  · rfl
  · split <;> rfl

theorem Numbered.queued_push (fresh : outbox.Numbered) (opened : outbox.closed = false)
    (address : SocketAddress) (outgoing : Outgoing) :
    (outbox.push address outgoing).1.queued = (address, outgoing.data) ::ₘ outbox.queued := by
  simp only [push, opened, Bool.false_eq_true, if_false]
  cases queue : outbox.queue? address with
  | some drain =>
    obtain ⟨present, rfl⟩ := queue?_mem queue
    obtain ⟨earlier, later, split, modified⟩ := split_of_nodup fresh.unique present
    simp only [queued, modified, split, Multiset.cons_coe, Multiset.coe_eq_coe]
    simp only [List.flatMap_append, List.flatMap_cons, Drain.waiting, List.map_append,
      List.map_cons, List.map_nil, List.append_assoc, List.singleton_append]
    rw [← List.append_assoc, ← List.append_assoc]
    exact List.perm_middle
  | none =>
    simp [queued, Drain.waiting]

theorem Numbered.push (fresh : outbox.Numbered) (address : SocketAddress) (outgoing : Outgoing) :
    (outbox.push address outgoing).1.Numbered := by
  cases closed : outbox.closed with
  | true => rwa [push_of_closed closed]
  | false =>
    simp only [Outbox.push, closed, Bool.false_eq_true, if_false]
    cases queue : outbox.queue? address with
    | some drain => exact fresh.modify drain.id (by intro other; rfl)
    | none =>
      constructor
      · simp only [List.map_append, List.map_cons, List.map_nil]
        refine List.nodup_append.mpr ⟨fresh.unique, List.nodup_singleton _, ?_⟩
        intro id among other new
        obtain ⟨drain, present, rfl⟩ := List.mem_map.mp among
        obtain rfl := List.mem_singleton.mp new
        exact Nat.ne_of_lt (fresh.numbered drain present)
      · intro drain present
        rcases List.mem_append.mp present with old | new
        · exact Nat.lt_succ_of_lt (fresh.numbered drain old)
        · obtain rfl := List.mem_singleton.mp new
          exact Nat.lt_succ_self _

theorem Sound.push (sound : outbox.Sound) (address : SocketAddress) (outgoing : Outgoing) :
    (outbox.push address outgoing).1.Sound := by
  obtain ⟨unique, numbered⟩ := sound.isNumbered.push address outgoing
  refine ⟨unique, numbered, ?_⟩
  cases closed : outbox.closed with
  | true => rw [push_of_closed closed]; exact sound.atRest
  | false =>
    simp only [Outbox.push, closed, Bool.false_eq_true, if_false]
    cases queue : outbox.queue? address with
    | some drain =>
      exact (sound.modify drain.id (by intro other; rfl)
        (by intro other resting; exact resting)).atRest
    | none =>
      intro drain present
      rcases List.mem_append.mp present with old | new
      · exact sound.atRest drain old
      · obtain rfl := List.mem_singleton.mp new
        rfl

/-! ### Pushing and dropping, one after the other -/

/--
What an outbox can become while only what `permits` allows is pushed, and nothing else is done.
-/
inductive Pushes (permits : SocketAddress → Bytes → Prop) (before : Outbox) : Outbox → Prop where
  | refl : Pushes permits before before
  | push {after : Outbox} (pushes : Pushes permits before after) (address : SocketAddress)
      (outgoing : Outgoing) (said : permits address outgoing.data) :
      Pushes permits before (after.push address outgoing).1

/--
What an outbox can become while nothing is taken from it, and only what `permits` allows is pushed.
-/
inductive Reaches (permits : SocketAddress → Bytes → Prop) (before : Outbox) : Outbox → Prop where
  | refl : Reaches permits before before
  | push {after : Outbox} (reached : Reaches permits before after) (address : SocketAddress)
      (outgoing : Outgoing) (said : permits address outgoing.data) :
      Reaches permits before (after.push address outgoing).1
  | retain {after : Outbox} (reached : Reaches permits before after) (keep : SocketAddress → Bool) :
      Reaches permits before (after.retain keep)

variable {permits : SocketAddress → Bytes → Prop} {before after : Outbox}

theorem Pushes.trans {last : Outbox} (first : before.Pushes permits after)
    (second : after.Pushes permits last) : before.Pushes permits last := by
  induction second with
  | refl => exact first
  | push _ address outgoing said ih => exact ih.push address outgoing said

theorem Pushes.mono {more : SocketAddress → Bytes → Prop} (pushes : before.Pushes permits after)
    (allows : ∀ address data, permits address data → more address data) :
    before.Pushes more after := by
  induction pushes with
  | refl => exact .refl
  | push _ address outgoing said ih => exact ih.push address outgoing (allows _ _ said)

theorem Pushes.reaches (pushes : before.Pushes permits after) : before.Reaches permits after := by
  induction pushes with
  | refl => exact .refl
  | push _ address outgoing said ih => exact ih.push address outgoing said

theorem Reaches.trans {last : Outbox} (first : before.Reaches permits after)
    (second : after.Reaches permits last) : before.Reaches permits last := by
  induction second with
  | refl => exact first
  | push _ address outgoing said ih => exact ih.push address outgoing said
  | retain _ keep ih => exact ih.retain keep

theorem Reaches.mono {more : SocketAddress → Bytes → Prop} (reached : before.Reaches permits after)
    (allows : ∀ address data, permits address data → more address data) :
    before.Reaches more after := by
  induction reached with
  | refl => exact .refl
  | push _ address outgoing said ih => exact ih.push address outgoing (allows _ _ said)
  | retain _ keep ih => exact ih.retain keep

theorem Reaches.sound (reached : before.Reaches permits after)
    (sound : before.Sound) : after.Sound := by
  induction reached with
  | refl => exact sound
  | push _ address outgoing _ ih => exact ih.push address outgoing
  | retain _ keep ih => exact ih.retain keep

theorem Reaches.numbered (reached : before.Reaches permits after) (fresh : before.Numbered) :
    after.Numbered := by
  induction reached with
  | refl => exact fresh
  | push _ address outgoing _ ih => exact ih.push address outgoing
  | retain _ keep ih => exact ih.retain keep

theorem Reaches.closed (reached : before.Reaches permits after) : after.closed = before.closed := by
  induction reached with
  | refl => rfl
  | push _ address outgoing _ ih => rw [closed_push, ih]
  | retain _ keep ih => exact ih

theorem Reaches.queued (reached : before.Reaches permits after) (fresh : before.Numbered) :
    ∃ added, after.queued = before.queued + added ∧ (∀ item ∈ added, permits item.1 item.2) ∧
      (before.closed = true → added = 0) := by
  induction reached with
  | refl => exact ⟨0, by simp, by simp, by simp⟩
  | @push after reached address outgoing said ih =>
    obtain ⟨added, total, allowed, refused⟩ := ih
    cases closed : after.closed with
    | true => exact ⟨added, by rw [push_of_closed closed, total], allowed, refused⟩
    | false =>
      refine ⟨(address, outgoing.data) ::ₘ added, ?_, ?_, ?_⟩
      · rw [(reached.numbered fresh).queued_push closed, total, Multiset.add_cons]
      · simpa using ⟨said, fun _ _ => allowed _⟩
      · intro shut
        simp [← reached.closed, closed] at shut
  | retain _ keep ih =>
    obtain ⟨added, total, allowed, refused⟩ := ih
    exact ⟨added, by rw [queued_retain, total], allowed, refused⟩

end

/-! ### Sending -/

def sent (outbox : Outbox) (drain : DrainId) (result : Except NetworkFault Unit) :
    Outbox × Option Acknowledgement :=
  (outbox.take drain).1.complete drain result

section

variable {outbox : Outbox} {id : DrainId} {address : SocketAddress} {data : Bytes}

theorem modify_modify (outbox : Outbox) (id : DrainId) {first second : Drain → Drain}
    (keeps : ∀ drain, (first drain).id = drain.id) :
    (outbox.modify id first).modify id second = outbox.modify id (second ∘ first) := by
  simp only [modify, List.map_map]
  congr 1
  apply List.map_congr_left
  intro drain _
  by_cases same : drain.id = id
  · simp [same, keeps]
  · simp [same]

theorem take_eq_some {item : SocketAddress × Bytes} (taken : (outbox.take id).2 = some item) :
    ∃ drain outgoing rest, outbox.drain? id = some drain ∧ drain.sending = none ∧
      drain.backlog = outgoing :: rest ∧ item = (drain.address, outgoing.data) ∧
      (outbox.take id).1 =
        outbox.modify id fun drain => { drain with backlog := rest, sending := some outgoing } := by
  unfold take at taken ⊢
  cases found : outbox.drain? id with
  | none => simp [found] at taken
  | some drain =>
    simp only [found] at taken ⊢
    split at taken
    next outgoing rest idle backlog =>
      simp only [Option.some.injEq] at taken
      exact ⟨drain, outgoing, rest, rfl, idle, backlog, taken.symm, rfl⟩
    next => simp at taken

theorem drain?_modify {drain : Drain} {change : Drain → Drain}
    (keeps : ∀ drain, (change drain).id = drain.id) (found : outbox.drain? id = some drain) :
    (outbox.modify id change).drain? id = some (change drain) := by
  have named : drain.id = id := by simpa using List.find?_some found
  have same :
      (fun other : Drain => decide ((if other.id = id then change other else other).id = id)) =
      fun other => decide (other.id = id) := by
    funext other
    split
    · rw [keeps]
    · rfl
  simp only [drain?, modify, List.find?_map, Function.comp_def, same] at found ⊢
  simp [found, named]

theorem queued_modify (outbox : Outbox) (id : DrainId) {change : Drain → Drain}
    (keeps : ∀ drain, (change drain).waiting = drain.waiting) :
    (outbox.modify id change).queued = outbox.queued := by
  have same : (fun drain : Drain => (if drain.id = id then change drain else drain).waiting) =
      Drain.waiting := by
    funext drain
    split
    · exact keeps drain
    · rfl
  simp only [queued, modify, List.flatMap_map, same]

theorem queued_complete (outbox : Outbox) (id : DrainId) (result : Except NetworkFault Unit) :
    (outbox.complete id result).1.queued = outbox.queued := by
  unfold complete
  split
  · rfl
  · exact (queued_prune _).trans (outbox.queued_modify id (by intro drain; rfl))

theorem Numbered.queued_take {item : SocketAddress × Bytes} (fresh : outbox.Numbered)
    (taken : (outbox.take id).2 = some item) :
    outbox.queued = item ::ₘ (outbox.take id).1.queued := by
  obtain ⟨drain, outgoing, rest, found, -, backlog, rfl, changed⟩ := take_eq_some taken
  obtain rfl : drain.id = id := by simpa using List.find?_some found
  obtain ⟨earlier, later, split, modified⟩ :=
    split_of_nodup fresh.unique (List.mem_of_find?_eq_some found)
  rw [changed]
  simp only [queued, modified, split, Multiset.cons_coe, Multiset.coe_eq_coe]
  simp [Drain.waiting, backlog, List.perm_middle]

theorem Numbered.take (fresh : outbox.Numbered) (id : DrainId) : (outbox.take id).1.Numbered := by
  unfold Outbox.take
  split
  · exact fresh
  · split
    · exact fresh.modify id (by intro drain; rfl)
    · exact fresh

theorem Numbered.complete (fresh : outbox.Numbered) (id : DrainId)
    (result : Except NetworkFault Unit) : (outbox.complete id result).1.Numbered := by
  unfold Outbox.complete
  split
  · exact fresh
  · exact (fresh.modify id (by intro drain; rfl)).prune

section

variable {item : SocketAddress × Bytes} (taken : (outbox.take id).2 = some item)
  (result : Except NetworkFault Unit)
include taken

theorem sent_of_take :
    ∃ drain outgoing rest, drain ∈ outbox.drains ∧ drain.id = id ∧
      drain.backlog = outgoing :: rest ∧ item = (drain.address, outgoing.data) ∧
      (outbox.sent id result).1 =
        (outbox.modify id fun drain => { drain with backlog := rest, sending := none }).prune := by
  obtain ⟨drain, outgoing, rest, found, -, backlog, item, after⟩ := take_eq_some taken
  refine ⟨drain, outgoing, rest, List.mem_of_find?_eq_some found,
    by simpa using List.find?_some found, backlog, item, ?_⟩
  rw [sent, after, complete, drain?_modify (by intro drain; rfl) found]
  simp only
  rw [modify_modify outbox id (by intro drain; rfl)]
  rfl

theorem Sound.sent (sound : outbox.Sound) : (outbox.sent id result).1.Sound := by
  obtain ⟨drain, outgoing, rest, -, -, -, -, changed⟩ := sent_of_take taken result
  rw [changed]
  exact (sound.modify id (by intro drain; rfl) (by intro drain _; rfl)).prune

theorem Sound.queued_sent (sound : outbox.Sound) :
    outbox.queued = item ::ₘ (outbox.sent id result).1.queued := by
  rw [Outbox.sent, queued_complete]
  exact sound.isNumbered.queued_take taken

theorem closed_sent : (outbox.sent id result).1.closed = outbox.closed := by
  obtain ⟨drain, outgoing, rest, -, -, -, -, changed⟩ := sent_of_take taken result
  rw [changed]
  rfl

end

theorem Sound.take_single (sound : outbox.Sound)
    (single : (outbox.queued.filter fun item => item.1 = address) = {(address, data)}) :
    ∃ id, (outbox.take id).2 = some (address, data) := by
  have waits : (address, data) ∈ outbox.queued :=
    Multiset.mem_of_mem_filter (single ▸ Multiset.mem_singleton_self (address, data))
  obtain ⟨drain, present, listed⟩ := List.mem_flatMap.mp (Multiset.mem_coe.mp waits)
  obtain ⟨earlier, later, split, -⟩ := sound.split present
  obtain ⟨outgoing, held, same⟩ := List.mem_map.mp listed
  simp only [Prod.mk.injEq] at same
  obtain ⟨rfl, rfl⟩ := same
  -- What else the drain holds is for the same address, so it holds nothing else.
  have few := congrArg Multiset.card single
  have all : (drain.waiting.filter fun item => item.1 = drain.address) = drain.waiting := by
    simp [Drain.waiting]
  simp only [queued, split, List.flatMap_append, List.flatMap_cons, Multiset.filter_coe,
    List.filter_append, all, Multiset.coe_card, List.length_append, Multiset.card_singleton] at few
  have inside : 0 < drain.backlog.length := List.length_pos_of_mem held
  have alone : drain.backlog.length = 1 := by
    simp only [Drain.waiting, List.length_map] at few
    omega
  obtain ⟨only, backlog⟩ := List.length_eq_one_iff.mp alone
  rw [backlog, List.mem_singleton] at held
  subst held
  refine ⟨drain.id, ?_⟩
  simp only [take, sound.drain?_of_mem present, sound.atRest drain present, backlog]

end

/-! ### Closing -/

def Dropped (outbox : Outbox) : Prop := ∀ drain ∈ outbox.drains, drain.accepting = false

section

variable {outbox : Outbox}

theorem dropped_retain_none (outbox : Outbox) : (outbox.retain fun _ => false).Dropped := by
  intro drain present
  obtain ⟨known, -, rfl⟩ := List.mem_map.mp (List.mem_of_mem_filter present)
  exact Bool.and_false _

theorem dropped_shutdown (outbox : Outbox) : outbox.shutdown.Dropped := outbox.dropped_retain_none

theorem Dropped.queue?_eq_none (dropped : outbox.Dropped) (address : SocketAddress) :
    outbox.queue? address = none := by
  apply List.find?_eq_none.mpr
  intro drain present
  simp [dropped drain present]

theorem Dropped.modify (dropped : outbox.Dropped) (id : DrainId) {change : Drain → Drain}
    (takes : ∀ drain, (change drain).accepting = drain.accepting) :
    (outbox.modify id change).Dropped := by
  intro drain present
  obtain ⟨known, was, rfl⟩ := List.mem_map.mp present
  split
  · exact (takes known).trans (dropped known was)
  · exact dropped known was

theorem Dropped.retain (dropped : outbox.Dropped) (keep : SocketAddress → Bool) :
    (outbox.retain keep).Dropped := by
  intro drain present
  obtain ⟨known, was, rfl⟩ := List.mem_map.mp (List.mem_of_mem_filter present)
  simp [dropped known was]

theorem Dropped.take (dropped : outbox.Dropped) (id : DrainId) : (outbox.take id).1.Dropped := by
  unfold Outbox.take
  split
  · exact dropped
  · split
    · exact dropped.modify id (by intro drain; rfl)
    · exact dropped

theorem Dropped.complete (dropped : outbox.Dropped) (id : DrainId)
    (result : Except NetworkFault Unit) : (outbox.complete id result).1.Dropped := by
  unfold Outbox.complete
  split
  · exact dropped
  · intro drain present
    exact dropped.modify id (by intro drain; rfl) drain (List.mem_of_mem_filter present)

theorem Reaches.dropped {permits : SocketAddress → Bytes → Prop} {after : Outbox}
    (reached : outbox.Reaches permits after) (closed : outbox.closed = true)
    (dropped : outbox.Dropped) : after.Dropped := by
  induction reached with
  | refl => exact dropped
  | push reached address outgoing _ ih =>
    rwa [push_of_closed (reached.closed.trans closed)]
  | retain _ keep ih => exact ih.retain keep

end

end Outbox

end ClusterCoordination
