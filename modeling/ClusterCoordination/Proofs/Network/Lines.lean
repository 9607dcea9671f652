import ClusterCoordination.Proofs.Network.Queued
/-!
# The line to an address

What an outbox has yet to send to an address, in order: what the drains of the address are sending
and what waits behind it, older drains first. Unlike an outbox at rest, one may be in the middle of
several sends here.
-/

set_option autoImplicit false

namespace ClusterCoordination

namespace Drain

/-- The datagram that is being sent, and those behind it. -/
def pending (drain : Drain) : List Bytes :=
  (drain.sending.toList ++ drain.backlog).map Outgoing.data

def pendingFor (address : SocketAddress) (drain : Drain) : List Bytes :=
  if drain.address = address then drain.pending else []

theorem pendingFor_of_finished {drain : Drain} (finished : drain.isFinished = true)
    (address : SocketAddress) : drain.pendingFor address = [] := by
  have empty : drain.backlog = [] ∧ drain.sending = none := by simp_all [isFinished]
  simp [pendingFor, pending, empty]

end Drain

namespace Outbox

def line (outbox : Outbox) (address : SocketAddress) : List Bytes :=
  outbox.drains.flatMap (Drain.pendingFor address)

/-- The part of the line that is in queues which have been dropped. -/
def leftover (outbox : Outbox) (address : SocketAddress) : List Bytes :=
  (outbox.drains.filter fun drain => !drain.accepting).flatMap (Drain.pendingFor address)

/-- Every drain has an id of its own, and of the drains of an address only the last takes more. -/
structure Keyed (outbox : Outbox) : Prop where
  unique : (outbox.drains.map Drain.id).Nodup
  numbered : ∀ drain ∈ outbox.drains, drain.id < outbox.nextDrain
  latest : outbox.drains.Pairwise fun earlier later =>
    earlier.accepting = true → later.address ≠ earlier.address

theorem Keyed.isNumbered {outbox : Outbox} (keyed : outbox.Keyed) : outbox.Numbered :=
  ⟨keyed.unique, keyed.numbered⟩

theorem keyed_empty : empty.Keyed where
  unique := List.nodup_nil
  numbered := by simp [empty]
  latest := List.Pairwise.nil

section

variable {outbox : Outbox} {address : SocketAddress} {data : Bytes}

theorem mem_leftover : data ∈ outbox.leftover address ↔
    ∃ drain ∈ outbox.drains, drain.accepting = false ∧ drain.address = address ∧
      data ∈ drain.pending := by
  simp only [leftover, List.mem_flatMap, List.mem_filter, Drain.pendingFor, List.mem_ite_nil_right]
  constructor
  · rintro ⟨drain, ⟨present, dropped⟩, same, waits⟩
    exact ⟨drain, present, by simpa using dropped, same, waits⟩
  · rintro ⟨drain, present, dropped, same, waits⟩
    exact ⟨drain, ⟨present, by simpa using dropped⟩, same, waits⟩

theorem mem_line : data ∈ outbox.line address ↔
    ∃ drain ∈ outbox.drains, drain.address = address ∧ data ∈ drain.pending := by
  simp [line, List.mem_flatMap, Drain.pendingFor, List.mem_ite_nil_right]

theorem Keyed.modify (keyed : outbox.Keyed) {change : Drain → Drain} (id : DrainId)
    (keeps : ∀ drain, (change drain).id = drain.id)
    (stays : ∀ drain, (change drain).address = drain.address)
    (takes : ∀ drain, (change drain).accepting = drain.accepting) :
    (outbox.modify id change).Keyed := by
  have same (drain : Drain) :
      (if drain.id = id then change drain else drain).address = drain.address ∧
      (if drain.id = id then change drain else drain).accepting = drain.accepting := by
    split
    · exact ⟨stays drain, takes drain⟩
    · exact ⟨rfl, rfl⟩
  obtain ⟨unique, numbered⟩ := keyed.isNumbered.modify id keeps
  refine ⟨unique, numbered, ?_⟩
  rw [Outbox.modify, List.pairwise_map]
  refine keyed.latest.imp ?_
  intro earlier later apart
  rw [(same earlier).1, (same earlier).2, (same later).1]
  exact apart

theorem Keyed.prune (keyed : outbox.Keyed) : outbox.prune.Keyed where
  unique := keyed.isNumbered.prune.unique
  numbered := keyed.isNumbered.prune.numbered
  latest := keyed.latest.sublist List.filter_sublist

theorem line_prune (outbox : Outbox) (address : SocketAddress) :
    outbox.prune.line address = outbox.line address := by
  have kept (drains : List Drain) :
      (drains.filter fun drain => !drain.isFinished).flatMap (Drain.pendingFor address) =
        drains.flatMap (Drain.pendingFor address) := by
    induction drains with
    | nil => rfl
    | cons drain rest ih =>
      cases finished : drain.isFinished with
      | false => simp [finished, ih]
      | true => simp [finished, ih, Drain.pendingFor_of_finished finished]
  exact kept outbox.drains

theorem leftover_prune (waits : data ∈ outbox.prune.leftover address) :
    data ∈ outbox.leftover address := by
  obtain ⟨drain, present, dropped⟩ := mem_leftover.mp waits
  exact mem_leftover.mpr ⟨drain, List.mem_of_mem_filter present, dropped⟩

theorem Keyed.retain (keyed : outbox.Keyed) (keep : SocketAddress → Bool) :
    (outbox.retain keep).Keyed := by
  obtain ⟨unique, numbered⟩ := keyed.isNumbered.retain keep
  refine ⟨unique, numbered, List.Pairwise.sublist List.filter_sublist ?_⟩
  rw [List.pairwise_map]
  refine keyed.latest.imp ?_
  intro earlier later apart takes
  exact apart (Bool.and_eq_true_iff.mp takes).1

theorem line_retain (outbox : Outbox) (keep : SocketAddress → Bool) (address : SocketAddress) :
    (outbox.retain keep).line address = outbox.line address := by
  unfold retain
  rw [line_prune]
  simp only [line, List.flatMap_map]
  rfl

theorem leftover_retain {keep : SocketAddress → Bool} (kept : keep address = true)
    (waits : data ∈ (outbox.retain keep).leftover address) : data ∈ outbox.leftover address := by
  obtain ⟨drain, present, dropped, rfl, holds⟩ := mem_leftover.mp (leftover_prune waits)
  obtain ⟨known, was, rfl⟩ := List.mem_map.mp present
  exact mem_leftover.mpr ⟨known, was, by simpa [kept] using dropped, rfl, holds⟩

theorem Keyed.shutdown (keyed : outbox.Keyed) : outbox.shutdown.Keyed :=
  have retained := keyed.retain fun _ => false
  ⟨retained.unique, retained.numbered, retained.latest⟩

theorem line_shutdown (outbox : Outbox) (address : SocketAddress) :
    outbox.shutdown.line address = outbox.line address :=
  outbox.line_retain (fun _ => false) address

/-- Behind the queue that takes datagrams for an address there is no other drain of the address. -/
theorem Keyed.pendingFor_behind {earlier later : List Drain} {drain : Drain} (keyed : outbox.Keyed)
    (split : outbox.drains = earlier ++ drain :: later) (takes : drain.accepting = true) :
    later.flatMap (Drain.pendingFor drain.address) = [] := by
  have latest := keyed.latest
  rw [split, List.pairwise_append, List.pairwise_cons] at latest
  apply List.flatMap_eq_nil_iff.mpr
  intro other present
  exact if_neg (latest.2.1.1 other present takes)

theorem accepting_of_queue? {drain : Drain} (queue : outbox.queue? address = some drain) :
    drain.accepting = true := by
  have accepts := List.find?_some queue
  simp at accepts
  exact accepts.1

theorem Keyed.push (keyed : outbox.Keyed) (address : SocketAddress) (outgoing : Outgoing) :
    (outbox.push address outgoing).1.Keyed := by
  obtain ⟨unique, numbered⟩ := keyed.isNumbered.push address outgoing
  refine ⟨unique, numbered, ?_⟩
  cases closed : outbox.closed with
  | true => rw [push_of_closed closed]; exact keyed.latest
  | false =>
    simp only [Outbox.push, closed, Bool.false_eq_true, if_false]
    cases queue : outbox.queue? address with
    | some drain =>
      exact (keyed.modify drain.id (by intro other; rfl) (by intro other; rfl)
        (by intro other; rfl)).latest
    | none =>
      refine List.pairwise_append.mpr ⟨keyed.latest, List.pairwise_singleton _ _, ?_⟩
      intro earlier present later new takes same
      obtain rfl := List.mem_singleton.mp new
      simpa [takes, ← same] using List.find?_eq_none.mp queue earlier present

theorem Keyed.line_push (keyed : outbox.Keyed) (opened : outbox.closed = false)
    (target : SocketAddress) (outgoing : Outgoing) (address : SocketAddress) :
    (outbox.push target outgoing).1.line address =
      outbox.line address ++ if target = address then [outgoing.data] else [] := by
  simp only [Outbox.push, opened, Bool.false_eq_true, if_false]
  cases queue : outbox.queue? target with
  | some drain =>
    obtain ⟨present, rfl⟩ := queue?_mem queue
    obtain ⟨earlier, later, split, modified⟩ := split_of_nodup keyed.unique present
    simp only [line, modified, split, List.flatMap_append, List.flatMap_cons, List.append_assoc]
    by_cases same : drain.address = address
    · subst same
      have behind := keyed.pendingFor_behind split (accepting_of_queue? queue)
      simp [behind, Drain.pendingFor, Drain.pending]
    · simp [same, Drain.pendingFor]
  | none =>
    simp [line, Drain.pendingFor, Drain.pending]

theorem Keyed.leftover_push (keyed : outbox.Keyed) {target : SocketAddress} {outgoing : Outgoing}
    (waits : data ∈ (outbox.push target outgoing).1.leftover address) :
    data ∈ outbox.leftover address := by
  cases closed : outbox.closed with
  | true => rwa [push_of_closed closed] at waits
  | false =>
    simp only [Outbox.push, closed, Bool.false_eq_true, if_false] at waits
    cases queue : outbox.queue? target with
    | some drain =>
      obtain ⟨present, -⟩ := queue?_mem queue
      obtain ⟨earlier, later, split, modified⟩ := split_of_nodup keyed.unique present
      have takes := accepting_of_queue? queue
      simpa [queue, leftover, modified, split, takes] using waits
    | none => simpa [queue, leftover] using waits

theorem Reaches.keyed {permits : SocketAddress → Bytes → Prop} {after : Outbox}
    (reached : outbox.Reaches permits after) (keyed : outbox.Keyed) : after.Keyed := by
  induction reached with
  | refl => exact keyed
  | push _ address outgoing _ ih => exact ih.push address outgoing
  | retain _ keep ih => exact ih.retain keep

theorem Pushes.line {permits : SocketAddress → Bytes → Prop} {after : Outbox}
    (pushes : outbox.Pushes permits after) (keyed : outbox.Keyed) :
    after.Keyed ∧ after.closed = outbox.closed ∧ ∀ address,
      (∃ added, after.line address = outbox.line address ++ added ∧
        ∀ data ∈ added, permits address data) ∧
      ∀ data ∈ after.leftover address, data ∈ outbox.leftover address := by
  induction pushes with
  | refl => exact ⟨keyed, rfl, fun address => ⟨⟨[], by simp⟩, fun _ waits => waits⟩⟩
  | @push after pushes target outgoing said ih =>
    obtain ⟨keyed, closed, lines⟩ := ih
    refine ⟨keyed.push target outgoing, (closed_push _ _ _).trans closed, ?_⟩
    intro address
    obtain ⟨⟨added, line, permitted⟩, dropped⟩ := lines address
    refine ⟨?_, fun data waits => dropped data (keyed.leftover_push waits)⟩
    cases shut : after.closed with
    | true => exact ⟨added, by rw [push_of_closed shut, line], permitted⟩
    | false =>
      refine ⟨added ++ if target = address then [outgoing.data] else [], ?_, ?_⟩
      · rw [keyed.line_push shut, line, List.append_assoc]
      · intro data among
        rcases List.mem_append.mp among with old | new
        · exact permitted data old
        · obtain ⟨rfl, last⟩ := List.mem_ite_nil_right.mp new
          exact List.mem_singleton.mp last ▸ said

theorem Keyed.take (keyed : outbox.Keyed) (id : DrainId) : (outbox.take id).1.Keyed := by
  unfold Outbox.take
  split
  · exact keyed
  · split
    · exact keyed.modify id (by intro drain; rfl) (by intro drain; rfl) (by intro drain; rfl)
    · exact keyed

theorem Keyed.complete (keyed : outbox.Keyed) (id : DrainId) (result : Except NetworkFault Unit) :
    (outbox.complete id result).1.Keyed := by
  unfold Outbox.complete
  split
  · exact keyed
  · exact (keyed.modify id (by intro drain; rfl) (by intro drain; rfl) (by intro drain; rfl)).prune

@[simp] theorem closed_take (outbox : Outbox) (id : DrainId) :
    (outbox.take id).1.closed = outbox.closed := by
  unfold Outbox.take
  split
  · rfl
  · split <;> rfl

@[simp] theorem closed_complete (outbox : Outbox) (id : DrainId)
    (result : Except NetworkFault Unit) :
    (outbox.complete id result).1.closed = outbox.closed := by
  unfold Outbox.complete
  split <;> rfl

theorem take_of_none {id : DrainId} (taken : (outbox.take id).2 = none) :
    (outbox.take id).1 = outbox := by
  unfold Outbox.take at taken ⊢
  cases found : outbox.drain? id with
  | none => rfl
  | some drain =>
    simp only [found] at taken ⊢
    split at taken
    next => simp at taken
    next => rfl

theorem Keyed.line_take (keyed : outbox.Keyed) (id : DrainId) (address : SocketAddress) :
    (outbox.take id).1.line address = outbox.line address ∧
      (outbox.take id).1.leftover address = outbox.leftover address := by
  cases taken : (outbox.take id).2 with
  | none => rw [take_of_none taken]; exact ⟨rfl, rfl⟩
  | some item =>
    obtain ⟨drain, outgoing, rest, found, idle, backlog, -, after⟩ := take_eq_some taken
    have present := List.mem_of_find?_eq_some found
    obtain rfl : drain.id = id := by simpa using List.find?_some found
    obtain ⟨earlier, later, split, modified⟩ := split_of_nodup keyed.unique present
    have same : Drain.pendingFor address { drain with backlog := rest, sending := some outgoing } =
        drain.pendingFor address := by
      simp [Drain.pendingFor, Drain.pending, idle, backlog]
    rw [after]
    constructor
    · simp only [line, modified, split, List.flatMap_append, List.flatMap_cons, same]
    · simp only [leftover, modified, split, List.filter_append, List.filter_cons]
      split <;> simp only [List.flatMap_append, List.flatMap_cons, same]

theorem Keyed.line_complete (keyed : outbox.Keyed) {drain : Drain} (present : drain ∈ outbox.drains)
    (result : Except NetworkFault Unit) (address : SocketAddress) :
    ∃ ahead behind,
      outbox.line address = ahead ++
        (if drain.address = address then drain.sending.toList.map Outgoing.data else []) ++ behind ∧
      (outbox.complete drain.id result).1.line address = ahead ++ behind ∧
      ∀ data ∈ ahead, data ∈ outbox.leftover address ∨ drain.address ≠ address := by
  obtain ⟨earlier, later, split, modified⟩ := split_of_nodup keyed.unique present
  have after : (outbox.complete drain.id result).1 =
      (outbox.modify drain.id fun drain => { drain with sending := none }).prune := by
    simp only [Outbox.complete, drain?_of_nodup keyed.unique present]
  refine ⟨earlier.flatMap (Drain.pendingFor address),
    (Drain.pendingFor address { drain with sending := none }) ++
      later.flatMap (Drain.pendingFor address), ?_, ?_, ?_⟩
  · simp only [line, split, List.flatMap_append, List.flatMap_cons, Drain.pendingFor, Drain.pending]
    by_cases same : drain.address = address <;> simp [same]
  · rw [after, line_prune]
    simp only [line, modified, List.flatMap_append, List.flatMap_cons]
  · intro data ahead
    by_cases same : drain.address = address
    · obtain ⟨older, before, holds⟩ := List.mem_flatMap.mp ahead
      obtain ⟨here, waits⟩ := List.mem_ite_nil_right.mp holds
      have latest := keyed.latest
      rw [split, List.pairwise_append] at latest
      -- Of the drains of an address only the last takes more, so an older one has been dropped.
      have dropped : older.accepting = false := by
        by_contra takes
        exact latest.2.2 older before drain List.mem_cons_self (by simpa using takes)
          (same.trans here.symm)
      left
      exact mem_leftover.mpr ⟨older, by simp [split, before], dropped, here, waits⟩
    · exact .inr same

theorem leftover_complete {id : DrainId} {result : Except NetworkFault Unit}
    (waits : data ∈ (outbox.complete id result).1.leftover address) :
    data ∈ outbox.leftover address := by
  unfold Outbox.complete at waits
  split at waits
  · exact waits
  · obtain ⟨drain, present, dropped, rfl, holds⟩ := mem_leftover.mp (leftover_prune waits)
    obtain ⟨known, was, rfl⟩ := List.mem_map.mp present
    refine mem_leftover.mpr ⟨known, was, ?_, ?_, ?_⟩
    · split at dropped <;> exact dropped
    · split <;> rfl
    · split at holds
      · simp only [Drain.pending, Option.toList_none, List.nil_append] at holds
        simp only [Drain.pending, List.map_append, List.mem_append]
        exact .inr holds
      · exact holds

end

end Outbox

end ClusterCoordination
