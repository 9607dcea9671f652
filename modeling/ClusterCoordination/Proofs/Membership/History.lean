import Mathlib.Data.List.DropRight
import ClusterCoordination.Proofs.Membership.Liveness
/-!
# The history of a member

A record keeps two times. One is that of the last event by which the member was heard from, the
other that of the event that ended its life. Failure is detected by these times alone, so what
becomes of a member depends on nothing but its own history and the rounds that look for the silent
and the expired.
-/

set_option autoImplicit false

namespace ClusterCoordination

namespace Registry

structure Event where
  before : Registry
  operation : Operation

def events (registry : Registry) : List Operation → List Event
  | [] => []
  | operation :: rest => ⟨registry, operation⟩ :: (registry.perform operation).1.events rest

theorem events_append (registry : Registry) (earlier later : List Operation) :
    registry.events (earlier ++ later) =
      registry.events earlier ++ (registry.performAll earlier).events later := by
  induction earlier generalizing registry with
  | nil => rfl
  | cons operation rest ih =>
    rw [List.cons_append, events, ih]
    rfl

namespace Event

def after (event : Event) : Registry := (event.before.perform event.operation).1

/--
When the member is heard from: it joins, unless it is known and dead, or its heartbeat counts.
-/
def hearing (id : MemberId) : Event → Option Instant
  | ⟨before, .join now member⟩ =>
    if member.id = id ∧
      (before.contains id = false ∨ before.isAlive id = true) then some now else none
  | ⟨before, .heartbeat now sender⟩ =>
    if sender = id ∧ (before.heartbeat now id).2.1 ∈ [.refreshed, .revived] then some now else none
  | ⟨_, .leave ..⟩ | ⟨_, .checkLiveness ..⟩ | ⟨_, .purgeDead ..⟩ => none

/-- When the member leaves, or is found to be silent. -/
def ending (id : MemberId) : Event → Option Instant
  | ⟨_, .leave now leaving⟩ => if leaving = id then some now else none
  | ⟨before, .checkLiveness now timeout⟩ =>
    if id ∈ (before.checkLiveness now timeout).2.1 then some now else none
  | ⟨_, .join ..⟩ | ⟨_, .heartbeat ..⟩ | ⟨_, .purgeDead ..⟩ => none

end Event

def lastHeard (events : List Event) (id : MemberId) : Option Instant :=
  events.reverse.findSome? (Event.hearing id)

def sinceAlive (events : List Event) (id : MemberId) : List Event :=
  events.rtakeWhile fun event => !event.after.isAlive id

/-- When the member first left or was found to be silent since it was last alive. -/
def diedAt (events : List Event) (id : MemberId) : Option Instant :=
  (sinceAlive events id).findSome? (Event.ending id)

theorem lastHeard_concat (events : List Event) (event : Event) (id : MemberId) :
    lastHeard (events ++ [event]) id = (event.hearing id).or (lastHeard events id) := by
  simp only [lastHeard, List.reverse_append, List.reverse_singleton, List.findSome?_append,
    List.findSome?_singleton]

theorem diedAt_concat (events : List Event) (event : Event) (id : MemberId) :
    diedAt (events ++ [event]) id =
      if event.after.isAlive id then none else (diedAt events id).or (event.ending id) := by
  unfold diedAt sinceAlive
  cases alive : event.after.isAlive id with
  | true =>
    rw [List.rtakeWhile_concat_neg _ _ _ (by simp [alive])]
    rfl
  | false =>
    rw [List.rtakeWhile_concat_pos _ _ _ (by simp [alive]), List.findSome?_append,
      List.findSome?_singleton]
    rfl

structure Dates (event : Event) (id : MemberId) (before after : MemberRecord) : Prop where
  heard : after.lastHeard = (event.hearing id).getD before.lastHeard
  died : after.deadSince =
    if after.member.alive then none else before.deadSince.or (event.ending id)

section

variable {registry : Registry} {id : MemberId} {before after : MemberRecord}

theorem dates_same {event : Event} (coherent : before.Coherent)
    (unheard : event.hearing id = none) :
    Dates event id before before := by
  constructor
  case heard => rw [unheard, Option.getD_none]
  case died =>
    cases alive : before.member.alive with
    | true => exact coherent.alive_iff.mp alive
    | false =>
      obtain ⟨died, since⟩ := coherent.died_of_dead alive
      rw [since]
      rfl

theorem dates_join (coherent : before.Coherent) (found : registry.record? id = some before)
    (now : Instant) {member : Member} (same : member.id = id) :
    Dates ⟨registry, .join now member⟩ id before (before.rejoin now member) := by
  have hearing : (⟨registry, .join now member⟩ : Event).hearing id =
      if before.member.alive then some now else none := by
    simp [Event.hearing, same, contains_of_record? found, isAlive_of_record? found]
  unfold MemberRecord.rejoin
  split
  next gone =>
    apply dates_same coherent
    simp [hearing, coherent.left_dead gone]
  next here =>
    cases alive : before.member.alive with
    | true =>
      constructor
      case heard => simp [hearing, alive]
      case died => simpa [alive] using coherent.alive_iff.mp alive
    | false =>
      obtain ⟨died, since⟩ := coherent.died_of_dead alive
      constructor
      case heard => simp [hearing, alive]
      case died => simp [alive, since]

theorem dates_leave (coherent : before.Coherent) (registry : Registry) (now : Instant)
    (id : MemberId) : Dates ⟨registry, .leave now id⟩ id before (before.leave now) := by
  unfold MemberRecord.leave
  split
  next gone => exact dates_same coherent rfl
  next here =>
    constructor
    case heard => rfl
    case died => cases since : before.deadSince <;> simp [Event.ending]

theorem dates_heartbeat (coherent : before.Coherent) (found : registry.record? id = some before)
    (now : Instant) : Dates ⟨registry, .heartbeat now id⟩ id before (before.hear now) := by
  have hearing : (⟨registry, .heartbeat now id⟩ : Event).hearing id =
      if before.left then none else some now := by
    simp only [Event.hearing, heartbeat, found]
    cases before.left <;> cases before.member.alive <;> simp
  unfold MemberRecord.hear
  split
  next gone =>
    apply dates_same coherent
    simp [hearing, gone]
  next here =>
    split
    next alive =>
      constructor
      case heard => simp [hearing, here]
      case died => simpa [alive] using coherent.alive_iff.mp alive
    next dead =>
      constructor
      case heard => simp [hearing, here]
      case died => rfl

theorem dates_die (coherent : before.Coherent) {now : Instant} {timeout : Duration}
    (dead : id ∈ (registry.checkLiveness now timeout).2.1) (alive : before.member.alive = true) :
    Dates ⟨registry, .checkLiveness now timeout⟩ id before (before.die now) where
  heard := rfl
  died := by
    have ending : (⟨registry, .checkLiveness now timeout⟩ : Event).ending id = some now :=
      if_pos dead
    rw [ending, coherent.alive_iff.mp alive]
    rfl

theorem Sound.dates (sound : registry.Sound) {operation : Operation}
    (found : registry.record? id = some before)
    (result : (registry.perform operation).1.record? id = some after) :
    Dates ⟨registry, operation⟩ id before after := by
  have coherent := sound.coherent id before found
  cases operation with
  | join now member =>
    rw [record?_perform sound.unique, found] at result
    simp only [Operation.onRecord, Option.elim] at result
    split at result
    next same =>
      obtain rfl := Option.some.inj result
      exact dates_join coherent found now same.symm
    next other =>
      obtain rfl := Option.some.inj result
      exact dates_same coherent (by simp [Event.hearing, Ne.symm other])
  | leave now leaving =>
    rw [record?_perform sound.unique, found] at result
    simp only [Operation.onRecord, Option.map_some] at result
    split at result
    next same =>
      subst same
      obtain rfl := Option.some.inj result
      exact dates_leave coherent registry now id
    next other =>
      obtain rfl := Option.some.inj result
      exact dates_same coherent rfl
  | heartbeat now sender =>
    rw [record?_perform sound.unique, found] at result
    simp only [Operation.onRecord, Option.map_some] at result
    split at result
    next same =>
      subst same
      obtain rfl := Option.some.inj result
      exact dates_heartbeat coherent found now
    next other =>
      obtain rfl := Option.some.inj result
      exact dates_same coherent (by simp [Event.hearing, Ne.symm other])
  | checkLiveness now timeout =>
    change (registry.checkLiveness now timeout).1.record? id = some after at result
    rw [record?_marked sound.unique, found] at result
    split at result
    next dead =>
      obtain ⟨record, again, alive, -⟩ := (mem_dead_iff sound.unique).mp dead
      obtain rfl := Option.some.inj (found.symm.trans again)
      obtain rfl := Option.some.inj result
      exact dates_die coherent dead alive
    next =>
      obtain rfl := Option.some.inj result
      exact dates_same coherent rfl
  | purgeDead now grace =>
    change (registry.purgeDead now grace).1.record? id = some after at result
    rw [record?_kept sound.unique, found] at result
    split at result
    next => simp at result
    next =>
      obtain rfl := Option.some.inj result
      exact dates_same coherent rfl

theorem Sound.joins_of_record? (sound : registry.Sound) {operation : Operation}
    (absent : registry.record? id = none)
    (result : (registry.perform operation).1.record? id = some after) :
    ∃ now member, operation = .join now member ∧ member.id = id ∧
      after = .new registry.nextJoin now member := by
  by_cases joins : operation.Joins id
  · cases operation with
    | join now member =>
      obtain rfl : member.id = id := joins
      rw [record?_perform sound.unique, absent] at result
      simp only [Operation.onRecord, if_true, Option.elim, Option.some.injEq] at result
      exact ⟨now, member, rfl, rfl, result.symm⟩
    | leave | heartbeat | checkLiveness | purgeDead => exact joins.elim
  · rw [sound.absent_perform absent joins] at result
    simp at result

def Remembers (registry : Registry) (events : List Event) : Prop :=
  ∀ id record, registry.record? id = some record →
    lastHeard events id = some record.lastHeard ∧ diedAt events id = record.deadSince

theorem Remembers.perform (sound : registry.Sound) {events : List Event}
    (remembers : registry.Remembers events) (operation : Operation) :
    (registry.perform operation).1.Remembers (events ++ [⟨registry, operation⟩]) := by
  intro id after result
  have alive : (⟨registry, operation⟩ : Event).after.isAlive id = after.member.alive :=
    isAlive_of_record? result
  rw [lastHeard_concat, diedAt_concat, alive]
  cases found : registry.record? id with
  | none =>
    obtain ⟨now, member, rfl, rfl, rfl⟩ := sound.joins_of_record? found result
    simp [Event.hearing, contains, found, MemberRecord.new]
  | some before =>
    obtain ⟨heard, died⟩ := sound.dates found result
    obtain ⟨heardBefore, diedBefore⟩ := remembers id before found
    rw [heardBefore, diedBefore, heard, died]
    exact ⟨by cases (⟨registry, operation⟩ : Event).hearing id <;> rfl, rfl⟩

theorem remembers_run (localId : MemberId) (operations : List Operation) :
    (run localId operations).Remembers ((new localId).events operations) := by
  induction operations using List.reverseRecOn with
  | nil =>
    intro id record found
    simp [run, performAll, new, record?] at found
  | append_singleton earlier operation ih =>
    have step := ih.perform (sound_run localId earlier) operation
    rw [events_append, run, performAll_append]
    exact step

end

end Registry

end ClusterCoordination
