import ClusterCoordination.Proofs.Lifecycle.Visits
/-!
# One visit after the other

Where each visit to a request finds it as the visit before has left it, the dispatchers are asked at
the first visit only, and at most one visit replies: the one that finds the work done, if no visit
before has found it overdue or the node told to stop.
-/

set_option autoImplicit false

namespace ClusterCoordination

/-- The work has ended with an outcome at this visit, and did not end at any visit before. -/
structure Work.Yields (work : Work) (before : List Visit) (visit : Visit)
    (outcome : Except Status Bytes) : Prop where
  pending : ∀ earlier ∈ before, earlier.node.stopRequested = false ∧
    earlier.clock.now < work.due ∧ earlier.clock.now < work.deadline
  heeded : visit.isGivenUp = false
  done : work.due ≤ visit.clock.now
  returned : work.ending = .returned outcome

def Visit.Begun (caller : MemberId) (request : Request) (before : List Visit) (visit : Visit)
    (work : Work) : Prop :=
  (before ++ [visit]).head?.bind (fun first => first.begins? caller request) = some work

/-- The work that the first of the visits has begun ends with the outcome at this one. -/
def Visit.Brings (caller : MemberId) (request : Request) (before : List Visit) (visit : Visit)
    (outcome : Except Status Bytes) : Prop :=
  ∃ work, Begun caller request before visit work ∧ work.Yields before visit outcome

/-- A visit replies if it yields an outcome, and the others do nothing. -/
structure AnsweredOnce (id : RequestId) (request : Request) (visits : List Visit)
    (yields : List Visit → Visit → Except Status Bytes → Prop) : Prop where
  replies : ∀ before visit after outcome, visits = before ++ visit :: after →
    yields before visit outcome → visit.node.Replies (visit.after id) request outcome ∧
      ∀ other ∈ before ++ after, other.node.Ignores (other.after id)
  ignores : ∀ before visit after, visits = before ++ visit :: after →
    (∀ outcome, ¬ yields before visit outcome) → visit.node.Ignores (visit.after id)

variable {id : RequestId}

/-- What comes to a visit is what the visit before has left. -/
def Visit.Follow (id : RequestId) : Option ServedRequest → List Visit → Prop
  | _, [] => True
  | entry, visit :: rest =>
    visit.node.request? id = entry ∧ Follow id ((visit.after id).request? id) rest

section

variable {request : Request} {visits : List Visit} {entry : ServedRequest} {work : Work}

theorem AnsweredOnce.congr {yields others : List Visit → Visit → Except Status Bytes → Prop}
    (once : AnsweredOnce id request visits yields)
    (same : ∀ before visit after outcome, visits = before ++ visit :: after →
      (others before visit outcome ↔ yields before visit outcome)) :
    AnsweredOnce id request visits others where
  replies := fun before visit after outcome shape found =>
    once.replies before visit after outcome shape ((same _ _ after _ shape).mp found)
  ignores := fun before visit after shape none =>
    once.ignores before visit after shape fun outcome found =>
      none outcome ((same _ _ after _ shape).mpr found)

theorem Visit.ignores_of_follow_none (follow : Visit.Follow id none visits) :
    ∀ visit ∈ visits, visit.node.Ignores (visit.after id) := by
  induction visits with
  | nil => simp
  | cons first rest ih =>
    obtain ⟨missing, follow⟩ := follow
    obtain ⟨ignores, gone⟩ := Visit.ignores_of_missing missing
    rw [gone] at follow
    exact List.forall_mem_cons.mpr ⟨ignores, ih follow⟩

theorem AnsweredOnce.cons {yields : List Visit → Visit → Except Status Bytes → Prop} {first : Visit}
    {rest : List Visit}
    (headReplies : ∀ outcome, yields [] first outcome →
      first.node.Replies (first.after id) request outcome ∧
        ∀ other ∈ rest, other.node.Ignores (other.after id))
    (headIgnores : (∀ outcome, ¬ yields [] first outcome) → first.node.Ignores (first.after id))
    (tailReplies : ∀ before visit after outcome, rest = before ++ visit :: after →
      yields (first :: before) visit outcome → visit.node.Replies (visit.after id) request outcome ∧
        first.node.Ignores (first.after id) ∧
          ∀ other ∈ before ++ after, other.node.Ignores (other.after id))
    (tailIgnores : ∀ before visit after, rest = before ++ visit :: after →
      (∀ outcome, ¬ yields (first :: before) visit outcome) →
        visit.node.Ignores (visit.after id)) :
    AnsweredOnce id request (first :: rest) yields where
  replies := by
    rintro (_ | ⟨earlier, before⟩) visit after outcome shape found
    · obtain ⟨rfl, rfl⟩ := List.cons.inj shape
      exact headReplies outcome found
    · obtain ⟨rfl, tail⟩ := List.cons.inj shape
      obtain ⟨replies, ignores, others⟩ := tailReplies before visit after outcome tail found
      exact ⟨replies, List.forall_mem_cons.mpr ⟨ignores, others⟩⟩
  ignores := by
    rintro (_ | ⟨earlier, before⟩) visit after shape nothing
    · obtain ⟨rfl, rfl⟩ := List.cons.inj shape
      exact headIgnores nothing
    · obtain ⟨rfl, tail⟩ := List.cons.inj shape
      exact tailIgnores before visit after tail nothing

theorem AnsweredOnce.cons_settled {yields : List Visit → Visit → Except Status Bytes → Prop}
    {first : Visit} {rest : List Visit}
    (headReplies : ∀ outcome, yields [] first outcome →
      first.node.Replies (first.after id) request outcome)
    (headIgnores : (∀ outcome, ¬ yields [] first outcome) → first.node.Ignores (first.after id))
    (ended : ∀ before visit outcome, ¬ yields (first :: before) visit outcome)
    (settled : ∀ other ∈ rest, other.node.Ignores (other.after id)) :
    AnsweredOnce id request (first :: rest) yields := by
  refine .cons ?_ headIgnores ?_ ?_
  · exact fun outcome found => ⟨headReplies outcome found, settled⟩
  · exact fun before visit _ outcome _ found => absurd found (ended before visit outcome)
  · intro before visit after tail _
    exact settled visit (by simp [tail])

theorem Visit.kept_of_pending {visit : Visit} (found : visit.node.request? id = some entry)
    (pursued : visit.pursued? entry = some work)
    (pending : visit.node.stopRequested = false ∧ visit.clock.now < work.due ∧
      visit.clock.now < work.deadline) :
    (visit.after id).request? id = some (entry.at work) := by
  obtain ⟨going, early, timely⟩ := pending
  cases Visit.comes found with
  | replies begun done =>
    obtain rfl := Option.some.inj (pursued.symm.trans begun)
    exact absurd done (Nat.not_le.mpr early)
  | dropped finished =>
    rcases finished work pursued with stopped | done | overdue
    · simp [going] at stopped
    · exact absurd done (Nat.not_le.mpr early)
    · exact absurd overdue (Nat.not_le.mpr timely)
  | goesOn begun _ _ _ _ kept =>
    obtain rfl := Option.some.inj (pursued.symm.trans begun)
    exact kept

theorem answeredOnce_of_first {first : Visit} {rest : List Visit}
    (found : first.node.request? id = some entry)
    (left : ∀ work, first.pursued? entry = some work →
      (first.after id).request? id = some (entry.at work) →
        AnsweredOnce id entry.request rest work.Yields)
    (settled : (first.after id).request? id = none →
      ∀ visit ∈ rest, visit.node.Ignores (visit.after id)) :
    AnsweredOnce id entry.request (first :: rest) fun before visit outcome =>
      ∃ work, first.pursued? entry = some work ∧ work.Yields before visit outcome := by
  -- What yields at a later visit is pending at this one, and so it is left.
  have ended (gone : (first.after id).request? id = none) (before : List Visit) (visit : Visit)
      (outcome : Except Status Bytes) :
      ¬ ∃ work, first.pursued? entry = some work ∧ work.Yields (first :: before) visit outcome := by
    rintro ⟨work, begun, yields⟩
    have kept := Visit.kept_of_pending found begun (yields.pending first List.mem_cons_self)
    simp [gone] at kept
  cases Visit.comes found with
  | @replies work outcome pursued done returned replies gone =>
    refine .cons_settled ?_ ?_ (ended gone) (settled gone)
    · rintro given ⟨other, begun, yields⟩
      obtain rfl := Option.some.inj (pursued.symm.trans begun)
      obtain rfl := Ending.returned.inj (returned.symm.trans yields.returned)
      exact replies
    · intro nothing
      have heeded : first.isGivenUp = false := by
        by_contra givenUp
        have none := Visit.pursued?_of_isGivenUp (eq_true_of_ne_false givenUp) entry
        simp [none] at pursued
      exact absurd ⟨work, pursued, by simp, heeded, done, returned⟩ (nothing outcome)
  | dropped _ fruitless ignores gone =>
    refine .cons_settled ?_ (fun _ => ignores) (ended gone) (settled gone)
    rintro given ⟨work, begun, yields⟩
    have crashed := fruitless work begun yields.done
    simp [yields.returned] at crashed
  | @goesOn work pursued going early timely ignores kept =>
    -- The same work is pending at the visits to come, and this one is put before them.
    have later := left work pursued kept
    refine .cons ?_ (fun _ => ignores) ?_ ?_
    · rintro given ⟨other, begun, yields⟩
      obtain rfl := Option.some.inj (pursued.symm.trans begun)
      exact absurd yields.done (Nat.not_le.mpr early)
    · rintro before visit after given tail ⟨other, begun, yields⟩
      obtain rfl := Option.some.inj (pursued.symm.trans begun)
      have pending := (List.forall_mem_cons.mp yields.pending).2
      obtain ⟨replies, others⟩ := later.replies before visit after given tail
        ⟨pending, yields.heeded, yields.done, yields.returned⟩
      exact ⟨replies, ignores, others⟩
    · intro before visit after tail nothing
      refine later.ignores before visit after tail ?_
      intro outcome yields
      have pending := List.forall_mem_cons.mpr ⟨⟨going, early, timely⟩, yields.pending⟩
      exact nothing outcome ⟨work, pursued, pending, yields.heeded, yields.done, yields.returned⟩

theorem Work.Yields.head_heeded {before after rest : List Visit} {first visit : Visit}
    {outcome : Except Status Bytes} (yields : work.Yields before visit outcome)
    (shape : first :: rest = before ++ visit :: after) : first.isGivenUp = false := by
  cases before with
  | nil =>
    obtain ⟨rfl, -⟩ := List.cons.inj shape
    exact yields.heeded
  | cons earlier before =>
    obtain ⟨rfl, -⟩ := List.cons.inj shape
    simp [Visit.isGivenUp, (yields.pending first List.mem_cons_self).1]

theorem Visit.pursued?_at {visit : Visit} (heeded : visit.isGivenUp = false) (entry : ServedRequest)
    (work : Work) : visit.pursued? (entry.at work) = some work :=
  if_neg (by simp [heeded])

theorem Visit.eq_of_pursued?_at {visit : Visit} {other : Work}
    (pursued : visit.pursued? (entry.at work) = some other) : work = other := by
  cases givenUp : visit.isGivenUp with
  | false => exact Option.some.inj ((Visit.pursued?_at givenUp entry work).symm.trans pursued)
  | true => simp [Visit.pursued?_of_isGivenUp givenUp] at pursued

theorem answeredOnce_of_working (follow : Visit.Follow id (some (entry.at work)) visits) :
    AnsweredOnce id entry.request visits work.Yields := by
  induction visits with
  | nil => exact ⟨by simp, by simp⟩
  | cons first rest ih =>
    obtain ⟨found, follow⟩ := follow
    have once : AnsweredOnce id entry.request (first :: rest) fun before visit outcome =>
        ∃ other, first.pursued? (entry.at work) = some other ∧
          other.Yields before visit outcome := by
      refine answeredOnce_of_first found ?_ ?_
      · intro other pursued kept
        obtain rfl := Visit.eq_of_pursued?_at pursued
        rw [kept] at follow
        exact ih follow
      · intro gone
        rw [gone] at follow
        exact Visit.ignores_of_follow_none follow
    refine once.congr ?_
    intro before visit after outcome shape
    constructor
    · intro yields
      exact ⟨work, Visit.pursued?_at (yields.head_heeded shape) entry work, yields⟩
    · rintro ⟨other, pursued, yields⟩
      exact Visit.eq_of_pursued?_at pursued ▸ yields

theorem Visit.begun_iff {caller : MemberId} {first visit : Visit} {before after rest : List Visit}
    (shape : first :: rest = before ++ visit :: after) :
    Visit.Begun caller request before visit work ↔ first.begins? caller request = some work := by
  cases before with
  | nil =>
    obtain ⟨rfl, -⟩ := List.cons.inj shape
    exact Iff.rfl
  | cons earlier before =>
    obtain ⟨rfl, -⟩ := List.cons.inj shape
    exact Iff.rfl

theorem answeredOnce_of_arrived (arrived : entry.stage = .arrived)
    (follow : Visit.Follow id (some entry) visits) :
    AnsweredOnce id entry.request visits (Visit.Brings entry.caller entry.request) := by
  cases visits with
  | nil => exact ⟨by simp, by simp⟩
  | cons first rest =>
    obtain ⟨found, follow⟩ := follow
    have begins : first.pursued? entry = first.begins? entry.caller entry.request := by
      rw [Visit.pursued?, arrived]
    have once : AnsweredOnce id entry.request (first :: rest) fun before visit outcome =>
        ∃ work, first.pursued? entry = some work ∧ work.Yields before visit outcome := by
      refine answeredOnce_of_first found ?_ ?_
      · intro work _ kept
        rw [kept] at follow
        exact answeredOnce_of_working follow
      · intro gone
        rw [gone] at follow
        exact Visit.ignores_of_follow_none follow
    refine once.congr ?_
    intro before visit after outcome shape
    simp only [Visit.Brings, Visit.begun_iff shape, begins]

theorem Visit.stage_after (visit : Visit) {kept : ServedRequest}
    (left : (visit.after id).request? id = some kept) : kept.stage ≠ .arrived := by
  cases found : visit.node.request? id with
  | none => simp [(Visit.ignores_of_missing found).2] at left
  | some entry =>
    cases Visit.comes found with
    | replies _ _ _ _ gone => simp [gone] at left
    | dropped _ _ _ gone => simp [gone] at left
    | goesOn _ _ _ _ _ kept =>
      obtain rfl := Option.some.inj (kept.symm.trans left)
      simp [ServedRequest.at]

theorem Visit.consults_nothing {left : Option ServedRequest} (follow : Visit.Follow id left visits)
    (begun : ∀ entry, left = some entry → entry.stage ≠ .arrived) :
    ∀ visit ∈ visits, visit.Consults id [] := by
  induction visits generalizing left with
  | nil => simp
  | cons first rest ih =>
    obtain ⟨found, follow⟩ := follow
    refine List.forall_mem_cons.mpr ⟨?_, ih follow fun _ => Visit.stage_after first⟩
    cases left with
    | none => exact Visit.consults_of_missing found
    | some entry =>
      have silent : first.calls entry = [] := by
        unfold Visit.calls
        cases stage : entry.stage with
        | arrived => exact absurd stage (begun entry rfl)
        | working => rfl
      exact silent ▸ Visit.consults found

/--
The visit ends the request without a reply: it looks at a stop first, or there is no work that could
bring an outcome, or it finds the work unfinished at its deadline or after the node has been told to
stop.
-/
def Visit.Forfeits (caller : MemberId) (request : Request) (before : List Visit) (visit : Visit) :
    Prop :=
  visit.isGivenUp = true ∨ ∀ work, Visit.Begun caller request before visit work →
    work.ending = .crashed ∨ visit.clock.now < work.due ∧
      (work.deadline ≤ visit.clock.now ∨ visit.node.stopRequested = true)

variable {caller : MemberId} {before between after : List Visit} {visit later : Visit}
  {outcome : Except Status Bytes}

theorem Visit.Forfeits.not_brings (forfeits : visit.Forfeits caller request before) :
    ¬ visit.Brings caller request before outcome := by
  rintro ⟨work, begun, yields⟩
  rcases forfeits with givenUp | fruitless
  · simp [yields.heeded] at givenUp
  · rcases fruitless work begun with crashed | ⟨early, -⟩
    · simp [yields.returned] at crashed
    · exact absurd yields.done (Nat.not_le.mpr early)

theorem Visit.begun_later (visit later : Visit) (before between : List Visit) (work : Work) :
    Visit.Begun caller request (before ++ visit :: between) later work ↔
      Visit.Begun caller request before visit work := by
  cases before <;> exact Iff.rfl

theorem Visit.Forfeits.not_brings_later (forfeits : visit.Forfeits caller request before) :
    ¬ later.Brings caller request (before ++ visit :: between) outcome := by
  rintro ⟨work, begun, yields⟩
  obtain ⟨going, -, timely⟩ := yields.pending visit (by simp)
  rcases forfeits with givenUp | fruitless
  · simp [Visit.isGivenUp, going] at givenUp
  · rcases fruitless work ((Visit.begun_later ..).mp begun) with crashed | ⟨-, overdue | stopped⟩
    · simp [yields.returned] at crashed
    · exact absurd overdue (Nat.not_le.mpr timely)
    · simp [going] at stopped

theorem AnsweredOnce.ignores_of_forfeits
    (once : AnsweredOnce id request visits (Visit.Brings caller request))
    (shape : visits = before ++ visit :: after) (forfeits : visit.Forfeits caller request before) :
    ∀ other ∈ visit :: after, other.node.Ignores (other.after id) := by
  refine List.forall_mem_cons.mpr ⟨?_, ?_⟩
  · exact once.ignores before visit after shape fun _ => forfeits.not_brings
  · intro later among
    obtain ⟨between, rest, rfl⟩ := List.append_of_mem among
    have regrouped : visits = (before ++ visit :: between) ++ later :: rest := by
      rw [shape, List.append_assoc]
      rfl
    exact once.ignores _ later rest regrouped fun _ => forfeits.not_brings_later

end

end ClusterCoordination
