import ClusterCoordination.Proofs.Lifecycle.Proceeding
import ClusterCoordination.Proofs.Nodes.Serving
/-!
# Visiting a request

A request that a node serves is visited whenever somebody is woken for it. The first visit begins
the work; the request is over at the visit that finds the work done or overdue, or the node told to
stop.
-/

set_option autoImplicit false

namespace ClusterCoordination

structure DispatchCall where
  caller : MemberId
  targetType : String
  method : String
  arguments : Arguments

def DispatchTable.answer (table : DispatchTable) (call : DispatchCall) : Invocation :=
  table.invoke call.caller call.targetType call.method call.arguments

structure Work where
  due : Instant
  deadline : Instant
  ending : Ending

structure Visit where
  node : Node
  clock : Clock
  -- The work is looked at before the stop: what is there by then still counts.
  workFirst : Bool

def ServedRequest.at (entry : ServedRequest) (work : Work) : ServedRequest :=
  { entry with stage := .working work.due work.deadline work.ending }

namespace Visit

section

variable (visit : Visit)

def after (id : RequestId) : Node := visit.node.attend visit.clock id visit.workFirst

def isGivenUp : Bool := visit.node.stopRequested && !visit.workFirst

/-- Wall clock time, as deadlines are told in it. -/
def wall : Nat := (UInt64.ofNat visit.clock.wall).toNat

/--
The call that is made for a request if this is the first visit to it: none if the request is given
up or its deadline is not ahead, and none if its arguments do not go with their types.
-/
def call? (caller : MemberId) (request : Request) : Option DispatchCall :=
  if visit.isGivenUp ∨ request.deadline.toNat ≤ visit.wall then none
  else if aligned : request.argumentTypes.length = request.arguments.length then
    some ⟨caller, request.targetType, request.method,
      ⟨request.argumentTypes, request.arguments, aligned⟩⟩
  else none

def mismatch (types arguments : Nat) : Status :=
  .invalidWith s!"Got {types} argument types for {arguments} arguments"

def begins? (caller : MemberId) (request : Request) : Option Work :=
  if visit.isGivenUp ∨ request.deadline.toNat ≤ visit.wall then none
  else
    let deadline := visit.clock.now + (request.deadline.toNat - visit.wall)
    match visit.call? caller request with
    | some call =>
      let invocation := visit.node.dispatchers.answer call
      some ⟨visit.clock.now + invocation.delay, deadline, invocation.ending⟩
    | none =>
      let status := mismatch request.argumentTypes.length request.arguments.length
      some ⟨visit.clock.now, deadline, .returned (.error status)⟩

/-- What the node does depends on its dispatchers only by what they say to these calls. -/
def Consults (id : RequestId) (calls : List DispatchCall) : Prop :=
  ∀ table : DispatchTable,
    (∀ call ∈ calls, table.answer call = visit.node.dispatchers.answer call) →
      ({ visit with node := visit.node.equipped table } : Visit).after id =
        (visit.after id).equipped table

end

variable {visit : Visit} {id : RequestId} {entry : ServedRequest}

/-- The work that is under way once the visit has begun it, unless the request is given up. -/
def pursued? (visit : Visit) (entry : ServedRequest) : Option Work :=
  match entry.stage with
  | .arrived => visit.begins? entry.caller entry.request
  | .working due deadline ending => if visit.isGivenUp then none else some ⟨due, deadline, ending⟩

def calls (visit : Visit) (entry : ServedRequest) : List DispatchCall :=
  match entry.stage with
  | .arrived => (visit.call? entry.caller entry.request).toList
  | .working .. => []

theorem localDeadline?_eq (visit : Visit) (deadline : UInt64) :
    visit.clock.localDeadline? deadline =
      if deadline.toNat ≤ visit.wall then none
      else some (visit.clock.now + (deadline.toNat - visit.wall)) := by
  have flipped : visit.clock.localDeadline? deadline =
      if visit.wall < deadline.toNat then some (visit.clock.now + (deadline.toNat - visit.wall))
      else none := rfl
  rw [flipped]
  by_cases late : deadline.toNat ≤ visit.wall
  · rw [if_neg (Nat.not_lt.mpr late), if_pos late]
  · rw [if_pos (Nat.not_le.mp late), if_neg late]

theorem beginServing_eq_work (heeded : visit.isGivenUp = false) (entry : ServedRequest) :
    visit.node.beginServing visit.clock entry =
      match visit.begins? entry.caller entry.request with
      | some work => visit.node.work visit.clock.now entry work.due work.deadline work.ending
      | none => visit.node.forgetRequest entry.id := by
  unfold Node.beginServing
  rw [visit.localDeadline?_eq]
  by_cases late : entry.request.deadline.toNat ≤ visit.wall
  · have nothing : visit.begins? entry.caller entry.request = none := if_pos (.inr late)
    rw [if_pos late, nothing]
  · have awaited : ¬ (visit.isGivenUp = true ∨ entry.request.deadline.toNat ≤ visit.wall) := by
      simp [heeded, late]
    rw [if_neg late, begins?, if_neg awaited, call?, if_neg awaited, Arguments.ofParts]
    by_cases matching : entry.request.argumentTypes.length = entry.request.arguments.length
    · rw [dif_pos matching, dif_pos matching]
      rfl
    · rw [dif_neg matching, dif_neg matching]
      -- What cannot be dispatched has its outcome at once.
      exact (if_pos (Nat.le_refl visit.clock.now)).symm

theorem serve_eq_work (visit : Visit) (going : visit.node.stopRequested = false)
    (found : visit.node.request? id = some entry) :
    visit.node.serve visit.clock id =
      match visit.pursued? entry with
      | some work => visit.node.work visit.clock.now entry work.due work.deadline work.ending
      | none => visit.node.forgetRequest id := by
  have heeded : visit.isGivenUp = false := by simp [isGivenUp, going]
  have listed : visit.node.served.find? (fun request => request.id = id) = some entry := found
  unfold Node.serve pursued?
  rw [listed]
  simp only [going, heeded, Bool.false_eq_true, if_false]
  cases entry.stage with
  | arrived =>
    rw [← Node.id_of_request? found]
    exact beginServing_eq_work heeded entry
  | working due deadline ending => rfl

inductive Comes (visit : Visit) (id : RequestId) (entry : ServedRequest) : Prop where
  | replies {work : Work} {outcome : Except Status Bytes}
      (pursued : visit.pursued? entry = some work) (done : work.due ≤ visit.clock.now)
      (returned : work.ending = .returned outcome)
      (replies : visit.node.Replies (visit.after id) entry.request outcome)
      (gone : (visit.after id).request? id = none)
  | dropped
      (finished : ∀ work, visit.pursued? entry = some work → visit.node.stopRequested = true ∨
        work.due ≤ visit.clock.now ∨ work.deadline ≤ visit.clock.now)
      (fruitless : ∀ work, visit.pursued? entry = some work → work.due ≤ visit.clock.now →
        work.ending = .crashed)
      (ignores : visit.node.Ignores (visit.after id))
      (gone : (visit.after id).request? id = none)
  | goesOn {work : Work} (pursued : visit.pursued? entry = some work)
      (going : visit.node.stopRequested = false) (early : visit.clock.now < work.due)
      (timely : visit.clock.now < work.deadline)
      (ignores : visit.node.Ignores (visit.after id))
      (kept : (visit.after id).request? id = some (entry.at work))

theorem comes_of_forgotten (left : visit.after id = visit.node.forgetRequest id)
    (finished : ∀ work, visit.pursued? entry = some work → visit.node.stopRequested = true ∨
      work.due ≤ visit.clock.now ∨ work.deadline ≤ visit.clock.now)
    (fruitless : ∀ work, visit.pursued? entry = some work → work.due ≤ visit.clock.now →
      work.ending = .crashed) : visit.Comes id entry := by
  refine .dropped finished fruitless ?_ ?_
  · rw [left]
    exact ⟨rfl, rfl⟩
  · rw [left, Node.request?_forgetRequest_self]

theorem comes_of_going (visit : Visit) (going : visit.node.stopRequested = false)
    (found : visit.node.request? id = some entry) : visit.Comes id entry := by
  have same := Node.id_of_request? found
  have left : visit.after id = visit.node.serve visit.clock id := by
    simp [after, Node.attend, going]
  rw [visit.serve_eq_work going found] at left
  cases pursued : visit.pursued? entry with
  | none =>
    rw [pursued] at left
    exact comes_of_forgotten left (by simp [pursued]) (by simp [pursued])
  | some work =>
    rw [pursued] at left
    dsimp only at left
    have only {other : Work} (begun : visit.pursued? entry = some other) : work = other :=
      Option.some.inj (pursued.symm.trans begun)
    -- The work is looked at before the deadline is.
    by_cases done : work.due ≤ visit.clock.now
    · cases returned : work.ending with
      | returned outcome =>
        rw [returned, Node.work_done done] at left
        refine .replies pursued done returned ?_ ?_
        · rw [left]
          exact visit.node.replies_answer entry outcome
        · rw [left, Node.request?_answer, same, Node.request?_forgetRequest_self]
      | crashed =>
        rw [returned, Node.work_of_crashed done, same] at left
        refine comes_of_forgotten left ?_ ?_
        · exact fun other begun => .inr (.inl (only begun ▸ done))
        · exact fun other begun _ => only begun ▸ returned
    · have early := Nat.not_le.mp done
      by_cases overdue : work.deadline ≤ visit.clock.now
      · rw [Node.work_of_overdue early overdue, same] at left
        refine comes_of_forgotten left ?_ ?_
        · exact fun other begun => .inr (.inr (only begun ▸ overdue))
        · exact fun other begun ended => absurd (only begun ▸ ended) done
      · have timely := Nat.not_le.mp overdue
        refine .goesOn pursued going early timely ?_ ?_
        · rw [left]
          exact Node.ignores_work early timely _ _ _
        · have listed : (visit.node.served.find? fun request => request.id = entry.id) =
              some entry := same ▸ found
          rw [left, Node.request?, ← same]
          exact Node.work_begun listed done timely work.ending

/-- The visit as it would be if the node had not been told to stop. -/
def calm (visit : Visit) : Visit :=
  { visit with node := { visit.node with stopRequested := false } }

def giveUp (node : Node) (id : RequestId) : Node :=
  { node with stopRequested := true }.forgetRequest id

theorem pursued?_calm (heeded : visit.isGivenUp = false) (entry : ServedRequest) :
    visit.calm.pursued? entry = visit.pursued? entry := by
  unfold pursued? begins? call?
  simp only [heeded]
  rfl

theorem after_eq (visit : Visit) (id : RequestId) :
    visit.after id =
      if visit.workFirst && visit.node.stopRequested then
        giveUp (visit.calm.node.serve visit.clock id) id
      else visit.node.serve visit.clock id := rfl

theorem after_eq_calm (visit : Visit) (stopped : visit.node.stopRequested = true)
    (first : visit.workFirst = true) :
    visit.after id = giveUp (visit.calm.node.serve visit.clock id) id := by
  simp [after_eq, stopped, first]

theorem after_eq_serve (visit : Visit)
    (either : visit.node.stopRequested = false ∨ visit.workFirst = false) :
    visit.after id = visit.node.serve visit.clock id := by
  rcases either with going | last
  · simp [after_eq, going]
  · simp [after_eq, last]

theorem pursued?_of_isGivenUp (givenUp : visit.isGivenUp = true) (entry : ServedRequest) :
    visit.pursued? entry = none := by
  unfold pursued?
  cases entry.stage with
  | arrived => exact if_pos (.inl givenUp)
  | working => exact if_pos givenUp

theorem comes (found : visit.node.request? id = some entry) : visit.Comes id entry := by
  cases stopped : visit.node.stopRequested with
  | false => exact visit.comes_of_going stopped found
  | true =>
    cases first : visit.workFirst with
    | false =>
      have givenUp : visit.isGivenUp = true := by simp [isGivenUp, stopped, first]
      have nothing := pursued?_of_isGivenUp givenUp entry
      have left : visit.after id = visit.node.forgetRequest id := by
        rw [visit.after_eq_serve (.inr first), Node.serve_of_stopped stopped found]
      exact comes_of_forgotten left (by simp [nothing]) (by simp [nothing])
    | true =>
      have heeded : visit.isGivenUp = false := by simp [isGivenUp, first]
      have sameWork := pursued?_calm heeded entry
      have calmly : visit.calm.after id = visit.calm.node.serve visit.clock id :=
        visit.calm.after_eq_serve (.inl rfl)
      have left : visit.after id = giveUp (visit.calm.after id) id := by
        rw [visit.after_eq_calm stopped first, calmly]
      have gone : (visit.after id).request? id = none := by
        rw [left, giveUp, Node.request?_forgetRequest_self]
      cases visit.calm.comes_of_going rfl found with
      | replies pursued done returned replies =>
        refine .replies (sameWork ▸ pursued) done returned ?_ gone
        rw [left]
        exact ⟨replies.traffic, replies.queued, replies.unmade⟩
      | dropped _ fruitless ignores =>
        rw [sameWork] at fruitless
        refine .dropped (fun _ _ => .inl stopped) fruitless ?_ gone
        rw [left]
        exact ⟨ignores.outbox, ignores.traffic⟩
      | @goesOn work pursued _ early _ ignores =>
        -- The stop is looked at next, and what goes on is given up.
        refine .dropped (fun _ _ => .inl stopped) ?_ ?_ gone
        · intro other begun done
          obtain rfl := Option.some.inj (pursued.symm.trans (sameWork.trans begun))
          exact absurd done (Nat.not_le.mpr early)
        · rw [left]
          exact ⟨ignores.outbox, ignores.traffic⟩

theorem after_of_missing (missing : visit.node.request? id = none) :
    visit.after id =
      if visit.workFirst && visit.node.stopRequested then giveUp visit.calm.node id
      else visit.node := by
  have calmMissing : visit.calm.node.request? id = none := missing
  rw [after_eq, Node.serve_of_missing missing, Node.serve_of_missing calmMissing]

theorem ignores_of_missing (missing : visit.node.request? id = none) :
    visit.node.Ignores (visit.after id) ∧ (visit.after id).request? id = none := by
  rw [after_of_missing missing]
  split
  · exact ⟨⟨rfl, rfl⟩, Node.request?_forgetRequest_self _ id⟩
  · exact ⟨.refl visit.node, missing⟩

theorem touchesOnly_giveUp (node : Node) (id : RequestId) :
    node.TouchesOnly id (giveUp node id) := by
  have forgotten := Node.touchesOnly_forgetRequest { node with stopRequested := true } id
  exact ⟨forgotten.nextRequest, forgotten.others⟩

theorem touchesOnly_after (visit : Visit) (id : RequestId) :
    visit.node.TouchesOnly id (visit.after id) := by
  rw [after_eq]
  split
  · have worked := visit.calm.node.touchesOnly_serve visit.clock id
    have givenUp := touchesOnly_giveUp (visit.calm.node.serve visit.clock id) id
    refine ⟨givenUp.nextRequest.trans worked.nextRequest, ?_⟩
    intro other different
    exact (givenUp.others other different).trans (worked.others other different)
  · exact visit.node.touchesOnly_serve visit.clock id

def equipped (visit : Visit) (table : DispatchTable) : Visit :=
  { visit with node := visit.node.equipped table }

theorem pursued?_equipped {table : DispatchTable}
    (agrees : ∀ call ∈ visit.calls entry,
      table.answer call = visit.node.dispatchers.answer call) :
    (visit.equipped table).pursued? entry = visit.pursued? entry := by
  unfold pursued?
  unfold calls at agrees
  cases stage : entry.stage with
  | working => rfl
  | arrived =>
    have sameCall : (visit.equipped table).call? entry.caller entry.request =
        visit.call? entry.caller entry.request := rfl
    rw [stage] at agrees
    dsimp only at agrees ⊢
    unfold begins?
    rw [sameCall]
    cases called : visit.call? entry.caller entry.request with
    | none => rfl
    | some call =>
      have sameAnswer : (visit.equipped table).node.dispatchers.answer call =
          visit.node.dispatchers.answer call := agrees call (by simp [called])
      dsimp only
      rw [sameAnswer]
      rfl

theorem serve_equipped (visit : Visit) {table : DispatchTable}
    (going : visit.node.stopRequested = false) (found : visit.node.request? id = some entry)
    (agrees : ∀ call ∈ visit.calls entry,
      table.answer call = visit.node.dispatchers.answer call) :
    (visit.node.equipped table).serve visit.clock id =
      (visit.node.serve visit.clock id).equipped table := by
  have equipped := (visit.equipped table).serve_eq_work going found
  rw [pursued?_equipped agrees] at equipped
  refine equipped.trans ?_
  rw [visit.serve_eq_work going found]
  cases visit.pursued? entry with
  | none => rfl
  | some work => exact visit.node.work_equipped table _ entry _ _ _

theorem calls_calm (heeded : visit.isGivenUp = false) (entry : ServedRequest) :
    visit.calm.calls entry = visit.calls entry := by
  unfold calls call?
  simp only [heeded]
  rfl

theorem consults (found : visit.node.request? id = some entry) :
    visit.Consults id (visit.calls entry) := by
  intro table agrees
  change (visit.equipped table).after id = _
  cases stopped : visit.node.stopRequested with
  | false =>
    rw [visit.after_eq_serve (.inl stopped), (visit.equipped table).after_eq_serve (.inl stopped)]
    exact visit.serve_equipped stopped found agrees
  | true =>
    cases first : visit.workFirst with
    | false =>
      have equippedStopped : (visit.equipped table).node.stopRequested = true := stopped
      rw [visit.after_eq_serve (.inr first), (visit.equipped table).after_eq_serve (.inr first),
        Node.serve_of_stopped stopped found]
      exact Node.serve_of_stopped equippedStopped found visit.clock
    | true =>
      have heeded : visit.isGivenUp = false := by simp [isGivenUp, first]
      have worked := visit.calm.serve_equipped rfl found
        (fun call among => agrees call (calls_calm heeded entry ▸ among))
      rw [visit.after_eq_calm stopped first, (visit.equipped table).after_eq_calm stopped first]
      exact congrArg (giveUp · id) worked

theorem consults_of_missing (missing : visit.node.request? id = none) : visit.Consults id [] := by
  intro table _
  have equippedMissing : (visit.equipped table).node.request? id = none := missing
  rw [after_of_missing missing]
  refine (after_of_missing equippedMissing).trans ?_
  by_cases both : (visit.workFirst && visit.node.stopRequested) = true
  · rw [if_pos both]
    exact if_pos both
  · rw [if_neg both]
    exact if_neg both

end Visit

end ClusterCoordination
