import ClusterCoordination.Node.Calling
/-!
# The caller of a remote call

A caller looks for news of its call, and anything may happen between two looks. When it finds none
it goes to the table of pending calls, and someone else may have been there since it looked. Here
what a caller does is taken apart into the steps that nothing can interrupt.
-/

set_option autoImplicit false

namespace ClusterCoordination

/-- Where the caller of a remote call stands between two steps. -/
inductive CallerPoint where
  -- It waits for the acknowledgement of its request.
  | sending
  -- It has seen that the request was not sent.
  | refused (fault : NetworkFault)
  | waiting
  -- It has seen that there was no outcome at the deadline.
  | overdue
  -- Someone else had removed the call when it came to do so.
  | late
  | returned (result : CallResult)
  -- It has been told that the node is to stop.
  | stopped (result : CallResult)
  | dropped

def CallerPoint.isOver : CallerPoint → Bool
  | .sending | .refused _ | .waiting | .overdue | .late => false
  | .returned _ | .stopped _ | .dropped => true

structure Caller where
  id : CallId
  target : MemberId
  deadline : Instant
  point : CallerPoint

namespace Caller

def stage (caller : Caller) : CallStage :=
  match caller.point with
  | .sending | .refused _ => .sending
  | .waiting | .overdue | .late | .returned _ | .stopped _ | .dropped => .waiting

def call (caller : Caller) : RemoteCall := ⟨caller.id, caller.target, caller.deadline, caller.stage⟩

def ofCall (call : RemoteCall) : Caller where
  id := call.id
  target := call.target
  deadline := call.deadline
  point :=
    match call.stage with
    | .sending => .sending
    | .waiting => .waiting

def moveTo (caller : Caller) (point : CallerPoint) : Caller := { caller with point := point }

def branch (caller : Caller) : Branch :=
  match caller.point with
  | .returned result | .stopped result => .settled result
  | .dropped => .broken
  | .sending | .refused _ | .waiting | .overdue | .late => .remotely caller.call

end Caller

namespace Node

def conclude (node : Node) (caller : Caller) (result : CallResult) : Node × Caller :=
  (node.abandon caller.call, caller.moveTo (.returned result))

def look (node : Node) (now : Instant) (caller : Caller) : Node × Caller :=
  match caller.point with
  | .sending =>
    match node.acknowledgement? caller.id with
    | some ⟨_, .error fault⟩ => (node, caller.moveTo (.refused fault))
    | some ⟨_, .ok ()⟩ => (node, caller.moveTo .waiting)
    | none => (node, if now < caller.deadline then caller else caller.moveTo .waiting)
  | .refused fault =>
    match node.takeCall caller.id with
    | (node, true) => node.conclude caller (.error (.unreachable caller.target fault.message))
    | (node, false) => (node, caller.moveTo .waiting)
  | .waiting =>
    match node.delivery? caller.id with
    | some delivery => node.conclude caller delivery.result
    | none => (node, if now < caller.deadline then caller else caller.moveTo .overdue)
  | .overdue =>
    match node.takeCall caller.id with
    | (node, true) => (node.countTimeouts 1).conclude caller (.error .timeout)
    | (node, false) => (node, caller.moveTo .late)
  | .late =>
    match node.delivery? caller.id with
    | some delivery => node.conclude caller delivery.result
    | none => node.conclude caller (.error .timeout)
  | .returned _ | .stopped _ | .dropped => (node, caller)

def looks (now : Instant) : Nat → Node × Caller → Node × Caller
  | 0, state => state
  | steps + 1, (node, caller) => looks now steps (node.look now caller)

theorem looks_of_look_eq {node : Node} {now : Instant} {caller : Caller}
    (still : node.look now caller = (node, caller)) (steps : Nat) :
    looks now steps (node, caller) = (node, caller) := by
  induction steps with
  | zero => rfl
  | succ steps ih => rw [looks, still, ih]

theorem look_of_isOver {node : Node} {now : Instant} {caller : Caller}
    (finished : caller.point.isOver = true) : node.look now caller = (node, caller) := by
  unfold look
  cases point : caller.point <;> simp_all [CallerPoint.isOver]

@[simp] theorem looks_conclude (node : Node) (now : Instant) (caller : Caller) (result : CallResult)
    (steps : Nat) : looks now steps (node.conclude caller result) = node.conclude caller result :=
  looks_of_look_eq (look_of_isOver rfl) steps

@[simp] theorem delivery?_takeCall (node : Node) (id other : CallId) :
    (node.takeCall id).1.delivery? other = node.delivery? other := rfl

section

variable (node : Node) (now : Instant) (caller : Caller)

theorem looks_overdue (overdue : caller.point = .overdue)
    (missing : node.delivery? caller.id = none) (steps : Nat) :
    looks now (steps + 2) (node, caller) =
      match node.takeCall caller.id with
      | (rest, true) => (rest.countTimeouts 1).conclude caller (.error .timeout)
      | (rest, false) => rest.conclude (caller.moveTo .late) (.error .timeout) := by
  rw [looks]
  have kept := delivery?_takeCall node caller.id caller.id
  cases taken : node.takeCall caller.id with
  | mk rest claimed =>
    rw [taken, missing] at kept
    cases claimed with
    | true =>
      have concluded : node.look now caller =
          (rest.countTimeouts 1).conclude caller (.error .timeout) := by
        simp [look, overdue, taken]
      rw [concluded, looks_conclude]
    | false =>
      -- Nothing happens between the two looks, so no outcome can have come.
      have resolved : node.look now caller = (rest, caller.moveTo .late) := by
        simp [look, overdue, taken]
      have concluded : rest.look now (caller.moveTo .late) =
          rest.conclude (caller.moveTo .late) (.error .timeout) := by
        simp [look, Caller.moveTo, kept]
      rw [resolved, looks, concluded, looks_conclude]

theorem looks_waiting (call : RemoteCall) (steps : Nat) :
    let caller : Caller := ⟨call.id, call.target, call.deadline, .waiting⟩
    node.awaitOutcome now call =
      ((looks now (steps + 3) (node, caller)).1,
        (looks now (steps + 3) (node, caller)).2.branch) := by
  intro caller
  unfold awaitOutcome
  rw [looks]
  cases found : node.delivery? call.id with
  | some delivery =>
    have concluded : node.look now caller = node.conclude caller delivery.result := by
      simp [look, caller, found]
    rw [concluded, looks_conclude]
    rfl
  | none =>
    by_cases early : now < call.deadline
    · have still : node.look now caller = (node, caller) := by
        simp [look, caller, found, early]
      rw [still, looks_of_look_eq still]
      simp only [early, if_true]
      rfl
    · have moved : node.look now caller = (node, caller.moveTo .overdue) := by
        simp [look, caller, found, early]
      have overdue := looks_overdue node now (caller.moveTo .overdue) rfl found steps
      have same : (caller.moveTo .overdue).id = call.id := rfl
      rw [moved, overdue, same]
      simp only [early, if_false]
      cases taken : node.takeCall call.id with
      | mk rest claimed => cases claimed <;> rfl

theorem looks_refused {fault : NetworkFault} (refused : caller.point = .refused fault)
    (steps : Nat) :
    (match node.takeCall caller.id with
      | (rest, true) =>
        rest.settle caller.call (.error (.unreachable caller.target fault.message))
      | (rest, false) => rest.awaitOutcome now caller.call) =
      ((looks now (steps + 4) (node, caller)).1,
        (looks now (steps + 4) (node, caller)).2.branch) := by
  rw [looks]
  cases taken : node.takeCall caller.id with
  | mk rest claimed =>
    cases claimed with
    | true =>
      have concluded : node.look now caller =
          rest.conclude caller (.error (.unreachable caller.target fault.message)) := by
        simp [look, refused, taken]
      rw [concluded, looks_conclude]
      rfl
    | false =>
      have resolved : node.look now caller = (rest, caller.moveTo .waiting) := by
        simp [look, refused, taken]
      rw [resolved]
      exact looks_waiting rest now caller.call steps

end

/-- A poll is as many steps as a caller ever needs from where it waits. -/
theorem pollRemote_eq_looks (node : Node) (now : Instant) (call : RemoteCall) :
    node.pollRemote now call =
      ((looks now 5 (node, .ofCall call)).1, (looks now 5 (node, .ofCall call)).2.branch) := by
  obtain ⟨id, target, deadline, stage⟩ := call
  let caller : Caller := .ofCall ⟨id, target, deadline, stage⟩
  cases stage with
  | waiting => exact looks_waiting node now ⟨id, target, deadline, .waiting⟩ 2
  | sending =>
    unfold pollRemote
    rw [looks]
    change _ =
      ((looks now 4 (node.look now caller)).1, (looks now 4 (node.look now caller)).2.branch)
    have sending : caller.point = .sending := rfl
    have same : caller.id = id := rfl
    cases acknowledged : node.acknowledgement? id with
    | none =>
      by_cases early : now < deadline
      · have still : node.look now caller = (node, caller) := by
          simp only [look, sending, same, acknowledged]
          simp [caller, Caller.ofCall, early]
        rw [still, looks_of_look_eq still]
        simp only [early, if_true]
        rfl
      · have moved : node.look now caller = (node, caller.moveTo .waiting) := by
          simp only [look, sending, same, acknowledged]
          simp [caller, Caller.ofCall, early]
        rw [moved]
        simp only [early, if_false]
        exact looks_waiting node now ⟨id, target, deadline, .sending⟩ 1
    | some acknowledgement =>
      obtain ⟨receipt, result⟩ := acknowledgement
      cases result with
      | ok sent =>
        have moved : node.look now caller = (node, caller.moveTo .waiting) := by
          simp only [look, sending, same, acknowledged]
        rw [moved]
        exact looks_waiting node now ⟨id, target, deadline, .sending⟩ 1
      | error fault =>
        have moved : node.look now caller = (node, caller.moveTo (.refused fault)) := by
          simp only [look, sending, same, acknowledged]
        rw [moved]
        exact looks_refused node now (caller.moveTo (.refused fault)) rfl 0

end Node

end ClusterCoordination
