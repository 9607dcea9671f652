import ClusterCoordination.Proofs.Lifecycle.Proceeding
/-!
# Calls of a node that stops

The caller of a node that has been told to stop waits for nothing more: when it goes on, it is given
what has come for it by then, or else that the call has been cancelled.
-/

set_option autoImplicit false

namespace ClusterCoordination

/-- The local invocation has broken off, and takes its caller along. -/
def Branch.HasCrashed (now : Instant) : Branch → Prop
  | .broken => True
  | .locally due _ .crashed => due ≤ now
  | .locally _ _ (.returned _) | .settled _ | .remotely _ => False

namespace Node

/--
The outcome of a call is there: a local invocation has returned, an outcome has been delivered, the
request could not be sent or the time of the call is up.
-/
inductive AtHand (node : Node) (now : Instant) : Branch → CallResult → Prop where
  | settled (result : CallResult) : AtHand node now (.settled result) result
  | returned {due deadline : Instant} {outcome : Except Status Bytes} (done : due ≤ now) :
      AtHand node now (.locally due deadline (.returned outcome)) (.ofOutcome outcome node.id)
  | outworked {due deadline : Instant} {ending : Ending} (working : now < due)
      (late : deadline ≤ now) :
      AtHand node now (.locally due deadline ending) (.error .timeout)
  | delivered {call : RemoteCall} {delivery : Delivery}
      (found : node.delivery? call.id = some delivery) :
      AtHand node now (.remotely call) delivery.result
  | refused {call : RemoteCall} {receipt : Receipt} {fault : NetworkFault}
      (pending : call.id ∈ node.pending.ids)
      (failed : node.acknowledgement? call.id = some ⟨receipt, .error fault⟩) :
      AtHand node now (.remotely call) (.error (.unreachable call.target fault.message))
  | overdue {call : RemoteCall} (unheard : node.delivery? call.id = none)
      (late : call.deadline ≤ now) :
      AtHand node now (.remotely call) (.error .timeout)

section

variable {node : Node} {now : Instant}

theorem awaitOutcome_atHand (node : Node) (now : Instant) (call : RemoteCall) :
    (∃ result, node.AtHand now (.remotely call) result ∧
      (node.awaitOutcome now call).2 = .settled result) ∨
    ∃ later, (node.awaitOutcome now call).2 = .remotely later := by
  unfold awaitOutcome
  split
  next delivery found => exact .inl ⟨_, .delivered found, rfl⟩
  next unheard =>
    split
    next => exact .inr ⟨_, rfl⟩
    next due =>
      have late : call.deadline ≤ now := Nat.not_lt.mp due
      left
      split <;> exact ⟨_, .overdue unheard late, rfl⟩

theorem pollRemote_atHand (node : Node) (now : Instant) (call : RemoteCall) :
    (∃ result, node.AtHand now (.remotely call) result ∧
      (node.pollRemote now call).2 = .settled result) ∨
    ∃ later, (node.pollRemote now call).2 = .remotely later := by
  unfold pollRemote
  split
  · exact node.awaitOutcome_atHand now call
  · split
    · split
      · exact .inr ⟨_, rfl⟩
      · exact node.awaitOutcome_atHand now call
    · exact node.awaitOutcome_atHand now call
    next receipt fault failed =>
      by_cases pending : call.id ∈ node.pending.ids
      · rw [takeCall_of_mem pending]
        exact .inl ⟨_, .refused pending failed, rfl⟩
      · rw [takeCall_of_not_mem pending]
        exact node.awaitOutcome_atHand now call

theorem unlessStopped_cancels (told : node.stopRequested = true) (branch : Branch) :
    (∃ result, branch = .settled result ∧ (node.unlessStopped branch).2 = .settled result) ∨
      (branch = .broken ∧ (node.unlessStopped branch).2 = .broken) ∨
      (node.unlessStopped branch).2 = .settled (.error .cancelled) := by
  simp only [unlessStopped, told, if_true]
  cases branch with
  | settled result => exact .inl ⟨result, rfl, rfl⟩
  | broken => exact .inr (.inl ⟨rfl, rfl⟩)
  | locally due deadline ending => exact .inr (.inr rfl)
  | remotely call => exact .inr (.inr rfl)

theorem resume_ends (told : node.stopRequested = true) (now : Instant) (stopFirst : Bool)
    (branch : Branch) :
    (∃ result, (node.resume now stopFirst branch).2 = .settled result ∧
      (result = .error .cancelled ∨ node.AtHand now branch result)) ∨
    ((node.resume now stopFirst branch).2 = .broken ∧ branch.HasCrashed now) := by
  have gives {branch after : Branch}
      (ends : (∃ result, branch = .settled result ∧ after = .settled result) ∨
      (branch = .broken ∧ after = .broken) ∨ after = .settled (.error .cancelled)) :
      (∃ result, after = .settled result ∧
        (result = .error .cancelled ∨ node.AtHand now branch result)) ∨
      (after = .broken ∧ branch.HasCrashed now) := by
    rcases ends with ⟨result, rfl, rfl⟩ | ⟨rfl, rfl⟩ | rfl
    · exact .inl ⟨result, rfl, .inr (.settled result)⟩
    · exact .inr ⟨rfl, trivial⟩
    · exact .inl ⟨_, rfl, .inl rfl⟩
  -- Whichever is looked at first, an outcome that is there ends the call, and so does the stop.
  unfold resume
  split
  · exact gives (unlessStopped_cancels told branch)
  · cases branch with
    | settled result => exact .inl ⟨result, rfl, .inr (.settled result)⟩
    | broken => exact .inr ⟨rfl, trivial⟩
    | locally due deadline ending =>
      simp only [pollBranch]
      split
      next done =>
        cases ending with
        | returned outcome => exact .inl ⟨_, rfl, .inr (.returned done)⟩
        | crashed => exact .inr ⟨rfl, done⟩
      next working =>
        split
        next late => exact .inl ⟨_, rfl, .inr (.outworked (Nat.not_le.mp working) late)⟩
        next => exact gives (unlessStopped_cancels told _)
    | remotely call =>
      have stillTold : (node.pollRemote now call).1.stopRequested = true :=
        (node.polls_pollRemote now call).notifies.stopRequested.trans told
      simp only [pollBranch]
      rcases node.pollRemote_atHand now call with ⟨result, atHand, polled⟩ | ⟨later, polled⟩
      · rw [polled]
        refine .inl ⟨result, ?_, .inr atHand⟩
        simp [unlessStopped]
      · rw [polled]
        rcases unlessStopped_cancels stillTold (.remotely later) with
          ⟨_, same, -⟩ | ⟨same, -⟩ | cancelled
        · simp at same
        · simp at same
        · exact .inl ⟨_, cancelled, .inl rfl⟩

end

end Node

end ClusterCoordination
