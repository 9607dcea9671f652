import ClusterCoordination.Node.Calling
/-!
# Polling and placing calls

A caller that polls its calls takes them from the table, counts those that are overdue and gives up
those that are settled, in some order. One that places calls begins them with members that are alive
and polls what it has begun. What either leaves alone is what each of these steps leaves alone.
-/

set_option autoImplicit false

namespace ClusterCoordination

namespace Node

/-- What callers do to a node as they poll calls. -/
inductive Polls (before : Node) : Node → Prop
  | refl : before.Polls before
  | take {node : Node} (polled : before.Polls node) (id : CallId) : before.Polls
      (node.takeCall id).1
  | count {node : Node} (polled : before.Polls node) (count : Nat) :
      before.Polls (node.countTimeouts count)
  | abandon {node : Node} (polled : before.Polls node) (call : RemoteCall) :
      before.Polls (node.abandon call)

/-- What callers do to a node as they place calls. -/
inductive Places (before : Node) : Node → Prop
  | refl : before.Places before
  | remote {node : Node} {id : MemberId} {member : Member} (placed : before.Places node)
      (other : id ≠ node.id) (alive : node.aliveMember id = .ok member) (clock : Clock)
      (request : CallRequest) (timeout : Duration) :
      before.Places (node.beginRemote clock member request timeout).1
  | polls {node after : Node} (placed : before.Places node) (polled : node.Polls after) :
      before.Places after

section

variable {first second third : Node}

theorem Polls.trans (one : first.Polls second) (two : second.Polls third) : first.Polls third := by
  induction two with
  | refl => exact one
  | take _ id ih => exact ih.take id
  | count _ count ih => exact ih.count count
  | abandon _ call ih => exact ih.abandon call

theorem Places.trans (one : first.Places second) (two : second.Places third) :
    first.Places third := by
  induction two with
  | refl => exact one
  | remote _ other alive clock request timeout ih =>
    exact ih.remote other alive clock request timeout
  | polls _ polled ih => exact ih.polls polled

end

section

variable (node : Node) (now : Instant)

theorem polls_settle (call : RemoteCall) (result : CallResult) :
    node.Polls (node.settle call result).1 :=
  .abandon .refl call

theorem polls_awaitOutcome (call : RemoteCall) : node.Polls (node.awaitOutcome now call).1 := by
  unfold awaitOutcome
  split
  · exact node.polls_settle call _
  · split
    · exact .refl
    · have taken : node.Polls (node.takeCall call.id).1 := .take .refl call.id
      split
      next claimed result =>
        rw [result] at taken
        exact (taken.count 1).trans (polls_settle _ call _)
      next missed result =>
        rw [result] at taken
        exact taken.trans (missed.polls_settle call _)

theorem polls_pollRemote (call : RemoteCall) : node.Polls (node.pollRemote now call).1 := by
  unfold pollRemote
  split
  · exact node.polls_awaitOutcome now call
  · split
    · split
      · exact .refl
      · exact node.polls_awaitOutcome now call
    · exact node.polls_awaitOutcome now call
    · have taken : node.Polls (node.takeCall call.id).1 := .take .refl call.id
      split
      next claimed result =>
        rw [result] at taken
        exact taken.trans (claimed.polls_settle call _)
      next missed result =>
        rw [result] at taken
        exact taken.trans (missed.polls_awaitOutcome now call)

theorem polls_unlessStopped (branch : Branch) : node.Polls (node.unlessStopped branch).1 := by
  unfold unlessStopped
  split
  · split
    · exact .refl
    · exact node.polls_settle _ _
    · exact .refl
    · exact .refl
  · exact .refl

theorem polls_pollBranch (branch : Branch) : node.Polls (node.pollBranch now branch).1 := by
  unfold pollBranch
  split
  · exact .refl
  · exact .refl
  · split
    · split <;> exact .refl
    · split
      · exact .refl
      · exact node.polls_unlessStopped _
  next call => exact (node.polls_pollRemote now call).trans (polls_unlessStopped _ _)

theorem polls_pollBranches (branches : List (MemberId × Branch)) :
    node.Polls (pollBranches now branches node).1 := by
  induction branches generalizing node with
  | nil => exact .refl
  | cons branch rest ih => exact (node.polls_pollBranch now branch.2).trans (ih _)

theorem polls_abandonBranches (branches : List (MemberId × Branch)) :
    node.Polls (node.abandonBranches branches) := by
  unfold abandonBranches
  induction branches generalizing node with
  | nil => exact .refl
  | cons branch rest ih =>
    refine Polls.trans ?_ (ih _)
    obtain ⟨target, branch⟩ := branch
    cases branch with
    | remotely call => exact .abandon .refl call
    | settled | locally | broken => exact .refl

end

section

variable (node : Node) (clock : Clock) (request : CallRequest) (timeout : Duration)

theorem places_beginBranch (target : MemberId) :
    node.Places (node.beginBranch clock target request timeout).1 := by
  unfold beginBranch
  split
  next => exact .polls .refl (node.polls_pollBranch clock.now _)
  next other =>
    split
    next => exact .refl
    next member alive =>
      exact .polls (.remote .refl other alive clock request timeout)
        (polls_pollBranch _ clock.now _)

theorem places_beginBranches (targets : List MemberId) :
    node.Places (beginBranches clock request timeout targets node).1 := by
  induction targets generalizing node with
  | nil => exact .refl
  | cons target rest ih =>
    exact (node.places_beginBranch clock request timeout target).trans (ih _)

end

theorem places_beginCall {node after : Node} {clock : Clock} {targets : List MemberId}
    {request : CallRequest} {timeout : Option Duration} {branches : List (MemberId × Branch)}
    (begun : node.beginCall clock targets request timeout = .ok (after, branches)) :
    node.Places after := by
  unfold beginCall at begun
  split at begun
  · simp at begun
  · have result : (beginBranches clock request (timeout.getD node.config.callTimeout) targets
        node).1 = after := congrArg Prod.fst (Except.ok.inj begun)
    exact result ▸ node.places_beginBranches clock request _ targets

end Node

end ClusterCoordination
