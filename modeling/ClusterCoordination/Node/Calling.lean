import ClusterCoordination.Node.Sending
/-!
# Calling members

A call to another member is registered, sent, and waits for its outcome until its deadline. A call
to the local member invokes the dispatcher at once, and no frame is sent.
-/

set_option autoImplicit false

namespace ClusterCoordination

inductive CallStage where
  -- The request has been queued and not been acknowledged.
  | sending
  | waiting
deriving DecidableEq

structure RemoteCall where
  id : CallId
  target : MemberId
  deadline : Instant
  stage : CallStage
deriving DecidableEq

inductive Branch where
  | settled (result : CallResult)
  | locally (due deadline : Instant) (ending : Ending)
  | remotely (call : RemoteCall)
  -- The local invocation broke off, or a deadline cannot be represented, and the caller broke off
  -- too.
  | broken

structure CallRequest where
  targetType : String
  method : String
  arguments : Arguments

namespace Node

def takeCall (node : Node) (id : CallId) : Node × Bool :=
  let (pending, claimed) := node.pending.take id
  ({ node with pending := pending }, claimed)

def abandon (node : Node) (call : RemoteCall) : Node :=
  let (node, _) := node.takeCall call.id
  { node with
    deliveries := node.deliveries.filter fun delivery => delivery.call ≠ call.id
    acknowledgements := node.acknowledgements.filter fun acknowledgement =>
      acknowledgement.receipt ≠ .call call.id }

def settle (node : Node) (call : RemoteCall) (result : CallResult) : Node × Branch :=
  (node.abandon call, .settled result)

def requestFrame (node : Node) (clock : Clock) (id : CallId) (request : CallRequest)
    (timeout : Duration) : Request where
  correlation := id
  targetType := request.targetType
  method := request.method
  argumentTypes := request.arguments.tags
  arguments := request.arguments.payloads
  deadline := clock.wireDeadline timeout
  replyAddress := node.config.publicAddress

def registerCall (node : Node) (target : MemberId) (deadline : Instant) : Node × RemoteCall :=
  let (pending, id) := node.pending.register target deadline
  ({ node with pending := pending }, ⟨id, target, deadline, .sending⟩)

def countIssued (node : Node) : Node :=
  { node with traffic := { node.traffic with issued := node.traffic.issued + 1 } }

def beginRemote (node : Node) (clock : Clock) (target : Member) (request : CallRequest)
    (timeout : Duration) : Node × Branch :=
  let (registered, call) := node.registerCall target.id (clock.now + timeout)
  match registered.frame RawScope.request
      ⟨.request, node.requestFrame clock call.id request timeout⟩ with
  | .error error => registered.settle call (.error error)
  | .ok data =>
    (registered.countIssued.push target.address ⟨data, some (.call call.id)⟩, .remotely call)

def awaitOutcome (node : Node) (now : Instant) (call : RemoteCall) : Node × Branch :=
  match node.delivery? call.id with
  | some delivery => node.settle call delivery.result
  | none =>
    if now < call.deadline then (node, .remotely { call with stage := .waiting })
    else
      match node.takeCall call.id with
      | (node, true) =>
        -- Whoever removes the call counts it.
        (node.countTimeouts 1).settle call (.error .timeout)
      | (node, false) => node.settle call (.error .timeout)

def pollRemote (node : Node) (now : Instant) (call : RemoteCall) : Node × Branch :=
  match call.stage with
  | .waiting => node.awaitOutcome now call
  | .sending =>
    match node.acknowledgement? call.id with
    | none => if now < call.deadline then (node, .remotely call) else node.awaitOutcome now call
    | some ⟨_, .ok ()⟩ => node.awaitOutcome now call
    | some ⟨_, .error fault⟩ =>
      match node.takeCall call.id with
      | (node, true) => node.settle call (.error (.unreachable call.target fault.message))
      -- Someone else has removed the call, and its outcome is on its way.
      | (node, false) => node.awaitOutcome now call

def unlessStopped (node : Node) (branch : Branch) : Node × Branch :=
  if node.stopRequested then
    match branch with
    | .locally .. => (node, .settled (.error .cancelled))
    | .remotely call => node.settle call (.error .cancelled)
    | .settled _ | .broken => (node, branch)
  else (node, branch)

def pollBranch (node : Node) (now : Instant) (branch : Branch) : Node × Branch :=
  match branch with
  | .settled _ | .broken => (node, branch)
  | .locally due deadline ending =>
    -- An outcome that is there counts, even at the deadline.
    if due ≤ now then
      match ending with
      | .returned outcome => (node, .settled (.ofOutcome outcome node.id))
      | .crashed => (node, .broken)
    else if deadline ≤ now then (node, .settled (.error .timeout))
    else node.unlessStopped branch
  | .remotely call =>
    let (node, branch) := node.pollRemote now call
    node.unlessStopped branch

def localBranch (node : Node) (clock : Clock) (caller : MemberId) (request : CallRequest)
    (timeout : Duration) : Branch :=
  let invocation := node.dispatchers.invoke caller request.targetType request.method
    request.arguments
  .locally (clock.now + invocation.delay) (clock.now + timeout) invocation.ending

def beginBranch (node : Node) (clock : Clock) (target : MemberId) (request : CallRequest)
    (timeout : Duration) : Node × Branch :=
  if target = node.id then
    node.pollBranch clock.now (node.localBranch clock target request timeout)
  else
    match node.aliveMember target with
    | .error error => (node, .settled (.error error))
    | .ok member =>
      let (node, branch) := node.beginRemote clock member request timeout
      node.pollBranch clock.now branch

def beginBranches (clock : Clock) (request : CallRequest) (timeout : Duration) :
    List MemberId → Node → Node × List (MemberId × Branch)
  | [], node => (node, [])
  | target :: rest, node =>
    let (node, branch) := node.beginBranch clock target request timeout
    let (node, branches) := beginBranches clock request timeout rest node
    (node, (target, branch) :: branches)

def pollBranches (now : Instant) :
    List (MemberId × Branch) → Node → Node × List (MemberId × Branch)
  | [], node => (node, [])
  | (target, branch) :: rest, node =>
    let (node, branch) := node.pollBranch now branch
    let (node, branches) := pollBranches now rest node
    (node, (target, branch) :: branches)

/--
Calls a method on members at once. The timeout is the configured one if none is given.
-/
def beginCall (node : Node) (clock : Clock) (targets : List MemberId) (request : CallRequest)
    (timeout : Option Duration) : Except ClusterError (Node × List (MemberId × Branch)) :=
  match node.whenRunning () with
  | .error error => .error error
  | .ok () =>
    .ok (beginBranches clock request (timeout.getD node.config.callTimeout) targets node)

def asksOthers (node : Node) (targets : List MemberId) : Bool :=
  targets.any fun target => target ≠ node.id && (node.aliveMember target).toOption.isSome

/--
Begins a call. Whoever asks another member breaks off if a deadline of it cannot be represented.
-/
def placeCall (node : Node) (clock : Clock) (targets : List MemberId) (request : CallRequest)
    (timeout : Option Duration) : Except ClusterError (Node × List (MemberId × Branch)) :=
  let limit := timeout.getD node.config.callTimeout
  match clock.deadline? limit, clock.wireDeadline? limit with
  | some _, some _ => node.beginCall clock targets request timeout
  | _, _ =>
    if node.asksOthers targets then
      node.whenRunning (node, targets.map fun target => (target, .broken))
    else node.beginCall clock targets request timeout

/-- Calls a method whose only argument is a message. -/
def beginTypedCall (node : Node) (clock : Clock) (targets : List MemberId)
    (targetType method : String) (message : Payload) (timeout : Option Duration) :
    Except ClusterError (Node × List (MemberId × Branch)) :=
  -- The message is archived before the node is asked whether it runs.
  match Arguments.empty.push message with
  | .error status => .error (.serialization status.message)
  | .ok arguments => node.beginCall clock targets ⟨targetType, method, arguments⟩ timeout

def abandonBranches (node : Node) (branches : List (MemberId × Branch)) : Node :=
  branches.foldl (fun node (_, branch) =>
    match branch with
    | .remotely call => node.abandon call
    | .settled _ | .locally .. | .broken => node) node

end Node

def settledOutcomes : List (MemberId × Branch) → Option (List (MemberId × CallResult))
  | [] => some []
  | (target, .settled result) :: rest =>
    (settledOutcomes rest).map fun outcomes => (target, result) :: outcomes
  | (_, .locally ..) :: _ | (_, .remotely _) :: _ | (_, .broken) :: _ => none

def Branch.wake : Branch → Option Instant
  | .locally due deadline _ => some (min due deadline)
  | .remotely call => some call.deadline
  | .settled _ | .broken => none

end ClusterCoordination
