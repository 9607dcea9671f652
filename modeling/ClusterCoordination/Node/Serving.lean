import ClusterCoordination.Node.Sending
/-!
# Serving requests

A request whose deadline has passed is ignored. Otherwise the dispatcher is invoked, and its outcome
is sent back if it comes before the deadline and before the node stops.
-/

set_option autoImplicit false

namespace ClusterCoordination

namespace Node

def forgetRequest (node : Node) (id : RequestId) : Node :=
  { node with served := node.served.filter fun request => request.id ≠ id }

def countServed (node : Node) : Node :=
  { node with traffic := { node.traffic with served := node.traffic.served + 1 } }

def answer (node : Node) (served : ServedRequest) (outcome : Except Status Bytes) : Node :=
  let counted := (node.forgetRequest served.id).countServed
  let response : Response := ⟨served.request.correlation, outcome⟩
  match counted.frame RawScope.response ⟨.response, response⟩ with
  | .ok data => counted.enqueue served.request.replyAddress data
  | .error _ => counted

/-- Goes on with work that ends at `due` unless the deadline comes first. -/
def work (node : Node) (now : Instant) (served : ServedRequest) (due deadline : Instant)
    (ending : Ending) : Node :=
  -- An outcome that is there counts, even at the deadline.
  if due ≤ now then
    match ending with
    | .returned outcome => node.answer served outcome
    | .crashed => node.forgetRequest served.id
  else if deadline ≤ now then node.forgetRequest served.id
  else
    { node with
      served := node.served.map fun request =>
        if request.id = served.id then { request with stage := .working due deadline ending }
        else request }

def beginServing (node : Node) (clock : Clock) (served : ServedRequest) : Node :=
  match clock.localDeadline? served.request.deadline with
  | none => node.forgetRequest served.id
  | some deadline =>
    match Arguments.ofParts served.request.argumentTypes served.request.arguments with
    | .error status => node.answer served (.error status)
    | .ok arguments =>
      let invocation := node.dispatchers.invoke served.caller served.request.targetType
        served.request.method arguments
      node.work clock.now served (clock.now + invocation.delay) deadline invocation.ending

def serve (node : Node) (clock : Clock) (id : RequestId) : Node :=
  match node.served.find? fun request => request.id = id with
  | none => node
  | some served =>
    if node.stopRequested then node.forgetRequest id
    else
      match served.stage with
      | .arrived => node.beginServing clock served
      | .working due deadline ending => node.work clock.now served due deadline ending

def servingWake (node : Node) (id : RequestId) : Option Instant :=
  match node.served.find? fun request => request.id = id with
  | some ⟨_, _, _, .working due deadline _⟩ => some (min due deadline)
  | _ => none

end Node

end ClusterCoordination
