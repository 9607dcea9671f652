import ClusterCoordination.Node.State
/-!
# Handing messages to handlers

Messages are handed over one at a time and in the order they arrived. Whatever a handler does with a
message, the next one is handed over after it.
-/

set_option autoImplicit false

namespace ClusterCoordination

namespace Node

def countDispatched (node : Node) : Node :=
  { node with traffic := { node.traffic with dispatched := node.traffic.dispatched + 1 } }

def countDropped (node : Node) : Node :=
  { node with traffic := { node.traffic with dropped := node.traffic.dropped + 1 } }

def finishHandling (node : Node) (handling : Handling) : Node × List LogEntry :=
  let free := { node with busy := none }
  (if handling.ending = .done then free.countDispatched else free, [handling.entry])

/-- A message has been handed over. The handler may keep the node busy. -/
def accept (node : Node) (now : Instant) : Handed Handling → Node × List LogEntry
  | .unbound => (node.countDropped, [])
  | .undecodable _ => (node, [])
  | .handled handling =>
    if handling.delay = 0 then node.finishHandling handling
    else ({ node with busy := some ⟨now + handling.delay, handling⟩ }, [])

def dispatchMessage (node : Node) (now : Instant) (message : InboundMessage) :
    Node × List LogEntry :=
  node.accept now (node.handlers.hand message.sender message.scope message.payload)

def dispatchMessages (now : Instant) : List InboundMessage → Node → Node × List LogEntry
  | [], node => ({ node with inbound := [] }, [])
  | message :: rest, node =>
    let (node, entries) := node.dispatchMessage now message
    if node.busy.isSome then ({ node with inbound := rest }, entries)
    else
      let (node, more) := dispatchMessages now rest node
      (node, entries ++ more)

def handleMessages (node : Node) (now : Instant) : Node × List LogEntry :=
  match node.busy with
  | none => dispatchMessages now node.inbound node
  | some busy =>
    if now < busy.due then (node, [])
    else
      let (node, entries) := node.finishHandling busy.handling
      let (node, more) := dispatchMessages now node.inbound node
      (node, entries ++ more)

end Node

end ClusterCoordination
