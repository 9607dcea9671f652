import ClusterCoordination.Node.Calling
import ClusterCoordination.Uuid
/-!
# Asking a node

What a running node says about itself and its members, the handlers and dispatchers it is given, and
waiting for members.
-/

set_option autoImplicit false

namespace ClusterCoordination

namespace Node

def clusterName (node : Node) : Except ClusterError String :=
  node.whenRunning node.config.clusterName

def currentMember (node : Node) : Except ClusterError Member :=
  match node.whenRunning () with
  | .error error => .error error
  | .ok () =>
    match node.roster.get? node.id with
    | some member => .ok member
    | none => .error (.unreachable node.id "Local member is not registered.")

def currentMemberId (node : Node) : Except ClusterError MemberId := node.whenRunning node.id

def memberUuid (node : Node) : Except ClusterError (Option Uuid) :=
  node.whenRunning (Uuid.ofText? node.id.text)

def isAlive (node : Node) (id : MemberId) : Except ClusterError Bool :=
  node.whenRunning (node.registry.isAlive id)

def isMaster (node : Node) : Except ClusterError Bool :=
  node.whenRunning node.roster.elector.isMaster

def master (node : Node) : Except ClusterError (Option Member) :=
  node.whenRunning (node.roster.master.bind node.roster.get?)

def member (node : Node) (id : MemberId) : Except ClusterError (Option Member) :=
  node.whenRunning (node.roster.get? id)

def memberName (node : Node) (id : Option MemberId) : Except ClusterError (Option String) :=
  node.whenRunning ((node.registry.get? (id.getD node.id)).map Member.displayName)

def physicalAddress (node : Node) (id : MemberId) : Except ClusterError (Option SocketAddress) :=
  node.whenRunning ((node.registry.get? id).map Member.address)

def memberAddresses (node : Node) : Except ClusterError (List SocketAddress) :=
  node.whenRunning (node.registry.view.alive.map Member.address)

def members (node : Node) : Except ClusterError (List Member) :=
  node.whenRunning node.roster.view.members

/-- Someone who follows the changes of the members or of the master, and has seen none so far. -/
def watch (node : Node) : Except ClusterError Observer := node.whenRunning ⟨none⟩

def registerHandler (node : Node) (scope : Scope) (handler : Handler) :
    Except ClusterError (Node × Bool) :=
  let (handlers, replaced) := node.handlers.register scope handler
  node.whenRunning ({ node with handlers := handlers }, replaced)

def deregisterHandler (node : Node) (scope : Scope) : Except ClusterError (Node × Bool) :=
  let (handlers, removed) := node.handlers.deregister scope
  node.whenRunning ({ node with handlers := handlers }, removed)

def registerDispatcher (node : Node) (targetType : String) (dispatcher : Dispatcher) :
    Except ClusterError (Node × Bool) :=
  let (dispatchers, replaced) := node.dispatchers.register targetType dispatcher
  node.whenRunning ({ node with dispatchers := dispatchers }, replaced)

def addService (node : Node) (service : Service) : Except ClusterError (Node × Bool) :=
  let (dispatchers, replaced) := node.dispatchers.addService service
  node.whenRunning ({ node with dispatchers := dispatchers }, replaced)

structure MemberWait where
  ids : List MemberId
  deadline : Instant
  -- How many changes have been seen.
  seen : Nat
deriving DecidableEq

def allAlive (node : Node) (ids : List MemberId) : Bool := ids.all node.registry.isAlive

/-- Looks at the members if there is a change that has not been seen, and else at the clock. -/
def pollWait (node : Node) (now : Instant) (wait : MemberWait) :
    Progress MemberWait (Except ClusterError Unit) :=
  let changes := node.roster.changes.published
  if changes.isUnseen wait.seen && node.allAlive wait.ids then .done (.ok ())
  else if wait.deadline ≤ now then .done (.error .timeout)
  else .waiting { wait with seen := changes.writes }

def beginWait (node : Node) (now : Instant) (ids : List MemberId) (timeout : Duration) :
    Progress MemberWait (Except ClusterError Unit) :=
  match node.whenRunning () with
  | .error error => .done (.error error)
  | .ok () =>
    if node.allAlive ids then .done (.ok ())
    else node.pollWait now ⟨ids, now + timeout, 0⟩

end Node

end ClusterCoordination
