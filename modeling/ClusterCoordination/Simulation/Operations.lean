import ClusterCoordination.Calls.FanOut
import ClusterCoordination.Node.Queries
import ClusterCoordination.Simulation.World
/-!
# Operating a cluster

What can be done to a cluster from outside. Every operation lets the cluster come to rest; those
that wait let time pass meanwhile.
-/

set_option autoImplicit false

namespace ClusterCoordination

namespace World

def build (world : World) (key : String) (config : Config) : World :=
  { world with nodes := world.nodes ++ [(key, .new config)] }

def lookup? (world : World) (key : String) : Option (NodeIndex × Node) :=
  match world.index? key with
  | none => none
  | some index => (world.node? index).map fun node => (index, node)

def notBuilt : ClusterError := .state .running .created

def ask {α : Type} (world : World) (key : String) (question : Node → Except ClusterError α) :
    Except ClusterError α :=
  match world.lookup? key with
  | none => .error notBuilt
  | some (_, node) => question node

def update {α : Type} (world : World) (key : String)
    (operation : Node → Except ClusterError (Node × α)) : World × Except ClusterError α :=
  match world.lookup? key with
  | none => (world, .error notBuilt)
  | some (index, node) =>
    match operation node with
    | .error error => (world, .error error)
    | .ok (node, answer) => ((world.putNode index node).settle, .ok answer)

def start (world : World) (key : String) : World × Except ClusterError Unit :=
  match world.lookup? key with
  | none => (world, .error notBuilt)
  | some (index, node) =>
    match node.beginStart with
    | .error error => (world, .error error)
    | .ok starting =>
      match world.network.bind node.config.listenAddress with
      | (network, .error fault) =>
        ({ world with network := network }.setNode index starting.failStart,
          .error (.startup fault))
      | (network, .ok socket) =>
        let bound := { world with network := network }
        ((bound.putNode index (starting.finishStart .first world.now socket)).settle, .ok ())

def wakeCallers (world : World) (index : NodeIndex) : World :=
  (world.calls.filter fun call => call.node = index && !call.held).foldl
    (fun world call => world.schedule (.caller call.name)) world

def pollFarewells (index : NodeIndex) (deadline : Instant) (world : World) : Progress Unit Unit :=
  match world.node? index with
  | none => .done ()
  | some node => if node.farewells.isEmpty || deadline ≤ world.now then .done () else .waiting ()

def finishStop (world : World) (index : NodeIndex) : World :=
  match world.node? index with
  | none => world
  | some node =>
    let stopped := world.putNode index (node.finishStop world.now)
    match node.socket with
    | some socket => { stopped with network := stopped.network.close socket }
    | none => stopped

def stop (world : World) (key : String) : World × Except ClusterError Unit :=
  match world.lookup? key with
  | none => (world, .error notBuilt)
  | some (index, node) =>
    match node.beginStop .first with
    | .error error => (world, .error error)
    | .ok stopping =>
      let deadline := world.now + farewellTimeout
      let saying := ((world.putNode index stopping).wakeCallers index).setTimer deadline .observer
      let (said, _) := await (fun () world => (world, pollFarewells index deadline world))
        (farewellTimeout + 1) () saying
      ((said.finishStop index).settle, .ok ())

def pollMembers (index : NodeIndex) (wait : Node.MemberWait) (world : World) :
    Progress Node.MemberWait (Except ClusterError Unit) :=
  match world.node? index with
  | none => .done (.error notBuilt)
  | some node => node.pollWait world.now wait

def waitFor (world : World) (key : String) (ids : List MemberId) (timeout : Duration) :
    World × Except ClusterError Unit × Duration :=
  match world.lookup? key with
  | none => (world, .error notBuilt, 0)
  | some (index, node) =>
    match node.beginWait world.now ids timeout with
    | .done answer => (world, answer, 0)
    | .waiting wait =>
      let timed := world.setTimer wait.deadline .observer
      let (waited, answer) := await (fun wait world => (world, pollMembers index wait world))
        (timeout + 1) wait timed
      (waited.settle, answer.getD (.error .timeout), waited.now - world.now)

abbrev CallOutcome := Except ClusterError (List (MemberId × CallResult))

structure CallPlan where
  targets : List MemberId
  request : CallRequest
  timeout : Option Duration

def beginCall (world : World) (index : NodeIndex) (plan : CallPlan) :
    World × Except ClusterError (List (MemberId × Branch)) :=
  match world.node? index with
  | none => (world, .error notBuilt)
  | some node =>
    match node.placeCall world.clock plan.targets plan.request plan.timeout with
    | .error error => (world, .error error)
    | .ok (node, branches) => (world.putNode index node, .ok branches)

def pollCall (index : NodeIndex) (branches : List (MemberId × Branch)) (world : World) :
    World × Progress (List (MemberId × Branch)) (List (MemberId × CallResult)) :=
  match world.node? index with
  | none => (world, .waiting branches)
  | some node =>
    let (node, branches) := Node.pollBranches world.now branches node
    let polled := world.putNode index node
    match settledOutcomes branches with
    | some outcomes => (polled, .done outcomes)
    | none => (polled, .waiting branches)

def lastWake (now : Instant) (branches : List (MemberId × Branch)) : Instant :=
  (branches.filterMap fun branch => branch.2.wake).foldl max now

def call (world : World) (key : String) (plan : CallPlan) : World × CallOutcome × Duration :=
  match world.index? key with
  | none => (world, .error notBuilt, 0)
  | some index =>
    match world.beginCall index plan with
    | (world, .error error) => (world, .error error, 0)
    | (begun, .ok branches) =>
      let timed := begun.setCallTimers .observer branches
      let fuel := lastWake world.now branches - world.now + 2
      match await (pollCall index) fuel branches timed with
      | (called, some outcomes) => (called.settle, .ok outcomes, called.now - world.now)
      | (called, none) => (called.settle, .error .cancelled, called.now - world.now)

/--
Begins a call that goes on in the background. The caller of a held call looks for its outcome now,
and after that only when told to; a held call that ends at once gives its outcome.
-/
def callInBackground (world : World) (name key : String) (plan : CallPlan) (held : Bool) :
    World × Option CallOutcome :=
  match world.index? key with
  | none => (world, some (.error notBuilt))
  | some index =>
    let (begun, branches) := world.beginCall index plan
    let noted := { begun with
      calls := ⟨name, index, held, branches⟩ :: begun.calls.filter fun call => call.name ≠ name }
    match branches with
    | .error error => (noted.settle, if held then some (.error error) else none)
    | .ok branches =>
      let timed := if held then noted else noted.setCallTimers (.caller name) branches
      (timed.settle, if held then (settledOutcomes branches).map .ok else none)

def pollBackground (world : World) (name : String) : World × Option CallOutcome :=
  match world.calls.find? fun call => call.name = name with
  | none => (world, none)
  | some call =>
    let polled := if call.held then (world.pollCaller name).settle else world
    match (polled.calls.find? fun call => call.name = name).map BackgroundCall.branches with
    | some (.ok branches) => (polled, (settledOutcomes branches).map .ok)
    | some (.error error) => (polled, some (.error error))
    | none => (polled, none)

def dropCall (world : World) (name : String) : World :=
  match world.calls.find? fun call => call.name = name with
  | none => world
  | some call =>
    let gone := { world with calls := world.calls.filter fun call => call.name ≠ name }
    match call.branches, gone.node? call.node with
    | .ok branches, some node => (gone.putNode call.node (node.abandonBranches branches)).settle
    | _, _ => gone

def subscribe (world : World) (key name : String) (subject : Subject) :
    World × Except ClusterError Unit :=
  match world.lookup? key with
  | none => (world, .error notBuilt)
  | some (index, node) =>
    match node.watch with
    | .error error => (world, .error error)
    | .ok observer =>
      ({ world with
          subscriptions := ⟨name, index, subject, observer⟩ ::
            world.subscriptions.filter fun other => other.name ≠ name }, .ok ())

inductive Notice where
  | members (changes : List MembershipChange)
  | master (masters : List (Option MemberId))

def drainSubscription (world : World) (name : String) : World × Notice :=
  match world.subscriptions.find? fun other => other.name = name with
  | none => (world, .members [])
  | some subscription =>
    match world.node? subscription.node with
    | none => (world, .members [])
    | some node =>
      let (observer, notice) :=
        match subscription.subject with
        | .members =>
          let (observer, changes) := subscription.observer.next node.roster.changes.published
          (observer, Notice.members changes)
        | .master =>
          let (observer, masters) := subscription.observer.next node.roster.elector.published
          (observer, Notice.master masters)
      ({ world with
          subscriptions := world.subscriptions.map fun other =>
            if other.name = name then { other with observer := observer } else other }, notice)

def isolate (world : World) (address : SocketAddress) : World :=
  { world with network := world.network.isolate address }

def heal (world : World) (address : SocketAddress) : World :=
  { world with network := world.network.heal address }

def takeLog (world : World) : World × List LogEntry := ({ world with log := [] }, world.log)

def openPeer (world : World) (address : SocketAddress) : World × Except NetworkFault Unit :=
  match world.network.bind address with
  | (network, .error fault) => ({ world with network := network }, .error fault)
  | (network, .ok socket) =>
    ({ world with network := network, peers := (address, socket) :: world.peers }, .ok ())

def closePeer (world : World) (address : SocketAddress) : World :=
  match world.peers.find? fun peer => peer.1 = address with
  | none => world
  | some (_, socket) =>
    { world with
      network := world.network.close socket
      peers := world.peers.filter fun peer => peer.1 ≠ address }

def sendFromPeer (world : World) (source target : SocketAddress) (data : Bytes) :
    World × Except NetworkFault Unit :=
  let (sent, result) := world.send source target data
  (sent.settle, result)

def receiveAtPeer (world : World) (address : SocketAddress) : World × List Bytes :=
  match world.peers.find? fun peer => peer.1 = address with
  | none => (world, [])
  | some (_, id) =>
    match world.network.socket? id with
    | none => (world, [])
    | some socket =>
      ({ world with
          network := world.network.modify id fun socket => { socket with inbox := [] } },
        socket.inbox)

end World

end ClusterCoordination
