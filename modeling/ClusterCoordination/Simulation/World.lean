import ClusterCoordination.Node.Calling
import ClusterCoordination.Node.Handling
import ClusterCoordination.Node.Rounds
import ClusterCoordination.Node.Serving
import ClusterCoordination.Node.Starting
/-!
# A cluster in virtual time

Nodes on one in-memory network under one clock that moves only when nothing is left to do.
Activities that have been woken wait in a queue and run in turn; timers that are due at the same
instant go off in the order they were set.
-/

set_option autoImplicit false

namespace ClusterCoordination

abbrev NodeIndex := Nat

inductive Task where
  | activity (node : NodeIndex) (activity : Activity)
  | caller (name : String)
  | observer
deriving DecidableEq

structure Timer where
  due : Instant
  task : Task
deriving DecidableEq

structure BackgroundCall where
  name : String
  node : NodeIndex
  -- The caller looks for the outcome only when told to.
  held : Bool
  branches : Except ClusterError (List (MemberId × Branch))

inductive Subject where
  | members
  | master
deriving DecidableEq

structure Subscription where
  name : String
  node : NodeIndex
  subject : Subject
  observer : Observer

structure World where
  now : Instant
  network : Network
  -- Nodes with the keys they are known by, in the order they were built.
  nodes : List (String × Node)
  -- What waits to run, in turn.
  ready : List Task
  -- In the order they were set.
  timers : List Timer
  log : List LogEntry
  calls : List BackgroundCall
  subscriptions : List Subscription
  -- Sockets that belong to no node.
  peers : List (SocketAddress × SocketId)

namespace World

def empty : World where
  now := 0
  network := .empty
  nodes := []
  ready := []
  timers := []
  log := []
  calls := []
  subscriptions := []
  peers := []

def wallStart : Nat := 1700000000000

def clock (world : World) : Clock := ⟨world.now, wallStart + world.now⟩

def node? (world : World) (index : NodeIndex) : Option Node := (world.nodes[index]?).map (·.2)

def setNode (world : World) (index : NodeIndex) (node : Node) : World :=
  { world with nodes := world.nodes.modify index fun entry => (entry.1, node) }

def index? (world : World) (key : String) : Option NodeIndex :=
  ((world.nodes.zipIdx.reverse.find? fun entry => entry.1.1 = key)).map (·.2)

def schedule (world : World) (task : Task) : World :=
  if world.ready.contains task then world else { world with ready := world.ready ++ [task] }

def setTimer (world : World) (due : Instant) (task : Task) : World :=
  { world with timers := world.timers ++ [⟨due, task⟩] }

def awaits (call : BackgroundCall) (node : NodeIndex) (id : CallId) : Bool :=
  !call.held && call.node = node &&
    match call.branches with
    | .error _ => false
    | .ok branches => branches.any fun
      | (_, .remotely remote) => remote.id = id
      | _ => false

def wakeActivity (node : NodeIndex) (world : World) : Activity → World
  | .calling id =>
    match world.calls.find? fun call => awaits call node id with
    | some call => world.schedule (.caller call.name)
    | none => world
  | activity => world.schedule (.activity node activity)

def putNode (world : World) (index : NodeIndex) (node : Node) : World :=
  node.woken.foldl (wakeActivity index) (world.setNode index { node with woken := [] })

def readerAt? (world : World) (address : SocketAddress) : Option NodeIndex :=
  match world.network.bound? address with
  | none => none
  | some socket => world.nodes.findIdx? fun entry => entry.2.socket = some socket

def send (world : World) (source target : SocketAddress) (data : Bytes) :
    World × Except NetworkFault Unit :=
  match world.network.send source target data with
  | (network, .ok ()) =>
    let sent := { world with network := network }
    match sent.readerAt? target with
    | some index => (sent.schedule (.activity index .reading), .ok ())
    | none => (sent, .ok ())
  | (network, .error fault) => ({ world with network := network }, .error fault)

def read (world : World) (index : NodeIndex) (node : Node) : World :=
  match node.socket.bind world.network.socket? with
  | none => world
  | some socket =>
    let emptied := { world with
      network := world.network.modify socket.id fun socket => { socket with inbox := [] } }
    emptied.putNode index
      (socket.inbox.foldl (fun node data => node.receive .first world.now data) node)

def handle (world : World) (index : NodeIndex) (node : Node) : World :=
  if node.socket.isNone then world
  else
    let (node, entries) := node.handleMessages world.now
    let noted := { world with log := world.log ++ entries }
    let timed :=
      match node.busy with
      | some busy => noted.setTimer busy.due (.activity index .handling)
      | none => noted
    timed.putNode index node

def beat (world : World) (index : NodeIndex) (node : Node) : World :=
  if node.socket.isNone then world
  else
    (world.putNode index (node.heartbeatRound .first)).setTimer
      (world.now + node.config.heartbeatInterval) (.activity index .beating)

def detect (world : World) (index : NodeIndex) (node : Node) : World :=
  if node.socket.isNone then world
  else
    (world.putNode index (node.detectionRound world.now)).setTimer
      (world.now + node.config.heartbeatInterval) (.activity index .detecting)

def drainOne (world : World) (index : NodeIndex) (drain : DrainId) : World :=
  match world.node? index with
  | none => world
  | some node =>
    match node.outbox.take drain with
    | (_, none) => world
    | (outbox, some (target, data)) =>
      let (world, result) := world.send node.config.listenAddress target data
      let (outbox, acknowledgement) := outbox.complete drain result
      let node := { node with outbox := outbox }
      match acknowledgement with
      | some acknowledgement => world.putNode index (node.acknowledge acknowledgement)
      | none => world.putNode index node

def drain (world : World) (index : NodeIndex) (node : Node) (drain : DrainId) : World :=
  let count := ((node.outbox.drain? drain).map fun drain => drain.backlog.length).getD 0
  Nat.repeat (fun world => world.drainOne index drain) count world

def serve (world : World) (index : NodeIndex) (node : Node) (request : RequestId) : World :=
  let node := node.serve world.clock request
  let served := world.putNode index node
  match node.servingWake request with
  | some due => served.setTimer due (.activity index (.serving request))
  | none => served

def runActivity (world : World) (index : NodeIndex) (activity : Activity) : World :=
  match world.node? index with
  | none => world
  | some node =>
    match activity with
    | .reading => world.read index node
    | .handling => world.handle index node
    | .beating => world.beat index node
    | .detecting => world.detect index node
    | .draining drain => world.drain index node drain
    | .serving request => world.serve index node request
    | .calling _ => world

def setBranches (world : World) (name : String) (branches : List (MemberId × Branch)) : World :=
  { world with
    calls := world.calls.map fun call =>
      if call.name = name then { call with branches := .ok branches } else call }

def pollCaller (world : World) (name : String) : World :=
  match world.calls.find? fun call => call.name = name with
  | some ⟨_, index, _, .ok branches⟩ =>
    match world.node? index with
    | none => world
    | some node =>
      let (node, branches) := Node.pollBranches world.now branches node
      (world.setBranches name branches).putNode index node
  | _ => world

def setCallTimers (world : World) (task : Task) (branches : List (MemberId × Branch)) : World :=
  (branches.filterMap fun branch => branch.2.wake).foldl (fun world due => world.setTimer due task)
    world

def runTask (world : World) : Task → World
  | .activity index activity => world.runActivity index activity
  | .caller name => world.pollCaller name
  | .observer => world

def run : (fuel : Nat) → World → World
  | 0, world => world
  | fuel + 1, world =>
    match world.ready with
    | [] => world
    | task :: rest => run fuel ({ world with ready := rest }.runTask task)

-- More tasks than any cluster needs to come to rest.
def patience : Nat := 10000000

def settle (world : World) : World := world.run patience

def nextDue? (world : World) : Option Instant := (world.timers.map Timer.due).min?

def moveTo (world : World) (instant : Instant) : World :=
  let (due, later) := world.timers.partition fun timer => timer.due ≤ instant
  due.foldl (fun world timer => world.schedule timer.task)
    { world with now := instant, timers := later }

def passUntil (target : Instant) : (fuel : Nat) → World → World
  | 0, world => world
  | fuel + 1, world =>
    match world.nextDue? with
    | none => world.moveTo target
    | some due =>
      if due ≤ target then passUntil target fuel (world.moveTo due).settle
      else world.moveTo target

def advance (world : World) (duration : Duration) : World :=
  (passUntil (world.now + duration) (duration + 1) world.settle).settle

/--
Lets time pass until someone has what they wait for. They look when nothing more can happen at an
instant, and when a timer goes off before anything it causes.
-/
def await {State Answer : Type} (poll : State → World → World × Progress State Answer) :
    (fuel : Nat) → State → World → World × Option Answer
  | 0, _, world => (world, none)
  | fuel + 1, state, world =>
    -- Whoever waits looks before anything that a timer has caused.
    match poll state world with
    | (world, .done answer) => (world, some answer)
    | (world, .waiting state) =>
      match poll state world.settle with
      | (world, .done answer) => (world, some answer)
      | (world, .waiting state) =>
        match world.nextDue? with
        | none => (world, none)
        | some due => await poll fuel state (world.moveTo due)

end World

end ClusterCoordination
