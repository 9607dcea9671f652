import ClusterCoordination.Calls.Dispatch
import ClusterCoordination.Calls.Pending
import ClusterCoordination.Membership.Roster
import ClusterCoordination.Messages.Handler
import ClusterCoordination.Network.Memory
import ClusterCoordination.Network.Outbox
import ClusterCoordination.Node.Config
/-!
# The state of a node

A node does several things at once: it reads its socket, hands messages to handlers, sends
heartbeats, looks for dead members, drains its outbound queues and serves requests. Each of these is
an activity that runs when something wakes it. The functions of a node carry out one piece of an
activity at a time and note which activities they have woken.
-/

set_option autoImplicit false

namespace ClusterCoordination

structure InboundMessage where
  sender : MemberId
  scope : Scope
  payload : Bytes
deriving DecidableEq

/--
Counts of what has happened, without a bound. In words of 64 bits they are right below 2 ^ 64.
-/
structure Traffic where
  dispatched : Nat
  dropped : Nat
  issued : Nat
  -- Remote calls issued that timed out.
  timedOut : Nat
  served : Nat
deriving DecidableEq

inductive ServingStage where
  | arrived
  -- It works until `due`, if that is not after `deadline`.
  | working (due deadline : Instant) (ending : Ending)

/-- Tells the requests apart that a node serves. It appears in no datagram, and never runs out. -/
abbrev RequestId := Nat

structure ServedRequest where
  id : RequestId
  caller : MemberId
  request : Request
  stage : ServingStage

structure BusyHandler where
  due : Instant
  handling : Handling

inductive Activity where
  | reading
  | handling
  | beating
  | detecting
  | draining (drain : DrainId)
  | serving (request : RequestId)
  | calling (call : CallId)
deriving DecidableEq

structure Node where
  config : Config
  lifecycle : Lifecycle
  roster : Roster
  handlers : HandlerTable
  dispatchers : DispatchTable
  pending : PendingCalls
  traffic : Traffic
  outbox : Outbox
  seeds : List SocketAddress
  socket : Option SocketId
  -- The messages that wait for their handlers, oldest first.
  inbound : List InboundMessage
  busy : Option BusyHandler
  served : List ServedRequest
  nextRequest : RequestId
  -- Outcomes that callers have not collected.
  deliveries : List Delivery
  -- Acknowledgements that nobody has collected.
  acknowledgements : List Acknowledgement
  -- The members whose farewell has yet to be acknowledged.
  farewells : List MemberId
  stopRequested : Bool
  -- The activities that have been woken, in order.
  woken : List Activity

namespace Node

def new (config : Config) : Node where
  config := config
  lifecycle := .created
  roster := .new config.id
  handlers := .empty
  dispatchers := .empty
  pending := .empty
  traffic := ⟨0, 0, 0, 0, 0⟩
  outbox := .empty
  seeds := []
  socket := none
  inbound := []
  busy := none
  served := []
  nextRequest := 0
  deliveries := []
  acknowledgements := []
  farewells := []
  stopRequested := false
  woken := []

def id (node : Node) : MemberId := node.config.id

def registry (node : Node) : Registry := node.roster.registry

def wake (node : Node) (activity : Activity) : Node :=
  { node with woken := node.woken ++ [activity] }

def deliver (node : Node) (deliveries : List Delivery) : Node :=
  { node with
    deliveries := node.deliveries ++ deliveries
    woken := node.woken ++ deliveries.map fun delivery => .calling delivery.call }

def delivery? (node : Node) (id : CallId) : Option Delivery :=
  node.deliveries.find? fun delivery => delivery.call = id

def acknowledgement? (node : Node) (id : CallId) : Option Acknowledgement :=
  node.acknowledgements.find? fun acknowledgement => acknowledgement.receipt = .call id

def acknowledge (node : Node) (acknowledgement : Acknowledgement) : Node :=
  match acknowledgement.receipt with
  | .call id =>
    { node with acknowledgements := node.acknowledgements ++ [acknowledgement] }.wake (.calling id)
  | .farewell member => { node with farewells := node.farewells.erase member }

def countTimeouts (node : Node) (count : Nat) : Node :=
  { node with traffic := { node.traffic with timedOut := node.traffic.timedOut + count } }

def leftReason : String := "Member left the cluster."

def silentReason : String := "Member stopped sending heartbeats."

def failCalls (node : Node) (member : MemberId) (reason : String) : Node :=
  let (pending, deliveries) := node.pending.failMember member reason
  { node with pending := pending }.deliver deliveries

def cancelCalls (node : Node) : Node :=
  let (pending, cancelled) := node.pending.cancelAll
  { node with pending := pending }.deliver cancelled

def whenRunning {α : Type} (node : Node) (value : α) : Except ClusterError α :=
  if node.lifecycle = .running then .ok value else .error (.state .running node.lifecycle)

def aliveMember (node : Node) (id : MemberId) : Except ClusterError Member :=
  match node.registry.get? id with
  | some member => if member.alive then .ok member else .error (.notAlive id)
  | none => .error (.notMember id)

end Node

end ClusterCoordination
