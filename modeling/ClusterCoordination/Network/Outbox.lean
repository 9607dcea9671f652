import ClusterCoordination.Bytes
import ClusterCoordination.Calls.Pending
import ClusterCoordination.Network.Fault
/-!
# Outbound queues

A node has one outbound queue for each address it sends to. Every queue is drained by a task of its
own, which takes one datagram at a time. A queue that is dropped takes no more datagrams, but its
drain goes on until what it holds is sent.
-/

set_option autoImplicit false

namespace ClusterCoordination

inductive Receipt where
  | call (id : CallId)
  | farewell (member : MemberId)
deriving DecidableEq

structure Outgoing where
  data : Bytes
  receipt : Option Receipt
deriving DecidableEq

structure Acknowledgement where
  receipt : Receipt
  result : Except NetworkFault Unit

/-- Tells the drains of an outbox apart, however many there are. -/
abbrev DrainId := Nat

structure Drain where
  id : DrainId
  address : SocketAddress
  -- The queue takes more datagrams.
  accepting : Bool
  -- The datagrams that wait, oldest first.
  backlog : List Outgoing
  -- The datagram that is being sent.
  sending : Option Outgoing
deriving DecidableEq

/-- Nothing is left to do, now or later. -/
def Drain.isFinished (drain : Drain) : Bool :=
  !drain.accepting && drain.backlog.isEmpty && drain.sending.isNone

def Drain.isIdle (drain : Drain) : Bool := drain.backlog.isEmpty && drain.sending.isNone

structure Outbox where
  nextDrain : DrainId
  drains : List Drain
  closed : Bool
deriving DecidableEq

inductive Pushed where
  | refused
  -- It was queued, and its drain has to be woken if it was idle.
  | queued (drain : DrainId) (wake : Bool)
deriving DecidableEq

namespace Outbox

def empty : Outbox := ⟨0, [], false⟩

def drain? (outbox : Outbox) (id : DrainId) : Option Drain :=
  outbox.drains.find? fun drain => drain.id = id

def queue? (outbox : Outbox) (address : SocketAddress) : Option Drain :=
  outbox.drains.find? fun drain => drain.accepting && drain.address = address

def hasQueue (outbox : Outbox) (address : SocketAddress) : Bool := (outbox.queue? address).isSome

def modify (outbox : Outbox) (id : DrainId) (change : Drain → Drain) : Outbox :=
  { outbox with
    drains := outbox.drains.map fun drain => if drain.id = id then change drain else drain }

def prune (outbox : Outbox) : Outbox :=
  { outbox with drains := outbox.drains.filter fun drain => !drain.isFinished }

def push (outbox : Outbox) (address : SocketAddress) (outgoing : Outgoing) : Outbox × Pushed :=
  if outbox.closed then (outbox, .refused)
  else
    match outbox.queue? address with
    | some drain =>
      (outbox.modify drain.id fun drain => { drain with backlog := drain.backlog ++ [outgoing] },
        .queued drain.id drain.isIdle)
    | none =>
      let id := outbox.nextDrain
      ({ outbox with
          nextDrain := id + 1
          drains := outbox.drains ++ [⟨id, address, true, [outgoing], none⟩] }, .queued id true)

def retain (outbox : Outbox) (keep : SocketAddress → Bool) : Outbox :=
  -- What a dropped queue holds is still sent.
  let dropped : Outbox := { outbox with
    drains := outbox.drains.map fun drain =>
      { drain with accepting := drain.accepting && keep drain.address } }
  dropped.prune

def disconnect (outbox : Outbox) (address : SocketAddress) : Outbox :=
  outbox.retain fun other => other ≠ address

/-- Drops every queue, and refuses every datagram from now on. -/
def shutdown (outbox : Outbox) : Outbox :=
  { outbox.retain (fun _ => false) with closed := true }

def take (outbox : Outbox) (id : DrainId) : Outbox × Option (SocketAddress × Bytes) :=
  match outbox.drain? id with
  | none => (outbox, none)
  | some drain =>
    match drain.sending, drain.backlog with
    | none, outgoing :: rest =>
      (outbox.modify id fun drain => { drain with backlog := rest, sending := some outgoing },
        some (drain.address, outgoing.data))
    | _, _ => (outbox, none)

def complete (outbox : Outbox) (id : DrainId) (result : Except NetworkFault Unit) :
    Outbox × Option Acknowledgement :=
  match outbox.drain? id with
  | none => (outbox, none)
  | some drain =>
    ((outbox.modify id fun drain => { drain with sending := none }).prune,
      (drain.sending.bind Outgoing.receipt).map fun receipt => ⟨receipt, result⟩)

end Outbox

end ClusterCoordination
