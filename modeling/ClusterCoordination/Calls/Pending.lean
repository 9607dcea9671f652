import ClusterCoordination.Clock
import ClusterCoordination.ClusterError
/-!
# Pending calls

The remote calls that wait for their outcome. Whoever resolves a call first removes it from the
table, so a waiting caller is given exactly one outcome.
-/

set_option autoImplicit false

namespace ClusterCoordination

abbrev CallId := UInt64

structure PendingCall where
  id : CallId
  target : MemberId
  deadline : Instant
deriving DecidableEq

structure Delivery where
  call : CallId
  result : CallResult

structure PendingCalls where
  nextId : CallId
  calls : List PendingCall
deriving DecidableEq

namespace PendingCalls

def empty : PendingCalls := ⟨0, []⟩

def size (pending : PendingCalls) : Nat := pending.calls.length

def find? (pending : PendingCalls) (id : CallId) : Option PendingCall :=
  pending.calls.find? fun call => call.id = id

def register (pending : PendingCalls) (target : MemberId) (deadline : Instant) :
    PendingCalls × CallId :=
  (⟨pending.nextId + 1, ⟨pending.nextId, target, deadline⟩ :: pending.calls⟩, pending.nextId)

def take (pending : PendingCalls) (id : CallId) : PendingCalls × Bool :=
  ({ pending with calls := pending.calls.filter fun call => call.id ≠ id },
    (pending.find? id).isSome)

/-- Resolves a call, unless it has been resolved before. -/
def complete (pending : PendingCalls) (id : CallId) (result : CallResult) :
    PendingCalls × Option Delivery :=
  let (rest, claimed) := pending.take id
  (rest, if claimed then some ⟨id, result⟩ else none)

def failWhere (pending : PendingCalls) (condition : PendingCall → Bool) (error : ClusterError) :
    PendingCalls × List Delivery :=
  ({ pending with calls := pending.calls.filter fun call => !condition call },
    (pending.calls.filter condition).map fun call => ⟨call.id, .error error⟩)

def cancelAll (pending : PendingCalls) : PendingCalls × List Delivery :=
  pending.failWhere (fun _ => true) .cancelled

def failMember (pending : PendingCalls) (member : MemberId) (reason : String) :
    PendingCalls × List Delivery :=
  pending.failWhere (fun call => call.target = member) (.unreachable member reason)

def expireOverdue (pending : PendingCalls) (now : Instant) : PendingCalls × List Delivery :=
  pending.failWhere (fun call => call.deadline ≤ now) .timeout

end PendingCalls

end ClusterCoordination
