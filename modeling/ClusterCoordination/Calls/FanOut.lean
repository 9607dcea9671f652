import ClusterCoordination.ClusterError
import ClusterCoordination.Payload
/-!
# Outcomes of a call to several members

The outcomes are kept in the order of the targets.
-/

set_option autoImplicit false

namespace ClusterCoordination

structure FanOut (α : Type) where
  outcomes : List (MemberId × Except ClusterError α)

def decodeReply (type : PayloadType) : CallResult → Except ClusterError type.Carrier
  | .error error => .error error
  | .ok reply =>
    match type.decode reply with
    | .ok value => .ok value
    | .error status => .error (.serialization status.message)

structure PartialFailure (α : Type) where
  firstFailureIndex : Nat
  outcomes : List (MemberId × Except ClusterError α)

-- Puts a value into an association list that is ascending in its keys, in place of an older one.
def insertSorted {α : Type} (id : MemberId) (value : α) :
    List (MemberId × α) → List (MemberId × α)
  | [] => [(id, value)]
  | (key, other) :: rest =>
    if id = key then (id, value) :: rest
    else if id ≤ key then (id, value) :: (key, other) :: rest
    else (key, other) :: insertSorted id value rest

namespace FanOut

variable {α : Type}

def get? (result : FanOut α) (id : MemberId) : Option (Except ClusterError α) :=
  (result.outcomes.find? fun outcome => outcome.1 = id).map (·.2)

def successes (result : FanOut α) : List (MemberId × α) :=
  result.outcomes.filterMap fun
    | (id, .ok value) => some (id, value)
    | (_, .error _) => none

def failures (result : FanOut α) : List (MemberId × ClusterError) :=
  result.outcomes.filterMap fun
    | (_, .ok _) => none
    | (id, .error error) => some (id, error)

def firstFailure? (result : FanOut α) : Option (MemberId × ClusterError) := result.failures.head?

def isSuccess (result : FanOut α) : Bool := result.firstFailure?.isNone

def isFailed : MemberId × Except ClusterError α → Bool
  | (_, .ok _) => false
  | (_, .error _) => true

def toResult (result : FanOut α) : Except (PartialFailure α) (List (MemberId × α)) :=
  match result.outcomes.findIdx? isFailed with
  | none =>
    .ok (result.successes.foldl (fun values (id, value) => insertSorted id value values) [])
  | some index => .error ⟨index, result.outcomes⟩

-- Every reply read as a value of the same type; one that cannot be is a failure of its own.
def decode (type : PayloadType) (result : FanOut Bytes) : FanOut type.Carrier :=
  ⟨result.outcomes.map fun outcome => (outcome.1, decodeReply type outcome.2)⟩

end FanOut

namespace PartialFailure

variable {α : Type}

def firstFailure? (failure : PartialFailure α) : Option (MemberId × Option ClusterError) :=
  failure.outcomes[failure.firstFailureIndex]?.map fun
    | (id, .ok _) => (id, none)
    | (id, .error error) => (id, some error)

def failureCount (failure : PartialFailure α) : Nat :=
  (failure.outcomes.filter FanOut.isFailed).length

def message (failure : PartialFailure α) : String :=
  let count := toString failure.failureCount
  match failure.firstFailure? with
  | some (id, some error) =>
    count ++ " of " ++ toString failure.outcomes.length ++ " calls failed, first failure on " ++
      id.text ++ ": " ++ error.message
  | some (id, none) => count ++ " calls failed, first on " ++ id.text
  | none => count ++ " calls failed"

end PartialFailure

end ClusterCoordination
