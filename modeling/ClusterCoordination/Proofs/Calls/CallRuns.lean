import Mathlib.Data.List.Nodup
import ClusterCoordination.Proofs.Calls.Resolution
/-!
# Runs of a node with remote calls

A run interleaves the steps of any number of callers with whatever else touches the table of pending
calls. Besides the node it keeps who removed which call from the table and when.
-/

set_option autoImplicit false

namespace ClusterCoordination

inductive Claimant where
  -- The call itself: its request cannot be written.
  | unencodable (reason : String)
  -- The caller, whose request could not be sent.
  | refusal (fault : NetworkFault)
  | response (sender : MemberId) (outcome : Except Status Bytes)
  | farewell
  | death
  -- The caller, at its deadline.
  | timer
  -- The failure detector, after the deadline.
  | expiry
  -- The node, once it has stopped.
  | cancellation
  -- The caller goes away, because it is dropped or because the node is to stop.
  | absence

namespace Claimant

def result (target : MemberId) : Claimant → Option CallResult
  | .unencodable reason => some (.error (.serialization reason))
  | .refusal fault => some (.error (.unreachable target fault.message))
  | .response sender outcome => some (.ofOutcome outcome sender)
  | .farewell => some (.error (.unreachable target Node.leftReason))
  | .death => some (.error (.unreachable target Node.silentReason))
  | .timer | .expiry => some (.error .timeout)
  | .cancellation => some (.error .cancelled)
  | .absence => none

def timesOut : Claimant → Bool
  | .timer | .expiry => true
  | .unencodable _ | .refusal _ | .response .. | .farewell | .death | .cancellation | .absence =>
    false

end Claimant

def CallerPoint.claimant : CallerPoint → Claimant
  | .refused fault => .refusal fault
  | .overdue => .timer
  | .sending | .waiting | .late | .returned _ | .stopped _ | .dropped => .absence

structure Claim where
  call : CallId
  claimant : Claimant
  time : Instant

def PendingCalls.removed (before after : PendingCalls) : List CallId :=
  before.ids.filter fun id => id ∉ after.ids

namespace PendingCalls

variable {before after : PendingCalls}

theorem mem_removed {id : CallId} :
    id ∈ before.removed after ↔ id ∈ before.ids ∧ id ∉ after.ids := by
  simp [removed]

theorem ids_sublist {keep : PendingCall → Bool} (kept : after.calls = before.calls.filter keep) :
    after.ids.Sublist before.ids := by
  simp only [ids, kept]
  exact List.filter_sublist.map _

theorem removed_of_filter {keep : PendingCall → Bool} (unique : before.ids.Nodup)
    (kept : after.calls = before.calls.filter keep) :
    before.removed after = (before.calls.filter fun call => !keep call).map PendingCall.id := by
  have stays : ∀ call ∈ before.calls, call.id ∈ after.ids ↔ keep call = true := by
    intro call present
    simp only [ids, kept, List.mem_map, List.mem_filter]
    constructor
    · rintro ⟨other, ⟨otherPresent, otherKept⟩, same⟩
      -- Ids are unique, so no call that stays hides one that goes.
      rw [← List.inj_on_of_nodup_map unique otherPresent present same]
      exact otherKept
    · intro callKept
      exact ⟨call, ⟨present, callKept⟩, rfl⟩
  change (before.calls.map PendingCall.id).filter _ = _
  rw [List.filter_map]
  congr 1
  apply List.filter_congr
  intro call present
  have membership := stays call present
  by_cases callKept : keep call = true <;> simp_all

end PendingCalls

structure CallWorld where
  now : Instant
  node : Node
  -- How many calls have begun.
  begun : Nat
  callers : CallId → Option Caller
  claims : List Claim

namespace CallWorld

def start (config : Config) : CallWorld := ⟨0, .new config, 0, fun _ => none, []⟩

def claimsOn (world : CallWorld) (id : CallId) : List Claim :=
  world.claims.filter fun claim => claim.call = id

def claim (world : CallWorld) (before : PendingCalls) (node : Node) (claimant : Claimant) :
    CallWorld :=
  { world with
    node := node
    claims :=
      world.claims ++ (before.removed node.pending).map fun id => ⟨id, claimant, world.now⟩ }

theorem claimsOn_claim {world : CallWorld} {before : PendingCalls} {node : Node}
    {claimant : Claimant} (unique : before.ids.Nodup) (id : CallId) :
    (world.claim before node claimant).claimsOn id =
      world.claimsOn id ++
        if id ∈ before.removed node.pending then [⟨id, claimant, world.now⟩] else [] := by
  have distinct : (before.removed node.pending).Nodup := unique.filter _
  simp only [claimsOn, claim, List.filter_append, List.filter_map]
  congr 1
  change ((before.removed node.pending).filter fun other => other = id).map _ = _
  rw [List.filter_eq]
  split
  next gone => simp [List.count_eq_one_of_mem distinct gone]
  next stays => simp [List.count_eq_zero_of_not_mem stays]

def turn (world : CallWorld) (node : Node) (claimant : Claimant) : CallWorld :=
  world.claim world.node.pending node claimant

def follow (world : CallWorld) (caller : Caller) : CallWorld :=
  { world with callers := fun id => if id = caller.id then some caller else world.callers id }

end CallWorld

/-- What the calls of a node depend on stays as it is. -/
structure Node.Quiet (before after : Node) : Prop where
  pending : after.pending = before.pending
  deliveries : after.deliveries = before.deliveries
  timedOut : after.traffic.timedOut = before.traffic.timedOut

namespace CallWorld

inductive Step (world : CallWorld) : CallWorld → Prop where
  | elapse (later : Instant) (forward : world.now ≤ later) : Step world { world with now := later }
  -- The node does something else: it sends, serves, hands over messages or notes a change.
  | elsewhere (node : Node) (quiet : world.node.Quiet node) : Step world { world with node := node }
  | acknowledge (acknowledgement : Acknowledgement) :
      Step world { world with node := world.node.acknowledge acknowledgement }
  -- A call begins. The counter of ids has not come round yet.
  | begin (clock : Clock) (reading : clock.now = world.now) (target : Member)
      (request : CallRequest)
      (timeout : Duration) (room : world.begun < UInt64.size) {issued : Node} {call : RemoteCall}
      (begins : world.node.beginRemote clock target request timeout = (issued, .remotely call)) :
      Step world
        ({ world with node := issued, begun := world.begun + 1 }.follow (.ofCall call))
  | fail (clock : Clock) (reading : clock.now = world.now) (target : Member) (request : CallRequest)
      (timeout : Duration) (room : world.begun < UInt64.size) {registered after : Node}
      {call : RemoteCall} {reason : String}
      (registers : world.node.registerCall target.id (clock.now + timeout) = (registered, call))
      (begins : world.node.beginRemote clock target request timeout =
        (after, .settled (.error (.serialization reason)))) :
      Step world
        (({ world with begun := world.begun + 1 }.claim registered.pending after
          (.unencodable reason)).follow
            ((Caller.ofCall call).moveTo (.returned (.error (.serialization reason)))))
  | look {id : CallId} {caller : Caller} (known : world.callers id = some caller) :
      Step world ((world.turn (world.node.look world.now caller).1 caller.point.claimant).follow
        (world.node.look world.now caller).2)
  | drop {id : CallId} {caller : Caller} (known : world.callers id = some caller)
      (active : caller.point.isOver = false) :
      Step world ((world.turn (world.node.abandon caller.call) .absence).follow
        (caller.moveTo .dropped))
  | stop {id : CallId} {caller : Caller} (known : world.callers id = some caller)
      (active : caller.point.isOver = false) {after : Node} {result : CallResult}
      (stops : world.node.unlessStopped (.remotely caller.call) = (after, .settled result)) :
      Step world ((world.turn after .absence).follow (caller.moveTo (.stopped result)))
  | respond (sender : MemberId) (response : Response) :
      Step world (world.turn (world.node.onResponse sender response)
        (.response sender response.outcome))
  | leave (target : MemberId) :
      Step world (world.turn (world.node.failCalls target Node.leftReason) .farewell)
  | die (target : MemberId) :
      Step world (world.turn (world.node.failCalls target Node.silentReason) .death)
  -- The failure detector looks at a clock reading that may be some time old by now.
  | expire (moment : Instant) (past : moment ≤ world.now) :
      Step world (world.turn (world.node.expireCalls moment) .expiry)
  | cancel : Step world (world.turn world.node.cancelCalls .cancellation)

inductive Reachable (config : Config) : CallWorld → Prop where
  | start : Reachable config (start config)
  | next {world after : CallWorld} (reached : Reachable config world) (step : Step world after) :
      Reachable config after

end CallWorld

end ClusterCoordination
