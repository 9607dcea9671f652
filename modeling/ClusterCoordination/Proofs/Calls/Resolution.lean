import ClusterCoordination.Node.Receiving
import ClusterCoordination.Node.Rounds
import ClusterCoordination.Proofs.Calls.Caller
/-!
# What becomes of the table of pending calls

Every function of a node that touches the table either resolves the calls that satisfy a condition
or ends one call for good. Nothing more is said of these functions in what follows.
-/

set_option autoImplicit false

namespace ClusterCoordination

def PendingCalls.ids (pending : PendingCalls) : List CallId := pending.calls.map PendingCall.id

theorem PendingCalls.find?_isSome_iff {pending : PendingCalls} {id : CallId} :
    (pending.find? id).isSome = true ↔ id ∈ pending.ids := by
  simp [find?, ids]

theorem PendingCalls.find?_isSome_of_not_mem {pending : PendingCalls} {id : CallId}
    (absent : id ∉ pending.ids) : (pending.find? id).isSome = false := by
  rw [Bool.eq_false_iff]
  exact fun found => absent (find?_isSome_iff.mp found)

namespace Node

structure Resolves (before after : Node) (condition : PendingCall → Bool) (result : CallResult)
    (timeouts : Nat) : Prop where
  nextId : after.pending.nextId = before.pending.nextId
  calls : after.pending.calls = before.pending.calls.filter fun call => !condition call
  delivered : ∀ delivery, delivery ∈ after.deliveries ↔ delivery ∈ before.deliveries ∨
    ∃ call ∈ before.pending.calls, condition call = true ∧ delivery = ⟨call.id, result⟩
  timedOut : after.traffic.timedOut = before.traffic.timedOut + timeouts

theorem failWhere_resolves (node : Node) (condition : PendingCall → Bool) (error : ClusterError)
    (timeouts : Nat) :
    let (pending, deliveries) := node.pending.failWhere condition error
    node.Resolves (({ node with pending := pending }.countTimeouts timeouts).deliver deliveries)
      condition (.error error) timeouts := by
  constructor
  case nextId => rfl
  case calls => rfl
  case delivered =>
    intro delivery
    simp only [deliver, countTimeouts, List.mem_append, List.mem_map,
      List.mem_filter, and_assoc]
    simp only [eq_comm]
  case timedOut => rfl

theorem failCalls_resolves (node : Node) (member : MemberId) (reason : String) :
    node.Resolves (node.failCalls member reason) (fun call => call.target = member)
      (.error (.unreachable member reason)) 0 :=
  node.failWhere_resolves _ _ 0

theorem cancelCalls_resolves (node : Node) :
    node.Resolves node.cancelCalls (fun _ => true) (.error .cancelled) 0 :=
  node.failWhere_resolves _ _ 0

theorem expireCalls_resolves (node : Node) (moment : Instant) :
    node.Resolves (node.expireCalls moment) (fun call => call.deadline ≤ moment) (.error .timeout)
      (node.pending.calls.filter fun call => call.deadline ≤ moment).length := by
  have resolves := node.failWhere_resolves (fun call => call.deadline ≤ moment) .timeout
    (node.pending.calls.filter fun call => call.deadline ≤ moment).length
  simpa [expireCalls, PendingCalls.expireOverdue, PendingCalls.failWhere] using resolves

theorem takeCall_of_mem {node : Node} {id : CallId} (present : id ∈ node.pending.ids) :
    node.takeCall id = ((node.takeCall id).1, true) := by
  have found := PendingCalls.find?_isSome_iff.mpr present
  simp [takeCall, PendingCalls.take, found]

theorem takeCall_of_not_mem {node : Node} {id : CallId} (absent : id ∉ node.pending.ids) :
    node.takeCall id = (node, false) := by
  have missing := PendingCalls.find?_isSome_of_not_mem absent
  have kept : (node.pending.calls.filter fun call => call.id ≠ id) = node.pending.calls := by
    rw [List.filter_eq_self]
    intro call present
    simp only [ne_eq, decide_eq_true_eq]
    exact fun same => absent (same ▸ List.mem_map_of_mem present)
  simp only [takeCall, PendingCalls.take, missing, kept]

theorem onResponse_of_not_mem {node : Node} {response : Response}
    (absent : response.correlation ∉ node.pending.ids) (sender : MemberId) :
    node.onResponse sender response = node := by
  have missing := PendingCalls.find?_isSome_of_not_mem absent
  simp [onResponse, PendingCalls.complete, PendingCalls.take, missing]

theorem onResponse_resolves (node : Node) (sender : MemberId) (response : Response) :
    node.Resolves (node.onResponse sender response) (fun call => call.id = response.correlation)
      (.ofOutcome response.outcome sender) 0 := by
  by_cases present : response.correlation ∈ node.pending.ids
  · have found := PendingCalls.find?_isSome_iff.mpr present
    simp only [onResponse, PendingCalls.complete, PendingCalls.take, found, if_true]
    constructor
    case nextId => rfl
    case calls => simp [deliver]
    case delivered =>
      intro delivery
      obtain ⟨call, listed, same⟩ := List.mem_map.mp present
      simp only [deliver, List.mem_append, List.mem_singleton, decide_eq_true_eq]
      constructor
      · rintro (older | rfl)
        · exact .inl older
        · exact .inr ⟨call, listed, same, by rw [same]⟩
      · rintro (older | ⟨other, _, hit, rfl⟩)
        · exact .inl older
        · exact .inr (by rw [hit])
    case timedOut => rfl
  · -- A response to no pending call resolves those that satisfy the condition: none.
    have different : ∀ call ∈ node.pending.calls, call.id ≠ response.correlation := by
      intro call listed same
      exact present (same ▸ List.mem_map_of_mem listed)
    rw [onResponse_of_not_mem present]
    constructor
    case nextId => rfl
    case calls => simpa [eq_comm (a := node.pending.calls)] using different
    case delivered =>
      intro delivery
      simp only [decide_eq_true_eq]
      constructor
      · exact .inl
      · rintro (older | ⟨call, listed, same, _⟩)
        · exact older
        · exact absurd same (different call listed)
    case timedOut => rfl

structure Concludes (before after : Node) (id : CallId) (timeouts : Nat) : Prop where
  nextId : after.pending.nextId = before.pending.nextId
  calls : after.pending.calls = before.pending.calls.filter fun call => call.id ≠ id
  deliveries : after.deliveries = before.deliveries.filter fun delivery => delivery.call ≠ id
  timedOut : after.traffic.timedOut = before.traffic.timedOut + timeouts

theorem abandon_concludes (node : Node) (call : RemoteCall) :
    node.Concludes (node.abandon call) call.id 0 :=
  ⟨rfl, rfl, rfl, rfl⟩

theorem abandon_takeCall_concludes (node : Node) (call : RemoteCall) (timeouts : Nat) :
    node.Concludes (((node.takeCall call.id).1.countTimeouts timeouts).abandon call) call.id
      timeouts := by
  refine ⟨rfl, ?_, rfl, rfl⟩
  simp [abandon, takeCall, countTimeouts, PendingCalls.take, List.filter_filter]

theorem push_eq (node : Node) (address : SocketAddress) (outgoing : Outgoing) :
    ∃ outbox acknowledgements farewells woken, node.push address outgoing =
      { node with
        outbox := outbox
        acknowledgements := acknowledgements
        farewells := farewells
        woken := woken } := by
  unfold push acknowledge
  split
  · split <;> exact ⟨_, _, _, _, rfl⟩
  · split
    · split <;> exact ⟨_, _, _, _, rfl⟩
    · exact ⟨_, _, _, _, rfl⟩

@[simp] theorem pending_push (node : Node) (address : SocketAddress) (outgoing : Outgoing) :
    (node.push address outgoing).pending = node.pending := by
  obtain ⟨_, _, _, _, pushed⟩ := node.push_eq address outgoing
  rw [pushed]

@[simp] theorem deliveries_push (node : Node) (address : SocketAddress) (outgoing : Outgoing) :
    (node.push address outgoing).deliveries = node.deliveries := by
  obtain ⟨_, _, _, _, pushed⟩ := node.push_eq address outgoing
  rw [pushed]

@[simp] theorem traffic_push (node : Node) (address : SocketAddress) (outgoing : Outgoing) :
    (node.push address outgoing).traffic = node.traffic := by
  obtain ⟨_, _, _, _, pushed⟩ := node.push_eq address outgoing
  rw [pushed]

@[simp] theorem served_push (node : Node) (address : SocketAddress) (outgoing : Outgoing) :
    (node.push address outgoing).served = node.served := by
  obtain ⟨_, _, _, _, pushed⟩ := node.push_eq address outgoing
  rw [pushed]

theorem frame_error {node : Node} {scope : Int16} {payload : Payload} {error : ClusterError}
    (failed : node.frame scope payload = .error error) :
    ∃ reason, error = .serialization reason := by
  unfold frame datagram at failed
  split at failed
  · split at failed
    · simp at failed
    · exact ⟨_, (Except.error.inj failed).symm⟩
  · exact ⟨_, (Except.error.inj failed).symm⟩

theorem delivery?_eq_some {node : Node} {id : CallId} {delivery : Delivery}
    (found : node.delivery? id = some delivery) :
    delivery ∈ node.deliveries ∧ delivery.call = id := by
  refine ⟨List.mem_of_find?_eq_some found, ?_⟩
  simpa using List.find?_some found

theorem delivery?_eq_none {node : Node} {id : CallId} (missing : node.delivery? id = none) :
    ∀ delivery ∈ node.deliveries, delivery.call ≠ id := by
  simpa [delivery?] using missing

theorem awaitOutcome_of_delivery {node : Node} {now : Instant} {call : RemoteCall} {id : CallId}
    {result : CallResult} (found : node.delivery? call.id = some ⟨id, result⟩) :
    (node.awaitOutcome now call).2 = .settled result := by
  rw [awaitOutcome, found]
  rfl

theorem pollRemote_of_delivery {node : Node} {now : Instant} {call : RemoteCall} {id : CallId}
    {result : CallResult} (found : node.delivery? call.id = some ⟨id, result⟩)
    (gone : call.id ∉ node.pending.ids)
    (ready : call.stage = .waiting ∨ call.deadline ≤ now ∨
      (node.acknowledgement? call.id).isSome) :
    (node.pollRemote now call).2 = .settled result := by
  unfold pollRemote
  split
  next => exact awaitOutcome_of_delivery found
  next sending =>
    split
    next unheard =>
      have due : ¬ now < call.deadline := by
        rw [sending, unheard] at ready
        exact Nat.not_lt.mpr ((ready.resolve_left (by simp)).resolve_right (by simp))
      rw [if_neg due]
      exact awaitOutcome_of_delivery found
    next => exact awaitOutcome_of_delivery found
    next =>
      rw [takeCall_of_not_mem gone]
      exact awaitOutcome_of_delivery found

theorem beginRemote_cases (node : Node) (clock : Clock) (target : Member) (request : CallRequest)
    (timeout : Duration) :
    let (registered, call) := node.registerCall target.id (clock.now + timeout)
    (∃ issued, node.beginRemote clock target request timeout = (issued, .remotely call) ∧
        issued.pending = registered.pending ∧ issued.deliveries = node.deliveries ∧
        issued.traffic.timedOut = node.traffic.timedOut) ∨
      ∃ after reason, node.beginRemote clock target request timeout =
          (after, .settled (.error (.serialization reason))) ∧
        registered.Concludes after call.id 0 := by
  unfold beginRemote
  cases begun : node.registerCall target.id (clock.now + timeout) with
  | mk registered call =>
    simp only [registerCall, Prod.mk.injEq] at begun
    obtain ⟨rfl, rfl⟩ := begun
    simp only
    split
    next error failed =>
      obtain ⟨reason, rfl⟩ := frame_error failed
      exact .inr ⟨_, reason, rfl, abandon_concludes _ _⟩
    next data framed =>
      refine .inl ⟨_, rfl, ?_⟩
      simp [countIssued]

end Node

end ClusterCoordination
