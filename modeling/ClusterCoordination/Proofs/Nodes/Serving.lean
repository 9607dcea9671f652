import ClusterCoordination.Proofs.Calls.LocationTransparency
import ClusterCoordination.Proofs.Nodes.Posting
/-!
# What serving does to a node

Going on with a request either leaves what is sent and counted alone, or counts it as served and
queues its response. It touches no other request, and work that has begun asks nothing more of the
dispatchers.
-/

set_option autoImplicit false

namespace ClusterCoordination

namespace Node

def request? (node : Node) (id : RequestId) : Option ServedRequest :=
  node.served.find? fun request => request.id = id

def equipped (node : Node) (table : DispatchTable) : Node := { node with dispatchers := table }

structure Ignores (before after : Node) : Prop where
  outbox : after.outbox = before.outbox
  traffic : after.traffic = before.traffic

/--
An outcome is counted as served and is queued for whoever asked, unless no datagram can be made of
it.
-/
structure Replies (before after : Node) (request : Request)
    (outcome : Except Status Bytes) : Prop where
  traffic : after.traffic = { before.traffic with served := before.traffic.served + 1 }
  queued : ∀ data,
    before.frame RawScope.response ⟨.response, ⟨request.correlation, outcome⟩⟩ = .ok data →
      after.outbox = (before.outbox.push request.replyAddress ⟨data, none⟩).1 ∧
        ∃ datagram, Datagram.decode data = .ok datagram ∧ datagram.sender = before.id.text ∧
          datagram.content = .response ⟨request.correlation, outcome⟩
  unmade : ∀ error,
    before.frame RawScope.response ⟨.response, ⟨request.correlation, outcome⟩⟩ = .error error →
      after.outbox = before.outbox

variable {node : Node} {id : RequestId}

theorem Ignores.refl (node : Node) : node.Ignores node := ⟨rfl, rfl⟩

@[simp] theorem request?_forgetRequest_self (node : Node) (id : RequestId) :
    (node.forgetRequest id).request? id = none := by
  simp [request?, forgetRequest]

theorem request?_answer (node : Node) (entry : ServedRequest) (outcome : Except Status Bytes)
    (id : RequestId) :
    (node.answer entry outcome).request? id = (node.forgetRequest entry.id).request? id := by
  unfold answer
  dsimp only
  split
  · rw [request?, enqueue, served_push]
    rfl
  · rfl

theorem replies_answer (node : Node) (entry : ServedRequest) (outcome : Except Status Bytes) :
    node.Replies (node.answer entry outcome) entry.request outcome := by
  have sameFrame : (node.forgetRequest entry.id).countServed.frame RawScope.response
      ⟨.response, ⟨entry.request.correlation, outcome⟩⟩ =
        node.frame RawScope.response ⟨.response, ⟨entry.request.correlation, outcome⟩⟩ := rfl
  unfold answer
  dsimp only
  rw [sameFrame]
  split
  next data framed =>
    obtain ⟨bytes, -, read, decoded⟩ := decode_of_frame framed
    refine ⟨traffic_push _ _ _, ?_, ?_⟩
    · intro given same
      obtain rfl := Except.ok.inj (framed.symm.trans same)
      exact ⟨outbox_push _ _ _, _, decoded, rfl, content_response read⟩
    · intro error failed
      simp [framed] at failed
  next error failed =>
    refine ⟨rfl, ?_, fun _ _ => rfl⟩
    intro data made
    simp [failed] at made

theorem push_equipped (node : Node) (table : DispatchTable) (address : SocketAddress)
    (outgoing : Outgoing) :
    (node.equipped table).push address outgoing = (node.push address outgoing).equipped table := by
  unfold push acknowledge
  dsimp only [equipped]
  split
  · split <;> rfl
  · split
    · split <;> rfl
    · rfl

theorem answer_equipped (node : Node) (table : DispatchTable) (entry : ServedRequest)
    (outcome : Except Status Bytes) :
    (node.equipped table).answer entry outcome = (node.answer entry outcome).equipped table := by
  have sameFrame :
      ((node.equipped table).forgetRequest entry.id).countServed.frame RawScope.response
      ⟨.response, ⟨entry.request.correlation, outcome⟩⟩ =
        (node.forgetRequest entry.id).countServed.frame RawScope.response
          ⟨.response, ⟨entry.request.correlation, outcome⟩⟩ := rfl
  unfold answer
  dsimp only
  rw [sameFrame]
  split
  · exact push_equipped (node.forgetRequest entry.id).countServed table _ _
  · rfl

theorem work_equipped (node : Node) (table : DispatchTable) (now : Instant) (entry : ServedRequest)
    (due deadline : Instant) (ending : Ending) :
    (node.equipped table).work now entry due deadline ending =
      (node.work now entry due deadline ending).equipped table := by
  unfold work
  split
  · split
    · exact node.answer_equipped table entry _
    · rfl
  · split <;> rfl

theorem work_of_crashed {now due : Instant} (done : due ≤ now) (node : Node) (entry : ServedRequest)
    (deadline : Instant) :
    node.work now entry due deadline .crashed = node.forgetRequest entry.id :=
  if_pos done

theorem work_of_overdue {now due deadline : Instant} (early : now < due) (overdue : deadline ≤ now)
    (node : Node) (entry : ServedRequest) (ending : Ending) :
    node.work now entry due deadline ending = node.forgetRequest entry.id := by
  unfold work
  rw [if_neg (Nat.not_le.mpr early), if_pos overdue]

theorem ignores_work {now due deadline : Instant} (early : now < due) (timely : now < deadline)
    (node : Node) (entry : ServedRequest) (ending : Ending) :
    node.Ignores (node.work now entry due deadline ending) := by
  unfold work
  rw [if_neg (Nat.not_le.mpr early), if_neg (Nat.not_le.mpr timely)]
  exact ⟨rfl, rfl⟩

/-- Of the requests that are served only the one with the id may be another afterwards. -/
structure TouchesOnly (id : RequestId) (before after : Node) : Prop where
  nextRequest : after.nextRequest = before.nextRequest
  others : ∀ other, other ≠ id → after.request? other = before.request? other

theorem touchesOnly_forgetRequest (node : Node) (id : RequestId) :
    node.TouchesOnly id (node.forgetRequest id) where
  nextRequest := rfl
  others := by
    intro other different
    unfold request? forgetRequest
    rw [List.find?_filter]
    congr 1
    funext request
    by_cases same : request.id = other
    · simp [same, different]
    · simp [same]

theorem touchesOnly_answer (node : Node) (entry : ServedRequest) (outcome : Except Status Bytes) :
    node.TouchesOnly entry.id (node.answer entry outcome) where
  nextRequest := by
    unfold answer
    dsimp only
    split
    next data _ =>
      obtain ⟨_, _, _, _, pushed⟩ := (node.forgetRequest entry.id).countServed.push_eq
        entry.request.replyAddress ⟨data, none⟩
      rw [enqueue, pushed]
      rfl
    next => rfl
  others := by
    intro other different
    rw [request?_answer]
    exact (node.touchesOnly_forgetRequest entry.id).others other different

theorem touchesOnly_stage (node : Node) (id : RequestId) (stage : ServingStage) :
    node.TouchesOnly id { node with
      served := node.served.map fun request =>
        if request.id = id then { request with stage := stage } else request } where
  nextRequest := rfl
  others := by
    intro other different
    have sameIds : ((fun request : ServedRequest => decide (request.id = other)) ∘ fun request =>
        if request.id = id then { request with stage := stage } else request) =
          fun request => decide (request.id = other) := by
      funext request
      by_cases hit : request.id = id <;> simp [hit]
    unfold request?
    rw [List.find?_map, sameIds]
    cases found : node.served.find? fun request => decide (request.id = other) with
    | none => rfl
    | some request =>
      have own : request.id = other := by simpa using List.find?_some found
      exact congrArg some (if_neg fun same => different (own.symm.trans same))

theorem touchesOnly_work (node : Node) (now : Instant) (entry : ServedRequest)
    (due deadline : Instant) (ending : Ending) :
    node.TouchesOnly entry.id (node.work now entry due deadline ending) := by
  unfold work
  split
  · split
    · exact node.touchesOnly_answer entry _
    · exact node.touchesOnly_forgetRequest entry.id
  · split
    · exact node.touchesOnly_forgetRequest entry.id
    · exact node.touchesOnly_stage entry.id _

theorem touchesOnly_beginServing (node : Node) (clock : Clock) (entry : ServedRequest) :
    node.TouchesOnly entry.id (node.beginServing clock entry) := by
  unfold beginServing
  split
  · exact node.touchesOnly_forgetRequest entry.id
  · split
    · exact node.touchesOnly_answer entry _
    · exact node.touchesOnly_work _ entry _ _ _

theorem id_of_request? {entry : ServedRequest} (found : node.request? id = some entry) :
    entry.id = id := by
  simpa using List.find?_some found

theorem touchesOnly_serve (node : Node) (clock : Clock) (id : RequestId) :
    node.TouchesOnly id (node.serve clock id) := by
  unfold serve
  split
  · exact ⟨rfl, fun _ _ => rfl⟩
  next entry found =>
    have same : entry.id = id := id_of_request? found
    split
    · exact node.touchesOnly_forgetRequest id
    · split
      · exact same ▸ node.touchesOnly_beginServing clock entry
      · exact same ▸ node.touchesOnly_work _ entry _ _ _

theorem serve_of_missing (missing : node.request? id = none) (clock : Clock) :
    node.serve clock id = node := by
  unfold request? at missing
  rw [serve, missing]

theorem serve_of_stopped (stopped : node.stopRequested = true) {entry : ServedRequest}
    (found : node.request? id = some entry) (clock : Clock) :
    node.serve clock id = node.forgetRequest id := by
  unfold request? at found
  rw [serve, found]
  exact if_pos stopped

end Node

end ClusterCoordination
