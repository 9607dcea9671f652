import ClusterCoordination.Proofs.Calls.Beginnings
import ClusterCoordination.Proofs.Network.Lines
/-!
# Answers

A member that has noted a request, and does the work in time, queues one datagram for whoever asked.
That datagram is the response of that member to that request, whoever receives it.
-/

set_option autoImplicit false

namespace ClusterCoordination

namespace Node

section

variable {node : Node} {served : ServedRequest} {outcome : Except Status Bytes}

theorem line_answer (keyed : node.outbox.Keyed) (sending : node.outbox.closed = false)
    (served : ServedRequest) (outcome : Except Status Bytes) (address : SocketAddress) :
    (node.answer served outcome).outbox.line address = node.outbox.line address ++
      match node.frame RawScope.response ⟨.response, ⟨served.request.correlation, outcome⟩⟩ with
      | .ok data => if served.request.replyAddress = address then [data] else []
      | .error _ => [] := by
  let counted := (node.forgetRequest served.id).countServed
  have framed : counted.frame RawScope.response
      ⟨.response, ⟨served.request.correlation, outcome⟩⟩ =
      node.frame RawScope.response ⟨.response, ⟨served.request.correlation, outcome⟩⟩ := rfl
  rw [← framed]
  unfold answer
  dsimp only
  split
  next data made =>
    have queued : counted.outbox = node.outbox := rfl
    rw [made, enqueue, outbox_push]
    exact queued ▸ keyed.line_push sending _ _ address
  next error failed =>
    rw [failed, List.append_nil]
    rfl

theorem frame_of_answer (keyed : node.outbox.Keyed) (sending : node.outbox.closed = false)
    {address : SocketAddress} {answer : Bytes}
    (queued : (node.answer served outcome).outbox.line address =
      node.outbox.line address ++ [answer]) :
    node.frame RawScope.response ⟨.response, ⟨served.request.correlation, outcome⟩⟩ =
      .ok answer := by
  rw [line_answer keyed sending, List.append_cancel_left_eq] at queued
  split at queued
  next data made =>
    split at queued
    · exact List.singleton_inj.mp queued ▸ made
    · simp at queued
  next => simp at queued

/--
A datagram with which a member answers one that it has been sent: it has noted a request, invoked
its dispatcher in time, and queued the answer once the work was done.
-/
inductive Responds (member caller : MemberId) (request : CallRequest)
    (outcome : Except Status Bytes) (asked answer : Bytes) : Prop where
  | served {arrival : Node} {choice : PeerChoice} {arrivedAt : Instant} {noted : ServedRequest}
      (arrives : (arrival.receive choice arrivedAt asked).served = arrival.served ++ [noted])
      {start : Node} {clock : Clock} (serves : start.Serves member noted)
      (arrived : noted.stage = .arrived)
      (timely : (clock.localDeadline? noted.request.deadline).isSome = true) {delay : Duration}
      (invoked : start.dispatchers.invoke caller request.targetType request.method
        request.arguments = ⟨delay, .returned outcome⟩)
      {last : Node} {later : Clock} (ends : Ends start clock noted (clock.now + delay) last later)
      (keyed : last.outbox.Keyed) {address : SocketAddress}
      (queued : (last.serve later noted.id).outbox.line address =
        last.outbox.line address ++ [answer])

theorem exists_responds {node start last : Node} {clock begun later : Clock} {id : CallId}
    {request : CallRequest} {timeout delay : Duration} {member : MemberId} {asked : Bytes}
    {arrival : RequestId}
    (reads : node.Reads asked (node.requestFrame clock id request timeout))
    (serves : start.Serves member
      ⟨arrival, node.id, node.requestFrame clock id request timeout, .arrived⟩)
    (timely : (begun.localDeadline? (clock.wireDeadline timeout)).isSome = true)
    (invoked : start.dispatchers.invoke node.id request.targetType request.method
      request.arguments = ⟨delay, .returned outcome⟩)
    (ends : Ends start begun
      ⟨arrival, node.id, node.requestFrame clock id request timeout, .arrived⟩
      (begun.now + delay) last later)
    (keyed : last.outbox.Keyed) (named : (textBytes member.text).length ≤ 65535)
    (fits : PayloadType.response.Fits ⟨id, outcome⟩) :
    ∃ answer, Responds member node.id request outcome asked answer := by
  obtain ⟨deadline, early, worked⟩ := serve_arrived serves rfl timely rfl rfl invoked
  obtain ⟨entry, answered, asks, same, sending⟩ := answer_of_ends serves early worked ends
  have lastNamed : (textBytes last.id.text).length ≤ 65535 := same ▸ named
  have entryFits : PayloadType.response.Fits ⟨entry.request.correlation, outcome⟩ := by
    rw [asks]
    exact fits
  obtain ⟨answer, made, -⟩ := receive_response lastNamed entryFits
  have queued := line_answer keyed sending entry outcome entry.request.replyAddress
  rw [made] at queued
  dsimp only at queued
  rw [if_pos rfl, ← answered] at queued
  let arriving : Node := { node with served := [], nextRequest := arrival }
  have arrives : (arriving.receive .first 0 asked).served = arriving.served ++
      [⟨arrival, node.id, node.requestFrame clock id request timeout, .arrived⟩] := by
    rw [reads]
    rfl
  exact ⟨answer, .served arrives serves rfl timely invoked ends keyed queued⟩

theorem exists_responds_at_once {node : Node} {clock : Clock} {id : CallId}
    {request : CallRequest} {timeout : Duration} {member : MemberId} {asked : Bytes}
    (reads : node.Reads asked (node.requestFrame clock id request timeout)) (begun : Clock)
    (timely : (begun.localDeadline? (clock.wireDeadline timeout)).isSome = true)
    (named : (textBytes member.text).length ≤ 65535)
    (fits : PayloadType.response.Fits ⟨id, outcome⟩) :
    ∃ answer, Responds member node.id request outcome asked answer := by
  let noted : ServedRequest := ⟨0, node.id, node.requestFrame clock id request timeout, .arrived⟩
  let server : Node := { Node.new (.new "cluster" member .unspecified .unspecified []) with
    dispatchers := ⟨[(request.targetType, fun _ _ _ => .immediate outcome)]⟩
    served := [noted] }
  have serves : server.Serves member noted := ⟨rfl, rfl, rfl, rfl⟩
  have invoked : server.dispatchers.invoke node.id request.targetType request.method
      request.arguments = .immediate outcome := by
    simp [server, DispatchTable.invoke, DispatchTable.find?]
  have ends : server.Ends begun noted (begun.now + 0) server begun := .atOnce (Nat.le_refl _)
  exact exists_responds reads serves timely invoked ends Outbox.keyed_empty named fits

theorem Responds.receive {node : Node} {clock : Clock} {id : CallId} {request : CallRequest}
    {timeout : Duration} {member : MemberId} {asked answer : Bytes}
    (responds : Responds member node.id request outcome asked answer)
    (reads : node.Reads asked (node.requestFrame clock id request timeout)) (receiver : Node)
    (choice : PeerChoice) (now : Instant) :
    receiver.receive choice now answer = receiver.onResponse member ⟨id, outcome⟩ := by
  obtain ⟨arrives, serves, -, timely, invoked, ends, keyed, queued⟩ := responds
  rename_i arrival _ _ noted start served _ last later _
  rw [reads] at arrives
  have same : noted = ⟨arrival.nextRequest, node.id, node.requestFrame clock id request timeout,
      .arrived⟩ := by
    simpa [onRequest, wake, eq_comm] using arrives
  subst same
  obtain ⟨deadline, early, worked⟩ := serve_arrived serves rfl timely rfl rfl invoked
  obtain ⟨entry, answered, asks, named, sending⟩ := answer_of_ends serves early worked ends
  rw [answered] at queued
  have framed := frame_of_answer keyed sending queued
  rw [asks] at framed
  obtain ⟨nameFits, fits⟩ := fits_of_frame framed
  obtain ⟨data, made, received⟩ := receive_response nameFits fits
  obtain rfl := Except.ok.inj (framed.symm.trans made)
  rw [received, named]
  rfl

end

end Node

end ClusterCoordination
