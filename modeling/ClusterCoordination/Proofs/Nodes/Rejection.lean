import ClusterCoordination.Proofs.Calls.Correlation
import ClusterCoordination.Proofs.Nodes.Answering
/-!
# Rejected datagrams

What a node makes nothing of leaves no trace at all: neither members nor calls, queues or counts
change, and nothing is invoked. Every other datagram leaves one.
-/

set_option autoImplicit false

namespace ClusterCoordination

inductive RawScope.Carries : Int16 → PayloadType → Prop where
  | control : Carries RawScope.control .control
  | request : Carries RawScope.request .request
  | response : Carries RawScope.response .response

theorem RawScope.unknown_iff (scope : Int16) : (scope = 0 ∨ scope < -3) ↔
    ¬ 0 < scope ∧ scope ≠ RawScope.control ∧ scope ≠ RawScope.request ∧
      scope ≠ RawScope.response := by
  have zero : (0 : Int16).toInt = 0 := rfl
  have three : (-3 : Int16).toInt = -3 := rfl
  have control : RawScope.control.toInt = -1 := rfl
  have request : RawScope.request.toInt = -2 := rfl
  have response : RawScope.response.toInt = -3 := rfl
  simp only [Int16.lt_iff_toInt_lt, ne_eq, ← Int16.toInt_inj, zero, three, control, request,
    response]
  omega

namespace Datagram

variable {datagram : Datagram}

theorem content_of_control (scope : datagram.scope = RawScope.control) :
    datagram.content = .ofArchive .control datagram.payload .control := by
  simp only [content, scope, if_true]

theorem content_of_request (scope : datagram.scope = RawScope.request) :
    datagram.content = .ofArchive .request datagram.payload .request := by
  have other : RawScope.request ≠ RawScope.control := by decide
  simp only [content, scope, other, if_false, if_true]

theorem content_of_response (scope : datagram.scope = RawScope.response) :
    datagram.content = .ofArchive .response datagram.payload .response := by
  have other : RawScope.response ≠ RawScope.control := by decide
  have another : RawScope.response ≠ RawScope.request := by decide
  simp only [content, scope, other, another, if_false, if_true]

theorem content_of_positive (positive : 0 < datagram.scope) :
    datagram.content = .message ⟨datagram.scope, positive⟩ datagram.payload := by
  have none {internal : Int16} (negative : ¬ 0 < internal) : datagram.scope ≠ internal :=
    fun same => negative (same ▸ positive)
  have control : datagram.scope ≠ RawScope.control := none (by decide)
  have request : datagram.scope ≠ RawScope.request := none (by decide)
  have response : datagram.scope ≠ RawScope.response := none (by decide)
  simp only [content, control, request, response, if_false, Scope.ofValue, positive, dite_true]

theorem content_of_unknown (unknown : datagram.scope = 0 ∨ datagram.scope < -3) :
    datagram.content = .unreadable := by
  obtain ⟨negative, control, request, response⟩ := (RawScope.unknown_iff _).mp unknown
  simp only [content, control, request, response, if_false, Scope.ofValue, negative, dite_false]

theorem content_of_garbled {type : PayloadType} (carried : RawScope.Carries datagram.scope type)
    {status : Status} (failed : type.decode datagram.payload = .error status) :
    datagram.content = .unreadable := by
  generalize scope : datagram.scope = raw at carried
  cases carried with
  | control => simp only [content_of_control scope, Content.ofArchive, failed]
  | request => simp only [content_of_request scope, Content.ofArchive, failed]
  | response => simp only [content_of_response scope, Content.ofArchive, failed]

end Datagram

namespace Node

inductive Rejects (node : Node) (data : Bytes) : Prop where
  | malformed {fault : Datagram.Fault} (failed : Datagram.decode data = .error fault)
  | unknownScope {datagram : Datagram} (decoded : Datagram.decode data = .ok datagram)
      (unknown : datagram.scope = 0 ∨ datagram.scope < -3)
  | garbled {datagram : Datagram} (decoded : Datagram.decode data = .ok datagram)
      {type : PayloadType}
      (carried : RawScope.Carries datagram.scope type) {status : Status}
      (failed : type.decode datagram.payload = .error status)
  | misattributed {datagram : Datagram} (decoded : Datagram.decode data = .ok datagram)
      (scope : datagram.scope = RawScope.control) {frame : ControlFrame}
      (read : PayloadType.control.decode datagram.payload = .ok frame)
      (other : frame.sender.text ≠ datagram.sender)
  | echoed {datagram : Datagram} (decoded : Datagram.decode data = .ok datagram)
      (scope : datagram.scope = RawScope.control) {frame : ControlFrame}
      (read : PayloadType.control.decode datagram.payload = .ok frame)
      (own : frame.sender = node.id)
  | unawaited {datagram : Datagram} (decoded : Datagram.decode data = .ok datagram)
      (scope : datagram.scope = RawScope.response) {response : Response}
      (read : PayloadType.response.decode datagram.payload = .ok response)
      (absent : response.correlation ∉ node.pending.ids)

/-- What a datagram of the sender leaves behind in a node. -/
inductive Traces (before : Node) (sender : MemberId) (after : Node) : Prop where
  | known (contains : after.registry.contains sender = true)
  | gone (left : ∀ record, after.registry.record? sender = some record → record.left = true)
  | invoked (request : Request)
      (served : after.served = before.served ++ [⟨before.nextRequest, sender, request, .arrived⟩])
  | resolved (response : Response) (awaited : response.correlation ∈ before.pending.ids)
      (resolves : before.Resolves after (fun call => call.id = response.correlation)
        (.ofOutcome response.outcome sender) 0)
  | waits (scope : Scope) (payload : Bytes)
      (inbound : after.inbound = before.inbound ++ [⟨sender, scope, payload⟩])

section

variable {node : Node} {choice : PeerChoice} {now : Instant} {data : Bytes} {datagram : Datagram}

theorem receive_controlFrame (decoded : Datagram.decode data = .ok datagram)
    (scope : datagram.scope = RawScope.control) {frame : ControlFrame}
    (read : PayloadType.control.decode datagram.payload = .ok frame) :
    node.receive choice now data = node.onControl choice now ⟨datagram.sender⟩ frame := by
  simp only [receive, decoded, Datagram.content_of_control scope, Content.ofArchive, read]

theorem receive_requestFrame (decoded : Datagram.decode data = .ok datagram)
    (scope : datagram.scope = RawScope.request) {request : Request}
    (read : PayloadType.request.decode datagram.payload = .ok request) :
    node.receive choice now data = node.onRequest ⟨datagram.sender⟩ request := by
  simp only [receive, decoded, Datagram.content_of_request scope, Content.ofArchive, read]

theorem receive_responseFrame (decoded : Datagram.decode data = .ok datagram)
    (scope : datagram.scope = RawScope.response) {response : Response}
    (read : PayloadType.response.decode datagram.payload = .ok response) :
    node.receive choice now data = node.onResponse ⟨datagram.sender⟩ response := by
  simp only [receive, decoded, Datagram.content_of_response scope, Content.ofArchive, read]

theorem receive_message (decoded : Datagram.decode data = .ok datagram)
    (positive : 0 < datagram.scope) : node.receive choice now data =
      node.onMessage ⟨⟨datagram.sender⟩, ⟨datagram.scope, positive⟩, datagram.payload⟩ := by
  simp only [receive, decoded, Datagram.content_of_positive positive]

theorem receive_of_rejects (rejects : node.Rejects data) (choice : PeerChoice) (now : Instant) :
    node.receive choice now data = node := by
  cases rejects with
  | malformed failed => simp only [receive, failed]
  | unknownScope decoded unknown =>
    simp only [receive, decoded, Datagram.content_of_unknown unknown]
  | garbled decoded carried failed =>
    simp only [receive, decoded, Datagram.content_of_garbled carried failed]
  | @misattributed datagram decoded scope frame read other =>
    have mismatch : frame.sender ≠ ⟨datagram.sender⟩ :=
      fun same => other (congrArg MemberId.text same)
    rw [receive_controlFrame decoded scope read]
    exact if_pos (.inl mismatch)
  | echoed decoded scope read own =>
    rw [receive_controlFrame decoded scope read]
    exact if_pos (.inr own)
  | unawaited decoded scope read absent =>
    rw [receive_responseFrame decoded scope read]
    exact onResponse_of_not_mem absent _

theorem onControlFrame_traces (node : Node) (choice : PeerChoice) (now : Instant)
    (frame : ControlFrame) : node.Traces frame.sender (node.onControlFrame choice now frame) := by
  by_cases leaves : frame.kind = .leave
  · have registry : (node.onControlFrame choice now frame).registry =
        (node.registry.leave now frame.sender).1 := by
      simp only [onControlFrame, leaves]
      exact node.roster.registry_perform (.leave now frame.sender)
    apply Traces.gone
    intro record found
    have treated := Registry.leave_treats node.registry now frame.sender frame.sender
    rw [registry, treated, if_pos rfl] at found
    obtain ⟨earlier, -, rfl⟩ := Option.map_eq_some_iff.mp found
    unfold MemberRecord.leave
    split
    next gone => exact gone
    next => rfl
  · exact .known (contains_onControlFrame leaves)

theorem receive_traces (heeded : ¬ node.Rejects data) (choice : PeerChoice) (now : Instant) :
    ∃ datagram, Datagram.decode data = .ok datagram ∧
      node.Traces ⟨datagram.sender⟩ (node.receive choice now data) := by
  cases decoded : Datagram.decode data with
  | error fault => exact absurd (.malformed decoded) heeded
  | ok datagram =>
    refine ⟨datagram, rfl, ?_⟩
    -- Every reason to reject the datagram is ruled out at the test that would have found it.
    have readable (type : PayloadType) (carried : RawScope.Carries datagram.scope type) :
        ∃ value, type.decode datagram.payload = .ok value := by
      cases read : type.decode datagram.payload with
      | error status => exact absurd (.garbled decoded carried read) heeded
      | ok value => exact ⟨value, rfl⟩
    by_cases control : datagram.scope = RawScope.control
    · obtain ⟨frame, read⟩ := readable .control (control ▸ .control)
      have named : frame.sender = ⟨datagram.sender⟩ := by
        by_contra other
        exact heeded
          (.misattributed decoded control read fun same => other (congrArg MemberId.mk same))
      have foreign : frame.sender ≠ node.id := fun own => heeded (.echoed decoded control read own)
      have accepted : ¬ (frame.sender ≠ ⟨datagram.sender⟩ ∨ frame.sender = node.id) := by
        simp [← named, foreign]
      have heard : node.onControl choice now ⟨datagram.sender⟩ frame =
          node.onControlFrame choice now frame := if_neg accepted
      rw [receive_controlFrame decoded control read, heard, ← named]
      exact node.onControlFrame_traces choice now frame
    by_cases request : datagram.scope = RawScope.request
    · obtain ⟨asked, read⟩ := readable .request (request ▸ .request)
      rw [receive_requestFrame decoded request read]
      exact .invoked asked rfl
    by_cases response : datagram.scope = RawScope.response
    · obtain ⟨answer, read⟩ := readable .response (response ▸ .response)
      have awaited : answer.correlation ∈ node.pending.ids := by
        by_contra absent
        exact heeded (.unawaited decoded response read absent)
      rw [receive_responseFrame decoded response read]
      exact .resolved answer awaited (node.onResponse_resolves _ answer)
    have positive : 0 < datagram.scope := by
      by_contra negative
      exact heeded (.unknownScope decoded
        ((RawScope.unknown_iff _).mpr ⟨negative, control, request, response⟩))
    rw [receive_message decoded positive]
    apply Traces.waits ⟨datagram.scope, positive⟩ datagram.payload
    unfold onMessage
    dsimp only
    split <;> rfl

/--
Rejected input leaves no trace, in whatever state the node is: it stays as it is in every part.
Whatever is not rejected leaves a trace, so that nothing else goes unheeded.
-/
theorem rejected_input_leaves_no_trace (node : Node) (choice : PeerChoice) (now : Instant)
    (data : Bytes) :
    (node.Rejects data → node.receive choice now data = node) ∧
      (¬ node.Rejects data → ∃ datagram, Datagram.decode data = .ok datagram ∧
        node.Traces ⟨datagram.sender⟩ (node.receive choice now data)) :=
  ⟨fun rejects => receive_of_rejects rejects choice now,
    fun heeded => receive_traces heeded choice now⟩

end

/-- A node that waits for the answer to its call is given one to a call that it has not made. -/
theorem answer_to_nothing_is_ignored :
    let response : Response := ⟨1, .ok [42]⟩
    let datagram : Datagram :=
      ⟨RawScope.response, "b", Response.form.schema.write (Response.form.toValue response)⟩
    Running Stray.config 5 Stray.awaiting ∧ Stray.awaiting.pending.ids = [0] ∧
      Stray.awaiting.Rejects datagram.layout ∧
      Stray.awaiting.receive .first 8 datagram.layout = Stray.awaiting := by
  intro response datagram
  have ids : Stray.awaiting.pending.ids = [0] := by
    rw [PendingCalls.ids, Stray.calls_awaiting]
    rfl
  have fits : PayloadType.response.Fits response := by
    unfold PayloadType.Fits
    decide +kernel
  have decoded : Datagram.decode datagram.layout = .ok datagram :=
    Datagram.decode_layout (by unfold Datagram.Writable; decide +kernel)
  have absent : response.correlation ∉ Stray.awaiting.pending.ids := by
    rw [ids]
    decide
  have rejects : Stray.awaiting.Rejects datagram.layout :=
    .unawaited decoded rfl (PayloadType.decode_write fits) absent
  exact ⟨Stray.running_awaiting, ids, rejects,
    (rejected_input_leaves_no_trace Stray.awaiting .first 8 datagram.layout).1 rejects⟩

end Node

end ClusterCoordination
