import ClusterCoordination.Proofs.Calls.Resolution
import ClusterCoordination.Proofs.Nodes.Running
import ClusterCoordination.Proofs.Wire.Frames
/-!
# Whose response ends a call

A response ends the call that has its correlation id. Ids are small numbers that every node counts
for itself, so that a response to another node, or to an earlier life of the same one, may well
carry the id of a call to somebody else.
-/

set_option autoImplicit false

namespace ClusterCoordination

namespace Node

section

variable {data : Bytes} {datagram : Datagram} {response : Response}

theorem receive_of_response (decoded : Datagram.decode data = .ok datagram)
    (content : datagram.content = .response response) (node : Node) (choice : PeerChoice)
    (now : Instant) :
    node.receive choice now data = node.onResponse ⟨datagram.sender⟩ response := by
  simp only [receive, decoded, content]

theorem pending_onResponse (node : Node) (sender : MemberId) (response : Response) :
    (node.onResponse sender response).pending =
      ⟨node.pending.nextId,
        node.pending.calls.filter fun call => !decide (call.id = response.correlation)⟩ := by
  have resolves := node.onResponse_resolves sender response
  rw [← resolves.nextId, ← resolves.calls]

/--
A response ends exactly the call with its correlation id, and nothing comes of it if there is none.
The member that was called is not compared with the sender: whoever sends the same leaves the same
table.
-/
theorem response_ends_call_by_id (decoded : Datagram.decode data = .ok datagram)
    (content : datagram.content = .response response) (node : Node) (choice : PeerChoice)
    (now : Instant) :
    let after := node.receive choice now data
    (response.correlation ∉ node.pending.ids → after = node) ∧
    node.Resolves after (fun call => call.id = response.correlation)
      (.ofOutcome response.outcome ⟨datagram.sender⟩) 0 ∧
    ∀ (other : Bytes) (claimed : Datagram), Datagram.decode other = .ok claimed →
      claimed.content = .response response →
        (node.receive choice now other).pending = after.pending := by
  intro after
  have answered : after = node.onResponse ⟨datagram.sender⟩ response :=
    receive_of_response decoded content node choice now
  rw [answered]
  refine ⟨?_, node.onResponse_resolves _ response, ?_⟩
  · intro absent
    exact onResponse_of_not_mem absent _
  · intro other claimed alsoDecoded alsoContent
    rw [receive_of_response alsoDecoded alsoContent, pending_onResponse, pending_onResponse]

end

namespace Stray

def config : Config := .new "cluster" ⟨"a"⟩ .unspecified .unspecified []

def greeting (name : String) : ControlFrame := ⟨⟨name⟩, "", .unspecified, .heartbeat, []⟩

def started : Node := ({ new config with lifecycle := .starting }).finishStart .first 5 0

/-- A node that knows two others and waits for an answer of the first. -/
def awaiting : Node :=
  ((started.receive .first 6 (greeting "b").wire).receive .first 6 (greeting "c").wire).act
    (.call ⟨7, 0⟩ [⟨"b"⟩] ⟨"calculator", "label", .empty⟩ (some 5000))

/-- The second answers a call of the same id that it has had from somebody else. -/
def answer : Datagram :=
  ⟨RawScope.response, "c", Response.form.schema.write (Response.form.toValue ⟨0, .ok [42]⟩)⟩

theorem running_awaiting : Running config 5 awaiting :=
  (((Running.started rfl .first 0).received .first 6 _).received .first 6 _).acted _

theorem calls_awaiting : awaiting.pending.calls = [⟨0, ⟨"b"⟩, 5007⟩] := by
  let met := started.onControlFrame .first 6 (greeting "b")
  have first : started.receive .first 6 (greeting "b").wire = met :=
    receive_wire (by decide) (by decide +kernel) .first 6
  have second : met.receive .first 6 (greeting "c").wire =
      met.onControlFrame .first 6 (greeting "c") :=
    receive_wire (by decide) (by decide +kernel) .first 6
  rw [awaiting, first, second]
  decide +kernel

theorem decode_answer : Datagram.decode answer.layout = .ok answer :=
  Datagram.decode_layout (by unfold Datagram.Writable; decide +kernel)

theorem content_answer : answer.content = .response ⟨0, .ok [42]⟩ := by
  have fits : PayloadType.response.Fits ⟨0, .ok [42]⟩ := by
    unfold PayloadType.Fits
    decide +kernel
  exact content_response (PayloadType.decode_write fits)

end Stray

/-- The stray answer ends the call, and its caller is given what the answer says. -/
theorem stray_answer_is_taken :
    let after := Stray.awaiting.receive .first 8 Stray.answer.layout
    after.pending.calls = [] ∧ ⟨0, .ok [42]⟩ ∈ after.deliveries := by
  intro after
  obtain ⟨-, resolves, -⟩ := response_ends_call_by_id Stray.decode_answer Stray.content_answer
    Stray.awaiting .first 8
  constructor
  · rw [resolves.calls, Stray.calls_awaiting]
    rfl
  · rw [resolves.delivered, Stray.calls_awaiting]
    exact .inr ⟨_, List.mem_singleton_self _, rfl, rfl⟩

theorem call_not_answered_by_target :
    ¬ ∀ (config : Config) (start : Instant) (node : Node), Running config start node →
      ∀ (choice : PeerChoice) (now : Instant) (data : Bytes) (datagram : Datagram)
        (response : Response), Datagram.decode data = .ok datagram →
          datagram.content = .response response → ∀ call ∈ node.pending.calls,
            call ∉ (node.receive choice now data).pending.calls →
              datagram.sender = call.target.text := by
  intro answered
  have waits : ⟨0, ⟨"b"⟩, 5007⟩ ∈ Stray.awaiting.pending.calls := by
    rw [Stray.calls_awaiting]
    exact List.mem_singleton_self _
  have ended : (⟨0, ⟨"b"⟩, 5007⟩ : PendingCall) ∉
      (Stray.awaiting.receive .first 8 Stray.answer.layout).pending.calls := by
    rw [receive_of_response Stray.decode_answer Stray.content_answer, pending_onResponse]
    simp
  have sender :=
    answered Stray.config 5 Stray.awaiting Stray.running_awaiting .first 8 _ Stray.answer
    _ Stray.decode_answer Stray.content_answer _ waits ended
  exact absurd sender (by decide)

end Node

end ClusterCoordination
