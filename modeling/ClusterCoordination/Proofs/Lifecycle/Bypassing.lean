import ClusterCoordination.Proofs.Lifecycle.Hosts
import ClusterCoordination.Proofs.Nodes.DetectionRound
/-!
# What serves no request

Requests come by one kind of datagram and go when somebody looks at them. Whatever else a node does,
it leaves those that it serves, their numbering and the count of those served as they are.
-/

set_option autoImplicit false

namespace ClusterCoordination

namespace Node

/-- Requests are left alone, those that are served and those to come. -/
structure Bypasses (before after : Node) : Prop where
  served : after.served = before.served
  nextRequest : after.nextRequest = before.nextRequest
  count : after.traffic.served = before.traffic.served

theorem Bypasses.refl (node : Node) : node.Bypasses node := ⟨rfl, rfl, rfl⟩

theorem Bypasses.trans {first second third : Node} (one : first.Bypasses second)
    (other : second.Bypasses third) : first.Bypasses third where
  served := other.served.trans one.served
  nextRequest := other.nextRequest.trans one.nextRequest
  count := other.count.trans one.count

theorem Mails.bypasses {before after : Node} (mails : before.Mails after) :
    before.Bypasses after := by
  obtain ⟨_, _, _, _, rfl⟩ := mails
  exact ⟨rfl, rfl, rfl⟩

theorem Polls.bypasses {before after : Node} (polls : before.Polls after) :
    before.Bypasses after := by
  induction polls with
  | refl => exact .refl before
  | take _ _ ih | count _ _ ih | abandon _ _ ih => exact ih.trans ⟨rfl, rfl, rfl⟩

section

variable (node : Node)

theorem bypasses_onControlFrame (choice : PeerChoice) (now : Instant) (frame : ControlFrame) :
    node.Bypasses (node.onControlFrame choice now frame) := by
  have joined : node.Bypasses (node.join now frame.member) := ⟨rfl, rfl, rfl⟩
  unfold onControlFrame
  dsimp only
  split
  · have greeted :=
      joined.trans (mails_sendControl _ (choice 0) frame.member.address .heartbeat).bypasses
    exact greeted.trans (mails_discover _ choice.rest frame.peers).bypasses
  · obtain ⟨roster, heard⟩ := node.hear_eq now frame.member
    rw [heard]
    have noted : node.Bypasses { node with roster := roster } := ⟨rfl, rfl, rfl⟩
    exact noted.trans (mails_discover _ choice frame.peers).bypasses
  · exact ⟨rfl, rfl, rfl⟩

theorem bypasses_onResponse (sender : MemberId) (response : Response) :
    node.Bypasses (node.onResponse sender response) := by
  unfold onResponse
  split
  · exact ⟨rfl, rfl, rfl⟩
  · exact .refl node

theorem bypasses_onMessage (message : InboundMessage) : node.Bypasses (node.onMessage message) := by
  unfold onMessage
  dsimp only
  split <;> exact ⟨rfl, rfl, rfl⟩

theorem receive_brings (choice : PeerChoice) (now : Instant) (data : Bytes) :
    node.Bypasses (node.receive choice now data) ∨
      ∃ sender request, node.receive choice now data = node.onRequest sender request := by
  unfold receive
  split
  · exact .inl (.refl node)
  · dsimp only
    split
    · refine .inl ?_
      unfold onControl
      split
      · exact .refl node
      · exact node.bypasses_onControlFrame choice now _
    · exact .inr ⟨_, _, rfl⟩
    · exact .inl (node.bypasses_onResponse _ _)
    · exact .inl (node.bypasses_onMessage _)
    · exact .inl (.refl node)

theorem bypasses_detectionRound (now : Instant) : node.Bypasses (node.detectionRound now) := by
  have counted := congrArg Traffic.served (node.traffic_detectionRound now)
  obtain ⟨_, _, _, _, _, round⟩ := node.detectionRound_eq now
  refine ⟨?_, ?_, counted⟩
  · rw [round]
  · rw [round]

theorem bypasses_handleMessages (now : Instant) : node.Bypasses (node.handleMessages now).1 := by
  obtain ⟨_, _, _, _, handled⟩ := node.handleMessages_eq now
  rw [handled]
  exact ⟨rfl, rfl, rfl⟩

theorem bypasses_completed (drain : DrainId) (result : Except NetworkFault Unit) :
    node.Bypasses (node.completed drain result) := by
  obtain ⟨_, _, _, completed⟩ := node.completed_eq drain result
  rw [completed]
  exact ⟨rfl, rfl, rfl⟩

theorem bypasses_beginRemote (clock : Clock) (target : Member) (request : CallRequest)
    (timeout : Duration) : node.Bypasses (node.beginRemote clock target request timeout).1 := by
  have registered : node.Bypasses (node.registerCall target.id (clock.now + timeout)).1 :=
    ⟨rfl, rfl, rfl⟩
  unfold beginRemote
  dsimp only
  split
  · exact registered.trans (polls_settle _ _ _).bypasses
  · have counted : node.Bypasses
        (node.registerCall target.id (clock.now + timeout)).1.countIssued := ⟨rfl, rfl, rfl⟩
    exact counted.trans (mails_push _ target.address _).bypasses

end

section

variable {node after : Node}

theorem Places.bypasses (places : node.Places after) : node.Bypasses after := by
  induction places with
  | refl => exact .refl node
  | remote _ _ _ clock request timeout ih =>
    exact ih.trans (bypasses_beginRemote _ clock _ request timeout)
  | polls _ polled ih => exact ih.trans polled.bypasses

theorem bypasses_of_whenRunning {Answer : Type} {changed : Node} {answer given : Answer}
    (changes : node.Bypasses changed)
    (asked : node.whenRunning (changed, answer) = .ok (after, given)) :
    node.Bypasses after := by
  unfold whenRunning at asked
  split at asked
  · have same : changed = after := congrArg Prod.fst (Except.ok.inj asked)
    rwa [← same]
  · simp at asked

theorem bypasses_ask {question : Question} {answer : question.Answer}
    (asked : node.ask question = .ok (after, answer)) : node.Bypasses after := by
  have stays (same : after = node) : node.Bypasses after := same ▸ .refl node
  cases question with
  | waitFor now ids timeout => exact stays (waiting_eq_ok asked)
  | registerHandler | deregisterHandler | registerDispatcher | addService =>
    refine bypasses_of_whenRunning ?_ asked
    exact ⟨rfl, rfl, rfl⟩
  | sendMessage scope message target => exact (mails_sendMessage asked).bypasses
  | call clock targets request timeout => exact (places_beginCall asked).bypasses
  | typedCall clock targets targetType method message timeout =>
    cases archived : Arguments.empty.push message with
    | error status => simp [ask, beginTypedCall, archived] at asked
    | ok arguments =>
      simp only [ask, beginTypedCall, archived] at asked
      exact (places_beginCall asked).bypasses
  | _ => exact stays (telling_eq_ok asked)

theorem bypasses_completeStart (node : Node) (choice : PeerChoice) :
    node.Bypasses (node.completeStart choice) :=
  (node.mails_sendJoins choice node.seeds).bypasses.trans ⟨rfl, rfl, rfl⟩

theorem bypasses_beginStop {choice : PeerChoice} (stopping : node.beginStop choice = .ok after) :
    node.Bypasses after := by
  have noted : node.Bypasses { node with lifecycle := .stopping, stopRequested := true } :=
    ⟨rfl, rfl, rfl⟩
  exact noted.trans (mails_beginStop stopping).bypasses

end

end Node

end ClusterCoordination
