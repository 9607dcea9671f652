import ClusterCoordination.Proofs.Lifecycle.Proceeding
/-!
# What a node can be asked

Everything its application may ask of a node besides starting it, stopping it and looking at its
state and its statistics. A node that does not run refuses, whatever it is asked.
-/

set_option autoImplicit false

namespace ClusterCoordination

namespace Node

inductive Question where
  | clusterName
  | currentMember
  | currentMemberId
  | memberUuid
  | isAlive (id : MemberId)
  | isMaster
  | master
  | member (id : MemberId)
  | memberName (id : Option MemberId)
  | physicalAddress (id : MemberId)
  | memberAddresses
  | members
  | watchMembers
  | watchMaster
  | waitFor (now : Instant) (ids : List MemberId) (timeout : Duration)
  | registerHandler (scope : Scope) (handler : Handler)
  | deregisterHandler (scope : Scope)
  | registerDispatcher (targetType : String) (dispatcher : Dispatcher)
  | addService (service : Service)
  | sendMessage (scope : Scope) (message : Payload) (target : Option MemberId)
  -- Calls of one member and calls of several.
  | call (clock : Clock) (targets : List MemberId) (request : CallRequest)
      (timeout : Option Duration)
  | typedCall (clock : Clock) (targets : List MemberId) (targetType method : String)
      (message : Payload) (timeout : Option Duration)

def Question.Answer : Question → Type
  | .clusterName => String
  | .currentMember => Member
  | .currentMemberId => MemberId
  | .memberUuid => Option Uuid
  | .isAlive _ | .isMaster => Bool
  | .master | .member _ => Option Member
  | .memberName _ => Option String
  | .physicalAddress _ => Option SocketAddress
  | .memberAddresses => List SocketAddress
  | .members => List Member
  | .watchMembers | .watchMaster => Observer
  -- What is still waited for.
  | .waitFor .. => Option MemberWait
  | .registerHandler .. | .deregisterHandler _ | .registerDispatcher .. | .addService _ => Bool
  | .sendMessage .. => Nat
  | .call .. | .typedCall .. => List (MemberId × Branch)

def telling {Answer : Type} (node : Node) (answer : Except ClusterError Answer) :
    Except ClusterError (Node × Answer) :=
  answer.map fun answer => (node, answer)

def waiting (node : Node) :
    Progress MemberWait (Except ClusterError Unit) → Except ClusterError (Node × Option MemberWait)
  | .done (.ok ()) => .ok (node, none)
  | .done (.error error) => .error error
  | .waiting wait => .ok (node, some wait)

def ask (node : Node) : (question : Question) → Except ClusterError (Node × question.Answer)
  | .clusterName => node.telling node.clusterName
  | .currentMember => node.telling node.currentMember
  | .currentMemberId => node.telling node.currentMemberId
  | .memberUuid => node.telling node.memberUuid
  | .isAlive id => node.telling (node.isAlive id)
  | .isMaster => node.telling node.isMaster
  | .master => node.telling node.master
  | .member id => node.telling (node.member id)
  | .memberName id => node.telling (node.memberName id)
  | .physicalAddress id => node.telling (node.physicalAddress id)
  | .memberAddresses => node.telling node.memberAddresses
  | .members => node.telling node.members
  | .watchMembers | .watchMaster => node.telling node.watch
  | .waitFor now ids timeout => node.waiting (node.beginWait now ids timeout)
  | .registerHandler scope handler => node.registerHandler scope handler
  | .deregisterHandler scope => node.deregisterHandler scope
  | .registerDispatcher targetType dispatcher => node.registerDispatcher targetType dispatcher
  | .addService service => node.addService service
  | .sendMessage scope message target => node.sendMessage scope message target
  | .call clock targets request timeout => node.beginCall clock targets request timeout
  | .typedCall clock targets targetType method message timeout =>
    node.beginTypedCall clock targets targetType method message timeout

def Question.begun : (question : Question) → question.Answer → List (MemberId × Branch)
  | .call .. => fun branches => branches
  | .typedCall .. => fun branches => branches
  | _ => fun _ => []

/-- What is wrong with a question whoever is asked: its message cannot be archived. -/
def Question.fault? : Question → Option ClusterError
  | .typedCall _ _ _ _ message _ =>
    match Arguments.empty.push message with
    | .error status => some (.serialization status.message)
    | .ok _ => none
  | _ => none

section

variable {node : Node}

theorem whenRunning_of_resting {Answer : Type} (resting : node.lifecycle ≠ .running)
    (answer : Answer) : node.whenRunning answer = .error (.state .running node.lifecycle) :=
  if_neg resting

theorem ask_of_resting (resting : node.lifecycle ≠ .running) (question : Question) :
    node.ask question = .error (question.fault?.getD (.state .running node.lifecycle)) := by
  have refuses {Answer : Type} (answer : Answer) :
      node.whenRunning answer = .error (.state .running node.lifecycle) :=
    whenRunning_of_resting resting answer
  have tells {Answer : Type} (answer : Answer) :
      node.telling (node.whenRunning answer) = .error (.state .running node.lifecycle) := by
    rw [refuses]
    rfl
  cases question with
  | currentMember =>
    simp only [ask, currentMember, refuses]
    rfl
  | waitFor now ids timeout =>
    simp only [ask, beginWait, refuses]
    rfl
  | sendMessage scope message target =>
    simp only [ask, Node.sendMessage, refuses]
    rfl
  | call clock targets request timeout =>
    simp only [ask, beginCall, refuses]
    rfl
  | typedCall clock targets targetType method message timeout =>
    cases archived : Arguments.empty.push message with
    | error status =>
      simp only [ask, beginTypedCall, Question.fault?, archived]
      rfl
    | ok arguments =>
      simp only [ask, beginTypedCall, Question.fault?, archived, beginCall, refuses]
      rfl
  | registerHandler | deregisterHandler | registerDispatcher | addService => exact refuses _
  | _ => exact tells _

theorem running_of_ask {after : Node} {question : Question} {answer : question.Answer}
    (asked : node.ask question = .ok (after, answer)) : node.lifecycle = .running := by
  by_contra resting
  rw [ask_of_resting resting] at asked
  simp at asked

theorem telling_eq_ok {Answer : Type} {told : Except ClusterError Answer} {after : Node}
    {answer : Answer} (tells : node.telling told = .ok (after, answer)) : after = node := by
  cases told with
  | error error => simp [telling, Except.map] at tells
  | ok told =>
    simp only [telling, Except.map, Except.ok.injEq, Prod.mk.injEq] at tells
    exact tells.1.symm

theorem waiting_eq_ok {progress : Progress MemberWait (Except ClusterError Unit)} {after : Node}
    {wait : Option MemberWait}
    (waits : node.waiting progress = .ok (after, wait)) : after = node := by
  unfold waiting at waits
  split at waits
  · simp only [Except.ok.injEq, Prod.mk.injEq] at waits
    exact waits.1.symm
  · simp at waits
  · simp only [Except.ok.injEq, Prod.mk.injEq] at waits
    exact waits.1.symm

theorem notifies_of_whenRunning {Answer : Type} {changed after : Node} {answer given : Answer}
    (changes : node.Notifies changed)
    (asked : node.whenRunning (changed, answer) = .ok (after, given)) :
    node.Notifies after := by
  have notifies : node.Notifies (node.orStay (node.whenRunning (changed, answer))) :=
    notifies_whenRunning changes
  rwa [asked] at notifies

theorem proceeds_ask {after : Node} {question : Question} {answer : question.Answer}
    (asked : node.ask question = .ok (after, answer)) : node.Proceeds after := by
  have running := running_of_ask asked
  have stays (same : after = node) : node.Proceeds after := same ▸ .refl node
  have notifies (notifies : node.Notifies after) : node.Proceeds after :=
    notifies.proceeds fun resting => absurd running resting
  cases question with
  | waitFor now ids timeout => exact stays (waiting_eq_ok asked)
  | registerHandler | deregisterHandler | registerDispatcher | addService =>
    refine notifies (notifies_of_whenRunning ?_ asked)
    exact ⟨rfl, rfl, rfl, rfl, rfl, rfl, rfl, rfl, .refl⟩
  | sendMessage scope message target =>
    obtain ⟨payload, data, -, made, rfl⟩ := sendMessage_eq_ok asked
    have silent : bidsFarewell data = false := by
      rw [bidsFarewell, read?_of_other (scope_ne_control scope) made]
      rfl
    refine (node.posts_enqueue_all _ data).proceeds ?_ fun resting => absurd running resting
    rintro _ _ rfl
    exact silent
  | call clock targets request timeout => exact notifies (places_beginCall asked).notifies
  | typedCall clock targets targetType method message timeout =>
    cases archived : Arguments.empty.push message with
    | error status => simp [ask, beginTypedCall, archived] at asked
    | ok arguments =>
      simp only [ask, beginTypedCall, archived] at asked
      exact notifies (places_beginCall asked).notifies
  | _ => exact stays (telling_eq_ok asked)

end

end Node

end ClusterCoordination
