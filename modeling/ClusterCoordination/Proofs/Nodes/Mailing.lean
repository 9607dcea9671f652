import ClusterCoordination.Proofs.Calls.Resolution
import ClusterCoordination.Proofs.Nodes.Posting
/-!
# Mailing

A node that mails datagrams puts them into queues, and hears at once of those that no queue takes.
Whatever it mails and to whomever, the rest of the node stays as it is.
-/

set_option autoImplicit false

namespace ClusterCoordination

namespace Node

def Mails (before after : Node) : Prop :=
  ∃ outbox acknowledgements farewells woken, after =
    { before with
      outbox := outbox
      acknowledgements := acknowledgements
      farewells := farewells
      woken := woken }

theorem Mails.refl (node : Node) : node.Mails node := ⟨_, _, _, _, rfl⟩

theorem Mails.trans {first second third : Node} (one : first.Mails second)
    (other : second.Mails third) : first.Mails third := by
  obtain ⟨_, _, _, _, rfl⟩ := one
  obtain ⟨_, _, _, _, rfl⟩ := other
  exact ⟨_, _, _, _, rfl⟩

theorem mails_foldl {Item : Type} {step : Node → Item → Node}
    (mails : ∀ node item, Node.Mails node (step node item)) (items : List Item) (node : Node) :
    node.Mails (items.foldl step node) := by
  induction items generalizing node with
  | nil => exact .refl node
  | cons item rest ih => exact (mails node item).trans (ih (step node item))

section

variable (node : Node) (choice : PeerChoice)

theorem mails_push (address : SocketAddress) (outgoing : Outgoing) :
    node.Mails (node.push address outgoing) :=
  node.push_eq address outgoing

theorem mails_enqueueAll (members : List Member) (data : Bytes) :
    node.Mails (members.foldl (fun current member => current.enqueue member.address data) node) :=
  mails_foldl (fun current (member : Member) => current.mails_push member.address _) members node

theorem mails_sendControl (sample : PeerSample) (address : SocketAddress) (kind : ControlKind) :
    node.Mails (node.sendControl sample address kind) := by
  unfold sendControl
  split
  · exact node.mails_push address _
  · exact .refl node

theorem mails_sendJoins (addresses : List SocketAddress) :
    node.Mails (node.sendJoins choice addresses) := by
  induction addresses generalizing node choice with
  | nil => exact .refl node
  | cons address others ih =>
    exact (node.mails_sendControl _ address .join).trans (ih _ choice.rest)

theorem mails_discover (peers : List Peer) : node.Mails (node.discover choice peers) :=
  node.mails_sendJoins choice _

theorem mails_heartbeatRound : node.Mails (node.heartbeatRound choice) := by
  have sent : node.Mails (node.sendHeartbeats (choice 0)) := by
    unfold sendHeartbeats
    split
    · exact node.mails_enqueueAll _ _
    · exact .refl node
  exact sent.trans (mails_sendJoins _ choice.rest _)

theorem mails_sayFarewell : node.Mails (node.sayFarewell choice) := by
  unfold sayFarewell
  split
  next => exact .refl node
  next data _ =>
    have noted : node.Mails { node with farewells := node.survivors.map Member.id } :=
      ⟨_, _, _, _, rfl⟩
    exact noted.trans
      (mails_foldl (fun current (member : Member) => current.mails_push member.address _) _ _)

end

section

variable {node after : Node}

theorem mails_sendMessage {scope : Scope} {message : Payload} {target : Option MemberId}
    {count : Nat}
    (done : node.sendMessage scope message target = .ok (after, count)) : node.Mails after := by
  obtain ⟨payload, data, -, -, rfl⟩ := sendMessage_eq_ok done
  exact node.mails_enqueueAll _ data

theorem mails_beginStop {choice : PeerChoice} (stopping : node.beginStop choice = .ok after) :
    Mails { node with lifecycle := .stopping, stopRequested := true } after := by
  unfold beginStop transition at stopping
  split at stopping
  next => simp at stopping
  next halting begun =>
    split at begun
    · obtain rfl := Except.ok.inj begun
      obtain rfl := Except.ok.inj stopping
      refine Mails.trans ?_ (mails_sayFarewell _ choice)
      exact ⟨_, _, _, _, rfl⟩
    · simp at begun

end

end Node

end ClusterCoordination
