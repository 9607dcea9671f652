import ClusterCoordination.Proofs.Lifecycle.Proceeding
/-!
# Whom a node bids farewell

A node that begins to stop queues one farewell for each other member that is alive, and no more.
-/

set_option autoImplicit false

namespace ClusterCoordination

def Config.farewell (config : Config) : ControlFrame where
  sender := config.id
  name := config.name
  address := config.publicAddress
  kind := .leave
  peers := []

/-- How much of its archive a farewell takes besides its two names. -/
def farewellOverhead : Nat := 68

theorem Config.short_farewell {config : Config} (named : (textBytes config.id.text).length ≤ 65535)
    (brief : (textBytes config.id.text).length + (textBytes config.name).length + farewellOverhead <
      PayloadType.archiveLimit) : config.farewell.Short := by
  have none : ∀ value ∈ ([] : List Peer.form.schema.Value), Peer.form.schema.PointsTo value 0 := by
    simp
  have nobody : (Schema.list Peer.form.schema).PointsTo [] (0 * 0 + 4 + 0 * 48) :=
    pointsTo_list none
  have points : ControlFrame.form.schema.PointsTo (ControlFrame.form.toValue config.farewell) _ :=
    pointsTo_record (pointTo_cons (pointsTo_text config.id.text)
      (pointTo_cons (pointsTo_text config.name)
        (pointTo_cons (pointsTo_address config.publicAddress)
        (pointTo_cons (pointsTo_kind .leave) (pointTo_cons nobody pointTo_nil)))))
  have written := points.length_write_le
  have alignment : ControlFrame.form.schema.alignment = 4 := by decide
  have size : ControlFrame.form.schema.size = 60 := by decide
  rw [alignment, size] at written
  refine ⟨⟨rfl, Nat.lt_of_le_of_lt written ?_⟩, named⟩
  unfold farewellOverhead at brief
  omega

namespace Node

variable {node : Node}

/-- Those who are alive have not left, so the members that are told are all the others alive. -/
theorem survivors_perm (sound : node.registry.Sound) (owner : node.registry.localId = node.id) :
    node.survivors.Perm node.alivePeers := by
  have told : node.survivors =
      (node.registry.records.map MemberRecord.member).filter fun member =>
        member.alive && member.id ≠ node.id := by
    simp only [survivors, Registry.heartbeatTargets, List.filter_map, List.filter_filter]
    congr 1
    apply List.filter_congr
    intro record present
    have found := Registry.record?_of_mem sound.unique present
    have coherent := sound.coherent _ record found
    cases alive : record.member.alive with
    | false => simp [alive]
    | true =>
      have stays : record.left = false := by
        cases left : record.left with
        | false => rfl
        | true => simp [coherent.left_dead left] at alive
      simp [alive, stays, owner]
  rw [told]
  exact (node.registry.members_perm.symm).filter _

theorem queued_sayFarewell (fresh : node.outbox.Numbered) (opened : node.outbox.closed = false)
    {choice : PeerChoice} {data : Bytes}
    (made : node.controlDatagram (choice 0) .leave = .ok data) :
    (node.sayFarewell choice).outbox.queued =
      (node.survivors.map fun member => (member.address, data) : Multiset _) +
        node.outbox.queued := by
  let telling : Node := { node with farewells := node.survivors.map Member.id }
  have told : (node.survivors.foldl (fun node member =>
      node.push member.address ⟨data, some (.farewell member.id)⟩) telling).outbox.queued =
        ((node.survivors.filter fun _ => true).map fun member =>
          (member.address, data) : Multiset _) +
          node.outbox.queued :=
    queued_foldl_push (fun member => ⟨data, some (.farewell member.id)⟩) (fun _ => true)
      node.survivors
      telling fresh opened fun _ _ _ _ => rfl
  rw [List.filter_true] at told
  simp only [sayFarewell, made]
  exact told

theorem queued_beginStop (fresh : node.outbox.Numbered) (opened : node.outbox.closed = false)
    (short : node.config.farewell.Short) {choice : PeerChoice} {after : Node}
    (stopping : node.beginStop choice = .ok after) :
    after.outbox.queued =
      (node.survivors.map fun member => (member.address, node.config.farewell.wire) : Multiset _) +
        node.outbox.queued := by
  obtain ⟨-, woken, rfl⟩ := beginStop_eq_ok stopping
  have frame : node.controlFrame (choice 0) .leave = node.config.farewell := rfl
  have made : node.controlDatagram (choice 0) .leave = .ok node.config.farewell.wire := by
    rw [← frame] at short ⊢
    exact controlDatagram_of_short short
  let told : Node := { node with lifecycle := .stopping, stopRequested := true, woken := woken }
  have same : told.controlDatagram (choice 0) .leave = node.controlDatagram (choice 0) .leave :=
    controlDatagram_congr rfl rfl (choice 0) .leave
  have toldFresh : told.outbox.Numbered := fresh
  have queued := queued_sayFarewell toldFresh opened (same.trans made)
  exact queued

end Node

end ClusterCoordination
