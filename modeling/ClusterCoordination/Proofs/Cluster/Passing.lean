import ClusterCoordination.Proofs.Cluster.Forwarding
import ClusterCoordination.Proofs.Nodes.Faces
/-!
# Passing frames on

What a node has queued for another one that is not cut off can be brought to the socket of that one,
and can be read there. What comes of it can be told from the faces of the nodes.
-/

set_option autoImplicit false

namespace ClusterCoordination

namespace Fabric

variable {count : Nat}

/-- The node reads the datagram, and lists these peers if it has to answer. -/
structure Reads (before : Fabric count) (index : Fin count) (choice : PeerChoice) (data : Bytes)
    (after : Fabric count) : Prop where
  first : (before.waiting index).head? = some data
  made : ∃ now, before.step? (.read index choice now) = some after

/-- The nodes show these faces, these datagrams wait for them to be read, and nobody is cut off. -/
structure Shows (configs : Fin count → Config) (faces : Fin count → Face)
    (mail : Fin count → List Bytes) (fabric : Fabric count) : Prop where
  wired : fabric.Wired configs
  faces : ∀ index, (fabric.nodes index).Shows (configs index) (faces index)
  mail : ∀ index, fabric.waiting index = mail index
  connected : fabric.network.isolated = []

variable {configs : Fin count → Config} {faces : Fin count → Face} {mail : Fin count → List Bytes}
  {before after fabric : Fabric count} {index source target : Fin count} {choice : PeerChoice}
  {data : Bytes} {frame : ControlFrame}

theorem Reads.node (reads : before.Reads index choice data after) :
    before.isOpen index = true ∧
      ∃ now, after.nodes index = (before.nodes index).receive choice now data := by
  obtain ⟨first, now, made⟩ := reads
  cases step_of_step? made with
  | @received _ _ _ socket read plugged arrived =>
    obtain ⟨rest, inbox, -⟩ := Network.receive_eq_some arrived
    rw [waiting_eq plugged, inbox] at first
    obtain rfl := Option.some.inj first
    exact ⟨by simp [isOpen, plugged], now, nodes_put_self _ _ _⟩

theorem Shows.next (shows : fabric.Shows configs faces mail) (wired : after.Wired configs)
    {face : Face} (shown : (after.nodes source).Shows (configs source) face)
    (others : ∀ index, index ≠ source → after.nodes index = fabric.nodes index)
    (socket : (after.nodes source).socket = (fabric.nodes source).socket) {id : SocketId}
    (plugged : (fabric.nodes target).socket = some id) (inbox : List Bytes → List Bytes)
    (became : after.network =
      fabric.network.modify id fun socket => { socket with inbox := inbox socket.inbox }) :
    after.Shows configs (Function.update faces source face)
      (Function.update mail target (inbox (mail target))) := by
  obtain ⟨known, found, -⟩ := shows.wired.socket plugged
  have sockets (index : Fin count) : (after.nodes index).socket = (fabric.nodes index).socket := by
    by_cases same : index = source
    · rw [same, socket]
    · rw [others index same]
  refine ⟨wired, ?_, ?_, ?_⟩
  · intro index
    by_cases same : index = source
    · subst same
      rwa [Function.update_self]
    · rw [Function.update_of_ne same, others index same]
      exact shows.faces index
  · intro index
    obtain ⟨other, alsoPlugged⟩ := Option.isSome_iff_exists.mp (shows.faces index).bound
    rw [waiting_eq ((sockets index).trans alsoPlugged), became, Network.inbox_put found]
    by_cases same : index = target
    · subst same
      obtain rfl := Option.some.inj (alsoPlugged.symm.trans plugged)
      rw [if_pos rfl, Function.update_self, ← shows.mail, waiting_eq plugged]
    · rw [if_neg (shows.wired.ne_socket plugged same alsoPlugged).symm, Function.update_of_ne same,
        ← shows.mail, waiting_eq alsoPlugged]
  · rw [became]
    exact shows.connected

theorem Shows.sends (shows : fabric.Shows configs faces mail) (source target : Fin count)
    (only : ((faces source).queued.filter fun item => item.1 = (configs target).listenAddress) =
      [((configs target).listenAddress, frame)]) :
    ∃ drain after, fabric.steps? [.take source drain, .transmit source drain] = some after ∧
      after.Shows configs
        (Function.update faces source ((faces source).without (configs target).listenAddress))
        (Function.update mail target (mail target ++ [frame.wire])) := by
  obtain ⟨drain, taken, shown⟩ := (shows.faces source).sent only
  obtain ⟨id, plugged⟩ := Option.isSome_iff_exists.mp (shows.faces target).bound
  obtain ⟨socket, found, present⟩ := shows.wired.socket plugged
  have clear (first second : SocketAddress) :
      ¬ (first ∈ fabric.network.isolated ∨ second ∈ fabric.network.isolated) := by
    simp [shows.connected]
  -- The socket of the target is open and nobody is cut off, so the network takes the datagram.
  have accepted := Network.send_of_bound frame.wire
    (clear (fabric.nodes source).config.listenAddress (configs target).listenAddress)
    (shows.wired.bound target id plugged) found present
  let taking := fabric.put fabric.network source
    { fabric.nodes source with outbox := ((fabric.nodes source).outbox.take drain).1 }
  have takes : fabric.step? (.take source drain) = some taking := by
    have split : (fabric.nodes source).outbox.take drain =
        (((fabric.nodes source).outbox.take drain).1, some _) := Prod.ext rfl taken
    simp only [step?]
    rw [split]
  have sending : (taking.nodes source).outbox.sending? drain =
      some ((configs target).listenAddress, frame.wire) := by
    rw [nodes_put_self]
    exact Outbox.sending?_take taken
  let after := taking.put
    (fabric.network.modify id fun socket => { socket with inbox := socket.inbox ++ [frame.wire] })
      source
    ((fabric.nodes source).sent drain (.ok ()))
  have transmits : taking.step? (.transmit source drain) = some after := by
    have sender : (taking.nodes source).config = (fabric.nodes source).config := by
      rw [nodes_put_self]
    have completes : (taking.nodes source).completed drain (.ok ()) =
        (fabric.nodes source).sent drain (.ok ()) := by
      rw [nodes_put_self]
      rfl
    simp only [step?, sending, sender]
    rw [network_put, accepted]
    simp only [completes]
    rfl
  have wired := (shows.wired.step (step_of_step? takes)).step (step_of_step? transmits)
  refine ⟨drain, after, by rw [steps?_cons takes, steps?_cons transmits, steps?], ?_⟩
  refine shows.next wired ?_ ?_ ?_ plugged (· ++ [frame.wire]) rfl
  · rwa [nodes_put_self]
  · intro index other
    rw [nodes_put_other _ other, nodes_put_other _ other]
  · rw [nodes_put_self, Node.socket_sent]

theorem Shows.reads (shows : fabric.Shows configs faces mail) {rest : List Bytes}
    (waits : mail target = frame.wire :: rest) (short : frame.Short)
    (foreign : frame.sender ≠ (configs target).id) (staying : frame.kind ≠ .leave)
    (talks : (saying (configs target) (hearing (faces target).registry frame) .join).Short) :
    ∃ after, fabric.Reads target .first frame.wire after ∧
      after.Shows configs
        (Function.update faces target ((faces target).hear (configs target) frame))
        (Function.update mail target rest) := by
  obtain ⟨id, plugged⟩ := Option.isSome_iff_exists.mp (shows.faces target).bound
  obtain ⟨socket, found, -⟩ := shows.wired.socket plugged
  have inbox : fabric.waiting target = frame.wire :: rest := (shows.mail target).trans waits
  have waiting : socket.inbox = frame.wire :: rest := by
    rw [← Network.inbox_of_socket? found, ← waiting_eq plugged, inbox]
  have received := Network.receive_of_cons found waiting
  let after := fabric.put
    (fabric.network.modify id fun socket => { socket with inbox := rest }) target
    ((fabric.nodes target).receive .first 0 frame.wire)
  have reads : fabric.step? (.read target .first 0) = some after := by
    simp only [step?, plugged, received]
    rfl
  refine ⟨after, ⟨by rw [inbox]; rfl, 0, reads⟩, ?_⟩
  refine shows.next (shows.wired.step (step_of_step? reads)) ?_ ?_ ?_ plugged (fun _ => rest) rfl
  · rw [nodes_put_self]
    exact (shows.faces target).hears short foreign staying talks
  · intro index other
    rw [nodes_put_other _ other]
  · rw [nodes_put_self, Node.socket_receive]

end Fabric

end ClusterCoordination
