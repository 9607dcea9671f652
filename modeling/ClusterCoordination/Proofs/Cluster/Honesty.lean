import Mathlib.Logic.Function.Basic
import ClusterCoordination.Proofs.Nodes.Running
/-!
# Clusters of nodes

Nodes that start, act, send one another what they have queued and stop, in any order. What they know
of one another and what they say in control frames are the ids and addresses of nodes of the
cluster.
-/

set_option autoImplicit false

namespace ClusterCoordination

/-- The states of some nodes, and what they have queued for one another. -/
abbrev Cluster (count : Nat) := Fin count → Node

namespace Cluster

variable {count : Nat}

def put (cluster : Cluster count) (index : Fin count) (node : Node) : Cluster count :=
  Function.update cluster index node

@[simp] theorem put_self (cluster : Cluster count) (index : Fin count) (node : Node) :
    cluster.put index node index = node :=
  Function.update_self ..

theorem put_other (cluster : Cluster count) {index other : Fin count} (different : other ≠ index)
    (node : Node) : cluster.put index node other = cluster other :=
  Function.update_of_ne different ..

/-- The node reads what is sent to the address. -/
def Listens (cluster : Cluster count) (index : Fin count) (address : SocketAddress) : Prop :=
  (cluster index).socket.isSome ∧ (cluster index).config.listenAddress = address

/--
A node sends the next datagram of a queue, and the node that listens at its address receives it.
-/
inductive Delivers (before : Cluster count) (source : Fin count) (address : SocketAddress)
    (data : Bytes) : Cluster count → Prop where
  | delivers (drain : DrainId) (target : Fin count) (choice : PeerChoice) (now : Instant)
      (taken : ((before source).outbox.take drain).2 = some (address, data))
      (listens : before.Listens target address) :
      Delivers before source address data
        (let sent := before.put source ((before source).sent drain (.ok ()))
        sent.put target ((sent target).receive choice now data))

inductive Reachable (configs : Fin count → Config) : Cluster count → Prop where
  | created : Reachable configs fun index => .new (configs index)
  | started {cluster : Cluster count} (reached : Reachable configs cluster) {index : Fin count}
      {starting : Node} (begun : (cluster index).beginStart = .ok starting)
      (free : ∀ other, ¬ cluster.Listens other (cluster index).config.listenAddress)
      (choice : PeerChoice) (now : Instant) (socket : SocketId) :
      Reachable configs (cluster.put index (starting.finishStart choice now socket))
  | acted {cluster : Cluster count} (reached : Reachable configs cluster) {index : Fin count}
      (opened : (cluster index).socket.isSome) (action : Node.Action) :
      Reachable configs (cluster.put index ((cluster index).act action))
  | delivered {before after : Cluster count} (reached : Reachable configs before)
      {source : Fin count} {address : SocketAddress} {data : Bytes}
      (delivers : Delivers before source address data after) : Reachable configs after
  | lost {cluster : Cluster count} (reached : Reachable configs cluster) {source : Fin count}
      {drain : DrainId} {item : SocketAddress × Bytes}
      (taken : ((cluster source).outbox.take drain).2 = some item) (fault : NetworkFault) :
      Reachable configs (cluster.put source ((cluster source).sent drain (.error fault)))
  | stopped {cluster : Cluster count} (reached : Reachable configs cluster) {index : Fin count}
      (opened : (cluster index).socket.isSome) (now : Instant) :
      Reachable configs (cluster.put index ((cluster index).finishStop now))

def started (configs : Fin count → Config) : Cluster count := fun index =>
  ({ Node.new (configs index) with lifecycle := .starting } : Node).finishStart .first 0 index.val

theorem config_started (configs : Fin count → Config) (index : Fin count) :
    (started configs index).config = configs index :=
  (Node.utters_finishStart { Node.new (configs index) with lifecycle := .starting } .first 0
    index.val).config

def startedBelow (configs : Fin count → Config) (number : Nat) : Cluster count := fun index =>
  if index.val < number then started configs index else .new (configs index)

theorem startedBelow_succ (configs : Fin count → Config) (index : Fin count) :
    startedBelow configs (index.val + 1) =
      (startedBelow configs index.val).put index (started configs index) := by
  funext other
  by_cases same : other = index
  · subst same
    rw [put_self, startedBelow, if_pos (Nat.lt_succ_self _)]
  · have apart : other.val ≠ index.val := fun value => same (Fin.ext value)
    rw [put_other _ same]
    simp only [startedBelow, Nat.lt_succ_iff_lt_or_eq, apart, or_false]

theorem lt_of_startedBelow_listens {configs : Fin count → Config} {number : Nat} {index : Fin count}
    {address : SocketAddress} (listens : (startedBelow configs number).Listens index address) :
    index.val < number ∧ (configs index).listenAddress = address := by
  obtain ⟨opened, listening⟩ := listens
  by_cases earlier : index.val < number
  · simp only [startedBelow, earlier, if_true, config_started] at listening
    exact ⟨earlier, listening⟩
  · simp [startedBelow, earlier, Node.new] at opened

theorem reachable_started {configs : Fin count → Config}
    (separate : Function.Injective fun index => (configs index).listenAddress) :
    Reachable configs (started configs) := by
  -- The nodes start one after the other, each at an address that none of those before it listens
  -- at.
  have below (number : Nat) (within : number ≤ count) :
      Reachable configs (startedBelow configs number) := by
    induction number with
    | zero => exact .created
    | succ number ih =>
      let index : Fin count := ⟨number, within⟩
      have fresh : startedBelow configs number index = .new (configs index) :=
        if_neg (Nat.lt_irrefl number)
      have begun : (startedBelow configs number index).beginStart =
          .ok { Node.new (configs index) with lifecycle := .starting } := by
        rw [fresh]
        rfl
      have free (other : Fin count) : ¬ (startedBelow configs number).Listens other
          (startedBelow configs number index).config.listenAddress := by
        intro listens
        rw [fresh] at listens
        obtain ⟨earlier, same⟩ := lt_of_startedBelow_listens listens
        obtain rfl : other = index := separate same
        exact Nat.lt_irrefl number earlier
      rw [startedBelow_succ configs index]
      exact (ih (Nat.le_of_lt within)).started begun free .first 0 number
  have all : startedBelow configs count = started configs :=
    funext fun index => if_pos index.isLt
  exact all ▸ below count (Nat.le_refl count)

def Known (configs : Fin count → Config) (id : MemberId) (name : String) (address : SocketAddress) :
    Prop :=
  ∃ index, (configs index).id = id ∧ (configs index).name = name ∧
    (configs index).publicAddress = address

structure Truthful (configs : Fin count → Config) (frame : ControlFrame) : Prop where
  sender : Known configs frame.sender frame.name frame.address
  peers : ∀ peer ∈ frame.peers, Known configs peer.id peer.name peer.address

def KnowsRightly (configs : Fin count → Config) (id : MemberId)
    (found : Option MemberRecord) : Prop :=
  ∀ record, found = some record → Known configs id record.member.name record.member.address

structure HonestNode (configs : Fin count → Config) (index : Fin count) (node : Node) : Prop where
  config : node.config = configs index
  unique : node.registry.UniqueIds
  sound : node.outbox.Sound
  members : ∀ id, KnowsRightly configs id (node.registry.record? id)
  queued : ∀ item ∈ node.outbox.queued, ∀ frame, ControlFrame.read? item.2 = some frame →
    Truthful configs frame

variable {configs : Fin count → Config} {index : Fin count} {node : Node}

theorem known_self (configs : Fin count → Config) (index : Fin count) :
    Known configs (configs index).id (configs index).name (configs index).publicAddress :=
  ⟨index, rfl, rfl, rfl⟩

theorem truthful_controlFrame (config : node.config = configs index)
    (unique : node.registry.UniqueIds)
    (members : ∀ id, KnowsRightly configs id (node.registry.record? id)) (sample : PeerSample)
    (kind : ControlKind) : Truthful configs (node.controlFrame sample kind) := by
  have advertised : ∀ peer ∈ (sample.choose node.alivePeers).map Member.peer,
      Known configs peer.id peer.name peer.address := by
    intro peer among
    obtain ⟨member, chosen, rfl⟩ := List.mem_map.mp among
    obtain ⟨others, perm⟩ := sample.chosen node.alivePeers
    have alive : member ∈ node.alivePeers :=
      perm.mem_iff.mp (List.mem_append_left others chosen)
    have listed : member ∈ node.registry.members := List.mem_of_mem_filter alive
    obtain ⟨record, present, rfl⟩ := List.mem_map.mp (node.registry.members_perm.mem_iff.mp listed)
    exact members _ record (Registry.record?_of_mem unique present)
  constructor
  · change Known configs node.config.id node.config.name node.config.publicAddress
    rw [config]
    exact known_self configs index
  · cases kind with
    | join => exact advertised
    | heartbeat => exact advertised
    | leave => simp [Node.controlFrame]

theorem truthful_of_speaks (config : node.config = configs index) (unique : node.registry.UniqueIds)
    (members : ∀ id, KnowsRightly configs id (node.registry.record? id)) {data : Bytes}
    (spoken : Node.Speaks node.config node.registry data) {frame : ControlFrame}
    (read : ControlFrame.read? data = some frame) : Truthful configs frame := by
  obtain ⟨speaker, sameConfig, sameRegistry,
      ⟨sample, kind, made⟩ | ⟨scope, payload, other, made⟩⟩ :=
    spoken
  · rw [Node.read?_controlDatagram made] at read
    obtain rfl := Option.some.inj read
    exact truthful_controlFrame (sameConfig.trans config) (by rwa [sameRegistry])
      (by rwa [sameRegistry]) sample kind
  · rw [Node.read?_of_other other made] at read
    simp at read

theorem HonestNode.does (honest : HonestNode configs index node)
    {allows : Registry.Operation → Prop} {permits : SocketAddress → Bytes → Prop} {after : Node}
    (does : Node.Does allows permits node after)
    (keeps : ∀ operation, allows operation → ∀ place id found, KnowsRightly configs id found →
      KnowsRightly configs id (operation.onRecord node.registry.localId place id found))
    (spoken : ∀ address data, permits address data →
      Node.Speaks node.config node.registry data ∨ Node.Speaks after.config after.registry data) :
    HonestNode configs index after := by
  obtain ⟨operations, allowed, registry⟩ := does.registry
  have config := does.config.trans honest.config
  have unique : after.registry.UniqueIds := by
    rw [registry]
    exact Registry.performAll_unique honest.unique operations
  have members : ∀ id, KnowsRightly configs id (after.registry.record? id) := by
    intro id
    rw [registry]
    apply Registry.performAll_record (KnowsRightly configs id) honest.unique
    · intro operation among place found rightly
      exact keeps operation (allowed operation among) place id found rightly
    · exact honest.members id
  refine ⟨config, unique, does.outbox.sound honest.sound, members, ?_⟩
  obtain ⟨added, total, permitted, -⟩ := does.outbox.queued honest.sound.isNumbered
  intro item waits frame read
  rw [total] at waits
  rcases Multiset.mem_add.mp waits with old | new
  · exact honest.queued item old frame read
  · rcases spoken _ _ (permitted item new) with earlier | later
    · exact truthful_of_speaks honest.config honest.unique honest.members earlier read
    · exact truthful_of_speaks config unique members later read

theorem knowsRightly_of_concerns {operation : Registry.Operation} {member : Member}
    (concerns : operation.Concerns member)
    (known : Known configs member.id member.name member.address) {localId id : MemberId}
    {place : Nat} {found : Option MemberRecord} (rightly : KnowsRightly configs id found) :
    KnowsRightly configs id (operation.onRecord localId place id found) := by
  by_cases same : id = member.id
  · intro record result
    rcases concerns.advertised result with ⟨earlier, present, kept⟩ | given
    · obtain ⟨name, address⟩ := Prod.mk.inj kept
      rw [name, address]
      exact rightly earlier present
    · obtain ⟨name, address⟩ := Prod.mk.inj given
      rw [name, address, same]
      exact known
  · rwa [concerns.spares same]

theorem HonestNode.act (honest : HonestNode configs index node) (action : Node.Action) :
    HonestNode configs index (node.act action) := by
  apply honest.does (node.act_does action)
  · intro operation sweeps place id found rightly record result
    obtain ⟨known, present, kept⟩ := sweeps.advertised result
    obtain ⟨name, address⟩ := Prod.mk.inj kept
    rw [name, address]
    exact rightly known present
  · intro address data spoken
    exact .inl spoken

theorem HonestNode.receive (honest : HonestNode configs index node) {data : Bytes}
    (truthful : ∀ frame, ControlFrame.read? data = some frame → Truthful configs frame)
    (choice : PeerChoice) (now : Instant) :
    HonestNode configs index (node.receive choice now data) := by
  rcases node.receive_cases choice now data with sends | ⟨frame, read, -, received⟩
  · apply honest.does (sends.does : Node.Does (fun _ => False) _ node _)
    · intro operation never
      exact never.elim
    · intro address data never
      exact never.elim
  · rw [received]
    apply honest.does (node.onControlFrame_does choice now frame)
    · intro operation concerns place id found rightly
      exact knowsRightly_of_concerns concerns (truthful frame read).sender rightly
    · intro address data answers
      right
      rcases answers with ⟨-, -, _, made⟩ | ⟨-, _, -, -, -, -, _, made⟩
      · exact Node.speaks_controlDatagram rfl rfl made
      · exact Node.speaks_controlDatagram rfl rfl made

theorem HonestNode.sent (honest : HonestNode configs index node) {drain : DrainId}
    {item : SocketAddress × Bytes} (taken : (node.outbox.take drain).2 = some item)
    (result : Except NetworkFault Unit) : HonestNode configs index (node.sent drain result) := by
  obtain ⟨_, _, _, sent⟩ := node.sent_eq drain result
  have total := honest.sound.queued_sent taken result
  rw [sent]
  refine ⟨honest.config, honest.unique, honest.sound.sent taken result, honest.members, ?_⟩
  intro other waits
  exact honest.queued other (total ▸ Multiset.mem_cons_of_mem waits)

theorem HonestNode.finishStart (honest : HonestNode configs index node) (choice : PeerChoice)
    (now : Instant) (socket : SocketId) :
    HonestNode configs index (node.finishStart choice now socket) := by
  let bound : Node := { node with socket := some socket, seeds := node.config.seedAddresses }
  have begins : HonestNode configs index bound :=
    ⟨honest.config, honest.unique, honest.sound, honest.members, honest.queued⟩
  have joined : Node.Does (Registry.Operation.Concerns node.config.member) (fun _ _ => False) bound
      (bound.join now node.config.member) :=
    bound.does_join now node.config.member
  have registered : HonestNode configs index (bound.join now node.config.member) := by
    apply begins.does joined
    · intro operation concerns place id found rightly
      apply knowsRightly_of_concerns concerns _ rightly
      change Known configs node.config.id node.config.name node.config.publicAddress
      rw [honest.config]
      exact known_self configs index
    · intro address data never
      exact never.elim
  have utters := node.utters_finishStart choice now socket
  apply registered.does (utters.does : Node.Does (fun _ => False) _ _ _)
  · intro operation never
    exact never.elim
  · intro address data spoken
    exact .inl spoken

theorem HonestNode.finishStop (honest : HonestNode configs index node) (now : Instant) :
    HonestNode configs index (node.finishStop now) := by
  have left : Node.Does (Registry.Operation.Concerns node.config.member) (fun _ _ => False) node
      { node with roster := node.roster.perform (.leave now node.id) } :=
    node.does_perform (.leave now node.id) rfl
  have gone : HonestNode configs index
      { node with roster := node.roster.perform (.leave now node.id) } := by
    apply honest.does left
    · intro operation concerns place id found rightly
      apply knowsRightly_of_concerns concerns _ rightly
      change Known configs node.config.id node.config.name node.config.publicAddress
      rw [honest.config]
      exact known_self configs index
    · intro address data never
      exact never.elim
  refine ⟨gone.config, gone.unique, gone.sound.shutdown, gone.members, ?_⟩
  intro item waits
  change item ∈ node.outbox.shutdown.queued at waits
  rw [Outbox.queued_shutdown] at waits
  exact gone.queued item waits

def Honest (configs : Fin count → Config) (cluster : Cluster count) : Prop :=
  ∀ index, HonestNode configs index (cluster index)

theorem Honest.put {cluster : Cluster count} (honest : Honest configs cluster)
    (changed : HonestNode configs index node) : Honest configs (cluster.put index node) := by
  intro other
  by_cases same : other = index
  · subst same
    rwa [put_self]
  · rw [put_other cluster same]
    exact honest other

theorem honest_created (configs : Fin count → Config) :
    Honest configs fun index => .new (configs index) := by
  intro index
  refine ⟨rfl, List.nodup_nil, Outbox.sound_empty, ?_, ?_⟩
  · intro id record found
    simp [Node.registry, Node.new, Roster.new, Registry.new, Registry.record?] at found
  · simp [Node.new]

theorem Honest.delivers {before after : Cluster count} (honest : Honest configs before)
    {source : Fin count} {address : SocketAddress} {data : Bytes}
    (delivers : Delivers before source address data after) : Honest configs after := by
  cases delivers with
  | delivers drain target choice now taken listens =>
    have waits : (address, data) ∈ (before source).outbox.queued :=
      (honest source).sound.queued_sent taken (.ok ()) ▸ Multiset.mem_cons_self _ _
    have sent := honest.put ((honest source).sent taken (.ok ()))
    exact sent.put ((sent target).receive ((honest source).queued _ waits) choice now)

theorem honest_of_reachable {cluster : Cluster count} (reached : Reachable configs cluster) :
    Honest configs cluster := by
  induction reached with
  | created => exact honest_created configs
  | @started cluster reached index starting begun free choice now socket honest =>
    apply honest.put
    have begins : HonestNode configs index starting := by
      unfold Node.beginStart Node.transition at begun
      split at begun
      · obtain rfl := Except.ok.inj begun
        have earlier := honest index
        exact ⟨earlier.config, earlier.unique, earlier.sound, earlier.members, earlier.queued⟩
      · simp at begun
    exact begins.finishStart choice now socket
  | acted reached opened action honest => exact honest.put ((honest _).act action)
  | delivered reached delivers honest => exact honest.delivers delivers
  | lost reached taken fault honest => exact honest.put ((honest _).sent taken (.error fault))
  | stopped reached opened now honest => exact honest.put ((honest _).finishStop now)

end Cluster

end ClusterCoordination
