import ClusterCoordination.Proofs.Nodes.Members
/-!
# Running nodes

From its start on a node receives datagrams, acts and sends what it has queued, in any order.
However it does, a datagram reaches no record but that of its sender, and the local member stays as
it was started.
-/

set_option autoImplicit false

namespace ClusterCoordination

namespace Node

inductive Action where
  | beat (choice : PeerChoice)
  | detect (now : Instant)
  | handle (now : Instant)
  | serve (clock : Clock) (request : RequestId)
  | call (clock : Clock) (targets : List MemberId) (request : CallRequest)
      (timeout : Option Duration)
  | poll (now : Instant) (branches : List (MemberId × Branch))
  | abandon (branches : List (MemberId × Branch))
  | message (scope : Scope) (payload : Payload) (target : Option MemberId)
  | registerHandler (scope : Scope) (handler : Handler)
  | deregisterHandler (scope : Scope)
  | registerDispatcher (targetType : String) (dispatcher : Dispatcher)
  | addService (service : Service)
  | beginStop (choice : PeerChoice)

def orStay {Answer : Type} (node : Node) : Except ClusterError (Node × Answer) → Node
  | .ok (after, _) => after
  | .error _ => node

def act (node : Node) : Action → Node
  | .beat choice => node.heartbeatRound choice
  | .detect now => node.detectionRound now
  | .handle now => (node.handleMessages now).1
  | .serve clock request => node.serve clock request
  | .call clock targets request timeout =>
    node.orStay (node.beginCall clock targets request timeout)
  | .poll now branches => (pollBranches now branches node).1
  | .abandon branches => node.abandonBranches branches
  | .message scope payload target => node.orStay (node.sendMessage scope payload target)
  | .registerHandler scope handler => node.orStay (node.registerHandler scope handler)
  | .deregisterHandler scope => node.orStay (node.deregisterHandler scope)
  | .registerDispatcher targetType dispatcher =>
    node.orStay (node.registerDispatcher targetType dispatcher)
  | .addService service => node.orStay (node.addService service)
  | .beginStop choice => (node.beginStop choice).toOption.getD node

def sent (node : Node) (drain : DrainId) (result : Except NetworkFault Unit) : Node :=
  let (outbox, acknowledgement) := node.outbox.sent drain result
  let sent := { node with outbox := outbox }
  match acknowledgement with
  | some acknowledgement => sent.acknowledge acknowledgement
  | none => sent

theorem sent_eq (node : Node) (drain : DrainId) (result : Except NetworkFault Unit) :
    ∃ acknowledgements farewells woken, node.sent drain result =
      { node with
        outbox := (node.outbox.sent drain result).1
        acknowledgements := acknowledgements
        farewells := farewells
        woken := woken } := by
  unfold sent acknowledge
  dsimp only
  split
  · split <;> exact ⟨_, _, _, rfl⟩
  · exact ⟨_, _, _, rfl⟩

theorem notifies_orStay {Answer : Type} {node : Node} {result : Except ClusterError (Node × Answer)}
    (notifies : ∀ after answer, result = .ok (after, answer) → node.Notifies after) :
    node.Notifies (node.orStay result) := by
  unfold orStay
  split
  next after answer => exact notifies after answer rfl
  next => exact .refl node

theorem notifies_whenRunning {Answer : Type} {node changed : Node} {answer : Answer}
    (notifies : node.Notifies changed) :
    node.Notifies (node.orStay (node.whenRunning (changed, answer))) := by
  apply notifies_orStay
  intro after answer running
  unfold whenRunning at running
  split at running
  · simp only [Except.ok.injEq, Prod.mk.injEq] at running
    exact running.1 ▸ notifies
  · simp at running

/--
The action neither hands messages over nor sends any, and it changes neither members nor lifecycle.
-/
def Action.Plain : Action → Prop
  | .detect _ | .handle _ | .message .. | .beginStop _ => False
  | _ => True

theorem act_notifies (node : Node) {action : Action} (plain : action.Plain) :
    node.Notifies (node.act action) := by
  cases action with
  | detect now => exact plain.elim
  | handle now => exact plain.elim
  | message scope payload target => exact plain.elim
  | beginStop choice => exact plain.elim
  | beat choice => exact node.notifies_heartbeatRound choice
  | serve clock request => exact node.notifies_serve clock request
  | call clock targets request timeout =>
    apply notifies_orStay
    intro after branches begun
    exact (places_beginCall begun).notifies
  | poll now branches => exact (node.polls_pollBranches now branches).notifies
  | abandon branches => exact (node.polls_abandonBranches branches).notifies
  | registerHandler scope handler =>
    simp only [act, Node.registerHandler]
    exact notifies_whenRunning ⟨rfl, rfl, rfl, rfl, rfl, rfl, rfl, rfl, .refl⟩
  | deregisterHandler scope =>
    simp only [act, Node.deregisterHandler]
    exact notifies_whenRunning ⟨rfl, rfl, rfl, rfl, rfl, rfl, rfl, rfl, .refl⟩
  | registerDispatcher targetType dispatcher =>
    simp only [act, Node.registerDispatcher]
    exact notifies_whenRunning ⟨rfl, rfl, rfl, rfl, rfl, rfl, rfl, rfl, .refl⟩
  | addService service =>
    simp only [act, Node.addService]
    exact notifies_whenRunning ⟨rfl, rfl, rfl, rfl, rfl, rfl, rfl, rfl, .refl⟩

theorem act_utters (node : Node) {action : Action} (other : ∀ now, action ≠ .detect now) :
    node.Utters (node.act action) := by
  cases action with
  | detect now => exact absurd rfl (other now)
  | handle now => exact node.utters_handleMessages now
  | message scope payload target =>
    simp only [act]
    cases done : node.sendMessage scope payload target with
    | error fault => exact .refl node
    | ok sent => exact node.utters_sendMessage done
  | beginStop choice =>
    simp only [act]
    cases stopped : node.beginStop choice with
    | error fault => exact .refl node
    | ok after => exact utters_beginStop stopped
  | _ =>
    refine (node.act_notifies ?_).utters
    exact trivial

theorem act_does (node : Node) (action : Action) :
    node.Does Registry.Operation.Sweeps (fun _ data => Speaks node.config node.registry data)
      (node.act action) := by
  by_cases other : ∀ now, action ≠ .detect now
  · exact (node.act_utters other).does
  · push Not at other
    obtain ⟨now, rfl⟩ := other
    exact node.detectionRound_does now

theorem utters_finishStart (node : Node) (choice : PeerChoice) (now : Instant) (socket : SocketId) :
    Utters
      ({ node with socket := some socket, seeds := node.config.seedAddresses }.join now
        node.config.member)
      (node.finishStart choice now socket) := by
  unfold finishStart
  dsimp only
  exact Utters.trans (notifies_sendJoins _ choice _).utters ⟨rfl, rfl, rfl, rfl, .refl⟩

inductive Running (config : Config) (start : Instant) : Node → Prop where
  | started {starting : Node} (begun : (new config).beginStart = .ok starting) (choice : PeerChoice)
      (socket : SocketId) : Running config start (starting.finishStart choice start socket)
  | received {node : Node} (running : Running config start node) (choice : PeerChoice)
      (now : Instant) (data : Bytes) : Running config start (node.receive choice now data)
  | acted {node : Node} (running : Running config start node) (action : Action) :
      Running config start (node.act action)
  | sent {node : Node} (running : Running config start node) (drain : DrainId)
      (result : Except NetworkFault Unit) : Running config start (node.sent drain result)

structure Settled (config : Config) (start : Instant) (node : Node) : Prop where
  configured : node.config = config
  unique : node.registry.UniqueIds
  owner : node.registry.localId = config.id
  own : node.registry.record? config.id = some (.new 0 start config.member)

section

variable {config : Config} {start : Instant} {node : Node}

theorem finishStart_joins {starting : Node} (begun : (new config).beginStart = .ok starting)
    (choice : PeerChoice) (socket : SocketId) :
    (starting.finishStart choice start socket).config = config ∧
      (starting.finishStart choice start socket).registry =
        ((Registry.new config.id).join start config.member).1 := by
  have begins : { new config with lifecycle := .starting } = starting := Except.ok.inj begun
  have utters := utters_finishStart starting choice start socket
  subst begins
  exact ⟨utters.config,
    utters.registry.trans (Roster.registry_perform (.new config.id) (.join start config.member))⟩

theorem settled_of_beginStart {starting : Node} (begun : (new config).beginStart = .ok starting)
    (choice : PeerChoice) (socket : SocketId) :
    Settled config start (starting.finishStart choice start socket) := by
  have fresh : (Registry.new config.id).UniqueIds := List.nodup_nil
  have step := Registry.join_step fresh start config.member
  obtain ⟨configured, registry⟩ :
      (starting.finishStart choice start socket).config = config ∧ _ :=
    finishStart_joins begun choice socket
  constructor
  · exact configured
  · rw [registry]
    exact step.unique fresh
  · rw [registry]
    exact step.localId
  · rw [registry, Registry.record?_join]
    simp [Config.member, Member.new, Registry.record?, Registry.new]

theorem Settled.does (settled : Settled config start node) {allows : Registry.Operation → Prop}
    {permits : SocketAddress → Bytes → Prop} {after : Node} (does : Does allows permits node after)
    (keeps : ∀ operation, allows operation → ∀ place,
      operation.onRecord config.id place config.id (some (.new 0 start config.member)) =
        some (.new 0 start config.member)) :
    Settled config start after := by
  obtain ⟨operations, allowed, registry⟩ := does.registry
  constructor
  · exact does.config.trans settled.configured
  · rw [registry]
    exact Registry.performAll_unique settled.unique operations
  · rw [registry, Registry.performAll_localId settled.unique, settled.owner]
  · rw [registry]
    apply Registry.performAll_record (fun found => found = some (.new 0 start config.member))
      settled.unique
    · rintro operation among place found rfl
      rw [settled.owner]
      exact keeps operation (allowed operation among) place
    · exact settled.own

theorem settled_of_running (running : Running config start node) : Settled config start node := by
  induction running with
  | started begun choice socket => exact settled_of_beginStart begun choice socket
  | @received node _ choice now data settled =>
    rcases node.receive_cases choice now data with sends | ⟨frame, -, other, received⟩
    · apply settled.does (sends.does : Does (fun _ => False) _ node _)
      intro operation never
      exact never.elim
    · rw [received]
      apply settled.does (node.onControlFrame_does choice now frame)
      intro operation concerns place
      have mine : config.id ≠ frame.sender := by
        rw [← settled.configured]
        exact Ne.symm other
      exact concerns.spares mine _
  | @acted node _ action settled =>
    apply settled.does (node.act_does action)
    intro operation sweeps place
    exact sweeps.spares_local rfl
  | @sent node _ drain result settled =>
    obtain ⟨_, _, _, sent⟩ := node.sent_eq drain result
    rw [sent]
    exact ⟨settled.configured, settled.unique, settled.owner, settled.own⟩

theorem Does.ran {allows : Registry.Operation → Prop} {permits : SocketAddress → Bytes → Prop}
    {after : Node} (does : Does allows permits node after)
    (ran : ∃ operations, node.registry = Registry.run config.id operations) :
    ∃ operations, after.registry = Registry.run config.id operations := by
  obtain ⟨earlier, before⟩ := ran
  obtain ⟨later, -, registry⟩ := does.registry
  refine ⟨earlier ++ later, ?_⟩
  rw [registry, before]
  exact (Registry.performAll_append _ _ _).symm

theorem ran_of_running (running : Running config start node) :
    ∃ operations, node.registry = Registry.run config.id operations := by
  induction running with
  | started begun choice socket =>
    exact ⟨[.join start config.member], (finishStart_joins begun choice socket).2⟩
  | @received node _ choice now data ran =>
    rcases node.receive_cases choice now data with sends | ⟨frame, -, -, received⟩
    · exact (sends.does : Does (fun _ => False) _ node _).ran ran
    · rw [received]
      exact (node.onControlFrame_does choice now frame).ran ran
  | @acted node _ action ran => exact (node.act_does action).ran ran
  | @sent node _ drain result ran =>
    obtain ⟨_, _, _, sent⟩ := node.sent_eq drain result
    rw [sent]
    exact ran

theorem sound_of_running (running : Running config start node) : node.registry.Sound := by
  obtain ⟨operations, registry⟩ := ran_of_running running
  rw [registry]
  exact Registry.sound_run config.id operations

theorem Settled.spares_others (settled : Settled config start node) (choice : PeerChoice)
    (now : Instant) {data : Bytes} {id : MemberId}
    (other : ∀ datagram, Datagram.decode data = .ok datagram → datagram.sender ≠ id.text) :
    (node.receive choice now data).registry.record? id = node.registry.record? id := by
  rcases node.receive_cases choice now data with sends | ⟨frame, read, -, received⟩
  · exact congrArg (fun registry => registry.record? id) sends.registry
  · obtain ⟨datagram, decoded, -, named⟩ := ControlFrame.read?_eq_some read
    have different : id ≠ frame.sender := by
      rintro rfl
      exact other datagram decoded named
    obtain ⟨operations, concern, registry⟩ := (node.onControlFrame_does choice now frame).registry
    rw [received, registry]
    apply Registry.performAll_record (fun found => found = node.registry.record? id)
      settled.unique
    · rintro operation among place found rfl
      exact (concern operation among).spares different _
    · rfl

theorem Settled.creates (settled : Settled config start node) (choice : PeerChoice) (now : Instant)
    {data : Bytes} {id : MemberId} {record : MemberRecord}
    (absent : node.registry.record? id = none)
    (created : (node.receive choice now data).registry.record? id = some record) :
    ∃ datagram frame, Datagram.decode data = .ok datagram ∧ datagram.content = .control frame ∧
      datagram.sender = id.text ∧ frame.sender = id ∧
        record.member.name = frame.name ∧ record.member.address = frame.address := by
  rcases node.receive_cases choice now data with sends | ⟨frame, read, -, received⟩
  · rw [sends.registry, absent] at created
    simp at created
  · obtain ⟨datagram, decoded, content, named⟩ := ControlFrame.read?_eq_some read
    have same : frame.sender = id := by
      by_cases other : datagram.sender = id.text
      · rw [named] at other
        exact congrArg MemberId.mk other
      · have others (claimed : Datagram) (again : Datagram.decode data = .ok claimed) :
            claimed.sender ≠ id.text := by
          rwa [← Except.ok.inj (decoded.symm.trans again)]
        rw [settled.spares_others choice now others, absent] at created
        simp at created
    have advertised : record.member.advertised = (frame.name, frame.address) := by
      obtain ⟨operations, concern, registry⟩ := (node.onControlFrame_does choice now frame).registry
      rw [received, registry] at created
      refine Registry.performAll_record (fun found => ∀ record, found = some record →
        record.member.advertised = (frame.name, frame.address)) settled.unique ?_ ?_ record created
      · intro operation among place found holds after result
        rcases (concern operation among).advertised result with ⟨known, present, kept⟩ | given
        · exact kept.trans (holds known present)
        · exact given
      · simp [absent]
    obtain ⟨name, address⟩ := Prod.mk.inj advertised
    exact ⟨datagram, frame, decoded, content, named.trans (congrArg MemberId.text same), same, name,
      address⟩

/--
In every state of a running node the local member has the record it was started with. A datagram
touches no record but that of the other member it names as its sender, and a record appears only
where a control frame of that very member has come in.
-/
theorem running_hears_only_senders (running : Running config start node) :
    node.registry.UniqueIds ∧
    node.registry.record? config.id = some {
      member := ⟨config.id, config.name, config.publicAddress, true, false⟩
      joinedAt := 0
      lastHeard := start
      deadSince := none
      left := false } ∧
    (∀ choice now data id,
      (∀ datagram, Datagram.decode data = .ok datagram → datagram.sender ≠ id.text) →
      (node.receive choice now data).registry.record? id = node.registry.record? id) ∧
    (∀ choice now data, (node.receive choice now data).registry.record? config.id =
      node.registry.record? config.id) ∧
    (∀ choice now data id record, node.registry.record? id = none →
      (node.receive choice now data).registry.record? id = some record →
        ∃ datagram frame, Datagram.decode data = .ok datagram ∧ datagram.content = .control frame ∧
          datagram.sender = id.text ∧ frame.sender = id ∧
            record.member.name = frame.name ∧ record.member.address = frame.address) ∧
    (∀ action id, node.registry.record? id = none → (node.act action).registry.record? id = none) ∧
    ∀ drain result, (node.sent drain result).registry = node.registry := by
  have settled := settled_of_running running
  refine ⟨settled.unique, settled.own, ?_, ?_, ?_, ?_, ?_⟩
  · intro choice now data id other
    exact settled.spares_others choice now other
  · intro choice now data
    rw [settled.own, (settled_of_running (running.received choice now data)).own]
  · intro choice now data id record absent created
    exact settled.creates choice now absent created
  · intro action id absent
    obtain ⟨operations, sweeps, registry⟩ := (node.act_does action).registry
    rw [registry]
    apply Registry.performAll_record (fun found => found = none) settled.unique
    · rintro operation among place found rfl
      exact (sweeps operation among).finds_none
    · exact absent
  · intro drain result
    obtain ⟨_, _, _, sent⟩ := node.sent_eq drain result
    rw [sent]
    rfl

end

/-- A farewell in the name of the local member itself changes no record. -/
theorem forged_farewell_changes_nobody :
    let config : Config := .new "cluster" ⟨"a"⟩ .unspecified .unspecified []
    let node := ({ new config with lifecycle := .starting }).finishStart .first 5 0
    let forged : ControlFrame := ⟨⟨"a"⟩, "", .unspecified, .leave, []⟩
    let datagram : Datagram :=
      ⟨RawScope.control, "a", ControlFrame.form.schema.write (ControlFrame.form.toValue forged)⟩
    Running config 5 node ∧
      (node.receive .first 9 datagram.layout).registry.record? ⟨"a"⟩ =
        some (.new 0 5 config.member) ∧
      (node.receive .first 9 datagram.layout).registry.record? ⟨"b"⟩ = none := by
  intro config node forged datagram
  have running : Running config 5 node := .started rfl .first 0
  obtain ⟨-, own, others, spared, -, -, -⟩ := running_hears_only_senders running
  have written : Datagram.decode datagram.layout = .ok datagram :=
    Datagram.decode_layout (by unfold Datagram.Writable; decide +kernel)
  have elsewhere : ∀ claimed, Datagram.decode datagram.layout = .ok claimed →
      claimed.sender ≠ "b" := by
    intro claimed decoded
    obtain rfl := Except.ok.inj (written.symm.trans decoded)
    decide
  refine ⟨running, (spared .first 9 _).trans own, ?_⟩
  rw [others .first 9 _ ⟨"b"⟩ elsewhere]
  decide +kernel

end Node

end ClusterCoordination
