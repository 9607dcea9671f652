import ClusterCoordination.Proofs.Calls.CallFootprint
import ClusterCoordination.Proofs.Calls.Groups
import ClusterCoordination.Proofs.Calls.LocationTransparency
/-!
# How calls begin together

A call to several members begins one branch after the other. Each remote one is given an id that no
other call has, and a request that carries it.
-/

set_option autoImplicit false

namespace ClusterCoordination

namespace Outbox

def Holds (outbox : Outbox) (address : SocketAddress) (outgoing : Outgoing) : Prop :=
  ∃ drain ∈ outbox.drains, drain.address = address ∧ outgoing ∈ drain.backlog

theorem Holds.push {outbox : Outbox} {address : SocketAddress} {outgoing : Outgoing}
    (holds : outbox.Holds address outgoing) (target : SocketAddress) (other : Outgoing) :
    (outbox.push target other).1.Holds address outgoing := by
  obtain ⟨drain, present, rfl, waits⟩ := holds
  unfold Outbox.push
  split
  · exact ⟨drain, present, rfl, waits⟩
  · split
    next last _ =>
      refine ⟨_, List.mem_map_of_mem present, ?_⟩
      split
      · exact ⟨rfl, List.mem_append_left _ waits⟩
      · exact ⟨rfl, waits⟩
    next => exact ⟨drain, List.mem_append_left _ present, rfl, waits⟩

theorem Pushes.holds {permits : SocketAddress → Bytes → Prop} {before after : Outbox}
    (pushes : before.Pushes permits after) {address : SocketAddress} {outgoing : Outgoing}
    (holds : before.Holds address outgoing) : after.Holds address outgoing := by
  induction pushes with
  | refl => exact holds
  | push _ target other _ ih => exact ih.push target other

end Outbox

namespace Node

theorem HasQueued.holds {node : Node} {address : SocketAddress} {outgoing : Outgoing}
    (queued : node.HasQueued address outgoing) : node.outbox.Holds address outgoing := by
  obtain ⟨drain, present, -, same, last⟩ := queued
  exact ⟨drain, present, same, List.mem_of_getLast? last⟩

theorem Polls.dispatchers {before after : Node} (polls : before.Polls after) :
    after.dispatchers = before.dispatchers := by
  induction polls with
  | refl => rfl
  | take _ _ ih | count _ _ ih | abandon _ _ ih => exact ih

theorem dispatchers_beginRemote (node : Node) (clock : Clock) (target : Member)
    (request : CallRequest) (timeout : Duration) :
    (node.beginRemote clock target request timeout).1.dispatchers = node.dispatchers := by
  unfold beginRemote
  dsimp only
  split
  · rfl
  next data _ =>
    obtain ⟨_, _, _, _, pushed⟩ :=
      (node.registerCall target.id (clock.now + timeout)).1.countIssued.push_eq target.address
        ⟨data, some (.call (node.registerCall target.id (clock.now + timeout)).2.id)⟩
    rw [pushed]
    rfl

theorem Places.dispatchers {before after : Node} (places : before.Places after) :
    after.dispatchers = before.dispatchers := by
  induction places with
  | refl => rfl
  | remote _ _ _ clock request timeout ih =>
    exact (dispatchers_beginRemote _ clock _ request timeout).trans ih
  | polls _ polled ih => exact polled.dispatchers.trans ih

structure Stands (node current : Node) : Prop where
  config : current.config = node.config
  registry : current.registry = node.registry
  dispatchers : current.dispatchers = node.dispatchers
  going : current.stopRequested = false
  sending : current.outbox.closed = false

section

variable {node current after : Node}

theorem Stands.places (stands : node.Stands current) (places : current.Places after) :
    node.Stands after where
  config := places.notifies.config.trans stands.config
  registry := places.notifies.registry.trans stands.registry
  dispatchers := places.dispatchers.trans stands.dispatchers
  going := places.notifies.stopRequested.trans stands.going
  sending := places.notifies.outbox.reaches.closed.trans stands.sending

theorem Stands.id (stands : node.Stands current) : current.id = node.id :=
  congrArg Config.id stands.config

theorem Stands.aliveMember (stands : node.Stands current) (target : MemberId) :
    current.aliveMember target = node.aliveMember target := by
  unfold Node.aliveMember
  rw [stands.registry]

theorem Stands.localBranch (stands : node.Stands current) (clock : Clock) (target : MemberId)
    (request : CallRequest) (timeout : Duration) :
    current.localBranch clock target request timeout =
      node.localBranch clock target request timeout := by
  unfold Node.localBranch
  rw [stands.dispatchers]

theorem Stands.requestFrame (stands : node.Stands current) (clock : Clock) (id : CallId)
    (request : CallRequest) (timeout : Duration) :
    current.requestFrame clock id request timeout = node.requestFrame clock id request timeout := by
  unfold Node.requestFrame
  rw [stands.config]

end

theorem fits_of_frame {node : Node} {scope : Int16} {type : PayloadType} {value : type.Carrier}
    {data : Bytes} (framed : node.frame scope ⟨type, value⟩ = .ok data) :
    (textBytes node.id.text).length ≤ 65535 ∧ type.Fits value := by
  unfold frame at framed
  split at framed
  next bytes encoded =>
    refine ⟨?_, PayloadType.fits_of_encode encoded⟩
    unfold datagram at framed
    split at framed
    next made => exact (Datagram.encode_eq_ok_iff.mp made).1.1
    next => simp at framed
  next => simp at framed

/-- Whoever receives the datagram notes a request of this call. -/
def Reads (node : Node) (asked : Bytes) (request : Request) : Prop :=
  ∀ (receiver : Node) (choice : PeerChoice) (now : Instant),
    receiver.receive choice now asked = receiver.onRequest node.id request

theorem reads_of_frame {node : Node} {request : Request} {data : Bytes}
    (framed : node.frame RawScope.request ⟨.request, request⟩ = .ok data) :
    node.Reads data request := by
  obtain ⟨named, fits⟩ := fits_of_frame framed
  obtain ⟨other, made, received⟩ := receive_request named fits
  obtain rfl := Except.ok.inj (framed.symm.trans made)
  exact received

inductive Begins (node : Node) (clock : Clock) (request : CallRequest) (timeout : Duration)
    (issued : Node) (target : MemberId) : Branch → Prop where
  | here (own : target = node.id) :
      Begins node clock request timeout issued target
        (node.localBranch clock target request timeout)
  | away (other : target ≠ node.id) {error : ClusterError}
      (missing : node.aliveMember target = .error error) :
      Begins node clock request timeout issued target (.settled (.error error))
  | unwritten (other : target ≠ node.id) {member : Member}
      (alive : node.aliveMember target = .ok member) (reason : String) :
      Begins node clock request timeout issued target (.settled (.error (.serialization reason)))
  | there (other : target ≠ node.id) {member : Member}
      (alive : node.aliveMember target = .ok member) (id : CallId) {asked : Bytes}
      (queued : issued.outbox.Holds member.address ⟨asked, some (.call id)⟩)
      (reads : node.Reads asked (node.requestFrame clock id request timeout)) :
      Begins node clock request timeout issued target
        (.remotely ⟨id, target, clock.now + timeout, .sending⟩)

def BeginsAll (node : Node) (clock : Clock) (request : CallRequest) (timeout : Duration)
    (issued : Node) : List MemberId → List (MemberId × Branch) → Prop :=
  List.Forall₂ fun target one =>
    one.1 = target ∧ node.Begins clock request timeout issued target one.2

section

variable {node : Node} {clock : Clock} {request : CallRequest} {timeout : Duration}

theorem BeginsAll.at_place {issued : Node} {targets : List MemberId}
    {added : List (MemberId × Branch)}
    (begins : node.BeginsAll clock request timeout issued targets added) {place : Nat}
    {target : MemberId} (asked : targets[place]? = some target) :
    ∃ one, added[place]? = some (target, one) ∧
      node.Begins clock request timeout issued target one := by
  obtain ⟨inside, rfl⟩ := List.getElem?_eq_some_iff.mp asked
  obtain ⟨same, each⟩ := List.forall₂_iff_get.mp begins
  obtain ⟨named, started⟩ := each place inside (same ▸ inside)
  refine ⟨added[place].2, ?_, started⟩
  rw [List.getElem?_eq_getElem (same ▸ inside)]
  exact congrArg some (Prod.ext named rfl)

theorem BeginsAll.targets {issued : Node} {targets : List MemberId}
    {added : List (MemberId × Branch)}
    (begins : node.BeginsAll clock request timeout issued targets added) :
    added.map Prod.fst = targets := by
  induction begins with
  | nil => rfl
  | cons first _ ih => rw [List.map_cons, first.1, ih]

theorem Begins.pushes {issued later : Node} {permits : SocketAddress → Bytes → Prop}
    (pushes : issued.outbox.Pushes permits later.outbox) {target : MemberId} {branch : Branch}
    (begins : node.Begins clock request timeout issued target branch) :
    node.Begins clock request timeout later target branch := by
  cases begins with
  | here own => exact .here own
  | away other missing => exact .away other missing
  | unwritten other alive reason => exact .unwritten other alive reason
  | there other alive id queued reads => exact .there other alive id (pushes.holds queued) reads

theorem beginRemote_eq (node : Node) (clock : Clock) (target : Member) (request : CallRequest)
    (timeout : Duration) :
    let registered := (node.registerCall target.id (clock.now + timeout)).1
    let call : RemoteCall := ⟨node.pending.nextId, target.id, clock.now + timeout, .sending⟩
    (∃ after reason, node.beginRemote clock target request timeout =
        (after, .settled (.error (.serialization reason)))) ∨
      ∃ asked, node.Reads asked (node.requestFrame clock call.id request timeout) ∧
        node.beginRemote clock target request timeout =
          (registered.countIssued.push target.address ⟨asked, some (.call call.id)⟩,
            .remotely call) := by
  intro registered call
  have entered : node.registerCall target.id (clock.now + timeout) = (registered, call) := rfl
  unfold beginRemote
  rw [entered]
  dsimp only
  split
  next error failed =>
    obtain ⟨reason, rfl⟩ := frame_error failed
    exact .inl ⟨_, reason, rfl⟩
  next asked framed =>
    have reads : registered.Reads asked (node.requestFrame clock call.id request timeout) :=
      reads_of_frame framed
    exact .inr ⟨asked, reads, rfl⟩

end

end Node

namespace CallGroup

open Node

section

variable {config : Config} {name : MemberId} {first : List (MemberId × Branch)}
  {group : CallGroup} {node : Node} {clock : Clock} {request : CallRequest} {timeout : Duration}

structure Grows (config : Config) (name : MemberId) (first : List (MemberId × Branch))
    (group : CallGroup) (added : List (MemberId × Branch)) (after : Node) (issued : CallWorld) :
    Prop where
  kept : (⟨issued, group.branches ++ added⟩ : CallGroup).Kept config name first
  node : issued.node = after
  now : issued.now = group.world.now
  number : issued.begun ≤ group.world.begun + added.length

theorem Kept.beginRemote (kept : group.Kept config name first)
    (stands : node.Stands group.world.node) (reading : clock.now = group.world.now)
    (room : group.world.begun < UInt64.size) {member : Member} (other : member.id ≠ node.id)
    (alive : node.aliveMember member.id = .ok member) {after : Node} {branch : Branch}
    (begins : group.world.node.beginRemote clock member request timeout = (after, branch)) :
    node.Begins clock request timeout after member.id branch ∧
      ∃ issued, Grows config name (first ++ [(member.id, branch)]) group [(member.id, branch)] after
        issued := by
  have sound := CallWorld.sound_of_reachable kept.reached
  obtain ⟨-, fresh⟩ := CallWorld.fresh_id sound room
  -- Every call that goes on has a caller, and the next id has none.
  have unknown : group.world.node.pending.nextId ∉ callIds group.branches := by
    intro among
    obtain ⟨caller, known⟩ := kept.known among
    rw [fresh] at known
    simp at known
  have spared (issued : CallWorld) (caller : Caller)
      (callers : issued.callers = group.world.callers)
      (own : caller.id = group.world.node.pending.nextId) :
      ∀ id ∈ callIds group.branches, (issued.follow caller).callers id =
        group.world.callers id := by
    intro id among
    rw [← callers]
    exact if_neg fun (same : id = caller.id) => unknown (own ▸ same ▸ among)
  have named : after.id = group.world.node.id := by
    have notifies := notifies_beginRemote group.world.node clock member request timeout
    rw [begins] at notifies
    exact congrArg Config.id notifies.config
  rcases group.world.node.beginRemote_eq clock member request timeout with
    ⟨_, reason, refused⟩ | ⟨asked, reads, queued⟩
  · obtain ⟨rfl, rfl⟩ := Prod.mk.inj (begins.symm.trans refused)
    have step := CallWorld.Step.fail clock reading member request timeout room rfl begins
    have moved := kept.step (.elsewhere step named (spared _ _ rfl rfl))
    have grown := moved.append member.id (.settled (.error (.serialization reason))) (by
      simp [Branch.callId?])
    exact ⟨.unwritten other alive reason, _, grown, rfl, rfl, Nat.le_refl _⟩
  · obtain ⟨rfl, rfl⟩ := Prod.mk.inj (begins.symm.trans queued)
    have step := CallWorld.Step.begin clock reading member request timeout room begins
    have moved := kept.step (.elsewhere step named (spared _ _ rfl rfl))
    let call : RemoteCall :=
      ⟨group.world.node.pending.nextId, member.id, clock.now + timeout, .sending⟩
    have grown := moved.append member.id (.waiting call .sending (if_pos rfl)) (by
      rintro id own
      obtain rfl : call.id = id := by simpa [Branch.callId?] using own
      exact unknown)
    have sending : (group.world.node.registerCall member.id
        (clock.now + timeout)).1.countIssued.outbox.closed = false := stands.sending
    have holds := (push_hasQueued sending member.address ⟨asked, some (.call call.id)⟩).holds
    have read : node.Reads asked (node.requestFrame clock call.id request timeout) := by
      rw [stands.requestFrame] at reads
      unfold Node.Reads at reads ⊢
      rwa [← stands.id]
    exact ⟨.there other alive call.id holds read, _, grown, rfl, rfl, Nat.le_refl _⟩

theorem Grows.poll {issued : CallWorld} {target : MemberId} {branch : Branch} {after : Node}
    (grows : Grows config name first group [(target, branch)] after issued)
    (going : after.stopRequested = false) :
    ∃ polled, Grows config name first group
      [(target, (after.pollBranch issued.now branch).2)] (after.pollBranch issued.now branch).1
        polled := by
  obtain ⟨kept, rfl, now, number⟩ := grows
  obtain ⟨_, -, -, follows⟩ := kept.find List.getElem?_concat_length
  obtain ⟨time, begun, node, -⟩ := CallWorld.poll_eq follows going
  exact ⟨_, kept.step (step_poll_last going target branch), node, time.trans now,
    Nat.le_trans (Nat.le_of_eq begun) number⟩

theorem Kept.beginBranch (kept : group.Kept config name first)
    (stands : node.Stands group.world.node) (reading : clock.now = group.world.now)
    (room : group.world.begun < UInt64.size) (target : MemberId) :
    let begun := group.world.node.beginBranch clock target request timeout
    ∃ one issued, node.Begins clock request timeout begun.1 target one ∧
      Grows config name (first ++ [(target, one)]) group [(target, begun.2)] begun.1 issued := by
  intro begun
  have result : begun = group.world.node.beginBranch clock target request timeout := rfl
  have local_of_id : (target = group.world.node.id) = (target = node.id) := by rw [stands.id]
  unfold Node.beginBranch at result
  simp only [local_of_id] at result
  split at result
  next own =>
    rw [stands.localBranch] at result
    have works : group.world.Follows (node.localBranch clock target request timeout)
        (node.localBranch clock target request timeout) := .working _ _ _
    have grown := kept.append target works (by simp [Node.localBranch, Branch.callId?])
    obtain ⟨polled, grows⟩ := Grows.poll ⟨grown, rfl, rfl, Nat.le_succ _⟩ stands.going
    rw [← reading] at grows
    rw [result]
    exact ⟨_, polled, .here own, grows⟩
  next other =>
    rw [stands.aliveMember] at result
    split at result
    next error missing =>
      rw [result]
      have grown := kept.append target (.settled (.error error)) (by simp [Branch.callId?])
      exact ⟨_, _, .away other missing, grown, rfl, rfl, Nat.le_succ _⟩
    next member alive =>
      obtain ⟨rfl, -⟩ := aliveMember_eq_ok alive
      cases begins : group.world.node.beginRemote clock member request timeout with
      | mk after branch =>
        obtain ⟨started, issued, grows⟩ := kept.beginRemote stands reading room other alive begins
        have going : after.stopRequested = false := by
          have notifies := notifies_beginRemote group.world.node clock member request timeout
          rw [begins] at notifies
          exact notifies.stopRequested.trans stands.going
        -- A branch is polled once as soon as it has begun.
        obtain ⟨polled, last⟩ := grows.poll going
        rw [grows.now, ← reading] at last
        rw [begins] at result
        rw [result]
        exact ⟨_, polled,
          started.pushes (after.polls_pollBranch clock.now branch).notifies.outbox, last⟩

theorem Kept.beginBranches {targets : List MemberId} (kept : group.Kept config name first)
    (stands : node.Stands group.world.node) (reading : clock.now = group.world.now)
    (room : group.world.begun + targets.length ≤ UInt64.size) :
    let begun := Node.beginBranches clock request timeout targets group.world.node
    ∃ added issued, node.BeginsAll clock request timeout begun.1 targets added ∧
      Grows config name (first ++ added) group begun.2 begun.1 issued := by
  intro begun
  -- The induction is on the targets. The node that begins the rest has begun the first, and stands
  -- as it did.
  induction targets generalizing group first with
  | nil =>
    refine ⟨[], group.world, .nil, ?_, rfl, rfl, Nat.le_refl _⟩
    rw [List.append_nil]
    change (⟨group.world, group.branches ++ []⟩ : CallGroup).Kept config name first
    rw [List.append_nil]
    exact kept
  | cons target rest ih =>
    rw [List.length_cons] at room
    obtain ⟨one, issued, begins, grows⟩ := kept.beginBranch stands reading (by omega) target
    have placed := group.world.node.places_beginBranch clock request timeout target
    have number := grows.number
    rw [List.length_singleton] at number
    have next : node.Stands issued.node := grows.node ▸ stands.places placed
    obtain ⟨added, last, others, further⟩ := ih grows.kept next (reading.trans grows.now.symm)
      (by dsimp only; omega)
    dsimp only at others further
    rw [grows.node] at others further
    have later := (places_beginBranches
      (group.world.node.beginBranch clock target request timeout).1 clock request timeout rest)
    refine ⟨(target, one) :: added, last, .cons ⟨rfl, begins.pushes later.notifies.outbox⟩ others,
      ?_⟩
    have appended := further.kept
    dsimp only at appended
    rw [List.append_assoc, List.append_assoc, List.singleton_append,
      List.singleton_append] at appended
    refine ⟨appended, further.node, further.now.trans grows.now, ?_⟩
    have count := further.number
    have longer : begun.2.length = (Node.beginBranches clock request timeout rest
        (group.world.node.beginBranch clock target request timeout).1).2.length + 1 := rfl
    dsimp only at count
    omega

end

end CallGroup

end ClusterCoordination
