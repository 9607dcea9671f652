import Mathlib.Algebra.BigOperators.Group.Finset.Basic
import Mathlib.Data.Fintype.Powerset
import Mathlib.Data.Fintype.Prod
import Mathlib.Data.Fintype.Card
import Mathlib.Data.Multiset.DershowitzManna
import Mathlib.Order.OrderIsoNat
import ClusterCoordination.Proofs.Cluster.Honesty
import ClusterCoordination.Proofs.Nodes.Answering
/-!
# Silence

Control frames beget control frames. Where no node advertises an address at which another one
listens, and every datagram that can be delivered is delivered in the end, they die out: nodes get
to know one another until nobody learns anything new, and from then on frames beget only frames of
lower rank.
-/

set_option autoImplicit false

namespace ClusterCoordination

namespace Node

/--
A node that can write a frame for its peers can write a heartbeat, whichever peers the two
advertise.
-/
def Articulate (node : Node) : Prop :=
  ∀ sample other kind data, kind ≠ .leave → node.controlDatagram sample kind = .ok data →
    ∃ answer, node.controlDatagram other .heartbeat = .ok answer

end Node

/-- How many frames can follow one of this kind, one after the other. -/
def ControlKind.rank : ControlKind → Nat
  | .leave => 0
  | .heartbeat => 1
  | .join => 2

namespace Cluster

variable {count : Nat}

/-- Deliveries without end, with nothing happening in between. -/
structure Run (count : Nat) where
  state : Nat → Cluster count
  source : Nat → Fin count
  address : Nat → SocketAddress
  data : Nat → Bytes
  delivers : ∀ time,
    Delivers (state time) (source time) (address time) (data time) (state (time + 1))

/-- What is queued for an address at which a node listens is delivered at some time. -/
def Run.Fair (run : Run count) : Prop :=
  ∀ time source address data target, (address, data) ∈ (run.state time source).outbox.queued →
    (run.state time).Listens target address →
      ∃ later, time ≤ later ∧ run.source later = source ∧ run.address later = address ∧
        run.data later = data

def Run.Articulate (run : Run count) : Prop :=
  ∀ time index, (run.state time index).Articulate

/-- No node advertises an address at which another node of the cluster listens. -/
def Apart (configs : Fin count → Config) : Prop :=
  ∀ advertiser listener, (configs advertiser).publicAddress = (configs listener).listenAddress →
    advertiser = listener

instance (configs : Fin count → Config) : Decidable (Apart configs) :=
  inferInstanceAs (Decidable (∀ _ _, _ → _))

/-! ### What is in flight -/

def inFlight (cluster : Cluster count) : Multiset (SocketAddress × Bytes) :=
  ∑ index, (cluster index).outbox.queued

theorem inFlight_put (cluster : Cluster count) (index : Fin count) (node : Node) :
    (cluster.put index node).inFlight + (cluster index).outbox.queued =
      cluster.inFlight + node.outbox.queued := by
  have others : ∑ other ∈ Finset.univ.erase index, (cluster.put index node other).outbox.queued =
      ∑ other ∈ Finset.univ.erase index, (cluster other).outbox.queued := by
    apply Finset.sum_congr rfl
    intro other among
    rw [put_other cluster (Finset.ne_of_mem_erase among)]
  have before := Finset.sum_erase_add Finset.univ (fun other => (cluster other).outbox.queued)
    (Finset.mem_univ index)
  have after := Finset.sum_erase_add Finset.univ
    (fun other => (cluster.put index node other).outbox.queued) (Finset.mem_univ index)
  rw [inFlight, inFlight, ← before, ← after, others, put_self]
  exact add_right_comm _ _ _

variable {configs : Fin count → Config} {before after : Cluster count} {source : Fin count}
variable {address : SocketAddress} {data : Bytes}

structure Receives (configs : Fin count → Config) (before : Cluster count) (address : SocketAddress)
    (data : Bytes) (after : Cluster count) (target : Fin count) (choice : PeerChoice)
    (now : Instant) (node : Node) : Prop where
  listens : before.Listens target address
  honest : HonestNode configs target node
  registry : node.registry = (before target).registry
  becomes : after target = node.receive choice now data
  sockets : ∀ index, (after index).socket = (before index).socket
  others : ∀ index, index ≠ target → (after index).registry = (before index).registry
  flow : ∃ rest, before.inFlight = rest + {(address, data)} ∧
    ∀ added, (node.receive choice now data).outbox.queued = node.outbox.queued + added →
      after.inFlight = rest + added

theorem Delivers.receives (delivers : Delivers before source address data after)
    (honest : Honest configs before) :
    ∃ target choice now node,
      Receives configs before address data after target choice now node := by
  cases delivers with
  | delivers drain target choice now taken listens =>
    let sent := before.put source ((before source).sent drain (.ok ()))
    have sentHonest : Honest configs sent := honest.put ((honest source).sent taken (.ok ()))
    have registries (index : Fin count) : (sent index).registry = (before index).registry := by
      by_cases same : index = source
      · subst same
        simp only [sent, put_self]
        exact Node.registry_sent _ drain _
      · simp only [sent, put_other before same]
    have sockets (index : Fin count) : (sent index).socket = (before index).socket := by
      by_cases same : index = source
      · subst same
        simp only [sent, put_self]
        exact Node.socket_sent _ drain _
      · simp only [sent, put_other before same]
    refine ⟨target, choice, now, sent target, listens, sentHonest target, registries target,
      put_self .., ?_, ?_, sent.inFlight, ?_, ?_⟩
    · intro index
      by_cases same : index = target
      · subst same
        rw [put_self, Node.socket_receive, sockets]
      · rw [put_other _ same, sockets]
    · intro index different
      rw [put_other _ different, registries]
    · -- What is in flight changes only by what the one node changes in its queues.
      have total := before.inFlight_put source ((before source).sent drain (.ok ()))
      rw [(honest source).sound.queued_sent taken (.ok ()), Node.outbox_sent,
        ← Multiset.singleton_add, ← add_assoc] at total
      exact (add_right_cancel total).symm
    · intro added adds
      have total := sent.inFlight_put target ((sent target).receive choice now data)
      rw [adds, add_comm (sent target).outbox.queued added, ← add_assoc] at total
      exact add_right_cancel total

theorem Receives.registries {target : Fin count} {choice : PeerChoice} {now : Instant} {node : Node}
    (receives : Receives configs before address data after target choice now node)
    {index : Fin count} {id : MemberId} (known : (before index).registry.contains id = true) :
    (after index).registry.contains id = true := by
  by_cases same : index = target
  · subst same
    rw [receives.becomes]
    apply Node.contains_receive receives.honest.unique
    rwa [receives.registry]
  · rwa [receives.others index same]

/-! ### What can be written -/

/-- Where ids and names are short, so is every frame: it has no more than sixteen peers. -/
theorem HonestNode.articulate (brief : ∀ index, isBrief (configs index).id (configs index).name)
    {index : Fin count} {node : Node} (honest : HonestNode configs index node) :
    node.Articulate := by
  intro sample other kind data staying made
  have truthful := truthful_controlFrame honest.config honest.unique honest.members other .heartbeat
  have known {id : MemberId} {name : String} {address : SocketAddress}
      (known : Known configs id name address) : isBrief id name := by
    obtain ⟨index, rfl, rfl, -⟩ := known
    exact brief index
  have few : (node.controlFrame other .heartbeat).peers.length ≤ advertisedPeers := by
    have picked := other.length_choose node.alivePeers
    simp only [Node.controlFrame, List.length_map]
    omega
  have short : (node.controlFrame other .heartbeat).Short := ControlFrame.Brief.short
    ⟨known truthful.sender, few, List.all_eq_true.mpr fun peer listed =>
      known (truthful.peers peer listed)⟩
  exact ⟨_, Node.controlDatagram_of_short short⟩

/-! ### Nothing new to learn -/

def Knows (configs : Fin count → Config) (cluster : Cluster count)
    (knower known : Fin count) : Prop :=
  (cluster knower).registry.contains (configs known).id = true

theorem Run.honest (run : Run count) (begins : Honest configs (run.state 0)) (time : Nat) :
    Honest configs (run.state time) := by
  induction time with
  | zero => exact begins
  | succ time ih => exact ih.delivers (run.delivers time)

theorem Run.articulate (run : Run count) (begins : Honest configs (run.state 0))
    (brief : ∀ index, isBrief (configs index).id (configs index).name) : run.Articulate :=
  fun time index => (run.honest begins time index).articulate brief

def Run.drop (run : Run count) (start : Nat) : Run count where
  state := fun time => run.state (start + time)
  source := fun time => run.source (start + time)
  address := fun time => run.address (start + time)
  data := fun time => run.data (start + time)
  delivers := fun time => run.delivers (start + time)

theorem Run.Fair.drop {run : Run count} (fair : run.Fair) (start : Nat) :
    (run.drop start).Fair := by
  intro time source address data target waits listens
  obtain ⟨later, after, happens⟩ := fair (start + time) source address data target waits listens
  obtain ⟨offset, rfl⟩ := Nat.exists_eq_add_of_le (Nat.le_trans (Nat.le_add_right start time) after)
  exact ⟨offset, by omega, happens⟩

theorem Run.learns_all (run : Run count) (begins : Honest configs (run.state 0)) :
    ∃ start, ∀ time knower known, Knows configs (run.state (start + time)) knower known →
      Knows configs (run.state start) knower known := by
  classical
  let knowledge (time : Nat) : Finset (Fin count × Fin count) :=
    Finset.univ.filter fun pair => Knows configs (run.state time) pair.1 pair.2
  have grows : Monotone knowledge := by
    apply monotone_nat_of_le_succ
    intro time pair among
    obtain ⟨target, choice, now, node, receives⟩ :=
      (run.delivers time).receives (run.honest begins time)
    simp only [knowledge, Finset.mem_filter, Finset.mem_univ, true_and] at among ⊢
    exact receives.registries among
  obtain ⟨start, stays⟩ := WellFoundedGT.monotone_chain_condition ⟨knowledge, grows⟩
  refine ⟨start, ?_⟩
  intro time knower known knows
  have among : (knower, known) ∈ knowledge (start + time) := by simpa [knowledge] using knows
  have same : knowledge start = knowledge (start + time) := stays (start + time) (by omega)
  rw [← same] at among
  simpa [knowledge] using among

/-! ### Ranks -/

def Answers (configs : Fin count → Config) (cluster : Cluster count) (index : Fin count) : Prop :=
  cluster.Listens index (configs index).publicAddress

theorem eq_of_listens (honest : Honest configs before) (apart : Apart configs)
    {listener advertiser : Fin count}
    (listens : before.Listens listener (configs advertiser).publicAddress) :
    listener = advertiser := by
  have heard := listens.2
  rw [(honest listener).config] at heard
  exact (apart advertiser listener heard.symm).symm

/-- A join of a node that does not know whom it asks, but would get to know it by the answer. -/
def Sterile (configs : Fin count → Config) (cluster : Cluster count) (address : SocketAddress)
    (sender : MemberId) : Prop :=
  ∃ source target, (configs source).id = sender ∧ Answers configs cluster source ∧
    cluster.Listens target address ∧ ¬ Knows configs cluster source target

open Classical in
/--
How long a chain of control frames can follow a datagram. What a node receives that is not found
where it says can be anything; for the others a join is followed by a heartbeat, and a heartbeat by
sterile joins.
-/
noncomputable def rank (configs : Fin count → Config) (cluster : Cluster count)
    (item : SocketAddress × Bytes) : Nat :=
  if ∃ target, cluster.Listens target item.1 ∧ ¬ Answers configs cluster target then 3
  else if ∃ target, cluster.Listens target item.1 then
    match ControlFrame.read? item.2 with
    | none => 0
    | some frame =>
      if frame.kind = .join ∧
        Sterile configs cluster item.1 frame.sender then 0 else frame.kind.rank
  else 0

section

variable {base : Cluster count} {frame : ControlFrame} {target : Fin count}

theorem answers_of_listens (honest : Honest configs base) (apart : Apart configs)
    (target : Fin count) :
    ¬ ∃ listener, base.Listens listener (configs target).publicAddress ∧
      ¬ Answers configs base listener := by
  rintro ⟨listener, listens, silent⟩
  obtain rfl := eq_of_listens honest apart listens
  exact silent listens

theorem rank_advertised (honest : Honest configs base) (apart : Apart configs)
    (read : ControlFrame.read? data = some frame) :
    rank configs base ((configs target).publicAddress, data) ≤ frame.kind.rank := by
  rw [rank, if_neg (answers_of_listens honest apart target), read]
  dsimp only
  split
  · split
    · exact Nat.zero_le _
    · exact Nat.le_refl _
  · exact Nat.zero_le _

theorem rank_sterile (honest : Honest configs base) (apart : Apart configs)
    (read : ControlFrame.read? data = some frame) (kind : frame.kind = .join)
    {asker : Fin count} (named : frame.sender = (configs asker).id)
    (answers : Answers configs base asker) (stranger : ¬ Knows configs base asker target) :
    rank configs base ((configs target).publicAddress, data) = 0 := by
  rw [rank, if_neg (answers_of_listens honest apart target), read]
  dsimp only
  split
  next listened =>
    obtain ⟨listener, listens⟩ := listened
    obtain rfl := eq_of_listens honest apart listens
    exact if_pos ⟨kind, asker, listener, named.symm, answers, listens, stranger⟩
  next => rfl

theorem rank_of_unanswering (listens : base.Listens target address)
    (silent : ¬ Answers configs base target) : rank configs base (address, data) = 3 :=
  if_pos ⟨target, listens, silent⟩

theorem rank_of_answering (honest : Honest configs base) (apart : Apart configs)
    (listens : base.Listens target address) (answers : Answers configs base target)
    (read : ControlFrame.read? data = some frame)
    (fruitful : ¬ (frame.kind = .join ∧ Sterile configs base address frame.sender)) :
    rank configs base (address, data) = frame.kind.rank := by
  have here : address = (configs target).publicAddress := listens.2.symm.trans answers.2
  have found : ¬ ∃ listener, base.Listens listener address ∧ ¬ Answers configs base listener := by
    rw [here]
    exact answers_of_listens honest apart target
  rw [rank, if_neg found, if_pos ⟨target, listens⟩, read]
  exact if_neg fruitful

end

/-! ### Descent -/

/-- A fair run in which every node knows from the start whomever it will ever know. -/
structure Run.Steady (configs : Fin count → Config) (run : Run count) : Prop where
  honest : Honest configs (run.state 0)
  distinct : Function.Injective fun index => (configs index).id
  apart : Apart configs
  fair : run.Fair
  articulate : run.Articulate
  learned : ∀ time knower known, Knows configs (run.state time) knower known →
    Knows configs (run.state 0) knower known

section

variable {run : Run count}

theorem Run.knows_of_start (run : Run count) (begins : Honest configs (run.state 0)) (time : Nat)
    {knower known : Fin count} (knows : Knows configs (run.state 0) knower known) :
    Knows configs (run.state time) knower known := by
  induction time with
  | zero => exact knows
  | succ time ih =>
    obtain ⟨target, choice, now, node, receives⟩ :=
      (run.delivers time).receives (run.honest begins time)
    exact receives.registries ih

theorem Run.listens_iff (run : Run count) (begins : Honest configs (run.state 0)) (time : Nat)
    (index : Fin count) (address : SocketAddress) :
    (run.state time).Listens index address ↔ (run.state 0).Listens index address := by
  have socket : (run.state time index).socket = (run.state 0 index).socket := by
    induction time with
    | zero => rfl
    | succ time ih =>
      obtain ⟨target, choice, now, node, receives⟩ :=
        (run.delivers time).receives (run.honest begins time)
      rw [receives.sockets, ih]
  rw [Listens, Listens, socket, (run.honest begins time index).config, (begins index).config]

theorem Run.Steady.heard (steady : run.Steady configs) {time : Nat} {sender hearer : Fin count}
    {data : Bytes} {frame : ControlFrame}
    (waits : ((configs hearer).publicAddress, data) ∈ (run.state time sender).outbox.queued)
    (read : ControlFrame.read? data = some frame) (named : frame.sender = (configs sender).id)
    (staying : frame.kind ≠ .leave) (other : sender ≠ hearer)
    (answers : Answers configs (run.state 0) hearer) :
    Knows configs (run.state 0) hearer sender := by
  obtain ⟨later, -, happens⟩ := steady.fair time sender _ data hearer waits
    ((run.listens_iff steady.honest time _ _).mpr answers)
  have honest := run.honest steady.honest later
  obtain ⟨target, choice, now, node, receives⟩ := (run.delivers later).receives honest
  rw [happens.2.1, happens.2.2] at receives
  obtain rfl := eq_of_listens honest steady.apart receives.listens
  apply steady.learned (later + 1)
  have foreign : frame.sender ≠ node.id := by
    rw [named, Node.id, receives.honest.config]
    exact fun same => other (steady.distinct same)
  rw [Knows, receives.becomes, Node.receive_of_read read, if_neg foreign, ← named]
  exact Node.contains_onControlFrame staying

theorem Run.Steady.rank_reply (steady : run.Steady configs) {time : Nat} {target : Fin count}
    {frame : ControlFrame} (truthful : Truthful configs frame)
    (reply : (run.state (time + 1) target).Answers frame address data) :
    (frame.kind = .join ∧ rank configs (run.state 0) (address, data) ≤ 1) ∨
      (frame.kind ≠ .leave ∧ rank configs (run.state 0) (address, data) ≤ 2 ∧
        (Answers configs (run.state 0) target →
          rank configs (run.state 0) (address, data) = 0)) := by
  have own : (run.state (time + 1) target).id = (configs target).id :=
    congrArg Config.id (run.honest steady.honest (time + 1) target).config
  rcases reply with ⟨kind, rfl, _, made⟩ | ⟨staying, peer, among, -, absent, rfl, _, made⟩
  · obtain ⟨sender, -, -, addressed⟩ := truthful.sender
    rw [← addressed]
    exact .inl ⟨kind, rank_advertised steady.honest steady.apart (Node.read?_controlDatagram made)⟩
  · obtain ⟨stranger, named, -, addressed⟩ := truthful.peers peer among
    rw [← addressed]
    have asks := Node.read?_controlDatagram made
    refine .inr ⟨staying, rank_advertised steady.honest steady.apart asks, ?_⟩
    intro answers
    apply rank_sterile steady.honest steady.apart asks rfl own answers
    intro knows
    have later := run.knows_of_start steady.honest (time + 1) knows
    rw [Knows, named, absent] at later
    exact Bool.false_ne_true later

theorem Run.Steady.not_sterile (steady : run.Steady configs) {time : Nat} {target : Fin count}
    {sample : PeerSample} {frame : ControlFrame} (truthful : Truthful configs frame)
    (here : address = (configs target).publicAddress)
    (foreign : frame.sender ≠ (configs target).id)
    (answered : frame.kind = .join → ∃ answer,
      (run.state (time + 1) target).controlDatagram sample .heartbeat = .ok answer ∧
        (frame.address, answer) ∈ (run.state (time + 1) target).outbox.queued) :
    ¬ (frame.kind = .join ∧ Sterile configs (run.state 0) address frame.sender) := by
  rintro ⟨kind, asker, listener, named, askerAnswers, listens, stranger⟩
  rw [here] at listens
  obtain rfl := eq_of_listens steady.honest steady.apart listens
  obtain ⟨answer, made, waits⟩ := answered kind
  obtain ⟨sender, alsoNamed, -, addressed⟩ := truthful.sender
  obtain rfl : sender = asker := steady.distinct (alsoNamed.trans named.symm)
  rw [← addressed] at waits
  have own : (run.state (time + 1) listener).id = (configs listener).id :=
    congrArg Config.id (run.honest steady.honest (time + 1) listener).config
  apply stranger
  refine steady.heard waits (Node.read?_controlDatagram made) own (by simp [Node.controlFrame]) ?_
    askerAnswers
  rintro rfl
  exact foreign named.symm

theorem Run.Steady.rank_lt (steady : run.Steady configs) (time : Nat) :
    ∃ rest added, (run.state time).inFlight = rest + {(run.address time, run.data time)} ∧
      (run.state (time + 1)).inFlight = rest + added ∧
      ∀ item ∈ added, rank configs (run.state 0) item <
        rank configs (run.state 0) (run.address time, run.data time) := by
  have honest := run.honest steady.honest time
  obtain ⟨target, choice, now, node, receives⟩ := (run.delivers time).receives honest
  obtain ⟨rest, before, after⟩ := receives.flow
  obtain ⟨added, adds, replies⟩ :=
    Node.receive_adds receives.honest.sound.isNumbered choice now (run.data time)
  refine ⟨rest, added, before, after added adds, ?_⟩
  intro item among
  obtain ⟨frame, read, foreign, reply, answered⟩ := replies item among
  rw [← receives.becomes] at reply answered
  rw [Node.id, receives.honest.config] at foreign
  have truthful : Truthful configs frame := by
    have flying : (run.address time, run.data time) ∈ (run.state time).inFlight := by
      rw [before]
      exact Multiset.mem_add.mpr (.inr (Multiset.mem_singleton_self _))
    obtain ⟨source, -, waits⟩ := Multiset.mem_sum.mp flying
    exact (honest source).queued _ waits frame read
  have listens := (run.listens_iff steady.honest time _ _).mp receives.listens
  have replied := steady.rank_reply truthful reply
  obtain ⟨sample, kind, staying, made⟩ := reply.exists_frame
  obtain ⟨answer, written⟩ :=
    steady.articulate (time + 1) target sample (choice 0) kind _ staying made
  by_cases answers : Answers configs (run.state 0) target
  · have here : run.address time = (configs target).publicAddress := listens.2.symm.trans answers.2
    have fruitful := steady.not_sterile truthful here foreign fun joins =>
      ⟨answer, written, answered joins answer written⟩
    rw [rank_of_answering steady.honest steady.apart listens answers read fruitful]
    rcases replied with ⟨kind, low⟩ | ⟨staying, -, none⟩
    · rw [kind]
      exact Nat.lt_succ_of_le low
    · rw [none answers]
      cases kind : frame.kind with
      | join => exact Nat.zero_lt_succ 1
      | heartbeat => exact Nat.zero_lt_succ 0
      | leave => exact absurd kind staying
  · rw [rank_of_unanswering listens answers]
    rcases replied with ⟨-, low⟩ | ⟨-, low, -⟩
    · exact Nat.lt_of_le_of_lt low (by decide)
    · exact Nat.lt_of_le_of_lt low (by decide)

theorem Run.Steady.absurd (steady : run.Steady configs) : False := by
  let ranks (time : Nat) : Multiset Nat :=
    (run.state time).inFlight.map (rank configs (run.state 0))
  have descends (time : Nat) : Multiset.IsDershowitzMannaLT (ranks (time + 1)) (ranks time) := by
    obtain ⟨rest, added, before, after, lower⟩ := steady.rank_lt time
    refine ⟨rest.map (rank configs (run.state 0)), added.map (rank configs (run.state 0)),
      {rank configs (run.state 0) (run.address time, run.data time)}, ?_, ?_, ?_, ?_⟩
    · exact Multiset.singleton_ne_zero _
    · simp only [ranks, after, Multiset.map_add]
    · simp only [ranks, before, Multiset.map_add, Multiset.map_singleton]
    · intro value among
      obtain ⟨item, present, rfl⟩ := Multiset.mem_map.mp among
      exact ⟨_, Multiset.mem_singleton_self _, lower item present⟩
  have founded : WellFounded (Multiset.IsDershowitzMannaLT : Multiset Nat → Multiset Nat → Prop) :=
    Multiset.wellFounded_isDershowitzMannaLT
  exact (wellFounded_iff_isEmpty_descending_chain.mp founded).false ⟨ranks, descends⟩

end

/--
Control traffic dies out. Where ids are distinct and no node advertises an address at which another
one listens, deliveries cannot go on for ever and at last bring everything that is queued: whatever
state the cluster has come to, and whichever peers each of the frames advertises, as long as they
can be written.
-/
theorem fair_deliveries_end {configs : Fin count → Config}
    (distinct : Function.Injective fun index => (configs index).id) (apart : Apart configs)
    {cluster : Cluster count} (reached : Reachable configs cluster) :
    ¬ ∃ run : Run count, run.state 0 = cluster ∧ run.Fair ∧ run.Articulate := by
  rintro ⟨run, rfl, fair, articulate⟩
  have begins := honest_of_reachable reached
  obtain ⟨start, learned⟩ := run.learns_all begins
  have steady : (run.drop start).Steady configs :=
    ⟨run.honest begins start, distinct, apart, fair.drop start,
      fun time => articulate (start + time), learned⟩
  exact steady.absurd

def loopback (number : UInt16) : SocketAddress := .v4 #v[127, 0, 0, 1] number

def localNode (id : String) (listened advertised : UInt16) (seeds : List String) : Config :=
  .new Config.defaultClusterName ⟨id⟩ (loopback listened) (loopback advertised) seeds

/--
The last node hears of the first and the third, and the second makes itself known to the first.
-/
def gossips : Fin 4 → Config
  | 0 => localNode "a" 8001 8001 ["127.0.0.1:8004"]
  | 1 => localNode "b" 8002 8002 ["127.0.0.1:8001"]
  | 2 => localNode "c" 8003 8003 ["127.0.0.1:8004"]
  | 3 => localNode "d" 8004 8004 []

theorem gossips_fall_silent :
    (Function.Injective fun index => (gossips index).id) ∧ Apart gossips ∧
      Reachable gossips (started gossips) ∧
      ¬ ∃ run : Run 4, run.state 0 = started gossips ∧ run.Fair ∧ run.Articulate := by
  have distinct : Function.Injective fun index => (gossips index).id := by decide
  have apart : Apart gossips := by decide
  have reached : Reachable gossips (started gossips) := reachable_started (by decide)
  exact ⟨distinct, apart, reached, fair_deliveries_end distinct apart reached⟩

end Cluster

end ClusterCoordination
