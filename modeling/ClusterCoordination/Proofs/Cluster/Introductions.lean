import ClusterCoordination.Proofs.Cluster.Chatter
import ClusterCoordination.Proofs.Cluster.MessageOrder
import ClusterCoordination.Proofs.Cluster.Passing
import ClusterCoordination.Proofs.Nodes.Acquaintance
/-!
# Introductions

Somebody tells a node of another one that it does not know. It takes two datagrams, a join and the
answer to it, until both know one another, whatever else happens between them.
-/

set_option autoImplicit false

namespace ClusterCoordination

namespace Fabric

variable {count : Nat}

section

variable (configs : Fin count → Config)

/--
The first node does not look for the silent, and what it reads in the name of the second is genuine.
-/
def Undisturbed (knower known : Fin count) (fabric : Fabric count) : Move count → Prop
  | .act mover (.detect _) => mover ≠ knower
  | .read mover _ _ => mover = knower →
      ∀ data ∈ (fabric.waiting knower).head?, ∀ frame ∈ ControlFrame.read? data,
        frame.Genuine (configs known)
  | _ => True

def Proper (one other : Fin count) (fabric : Fabric count) (move : Move count) : Prop :=
  fabric.Undisturbed configs one other move ∧ fabric.Undisturbed configs other one move

/-- Moves that disturb neither of the two nodes lead from one state to another. -/
def Leads (one other : Fin count) (before after : Fabric count) : Prop :=
  ∃ moves, before.Along (fun _ => True) (Proper configs one other) moves ∧
    before.steps? moves = some after

/-- A third node tells the first one where it reaches the second. -/
structure Introduces (asker asked : Fin count) (frame : ControlFrame) : Prop where
  foreign : frame.sender ≠ (configs asker).id
  third : frame.sender ≠ (configs asked).id
  staying : frame.kind ≠ .leave
  listed : ∃ peer ∈ frame.peers,
    peer.id = (configs asked).id ∧ peer.address = (configs asked).publicAddress

end

section

variable {configs : Fin count → Config} {before middle after : Fabric count} {move : Move count}
  {knower known one other index : Fin count} {choice : PeerChoice} {data : Bytes}

theorem Step.record?_or_knows (step : Step before move after) (wired : before.Wired configs)
    (different : (configs knower).id ≠ (configs known).id)
    (undisturbed : before.Undisturbed configs knower known move)
    (familiar : (before.nodes knower).registry.Familiar (configs known)) :
    (after.nodes knower).registry.record? (configs known).id =
        (before.nodes knower).registry.record? (configs known).id ∨
      (after.nodes knower).registry.Knows (configs known) := by
  have unchanged {node : Node} (same : node.registry = (before.nodes knower).registry) :
      node.registry.record? (configs known).id =
          (before.nodes knower).registry.record? (configs known).id ∨
        node.registry.Knows (configs known) :=
    .inl (congrArg (Registry.record? · _) same)
  have identity : (before.nodes knower).id ≠ (configs known).id := by
    rwa [Node.id, (wired.sane knower).configured]
  -- Of the moves of the node itself only reading touches the record, as it does not look for the
  -- silent.
  by_cases mine : move.index? = some knower
  · cases step with
    | outside => simp [Move.index?] at mine
    | @started mover choice now starting _ socket begun =>
      obtain rfl := Option.some.inj mine
      obtain ⟨-, begins⟩ := Node.beginStart_eq_ok begun
      have named : starting.id = (before.nodes mover).id := by
        rw [begins]
        rfl
      have kept := Node.record?_finishStart (named ▸ identity) choice now socket
      rw [nodes_put_self, kept, begins]
      exact .inl rfl
    | refused begun =>
      obtain rfl := Option.some.inj mine
      obtain ⟨-, rfl⟩ := Node.beginStart_eq_ok begun
      rw [nodes_put_self]
      exact unchanged rfl
    | @acted mover action =>
      obtain rfl := Option.some.inj mine
      rw [nodes_put_self]
      refine unchanged (Node.act_utters _ ?_).registry
      rintro now rfl
      exact undisturbed rfl
    | messaged _ done =>
      obtain rfl := Option.some.inj mine
      rw [nodes_put_self]
      exact unchanged (Node.utters_sendMessage _ done).registry
    | taken =>
      obtain rfl := Option.some.inj mine
      rw [nodes_put_self]
      exact unchanged rfl
    | @transmitted mover drain target data =>
      obtain rfl := Option.some.inj mine
      obtain ⟨_, _, _, completed⟩ := (before.nodes mover).completed_eq drain
        (before.network.send (before.nodes mover).config.listenAddress target data).2
      rw [nodes_put_self, completed]
      exact unchanged rfl
    | @received mover choice now socket data plugged arrived =>
      obtain rfl := Option.some.inj mine
      obtain ⟨rest, inbox, -⟩ := Network.receive_eq_some arrived
      rw [nodes_put_self]
      refine Node.record?_receive_or_knows (wired.sane mover).unique familiar ?_ choice now
      exact undisturbed rfl data (by rw [waiting_eq plugged, inbox]; rfl)
    | handed _ handed =>
      obtain rfl := Option.some.inj mine
      obtain ⟨-, _, _, _, -, rfl⟩ := Node.handNext_eq_some handed
      rw [nodes_put_self]
      exact unchanged rfl
    | finished _ finished =>
      obtain rfl := Option.some.inj mine
      obtain ⟨_, rfl⟩ := Node.finishBusy_eq_some finished
      rw [nodes_put_self]
      exact unchanged rfl
    | @stopped mover now socket =>
      obtain rfl := Option.some.inj mine
      rw [nodes_put_self]
      exact .inl (Node.record?_finishStop identity now)
  · rw [step.nodes_other mine]
    exact .inl rfl

/-! ### Other moves -/

theorem Leads.symm (leads : before.Leads configs one other after) :
    before.Leads configs other one after := by
  obtain ⟨moves, along, made⟩ := leads
  refine ⟨moves, ?_, made⟩
  clear made
  induction moves generalizing before with
  | nil => exact along
  | cons move rest ih =>
    obtain ⟨-, ⟨mine, yours⟩, middle, made, along⟩ := along
    exact ⟨trivial, ⟨yours, mine⟩, middle, made, ih along⟩

theorem Leads.trans (first : before.Leads configs one other middle)
    (second : middle.Leads configs one other after) : before.Leads configs one other after := by
  obtain ⟨moves, along, made⟩ := first
  obtain ⟨more, further, later⟩ := second
  exact ⟨moves ++ more, along.append made further, (steps?_append made).trans later⟩

theorem Leads.wired (leads : before.Leads configs one other after) (wired : before.Wired configs) :
    after.Wired configs := by
  obtain ⟨moves, -, made⟩ := leads
  exact wired.steps made

theorem leads_of_sends {source : Fin count} {drain : DrainId}
    (made : before.steps? [.take source drain, .transmit source drain] = some after) :
    before.Leads configs one other after := by
  refine ⟨_, ?_, made⟩
  obtain ⟨middle, taken, rest⟩ := steps?_cons_eq_some made
  obtain ⟨last, transmitted, -⟩ := steps?_cons_eq_some rest
  exact ⟨trivial, ⟨trivial, trivial⟩, middle, taken,
    trivial, ⟨trivial, trivial⟩, last, transmitted, trivial⟩

theorem Leads.refl (fabric : Fabric count) : fabric.Leads configs one other fabric :=
  ⟨[], trivial, rfl⟩

theorem Reads.leads (reads : before.Reads one choice data after) (apart : one ≠ other)
    (genuine : ∀ frame ∈ ControlFrame.read? data, frame.Genuine (configs other)) :
    before.Leads configs one other after := by
  obtain ⟨first, now, made⟩ := reads
  refine ⟨[.read one choice now],
    ⟨trivial, ⟨?_, fun same => absurd same apart⟩, after, made, trivial⟩, ?_⟩
  · intro _ datagram next
    obtain rfl := Option.mem_unique next first
    exact genuine
  · simp [steps?, made]

theorem Leads.keeps (leads : before.Leads configs one other after) (wired : before.Wired configs)
    (different : (configs one).id ≠ (configs other).id)
    (familiar : (before.nodes one).registry.Familiar (configs other)) :
    (after.nodes one).registry.Familiar (configs other) ∧
      ((before.nodes one).registry.Knows (configs other) →
        (after.nodes one).registry.Knows (configs other)) := by
  obtain ⟨moves, along, made⟩ := leads
  induction moves generalizing before with
  | nil =>
    obtain rfl := Option.some.inj made
    exact ⟨familiar, fun knows => knows⟩
  | cons move rest ih =>
    obtain ⟨next, first, later⟩ := steps?_cons_eq_some made
    obtain ⟨-, ⟨undisturbed, -⟩, further⟩ := (along_cons first).mp along
    have step := step_of_step? first
    rcases step.record?_or_knows wired different undisturbed familiar with same | knows
    · have still : (next.nodes one).registry.Familiar (configs other) := by
        rwa [Registry.Familiar, same]
      obtain ⟨ends, keeps⟩ := ih (wired.step step) still further later
      refine ⟨ends, fun knew => keeps ?_⟩
      rwa [Registry.Knows, same]
    · obtain ⟨ends, keeps⟩ := ih (wired.step step) knows.familiar further later
      exact ⟨ends, fun _ => keeps knows⟩

/-! ### The two datagrams -/

theorem Wired.genuine (wired : before.Wired configs) {sample : PeerSample} {kind : ControlKind}
    (staying : kind ≠ .leave) (made : (before.nodes index).controlDatagram sample kind = .ok data) :
    ∃ frame, ControlFrame.read? data = some frame ∧ frame.kind = kind ∧
      frame.sender = (configs index).id ∧ frame.address = (configs index).publicAddress ∧
        frame.Genuine (configs index) := by
  refine ⟨_, Node.read?_controlDatagram made, rfl, ?_, ?_, ?_⟩
  · exact congrArg Config.id (wired.sane index).configured
  · exact congrArg Config.publicAddress (wired.sane index).configured
  · intro _
    refine ⟨staying, ?_, ?_⟩
    · exact congrArg Config.name (wired.sane index).configured
    · exact congrArg Config.publicAddress (wired.sane index).configured

theorem Reads.handles (reads : before.Reads one choice data after) (wired : before.Wired configs)
    {frame : ControlFrame} (read : ControlFrame.read? data = some frame)
    (foreign : frame.sender ≠ (configs one).id) :
    (before.nodes one).outbox.closed = false ∧
      ∃ now, after.nodes one = (before.nodes one).onControlFrame choice now frame := by
  obtain ⟨opened, now, became⟩ := reads.node
  refine ⟨(wired.sane one).queues opened, now, ?_⟩
  rw [became, Node.receive_of_read read, Node.id, (wired.sane one).configured, if_neg foreign]

theorem Reads.asks (reads : before.Reads one choice data after) (wired : before.Wired configs)
    (different : (configs one).id ≠ (configs other).id)
    (stranger : (before.nodes one).registry.contains (configs other).id = false)
    {frame : ControlFrame} (read : ControlFrame.read? data = some frame)
    (introduces : Introduces configs one other frame) :
    ∃ turn, ∀ ask, (after.nodes one).controlDatagram (choice turn) .join = .ok ask →
      ((configs other).publicAddress, ask) ∈ (after.nodes one).outbox.queued := by
  have sane := wired.sane one
  obtain ⟨opened, now, became⟩ := reads.handles wired read introduces.foreign
  obtain ⟨peer, listed, named, addressed⟩ := introduces.listed
  rw [became, ← addressed]
  refine Node.asks_stranger sane.keyed.isNumbered opened introduces.staying listed ?_ ?_
  · rw [named, Node.id, sane.configured]
    exact different.symm
  · rw [named, Registry.contains, Node.record?_onControlFrame sane.unique introduces.third]
    exact stranger

section

variable {teller : Fabric count} {sample : PeerSample}

theorem Reads.acquaints (reads : before.Reads one choice data after) (wired : before.Wired configs)
    (different : (configs one).id ≠ (configs other).id)
    (familiar : (before.nodes one).registry.Familiar (configs other)) (tells : teller.Wired configs)
    {kind : ControlKind} (staying : kind ≠ .leave)
    (made : (teller.nodes other).controlDatagram sample kind = .ok data) :
    before.Leads configs one other after ∧ (after.nodes one).registry.Knows (configs other) := by
  obtain ⟨frame, read, -, sender, -, genuine⟩ := tells.genuine staying made
  have apart : one ≠ other :=
    fun same => different (congrArg (fun index => (configs index).id) same)
  constructor
  · refine reads.leads apart ?_
    intro also alsoRead
    obtain rfl := Option.mem_unique alsoRead read
    exact genuine
  · obtain ⟨-, now, became⟩ := reads.handles wired read (sender ▸ different.symm)
    rw [became]
    exact Node.knows_onControlFrame familiar sender genuine

theorem Reads.answers (reads : before.Reads one choice data after) (wired : before.Wired configs)
    (different : (configs one).id ≠ (configs other).id) (tells : teller.Wired configs)
    (asked : (teller.nodes other).controlDatagram sample .join = .ok data) {answer : Bytes}
    (made : (after.nodes one).controlDatagram (choice 0) .heartbeat = .ok answer) :
    ((configs other).publicAddress, answer) ∈ (after.nodes one).outbox.queued := by
  obtain ⟨frame, read, kind, sender, address, -⟩ := tells.genuine (by decide) asked
  obtain ⟨opened, now, became⟩ := reads.handles wired read (sender ▸ different.symm)
  rw [became] at made ⊢
  rw [← address]
  exact Node.onJoin_answers (wired.sane one).keyed.isNumbered opened kind made

end

end

/-! ### Getting acquainted -/

section

variable {configs : Fin count → Config} {start hearing told : Fabric count}
  {asker asked : Fin count}
  {choice : PeerChoice} {notice : Bytes} {frame : ControlFrame}

/--
A node that is told of one it does not know asks that one to join. Once it has been asked, and its
answer has been read, each of the two nodes has the other one as a member that is alive, under its
own name and address. As long as the first has a record of the second, no frame makes it ask the
second again.
-/
theorem gossip_closes_one_hop (reached : Reachable configs start)
    (different : (configs asker).id ≠ (configs asked).id)
    (strange : (start.nodes asker).registry.contains (configs asked).id = false)
    (alsoStrange : (start.nodes asked).registry.contains (configs asker).id = false)
    (begins : start.Leads configs asker asked hearing)
    (still : (hearing.nodes asker).registry.contains (configs asked).id = false)
    (read : ControlFrame.read? notice = some frame)
    (introduces : Introduces configs asker asked frame)
    (hears : hearing.Reads asker choice notice told) :
    (∃ turn, ∀ ask, (told.nodes asker).controlDatagram (choice turn) .join = .ok ask →
      ((configs asked).publicAddress, ask) ∈ (told.nodes asker).outbox.queued) ∧
    ∀ sample ask, (told.nodes asker).controlDatagram sample .join = .ok ask →
    ∀ reaching reply met answer, told.Leads configs asker asked reaching →
      reaching.Reads asked reply ask met →
      (met.nodes asked).controlDatagram (reply 0) .heartbeat = .ok answer →
      ((configs asker).publicAddress, answer) ∈ (met.nodes asked).outbox.queued ∧
      ∀ returning thanks closed last, met.Leads configs asker asked returning →
        returning.Reads asker thanks answer closed → closed.Leads configs asker asked last →
        (last.nodes asker).registry.Knows (configs asked) ∧
        (last.nodes asked).registry.Knows (configs asker) ∧
        ∀ moves later, last.steps? moves = some later →
          (later.nodes asker).registry.contains (configs asked).id = true →
          (later.nodes asker).Overlooks (configs asked).id := by
  have begun := wired_of_reachable reached
  have wired := begins.wired begun
  have notes : hearing.Leads configs asker asked told := by
    refine hears.leads (fun same => different (congrArg (fun index => (configs index).id) same)) ?_
    intro other alsoRead same
    obtain rfl := Option.mem_unique alsoRead read
    exact absurd same introduces.third
  have toldWired := notes.wired wired
  refine ⟨hears.asks wired different still read introduces, ?_⟩
  intro sample ask asks reaching reply met answer reaches meets answers
  have reachingWired := reaches.wired toldWired
  have untilAsked := (begins.trans notes).trans reaches
  have alsoFamiliar := untilAsked.symm.keeps begun different.symm
    (Registry.familiar_of_stranger alsoStrange)
  obtain ⟨asking, askedKnows⟩ :=
    meets.acquaints reachingWired different.symm alsoFamiliar.1 toldWired (by decide) asks
  have metWired := asking.wired reachingWired
  refine ⟨meets.answers reachingWired different.symm toldWired asks answers, ?_⟩
  intro returning thanks closed last returns closes goesOn
  have returningWired := returns.wired metWired
  have untilAnswered := untilAsked.trans (asking.symm.trans returns)
  have familiar := untilAnswered.keeps begun different (Registry.familiar_of_stranger strange)
  obtain ⟨answering, askerKnows⟩ :=
    closes.acquaints returningWired different familiar.1 metWired (by decide) answers
  have closedWired := answering.wired returningWired
  refine ⟨?_, ?_, ?_⟩
  · exact (goesOn.keeps closedWired different askerKnows.familiar).2 askerKnows
  · have meanwhile := (returns.trans answering).trans goesOn
    exact (meanwhile.symm.keeps metWired different.symm askedKnows.familiar).2 askedKnows
  · intro moves later made known
    have sane := ((goesOn.wired closedWired).steps made).sane asker
    exact Node.overlooks_known sane.keyed.isNumbered sane.unique known

end

/-! ### Neighbours that do not know one another -/

namespace Neighbours

open Cluster (loopback localNode)

def notice : ControlFrame := ⟨⟨"c"⟩, "", loopback 3, .heartbeat, [⟨⟨"b"⟩, "", loopback 2⟩]⟩

def told (config : Config) : Face := (Face.start config).hear config notice

def join (config : Config) : ControlFrame := saying config (told config).registry .join

def asked (config other : Config) : Face := (Face.start config).hear config (join other)

def reply (config other : Config) : ControlFrame :=
  saying config (asked config other).registry .heartbeat

def pair {α : Type} (first second : α) : Fin 2 → α
  | 0 => first
  | 1 => second

theorem update_pair_first {α : Type} (first second other : α) :
    Function.update (pair first second) 0 other = pair other second := by
  funext index
  revert index
  exact Fin.forall_fin_two.mpr ⟨rfl, rfl⟩

theorem update_pair_second {α : Type} (first second other : α) :
    Function.update (pair first second) 1 other = pair first other := by
  funext index
  revert index
  exact Fin.forall_fin_two.mpr ⟨rfl, rfl⟩

theorem exists_start : ∃ start, Reachable configs start ∧
    start.Shows configs (pair (.start (configs 0)) (.start (configs 1)))
    (pair [notice.wire] []) := by
  let early : Fabric 2 :=
    (created configs).put (Network.empty.bind (loopback 1)).1 0 (Cluster.started configs 0)
  let opened := early.put (early.network.bind (loopback 2)).1 1 (Cluster.started configs 1)
  let joined : Fabric 2 := { opened with network := (opened.network.bind (loopback 3)).1 }
  let start : Fabric 2 :=
    { joined with network := (joined.network.perform (.send 2 (loopback 1) notice.wire)).1 }
  have first : (created configs).step? (.start 0 .first 0) = some early := rfl
  have second : early.step? (.start 1 .first 0) = some opened := rfl
  have third : opened.step? (.outside (.bind (loopback 3))) = some joined := rfl
  have same : opened.nodes = Cluster.started configs := by
    funext index
    revert index
    exact Fin.forall_fin_two.mpr ⟨rfl, rfl⟩
  have plugged (index : Fin 2) : (opened.nodes index).socket = some index.val := by
    rw [same]
    exact (Node.utters_finishStart _ .first 0 index.val).socket
  have foreign : joined.isForeign (.send 2 (loopback 1) notice.wire) = true := by
    refine decide_eq_true fun index => ?_
    rw [plugged index]
    exact mt Option.some.inj (Nat.ne_of_lt index.isLt)
  have sent : joined.step? (.outside (.send 2 (loopback 1) notice.wire)) = some start :=
    if_pos foreign
  have reached : Reachable configs start := by
    refine ⟨[.start 0 .first 0, .start 1 .first 0, .outside (.bind (loopback 3)),
      .outside (.send 2 (loopback 1) notice.wire)], ?_⟩
    rw [steps?_cons first, steps?_cons second, steps?_cons third, steps?_cons sent, steps?]
  have talks (index : Fin 2) :
      (saying (configs index) (Face.start (configs index)).registry .join).Brief := by
    revert index
    decide_cbv
  refine ⟨start, reached, wired_of_reachable reached, ?_, ?_, rfl⟩
  · have shown : Cluster.Shows start.nodes configs fun index => .start (configs index) :=
      same ▸ Cluster.shows_started talks
    exact Fin.forall_fin_two.mpr ⟨shown 0, shown 1⟩
  · have arrived (index : Fin 2) : start.waiting index = start.network.inbox index.val :=
      waiting_eq (plugged index)
    exact Fin.forall_fin_two.mpr ⟨arrived 0, arrived 1⟩

/-- The first node is told of the second, asks it to join and is answered. -/
theorem neighbours_get_acquainted : ∃ start, Reachable configs start ∧
    (start.nodes 0).registry.contains (configs 1).id = false ∧
    (start.nodes 1).registry.contains (configs 0).id = false ∧
    ∃ moves closed, start.steps? moves = some closed ∧
      (closed.nodes 0).registry.Knows (configs 1) ∧
        (closed.nodes 1).registry.Knows (configs 0) := by
  obtain ⟨start, reached, shows⟩ := exists_start
  have strange : (start.nodes 0).registry.contains (configs 1).id = false := by
    rw [(shows.faces 0).registry]
    rfl
  have alsoStrange : (start.nodes 1).registry.contains (configs 0).id = false := by
    rw [(shows.faces 1).registry]
    rfl
  have noticed : notice.Short := ControlFrame.Brief.short (by decide_cbv)
  have asks : (join (configs 0)).Short := ControlFrame.Brief.short (by decide_cbv)
  have talks : (saying (configs 1) (asked (configs 1) (configs 0)).registry .join).Short :=
    ControlFrame.Brief.short (by decide_cbv)
  have thanks : (saying (configs 0)
      (hearing (told (configs 0)).registry (reply (configs 1) (configs 0))) .join).Short :=
    ControlFrame.Brief.short (by decide_cbv)
  have answers := Node.short_heartbeat talks
  have toSecond : ((told (configs 0)).queued.filter fun item =>
      item.1 = (configs 1).listenAddress) = [((configs 1).listenAddress, join (configs 0))] := by
    cbv
  have toFirst : ((asked (configs 1) (configs 0)).queued.filter fun item =>
      item.1 = (configs 0).listenAddress) =
        [((configs 0).listenAddress, reply (configs 1) (configs 0))] := by
    cbv
  obtain ⟨after, hears, shows⟩ := shows.reads rfl noticed (by decide) (by decide) asks
  rw [update_pair_first, update_pair_first] at shows
  have asking : (after.nodes 0).controlDatagram .first .join = .ok (join (configs 0)).wire :=
    Node.controlDatagram_saying _ (shows.faces 0).configured (shows.faces 0).registry asks 0
  obtain ⟨drain, reaching, sends, shows⟩ := shows.sends 0 1 toSecond
  rw [update_pair_first, update_pair_second] at shows
  obtain ⟨met, meets, shows⟩ := shows.reads rfl asks (by decide) (by decide) talks
  rw [update_pair_second, update_pair_second] at shows
  have answering : (met.nodes 1).controlDatagram .first .heartbeat =
      .ok (reply (configs 1) (configs 0)).wire :=
    Node.controlDatagram_saying _ (shows.faces 1).configured (shows.faces 1).registry answers 0
  obtain ⟨back, returning, returns, shows⟩ := shows.sends 1 0 toFirst
  rw [update_pair_second, update_pair_first] at shows
  obtain ⟨closed, closes, -⟩ := shows.reads rfl answers (by decide) (by decide) thanks
  have introduces : Introduces configs 0 1 notice := ⟨by decide, by decide, by decide, by decide⟩
  obtain ⟨-, answered⟩ := gossip_closes_one_hop reached (by decide) strange alsoStrange
    (.refl start) strange noticed.read? introduces hears
  obtain ⟨-, ends⟩ :=
    answered _ _ asking reaching .first met _ (leads_of_sends sends) meets answering
  obtain ⟨knows, alsoKnows, -⟩ :=
    ends returning .first closed closed (leads_of_sends returns) closes
    (.refl closed)
  obtain ⟨first, told⟩ := hears.made
  obtain ⟨second, asked⟩ := meets.made
  obtain ⟨third, replied⟩ := closes.made
  refine ⟨start, reached, strange, alsoStrange,
    .read 0 .first first :: ([.take 0 drain, .transmit 0 drain] ++
      (.read 1 .first second :: ([.take 1 back, .transmit 1 back] ++ [.read 0 .first third]))),
    closed, ?_, knows, alsoKnows⟩
  rw [steps?_cons told, steps?_append sends, steps?_cons asked, steps?_append returns,
    steps?_cons replied, steps?]

end Neighbours

end Fabric

end ClusterCoordination
