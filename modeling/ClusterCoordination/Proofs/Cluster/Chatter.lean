import Mathlib
import ClusterCoordination.Proofs.Cluster.Silence
import ClusterCoordination.Proofs.Nodes.Faces
/-!
# Chatter

Control frames can go round for ever. Where a frame reaches another node than the one it is meant
for, they do so although all of them are delivered; where that cannot happen, they still do while
others wait.
-/

set_option autoImplicit false

namespace ClusterCoordination

namespace Cluster

variable {count : Nat}

def Shows (cluster : Cluster count) (configs : Fin count → Config)
    (faces : Fin count → Face) : Prop :=
  ∀ index, (cluster index).Shows (configs index) (faces index)

def Run.Control (run : Run count) : Prop := ∀ time, (ControlFrame.read? (run.data time)).isSome

variable {configs : Fin count → Config} {faces : Fin count → Face} {before : Cluster count}
variable {source target : Fin count} {frame : ControlFrame}

theorem Shows.listens_iff (shows : before.Shows configs faces) (index : Fin count)
    (address : SocketAddress) :
    before.Listens index address ↔ (configs index).listenAddress = address := by
  rw [Listens, (shows index).configured]
  exact and_iff_right (shows index).bound

/-! ### Passing frames -/

structure Passes (configs : Fin count → Config) (faces : Fin count → Face)
    (source target : Fin count) (frame : ControlFrame) : Prop where
  different : source ≠ target
  only : ((faces source).queued.filter fun item => item.1 = (configs target).listenAddress) =
    [((configs target).listenAddress, frame)]
  brief : frame.Brief
  foreign : frame.sender ≠ (configs target).id
  staying : frame.kind ≠ .leave
  talks : (saying (configs target) (hearing (faces target).registry frame) .join).Brief

instance : Decidable (Passes configs faces source target frame) :=
  decidable_of_iff
    (source ≠ target ∧
      ((faces source).queued.filter fun item => item.1 = (configs target).listenAddress) =
        [((configs target).listenAddress, frame)] ∧
      frame.Brief ∧ frame.sender ≠ (configs target).id ∧ frame.kind ≠ .leave ∧
      (saying (configs target) (hearing (faces target).registry frame) .join).Brief)
    ⟨fun ⟨different, only, brief, foreign, staying, talks⟩ =>
      ⟨different, only, brief, foreign, staying, talks⟩,
    fun passes => ⟨passes.different, passes.only, passes.brief, passes.foreign, passes.staying,
      passes.talks⟩⟩

def pass (configs : Fin count → Config) (source target : Fin count) (frame : ControlFrame)
    (faces : Fin count → Face) (index : Fin count) : Face :=
  if index = target then (faces target).hear (configs target) frame
  else if index = source then (faces source).without (configs target).listenAddress
  else faces index

theorem pass_target : pass configs source target frame faces target =
    (faces target).hear (configs target) frame :=
  if_pos rfl

theorem pass_source (different : source ≠ target) : pass configs source target frame faces source =
    (faces source).without (configs target).listenAddress :=
  (if_neg different).trans (if_pos rfl)

theorem pass_other {index : Fin count} (here : index ≠ target) (there : index ≠ source) :
    pass configs source target frame faces index = faces index :=
  (if_neg here).trans (if_neg there)

theorem Shows.passes (shows : before.Shows configs faces)
    (passes : Passes configs faces source target frame) :
    ∃ after, Delivers before source (configs target).listenAddress frame.wire after ∧
      after.Shows configs (pass configs source target frame faces) := by
  obtain ⟨drain, taken, sent⟩ := (shows source).sent passes.only
  have listens := (shows.listens_iff target _).mpr rfl
  refine ⟨_, .delivers drain target .first 0 taken listens, ?_⟩
  intro index
  by_cases here : index = target
  · subst here
    rw [pass_target, put_self, put_other _ passes.different.symm]
    exact (shows index).hears passes.brief.short passes.foreign passes.staying passes.talks.short
  · rw [put_other _ here]
    by_cases there : index = source
    · subst there
      rwa [pass_source passes.different, put_self]
    · rw [pass_other here there, put_other _ there]
      exact shows index

theorem waits_pass (passes : Passes configs faces source target frame) {index : Fin count}
    {item : SocketAddress × ControlFrame} (waits : item ∈ (faces index).queued) :
    (index = source ∧ item = ((configs target).listenAddress, frame)) ∨
      item ∈ (pass configs source target frame faces index).queued := by
  by_cases here : index = target
  · subst here
    rw [pass_target]
    exact .inr (List.mem_append_right _ (List.mem_append_right _ waits))
  · by_cases there : index = source
    · subst there
      rw [pass_source passes.different]
      by_cases same : item.1 = (configs target).listenAddress
      · have among : item ∈ [((configs target).listenAddress, frame)] := by
          rw [← passes.only]
          exact List.mem_filter.mpr ⟨waits, by simpa using same⟩
        exact .inl ⟨rfl, List.mem_singleton.mp among⟩
      · exact .inr (List.mem_filter.mpr ⟨waits, by simpa using same⟩)
    · rw [pass_other here there]
      exact .inr waits

/-! ### Prefixes of runs -/

def Run.cons {address : SocketAddress} {data : Bytes} (run : Run count)
    (first : Delivers before source address data (run.state 0)) : Run count where
  state
    | 0 => before
    | time + 1 => run.state time
  source
    | 0 => source
    | time + 1 => run.source time
  address
    | 0 => address
    | time + 1 => run.address time
  data
    | 0 => data
    | time + 1 => run.data time
  delivers
    | 0 => first
    | time + 1 => run.delivers time

theorem Run.Fair.cons {run : Run count} (fair : run.Fair) (shows : before.Shows configs faces)
    (passes : Passes configs faces source target frame)
    (showsNext : (run.state 0).Shows configs (pass configs source target frame faces))
    (first : Delivers before source (configs target).listenAddress frame.wire (run.state 0)) :
    (run.cons first).Fair := by
  intro time sender address data receiver waits listens
  have later {start : Nat} (waits : (address, data) ∈ (run.state start sender).outbox.queued)
      (listens : (run.state start).Listens receiver address) :
      ∃ later, start + 1 ≤ later ∧ (run.cons first).source later = sender ∧
        (run.cons first).address later = address ∧ (run.cons first).data later = data := by
    obtain ⟨time, after, happens⟩ := fair start sender address data receiver waits listens
    exact ⟨time + 1, Nat.succ_le_succ after, happens⟩
  cases time with
  | succ time => exact later waits listens
  | zero =>
    replace waits : (address, data) ∈ (before sender).outbox.queued := waits
    rw [(shows sender).queued] at waits
    obtain ⟨other, among, rfl⟩ := Node.mem_onWire.mp waits
    -- It is the frame that is passed first, or it still waits when the rest of the run begins.
    rcases waits_pass passes among with ⟨rfl, same⟩ | stays
    · obtain ⟨rfl, rfl⟩ := Prod.mk.inj same
      exact ⟨0, Nat.le_refl 0, rfl, rfl, rfl⟩
    · have still : (address, other.wire) ∈ (run.state 0 sender).outbox.queued := by
        rw [(showsNext sender).queued]
        exact Node.mem_onWire.mpr ⟨other, stays, rfl⟩
      have hears := (showsNext.listens_iff receiver address).mpr
        ((shows.listens_iff receiver address).mp listens)
      obtain ⟨time, -, happens⟩ := later still hears
      exact ⟨time, Nat.zero_le time, happens⟩

def play? (configs : Fin count → Config) :
    List (Fin count × Fin count) → Vector Face count → Option (Vector Face count)
  | [], faces => some faces
  | (source, target) :: script, faces =>
    match (faces.get source).queued.find? fun item => item.1 = (configs target).listenAddress with
    | some (_, frame) =>
      if Passes configs faces.get source target frame then
        play? configs script (.ofFn (pass configs source target frame faces.get))
      else none
    | none => none

/-- Control frames can be delivered without end, and if `fairly` without leaving any to wait. -/
def Endless (cluster : Cluster count) (fairly : Prop) : Prop :=
  ∃ run : Run count, run.state 0 = cluster ∧ run.Control ∧ (fairly → run.Fair)

variable {fairly : Prop}

theorem Endless.of_pass (shows : before.Shows configs faces)
    (passes : Passes configs faces source target frame)
    (goes : ∀ after : Cluster count,
      after.Shows configs (pass configs source target frame faces) → after.Endless fairly) :
    before.Endless fairly := by
  obtain ⟨after, first, showsNext⟩ := shows.passes passes
  obtain ⟨run, rfl, control, fair⟩ := goes after showsNext
  refine ⟨run.cons first, rfl, ?_,
    fun demanded => (fair demanded).cons shows passes showsNext first⟩
  intro time
  cases time with
  | zero => exact Option.isSome_of_eq_some passes.brief.short.read?
  | succ time => exact control time

theorem get_ofFn {α : Type} (f : Fin count → α) : (Vector.ofFn f).get = f :=
  funext (Vector.get_ofFn f)

theorem Endless.of_play {script : List (Fin count × Fin count)} {begins ends : Vector Face count}
    (played : play? configs script begins = some ends) (shows : before.Shows configs begins.get)
    (goes : ∀ after : Cluster count, after.Shows configs ends.get → after.Endless fairly) :
    before.Endless fairly := by
  induction script generalizing before begins with
  | nil =>
    obtain rfl := Option.some.inj played
    exact goes before shows
  | cons step script ih =>
    unfold play? at played
    split at played
    next frame _ =>
      split at played
      next passes =>
        refine .of_pass shows passes fun after showsNext => ih played ?_
        rwa [get_ofFn]
      next => simp at played
    next => simp at played

theorem exists_run_of_invariant {Holds : Cluster count → Prop}
    {Marks : Cluster count → Fin count → SocketAddress → Bytes → Prop}
    (step : ∀ before, Holds before → ∃ source address data after,
      Delivers before source address data after ∧ Marks before source address data ∧ Holds after)
    (begins : Holds before) :
    ∃ run : Run count, run.state 0 = before ∧
      ∀ time, Marks (run.state time) (run.source time) (run.address time) (run.data time) := by
  choose source address data after delivers marks holds using step
  let states (time : Nat) : { cluster : Cluster count // Holds cluster } :=
    Nat.rec ⟨before, begins⟩ (fun _ state => ⟨after state.1 state.2, holds state.1 state.2⟩) time
  exact ⟨⟨fun time => (states time).1, fun time => source _ (states time).2,
    fun time => address _ (states time).2, fun time => data _ (states time).2,
    fun time => delivers _ (states time).2⟩, rfl, fun time => marks _ (states time).2⟩

/-! ### Relays -/

/-- Frames that go round while the members of the nodes stay the same. -/
structure Relay (count : Nat) (Turn : Type) where
  configs : Fin count → Config
  registry : Fin count → Registry
  next : Turn → Turn
  source : Turn → Fin count
  target : Turn → Fin count
  kind : Turn → ControlKind
  -- Where the frames are sent that a node may leave waiting.
  idle : Fin count → List SocketAddress

namespace Relay

variable {Turn : Type} (relay : Relay count Turn)

def address (turn : Turn) : SocketAddress := (relay.configs (relay.target turn)).listenAddress

def spoken (turn : Turn) : ControlFrame :=
  saying (relay.configs (relay.source turn)) (relay.registry (relay.source turn)) (relay.kind turn)

def heard (turn : Turn) : Face :=
  Face.hear (relay.configs (relay.target turn)) (relay.spoken turn)
    ⟨relay.registry (relay.target turn), []⟩

/-- Whoever hears a frame sends the next one, and otherwise only what may wait. -/
structure Lasts : Prop where
  foreign : ∀ turn,
    (relay.configs (relay.source turn)).id ≠ (relay.configs (relay.target turn)).id
  staying : ∀ turn, relay.kind turn ≠ .leave
  onward : ∀ turn, relay.source (relay.next turn) = relay.target turn
  busy : ∀ turn, relay.address turn ∉ relay.idle (relay.source turn)
  talks : ∀ index, (saying (relay.configs index) (relay.registry index) .join).Brief
  keeps : ∀ turn, (relay.heard turn).registry = relay.registry (relay.target turn)
  replies : ∀ turn, (relay.heard turn).queued.head? =
    some (relay.address (relay.next turn), relay.spoken (relay.next turn))
  leaves : ∀ turn, (relay.heard turn).queued.tail.all fun item =>
    item.1 ∈ relay.idle (relay.target turn)

def Aside (waiting : Fin count → List (SocketAddress × ControlFrame)) : Prop :=
  ∀ index, ∀ item ∈ waiting index, item.1 ∈ relay.idle index

def shown (turn : Turn) (waiting : Fin count → List (SocketAddress × ControlFrame))
    (index : Fin count) : Face :=
  ⟨relay.registry index,
    (if index = relay.source turn then [(relay.address turn, relay.spoken turn)] else []) ++
      waiting index⟩

def left (turn : Turn) (waiting : Fin count → List (SocketAddress × ControlFrame))
    (index : Fin count) : List (SocketAddress × ControlFrame) :=
  if index = relay.target turn then (relay.heard turn).queued.tail ++ waiting index
  else waiting index

variable {relay} {waiting : Fin count → List (SocketAddress × ControlFrame)}

theorem Lasts.source_ne_target (lasts : relay.Lasts) (turn : Turn) :
    relay.source turn ≠ relay.target turn :=
  fun same => lasts.foreign turn (congrArg (fun index => (relay.configs index).id) same)

theorem Lasts.brief (lasts : relay.Lasts) (turn : Turn) : (relay.spoken turn).Brief := by
  have asks := lasts.talks (relay.source turn)
  rw [spoken, Node.saying_of_staying _ _ (lasts.staying turn)]
  exact ⟨asks.sender, asks.few, asks.peers⟩

theorem Aside.ne (aside : relay.Aside waiting) (lasts : relay.Lasts) (turn : Turn) :
    ∀ item ∈ waiting (relay.source turn), ¬ item.1 = relay.address turn := by
  intro item among same
  have idle := aside _ item among
  rw [same] at idle
  exact lasts.busy turn idle

theorem Aside.left (aside : relay.Aside waiting) (lasts : relay.Lasts) (turn : Turn) :
    relay.Aside (relay.left turn waiting) := by
  intro index item among
  unfold Relay.left at among
  split at among
  next here =>
    subst here
    rcases List.mem_append.mp among with new | old
    · exact of_decide_eq_true (List.all_eq_true.mp (lasts.leaves turn) item new)
    · exact aside _ item old
  next => exact aside index item among

theorem Lasts.passes (lasts : relay.Lasts) (aside : relay.Aside waiting) (turn : Turn) :
    Passes relay.configs (relay.shown turn waiting) (relay.source turn) (relay.target turn)
      (relay.spoken turn) where
  different := lasts.source_ne_target turn
  only := by
    have none :
        (waiting (relay.source turn)).filter (fun item => item.1 = relay.address turn) = [] :=
      List.filter_eq_nil_iff.mpr fun item among =>
        mt of_decide_eq_true (aside.ne lasts turn item among)
    unfold address at none
    simp [shown, address, none]
  brief := lasts.brief turn
  foreign := lasts.foreign turn
  staying := lasts.staying turn
  talks := by
    change (saying _ (relay.heard turn).registry .join).Brief
    rw [lasts.keeps]
    exact lasts.talks _

theorem Lasts.pass_shown (lasts : relay.Lasts) (aside : relay.Aside waiting) (turn : Turn) :
    pass relay.configs (relay.source turn) (relay.target turn) (relay.spoken turn)
        (relay.shown turn waiting) =
      relay.shown (relay.next turn) (relay.left turn waiting) := by
  funext index
  by_cases here : index = relay.target turn
  · subst here
    obtain ⟨spare, replied⟩ := List.head?_eq_some_iff.mp (lasts.replies turn)
    rw [pass_target, shown, if_neg (lasts.source_ne_target turn).symm, List.nil_append,
      Face.hear_append, shown, lasts.onward, if_pos rfl, Relay.left, if_pos rfl]
    change Face.mk (relay.heard turn).registry ((relay.heard turn).queued ++ _) = _
    rw [lasts.keeps, replied]
    rfl
  · have after : relay.shown (relay.next turn) (relay.left turn waiting) index =
        ⟨relay.registry index, waiting index⟩ := by
      simp [shown, Relay.left, lasts.onward, here]
    rw [after]
    by_cases there : index = relay.source turn
    · subst there
      have kept : (waiting (relay.source turn)).filter (fun item => ¬ item.1 = relay.address turn) =
          waiting (relay.source turn) :=
        List.filter_eq_self.mpr fun item among => decide_eq_true (aside.ne lasts turn item among)
      rw [pass_source (lasts.source_ne_target turn), shown, if_pos rfl]
      change Face.mk _ (List.filter (fun item => ¬ item.1 = relay.address turn) _) = _
      rw [List.filter_append, kept]
      simp
    · rw [pass_other here there, shown, if_neg there, List.nil_append]

def Unheard (relay : Relay count Turn) : Prop :=
  ∀ index, ∀ address ∈ relay.idle index, ∀ listener,
    (relay.configs listener).listenAddress ≠ address

theorem eq_of_waits (unheard : relay.Unheard) (aside : relay.Aside waiting) {turn : Turn}
    (shows : before.Shows relay.configs (relay.shown turn waiting)) {sender listener : Fin count}
    {address : SocketAddress} {data : Bytes}
    (waits : (address, data) ∈ (before sender).outbox.queued)
    (listens : before.Listens listener address) :
    relay.source turn = sender ∧ relay.address turn = address ∧
      (relay.spoken turn).wire = data := by
  rw [(shows sender).queued] at waits
  obtain ⟨frame, among, rfl⟩ := Node.mem_onWire.mp waits
  rcases List.mem_append.mp among with passing | waiting
  · split at passing
    next here =>
      obtain ⟨rfl, rfl⟩ := Prod.mk.inj (List.mem_singleton.mp passing)
      exact ⟨here.symm, rfl, rfl⟩
    next => simp at passing
  · have heard := (shows.listens_iff listener address).mp listens
    exact absurd heard (unheard sender address (aside sender _ waiting) listener)

theorem Lasts.endless (lasts : relay.Lasts) (aside : relay.Aside waiting) {turn : Turn}
    (shows : before.Shows relay.configs (relay.shown turn waiting)) :
    before.Endless relay.Unheard := by
  let Goes (cluster : Cluster count) : Prop :=
    ∃ turn waiting, relay.Aside waiting ∧ cluster.Shows relay.configs (relay.shown turn waiting)
  let Tells (cluster : Cluster count) (source : Fin count) (address : SocketAddress)
      (data : Bytes) : Prop :=
    (ControlFrame.read? data).isSome ∧ (relay.Unheard → ∀ sender other item listener,
      (other, item) ∈ (cluster sender).outbox.queued → cluster.Listens listener other →
        source = sender ∧ address = other ∧ data = item)
  have step (cluster : Cluster count) (goes : Goes cluster) : ∃ source address data after,
      Delivers cluster source address data after ∧ Tells cluster source address data ∧
        Goes after := by
    obtain ⟨turn, waiting, aside, shows⟩ := goes
    obtain ⟨after, delivers, next⟩ := shows.passes (lasts.passes aside turn)
    rw [lasts.pass_shown aside turn] at next
    refine ⟨_, _, _, after, delivers, ⟨?_, ?_⟩, relay.next turn, _, aside.left lasts turn, next⟩
    · exact Option.isSome_of_eq_some (lasts.brief turn).short.read?
    · intro unheard sender other item listener waits listens
      exact eq_of_waits unheard aside shows waits listens
  obtain ⟨run, begins, tells⟩ := exists_run_of_invariant step ⟨turn, waiting, aside, shows⟩
  refine ⟨run, begins, fun time => (tells time).1, ?_⟩
  intro unheard time sender other item listener waits listens
  exact ⟨time, Nat.le_refl time, (tells time).2 unheard sender other item listener waits listens⟩

end Relay

/-! ### Endless chatter -/

theorem shows_started
    (talks : ∀ index,
      (saying (configs index) (Face.start (configs index)).registry .join).Brief) :
    (started configs).Shows configs fun index => .start (configs index) := by
  intro index
  exact Node.shows_finishStart rfl index.val (talks index).short

def acquainted (config : Config) (others : List Config) : Registry :=
  others.foldl (fun registry other => (registry.join 0 other.member).1) (Face.start config).registry

def listener : Config := localNode "b" 8002 8002 ["127.0.0.1:8001"]

/-- It advertises the address at which the listener listens. -/
def impostor : Config := localNode "a" 8001 8002 []

def newcomer : Config := localNode "c" 8003 8003 ["127.0.0.1:8002"]

def impostors : Fin 3 → Config
  | 0 => impostor
  | 1 => listener
  | 2 => newcomer

/--
The listener tells the newcomer of the impostor. The newcomer asks at the address of the impostor,
and the listener answers, telling it of the impostor again.
-/
def misdelivery : Relay 3 (Fin 2) where
  configs := impostors
  registry
    | 0 => acquainted impostor [listener]
    | 1 => acquainted listener [impostor, newcomer]
    | 2 => acquainted newcomer [listener]
  next := Fin.rev
  source := Fin.succ
  target := fun turn => turn.rev.succ
  kind
    | 0 => .heartbeat
    | 1 => .join
  idle := fun _ => []

theorem misdelivery_lasts : misdelivery.Lasts where
  foreign := by decide
  staying := by decide
  onward := by decide
  busy := by decide
  talks := by decide_cbv
  keeps := by decide_cbv
  replies
    | 0 => by cbv
    | 1 => by cbv
  leaves
    | 0 => by cbv
    | 1 => by cbv

/--
Each of three nodes asks the one before, telling it of the next. As the answers wait, no node gets
to know whom it asks, and asks again as soon as it is told of it again.
-/
def gossip : Relay 4 (Fin 3) where
  configs := gossips
  registry
    | 0 => acquainted (gossips 0) [gossips 1, gossips 3]
    | 1 => acquainted (gossips 1) [gossips 2]
    | 2 => acquainted (gossips 2) [gossips 0]
    | 3 => acquainted (gossips 3) [gossips 2, gossips 0]
  next := (· + Fin.last 2)
  source := Fin.castSucc
  target := fun turn => (turn + Fin.last 2).castSucc
  kind := fun _ => .join
  idle
    | 0 => [loopback 8002]
    | 1 => [loopback 8003]
    | 2 => [loopback 8001, loopback 8004]
    | 3 => [loopback 8003]

theorem gossip_lasts : gossip.Lasts where
  foreign := by decide
  staying := by decide
  onward := by decide
  busy := by decide
  talks := by decide_cbv
  keeps := by decide_cbv
  replies
    | 0 => by cbv
    | 1 => by cbv
    | 2 => by cbv
  leaves
    | 0 => by cbv
    | 1 => by cbv
    | 2 => by cbv

theorem endless_impostors : (started impostors).Endless True := by
  have talks (index : Fin 3) :
      (saying (impostors index) (Face.start (impostors index)).registry .join).Brief := by
    revert index
    decide_cbv
  have shows := shows_started talks
  rw [← get_ofFn fun index => Face.start (impostors index)] at shows
  have played : play? impostors [(1, 0), (0, 1), (2, 1), (1, 2)]
      (.ofFn fun index => .start (impostors index)) =
        some (.ofFn (misdelivery.shown 1 fun _ => [])) := by
    cbv
  apply Endless.of_play played shows
  intro after shows
  rw [get_ofFn] at shows
  have aside : misdelivery.Aside fun _ => [] := fun _ _ among => absurd among List.not_mem_nil
  obtain ⟨run, begins, control, fair⟩ := misdelivery_lasts.endless aside shows
  exact ⟨run, begins, control, fun _ => fair fun _ _ among => absurd among List.not_mem_nil⟩

def gossipLeft : Fin 4 → List (SocketAddress × ControlFrame)
  | 0 => [(loopback 8002, saying (gossips 0) (gossip.registry 0) .heartbeat),
      (loopback 8002, saying (gossips 0) (acquainted (gossips 0) [gossips 1]) .heartbeat)]
  | 1 => [(loopback 8003, saying (gossips 1) (gossip.registry 1) .heartbeat)]
  | 2 => [(loopback 8004, saying (gossips 2) (gossip.registry 2) .join),
      (loopback 8001, saying (gossips 2) (gossip.registry 2) .heartbeat)]
  | 3 => [(loopback 8003, saying (gossips 3) (acquainted (gossips 3) [gossips 2]) .heartbeat)]

theorem endless_gossips : (started gossips).Endless False := by
  have talks (index : Fin 4) :
      (saying (gossips index) (Face.start (gossips index)).registry .join).Brief := by
    revert index
    decide_cbv
  have shows := shows_started talks
  rw [← get_ofFn fun index => Face.start (gossips index)] at shows
  have played : play? gossips [(2, 3), (0, 3), (1, 0), (3, 0), (0, 2), (2, 1), (1, 0)]
      (.ofFn fun index => .start (gossips index)) = some (.ofFn (gossip.shown 0 gossipLeft)) := by
    cbv
  apply Endless.of_play played shows
  intro after shows
  rw [get_ofFn] at shows
  have aside : gossip.Aside gossipLeft := by
    intro index
    fin_cases index <;> decide
  obtain ⟨run, begins, control, -⟩ := gossip_lasts.endless aside shows
  exact ⟨run, begins, control, False.elim⟩

/--
Without a timer frames can be delivered for ever, from the start of the nodes on, and all of them
can be written. They can although every frame is delivered, where two nodes advertise one address;
and where no node advertises an address at which another listens, they can while other frames wait.
-/
theorem chatter_can_be_endless :
    ((Function.Injective fun index => (impostors index).id) ∧
      (∀ index, (started impostors index).lifecycle = .running) ∧
      Reachable impostors (started impostors) ∧
      ∃ run : Run 3, run.state 0 = started impostors ∧ run.Control ∧ run.Articulate ∧ run.Fair) ∧
    (Function.Injective fun index => (gossips index).id) ∧ Apart gossips ∧
      (∀ index, (started gossips index).lifecycle = .running) ∧
      Reachable gossips (started gossips) ∧
      ∃ run : Run 4, run.state 0 = started gossips ∧ run.Control ∧ run.Articulate := by
  have misled : Reachable impostors (started impostors) := reachable_started (by decide)
  have told : Reachable gossips (started gossips) := reachable_started (by decide)
  obtain ⟨misdelivered, begun, controls, fair⟩ := endless_impostors
  obtain ⟨gossiped, started, alsoControls, -⟩ := endless_gossips
  have written := misdelivered.articulate (begun ▸ honest_of_reachable misled) (by decide)
  have alsoWritten := gossiped.articulate (started ▸ honest_of_reachable told) (by decide)
  exact ⟨⟨by decide, fun _ => rfl, misled, misdelivered, begun, controls, written, fair trivial⟩,
    by decide, by decide, fun _ => rfl, told, gossiped, started, alsoControls, alsoWritten⟩

end Cluster

end ClusterCoordination
