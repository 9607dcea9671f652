import ClusterCoordination.Proofs.Archive.Payload
import ClusterCoordination.Proofs.Cluster.Forwarding
import ClusterCoordination.Proofs.Cluster.Silence
/-!
# The order of messages

Along a run in which two nodes can reach each other, what one sends to the address of the other is
handed over there in the order in which it was sent, once for each member that was sent to, and
whatever the handlers do.
-/

set_option autoImplicit false

namespace ClusterCoordination

def InboundMessage.Carries (id : MemberId) (message : InboundMessage)
    (sent : Scope × Payload) : Prop :=
  message.sender = id ∧ message.scope = sent.1 ∧
    sent.2.type.decode message.payload = .ok sent.2.value

namespace Registry

variable {registry : Registry} {id : MemberId} {member : Member}

theorem mem_of_get? (known : registry.get? id = some member) :
    member ∈ registry.members ∧ member.id = id := by
  obtain ⟨record, found, rfl⟩ := Option.map_eq_some_iff.mp known
  obtain ⟨present, named⟩ := record?_eq_some found
  exact ⟨registry.members_perm.mem_iff.mpr (List.mem_map_of_mem present), named⟩

theorem filter_members (unique : registry.UniqueIds) (known : registry.get? id = some member)
    {picks : Member → Bool} (picked : picks member = true)
    (sole : ∀ other ∈ registry.members, picks other = true → other.id = id) :
    registry.members.filter picks = [member] := by
  obtain ⟨listed, rfl⟩ := mem_of_get? known
  have single : (registry.members.map Member.id).Nodup :=
    registry.members_ids_perm.nodup_iff.mpr unique
  apply List.perm_singleton.mp
  rw [List.perm_ext_iff_of_nodup (single.of_map.filter picks) (List.nodup_singleton _)]
  intro other
  simp only [List.mem_filter, List.mem_singleton]
  constructor
  · rintro ⟨among, chosen⟩
    exact List.inj_on_of_nodup_map single among listed (sole other among chosen)
  · rintro rfl
    exact ⟨listed, picked⟩

end Registry

theorem Node.mem_recipients_some {node : Node} {asked : MemberId} {member : Member} :
    member ∈ node.recipients (some asked) ↔
      node.registry.get? asked = some member ∧ member.alive = true := by
  simp only [recipients, aliveMember]
  cases found : node.registry.get? asked with
  | none => simp [Except.toOption]
  | some known =>
    dsimp only
    by_cases lives : known.alive = true
    · simp only [lives, if_true, Except.toOption, Option.toList_some, List.mem_singleton,
        Option.some.injEq]
      constructor
      · rintro rfl
        exact ⟨rfl, lives⟩
      · exact fun both => both.1.symm
    · simp only [lives, Except.toOption, Option.some.injEq]
      constructor
      · simp
      · rintro ⟨rfl, alive⟩
        exact absurd alive lives

theorem Node.recipients_there {node : Node} (unique : node.registry.UniqueIds) {id : MemberId}
    {member : Member} (known : node.registry.get? id = some member) (alive : member.alive = true)
    (other : id ≠ node.id)
    (sole : ∀ neighbour ∈ node.registry.members, neighbour.alive = true →
      neighbour.address = member.address → neighbour.id = id) (target : Option MemberId) :
    ((node.recipients target).filter fun neighbour => neighbour.address = member.address) =
      if target = none ∨ target = some id then [member] else [] := by
  obtain ⟨-, named⟩ := Registry.mem_of_get? known
  cases target with
  | none =>
    rw [if_pos (.inl rfl), recipients, alivePeers, List.filter_filter]
    refine Registry.filter_members unique known (by simp [alive, other, named]) ?_
    intro neighbour among picked
    simp only [Bool.and_eq_true, decide_eq_true_eq] at picked
    exact sole neighbour among picked.2.1 picked.1
  | some asked =>
    by_cases same : asked = id
    · subst same
      simp [recipients, aliveMember, known, alive, Except.toOption]
    · rw [if_neg (by simp [same])]
      apply List.filter_eq_nil_iff.mpr
      intro neighbour among there
      obtain ⟨found, lives⟩ := mem_recipients_some.mp among
      obtain ⟨listed, rfl⟩ := Registry.mem_of_get? found
      exact same (sole neighbour listed lives (of_decide_eq_true there))

def InboundMessage.onScope (scope : Scope) (messages : List InboundMessage) : List InboundMessage :=
  messages.filter fun message => message.scope = scope

def sentOn (scope : Scope) (sent : List (Scope × Payload)) : List (Scope × Payload) :=
  sent.filter fun value => value.1 = scope

namespace Fabric

variable {count : Nat}

section

variable (configs : Fin count → Config) (sender receiver : Fin count)

/--
The values that the sender sends to members with the receiver's address, once for each of them.
-/
def sentThere (fabric : Fabric count) : Move count → List (Scope × Payload)
  | .message mover scope message target =>
    if mover = sender then
      (((fabric.nodes sender).recipients target).filter fun member =>
        member.address = (configs receiver).listenAddress).map fun _ => (scope, message)
    else []
  | _ => []

/-- The values that the sender sends to the receiver, or to everybody. -/
def sentTo (_ : Fabric count) : Move count → List (Scope × Payload)
  | .message mover scope message target =>
    if mover = sender ∧
      (target = none ∨ target = some (configs receiver).id) then [(scope, message)]
    else []
  | _ => []

def posted (fabric : Fabric count) (move : Move count) : List InboundMessage :=
  (fabric.flow sender move).posted (configs receiver).listenAddress

def handedOn (scope : Scope) (fabric : Fabric count) (moves : List (Move count)) :
    List InboundMessage :=
  InboundMessage.onScope scope (fabric.trace (handedOver configs sender receiver) moves)

def underwayOn (scope : Scope) (fabric : Fabric count) : List InboundMessage :=
  InboundMessage.onScope scope (fabric.underway configs sender receiver)

/-- No other member that the sender believes to be alive has the receiver's address. -/
def Sole (fabric : Fabric count) : Prop :=
  ∀ member ∈ (fabric.nodes sender).registry.members, member.alive = true →
    member.address = (configs receiver).listenAddress → member.id = (configs receiver).id

end

section

variable {configs : Fin count → Config} {sender receiver : Fin count}
  {before after start last : Fabric count} {move : Move count} {moves : List (Move count)}

theorem Step.carries (step : Step before move after) (wired : before.Wired configs) :
    List.Forall₂ (InboundMessage.Carries (configs sender).id)
      (before.posted configs sender receiver move)
      (before.sentThere configs sender receiver move) := by
  cases step with
  | @messaged mover scope message target node number _ done =>
    by_cases mine : mover = sender
    · subst mine
      obtain ⟨payload, -, encoded, -⟩ := Node.sendMessage_eq_ok done
      have carries : InboundMessage.Carries (configs mover).id
          ⟨(before.nodes mover).id, scope, payload⟩ (scope, message) :=
        ⟨congrArg Config.id (wired.sane mover).configured, rfl,
          PayloadType.decode_of_encode encoded⟩
      simp only [posted, flow, Move.index?, if_true, Node.letters, encoded, sentThere,
        List.forall₂_map_left_iff, List.forall₂_map_right_iff, List.forall₂_same]
      exact fun _ _ => carries
    · simp [posted, flow, Move.index?, mine, sentThere, Node.Flow.none]
  | _ =>
    simp only [posted, flow, sentThere]
    split <;> exact .nil

theorem carries_along (wired : start.Wired configs) (made : start.steps? moves = some last) :
    List.Forall₂ (InboundMessage.Carries (configs sender).id)
      (start.trace (posted configs sender receiver) moves)
      (start.trace (sentThere configs sender receiver) moves) := by
  induction moves generalizing start with
  | nil => exact .nil
  | cons move rest ih =>
    obtain ⟨middle, first, later⟩ := steps?_cons_eq_some made
    have step := step_of_step? first
    rw [trace_cons first, trace_cons first]
    exact List.rel_append (step.carries wired) (ih (wired.step step) later)

theorem conserves_along (wired : start.Wired configs)
    (named : ∀ other, other ≠ sender → (configs other).id ≠ (configs sender).id)
    (settled : start.Settled configs sender receiver)
    (calm : start.Along (Calm configs sender receiver) (Clean configs sender receiver) moves)
    (made : start.steps? moves = some last) :
    start.trace (handedOver configs sender receiver) moves ++
      last.underway configs sender receiver =
      start.underway configs sender receiver ++
        start.trace (posted configs sender receiver) moves := by
  induction moves generalizing start with
  | nil =>
    obtain rfl := Option.some.inj made
    exact (List.append_nil _).symm
  | cons move rest ih =>
    obtain ⟨middle, first, later⟩ := steps?_cons_eq_some made
    obtain ⟨calm, clean, along⟩ := (along_cons first).mp calm
    have step := step_of_step? first
    have conserves := step.conserves wired named calm clean along.begins settled
    have rests :=
      ih (wired.step step) (step.settled wired calm clean along.begins settled) along later
    rw [trace_cons first, trace_cons first, List.append_assoc, rests, ← List.append_assoc,
      conserves, List.append_assoc]
    rfl

theorem trace_posted_of_forwards (forwards : ∀ move ∈ moves, move.Forwards sender receiver)
    (made : start.steps? moves = some last) :
    start.trace (posted configs sender receiver) moves = [] := by
  induction moves generalizing start with
  | nil => rfl
  | cons move rest ih =>
    obtain ⟨middle, first, later⟩ := steps?_cons_eq_some made
    have forward := forwards move List.mem_cons_self
    have silent : start.posted configs sender receiver move = [] := by
      simp only [posted, flow]
      cases move <;> first | exact forward.elim | (split <;> rfl)
    rw [trace_cons first, silent,
      ih (fun other among => forwards other (List.mem_cons_of_mem move among)) later]
    rfl

theorem sentThere_eq (wired : start.Wired configs) (apart : sender ≠ receiver)
    (named : ∀ other, other ≠ sender → (configs other).id ≠ (configs sender).id)
    (calm : start.Calm configs sender receiver) (sole : start.Sole configs sender receiver)
    (move : Move count) :
    start.sentThere configs sender receiver move = start.sentTo configs sender receiver move := by
  cases move with
  | message mover scope message target =>
    simp only [sentThere, sentTo]
    by_cases mine : mover = sender
    · obtain ⟨member, known, alive, here⟩ := calm.registered
      have other : (configs receiver).id ≠ (start.nodes sender).id := by
        rw [Node.id, (wired.sane sender).configured]
        exact named receiver apart.symm
      have there := Node.recipients_there (wired.sane sender).unique known alive other
        (here ▸ sole) target
      rw [here] at there
      rw [if_pos mine, there]
      split <;> simp_all
    · simp [mine]
  | _ => rfl

theorem trace_sentThere (wired : start.Wired configs) (apart : sender ≠ receiver)
    (named : ∀ other, other ≠ sender → (configs other).id ≠ (configs sender).id)
    (calm : start.Along (Calm configs sender receiver) (Clean configs sender receiver) moves)
    (sole : start.Along (Sole configs sender receiver) (fun _ _ => True) moves) :
    start.trace (sentThere configs sender receiver) moves =
      start.trace (sentTo configs sender receiver) moves := by
  induction moves generalizing start with
  | nil => rfl
  | cons move rest ih =>
    obtain ⟨calm, -, after, made, along⟩ := calm
    obtain ⟨sole, -, alone⟩ := (along_cons made).mp sole
    rw [trace_cons made, trace_cons made, sentThere_eq wired apart named calm sole,
      ih (wired.step (step_of_step? made)) along alone]

/--
On every scope the receiver hands over, in order and once each, what was underway and what the
sender has sent to its address since, and whatever has yet to be handed over can be.
-/
theorem run_hands_over_in_order (reached : Reachable configs start) (apart : sender ≠ receiver)
    (named : ∀ other, other ≠ sender → (configs other).id ≠ (configs sender).id)
    (settled : start.Settled configs sender receiver)
    (calm : start.Along (Calm configs sender receiver) (Clean configs sender receiver) moves)
    (made : start.steps? moves = some last) (scope : Scope) :
    (start.Along (Sole configs sender receiver) (fun _ _ => True) moves →
      start.trace (sentThere configs sender receiver) moves =
        start.trace (sentTo configs sender receiver) moves) ∧
    ∃ letters,
      List.Forall₂ (InboundMessage.Carries (configs sender).id) letters
        (sentOn scope (start.trace (sentThere configs sender receiver) moves)) ∧
      start.handedOn configs sender receiver scope moves <+:
        start.underwayOn configs sender receiver scope ++ letters ∧
      (last.underway configs sender receiver = [] →
        start.handedOn configs sender receiver scope moves =
          start.underwayOn configs sender receiver scope ++ letters) ∧
      ∃ more final, (∀ move ∈ more, move.Forwards sender receiver) ∧
        start.Along (Calm configs sender receiver) (Clean configs sender receiver) (moves ++ more) ∧
        start.steps? (moves ++ more) = some final ∧
        start.handedOn configs sender receiver scope (moves ++ more) =
          start.underwayOn configs sender receiver scope ++ letters := by
  have wired := wired_of_reachable reached
  have carries : List.Forall₂ (InboundMessage.Carries (configs sender).id)
      (start.trace (posted configs sender receiver) moves)
      (start.trace (sentThere configs sender receiver) moves) := carries_along wired made
  have finished {run : List (Move count)} {final : Fabric count}
      (along : start.Along (Calm configs sender receiver) (Clean configs sender receiver) run)
      (ran : start.steps? run = some final) (done : final.underway configs sender receiver = [])
      (same : start.trace (posted configs sender receiver) run =
        start.trace (posted configs sender receiver) moves) :
      start.handedOn configs sender receiver scope run =
        start.underwayOn configs sender receiver scope ++
          InboundMessage.onScope scope (start.trace (posted configs sender receiver) moves) := by
    have whole := conserves_along wired named settled along ran
    rw [done, List.append_nil, same] at whole
    exact (congrArg (InboundMessage.onScope scope) whole).trans (List.filter_append ..)
  refine ⟨trace_sentThere wired apart named calm,
    InboundMessage.onScope scope (start.trace (posted configs sender receiver) moves), ?_, ?_,
    fun done => finished calm made done rfl, ?_⟩
  · apply List.rel_filter _ carries
    rintro message ⟨on, value⟩ ⟨-, same, -⟩
    simp [same]
  · have whole := congrArg (InboundMessage.onScope scope)
      (conserves_along wired named settled calm made)
    refine ⟨last.underwayOn configs sender receiver scope, ?_⟩
    exact (List.filter_append ..).symm.trans (whole.trans (List.filter_append ..))
  · obtain ⟨more, final, forwards, later, done⟩ :=
      finishes (wired.steps made) apart (calm.ends made)
    have ran : start.steps? (moves ++ more) = some final := (steps?_append made).trans later
    have along := calm.append made (along_of_forwards apart (calm.ends made) forwards later)
    refine ⟨more, final, forwards, along, ran, finished along ran done ?_⟩
    rw [trace_append made, trace_posted_of_forwards forwards later, List.append_nil]

end

namespace Neighbours

open Cluster (loopback localNode)

def configs : Fin 2 → Config
  | 0 => localNode "a" 1 1 []
  | 1 => localNode "b" 2 2 []

/-- A member lets the first node know that it is reached where the second one listens. -/
def greeting (id : String) : List (Move 2) :=
  [.outside (.send 2 (loopback 1) (ControlFrame.wire ⟨⟨id⟩, "", loopback 2, .heartbeat, []⟩)),
    .read 0 .first 0]

def opening : List (Move 2) :=
  [.start 0 .first 0, .start 1 .first 0, .outside (.bind (loopback 3))] ++ greeting "b"

theorem isSome_opening : ((created configs).steps? opening).isSome = true := by decide +kernel

/-- Both have started, and the first knows the second. -/
def met : Fabric 2 := ((created configs).steps? opening).get isSome_opening

theorem reachable_met : Reachable configs met := ⟨opening, (Option.some_get isSome_opening).symm⟩

def one : Scope := ⟨1, by decide⟩

def two : Scope := ⟨2, by decide⟩

def hello : Payload := ⟨.text, "hello"⟩

def bye : Payload := ⟨.text, "bye"⟩

def crashing : Handler :=
  ⟨.text, fun sender text => ⟨5, ⟨"crashing", sender, .text, text⟩, .crashed⟩⟩

/-- The handler of the first message crashes, and the second message is still in its queue. -/
def parting : List (Move 2) :=
  [.act 1 (.registerHandler one crashing), .message 0 one hello (some ⟨"b"⟩),
    .message 0 two bye (some ⟨"b"⟩), .take 0 0, .transmit 0 0,
    .outside (.send 2 (loopback 2) (Datagram.layout ⟨two.value, "c", [42]⟩)), .read 1 .first 0,
    .hand 1 0]

theorem isSome_parting : (met.steps? parting).isSome = true := by decide +kernel

theorem message_behind_crash_is_handed_over :
    Reachable configs met ∧ met.Settled configs 0 1 ∧
      met.Along (Calm configs 0 1) (Clean configs 0 1) parting ∧
      (∃ last, met.steps? parting = some last ∧ last.underwayOn configs 0 1 two ≠ []) ∧
      ∃ letter sent more, InboundMessage.Carries ⟨"a"⟩ letter sent ∧
        sentOn two (met.trace (sentThere configs 0 1) parting) = [sent] ∧
        met.handedOn configs 0 1 two (parting ++ more) = [letter] := by
  have settled : met.Settled configs 0 1 := by decide +kernel
  have calm : met.Along (Calm configs 0 1) (Clean configs 0 1) parting := by decide +kernel
  have made := (Option.some_get isSome_parting).symm
  obtain ⟨-, letters, carries, -, -, more, final, -, -, -, handed⟩ :=
    run_hands_over_in_order reachable_met (by decide) (by decide) settled calm made two
  have fresh : met.underwayOn configs 0 1 two = [] := by decide +kernel
  have single : (sentOn two (met.trace (sentThere configs 0 1) parting)).length = 1 := by
    decide +kernel
  obtain ⟨sent, only⟩ := List.length_eq_one_iff.mp single
  rw [only] at carries
  obtain ⟨letter, rest, carried, nothing, rfl⟩ := List.forall₂_cons_right_iff.mp carries
  obtain rfl := List.forall₂_nil_right_iff.mp nothing
  rw [fresh, List.nil_append] at handed
  exact ⟨reachable_met, settled, calm, ⟨_, made, by decide +kernel⟩, letter, sent, more, carried,
    only, handed⟩

/-- What is meant for another member with its address, a node hands over as well. -/
theorem message_for_other_member_is_handed_over :
    let crowded := (met.steps? (greeting "c")).getD met
    let moves : List (Move 2) :=
      [.message 0 one hello (some ⟨"c"⟩), .take 0 0, .transmit 0 0, .read 1 .first 0, .hand 1 0]
    Reachable configs crowded ∧ crowded.Settled configs 0 1 ∧ crowded.underway configs 0 1 = [] ∧
      crowded.Along (Calm configs 0 1) (Clean configs 0 1) moves ∧
      crowded.trace (sentTo configs 0 1) moves = [] ∧
      crowded.handedOn configs 0 1 one moves =
        [⟨⟨"a"⟩, one, [104, 101, 108, 108, 111, 0, 0, 5]⟩] := by
  intro crowded moves
  have greeted : met.steps? (greeting "c") = some crowded := by
    have able : (met.steps? (greeting "c")).isSome = true := by decide +kernel
    obtain ⟨after, made⟩ := Option.isSome_iff_exists.mp able
    simp only [crowded, made, Option.getD_some]
  have opened : (created configs).steps? opening = some met := (Option.some_get isSome_opening).symm
  refine ⟨⟨opening ++ greeting "c", (steps?_append opened).trans greeted⟩, ?_, ?_, ?_, ?_, ?_⟩
  · decide +kernel
  · decide +kernel
  · decide +kernel
  · exact List.isEmpty_iff.mp (by decide +kernel)
  · decide +kernel

end Neighbours

end Fabric

end ClusterCoordination
