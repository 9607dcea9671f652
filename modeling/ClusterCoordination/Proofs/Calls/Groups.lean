import Mathlib.Logic.Relation
import ClusterCoordination.Proofs.Calls.Neighbours
/-!
# Calls made together

The calls that were made together go their ways in a run of the node. At every moment each of them
either waits, as the caller that began it does, or has been given the outcome of whoever resolved
it; the others are no matter to it.
-/

set_option autoImplicit false

namespace ClusterCoordination

/-! ### Polls in steps -/

namespace CallerPoint

inductive Rests : CallerPoint → Prop where
  | sending : Rests .sending
  | waiting : Rests .waiting
  | returned (result : CallResult) : Rests (.returned result)

def isPolled : CallerPoint → Bool
  | .sending | .refused _ | .waiting | .overdue | .late | .returned _ => true
  | .stopped _ | .dropped => false

/-- The most steps that a caller takes from here until it rests. -/
def ahead : CallerPoint → Nat
  | .sending => 5
  | .refused _ => 4
  | .waiting => 3
  | .overdue => 2
  | .late => 1
  | .returned _ | .stopped _ | .dropped => 0

end CallerPoint

namespace Node

theorem look_moves (node : Node) (now : Instant) {caller : Caller}
    (polled : caller.point.isPolled = true) :
    ∃ point, (node.look now caller).2 = caller.moveTo point ∧ point.isPolled = true ∧
      (point.ahead < caller.point.ahead ∨
        node.look now caller = (node, caller) ∧ caller.point.Rests) := by
  unfold look
  -- Each point leads to one with fewer steps ahead, except where the caller waits for something.
  cases here : caller.point with
  | sending =>
    dsimp only
    split
    next fault _ => exact ⟨.refused fault, rfl, rfl, .inl (Nat.le_of_ble_eq_true rfl)⟩
    next => exact ⟨.waiting, rfl, rfl, .inl (Nat.le_of_ble_eq_true rfl)⟩
    next =>
      split
      next => exact ⟨.sending, by rw [Caller.moveTo, ← here], rfl, .inr ⟨rfl, .sending⟩⟩
      next => exact ⟨.waiting, rfl, rfl, .inl (Nat.le_of_ble_eq_true rfl)⟩
  | refused fault =>
    dsimp only
    split
    · exact ⟨.returned _, rfl, rfl, .inl (Nat.le_of_ble_eq_true rfl)⟩
    · exact ⟨.waiting, rfl, rfl, .inl (Nat.le_of_ble_eq_true rfl)⟩
  | waiting =>
    dsimp only
    split
    · exact ⟨.returned _, rfl, rfl, .inl (Nat.le_of_ble_eq_true rfl)⟩
    · split
      next => exact ⟨.waiting, by rw [Caller.moveTo, ← here], rfl, .inr ⟨rfl, .waiting⟩⟩
      next => exact ⟨.overdue, rfl, rfl, .inl (Nat.le_of_ble_eq_true rfl)⟩
  | overdue =>
    dsimp only
    split
    · exact ⟨.returned _, rfl, rfl, .inl (Nat.le_of_ble_eq_true rfl)⟩
    · exact ⟨.late, rfl, rfl, .inl (Nat.le_of_ble_eq_true rfl)⟩
  | late =>
    dsimp only
    split <;> exact ⟨.returned _, rfl, rfl, .inl (Nat.le_of_ble_eq_true rfl)⟩
  | returned result =>
    refine ⟨.returned result, ?_, rfl, .inr ⟨rfl, .returned result⟩⟩
    change caller = caller.moveTo _
    rw [Caller.moveTo, ← here]
  | stopped result => simp [here, CallerPoint.isPolled] at polled
  | dropped => simp [here, CallerPoint.isPolled] at polled

theorem looks_rest (now : Instant) (steps : Nat) (node : Node) {caller : Caller}
    (polled : caller.point.isPolled = true) (enough : caller.point.ahead ≤ steps) :
    ∃ point, (looks now steps (node, caller)).2 = caller.moveTo point ∧ point.Rests := by
  induction steps generalizing node caller with
  | zero =>
    refine ⟨caller.point, rfl, ?_⟩
    cases here : caller.point <;> rw [here] at polled enough <;>
      simp_all [CallerPoint.ahead, CallerPoint.isPolled, CallerPoint.Rests.returned]
  | succ steps ih =>
    obtain ⟨point, moved, stays, nearer | ⟨still, rests⟩⟩ := node.look_moves now polled
    · have less : (caller.moveTo point).point.ahead ≤ steps :=
        Nat.le_of_lt_succ (Nat.lt_of_lt_of_le nearer enough)
      obtain ⟨last, found, rests⟩ := ih (node.look now caller).1 stays less
      refine ⟨last, ?_, rests⟩
      change (looks now steps ((node.look now caller).1, (node.look now caller).2)).2 = _
      rw [moved]
      exact found
    · exact ⟨caller.point, by rw [looks_of_look_eq still]; rfl, rests⟩

theorem looks_ofCall (node : Node) (now : Instant) (call : RemoteCall) :
    (∃ stage, (looks now 5 (node, .ofCall call)).2 = .ofCall { call with stage := stage }) ∨
      ∃ result, (looks now 5 (node, .ofCall call)).2 =
        (Caller.ofCall call).moveTo (.returned result) := by
  obtain ⟨id, target, deadline, stage⟩ := call
  have begins : (Caller.ofCall ⟨id, target, deadline, stage⟩).point.isPolled = true ∧
      (Caller.ofCall ⟨id, target, deadline, stage⟩).point.ahead ≤ 5 := by
    cases stage <;> exact ⟨rfl, Nat.le_of_ble_eq_true rfl⟩
  obtain ⟨point, found, rests⟩ := looks_rest now 5 node begins.1 begins.2
  rw [found]
  cases rests with
  | sending => exact .inl ⟨.sending, rfl⟩
  | waiting => exact .inl ⟨.waiting, rfl⟩
  | returned result => exact .inr ⟨result, rfl⟩

theorem branch_ofCall (call : RemoteCall) : (Caller.ofCall call).branch = .remotely call := by
  obtain ⟨id, target, deadline, stage⟩ := call
  cases stage <;> rfl

theorem pollBranch_of_going {node : Node} (going : node.stopRequested = false) (now : Instant)
    (call : RemoteCall) : node.pollBranch now (.remotely call) = node.pollRemote now call := by
  have still := (node.alikeBut_pollRemote now call).stopRequested.trans going
  unfold pollBranch unlessStopped
  dsimp only
  rw [still]
  rfl

end Node

/-! ### Claims stand -/

namespace CallWorld

section

variable {config : Config} {world after : CallWorld} {id : CallId}

theorem step_claims (step : world.Step after) : ∃ more, after.claims = world.claims ++ more := by
  cases step with
  | elapse | elsewhere | acknowledge | begin => exact ⟨[], (List.append_nil _).symm⟩
  | fail | look | drop | stop | respond | leave | die | expire | cancel => exact ⟨_, rfl⟩

theorem Sound.claimsOn_length_le (sound : world.Sound) (id : CallId) :
    (world.claimsOn id).length ≤ 1 := by
  cases claims : world.claimsOn id with
  | nil => exact Nat.zero_le 1
  | cons claim rest =>
    have among : claim ∈ world.claimsOn id := claims ▸ List.mem_cons_self
    obtain ⟨listed, same⟩ := List.mem_filter.mp among
    obtain ⟨caller, known⟩ := sound.claimed claim listed
    obtain ⟨named, -⟩ := sound.numbered _ caller known
    have own : caller.id = id := named.trans (of_decide_eq_true same)
    rcases sound.resolving _ caller known with outstanding | ⟨only, claimed⟩
    · have none := own ▸ outstanding.unclaimed
      rw [none] at claims
      simp at claims
    · have once := own ▸ claimed.once
      rw [← claims, once]
      exact Nat.le_refl 1

theorem claimsOn_of_longer {more : List Claim} (longer : after.claims = world.claims ++ more)
    (sound : after.Sound) {claim : Claim} (once : world.claimsOn id = [claim]) :
    after.claimsOn id = [claim] := by
  have few := sound.claimsOn_length_le id
  have split : after.claimsOn id = [claim] ++ more.filter fun claim => claim.call = id := by
    rw [← once]
    simp [claimsOn, longer]
  rw [split] at few ⊢
  rw [List.length_append, List.length_singleton] at few
  rw [List.eq_nil_of_length_eq_zero
    (by omega : (more.filter fun claim => claim.call = id).length = 0)]
  rfl

theorem claims_look (world : CallWorld) (id : CallId) :
    ∃ more, (world.look id).claims = world.claims ++ more := by
  unfold look
  split
  · exact ⟨[], (List.append_nil _).symm⟩
  · exact ⟨_, rfl⟩

theorem claims_looks (steps : Nat) (world : CallWorld) (id : CallId) :
    ∃ more, (world.looks steps id).claims = world.claims ++ more := by
  induction steps generalizing world with
  | zero => exact ⟨[], (List.append_nil _).symm⟩
  | succ steps ih =>
    obtain ⟨first, looked⟩ := world.claims_look id
    obtain ⟨rest, later⟩ := ih (world.look id)
    exact ⟨first ++ rest, by rw [looks, later, looked, List.append_assoc]⟩

end

def poll (world : CallWorld) (branch : Branch) : CallWorld :=
  match branch.callId? with
  | none => world
  | some id => world.looks 5 id

theorem reachable_poll {config : Config} {world : CallWorld} (reached : Reachable config world)
    (branch : Branch) : Reachable config (world.poll branch) := by
  unfold poll
  split
  · exact reached
  next id _ => exact reachable_looks reached 5 id

theorem claims_poll (world : CallWorld) (branch : Branch) :
    ∃ more, (world.poll branch).claims = world.claims ++ more := by
  unfold poll
  split
  · exact ⟨[], (List.append_nil _).symm⟩
  next id _ => exact claims_looks 5 world id

/-! ### Where a branch has got -/

/-- Where a branch of a call has got by now. -/
inductive Follows (world : CallWorld) : Branch → Branch → Prop where
  | settled (result : CallResult) : Follows world (.settled result) (.settled result)
  | broken : Follows world .broken .broken
  | working (due deadline : Instant) (ending : Ending) :
      Follows world (.locally due deadline ending) (.locally due deadline ending)
  | worked (due deadline : Instant) (outcome : Except Status Bytes) :
      Follows world (.locally due deadline (.returned outcome))
        (.settled (.ofOutcome outcome world.node.id))
  | crashed (due deadline : Instant) : Follows world (.locally due deadline .crashed) .broken
  | outlasted {due deadline : Instant} (ending : Ending) (late : deadline < due) :
      Follows world (.locally due deadline ending) (.settled (.error .timeout))
  | waiting (call : RemoteCall) (stage : CallStage)
      (known : world.callers call.id = some (.ofCall { call with stage := stage })) :
      Follows world (.remotely call) (.remotely { call with stage := stage })
  | resolved {call : RemoteCall} {claim : Claim} {result : CallResult}
      (once : world.claimsOn call.id = [claim])
      (means : claim.claimant.result call.target = some result) :
      Follows world (.remotely call) (.settled result)

section

variable {config : Config} {world after : CallWorld} {first branch : Branch}

theorem Follows.keep (follows : world.Follows first branch) (sound : after.Sound)
    (named : after.node.id = world.node.id) {more : List Claim}
    (longer : after.claims = world.claims ++ more)
    (kept : ∀ id, branch.callId? = some id → after.callers id = world.callers id) :
    after.Follows first branch := by
  cases follows with
  | settled result => exact .settled result
  | broken => exact .broken
  | working due deadline ending => exact .working due deadline ending
  | worked due deadline outcome => exact named ▸ .worked due deadline outcome
  | crashed due deadline => exact .crashed due deadline
  | outlasted ending late => exact .outlasted ending late
  | waiting call stage known => exact .waiting call stage ((kept call.id rfl).trans known)
  | resolved once means => exact .resolved (claimsOn_of_longer longer sound once) means

theorem Follows.waits (follows : world.Follows first branch) {id : CallId}
    (own : branch.callId? = some id) : ∃ call stage, first = .remotely call ∧
      branch = .remotely { call with stage := stage } ∧ call.id = id ∧
      world.callers id = some (.ofCall { call with stage := stage }) := by
  cases follows with
  | waiting call stage known =>
    obtain rfl : call.id = id := by simpa [Branch.callId?] using own
    exact ⟨call, stage, rfl, rfl, rfl, known⟩
  | settled | broken | working | worked | crashed | outlasted | resolved =>
    simp [Branch.callId?] at own

theorem poll_eq (follows : world.Follows first branch) (going : world.node.stopRequested = false) :
    (world.poll branch).now = world.now ∧ (world.poll branch).begun = world.begun ∧
      (world.poll branch).node = (world.node.pollBranch world.now branch).1 ∧
      ∀ id, branch.callId? ≠ some id → (world.poll branch).callers id = world.callers id := by
  have still (here : branch.callId? = none) :
      (world.poll branch).now = world.now ∧ (world.poll branch).begun = world.begun ∧
      (world.poll branch).node = (world.node.pollBranch world.now branch).1 ∧
      ∀ id, branch.callId? ≠ some id → (world.poll branch).callers id = world.callers id := by
    rw [Node.pollBranch_of_no_call here]
    simp [poll, here]
  cases follows with
  | waiting call stage known =>
    let caller : Caller := .ofCall { call with stage := stage }
    have own : world.callers caller.id = some caller := known
    obtain ⟨now, begun, node, -, others⟩ := looks_of_known 5 own
    refine ⟨now, begun, ?_, fun id different =>
      others id fun same => different (congrArg some same.symm)⟩
    rw [Node.pollBranch_of_going going, Node.pollRemote_eq_looks]
    exact node
  | settled | broken | working | worked | crashed | outlasted | resolved => exact still rfl

theorem id_poll (follows : world.Follows first branch) (going : world.node.stopRequested = false) :
    (world.poll branch).node.id = world.node.id := by
  rw [(poll_eq follows going).2.2.1]
  exact congrArg Config.id (world.node.polls_pollBranch world.now branch).notifies.config

theorem Follows.poll (follows : world.Follows first branch) (reached : Reachable config world)
    (going : world.node.stopRequested = false) :
    (world.poll branch).Follows first (world.node.pollBranch world.now branch).2 := by
  have sound := sound_of_reachable (reachable_poll reached branch)
  cases follows with
  | settled result => exact .settled result
  | broken => exact .broken
  | working due deadline ending =>
    simp only [Node.pollBranch]
    split
    next done =>
      cases ending with
      | returned outcome => exact .worked due deadline outcome
      | crashed => exact .crashed due deadline
    next early =>
      split
      next late => exact .outlasted ending (Nat.lt_of_le_of_lt late (Nat.not_le.mp early))
      next =>
        simp only [Node.unlessStopped, going]
        exact .working due deadline ending
  | worked due deadline outcome => exact .worked due deadline outcome
  | crashed due deadline => exact .crashed due deadline
  | outlasted ending late => exact .outlasted ending late
  | waiting call stage known =>
    let current : RemoteCall := { call with stage := stage }
    have own : world.callers (Caller.ofCall current).id = some (.ofCall current) := known
    obtain ⟨-, -, -, found, -⟩ := looks_of_known 5 own
    change (world.looks 5 call.id).callers call.id = _ at found
    rw [Node.pollBranch_of_going going, Node.pollRemote_eq_looks]
    rcases world.node.looks_ofCall world.now current with ⟨later, waits⟩ | ⟨result, returns⟩
    · rw [waits] at found ⊢
      rw [Node.branch_ofCall]
      exact .waiting call later found
    · rw [returns] at found ⊢
      -- Whoever resolved the call has told its caller, and that is what the poll returns.
      rcases sound.resolving _ _ found with outstanding | ⟨claim, claimed⟩
      · exact absurd outstanding.active (by simp [Caller.moveTo, CallerPoint.isOver])
      · exact .resolved claimed.once (claimed.fits rfl)
  | resolved once means =>
    obtain ⟨more, longer⟩ := world.claims_poll (.settled _)
    exact .resolved (claimsOn_of_longer longer sound once) means

end

end CallWorld

/-! ### A group of calls -/

/-- The calls that were made together, in a run of the node that made them. -/
structure CallGroup where
  world : CallWorld
  branches : List (MemberId × Branch)

namespace CallGroup

inductive Step (group : CallGroup) : CallGroup → Prop where
  -- The node, or the caller of another call, does something, or time passes.
  | elsewhere {after : CallWorld} (step : group.world.Step after)
      (named : after.node.id = group.world.node.id)
      (apart : ∀ id ∈ callIds group.branches, after.callers id = group.world.callers id) :
      Step group { group with world := after }
  -- One of the calls is polled, and the node has not been told to stop.
  | poll {place : Nat} {target : MemberId} {branch : Branch}
      (found : group.branches[place]? = some (target, branch))
      (going : group.world.node.stopRequested = false) :
      Step group ⟨group.world.poll branch, group.branches.set place
        (target, (group.world.node.pollBranch group.world.now branch).2)⟩

abbrev Leads : CallGroup → CallGroup → Prop := Relation.ReflTransGen Step

structure Kept (config : Config) (name : MemberId) (first : List (MemberId × Branch))
    (group : CallGroup) : Prop where
  reached : CallWorld.Reachable config group.world
  named : group.world.node.id = name
  apart : (callIds group.branches).Nodup
  placed : group.branches.length = first.length
  follows : ∀ (place : Nat) (one other : MemberId × Branch), first[place]? = some one →
    group.branches[place]? = some other → other.1 = one.1 ∧ group.world.Follows one.2 other.2

section

variable {config : Config} {name : MemberId} {first : List (MemberId × Branch)}
  {group after : CallGroup}

theorem Kept.find (kept : group.Kept config name first) {place : Nat} {other : MemberId × Branch}
    (found : group.branches[place]? = some other) :
    ∃ one, first[place]? = some one ∧ other.1 = one.1 ∧ group.world.Follows one.2 other.2 := by
  obtain ⟨inside, -⟩ := List.getElem?_eq_some_iff.mp found
  have there := List.getElem?_eq_getElem (kept.placed ▸ inside)
  exact ⟨_, there, kept.follows place _ other there found⟩

theorem Kept.known (kept : group.Kept config name first) {id : CallId}
    (among : id ∈ callIds group.branches) : ∃ caller, group.world.callers id = some caller := by
  obtain ⟨other, present, own⟩ := List.mem_filterMap.mp among
  obtain ⟨place, found⟩ := List.mem_iff_getElem?.mp present
  obtain ⟨one, -, -, follows⟩ := kept.find found
  obtain ⟨call, stage, -, -, -, known⟩ := follows.waits own
  exact ⟨_, known⟩

theorem callIds_set_sublist {branches : List (MemberId × Branch)} {place : Nat}
    {target : MemberId} {branch later : Branch} (found : branches[place]? = some (target, branch))
    (own : later.callId? = none ∨ later.callId? = branch.callId?) :
    (callIds (branches.set place (target, later))).Sublist (callIds branches) := by
  induction branches generalizing place with
  | nil => simp at found
  | cons other rest ih =>
    cases place with
    | zero =>
      obtain rfl : other = (target, branch) := by simpa using found
      rw [List.set_cons_zero, callIds, callIds, List.filterMap_cons, List.filterMap_cons]
      rcases own with none | same
      · simp only [none]
        split
        · exact List.Sublist.refl _
        · exact List.sublist_cons_self _ _
      · simp only [same]
        exact List.Sublist.refl _
    | succ place =>
      have shorter := ih (by simpa using found)
      rw [List.set_cons_succ, callIds, callIds, List.filterMap_cons, List.filterMap_cons]
      split
      · exact shorter
      · exact shorter.cons_cons _

theorem callIds_apart {branches : List (MemberId × Branch)} (apart : (callIds branches).Nodup)
    {first second : Nat} (different : first ≠ second) {one other : MemberId × Branch}
    (here : branches[first]? = some one) (there : branches[second]? = some other) {id : CallId}
    (own : one.2.callId? = some id) : other.2.callId? ≠ some id := by
  have pairwise := List.pairwise_iff_getElem.mp (List.pairwise_filterMap.mp apart)
  obtain ⟨inside, rfl⟩ := List.getElem?_eq_some_iff.mp here
  obtain ⟨within, rfl⟩ := List.getElem?_eq_some_iff.mp there
  intro same
  rcases Nat.lt_or_gt_of_ne different with before | behind
  · exact pairwise first second inside within before id own id same rfl
  · exact pairwise second first within inside behind id same id own rfl

theorem Kept.step (kept : group.Kept config name first) (step : group.Step after) :
    after.Kept config name first := by
  cases step with
  | @elsewhere world step named apart =>
    have reached := kept.reached.next step
    obtain ⟨more, longer⟩ := CallWorld.step_claims step
    refine ⟨reached, named.trans kept.named, kept.apart, kept.placed, ?_⟩
    intro place one other begun found
    obtain ⟨same, follows⟩ := kept.follows place one other begun found
    refine ⟨same, follows.keep (CallWorld.sound_of_reachable reached) named longer ?_⟩
    intro id own
    exact apart id (List.mem_filterMap.mpr ⟨other, List.mem_of_getElem? found, own⟩)
  | @poll place target branch found going =>
    obtain ⟨own, -, -, follows⟩ := kept.find found
    have reached := CallWorld.reachable_poll kept.reached branch
    have named := CallWorld.id_poll follows going
    obtain ⟨more, longer⟩ := group.world.claims_poll branch
    obtain ⟨-, -, -, others⟩ := CallWorld.poll_eq follows going
    have fewer := callIds_set_sublist found
      (group.world.node.pollBranch_callId? group.world.now branch)
    refine ⟨reached, named.trans kept.named, kept.apart.sublist fewer,
      (List.length_set ..).trans kept.placed, ?_⟩
    intro index one other begun present
    -- The branch that is polled goes on; the others stay where they are, as they are for other
    -- calls.
    by_cases here : index = place
    · subst here
      obtain ⟨same, follows⟩ := kept.follows index one _ begun found
      have polled : other = (target, (group.world.node.pollBranch group.world.now branch).2) := by
        obtain ⟨inside, -⟩ := List.getElem?_eq_some_iff.mp found
        simpa [List.getElem?_set, inside, eq_comm] using present
      rw [polled]
      exact ⟨same, follows.poll kept.reached going⟩
    · have there : group.branches[index]? = some other := by
        rwa [List.getElem?_set_ne (Ne.symm here)] at present
      obtain ⟨same, follows⟩ := kept.follows index one other begun there
      refine ⟨same, follows.keep (CallWorld.sound_of_reachable reached) named longer ?_⟩
      intro id theirs
      exact others id (callIds_apart kept.apart here there found theirs)

theorem Kept.leads (kept : group.Kept config name first) (leads : group.Leads after) :
    after.Kept config name first := by
  induction leads with
  | refl => exact kept
  | tail _ step ih => exact ih.step step

theorem claims_leads (leads : group.Leads after) :
    ∃ more, after.world.claims = group.world.claims ++ more := by
  induction leads with
  | refl => exact ⟨[], (List.append_nil _).symm⟩
  | @tail middle after _ step ih =>
    obtain ⟨earlier, longer⟩ := ih
    have grows : ∃ later, after.world.claims = middle.world.claims ++ later := by
      cases step with
      | elsewhere step => exact CallWorld.step_claims step
      | poll => exact CallWorld.claims_poll _ _
    obtain ⟨later, next⟩ := grows
    exact ⟨earlier ++ later, by rw [next, longer, List.append_assoc]⟩

theorem Kept.append (kept : group.Kept config name first) (target : MemberId)
    {begun branch : Branch} (follows : group.world.Follows begun branch)
    (apart : ∀ id, branch.callId? = some id → id ∉ callIds group.branches) :
    ({ group with branches := group.branches ++ [(target, branch)] } : CallGroup).Kept config name
      (first ++ [(target, begun)]) where
  reached := kept.reached
  named := kept.named
  apart := by
    have spread : callIds (group.branches ++ [(target, branch)]) =
        callIds group.branches ++ branch.callId?.toList := by
      unfold callIds
      rw [List.filterMap_append]
      cases own : branch.callId? <;> simp [own]
    rw [spread]
    refine List.nodup_append.mpr ⟨kept.apart, ?_, ?_⟩
    · cases branch.callId? <;> simp
    · rintro id among other own rfl
      exact apart id (Option.mem_toList.mp own) among
  placed := by simp [kept.placed]
  follows := by
    intro place one other here there
    rcases Nat.lt_trichotomy place first.length with inside | rfl | outside
    · rw [List.getElem?_append_left inside] at here
      rw [List.getElem?_append_left (kept.placed ▸ inside)] at there
      exact kept.follows place one other here there
    · rw [List.getElem?_concat_length] at here
      rw [← kept.placed, List.getElem?_concat_length] at there
      obtain rfl := Option.some.inj here
      obtain rfl := Option.some.inj there
      exact ⟨rfl, follows⟩
    · have beyond : (first ++ [(target, begun)])[place]? = none :=
        List.getElem?_eq_none (by simpa using Nat.succ_le_of_lt outside)
      rw [beyond] at here
      simp at here

theorem step_poll_last {branches : List (MemberId × Branch)} {world : CallWorld}
    (going : world.node.stopRequested = false) (target : MemberId) (branch : Branch) :
    (⟨world, branches ++ [(target, branch)]⟩ : CallGroup).Step ⟨world.poll branch,
      branches ++ [(target, (world.node.pollBranch world.now branch).2)]⟩ := by
  let group : CallGroup := ⟨world, branches ++ [(target, branch)]⟩
  have found : group.branches[branches.length]? = some (target, branch) :=
    List.getElem?_concat_length
  have polled : group.Step _ := .poll found going
  rwa [List.set_append_right _ _ (Nat.le_refl _), Nat.sub_self, List.set_cons_zero] at polled

theorem step_respond (group : CallGroup) (sender : MemberId) (response : Response) :
    group.Step { group with
      world := group.world.turn (group.world.node.onResponse sender response)
        (.response sender response.outcome) } := by
  refine .elsewhere (.respond sender response) ?_ fun _ _ => rfl
  change (group.world.node.onResponse sender response).id = group.world.node.id
  unfold Node.onResponse
  split <;> rfl

theorem Kept.leads_pollBranches {world : CallWorld} {before rest : List (MemberId × Branch)}
    (kept : (⟨world, before ++ rest⟩ : CallGroup).Kept config name first)
    (going : world.node.stopRequested = false) :
    ∃ polled : CallWorld, Leads ⟨world, before ++ rest⟩
        ⟨polled, before ++ (Node.pollBranches world.now rest world.node).2⟩ ∧
      polled.now = world.now ∧
      polled.node = (Node.pollBranches world.now rest world.node).1 := by
  induction rest generalizing world before with
  | nil => exact ⟨world, .refl, rfl, rfl⟩
  | cons next rest ih =>
    obtain ⟨target, branch⟩ := next
    let group : CallGroup := ⟨world, before ++ (target, branch) :: rest⟩
    have found : group.branches[before.length]? = some (target, branch) := by simp [group]
    obtain ⟨_, -, -, follows⟩ := kept.find found
    obtain ⟨now, -, node, -⟩ := CallWorld.poll_eq follows going
    have step : group.Step _ := .poll found going
    let one := (target, (world.node.pollBranch world.now branch).2)
    have placed : (before ++ (target, branch) :: rest).set before.length one =
        (before ++ [one]) ++ rest := by
      simp [List.set_append_right, one]
    dsimp only [group] at step
    rw [placed] at step
    have still : (world.poll branch).node.stopRequested = false := by
      rw [node]
      exact (world.node.polls_pollBranch world.now branch).notifies.stopRequested.trans going
    obtain ⟨polled, leads, later, last⟩ := ih (kept.step step) still
    rw [now, node] at leads last
    rw [List.append_assoc before [one] (Prod.snd _)] at leads
    exact ⟨polled, .head step leads, later.trans now, last⟩

end

end CallGroup

end ClusterCoordination
