import ClusterCoordination.Proofs.Calls.CallRuns
/-!
# The invariant of remote calls

A call is either in the table and nothing has been said to its caller, or one claimant has removed
it and the outcome is with the caller or on its way. Every step of a run preserves this.
-/

set_option autoImplicit false

namespace ClusterCoordination

/-- What a caller has come to agrees with who removed its call. -/
def Claimant.Fits (claimant : Claimant) (target : MemberId) : CallerPoint → Prop
  | .returned result => claimant.result target = some result
  | .stopped result => result = .error .cancelled
  | .dropped => True
  | .sending | .refused _ | .waiting | .overdue | .late => False

namespace CallWorld

structure Outstanding (world : CallWorld) (caller : Caller) : Prop where
  pending : caller.id ∈ world.node.pending.ids
  unclaimed : world.claimsOn caller.id = []
  undelivered : ∀ delivery ∈ world.node.deliveries, delivery.call ≠ caller.id
  active : caller.point.isOver = false
  intime : caller.point ≠ .late
  overdue : caller.point = .overdue → caller.deadline ≤ world.now

def Delivered (world : CallWorld) (id : CallId) (result : CallResult) : Prop :=
  (⟨id, result⟩ : Delivery) ∈ world.node.deliveries ∧
    ∀ delivery ∈ world.node.deliveries, delivery.call = id → delivery.result = result

structure Claimed (world : CallWorld) (caller : Caller) (claim : Claim) : Prop where
  gone : caller.id ∉ world.node.pending.ids
  once : world.claimsOn caller.id = [claim]
  past : claim.time ≤ world.now
  punctual : claim.claimant.timesOut = true → caller.deadline ≤ claim.time
  fits : caller.point.isOver = true → claim.claimant.Fits caller.target caller.point
  waits : caller.point.isOver = false → ∃ result,
    claim.claimant.result caller.target = some result ∧ world.Delivered caller.id result

def Resolving (world : CallWorld) (caller : Caller) : Prop :=
  world.Outstanding caller ∨ ∃ claim, world.Claimed caller claim

structure Sound (world : CallWorld) : Prop where
  counter : world.node.pending.nextId = UInt64.ofNat world.begun
  room : world.begun ≤ UInt64.size
  unique : world.node.pending.ids.Nodup
  numbered : ∀ id caller, world.callers id = some caller → caller.id = id ∧ id.toNat < world.begun
  owned : ∀ call ∈ world.node.pending.calls, ∃ caller, world.callers call.id = some caller ∧
    caller.target = call.target ∧ caller.deadline = call.deadline
  claimed : ∀ claim ∈ world.claims, ∃ caller, world.callers claim.call = some caller
  delivered : ∀ delivery ∈ world.node.deliveries, ∃ caller, world.callers delivery.call =
    some caller
  resolving : ∀ id caller, world.callers id = some caller → world.Resolving caller
  timedOut : world.node.traffic.timedOut =
    (world.claims.filter fun claim => claim.claimant.timesOut).length

structure Same (world after : CallWorld) (id : CallId) : Prop where
  pending : id ∈ after.node.pending.ids ↔ id ∈ world.node.pending.ids
  claims : after.claimsOn id = world.claimsOn id
  deliveries : ∀ delivery : Delivery, delivery.call = id →
    (delivery ∈ after.node.deliveries ↔ delivery ∈ world.node.deliveries)
  forward : world.now ≤ after.now

section

variable {world after : CallWorld} {caller : Caller}

theorem Same.delivered {id : CallId} {result : CallResult} (same : world.Same after id)
    (delivered : world.Delivered id result) : after.Delivered id result := by
  refine ⟨(same.deliveries _ rfl).mpr delivered.1, ?_⟩
  intro delivery present hit
  exact delivered.2 delivery ((same.deliveries delivery hit).mp present) hit

theorem Same.resolving (same : world.Same after caller.id) (resolving : world.Resolving caller) :
    after.Resolving caller := by
  rcases resolving with outstanding | ⟨claim, claimed⟩
  · left
    constructor
    case pending => exact same.pending.mpr outstanding.pending
    case unclaimed =>
      rw [same.claims]
      exact outstanding.unclaimed
    case undelivered =>
      intro delivery present hit
      exact outstanding.undelivered delivery ((same.deliveries delivery hit).mp present) hit
    case active => exact outstanding.active
    case intime => exact outstanding.intime
    case overdue =>
      intro overdue
      exact Nat.le_trans (outstanding.overdue overdue) same.forward
  · right
    refine ⟨claim, ?_⟩
    constructor
    case gone => exact mt same.pending.mp claimed.gone
    case once =>
      rw [same.claims]
      exact claimed.once
    case past => exact Nat.le_trans claimed.past same.forward
    case punctual => exact claimed.punctual
    case fits => exact claimed.fits
    case waits =>
      intro active
      obtain ⟨result, found, delivered⟩ := claimed.waits active
      exact ⟨result, found, same.delivered delivered⟩

end

section

variable {world : CallWorld}

theorem same_follow (world : CallWorld) (caller : Caller) (id : CallId) :
    world.Same (world.follow caller) id :=
  ⟨Iff.rfl, rfl, fun _ _ => Iff.rfl, Nat.le_refl _⟩

theorem callers_follow {caller found : Caller} {id : CallId}
    (known : (world.follow caller).callers id = some found) :
    (id = caller.id ∧ found = caller) ∨ (id ≠ caller.id ∧ world.callers id = some found) := by
  by_cases same : id = caller.id
  · exact .inl ⟨same, (Option.some.inj ((if_pos same).symm.trans known)).symm⟩
  · exact .inr ⟨same, (if_neg same).symm.trans known⟩

theorem follow_known {caller : Caller} (known : world.callers caller.id = some caller) :
    world.follow caller = world := by
  obtain ⟨now, node, begun, callers, claims⟩ := world
  simp only [follow, mk.injEq, true_and, and_true]
  funext id
  by_cases same : id = caller.id
  · rw [if_pos same, same]
    exact known.symm
  · rw [if_neg same]

theorem known_follow (caller : Caller) {id : CallId}
    (known : ∃ found, world.callers id = some found) :
    ∃ found, (world.follow caller).callers id = some found := by
  by_cases same : id = caller.id
  · exact ⟨caller, if_pos same⟩
  · obtain ⟨found, known⟩ := known
    exact ⟨found, (if_neg same).trans known⟩

theorem sound_start (config : Config) : (start config).Sound where
  counter := rfl
  room := by simp [start]
  unique := List.nodup_nil
  numbered := by simp [start]
  owned := by simp [start, Node.new, PendingCalls.empty]
  claimed := by simp [start]
  delivered := by simp [start, Node.new]
  resolving := by simp [start]
  timedOut := rfl

theorem sound_quiet (sound : world.Sound) {node : Node} (quiet : world.node.Quiet node)
    {later : Instant} (forward : world.now ≤ later) :
    ({ world with now := later, node := node } : CallWorld).Sound := by
  obtain ⟨pending, deliveries, timedOut⟩ := quiet
  constructor
  case counter => simpa only [pending] using sound.counter
  case room => exact sound.room
  case unique => simpa only [pending] using sound.unique
  case numbered => exact sound.numbered
  case owned => simpa only [pending] using sound.owned
  case claimed => exact sound.claimed
  case delivered => simpa only [deliveries] using sound.delivered
  case resolving =>
    intro id caller known
    refine Same.resolving ?_ (sound.resolving id caller known)
    exact ⟨by simp only [pending], rfl, by simp only [deliveries, implies_true], forward⟩
  case timedOut => simpa only [timedOut] using sound.timedOut

theorem claimsOn_turn (unique : world.node.pending.ids.Nodup) (node : Node) (claimant : Claimant)
    (id : CallId) :
    (world.turn node claimant).claimsOn id = world.claimsOn id ++
      if id ∈ world.node.pending.removed node.pending then [⟨id, claimant, world.now⟩] else [] :=
  claimsOn_claim unique id

theorem claimed_turn (sound : world.Sound) {node : Node} {claimant : Claimant} :
    ∀ claim ∈ (world.turn node claimant).claims, ∃ caller, world.callers claim.call =
      some caller := by
  intro claim present
  rcases List.mem_append.mp present with older | newer
  · exact sound.claimed claim older
  · obtain ⟨id, removed, rfl⟩ := List.mem_map.mp newer
    obtain ⟨call, listed, rfl⟩ := List.mem_map.mp (PendingCalls.mem_removed.mp removed).1
    obtain ⟨caller, known, _⟩ := sound.owned call listed
    exact ⟨caller, known⟩

section

variable {after : Node} {condition : PendingCall → Bool} {result : CallResult} {timeouts : Nat}

theorem same_resolves (unique : world.node.pending.ids.Nodup)
    (resolves : world.node.Resolves after condition result timeouts) (claimant : Claimant)
    {id : CallId}
    (spared : ∀ call ∈ world.node.pending.calls, call.id = id → condition call = false) :
    world.Same (world.turn after claimant) id := by
  -- Calls that do not satisfy the condition keep their entries, and nothing is delivered for them.
  have stays : id ∈ after.pending.ids ↔ id ∈ world.node.pending.ids := by
    simp only [PendingCalls.ids, resolves.calls, List.mem_map, List.mem_filter]
    constructor
    · rintro ⟨call, ⟨present, _⟩, same⟩
      exact ⟨call, present, same⟩
    · rintro ⟨call, present, same⟩
      exact ⟨call, ⟨present, by simp [spared call present same]⟩, same⟩
  refine ⟨stays, ?_, ?_, Nat.le_refl _⟩
  · rw [claimsOn_turn unique, if_neg, List.append_nil]
    rw [PendingCalls.mem_removed, stays]
    exact fun removed => removed.2 removed.1
  · intro delivery hit
    refine (resolves.delivered delivery).trans ?_
    constructor
    · rintro (older | ⟨call, present, chosen, rfl⟩)
      · exact older
      · rw [spared call present hit] at chosen
        simp at chosen
    · exact .inl

theorem claimed_resolves (sound : world.Sound)
    (resolves : world.node.Resolves after condition result timeouts) {claimant : Claimant}
    {caller : Caller} {call : PendingCall} (outstanding : world.Outstanding caller)
    (present : call ∈ world.node.pending.calls) (hit : call.id = caller.id)
    (chosen : condition call = true) (found : claimant.result caller.target = some result)
    (punctual : claimant.timesOut = true → caller.deadline ≤ world.now) :
    (world.turn after claimant).Claimed caller ⟨caller.id, claimant, world.now⟩ := by
  have gone : caller.id ∉ after.pending.ids := by
    simp only [PendingCalls.ids, resolves.calls, List.mem_map, List.mem_filter]
    rintro ⟨other, ⟨otherPresent, otherKept⟩, same⟩
    have identity :=
      List.inj_on_of_nodup_map sound.unique otherPresent present (same.trans hit.symm)
    subst identity
    simp [chosen] at otherKept
  constructor
  case gone => exact gone
  case once =>
    rw [claimsOn_turn sound.unique, outstanding.unclaimed,
      if_pos (PendingCalls.mem_removed.mpr ⟨outstanding.pending, gone⟩)]
    rfl
  case past => exact Nat.le_refl _
  case punctual => exact punctual
  case fits =>
    intro finished
    rw [outstanding.active] at finished
    simp at finished
  case waits =>
    intro active
    refine ⟨result, found, ?_, ?_⟩
    · exact (resolves.delivered _).mpr (.inr ⟨call, present, chosen, by rw [hit]⟩)
    · intro delivery delivered same
      rcases (resolves.delivered delivery).mp delivered with older | ⟨other, _, _, rfl⟩
      · exact absurd same (outstanding.undelivered delivery older)
      · rfl

theorem sound_resolves (sound : world.Sound)
    (resolves : world.node.Resolves after condition result timeouts) {claimant : Claimant}
    (found : ∀ call ∈ world.node.pending.calls, condition call = true →
      claimant.result call.target = some result)
    (punctual : claimant.timesOut = true →
      ∀ call ∈ world.node.pending.calls, condition call = true → call.deadline ≤ world.now)
    (counted : timeouts =
      if claimant.timesOut then (world.node.pending.calls.filter condition).length else 0) :
    (world.turn after claimant).Sound := by
  have kept : ∀ call ∈ after.pending.calls, call ∈ world.node.pending.calls := by
    intro call present
    rw [resolves.calls] at present
    exact List.mem_of_mem_filter present
  constructor
  case counter => exact resolves.nextId.trans sound.counter
  case room => exact sound.room
  case unique => exact sound.unique.sublist (PendingCalls.ids_sublist resolves.calls)
  case numbered => exact sound.numbered
  case owned =>
    intro call present
    exact sound.owned call (kept call present)
  case claimed => exact claimed_turn sound
  case delivered =>
    intro delivery present
    rcases (resolves.delivered delivery).mp present with older | ⟨call, listed, _, rfl⟩
    · exact sound.delivered delivery older
    · obtain ⟨caller, known, _⟩ := sound.owned call listed
      exact ⟨caller, known⟩
  case resolving =>
    intro id caller known
    change world.callers id = some caller at known
    obtain ⟨rfl, _⟩ := sound.numbered id caller known
    -- A call that was claimed before is in the table no more, so the condition does not reach it.
    rcases sound.resolving _ caller known with outstanding | ⟨claim, claimed⟩
    · obtain ⟨call, listed, hit⟩ := List.mem_map.mp outstanding.pending
      obtain ⟨owner, ownerKnown, target, deadline⟩ := sound.owned call listed
      rw [hit, known] at ownerKnown
      obtain rfl := Option.some.inj ownerKnown
      by_cases chosen : condition call = true
      · right
        refine ⟨_, claimed_resolves sound resolves outstanding listed hit chosen ?_ ?_⟩
        · rw [target]
          exact found call listed chosen
        · intro timesOut
          rw [deadline]
          exact punctual timesOut call listed chosen
      · refine (same_resolves sound.unique resolves claimant ?_).resolving (.inl outstanding)
        intro other otherListed same
        have identity :=
          List.inj_on_of_nodup_map sound.unique otherListed listed (same.trans hit.symm)
        rw [identity]
        simpa using chosen
    · refine (same_resolves sound.unique resolves claimant ?_).resolving (.inr ⟨claim, claimed⟩)
      intro call listed same
      exact absurd (same ▸ List.mem_map_of_mem listed) claimed.gone
  case timedOut =>
    have removed : (world.node.pending.removed after.pending).length =
        (world.node.pending.calls.filter condition).length := by
      rw [PendingCalls.removed_of_filter sound.unique resolves.calls]
      simp
    change after.traffic.timedOut = _
    rw [resolves.timedOut, sound.timedOut, counted]
    simp only [turn, claim, List.filter_append, List.filter_map, List.length_append,
      List.length_map]
    congr 1
    cases timesOut : claimant.timesOut
    · simp [Function.comp_def, timesOut]
    · simp [Function.comp_def, timesOut, removed]

end

section

variable {after : Node} {id : CallId} {timeouts : Nat}

theorem mem_ids_concludes {before : Node} (concludes : before.Concludes after id timeouts)
    {other : CallId} :
    other ∈ after.pending.ids ↔ other ∈ before.pending.ids ∧ other ≠ id := by
  simp only [PendingCalls.ids, concludes.calls, List.mem_map, List.mem_filter, decide_eq_true_eq]
  constructor
  · rintro ⟨call, ⟨present, different⟩, rfl⟩
    exact ⟨⟨call, present, rfl⟩, different⟩
  · rintro ⟨⟨call, present, rfl⟩, different⟩
    exact ⟨call, ⟨present, different⟩, rfl⟩

theorem same_concludes (unique : world.node.pending.ids.Nodup)
    (concludes : world.node.Concludes after id timeouts) (claimant : Claimant) {other : CallId}
    (different : other ≠ id) : world.Same (world.turn after claimant) other := by
  have stays : other ∈ after.pending.ids ↔ other ∈ world.node.pending.ids := by
    simp [mem_ids_concludes concludes, different]
  refine ⟨stays, ?_, ?_, Nat.le_refl _⟩
  · rw [claimsOn_turn unique, if_neg, List.append_nil]
    rw [PendingCalls.mem_removed, stays]
    exact fun removed => removed.2 removed.1
  · intro delivery hit
    change delivery ∈ after.deliveries ↔ _
    simp [concludes.deliveries, hit, different]

theorem removed_concludes (unique : world.node.pending.ids.Nodup)
    (concludes : world.node.Concludes after id timeouts) :
    world.node.pending.removed after.pending =
      if id ∈ world.node.pending.ids then [id] else [] := by
  have onlyOne : world.node.pending.removed after.pending =
      world.node.pending.ids.filter fun other => other = id := by
    apply List.filter_congr
    intro other present
    by_cases same : other = id <;> simp [mem_ids_concludes concludes, present, same]
  rw [onlyOne, List.filter_eq]
  split
  next present => simp [List.count_eq_one_of_mem unique present]
  next absent => simp [List.count_eq_zero_of_not_mem absent]

theorem claimed_concludes (sound : world.Sound) {caller : Caller}
    (known : world.callers caller.id = some caller)
    (concludes : world.node.Concludes after caller.id timeouts) {claimant : Claimant}
    {point : CallerPoint} (finished : point.isOver = true)
    (newly : world.Outstanding caller → claimant.Fits caller.target point ∧
      (claimant.timesOut = true → caller.deadline ≤ world.now))
    (already : ∀ claim, world.Claimed caller claim → claim.claimant.Fits caller.target point) :
    ∃ claim, ((world.turn after claimant).follow (caller.moveTo point)).Claimed
      (caller.moveTo point) claim := by
  have gone : caller.id ∉ after.pending.ids := by
    simp [mem_ids_concludes concludes]
  have claims : ((world.turn after claimant).follow (caller.moveTo point)).claimsOn caller.id =
      world.claimsOn caller.id ++
        if caller.id ∈ world.node.pending.ids then [⟨caller.id, claimant, world.now⟩] else [] := by
    refine (claimsOn_turn sound.unique after claimant caller.id).trans ?_
    rw [removed_concludes sound.unique concludes]
    split <;> simp
  have idle : (caller.moveTo point).point.isOver ≠ false := by
    simp [Caller.moveTo, finished]
  -- The claim is a new one if the call was in the table, and else the one that removed it before.
  rcases sound.resolving _ caller known with outstanding | ⟨claim, claimed⟩
  · obtain ⟨fits, punctual⟩ := newly outstanding
    rw [outstanding.unclaimed, if_pos outstanding.pending] at claims
    exact ⟨⟨caller.id, claimant, world.now⟩, gone, claims, Nat.le_refl _, punctual,
      fun _ => fits, fun active => absurd active idle⟩
  · rw [claimed.once, if_neg claimed.gone] at claims
    exact ⟨claim, gone, claims, claimed.past, claimed.punctual,
      fun _ => already claim claimed, fun active => absurd active idle⟩

theorem sound_concludes (sound : world.Sound) {caller : Caller}
    (known : world.callers caller.id = some caller)
    (concludes : world.node.Concludes after caller.id timeouts) {claimant : Claimant}
    {point : CallerPoint} (finished : point.isOver = true)
    (newly : world.Outstanding caller → claimant.Fits caller.target point ∧
      (claimant.timesOut = true → caller.deadline ≤ world.now) ∧
        timeouts = if claimant.timesOut then 1 else 0)
    (already : ∀ claim, world.Claimed caller claim →
      claim.claimant.Fits caller.target point ∧ timeouts = 0) :
    ((world.turn after claimant).follow (caller.moveTo point)).Sound := by
  have kept :
      ∀ call ∈ after.pending.calls, call ∈ world.node.pending.calls ∧ call.id ≠ caller.id := by
    intro call present
    rw [concludes.calls] at present
    simpa using present
  constructor
  case counter => exact concludes.nextId.trans sound.counter
  case room => exact sound.room
  case unique => exact sound.unique.sublist (PendingCalls.ids_sublist concludes.calls)
  case numbered =>
    intro other found otherKnown
    rcases callers_follow otherKnown with ⟨rfl, rfl⟩ | ⟨_, older⟩
    · exact ⟨rfl, (sound.numbered _ _ known).2⟩
    · exact sound.numbered other found older
  case owned =>
    intro call present
    obtain ⟨listed, different⟩ := kept call present
    obtain ⟨owner, ownerKnown, target, deadline⟩ := sound.owned call listed
    exact ⟨owner, (if_neg different).trans ownerKnown, target, deadline⟩
  case claimed =>
    intro claim present
    exact known_follow _ (claimed_turn sound claim present)
  case delivered =>
    intro delivery present
    change delivery ∈ after.deliveries at present
    rw [concludes.deliveries] at present
    exact known_follow _ (sound.delivered delivery (List.mem_of_mem_filter present))
  case resolving =>
    intro other found otherKnown
    rcases callers_follow otherKnown with ⟨_, rfl⟩ | ⟨different, older⟩
    · exact .inr <| claimed_concludes sound known concludes finished
        (fun outstanding => ⟨(newly outstanding).1, (newly outstanding).2.1⟩)
        (fun claim claimed => (already claim claimed).1)
    · obtain ⟨rfl, _⟩ := sound.numbered other found older
      exact (same_follow _ _ _).resolving <|
        (same_concludes sound.unique concludes claimant different).resolving
          (sound.resolving _ found older)
  case timedOut =>
    change after.traffic.timedOut = (List.filter _ (world.claims ++ _)).length
    rw [concludes.timedOut, sound.timedOut, removed_concludes sound.unique concludes,
      List.filter_append, List.length_append]
    congr 1
    rcases sound.resolving _ caller known with outstanding | ⟨claim, claimed⟩
    · rw [(newly outstanding).2.2, if_pos outstanding.pending]
      cases timesOut : claimant.timesOut <;> simp [timesOut]
    · rw [(already claim claimed).2, if_neg claimed.gone]
      rfl

end

theorem turn_self (world : CallWorld) (claimant : Claimant) :
    world.turn world.node claimant = world := by
  have nothing : world.node.pending.removed world.node.pending = [] := by
    rw [PendingCalls.removed, List.filter_eq_nil_iff]
    intro id present
    simp [present]
  simp [turn, claim, nothing]

section

variable {caller : Caller}

theorem sound_follow (sound : world.Sound) (known : world.callers caller.id = some caller)
    (active : caller.point.isOver = false) {point : CallerPoint} (ahead : point.isOver = false)
    (late : point = .late → caller.id ∉ world.node.pending.ids)
    (overdue : point = .overdue → caller.deadline ≤ world.now) :
    (world.follow (caller.moveTo point)).Sound := by
  constructor
  case counter => exact sound.counter
  case room => exact sound.room
  case unique => exact sound.unique
  case numbered =>
    intro id found foundKnown
    rcases callers_follow foundKnown with ⟨rfl, rfl⟩ | ⟨_, older⟩
    · exact ⟨rfl, (sound.numbered _ _ known).2⟩
    · exact sound.numbered id found older
  case owned =>
    intro call present
    obtain ⟨owner, ownerKnown, target, deadline⟩ := sound.owned call present
    by_cases same : call.id = caller.id
    · rw [same, known] at ownerKnown
      obtain rfl := Option.some.inj ownerKnown
      exact ⟨caller.moveTo point, if_pos same, target, deadline⟩
    · exact ⟨owner, (if_neg same).trans ownerKnown, target, deadline⟩
  case claimed =>
    intro claim present
    exact known_follow _ (sound.claimed claim present)
  case delivered =>
    intro delivery present
    exact known_follow _ (sound.delivered delivery present)
  case resolving =>
    intro id found foundKnown
    apply (same_follow world (caller.moveTo point) _).resolving
    rcases callers_follow foundKnown with ⟨_, rfl⟩ | ⟨_, older⟩
    · rcases sound.resolving _ caller known with outstanding | ⟨claim, claimed⟩
      · left
        exact ⟨outstanding.pending, outstanding.unclaimed, outstanding.undelivered, ahead,
          fun isLate => late isLate outstanding.pending, overdue⟩
      · right
        refine ⟨claim, claimed.gone, claimed.once, claimed.past, claimed.punctual, ?_, ?_⟩
        · intro finished
          exact absurd finished (by simp [Caller.moveTo, ahead])
        · intro _
          exact claimed.waits active
    · exact sound.resolving id found older
  case timedOut => exact sound.timedOut

theorem Delivered.result_eq {id : CallId} {result : CallResult} {delivery : Delivery}
    (delivered : world.Delivered id result) (found : world.node.delivery? id = some delivery) :
    delivery.result = result := by
  obtain ⟨present, same⟩ := Node.delivery?_eq_some found
  exact delivered.2 delivery present same

theorem sound_collect (sound : world.Sound) (known : world.callers caller.id = some caller)
    (active : caller.point.isOver = false) {delivery : Delivery}
    (found : world.node.delivery? caller.id = some delivery) (claimant : Claimant) :
    ((world.turn (world.node.conclude caller delivery.result).1 claimant).follow
      (world.node.conclude caller delivery.result).2).Sound := by
  apply sound_concludes sound known (Node.abandon_concludes world.node caller.call) rfl
  · intro outstanding
    obtain ⟨present, same⟩ := Node.delivery?_eq_some found
    exact absurd same (outstanding.undelivered delivery present)
  · intro claim claimed
    obtain ⟨result, outcome, delivered⟩ := claimed.waits active
    rw [delivered.result_eq found]
    exact ⟨outcome, rfl⟩

theorem sound_look (sound : world.Sound) {id : CallId} (known : world.callers id = some caller) :
    ((world.turn (world.node.look world.now caller).1 caller.point.claimant).follow
      (world.node.look world.now caller).2).Sound := by
  obtain ⟨rfl, _⟩ := sound.numbered id caller known
  have still (claimant : Claimant) : ((world.turn world.node claimant).follow caller).Sound := by
    rw [turn_self, follow_known known]
    exact sound
  rcases Bool.eq_false_or_eq_true caller.point.isOver with finished | active
  · rw [Node.look_of_isOver finished]
    exact still _
  -- A caller that only moves on leaves the table alone.
  have moves {point : CallerPoint} (ahead : point.isOver = false)
      (late : point = .late → caller.id ∉ world.node.pending.ids)
      (overdue : point = .overdue → caller.deadline ≤ world.now) (claimant : Claimant) :
      ((world.turn world.node claimant).follow (caller.moveTo point)).Sound := by
    rw [turn_self]
    exact sound_follow sound known active ahead late overdue
  unfold Node.look
  cases point : caller.point with
  | sending =>
    simp only
    split
    · exact moves rfl (by simp) (by simp) _
    · exact moves rfl (by simp) (by simp) _
    · split
      · exact still _
      · exact moves rfl (by simp) (by simp) _
  | refused fault =>
    simp only
    by_cases present : caller.id ∈ world.node.pending.ids
    · rw [Node.takeCall_of_mem present]
      have concludes : world.node.Concludes ((world.node.takeCall caller.id).1.abandon caller.call)
          caller.id 0 := Node.abandon_takeCall_concludes world.node caller.call 0
      refine sound_concludes sound known concludes rfl ?_ ?_
      · intro outstanding
        exact ⟨rfl, by simp [CallerPoint.claimant, Claimant.timesOut], rfl⟩
      · intro claim claimed
        exact absurd present claimed.gone
    · rw [Node.takeCall_of_not_mem present]
      exact moves rfl (by simp) (by simp) _
  | waiting =>
    simp only
    split
    next delivery found => exact sound_collect sound known active found _
    next =>
      split
      · exact still _
      next overdue => exact moves rfl (by simp) (fun _ => Nat.not_lt.mp overdue) _
  | overdue =>
    simp only
    by_cases present : caller.id ∈ world.node.pending.ids
    · rw [Node.takeCall_of_mem present]
      have concludes := Node.abandon_takeCall_concludes world.node caller.call 1
      refine sound_concludes sound known concludes rfl ?_ ?_
      · intro outstanding
        exact ⟨rfl, fun _ => outstanding.overdue point, rfl⟩
      · intro claim claimed
        exact absurd present claimed.gone
    · rw [Node.takeCall_of_not_mem present]
      exact moves rfl (fun _ => present) (by simp) _
  | late =>
    simp only
    split
    next delivery found => exact sound_collect sound known active found _
    next missing =>
      -- Whoever came first has left an outcome, so the caller does not go away with nothing.
      rcases sound.resolving _ caller known with outstanding | ⟨claim, claimed⟩
      · exact absurd point outstanding.intime
      · obtain ⟨result, _, delivered, _⟩ := claimed.waits active
        exact absurd rfl (Node.delivery?_eq_none missing _ delivered)
  | returned result => exact still _
  | stopped result => exact still _
  | dropped => exact still _

end

theorem fresh_id (sound : world.Sound) (room : world.begun < UInt64.size) :
    world.node.pending.nextId.toNat = world.begun ∧
      world.callers world.node.pending.nextId = none := by
  have number : world.node.pending.nextId.toNat = world.begun := by
    rw [sound.counter]
    exact UInt64.toNat_ofNat_of_lt room
  refine ⟨number, ?_⟩
  cases known : world.callers world.node.pending.nextId with
  | none => rfl
  | some caller =>
    have below := (sound.numbered _ caller known).2
    omega

theorem ne_of_fresh {number id : CallId} (fresh : world.callers number = none)
    (known : ∃ caller, world.callers id = some caller) : id ≠ number := by
  rintro rfl
  obtain ⟨caller, known⟩ := known
  rw [fresh] at known
  simp at known

section

variable {node : Node}

theorem outstanding_register (sound : world.Sound)
    (fresh : world.callers world.node.pending.nextId = none)
    (entered : node.pending.ids = world.node.pending.nextId :: world.node.pending.ids)
    (deliveries : node.deliveries = world.node.deliveries) {caller : Caller}
    (next : caller.id = world.node.pending.nextId) (sending : caller.point = .sending) :
    (({ world with node := node, begun := world.begun + 1 } : CallWorld).follow caller).Outstanding
      caller := by
  constructor
  case pending =>
    change _ ∈ node.pending.ids
    rw [entered, next]
    exact List.mem_cons_self
  case unclaimed =>
    rw [claimsOn, List.filter_eq_nil_iff, next]
    intro claim present
    rw [decide_eq_true_eq]
    exact ne_of_fresh fresh (sound.claimed claim present)
  case undelivered =>
    intro delivery present
    change delivery ∈ node.deliveries at present
    rw [deliveries] at present
    rw [next]
    exact ne_of_fresh fresh (sound.delivered delivery present)
  case active => simp [sending, CallerPoint.isOver]
  case intime => simp [sending]
  case overdue => simp [sending]

theorem same_register {id : CallId} (older : id ≠ world.node.pending.nextId)
    (entered : node.pending.ids = world.node.pending.nextId :: world.node.pending.ids)
    (deliveries : node.deliveries = world.node.deliveries) :
    world.Same { world with node := node, begun := world.begun + 1 } id := by
  refine ⟨?_, rfl, ?_, Nat.le_refl _⟩
  · change id ∈ node.pending.ids ↔ _
    rw [entered, List.mem_cons, or_iff_right older]
  · intro delivery _
    change delivery ∈ node.deliveries ↔ _
    rw [deliveries]

end

theorem sound_register (sound : world.Sound) (room : world.begun < UInt64.size)
    {node registered : Node} {target : MemberId} {deadline : Instant} {call : RemoteCall}
    (registers : world.node.registerCall target deadline = (registered, call))
    (pending : node.pending = registered.pending)
    (deliveries : node.deliveries = world.node.deliveries)
    (timedOut : node.traffic.timedOut = world.node.traffic.timedOut) :
    (({ world with node := node, begun := world.begun + 1 } : CallWorld).follow
      (.ofCall call)).Sound := by
  obtain ⟨number, fresh⟩ := fresh_id sound room
  simp only [Node.registerCall, Prod.mk.injEq] at registers
  obtain ⟨rfl, rfl⟩ := registers
  have entered : node.pending.ids = world.node.pending.nextId :: world.node.pending.ids := by
    rw [pending]
    rfl
  -- Every id in the table has a caller, and the next id has none.
  have absent : world.node.pending.nextId ∉ world.node.pending.ids := by
    intro present
    obtain ⟨call, listed, same⟩ := List.mem_map.mp present
    obtain ⟨owner, known, _⟩ := sound.owned call listed
    exact ne_of_fresh fresh ⟨owner, known⟩ same
  constructor
  case counter =>
    change node.pending.nextId = _
    rw [pending]
    change world.node.pending.nextId + 1 = UInt64.ofNat (world.begun + 1)
    rw [sound.counter, UInt64.ofNat_add]
    rfl
  case room => exact room
  case unique =>
    change node.pending.ids.Nodup
    rw [entered]
    exact List.nodup_cons.mpr ⟨absent, sound.unique⟩
  case numbered =>
    intro id caller known
    rcases callers_follow known with ⟨rfl, rfl⟩ | ⟨_, older⟩
    · exact ⟨rfl, Nat.lt_succ_of_le (Nat.le_of_eq number)⟩
    · obtain ⟨identity, below⟩ := sound.numbered id caller older
      exact ⟨identity, Nat.lt_succ_of_lt below⟩
  case owned =>
    intro call present
    change call ∈ node.pending.calls at present
    rw [pending] at present
    rcases List.mem_cons.mp present with rfl | older
    · exact ⟨_, if_pos rfl, rfl, rfl⟩
    · obtain ⟨owner, known, target, deadline⟩ := sound.owned call older
      exact ⟨owner, (if_neg (ne_of_fresh fresh ⟨owner, known⟩)).trans known, target, deadline⟩
  case claimed =>
    intro claim present
    exact known_follow _ (sound.claimed claim present)
  case delivered =>
    intro delivery present
    change delivery ∈ node.deliveries at present
    rw [deliveries] at present
    exact known_follow _ (sound.delivered delivery present)
  case resolving =>
    intro id caller known
    rcases callers_follow known with ⟨_, rfl⟩ | ⟨_, older⟩
    · exact .inl (outstanding_register sound fresh entered deliveries rfl rfl)
    · obtain ⟨rfl, _⟩ := sound.numbered id caller older
      have other := ne_of_fresh fresh ⟨caller, older⟩
      exact (same_follow _ _ _).resolving
        ((same_register other entered deliveries).resolving (sound.resolving _ caller older))
  case timedOut => exact timedOut.trans sound.timedOut

theorem follow_follow (caller : Caller) (point : CallerPoint) :
    (world.follow caller).follow (caller.moveTo point) = world.follow (caller.moveTo point) := by
  simp only [follow, mk.injEq, true_and, and_true]
  funext id
  by_cases same : id = caller.id
  · simp [Caller.moveTo, same]
  · simp [Caller.moveTo, same]

theorem sound_begin (sound : world.Sound) (room : world.begun < UInt64.size) {clock : Clock}
    {target : Member} {request : CallRequest} {timeout : Duration} {issued : Node}
    {call : RemoteCall}
    (begins : world.node.beginRemote clock target request timeout = (issued, .remotely call)) :
    (({ world with node := issued, begun := world.begun + 1 } : CallWorld).follow
      (.ofCall call)).Sound := by
  have possible := world.node.beginRemote_cases clock target request timeout
  cases registers : world.node.registerCall target.id (clock.now + timeout) with
  | mk registered entered =>
    rw [registers] at possible
    rcases possible with ⟨_, queued, pending, deliveries, timedOut⟩ | ⟨_, _, failed, _⟩
    · rw [begins] at queued
      simp only [Prod.mk.injEq, Branch.remotely.injEq] at queued
      obtain ⟨rfl, rfl⟩ := queued
      exact sound_register sound room registers pending deliveries timedOut
    · rw [begins] at failed
      simp at failed

theorem sound_fail (sound : world.Sound) (room : world.begun < UInt64.size) {clock : Clock}
    {target : Member} {request : CallRequest} {timeout : Duration} {registered after : Node}
    {call : RemoteCall} {reason : String}
    (registers : world.node.registerCall target.id (clock.now + timeout) = (registered, call))
    (begins : world.node.beginRemote clock target request timeout =
      (after, .settled (.error (.serialization reason)))) :
    ((({ world with begun := world.begun + 1 } : CallWorld).claim registered.pending after
      (.unencodable reason)).follow
        ((Caller.ofCall call).moveTo (.returned (.error (.serialization reason))))).Sound := by
  have possible := world.node.beginRemote_cases clock target request timeout
  rw [registers] at possible
  rcases possible with ⟨_, queued, _⟩ | ⟨_, _, failed, concludes⟩
  · rw [begins] at queued
    simp at queued
  · rw [begins] at failed
    simp only [Prod.mk.injEq, Branch.settled.injEq, Except.error.injEq,
      ClusterError.serialization.injEq] at failed
    obtain ⟨rfl, rfl⟩ := failed
    have unsent := registers
    simp only [Node.registerCall, Prod.mk.injEq] at unsent
    obtain ⟨rfl, rfl⟩ := unsent
    have entered := sound_register sound room registers rfl rfl rfl
    rw [← follow_follow]
    refine sound_concludes entered (if_pos rfl) concludes rfl ?_ ?_
    · intro _
      exact ⟨rfl, by simp [Claimant.timesOut], rfl⟩
    · intro claim claimed
      exact absurd List.mem_cons_self claimed.gone

theorem quiet_acknowledge (node : Node) (acknowledgement : Acknowledgement) :
    node.Quiet (node.acknowledge acknowledgement) := by
  unfold Node.acknowledge
  split <;> exact ⟨rfl, rfl, rfl⟩

theorem sound_step (sound : world.Sound) {after : CallWorld} (step : Step world after) :
    after.Sound := by
  cases step with
  | elapse later forward => exact sound_quiet sound ⟨rfl, rfl, rfl⟩ forward
  | elsewhere node quiet => exact sound_quiet sound quiet (Nat.le_refl _)
  | acknowledge acknowledgement =>
    exact sound_quiet sound (quiet_acknowledge _ acknowledgement) (Nat.le_refl _)
  | begin clock reading target request timeout room begins => exact sound_begin sound room begins
  | fail clock reading target request timeout room registers begins =>
    exact sound_fail sound room registers begins
  | look known => exact sound_look sound known
  | @drop id caller known active =>
    obtain ⟨rfl, _⟩ := sound.numbered id caller known
    refine sound_concludes sound known (Node.abandon_concludes _ caller.call) rfl ?_ ?_
    · intro _
      exact ⟨trivial, by simp [Claimant.timesOut], rfl⟩
    · intro claim _
      exact ⟨trivial, rfl⟩
  | @stop id caller known active node result stops =>
    obtain ⟨rfl, _⟩ := sound.numbered id caller known
    unfold Node.unlessStopped at stops
    split at stops
    · simp only [Node.settle, Prod.mk.injEq, Branch.settled.injEq] at stops
      obtain ⟨rfl, rfl⟩ := stops
      refine sound_concludes sound known (Node.abandon_concludes _ caller.call) rfl ?_ ?_
      · intro _
        exact ⟨rfl, by simp [Claimant.timesOut], rfl⟩
      · intro claim _
        exact ⟨rfl, rfl⟩
    · simp at stops
  | respond sender response =>
    refine sound_resolves sound (world.node.onResponse_resolves sender response) ?_ ?_ rfl
    · intro call _ _
      rfl
    · simp [Claimant.timesOut]
  | leave target =>
    refine sound_resolves sound (world.node.failCalls_resolves target _) ?_ ?_ rfl
    · intro call _ chosen
      rw [of_decide_eq_true chosen]
      rfl
    · simp [Claimant.timesOut]
  | die target =>
    refine sound_resolves sound (world.node.failCalls_resolves target _) ?_ ?_ rfl
    · intro call _ chosen
      rw [of_decide_eq_true chosen]
      rfl
    · simp [Claimant.timesOut]
  | expire moment past =>
    refine sound_resolves sound (world.node.expireCalls_resolves moment) ?_ ?_ rfl
    · intro call _ _
      rfl
    · intro _ call _ chosen
      exact Nat.le_trans (of_decide_eq_true chosen) past
  | cancel =>
    refine sound_resolves sound world.node.cancelCalls_resolves ?_ ?_ rfl
    · intro call _ _
      rfl
    · simp [Claimant.timesOut]

theorem sound_of_reachable {config : Config} (reached : Reachable config world) : world.Sound := by
  induction reached with
  | start => exact sound_start config
  | next _ step ih => exact sound_step ih step

end

end CallWorld

end ClusterCoordination
