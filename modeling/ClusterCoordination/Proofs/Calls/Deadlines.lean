import ClusterCoordination.Proofs.Calls.Beginnings
/-!
# Deadlines of calls

A call waits until a deadline on the caller's own clock. Its request carries the deadline in wall
clock time, and whoever is asked turns that into a deadline on a clock of its own. The deadlines
agree as long as the word on the wire can carry the sum of wall clock time and timeout.
-/

set_option autoImplicit false

namespace ClusterCoordination

namespace Clock

structure InRange (clock : Clock) : Prop where
  now : clock.now ≤ Instant.last
  wall : clock.wall ≤ Instant.last

section

variable {clock : Clock} {timeout : Duration}

theorem deadline?_of_within (within : clock.now + timeout ≤ Instant.last) :
    clock.deadline? timeout = some (clock.now + timeout) :=
  if_pos within

theorem deadline?_of_beyond (beyond : Instant.last < clock.now + timeout) :
    clock.deadline? timeout = none :=
  if_neg (Nat.not_le.mpr beyond)

theorem within_of_deadline? {deadline : Instant} (found : clock.deadline? timeout = some deadline) :
    clock.now + timeout ≤ Instant.last := by
  by_contra beyond
  rw [deadline?_of_beyond (Nat.not_le.mp beyond)] at found
  cases found

/-- Durations reach so much further than clocks that only the first of the two sums can fail. -/
theorem wireDeadline?_of_within (inRange : clock.InRange)
    (within : clock.now + timeout ≤ Instant.last) :
    clock.wireDeadline? timeout = some (clock.wireDeadline timeout) := by
  have short : clock.wall + timeout ≤ Duration.longest :=
    calc clock.wall + timeout
      _ ≤ Instant.last + Instant.last :=
        Nat.add_le_add inRange.wall (Nat.le_trans (Nat.le_add_left _ _) within)
      _ ≤ Duration.longest := by decide
  exact if_pos short

theorem toNat_wireDeadline (clock : Clock) (timeout : Duration) :
    (clock.wireDeadline timeout).toNat = (clock.wall + timeout) % UInt64.size :=
  UInt64.toNat_ofNat'

theorem toNat_wireDeadline_eq_iff :
    (clock.wireDeadline timeout).toNat = clock.wall + timeout ↔
      clock.wall + timeout < UInt64.size := by
  rw [toNat_wireDeadline]
  exact Nat.mod_eq_iff_lt (by decide)

/--
What is left of a timeout for whoever reads the deadline when it was written. Whole turns of the
word are lost, and nothing is left if the sum passes the end of the word.
-/
theorem localDeadline?_wireDeadline {other : Clock} (same : other.wall = clock.wall)
    (timeout : Duration) :
    other.localDeadline? (clock.wireDeadline timeout) =
      if 0 < timeout % UInt64.size ∧
          clock.wall % UInt64.size + timeout % UInt64.size < UInt64.size then
        some (other.now + timeout % UInt64.size)
      else none := by
  have wall : (UInt64.ofNat clock.wall).toNat = clock.wall % UInt64.size := UInt64.toNat_ofNat'
  simp only [localDeadline?, same, wall, toNat_wireDeadline]
  by_cases fits : clock.wall % UInt64.size + timeout % UInt64.size < UInt64.size
  · have sum : (clock.wall + timeout) % UInt64.size =
        clock.wall % UInt64.size + timeout % UInt64.size := by
      rw [Nat.add_mod, Nat.mod_eq_of_lt fits]
    simp only [sum, fits, and_true, Nat.lt_add_right_iff_pos, Nat.add_sub_cancel_left]
  · have sum : (clock.wall + timeout) % UInt64.size =
        clock.wall % UInt64.size + timeout % UInt64.size - UInt64.size := by
      rw [Nat.add_mod_eq_ite, if_pos (Nat.not_lt.mp fits)]
    have passed : ¬ clock.wall % UInt64.size < (clock.wall + timeout) % UInt64.size := by
      rw [sum, Nat.not_lt, Nat.sub_le_iff_le_add]
      exact Nat.add_le_add_left (Nat.le_of_lt (Nat.mod_lt _ (by decide))) _
    rw [if_neg passed, if_neg fun left => fits left.2]

theorem localDeadline?_of_carried {other : Clock} (same : other.wall = clock.wall)
    (carried : clock.wall + timeout < UInt64.size) :
    other.localDeadline? (clock.wireDeadline timeout) =
      if timeout = 0 then none else some (other.now + timeout) := by
  have short : timeout % UInt64.size = timeout :=
    Nat.mod_eq_of_lt (Nat.lt_of_le_of_lt (Nat.le_add_left _ _) carried)
  have wall : clock.wall % UInt64.size = clock.wall :=
    Nat.mod_eq_of_lt (Nat.lt_of_le_of_lt (Nat.le_add_right _ _) carried)
  rw [localDeadline?_wireDeadline same, short, wall]
  by_cases nothing : timeout = 0
  · rw [if_pos nothing, if_neg fun left => Nat.ne_of_gt left.1 nothing]
  · rw [if_neg nothing, if_pos ⟨Nat.pos_of_ne_zero nothing, carried⟩]

theorem localDeadline?_le {other : Clock} (same : other.wall = clock.wall) {deadline : Instant}
    (found : other.localDeadline? (clock.wireDeadline timeout) = some deadline) :
    deadline ≤ other.now + timeout := by
  rw [localDeadline?_wireDeadline same] at found
  split at found
  next =>
    obtain rfl := Option.some.inj found
    exact Nat.add_le_add_left (Nat.mod_le _ _) _
  next => cases found

section

variable {shorter longer : Duration} (ordered : shorter ≤ longer)
  (carried : clock.wall + longer < UInt64.size)
include ordered carried

theorem carried_of_le : clock.wall + shorter < UInt64.size :=
  Nat.lt_of_le_of_lt (Nat.add_le_add_left ordered _) carried

theorem wireDeadline_mono : clock.wireDeadline shorter ≤ clock.wireDeadline longer := by
  rw [UInt64.le_iff_toNat_le, toNat_wireDeadline_eq_iff.mpr carried,
    toNat_wireDeadline_eq_iff.mpr (carried_of_le ordered carried)]
  exact Nat.add_le_add_left ordered _

theorem localDeadline?_mono {other : Clock} (same : other.wall = clock.wall) {early : Instant}
    (found : other.localDeadline? (clock.wireDeadline shorter) = some early) :
    ∃ late, other.localDeadline? (clock.wireDeadline longer) = some late ∧ early ≤ late := by
  rw [localDeadline?_of_carried same (carried_of_le ordered carried)] at found
  split at found
  next => cases found
  next lasting =>
    obtain rfl := Option.some.inj found
    have lastsToo : longer ≠ 0 :=
      Nat.ne_of_gt (Nat.lt_of_lt_of_le (Nat.pos_of_ne_zero lasting) ordered)
    rw [localDeadline?_of_carried same carried, if_neg lastsToo]
    exact ⟨_, rfl, Nat.add_le_add_left ordered _⟩

end

/--
The caller, the wire and whoever is asked have the same deadline in mind, and none of them has an
earlier one than with a shorter timeout.
-/
structure Agrees (clock : Clock) (timeout : Duration) : Prop where
  caller : clock.deadline? timeout = some (clock.now + timeout)
  wire : ∃ deadline, clock.wireDeadline? timeout = some deadline ∧
    deadline.toNat = clock.wall + timeout
  callee : ∀ other : Clock, other.wall = clock.wall →
    other.localDeadline? (clock.wireDeadline timeout) =
      if timeout = 0 then none else some (other.now + timeout)
  later : ∀ shorter ≤ timeout, clock.wireDeadline shorter ≤ clock.wireDeadline timeout ∧
    ∀ other : Clock, other.wall = clock.wall →
      ∀ early, other.localDeadline? (clock.wireDeadline shorter) = some early →
        ∃ late, other.localDeadline? (clock.wireDeadline timeout) = some late ∧ early ≤ late

theorem agrees_iff (inRange : clock.InRange) :
    clock.Agrees timeout ↔
      clock.now + timeout ≤ Instant.last ∧ clock.wall + timeout < UInt64.size := by
  constructor
  · intro agrees
    have within := within_of_deadline? agrees.caller
    obtain ⟨deadline, told, meant⟩ := agrees.wire
    obtain rfl : clock.wireDeadline timeout = deadline :=
      Option.some.inj ((wireDeadline?_of_within inRange within).symm.trans told)
    exact ⟨within, toNat_wireDeadline_eq_iff.mp meant⟩
  · rintro ⟨within, carried⟩
    constructor
    case caller => exact deadline?_of_within within
    case wire =>
      exact ⟨_, wireDeadline?_of_within inRange within, toNat_wireDeadline_eq_iff.mpr carried⟩
    case callee => exact fun other same => localDeadline?_of_carried same carried
    case later =>
      intro shorter ordered
      exact ⟨wireDeadline_mono ordered carried,
        fun other same early found => localDeadline?_mono ordered carried same found⟩

end

end Clock

namespace Node

section

variable {node : Node} {clock : Clock} {targets : List MemberId} {request : CallRequest}
  {timeout : Option Duration}

theorem placeCall_of_beyond
    (beyond : Instant.last < clock.now + timeout.getD node.config.callTimeout)
    (others : node.asksOthers targets = true) :
    node.placeCall clock targets request timeout =
      node.whenRunning (node, targets.map fun target => (target, .broken)) := by
  rw [placeCall, Clock.deadline?_of_beyond beyond]
  exact if_pos others

theorem placeCall_of_within (inRange : clock.InRange)
    (within : clock.now + timeout.getD node.config.callTimeout ≤ Instant.last) :
    node.placeCall clock targets request timeout =
      node.beginCall clock targets request timeout := by
  rw [placeCall, Clock.deadline?_of_within within, Clock.wireDeadline?_of_within inRange within]

inductive Asks (node : Node) (clock : Clock) (target : Member) (request : CallRequest)
    (limit : Duration) : Except ClusterError (Node × List (MemberId × Branch)) → Prop where
  | overrun (beyond : Instant.last < clock.now + limit) :
      Asks node clock target request limit (.ok (node, [(target.id, .broken)]))
  | unwritten (within : clock.now + limit ≤ Instant.last) (after : Node) (reason : String) :
      Asks node clock target request limit
        (.ok (after, [(target.id, .settled (.error (.serialization reason)))]))
  | asked (within : clock.now + limit ≤ Instant.last) {call : RemoteCall} {issued : Node}
      {data : Bytes} (waits : call = ⟨node.pending.nextId, target.id, clock.now + limit, .sending⟩)
      (reads : node.Reads data (node.requestFrame clock call.id request limit))
      (queued : issued =
        (node.registerCall target.id call.deadline).1.countIssued.push target.address
        ⟨data, some (.call call.id)⟩) :
      Asks node clock target request limit
        (.ok ((issued.pollBranch clock.now (.remotely call)).1,
          [(target.id, (issued.pollBranch clock.now (.remotely call)).2)]))

theorem asks_placeCall {target : Member} (running : node.lifecycle = .running)
    (remote : target.id ≠ node.id) (alive : node.aliveMember target.id = .ok target)
    (inRange : clock.InRange) :
    node.Asks clock target request (timeout.getD node.config.callTimeout)
      (node.placeCall clock [target.id] request timeout) := by
  rcases Nat.lt_or_ge Instant.last (clock.now + timeout.getD node.config.callTimeout) with
    beyond | within
  · have others : node.asksOthers [target.id] = true := by
      simp [asksOthers, remote, alive, Except.toOption]
    have broken : node.placeCall clock [target.id] request timeout =
        .ok (node, [(target.id, .broken)]) := by
      rw [placeCall_of_beyond beyond others, whenRunning, if_pos running]
      rfl
    rw [broken]
    exact .overrun beyond
  · rw [placeCall_of_within inRange within]
    rcases node.beginRemote_eq clock target request (timeout.getD node.config.callTimeout) with
      ⟨after, reason, failed⟩ | ⟨data, reads, queued⟩
    · have begun : node.beginCall clock [target.id] request timeout =
          .ok (after, [(target.id, .settled (.error (.serialization reason)))]) := by
        simp [beginCall, whenRunning, running, beginBranches, beginBranch, remote, alive, failed,
          pollBranch]
      rw [begun]
      exact .unwritten within after reason
    · have begun := Asks.asked within rfl reads rfl
      simpa [beginCall, whenRunning, running, beginBranches, beginBranch, remote, alive, queued]
        using begun

/--
A call to another member breaks off if its deadline lies beyond the last instant. Otherwise the call
waits for the timeout, and its request carries the deadline as far as the word goes: the two agree
unless the sum of wall clock time and timeout is too large for the word.
-/
theorem deadlines_agree_if_the_wire_carries_them {target : Member}
    (running : node.lifecycle = .running) (remote : target.id ≠ node.id)
    (alive : node.aliveMember target.id = .ok target) (inRange : clock.InRange) :
    let limit := timeout.getD node.config.callTimeout
    node.Asks clock target request limit (node.placeCall clock [target.id] request timeout) ∧
      (∀ id, (node.requestFrame clock id request limit).deadline = clock.wireDeadline limit) ∧
      (clock.wireDeadline limit).toNat = (clock.wall + limit) % UInt64.size ∧
      (clock.Agrees limit ↔
        clock.now + limit ≤ Instant.last ∧ clock.wall + limit < UInt64.size) ∧
      ∀ other : Clock, other.wall = clock.wall →
        (other.localDeadline? (clock.wireDeadline limit) =
          if 0 < limit % UInt64.size ∧
              clock.wall % UInt64.size + limit % UInt64.size < UInt64.size then
            some (other.now + limit % UInt64.size)
          else none) ∧
        ∀ deadline, other.localDeadline? (clock.wireDeadline limit) = some deadline →
          deadline ≤ other.now + limit := by
  intro limit
  refine ⟨asks_placeCall running remote alive inRange, fun id => rfl,
    clock.toNat_wireDeadline limit, Clock.agrees_iff inRange, ?_⟩
  intro other same
  exact ⟨Clock.localDeadline?_wireDeadline same limit,
    fun deadline found => Clock.localDeadline?_le same found⟩

/-- Two seconds are two seconds for the caller and for whoever is asked. -/
theorem default_timeout_is_kept :
    let target : Member := .new ⟨"b"⟩ "" .unspecified
    let config : Config := .new "cluster" ⟨"a"⟩ .unspecified .unspecified []
    let caller : Node := { Node.new config with
      lifecycle := .running
      roster := ((Roster.new config.id).join 0 target).1 }
    let request : CallRequest := ⟨"names", "whoami", .empty⟩
    let clock : Clock := ⟨0, 1700000000000⟩
    caller.Asks clock target request 2000 (caller.placeCall clock [target.id] request none) ∧
      clock.Agrees 2000 := by
  intro target config caller request clock
  have inRange : clock.InRange := ⟨by decide, by decide⟩
  obtain ⟨asks, -, -, agrees, -⟩ :=
    @deadlines_agree_if_the_wire_carries_them caller clock request none
    target rfl (by decide) rfl inRange
  exact ⟨asks, agrees.mpr ⟨by decide, by decide⟩⟩

/--
A timeout of ages is over at once for whoever is asked, and the longest one breaks the caller.
-/
theorem endless_timeout_is_over_at_once :
    let clock : Clock := ⟨0, 1700000000000⟩
    let ages : Duration := UInt64.size - 1
    ages ≤ Duration.longest ∧ clock.deadline? ages = some ages ∧
      (clock.wireDeadline ages).toNat = clock.wall - 1 ∧
      clock.localDeadline? (clock.wireDeadline ages) = none ∧
      clock.localDeadline? (clock.wireDeadline 1) = some 1 ∧
      (∀ (callee : Node) (served : ServedRequest), served.request.deadline =
        clock.wireDeadline ages →
        callee.beginServing clock served = callee.forgetRequest served.id) ∧
      ¬ clock.Agrees ages ∧
      clock.deadline? Duration.longest = none ∧ ¬ clock.Agrees Duration.longest := by
  intro clock ages
  have inRange : clock.InRange := ⟨by decide, by decide⟩
  have ended : clock.localDeadline? (clock.wireDeadline ages) = none := by decide
  refine ⟨by decide, by decide, by decide, ended, by decide, ?_, ?_, by decide, ?_⟩
  · intro callee served told
    rw [beginServing, told, ended]
  · rw [Clock.agrees_iff inRange]
    decide
  · rw [Clock.agrees_iff inRange]
    decide

end

end Node

end ClusterCoordination
