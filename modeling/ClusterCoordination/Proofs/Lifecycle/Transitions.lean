import ClusterCoordination.Proofs.Lifecycle.Stages
/-!
# The lifecycle in every run

However starting, stopping, asking and everything else are interleaved, a node goes through its
lifecycle once, and a node that does not run does nothing it is asked for.
-/

set_option autoImplicit false

namespace ClusterCoordination

inductive Lifecycle.Leads : Lifecycle → Lifecycle → Prop where
  | begin : Leads .created .starting
  | run : Leads .starting .running
  | fail : Leads .starting .failed
  | stop : Leads .running .stopping
  | finish : Leads .stopping .stopped

namespace Host

section

variable {config : Config} {host after : Host} {event : Event} {report : Option Report}

theorem Moves.leads (moves : host.Moves event after report) :
    after.node.lifecycle = host.node.lifecycle ∨
      host.node.lifecycle.Leads after.node.lifecycle := by
  cases moves with
  | begins created =>
    rw [created]
    exact .inr .begin
  | fails starting =>
    rw [starting]
    exact .inr .fail
  | enters => exact .inl rfl
  | runs starting =>
    rw [starting]
    exact .inr .run
  | halts running became =>
    rw [running, become, became]
    exact .inr .stop
  | parts stopping => exact .inl stopping.symm
  | ends stopping =>
    rw [stopping]
    exact .inr .finish
  | continues continues => exact .inl continues.lifecycle

theorem countP_routine {count : Report → Bool} (routine : report.all Report.isRoutine = true)
    (other : ∀ report : Report, report.isRoutine = true → count report = false) :
    report.toList.countP count = 0 := by
  cases report with
  | none => rfl
  | some report => simp [other report routine]

theorem Moves.countP_hasStarted (moves : host.Moves event after report) :
    report.toList.countP Report.hasStarted + host.isUp.toNat = after.isUp.toNat := by
  cases moves with
  | begins created => simp [isUp, become, created]
  | fails starting => simp [isUp, Node.failStart, starting, Report.hasStarted]
  | enters starting => simp [isUp, Node.enter, Node.join, starting]
  | runs starting => simp [isUp, become, Node.completeStart, starting, Report.hasStarted]
  | halts running became => simp [isUp, become, running, became]
  | parts stopping => simp [isUp, Node.tearDown, stopping]
  | ends stopping => simp [isUp, become, stopping, Report.hasStarted]
  | continues continues routine =>
    rw [countP_routine routine (by simp +contextual [Report.isRoutine]), isUp, isUp,
      continues.lifecycle, Nat.zero_add]

theorem Moves.countP_hasStopped (moves : host.Moves event after report) :
    report.toList.countP Report.hasStopped + host.isStopped.toNat = after.isStopped.toNat := by
  cases moves with
  | begins created => simp [isStopped, become, created]
  | fails starting => simp [isStopped, Node.failStart, starting, Report.hasStopped]
  | enters starting => simp [isStopped, Node.enter, Node.join, starting]
  | runs starting => simp [isStopped, become, Node.completeStart, starting, Report.hasStopped]
  | halts running became => simp [isStopped, become, running, became]
  | parts stopping => simp [isStopped, Node.tearDown, stopping]
  | ends stopping => simp [isStopped, become, stopping, Report.hasStopped]
  | continues continues routine =>
    rw [countP_routine routine (by simp +contextual [Report.isRoutine]), isStopped, isStopped,
      continues.lifecycle, Nat.zero_add]

theorem Moves.nothing_left (moves : host.Moves event after report) (stage : host.Stage config)
    {fault : NetworkFault} (failed : report = some (.started (.error (.startup fault)))) :
    after.node = { Node.new config with lifecycle := .failed } ∧ after.calls = [] ∧
      after.handed = [] ∧ after.network.sockets = host.network.sockets ∧
        after.network.bindings = host.network.bindings := by
  cases moves with
  | fails starting unplugged sockets bindings =>
    have idle := stage.idle_of_opening starting unplugged
    refine ⟨?_, idle.calls, idle.handed, sockets, bindings⟩
    have fresh := idle.node
    dsimp only
    rw [Node.failStart, fresh]
  | continues continues routine =>
    simp [failed, Report.isRoutine, Report.hasFailed] at routine
  | _ => simp at failed

theorem countP_run {count : Report → Bool} {reached : Host → Bool}
    (counts : ∀ (host : Host) (event : Event),
      (host.step event).2.toList.countP count + (reached host).toNat =
        (reached (host.step event).1).toNat)
    (host : Host) (events : List Event) :
    (host.run events).2.countP count + (reached host).toNat =
      (reached (host.run events).1).toNat := by
  -- A step reports just when it brings the host to what is counted.
  induction events generalizing host with
  | nil => simp [run]
  | cons event rest ih =>
    have first := counts host event
    have later := ih (host.step event).1
    simp only [run, List.countP_append]
    omega

/--
In every run the lifecycle goes forward only, and a node is started once and stopped once at most.
Until it runs, and once it does no longer, whatever it is asked is refused, as are a start and a
stop at the wrong time, and nothing changes by that; the message of a typed call is archived before
the node is asked, and fails first if it cannot be. After a start that failed for lack of a socket
the node is as new, and the network is as it was.
-/
theorem run_follows_lifecycle (network : Network) (config : Config) (events : List Event) :
    let host := ((new network config).run events).1
    let reports := ((new network config).run events).2
    let lifecycle := host.node.lifecycle
    (∀ event, (host.step event).1.node.lifecycle = lifecycle ∨
      lifecycle.Leads (host.step event).1.node.lifecycle) ∧
    reports.countP Report.hasStarted = (if host.isUp then 1 else 0) ∧
    reports.countP Report.hasStopped = (if lifecycle = .stopped then 1 else 0) ∧
    (lifecycle ≠ .running → ∀ question, host.step (.ask question) =
      (host, some (.answered question
        (.error (question.fault?.getD (.state .running lifecycle)))))) ∧
    (lifecycle ≠ .created →
      host.step .start = (host, some (.started (.error (.state .created lifecycle))))) ∧
    (lifecycle ≠ .running → ∀ choice,
      host.step (.stop choice) = (host, some (.stopped (.error (.state .running lifecycle))))) ∧
    ∀ event fault, (host.step event).2 = some (.started (.error (.startup fault))) →
      (host.step event).1.node = { Node.new config with lifecycle := .failed } ∧
      (host.step event).1.calls = [] ∧ (host.step event).1.handed = [] ∧
      (host.step event).1.network.sockets = host.network.sockets ∧
      (host.step event).1.network.bindings = host.network.bindings := by
  intro host reports lifecycle
  have stage : host.Stage config := (stage_new network config).run events
  refine ⟨?_, ?_, ?_, ?_, ?_, ?_, ?_⟩
  · intro event
    exact (host.step_moves event).leads
  · have counts : reports.countP Report.hasStarted + 0 = host.isUp.toNat :=
      countP_run (fun host event => (host.step_moves event).countP_hasStarted) _ events
    rw [Nat.add_zero] at counts
    rw [counts]
    cases host.isUp <;> rfl
  · have counts : reports.countP Report.hasStopped + 0 = host.isStopped.toNat :=
      countP_run (fun host event => (host.step_moves event).countP_hasStopped) _ events
    rw [Nat.add_zero] at counts
    rw [counts]
    split
    next stopped => exact congrArg Bool.toNat (decide_eq_true stopped)
    next going => exact congrArg Bool.toNat (decide_eq_false going)
  · intro resting question
    have refused := Node.ask_of_resting resting question
    simp only [step, ask, refused]
    rfl
  · intro begun
    have refused : host.node.beginStart = .error (.state .created lifecycle) := if_neg begun
    simp only [step, refused]
  · intro resting choice
    have refused : host.node.beginStop choice = .error (.state .running lifecycle) := by
      simp [Node.beginStop, Node.transition, resting, lifecycle]
    simp only [step, refused]
  · intro event fault failed
    exact (host.step_moves event).nothing_left stage failed

end

/-- A message that its own type refuses to archive. -/
def nowhere : Payload := ⟨.declared "path" .text rfl String.isEmpty, ""⟩

/--
A node that has not been started refuses to send a message, whatever the message, because it does
not run. A typed call of a message that cannot be archived it refuses because of the message.
-/
theorem created_node_archives_before_it_refuses :
    let host := new .empty (.new "cluster" ⟨"a"⟩ .unspecified .unspecified [])
    let call : Node.Question := .typedCall ⟨0, 0⟩ [⟨"b"⟩] "finder" "find" nowhere none
    let send : Node.Question := .sendMessage ⟨1, by decide⟩ nowhere none
    host.node.lifecycle = .created ∧
    host.step (.ask call) = (host, some (.answered call (.error (.serialization
      "Failed to serialize value of type path")))) ∧
    host.step (.ask send) = (host, some (.answered send (.error (.state .running .created)))) := by
  intro host call send
  have resting : host.node.lifecycle ≠ .running := by decide
  have refused := Node.ask_of_resting resting call
  have alsoRefused := Node.ask_of_resting resting send
  have fault : call.fault? = some (.serialization "Failed to serialize value of type path") := rfl
  rw [fault] at refused
  refine ⟨rfl, ?_, ?_⟩
  · simp only [step, ask, refused]
    rfl
  · simp only [step, ask, alsoRefused]
    rfl

/--
A node whose address is taken refuses what it is asked while it starts, and then fails as it was
made.
-/
theorem start_fails_at_taken_address :
    let config : Config := .new "cluster" ⟨"a"⟩ .unspecified .unspecified []
    let network := (Network.empty.bind .unspecified).1
    let host := ((new network config).run [.start]).1
    host.step (.ask .members) =
      (host, some (.answered .members (.error (.state .running .starting)))) ∧
    host.step .start = (host, some (.started (.error (.state .created .starting)))) ∧
    (host.step (.opened 0)).1.node = { Node.new config with lifecycle := .failed } ∧
    (host.step (.opened 0)).1.network.bindings = network.bindings := by
  intro config network host
  obtain ⟨-, -, -, refuses, once, -, fails⟩ := run_follows_lifecycle network config [.start]
  have taken : (host.step (.opened 0)).2 =
      some (.started (.error (.startup (.addressInUse .unspecified)))) := rfl
  obtain ⟨failed, -, -, -, bindings⟩ := fails (.opened 0) _ taken
  exact ⟨refuses (by decide) .members, once (by decide), failed, bindings⟩

end Host

end ClusterCoordination
