import Mathlib.Data.List.Induction
import ClusterCoordination.Proofs.Bindings
import ClusterCoordination.Proofs.Nodes.Footprint
import ClusterCoordination.Samples.Recorder
/-!
# Handing over by scope

Handlers come and go while messages are handed over. Who takes a message is decided by the handlers
that were bound to its scope, and by nothing that handlers have done with earlier messages. What
they did is in the log and in two counters, which between them account for every message.
-/

set_option autoImplicit false

namespace ClusterCoordination

namespace Handed

variable {Taken : Type}

def isUnbound : Handed Taken → Bool
  | .unbound => true
  | .undecodable _ | .handled _ => false

def taken? : Handed Taken → Option Taken
  | .handled taken => some taken
  | .unbound | .undecodable _ => none

def isDone (handed : Handed Handling) : Bool :=
  match handed.taken? with
  | some handling => handling.ending = .done
  | none => false

end Handed

namespace Node

/-! ### Runs -/

inductive HandlerEvent where
  | rebind (change : Rebinding Scope Handler)
  -- A message is handed over, and the handler that takes it, if any, performs as given.
  | message (message : InboundMessage) (perform : HandlerCall → Handling)

namespace HandlerEvent

def change? : HandlerEvent → Option (Rebinding Scope Handler)
  | .rebind change => some change
  | .message .. => none

def changes (events : List HandlerEvent) : List (Rebinding Scope Handler) :=
  events.filterMap change?

def meets (changes : List (Rebinding Scope Handler)) (message : InboundMessage) :
    Handed HandlerCall :=
  match Rebinding.latest changes message.scope with
  | none => .unbound
  | some handler =>
    match handler.message.decode message.payload with
    | .error status => .undecodable status
    | .ok payload => .handled ⟨handler, message.sender, payload⟩

/-- What becomes of the messages, in order, each after the changes that were made before it. -/
def outcomes (earlier : List (Rebinding Scope Handler)) : List HandlerEvent → List (Handed Handling)
  | [] => []
  | .message arrived perform :: rest => (meets earlier arrived).map perform :: outcomes earlier rest
  | .rebind change :: rest => outcomes (earlier ++ [change]) rest

end HandlerEvent

open HandlerEvent

/-- The states of a node and its log, from when it had no handlers and none was busy. -/
inductive Tended (start : Node) : List HandlerEvent → Node → List LogEntry → Prop where
  | opened (unbound : start.handlers = .empty) (idle : start.busy = none) :
      Tended start [] start []
  | registered {events : List HandlerEvent} {node : Node} {log : List LogEntry}
      (tended : Tended start events node log) (scope : Scope) (handler : Handler) :
      Tended start (events ++ [.rebind (.bind scope handler)])
        { node with handlers := (node.handlers.register scope handler).1 } log
  | deregistered {events : List HandlerEvent} {node : Node} {log : List LogEntry}
      (tended : Tended start events node log) (scope : Scope) :
      Tended start (events ++ [.rebind (.release scope)])
        { node with handlers := (node.handlers.deregister scope).1 } log
  | handed {events : List HandlerEvent} {node after : Node} {log entries : List LogEntry}
      (tended : Tended start events node log) (idle : node.busy = none) {now : Instant}
      {message : InboundMessage} {perform : HandlerCall → Handling}
      (accepted : node.accept now
        ((node.handlers.receive message.sender message.scope message.payload).map perform) =
          (after, entries)) :
      Tended start (events ++ [.message message perform]) after (log ++ entries)
  | ended {events : List HandlerEvent} {node after : Node} {log entries : List LogEntry}
      (tended : Tended start events node log) {busy : BusyHandler}
      (occupied : node.busy = some busy)
      (finished : node.finishHandling busy.handling = (after, entries)) :
      Tended start events after (log ++ entries)
  -- Whatever else the node does.
  | apart {events : List HandlerEvent} {node after : Node} {log : List LogEntry}
      (tended : Tended start events node log) (handlers : after.handlers = node.handlers)
      (busy : after.busy = node.busy)
        (dispatched : after.traffic.dispatched = node.traffic.dispatched)
      (dropped : after.traffic.dropped = node.traffic.dropped) : Tended start events after log

/-! ### What handing over changes -/

def endHandling (node : Node) : Node × List LogEntry :=
  match node.busy with
  | some busy => node.finishHandling busy.handling
  | none => (node, [])

theorem endHandling_of_idle {node : Node} (idle : node.busy = none) :
    node.endHandling = (node, []) := by
  unfold endHandling
  split
  next busy occupied => cases idle.symm.trans occupied
  next => rfl

theorem endHandling_finishHandling (node : Node) (handling : Handling) :
    (node.finishHandling handling).1.endHandling = ((node.finishHandling handling).1, []) := by
  obtain ⟨_, freed⟩ := node.finishHandling_eq handling
  exact endHandling_of_idle (by rw [freed])

theorem endHandling_handled (node : Node) (now : Instant) (handling : Handling) :
    (node.accept now (.handled handling)).1.endHandling.1 = (node.finishHandling handling).1 ∧
    (node.accept now (.handled handling)).2 ++
      (node.accept now (.handled handling)).1.endHandling.2 =
      [handling.entry] := by
  simp only [accept]
  split
  · simp only [endHandling_finishHandling]
    exact ⟨trivial, rfl⟩
  · exact ⟨rfl, rfl⟩

theorem endHandling_accept {node : Node} (idle : node.busy = none) (now : Instant)
    (handed : Handed Handling) :
    (node.accept now handed).1.endHandling.1 = { node with traffic := { node.traffic with
      dispatched := node.traffic.dispatched + if handed.isDone then 1 else 0
      dropped := node.traffic.dropped + if handed.isUnbound then 1 else 0 } } ∧
    (node.accept now handed).2 ++ (node.accept now handed).1.endHandling.2 =
      (handed.taken?.map Handling.entry).toList := by
  cases handed with
  | unbound =>
    have counted : node.countDropped.endHandling = (node.countDropped, []) :=
      endHandling_of_idle idle
    simp only [accept, counted]
    exact ⟨rfl, rfl⟩
  | undecodable status =>
    simp only [accept, endHandling_of_idle idle]
    exact ⟨rfl, rfl⟩
  | handled handling =>
    have free : { node with busy := none } = node := by rw [← idle]
    obtain ⟨finished, entries⟩ := node.endHandling_handled now handling
    refine ⟨?_, entries⟩
    rw [finished]
    simp only [finishHandling, free, Handed.isDone, Handed.taken?, decide_eq_true_eq]
    split <;> rfl

theorem endHandling_congr {node after : Node} (busy : after.busy = node.busy)
    (dispatched : after.traffic.dispatched = node.traffic.dispatched)
    (dropped : after.traffic.dropped = node.traffic.dropped) :
    after.endHandling.2 = node.endHandling.2 ∧
      after.endHandling.1.traffic.dispatched = node.endHandling.1.traffic.dispatched ∧
      after.endHandling.1.traffic.dropped = node.endHandling.1.traffic.dropped := by
  unfold endHandling
  rw [busy]
  cases node.busy with
  | none => exact ⟨rfl, dispatched, dropped⟩
  | some busy =>
    simp only [finishHandling, countDispatched]
    split <;> simp only [dispatched, dropped, and_self]

/-! ### Who takes a message -/

theorem meets_congr {changes others : List (Rebinding Scope Handler)} {message : InboundMessage}
    (same : (others.filter fun change => change.key = message.scope) =
      changes.filter fun change => change.key = message.scope) :
    meets others message = meets changes message := by
  have latest : Rebinding.latest others message.scope = Rebinding.latest changes message.scope := by
    rw [← Rebinding.latest_filter others, same, Rebinding.latest_filter]
  simp only [meets, latest]

theorem receive_eq_meets {table : HandlerTable} {changes : List (Rebinding Scope Handler)}
    (bound : table.find? = Rebinding.latest changes) (message : InboundMessage) :
    table.receive message.sender message.scope message.payload = meets changes message := by
  have latest : Rebinding.latest changes message.scope = table.find? message.scope := by rw [bound]
  cases found : table.find? message.scope with
  | none => simp only [HandlerTable.receive, meets, latest, found]
  | some handler =>
    cases decoded : handler.message.decode message.payload <;>
      simp only [HandlerTable.receive, meets, latest, found, decoded]

theorem changes_rebind (events : List HandlerEvent) (change : Rebinding Scope Handler) :
    changes (events ++ [.rebind change]) = changes events ++ [change] := by
  rw [changes, List.filterMap_append]
  rfl

theorem changes_message (events : List HandlerEvent) (message : InboundMessage)
    (perform : HandlerCall → Handling) :
    changes (events ++ [.message message perform]) = changes events := by
  rw [changes, List.filterMap_append]
  exact List.append_nil _

theorem outcomes_concat (earlier : List (Rebinding Scope Handler)) (events : List HandlerEvent)
    (event : HandlerEvent) :
    outcomes earlier (events ++ [event]) =
      outcomes earlier events ++ outcomes (earlier ++ changes events) [event] := by
  induction events generalizing earlier with
  | nil =>
    rw [changes, List.filterMap_nil, List.append_nil]
    rfl
  | cons first rest ih =>
    cases first with
    | message arrived perform => exact congrArg (_ :: ·) (ih earlier)
    | rebind change =>
      have shifted : earlier ++ changes (.rebind change :: rest) =
          earlier ++ [change] ++ changes rest := by
        rw [List.append_assoc]
        rfl
      rw [shifted]
      exact ih (earlier ++ [change])

structure Accounts (start : Node) (events : List HandlerEvent) (node : Node) (log : List LogEntry) :
    Prop where
  bound : node.handlers.find? = Rebinding.latest (changes events)
  logged : log ++ node.endHandling.2 =
    ((outcomes [] events).filterMap Handed.taken?).map Handling.entry
  dispatched : node.endHandling.1.traffic.dispatched =
    start.traffic.dispatched + (outcomes [] events).countP Handed.isDone
  dropped : node.endHandling.1.traffic.dropped =
    start.traffic.dropped + (outcomes [] events).countP Handed.isUnbound

section

variable {start node after : Node} {events : List HandlerEvent} {log entries : List LogEntry}

theorem Accounts.opened (unbound : start.handlers = .empty) (idle : start.busy = none) :
    Accounts start [] start [] := by
  have still := endHandling_of_idle idle
  exact ⟨by rw [unbound]; rfl, by rw [still]; rfl, by rw [still]; rfl, by rw [still]; rfl⟩

theorem Accounts.rebind (accounts : Accounts start events node log)
    {change : Rebinding Scope Handler}
    (applied : after.handlers.entries = change.apply node.handlers.entries)
    (busy : after.busy = node.busy) (traffic : after.traffic = node.traffic) :
    Accounts start (events ++ [.rebind change]) after log := by
  obtain ⟨entries, dispatched, dropped⟩ := endHandling_congr busy
    (congrArg Traffic.dispatched traffic) (congrArg Traffic.dropped traffic)
  have same : outcomes [] (events ++ [.rebind change]) = outcomes [] events := by
    rw [outcomes_concat]
    exact List.append_nil _
  have bound : Bindings.get? after.handlers.entries =
      Rebinding.latest (changes (events ++ [.rebind change])) := by
    rw [applied, changes_rebind]
    exact Rebinding.get?_concat accounts.bound change
  exact ⟨bound, by rw [entries, accounts.logged, same],
    by rw [dispatched, accounts.dispatched, same], by rw [dropped, accounts.dropped, same]⟩

theorem Accounts.message (accounts : Accounts start events node log) (idle : node.busy = none)
    {now : Instant} {message : InboundMessage} {perform : HandlerCall → Handling}
    (accepted : node.accept now ((meets (changes events) message).map perform) = (after, entries)) :
    Accounts start (events ++ [.message message perform]) after (log ++ entries) := by
  have last : outcomes [] (events ++ [.message message perform]) =
      outcomes [] events ++ [(meets (changes events) message).map perform] := by
    rw [outcomes_concat]
    rfl
  generalize (meets (changes events) message).map perform = outcome at accepted last
  -- Nothing was outstanding before, so the new outcome is all that is added.
  have still := endHandling_of_idle idle
  obtain ⟨_, _, _, apart⟩ := node.accept_eq now outcome
  obtain ⟨counted, added⟩ := endHandling_accept idle now outcome
  rw [accepted] at apart counted added
  have handlers : after.handlers = node.handlers := (congrArg Node.handlers apart).trans rfl
  have noted : ([outcome].filterMap Handed.taken?).map Handling.entry =
      (outcome.taken?.map Handling.entry).toList := by
    rw [List.filterMap_cons, List.filterMap_nil]
    cases outcome.taken? <;> rfl
  constructor
  case bound => rw [handlers, changes_message, accounts.bound]
  case logged =>
    have logged := accounts.logged
    rw [still, List.append_nil] at logged
    rw [List.append_assoc, added, last, List.filterMap_append, List.map_append, noted, logged]
  case dispatched =>
    have dispatched := accounts.dispatched
    rw [still] at dispatched
    rw [counted, last, List.countP_append, List.countP_singleton, dispatched, Nat.add_assoc]
  case dropped =>
    have dropped := accounts.dropped
    rw [still] at dropped
    rw [counted, last, List.countP_append, List.countP_singleton, dropped, Nat.add_assoc]

theorem Accounts.ended (accounts : Accounts start events node log) {busy : BusyHandler}
    (occupied : node.busy = some busy)
    (finished : node.finishHandling busy.handling = (after, entries)) :
    Accounts start events after (log ++ entries) := by
  have ended : node.endHandling = (after, entries) := by
    unfold endHandling
    rw [occupied]
    exact finished
  have still := node.endHandling_finishHandling busy.handling
  obtain ⟨_, freed⟩ := node.finishHandling_eq busy.handling
  rw [finished] at still freed
  have handlers : after.handlers = node.handlers := (congrArg Node.handlers freed).trans rfl
  have logged := accounts.logged
  have dispatched := accounts.dispatched
  have dropped := accounts.dropped
  rw [ended] at logged dispatched dropped
  exact ⟨by rw [handlers, accounts.bound], by rw [still, List.append_nil, logged],
    by rw [still, dispatched], by rw [still, dropped]⟩

theorem Tended.accounts (tended : Tended start events node log) :
    Accounts start events node log := by
  induction tended with
  | opened unbound idle => exact .opened unbound idle
  | registered tended scope handler ih => exact ih.rebind rfl rfl rfl
  | deregistered tended scope ih => exact ih.rebind rfl rfl rfl
  | handed tended idle accepted ih => exact ih.message idle (receive_eq_meets ih.bound _ ▸ accepted)
  | ended tended occupied finished ih => exact ih.ended occupied finished
  | apart tended handlers busy dispatched dropped ih =>
    obtain ⟨entries, endedDispatched, endedDropped⟩ := endHandling_congr busy dispatched dropped
    exact ⟨by rw [handlers, ih.bound], by rw [entries, ih.logged],
      by rw [endedDispatched, ih.dispatched], by rw [endedDropped, ih.dropped]⟩

theorem Tended.endHandling (tended : Tended start events node log) :
    Tended start events node.endHandling.1 (log ++ node.endHandling.2) ∧
      node.endHandling.1.busy = none := by
  cases occupied : node.busy with
  | none =>
    rw [endHandling_of_idle occupied, List.append_nil]
    exact ⟨tended, occupied⟩
  | some busy =>
    have ended : node.endHandling = node.finishHandling busy.handling := by
      unfold Node.endHandling
      rw [occupied]
    obtain ⟨_, freed⟩ := node.finishHandling_eq busy.handling
    rw [ended]
    exact ⟨tended.ended occupied rfl, by rw [freed]⟩

theorem exists_tended (unbound : start.handlers = .empty) (idle : start.busy = none)
    (events : List HandlerEvent) :
    ∃ node log, Tended start events node log ∧ node.busy = none := by
  induction events using List.reverseRecOn with
  | nil => exact ⟨start, [], .opened unbound idle, idle⟩
  | append_singleton earlier event ih =>
    obtain ⟨node, log, tended, stillIdle⟩ := ih
    cases event with
    | rebind change =>
      cases change with
      | bind scope handler => exact ⟨_, log, tended.registered scope handler, stillIdle⟩
      | release scope => exact ⟨_, log, tended.deregistered scope, stillIdle⟩
    | message message perform =>
      -- A handler that takes its time ends before the next event.
      let accepted := node.accept 0
        ((node.handlers.receive message.sender message.scope message.payload).map perform)
      have handed : Tended start (earlier ++ [.message message perform]) accepted.1
          (log ++ accepted.2) := tended.handed stillIdle rfl
      exact ⟨_, _, handed.endHandling⟩

theorem Tended.dispatchMessages (tended : Tended start events node log)
    (idle : node.busy = none) (now : Instant) (messages : List InboundMessage) :
    ∃ handed, messages = handed ++ (dispatchMessages now messages node).1.inbound ∧
      Tended start (events ++ handed.map fun message => .message message HandlerCall.perform)
        (dispatchMessages now messages node).1 (log ++ (dispatchMessages now messages node).2) := by
  induction messages generalizing node events log with
  | nil =>
    have emptied : Tended start events { node with inbound := [] } log :=
      tended.apart rfl rfl rfl rfl
    refine ⟨[], rfl, ?_⟩
    rw [List.map_nil, List.append_nil]
    exact (List.append_nil log).symm ▸ emptied
  | cons message rest ih =>
    have first : Tended start (events ++ [.message message HandlerCall.perform])
        (node.dispatchMessage now message).1 (log ++ (node.dispatchMessage now message).2) :=
      tended.handed idle rfl
    unfold Node.dispatchMessages
    dsimp only
    split
    next occupied => exact ⟨[message], rfl, first.apart rfl rfl rfl rfl⟩
    next free =>
      have stillIdle : (node.dispatchMessage now message).1.busy = none := by simpa using free
      obtain ⟨handed, split, later⟩ := ih first stillIdle
      refine ⟨message :: handed, congrArg (message :: ·) split, ?_⟩
      rw [List.append_assoc, List.append_assoc] at later
      exact later

theorem Tended.handleMessages (tended : Tended start events node log) (now : Instant) :
    ∃ handed, node.inbound = handed ++ (node.handleMessages now).1.inbound ∧
      Tended start (events ++ handed.map fun message => .message message HandlerCall.perform)
        (node.handleMessages now).1 (log ++ (node.handleMessages now).2) := by
  unfold Node.handleMessages
  split
  next idle => exact tended.dispatchMessages idle now node.inbound
  next busy occupied =>
    split
    · exact ⟨[], rfl, by simpa using tended⟩
    next due =>
      obtain ⟨_, freed⟩ := node.finishHandling_eq busy.handling
      have idle : (node.finishHandling busy.handling).1.busy = none := by rw [freed]
      have kept : (node.finishHandling busy.handling).1.inbound = node.inbound := by rw [freed]
      obtain ⟨handed, split, later⟩ := (tended.ended occupied rfl).dispatchMessages idle now
        (node.finishHandling busy.handling).1.inbound
      refine ⟨handed, kept.symm.trans split, ?_⟩
      rw [List.append_assoc] at later
      exact later

/--
Every message goes to the handler bound to its scope, or to none, and the log and the counters tell
what came of it. The same handler takes it in all runs that bind the same handlers to its scope. A
node that handles its messages goes on with such a run.
-/
theorem Tended.accounts_for_messages (tended : Tended start events node log) :
    Accounts start events node log ∧
    (∀ (now : Instant) (message : InboundMessage),
      node.handlers.receive message.sender message.scope message.payload =
        meets (changes events) message ∧
      node.dispatchMessage now message =
        node.accept now ((meets (changes events) message).map HandlerCall.perform)) ∧
    (node.busy = none → ∀ (now : Instant) (outcome : Handed Handling),
      (node.accept now outcome).1.endHandling.1 = { node with traffic := { node.traffic with
        dispatched := node.traffic.dispatched + if outcome.isDone then 1 else 0
        dropped := node.traffic.dropped + if outcome.isUnbound then 1 else 0 } } ∧
      (node.accept now outcome).2 ++ (node.accept now outcome).1.endHandling.2 =
        (outcome.taken?.map Handling.entry).toList) ∧
    (∀ {first other : Node} {others : List HandlerEvent} {otherLog : List LogEntry},
      Tended first others other otherLog → ∀ message : InboundMessage,
      ((changes others).filter fun change => change.key = message.scope) =
        ((changes events).filter fun change => change.key = message.scope) →
      other.handlers.receive message.sender message.scope message.payload =
        node.handlers.receive message.sender message.scope message.payload) ∧
    ∀ now : Instant, ∃ handed, node.inbound = handed ++ (node.handleMessages now).1.inbound ∧
      Tended start (events ++ handed.map fun message => .message message HandlerCall.perform)
        (node.handleMessages now).1 (log ++ (node.handleMessages now).2) := by
  have accounts := tended.accounts
  refine ⟨accounts, ?_, fun idle now outcome => endHandling_accept idle now outcome, ?_,
    tended.handleMessages⟩
  · intro now message
    have received := receive_eq_meets accounts.bound message
    exact ⟨received, by rw [dispatchMessage, HandlerTable.hand, received]⟩
  · intro first other others otherLog alsoTended message same
    rw [receive_eq_meets accounts.bound, receive_eq_meets alsoTended.accounts.bound,
      meets_congr same]

end

/--
A handler that crashed is replaced, and the next message is done. Two others reach no handler.
-/
theorem replaced_handler_takes_later_messages :
    let start := Node.new (.new "cluster" ⟨"a"⟩ .unspecified .unspecified [])
    let crashing := Samples.Recorder.handler "old" .flag .crash
    let steady := Samples.Recorder.handler "new" .flag .succeed
    let good : InboundMessage := ⟨⟨"b"⟩, .indexing, [1]⟩
    let garbled : InboundMessage := ⟨⟨"b"⟩, .indexing, [7]⟩
    let stray : InboundMessage := ⟨⟨"b"⟩, .cacheRebuild, [1]⟩
    let events : List HandlerEvent := [.rebind (.bind .indexing crashing),
      .message good HandlerCall.perform, .rebind (.bind .indexing steady),
      .message good HandlerCall.perform, .message garbled HandlerCall.perform,
      .message stray HandlerCall.perform]
    ∃ node log, Tended start events node log ∧
      log ++ node.endHandling.2 =
        [⟨"old", ⟨"b"⟩, ⟨.flag, true⟩⟩, ⟨"new", ⟨"b"⟩, ⟨.flag, true⟩⟩] ∧
      node.endHandling.1.traffic.dispatched = 1 ∧ node.endHandling.1.traffic.dropped = 1 := by
  intro start crashing steady good garbled stray events
  have unbound : start.handlers = .empty := rfl
  obtain ⟨node, log, tended, -⟩ := exists_tended unbound rfl events
  obtain ⟨accounts, -⟩ := tended.accounts_for_messages
  exact ⟨node, log, tended, accounts.logged, accounts.dispatched, accounts.dropped⟩

end Node

end ClusterCoordination
