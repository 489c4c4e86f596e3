import Mathlib.Data.List.Nodup
import Mathlib.Data.List.Range
import PeerNet.Proofs.Service.Starts
import PeerNet.Service.Joining

/-!
# The hooks of services are nested

Services are started in the order of their registration, and stopped in the reverse order of their
starts, whatever becomes of the starts and however often the owner of the executor goes on.

* **Replaying a journal** (`replay`): which services run follows from the journal, if only the one
  that was started last is ever stopped. The executor agrees (`Orderly`).
* **A call** (`Orderly.perform`): registering, starting and requesting a stop keep this.
* **Joining** (`Unwinding`): whoever joins stops what runs, the last one first, and nothing else
  happens to a service meanwhile, whoever requests a stop or interrupts the process.
* **Any calls** (`run_keepsHooks`).
-/

namespace PeerNet.Service

/-! ### Replaying a journal -/

/-- The services that run after an event, the last one started first. Only the service that was
started last can be stopped. -/
def Event.follow (running : List Registration) : Event → Option (List Registration)
  | .start service => some (if service.refusal = none then service :: running else running)
  | .stop service =>
    match running with
    | last :: rest => if last = service then some rest else none
    | [] => none

/-- The services that run after several events. -/
def replay (running : List Registration) (events : List Event) : Option (List Registration) :=
  events.foldlM Event.follow running

/-- The service whose start an event tells of. -/
def Event.tried? : Event → Option Registration
  | .start service => some service
  | .stop _ => none

/-- The services whose start was tried, in this order. -/
def tried (events : List Event) : List Registration := events.filterMap Event.tried?

section replay

variable {running after services : List Registration} {front back events : List Event}

/-- Replaying a journal may be cut anywhere. -/
theorem replay_append (running : List Registration) (front back : List Event) :
    replay running (front ++ back) = (replay running front).bind (replay · back) := by
  simp [replay, List.foldlM_append]

@[simp] theorem tried_append (front back : List Event) :
    tried (front ++ back) = tried front ++ tried back := List.filterMap_append

/-- A row of starts tries its services. -/
@[simp] theorem tried_starts (services : List Registration) :
    tried (services.map .start) = services := by
  induction services with
  | nil => rfl
  | cons service rest ih => exact congrArg (service :: ·) ih

@[simp] theorem tried_stops (services : List Registration) : tried (services.map .stop) = [] := by
  induction services with
  | nil => rfl
  | cons service rest ih => exact ih

/-- Services that accept run once they are started. -/
theorem replay_starts (accept : ∀ service ∈ services, service.refusal = none)
    (running : List Registration) :
    replay running (services.map .start) = some (services.reverse ++ running) := by
  induction services generalizing running with
  | nil => rfl
  | cons service rest ih =>
    obtain ⟨accepts, accept⟩ := List.forall_mem_cons.mp accept
    have follows : Event.follow running (.start service) = some (service :: running) := by
      rw [Event.follow, if_pos accepts]
    rw [List.map_cons, replay, List.foldlM_cons, follows, List.reverse_cons, List.append_assoc]
    exact ih accept (service :: running)

/-- A service that refuses makes no difference to what runs. -/
theorem replay_refusal {service : Registration} {error : Error}
    (refuses : service.refusal = some error) (running : List Registration) :
    replay running [.start service] = some running := by
  simp [replay, Event.follow, refuses]

/-- The services that were started last can be stopped, the last one first. -/
theorem replay_stops (services running : List Registration) :
    replay (services ++ running) (services.map .stop) = some running := by
  induction services with
  | nil => rfl
  | cons service rest ih =>
    have follows : Event.follow (service :: (rest ++ running)) (.stop service) =
        some (rest ++ running) := by
      rw [Event.follow, if_pos rfl]
    rw [List.map_cons, List.cons_append, replay, List.foldlM_cons, follows]
    exact ih

/-- A stop is of the service that was started last. -/
theorem follow_stop {service : Registration}
    (follows : Event.follow running (.stop service) = some after) :
    running = service :: after := by
  cases running with
  | nil => cases follows
  | cons last rest =>
    rw [Event.follow] at follows
    split_ifs at follows with same
    rw [same, Option.some.inj follows]

/-- Of a service, a start that it accepts is one more that runs, and a stop one less. -/
theorem follow_count {event : Event} (follows : Event.follow running event = some after)
    (service : Registration) :
    [event].count (.stop service) + after.count service = running.count service +
      if service.refusal = none then [event].count (.start service) else 0 := by
  cases event with
  | start other =>
    obtain rfl := Option.some.inj follows
    by_cases same : other = service
    · subst same
      by_cases accepts : other.refusal = none <;> simp [accepts]
    · by_cases accepts : other.refusal = none <;> simp [accepts, same]
  | stop other =>
    obtain rfl := follow_stop follows
    by_cases same : other = service
    · simp [same, Nat.add_comm]
    · simp [same]

/-- The first event is counted by itself. -/
theorem count_first (event : Event) (rest : List Event) (counted : Event) :
    (event :: rest).count counted = [event].count counted + rest.count counted := by
  rw [← List.singleton_append, List.count_append]

/-- Of a service, as many are stopped or run as were started and accepted, beside those that ran
before. -/
theorem replay_count (replayed : replay running events = some after) (service : Registration) :
    events.count (.stop service) + after.count service =
      running.count service +
        if service.refusal = none then events.count (.start service) else 0 := by
  induction events generalizing running with
  | nil =>
    obtain rfl : running = after := Option.some.inj replayed
    simp
  | cons event rest ih =>
    rw [replay, List.foldlM_cons] at replayed
    obtain ⟨next, follows, replayed⟩ := Option.bind_eq_some_iff.mp replayed
    have first := follow_count follows service
    have later := ih replayed
    rw [count_first event rest (.stop service), count_first event rest (.start service)]
    split_ifs at first later ⊢ <;> omega

/-- A service that is stopped is the one that was started last and is not stopped yet. -/
theorem replay_before_stop {service : Registration}
    (replayed : replay running (front ++ .stop service :: back) = some after) :
    ∃ rest, replay running front = some (service :: rest) := by
  rw [replay_append] at replayed
  obtain ⟨next, before, replayed⟩ := Option.bind_eq_some_iff.mp replayed
  rw [replay, List.foldlM_cons] at replayed
  obtain ⟨rest, follows, -⟩ := Option.bind_eq_some_iff.mp replayed
  exact ⟨rest, before.trans (congrArg some (follow_stop follows))⟩

/-- There are as many starts of a service in a journal as it was tried. -/
theorem count_tried (events : List Event) (service : Registration) :
    (tried events).count service = events.count (.start service) := by
  induction events with
  | nil => rfl
  | cons event rest ih =>
    have known : tried (event :: rest) = tried [event] ++ tried rest := tried_append [event] rest
    rw [known, List.count_append, ih, count_first]
    congr 1
    cases event with
    | start other =>
      have alone : tried [.start other] = [other] := rfl
      rw [alone]
      by_cases same : other = service <;> simp [same]
    | stop other =>
      have alone : tried [.stop other] = [] := rfl
      simp [alone]

end replay

/-! ### The owner's calls -/

namespace Executor

/-- The journal of an executor agrees with what it knows of its services. -/
structure Orderly (executor : Executor) : Prop where
  /-- Services are numbered in the order of their registration. -/
  numbered : executor.registered.map Registration.number = List.range executor.registered.length
  /-- The pending ones were registered last, and the others were tried in their order if at all. -/
  ordered : ∃ front, executor.registered = front ++ executor.pending ∧
    (tried executor.history).Sublist front
  /-- Those run that follow from the journal. -/
  replayed : replay [] executor.history = some executor.started

section orderly

variable {executor after : Executor}

/-- A new executor has an empty journal and no services. -/
theorem new_orderly (settings : Config.ExecutorSettings) : (new settings).Orderly :=
  ⟨rfl, ⟨[], rfl, List.Sublist.slnil⟩, rfl⟩

/-- Whether the journal is in line is a matter of the hooks alone. -/
theorem Orderly.of_hooks (orderly : executor.Orderly) (same : after.hooks = executor.hooks) :
    after.Orderly := by
  obtain ⟨numbered, ordered, replayed⟩ := orderly
  rw [← registered_of_hooks same, ← history_of_hooks same] at *
  rw [← pending_of_hooks same] at ordered
  rw [← started_of_hooks same] at replayed
  exact ⟨numbered, ordered, replayed⟩

/-- Stopping services, the last one first, leaves the journal in line with those that run. -/
theorem Orderly.of_stopped (orderly : executor.Orderly) {stopped : List Registration}
    (registered : after.registered = executor.registered)
    (pending : after.pending = executor.pending)
    (split : executor.started = stopped ++ after.started)
    (history : after.history = executor.history ++ stopped.map .stop) : after.Orderly := by
  obtain ⟨numbered, ⟨front, inFront, inOrder⟩, replayed⟩ := orderly
  refine ⟨by rw [registered, numbered], ⟨front, ?_, ?_⟩, ?_⟩
  · rw [registered, pending, inFront]
  · rw [history, tried_append, tried_stops, List.append_nil]
    exact inOrder
  · rw [history, replay_append, replayed, split]
    exact replay_stops stopped after.started

/-- A registration adds a service that was never tried. -/
theorem Orderly.register (orderly : executor.Orderly) (entry : Entry) :
    (executor.register entry).Orderly := by
  obtain ⟨numbered, ⟨front, split, inOrder⟩, replayed⟩ := orderly
  refine ⟨?_, ⟨front, ?_, inOrder⟩, replayed⟩
  · simp only [Executor.register, List.map_append, numbered, List.length_append, List.map_singleton,
      List.length_singleton, List.range_succ]
  · simp only [Executor.register, split, List.append_assoc]

/-- A start tries the pending services, in order. -/
theorem Batch.tried_sublist {services : List Registration} {outcome : Except Error Unit}
    (batch : Batch executor services after outcome) :
    ∃ some, tried after.history = tried executor.history ++ some ∧ some.Sublist services := by
  cases batch with
  | all accept started history =>
    exact ⟨services, by rw [history, tried_append, tried_starts], List.Sublist.refl services⟩
  | refused front failed back split accept refuses started history =>
    refine ⟨front ++ [failed], ?_, ?_⟩
    · have alone : tried [.start failed] = [failed] := rfl
      rw [history, tried_append, tried_append, tried_starts, ← List.singleton_append, tried_append,
        alone, tried_stops, List.append_nil]
    · rw [split]
      exact ((List.nil_sublist back).cons_cons failed).append_left front

/-- After a start those run that follow from the journal. -/
theorem Batch.replayed {services : List Registration} {outcome : Except Error Unit}
    (batch : Batch executor services after outcome)
    (before : replay [] executor.history = some executor.started) :
    replay [] after.history = some after.started := by
  cases batch with
  | all accept started history =>
    rw [history, replay_append, before, started]
    exact replay_starts accept executor.started
  | refused front failed back split accept refuses started history =>
    have stops := replay_stops (front.reverse ++ executor.started) []
    rw [List.append_nil] at stops
    rw [history, replay_append, before, started, Option.bind_some, replay_append,
      replay_starts accept, Option.bind_some, ← List.singleton_append, replay_append,
      replay_refusal refuses, Option.bind_some, stops]

/-- A start tries pending services in order, and replays to those that run after it. -/
theorem Orderly.start (orderly : executor.Orderly) : (executor.start false).1.Orderly := by
  obtain ⟨registered, pending, batch⟩ := executor.start_batch
  obtain ⟨numbered, ⟨front, split, inOrder⟩, replayed⟩ := orderly
  refine ⟨by rw [registered, numbered], ⟨executor.registered, ?_, ?_⟩, batch.replayed replayed⟩
  · rw [registered, pending, List.append_nil]
  · obtain ⟨now, tries, nowInOrder⟩ := batch.tried_sublist
    rw [tries, split]
    exact inOrder.append nowInOrder

/-- **Every call leaves the journal in line with the services.** -/
theorem Orderly.perform (orderly : executor.Orderly) (call : Call) :
    (executor.perform call).Orderly := by
  cases call with
  | register entry => exact orderly.register entry
  | start onWorker =>
    cases onWorker with
    | false => exact orderly.start
    | true => exact orderly
  | stop => exact orderly.of_hooks hooks_requestStop

/-- Any calls leave the journal in line with the services. -/
theorem Orderly.run (orderly : executor.Orderly) (calls : List Call) :
    (executor.run calls).Orderly := by
  induction calls generalizing executor with
  | nil => exact orderly
  | cons call rest ih => exact ih (orderly.perform call)

end orderly

end Executor

/-! ### Joining -/

namespace Joint

open Executor

/-- Whoever joins an executor stops some of the services that ran, the last one first; nothing else
happens to a service meanwhile. -/
structure Unwinding (executor : Executor) (joint : Joint) : Prop where
  /-- No service is registered. -/
  registered : joint.executor.registered = executor.registered
  /-- None is about to be started. -/
  pending : joint.executor.pending = executor.pending
  /-- Some are stopped. -/
  stopped : ∃ stopped, executor.started = stopped ++ joint.executor.started ∧
    joint.executor.history = executor.history ++ stopped.map .stop
  /-- None runs in the end. -/
  finished : joint.stage = .joined → joint.executor.started = []

variable {executor : Executor} {joint : Joint}

/-- A request that returns calls no hooks. -/
@[simp] theorem hooks_finish (executor : Executor) (first : Bool) :
    (finish executor first).hooks = executor.hooks := by
  cases first <;> rfl

/-- Who begins to join has stopped none of the services yet. -/
theorem enterJoin_unwinding (executor : Executor) : executor.enterJoin.Unwinding executor :=
  ⟨rfl, rfl, ⟨[], rfl, (List.append_nil _).symm⟩, fun stage => Stage.noConfusion stage⟩

/-- What changes nothing about the services leaves joining where it is. -/
theorem Unwinding.of_hooks (unwinding : joint.Unwinding executor) {after : Joint}
    (same : after.executor.hooks = joint.executor.hooks)
    (finished : after.stage = .joined → joint.executor.started = []) :
    after.Unwinding executor := by
  refine ⟨(registered_of_hooks same).trans unwinding.registered,
    (pending_of_hooks same).trans unwinding.pending, ?_, ?_⟩
  · rw [started_of_hooks same, history_of_hooks same]
    exact unwinding.stopped
  · rw [started_of_hooks same]
    exact finished

/-- A stretch of the one who joins stops the service that was started last, or none. -/
theorem Unwinding.proceed (unwinding : joint.Unwinding executor) :
    joint.proceed.Unwinding executor := by
  obtain ⟨live, requests, stage⟩ := joint
  unfold Joint.proceed
  cases stage with
  | entering =>
    refine unwinding.of_hooks rfl fun joined => ?_
    by_cases raised : live.signal.raised = true <;> simp [raised] at joined
  | waiting interruptible =>
    have same := live.hooks_pollStop
    simp only
    generalize live.pollStop = polled at same ⊢
    obtain ⟨next, ready⟩ := polled
    cases ready with
    | false => exact unwinding.of_hooks same fun joined => Stage.noConfusion joined
    | true =>
      refine unwinding.of_hooks ?_ fun joined => Stage.noConfusion joined
      cases interruptible <;> exact same
  | awake => exact unwinding.of_hooks hooks_raiseStop fun joined => Stage.noConfusion joined
  | raised first =>
    exact unwinding.of_hooks (hooks_finish live first) fun joined => Stage.noConfusion joined
  | stopping =>
    obtain ⟨registered, pending, ⟨stopped, split, history⟩, -⟩ := unwinding
    simp only at split history
    cases started : live.started with
    | nil => exact ⟨registered, pending, ⟨stopped, split, history⟩, fun _ => started⟩
    | cons service rest =>
      refine ⟨registered, pending, ⟨stopped ++ [service], ?_, ?_⟩, fun joined => ?_⟩
      · rw [split, started, List.append_assoc]
        rfl
      · rw [List.map_append, ← List.append_assoc, ← history]
        exact List.reverse_cons
      · exact Stage.noConfusion joined
  | joined => exact unwinding

/-- **Whatever happens while an executor is joined**, nothing but this happens to its services. -/
theorem Unwinding.act (unwinding : joint.Unwinding executor) (action : Action) :
    (joint.act action).Unwinding executor := by
  cases action with
  | request => exact unwinding.of_hooks hooks_raiseStop unwinding.finished
  | answer index =>
    simp only [Joint.act]
    split
    · exact unwinding.of_hooks (hooks_finish _ _) unwinding.finished
    · exact unwinding
  | interrupt failure =>
    simp only [Joint.act]
    split
    · exact unwinding.of_hooks rfl fun joined => Stage.noConfusion joined
    · exact unwinding.of_hooks rfl fun joined => Stage.noConfusion joined
    · exact unwinding
  | proceed => exact unwinding.proceed

/-- On any schedule whoever joins only stops services, the last one first. -/
theorem Unwinding.run (unwinding : joint.Unwinding executor) (schedule : List Action) :
    (joint.run schedule).Unwinding executor := by
  induction schedule generalizing joint with
  | nil => exact unwinding
  | cons action rest ih => exact ih (unwinding.act action)

/-- Stopping services leaves the journal in line with them. -/
theorem Unwinding.orderly (unwinding : joint.Unwinding executor) (orderly : executor.Orderly) :
    joint.executor.Orderly := by
  obtain ⟨registered, pending, ⟨stopped, split, history⟩, -⟩ := unwinding
  exact orderly.of_stopped registered pending split history

end Joint

/-! ### Any calls -/

namespace Executor

/-- The hooks of services are nested. -/
structure Nested (executor : Executor) : Prop where
  /-- No service was registered twice. -/
  distinct : executor.registered.Nodup
  /-- Start hooks run in the order of registration, each at most once. -/
  inOrder : (tried executor.history).Sublist executor.registered
  /-- What runs is a stack: only the service that was started last is ever stopped. -/
  stacked : replay [] executor.history = some executor.started
  /-- A stop hook runs once the start hook of its service has succeeded, when no service was started
  since that is not stopped yet, and not a second time. -/
  stops : ∀ front service back, executor.history = front ++ .stop service :: back →
    .start service ∈ front ∧ service.refusal = none ∧ .stop service ∉ front ∧
      ∃ running, replay [] front = some (service :: running)

/-- Whatever was started is stopped. -/
structure Unwound (executor : Executor) : Prop where
  /-- No service runs. -/
  noneRuns : executor.started = []
  /-- Of every service that has started, the stop hook has run, and once. -/
  stoppedOnce : ∀ service, .start service ∈ executor.history → service.refusal = none →
    executor.history.count (.stop service) = 1

section nested

variable {executor : Executor}

/-- No service is registered twice. -/
theorem Orderly.distinct (orderly : executor.Orderly) : executor.registered.Nodup := by
  have numbers : (executor.registered.map Registration.number).Nodup := by
    rw [orderly.numbered]
    exact List.nodup_range
  exact numbers.of_map Registration.number

/-- The services were tried in the order of their registration, and each once at most. -/
theorem Orderly.inOrder (orderly : executor.Orderly) :
    (tried executor.history).Sublist executor.registered := by
  obtain ⟨front, split, inOrder⟩ := orderly.ordered
  rw [split]
  exact inOrder.trans (List.sublist_append_left front executor.pending)

/-- No start hook runs twice. -/
theorem Orderly.count_start_le (orderly : executor.Orderly) (service : Registration) :
    executor.history.count (.start service) ≤ 1 := by
  rw [← count_tried]
  exact List.nodup_iff_count_le_one.mp (orderly.distinct.sublist orderly.inOrder) service

/-- Of a service that has started, either it runs or the stop hook has run, and once. -/
theorem Orderly.count_stop (orderly : executor.Orderly) {service : Registration}
    (begun : .start service ∈ executor.history) (accepts : service.refusal = none) :
    executor.history.count (.stop service) + executor.started.count service = 1 := by
  have counted := replay_count orderly.replayed service
  have once := orderly.count_start_le service
  have some := List.count_pos_iff.mpr begun
  rw [if_pos accepts, List.count_nil] at counted
  omega

/-- Hooks whose journal is in line with the services are nested. -/
theorem Orderly.nested (orderly : executor.Orderly) : executor.Nested where
  distinct := orderly.distinct
  inOrder := orderly.inOrder
  stacked := orderly.replayed
  stops := by
    intro front service back split
    have replayed := orderly.replayed
    rw [split] at replayed
    obtain ⟨running, before⟩ := replay_before_stop replayed
    have counted := replay_count before service
    have most := orderly.count_start_le service
    rw [split, List.count_append] at most
    rw [List.count_cons_self, List.count_nil] at counted
    by_cases accepts : service.refusal = none
    · rw [if_pos accepts] at counted
      refine ⟨List.count_pos_iff.mp (by omega), accepts, fun stopped => ?_, running, before⟩
      have stopped := List.count_pos_iff.mpr stopped
      omega
    · rw [if_neg accepts] at counted
      omega

/-- If no service runs any more, whatever was started was stopped. -/
theorem Orderly.unwound (orderly : executor.Orderly) (noneRuns : executor.started = []) :
    executor.Unwound := by
  refine ⟨noneRuns, fun service begun accepts => ?_⟩
  have counted := orderly.count_stop begun accepts
  rwa [noneRuns, List.count_nil, Nat.add_zero] at counted

/-- Joining stops the services that run. -/
theorem join_hooks (executor : Executor) :
    (executor.join false).2 = .ok () ∧
      (executor.join false).1.hooks = executor.stopServices.hooks := by
  unfold join
  cases executor.signal.raised <;> simp

/-- The executor after joining has its journal in line with its services, and none of them runs. -/
theorem Orderly.join (orderly : executor.Orderly) : (executor.join false).1.Orderly := by
  obtain ⟨-, same⟩ := executor.join_hooks
  have history : executor.stopServices.history =
      executor.history ++ executor.started.map .stop := by
    simp [Executor.history, stopServices]
  have stops : executor.stopServices.Orderly :=
    orderly.of_stopped rfl rfl (List.append_nil _).symm history
  exact stops.of_hooks same

end nested

/-- The services whose registration an owner asks for are registered, in this order. -/
theorem run_registered (executor : Executor) (calls : List Call) :
    (executor.run calls).registered.map Registration.toEntry =
      executor.registered.map Registration.toEntry ++ calls.filterMap Call.entry? := by
  induction calls generalizing executor with
  | nil => exact (List.append_nil _).symm
  | cons call rest ih =>
    rw [run, List.foldl_cons, ← run, ih (executor.perform call)]
    cases call with
    | register entry =>
      simp only [perform, register, List.map_append, List.append_assoc]
      rfl
    | start onWorker =>
      cases onWorker with
      | false => exact congrArg (·.map Registration.toEntry ++ _) executor.start_batch.1
      | true => rfl
    | stop =>
      exact congrArg (·.map Registration.toEntry ++ _) (registered_of_hooks hooks_requestStop)

/-- What the owner of an executor can count on as to the hooks of its services. -/
structure KeepsHooks (executor : Executor) : Prop where
  /-- So far the hooks are nested. -/
  nested : executor.Nested
  /-- A start that succeeds has run the start hooks of the pending services, all of which
  succeeded. -/
  succeeds : ∀ after, executor.start false = (after, .ok ()) →
    (∀ service ∈ executor.pending, service.refusal = none) ∧
      after.history = executor.history ++ executor.pending.map .start
  /-- A start that fails has run the start hooks up to the first that failed, and then the stop
  hooks of whatever ran, the last one first. -/
  fails : ∀ after error, executor.start false = (after, .error error) →
    ∃ front failed back, executor.pending = front ++ failed :: back ∧
      (∀ service ∈ front, service.refusal = none) ∧ failed.refusal = some error ∧
      after.started = [] ∧
      after.history = executor.history ++ (front.map .start ++ .start failed ::
        (front.reverse ++ executor.started).map .stop)
  /-- A start on a worker thread is refused and changes nothing. -/
  inside : executor.start true = (executor, .error (insideError "start"))
  /-- Joining keeps the hooks nested, and when it returns whatever was started is stopped, whoever
  requests a stop in the meantime or interrupts the process. -/
  joining : ∀ schedule, (executor.enterJoin.run schedule).executor.Nested ∧
    ((executor.enterJoin.run schedule).stage = .joined →
      (executor.enterJoin.run schedule).executor.Unwound)
  /-- If nobody does but once, joining returns. -/
  joins : ∃ after, executor.join false = (after, .ok ()) ∧ after.Nested ∧ after.Unwound

/-- **The hooks of services are nested**, whatever the owner of an executor calls, in whatever order
and whichever services refuse to start. -/
theorem run_keepsHooks (settings : Config.ExecutorSettings) (calls : List Call) :
    ((new settings).run calls).registered.map Registration.toEntry = calls.filterMap Call.entry? ∧
      ((new settings).run calls).KeepsHooks := by
  refine ⟨run_registered (new settings) calls, ?_⟩
  have orderly := (new_orderly settings).run calls
  generalize (new settings).run calls = executor at orderly ⊢
  obtain ⟨-, -, batch⟩ := executor.start_batch
  constructor
  case nested => exact orderly.nested
  case succeeds =>
    intro after succeeds
    rw [succeeds] at batch
    cases batch with
    | all accept started history => exact ⟨accept, history⟩
  case fails =>
    intro after error fails
    rw [fails] at batch
    cases batch with
    | refused front failed back split accept refuses started history =>
      exact ⟨front, failed, back, split, accept, refuses, started, history⟩
  case inside => rfl
  case joining =>
    intro schedule
    have unwinding := (Joint.enterJoin_unwinding executor).run schedule
    have after := unwinding.orderly orderly
    exact ⟨after.nested, fun joined => after.unwound (unwinding.finished joined)⟩
  case joins =>
    obtain ⟨fine, same⟩ := executor.join_hooks
    refine ⟨(executor.join false).1, Prod.ext rfl fine, orderly.join.nested, ?_⟩
    exact orderly.join.unwound (started_of_hooks same)

end Executor

end PeerNet.Service
