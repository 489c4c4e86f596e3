import PeerNet.Service.Executor

/-!
# What a start of services comes to

The owner of an executor registers services, starts those that are pending and requests stops, in
any order. Of all that an executor does, a few parts concern its services: which were registered,
which are pending, which run, and its journal (`Executor.hooks`).

* **One service** (`startService_accepting`, `startService_refusing`).
* **A batch** (`startAll_batch`): all of its services start in their order, or those in front of one
  that refuses do, and then every service that runs is stopped, the last one first.
* **A start** (`start_batch`): the batch of the pending services.
-/

namespace PeerNet.Service

/-- What the owner of an executor asks of it. -/
inductive Call where
  /-- To register a service. -/
  | register (entry : Entry)
  /-- To start the pending services; the owner may be on a worker thread. -/
  | start (onWorker : Bool)
  /-- To request a stop. -/
  | stop
  deriving DecidableEq, Repr

/-- The service that a call registers, if it does. -/
def Call.entry? : Call → Option Entry
  | .register entry => some entry
  | .start _ | .stop => none

namespace Executor

/-- The executor after a call. -/
def perform (executor : Executor) : Call → Executor
  | .register entry => executor.register entry
  | .start onWorker => (executor.start onWorker).1
  | .stop => executor.requestStop

/-- The executor after several calls. -/
def run (executor : Executor) (calls : List Call) : Executor := calls.foldl perform executor

/-- What became of the services, the first event first. -/
def history (executor : Executor) : List Event := executor.journal.reverse

/-! ### The services of an executor -/

/-- What an executor knows of services. -/
structure Hooks where
  /-- Those that were registered. -/
  registered : List Registration
  /-- Those that are to be started. -/
  pending : List Registration
  /-- Those that run. -/
  started : List Registration
  /-- What became of them, the last event first. -/
  journal : List Event

/-- What an executor knows of its services. -/
def hooks (executor : Executor) : Hooks :=
  ⟨executor.registered, executor.pending, executor.started, executor.journal⟩

section hooks

variable {executor after : Executor}

/-- Writing a line to the log calls no hooks. -/
@[simp] theorem hooks_logLine (level : Log.Level) (message : String) :
    (executor.logLine level message).hooks = executor.hooks := rfl

@[simp] theorem hooks_drop : executor.drop.hooks = executor.hooks := rfl

/-- Raising the flag calls no hooks. -/
@[simp] theorem hooks_raiseStop : executor.raiseStop.1.hooks = executor.hooks := by
  unfold raiseStop
  split <;> rfl

@[simp] theorem hooks_announceStop : executor.announceStop.hooks = executor.hooks := rfl

@[simp] theorem hooks_pollStop : executor.pollStop.1.hooks = executor.hooks := rfl

/-- Requesting a stop calls no hooks: services are stopped by whoever joins. -/
@[simp] theorem hooks_requestStop : executor.requestStop.hooks = executor.hooks := by
  have raised := executor.hooks_raiseStop
  unfold requestStop
  split <;> simp_all

/-- Where the hooks are the same, the same services are registered. -/
theorem registered_of_hooks (same : after.hooks = executor.hooks) :
    after.registered = executor.registered := congrArg Hooks.registered same

/-- Where the hooks are the same, the same services are pending. -/
theorem pending_of_hooks (same : after.hooks = executor.hooks) :
    after.pending = executor.pending := congrArg Hooks.pending same

/-- Where the hooks are the same, the same services run. -/
theorem started_of_hooks (same : after.hooks = executor.hooks) :
    after.started = executor.started := congrArg Hooks.started same

/-- Where the hooks are the same, the journal tells the same. -/
theorem history_of_hooks (same : after.hooks = executor.hooks) :
    after.history = executor.history := congrArg (·.journal.reverse) same

end hooks

/-! ### Starts -/

/-- A start of some services comes to this. -/
inductive Batch (executor : Executor) (services : List Registration) (after : Executor) :
    Except Error Unit → Prop where
  /-- All of them start. -/
  | all (accept : ∀ service ∈ services, service.refusal = none)
      (started : after.started = services.reverse ++ executor.started)
      (history : after.history = executor.history ++ services.map .start) :
      Batch executor services after (.ok ())
  /-- One refuses. Those in front of it have started; whatever runs is stopped. -/
  | refused (front : List Registration) (failed : Registration) (back : List Registration)
      {error : Error}
      (split : services = front ++ failed :: back)
      (accept : ∀ service ∈ front, service.refusal = none)
      (refuses : failed.refusal = some error)
      (started : after.started = [])
      (history : after.history = executor.history ++ (front.map .start ++ .start failed ::
        (front.reverse ++ executor.started).map .stop)) :
      Batch executor services after (.error error)

/-- A service that accepts is in front of the batch of the others. -/
theorem Batch.cons {executor next after : Executor} {service : Registration}
    {rest : List Registration}
    {outcome : Except Error Unit} (batch : Batch next rest after outcome)
    (accepts : service.refusal = none) (started : next.started = service :: executor.started)
    (history : next.history = executor.history ++ [.start service]) :
    Batch executor (service :: rest) after outcome := by
  cases batch with
  | all accept startedAll historyAll =>
    refine .all (List.forall_mem_cons.mpr ⟨accepts, accept⟩) ?_ ?_
    · rw [startedAll, started, List.reverse_cons, List.append_assoc]
      rfl
    · rw [historyAll, history, List.append_assoc]
      rfl
  | refused front failed back split accept refuses stopped historyAll =>
    refine .refused (service :: front) failed back (by rw [split]; rfl)
      (List.forall_mem_cons.mpr ⟨accepts, accept⟩) refuses stopped ?_
    rw [historyAll, history, started, List.reverse_cons, List.append_assoc, List.append_assoc]
    rfl

section starts

variable {executor : Executor} {service : Registration}

/-- Stopping the services calls the stop hooks of those that run, the last one first. -/
@[simp] theorem hooks_stopServices :
    executor.stopServices.hooks = { executor.hooks with
      started := []
      journal := (executor.hooks.started.map Event.stop).reverse ++ executor.hooks.journal } := rfl

/-- Trying a service is one event in the journal. -/
@[simp] theorem hooks_tryService (index : Nat) :
    (executor.tryService index service).hooks =
      { executor.hooks with journal := .start service :: executor.hooks.journal } := by
  unfold tryService
  cases service.requestsStop with
  | false => rfl
  | true => exact hooks_requestStop

/-- A service that accepts runs. -/
theorem startService_accepting (accepts : service.refusal = none) (executor : Executor)
    (index : Nat) :
    (executor.startService index service).2 = .ok () ∧
      (executor.startService index service).1.hooks = { executor.hooks with
        started := service :: executor.hooks.started
        journal := .start service :: executor.hooks.journal } := by
  have tried : (executor.tryService index service).hooks = _ := executor.hooks_tryService index
  simp only [startService, accepts, true_and]
  rw [hooks, Hooks.mk.injEq] at tried ⊢
  exact ⟨tried.1, tried.2.1, congrArg _ tried.2.2.1, tried.2.2.2⟩

/-- When a service refuses, whatever runs is stopped. -/
theorem startService_refusing {error : Error} (refuses : service.refusal = some error)
    (executor : Executor) (index : Nat) :
    (executor.startService index service).2 = .error error ∧
      (executor.startService index service).1.hooks = { executor.hooks with
        started := []
        journal := (executor.hooks.started.map Event.stop).reverse ++
          .start service :: executor.hooks.journal } := by
  simp only [startService, refuses, hooks_stopServices, hooks_logLine, hooks_tryService, and_self]

/-- Services are started up to the first that refuses. -/
theorem startAll_batch (executor : Executor) (index : Nat) (services : List Registration) :
    (executor.startAll index services).1.registered = executor.registered ∧
      (executor.startAll index services).1.pending = executor.pending ∧
      Batch executor services (executor.startAll index services).1
        (executor.startAll index services).2 := by
  induction services generalizing executor index with
  | nil =>
    exact ⟨rfl, rfl, .all (fun _ inside => absurd inside List.not_mem_nil) rfl
      (List.append_nil _).symm⟩
  | cons service rest ih =>
    cases refusal : service.refusal with
    | none =>
      obtain ⟨fine, known⟩ := startService_accepting refusal executor index
      unfold startAll
      generalize executor.startService index service = result at fine known ⊢
      obtain ⟨next, outcome⟩ := result
      obtain rfl : outcome = .ok () := fine
      have started : next.started = service :: executor.started := congrArg Hooks.started known
      have history : next.history = executor.history ++ [.start service] := by
        have journal : next.journal = .start service :: executor.journal :=
          congrArg Hooks.journal known
        rw [Executor.history, journal, List.reverse_cons]
        rfl
      obtain ⟨registered, pending, batch⟩ := ih next (index + 1)
      refine ⟨registered.trans (congrArg Hooks.registered known),
        pending.trans (congrArg Hooks.pending known), ?_⟩
      exact batch.cons refusal started history
    | some error =>
      obtain ⟨fails, known⟩ := startService_refusing refusal executor index
      unfold startAll
      generalize executor.startService index service = result at fails known ⊢
      obtain ⟨after, outcome⟩ := result
      obtain rfl : outcome = .error error := fails
      have journal : after.journal = (executor.started.map Event.stop).reverse ++
          .start service :: executor.journal := congrArg Hooks.journal known
      refine ⟨congrArg Hooks.registered known, congrArg Hooks.pending known,
        .refused [] service rest rfl (fun _ inside => absurd inside List.not_mem_nil) refusal
          (congrArg Hooks.started known) ?_⟩
      simp [history, journal]

/-- **A start** outside the worker threads starts the pending services. -/
theorem start_batch (executor : Executor) :
    (executor.start false).1.registered = executor.registered ∧
      (executor.start false).1.pending = [] ∧
      Batch executor executor.pending (executor.start false).1 (executor.start false).2 := by
  obtain ⟨registered, pending, batch⟩ :=
    startAll_batch { executor with pending := [] } 0 executor.pending
  unfold start
  rw [if_neg Bool.false_ne_true]
  generalize startAll { executor with pending := [] } 0 executor.pending = result at *
  obtain ⟨after, outcome⟩ := result
  cases batch with
  | all accept started history => exact ⟨registered, pending, .all accept started history⟩
  | refused front failed back split accept refuses started history =>
    exact ⟨registered, pending, .refused front failed back split accept refuses started history⟩

end starts

end Executor

end PeerNet.Service
