import PeerNet.Proofs.Service.Nesting

/-!
# Which services are up after a start

After a start that succeeds every service that was registered since the last start that failed is
up. Those that had a part in a start that failed are not: the one that failed has used up its start
hook, and those that ran were stopped.

* **No failure** (`Executor.Succeeds`): calls among which every start succeeds keep together what
  runs and what is pending (`Succeeds.remaining`).
* **What runs is up** (`Orderly.up`).
* **After a start that succeeds** (`start_covers`).
* **After a failure** (`failed_services_stay_down`).
-/

namespace PeerNet.Service.Executor

/-- The start hook of a service has succeeded, and its stop hook has not run. -/
def Up (executor : Executor) (service : Registration) : Prop :=
  .start service ∈ executor.history ∧ service.refusal = none ∧ .stop service ∉ executor.history

instance (executor : Executor) (service : Registration) : Decidable (executor.Up service) :=
  inferInstanceAs (Decidable (_ ∧ _ ∧ _))

/-- No start among some calls fails. Those that are refused on a worker thread do not count. -/
def Succeeds (executor : Executor) (calls : List Call) : Prop :=
  ∀ front back, calls = front ++ .start false :: back →
    ((executor.run front).start false).2 = .ok ()

variable {executor after : Executor}

/-- What runs is up. -/
theorem Orderly.up (orderly : executor.Orderly) {service : Registration}
    (runs : service ∈ executor.started) : executor.Up service := by
  have counted := replay_count orderly.replayed service
  have once := orderly.count_start_le service
  have some := List.count_pos_iff.mpr runs
  rw [List.count_nil] at counted
  by_cases accepts : service.refusal = none
  · rw [if_pos accepts] at counted
    refine ⟨List.count_pos_iff.mp (by omega), accepts, fun stopped => ?_⟩
    have stopped := List.count_pos_iff.mpr stopped
    omega
  · rw [if_neg accepts] at counted
    omega

/-- The services that run or are to be started, in the order of their registration. -/
def remaining (executor : Executor) : List Registration :=
  executor.started.reverse ++ executor.pending

/-- A start that succeeds leaves no service pending, and none gets lost. -/
theorem remaining_start (succeeds : executor.start false = (after, .ok ())) :
    after.registered = executor.registered ∧ after.pending = [] ∧
      after.remaining = executor.remaining := by
  obtain ⟨registered, pending, batch⟩ := executor.start_batch
  rw [succeeds] at registered pending batch
  refine ⟨registered, pending, ?_⟩
  cases batch with
  | all accept started history =>
    rw [remaining, pending, started, List.reverse_append, List.reverse_reverse, List.append_nil]
    rfl

/-- A call keeps what remains, and adds what it registers; a start has to succeed for that. -/
theorem remaining_perform (executor : Executor) (call : Call)
    (succeeds : call = .start false → (executor.start false).2 = .ok ()) :
    ∃ fresh, (executor.perform call).registered = executor.registered ++ fresh ∧
      (executor.perform call).remaining = executor.remaining ++ fresh := by
  cases call with
  | register entry =>
    exact ⟨[⟨entry, executor.registered.length⟩], rfl, (List.append_assoc ..).symm⟩
  | start onWorker =>
    refine ⟨[], ?_⟩
    rw [List.append_nil, List.append_nil]
    cases onWorker with
    | true => exact ⟨rfl, rfl⟩
    | false =>
      obtain ⟨registered, -, same⟩ := remaining_start (Prod.ext rfl (succeeds rfl))
      exact ⟨registered, same⟩
  | stop =>
    refine ⟨[], ?_⟩
    have same : (executor.perform .stop).hooks = executor.hooks := hooks_requestStop
    rw [List.append_nil, List.append_nil, remaining, started_of_hooks same, pending_of_hooks same]
    exact ⟨registered_of_hooks same, rfl⟩

/-- Calls among which every start succeeds keep what remains, and add what they register. -/
theorem Succeeds.remaining {calls : List Call} (succeeds : executor.Succeeds calls) :
    ∃ fresh, (executor.run calls).registered = executor.registered ++ fresh ∧
      (executor.run calls).remaining = executor.remaining ++ fresh := by
  induction calls generalizing executor with
  | nil => exact ⟨[], (List.append_nil _).symm, (List.append_nil _).symm⟩
  | cons call rest ih =>
    obtain ⟨first, registered, same⟩ := executor.remaining_perform call fun starts =>
      succeeds [] rest (congrArg (· :: rest) starts)
    have later : (executor.perform call).Succeeds rest := fun front back split =>
      succeeds (call :: front) back (congrArg (call :: ·) split)
    obtain ⟨others, registeredAll, sameAll⟩ := ih later
    rw [registered, List.append_assoc] at registeredAll
    rw [same, List.append_assoc] at sameAll
    exact ⟨first ++ others, registeredAll, sameAll⟩

/-- No call takes a service off those that were registered. -/
theorem registered_grows (executor : Executor) (calls : List Call) :
    executor.registered <+: (executor.run calls).registered := by
  induction calls generalizing executor with
  | nil => exact List.prefix_rfl
  | cons call rest ih =>
    refine List.IsPrefix.trans ?_ (ih (executor.perform call))
    cases call with
    | register entry => exact List.prefix_append _ _
    | start onWorker =>
      cases onWorker with
      | false => exact executor.start_batch.1.symm ▸ List.prefix_rfl
      | true => exact List.prefix_rfl
    | stop => exact (registered_of_hooks hooks_requestStop).symm ▸ List.prefix_rfl

/-- A start fails at a service that was registered. -/
theorem exists_refusal (orderly : executor.Orderly)
    (fails : (executor.start false).2 ≠ .ok ()) :
    ∃ service ∈ executor.registered, service.refusal ≠ none := by
  obtain ⟨-, -, batch⟩ := executor.start_batch
  obtain ⟨front, split, -⟩ := orderly.ordered
  generalize (executor.start false).2 = outcome at fails batch
  cases batch with
  | all => exact absurd rfl fails
  | refused ahead failed behind pending accept refuses =>
    refine ⟨failed, ?_, by rw [refuses]; exact Option.some_ne_none _⟩
    rw [split, pending]
    exact List.mem_append_right _ (List.mem_append_right _ List.mem_cons_self)

/-- **After a start that succeeds** every service is up that was registered since the last start
that failed. So all services are up exactly if no start has failed. -/
theorem start_covers (settings : Config.ExecutorSettings) (calls : List Call) {after : Executor}
    (succeeds : ((new settings).run calls).start false = (after, .ok ())) :
    (∀ front back, calls = front ++ back → ((new settings).run front).Succeeds back →
      ∀ service ∈ after.registered, service ∉ ((new settings).run front).registered →
        after.Up service) ∧
    ((∀ service ∈ after.registered, after.Up service) ↔ (new settings).Succeeds calls) := by
  have orderly (calls : List Call) : ((new settings).run calls).Orderly :=
    (new_orderly settings).run calls
  have inLine : after.Orderly := by
    have started := (orderly calls).start
    rwa [succeeds] at started
  obtain ⟨registered, pending, remains⟩ := remaining_start succeeds
  have since : ∀ front back, calls = front ++ back → ((new settings).run front).Succeeds back →
      ∀ service ∈ after.registered, service ∉ ((new settings).run front).registered →
        after.Up service := by
    rintro front back rfl fine service inside outside
    obtain ⟨fresh, registeredAll, same⟩ := fine.remaining
    rw [run, List.foldl_append, ← run, ← run] at registered remains
    rw [registered, registeredAll] at inside
    have isFresh := (List.mem_append.mp inside).resolve_left outside
    have runs : service ∈ after.remaining := by
      rw [remains, same]
      exact List.mem_append_right _ isFresh
    rw [remaining, pending, List.append_nil, List.mem_reverse] at runs
    exact inLine.up runs
  refine ⟨since, fun up front back split => ?_, fun fine service inside => ?_⟩
  · -- the service at which a start fails is never up
    refine Decidable.byContradiction fun fails => ?_
    obtain ⟨service, inside, refuses⟩ := exists_refusal (orderly front) fails
    have known : service ∈ ((new settings).run calls).registered := by
      rw [split, run, List.foldl_append]
      exact (registered_grows _ _).subset inside
    rw [← registered] at known
    exact refuses (up service known).2.1
  · exact since [] calls rfl fine service inside List.not_mem_nil

/-- A service with this name, which refuses to start if it is told to. -/
def service (name : String) (refuses : Bool) : Entry :=
  ⟨name, if refuses then some (.illegalState "refused") else none, false⟩

/-- Of two services the second refuses. Another two that are registered after that are up once they
are started. -/
theorem start_covers_after_failure :
    let failing : List Call :=
      [.register (service "a" false), .register (service "b" true), .start false]
    let more : List Call := [.register (service "c" false), .register (service "d" false)]
    ∃ after, ((new (.default 2)).run (failing ++ more)).start false = (after, .ok ()) ∧
      after.Up ⟨service "c" false, 2⟩ ∧ after.Up ⟨service "d" false, 3⟩ ∧
      ¬ (new (.default 2)).Succeeds (failing ++ more) := by
  intro failing more
  have succeeds : (((new (.default 2)).run (failing ++ more)).start false).2 = .ok () := by
    decide +kernel
  obtain ⟨since, all⟩ := start_covers (.default 2) (failing ++ more) (Prod.ext rfl succeeds)
  have fine : ((new (.default 2)).run failing).Succeeds more := by
    intro front back split
    have inside : Call.start false ∈ more := split ▸ List.mem_append_right _ List.mem_cons_self
    exact absurd inside (by decide)
  have up := since failing more rfl fine
  refine ⟨_, Prod.ext rfl succeeds, up _ ?_ ?_, up _ ?_ ?_, fun never => ?_⟩
  · decide +kernel
  · decide +kernel
  · decide +kernel
  · decide +kernel
  · have refused := all.mpr never ⟨service "b" true, 1⟩ (by decide +kernel)
    exact absurd refused.2.1 (by decide)

/-- **After a failure** a start succeeds, though none of the services is up: the first was stopped,
the second has failed, and the third was not tried. -/
theorem failed_services_stay_down :
    let executor := (new (.default 2)).run [.register (service "a" false),
      .register (service "b" true), .register (service "c" false), .start false]
    (executor.start false).2 = .ok () ∧
      (executor.start false).1.registered =
        [⟨service "a" false, 0⟩, ⟨service "b" true, 1⟩, ⟨service "c" false, 2⟩] ∧
      (executor.start false).1.history = [.start ⟨service "a" false, 0⟩,
        .start ⟨service "b" true, 1⟩, .stop ⟨service "a" false, 0⟩] ∧
      ¬ ∀ service ∈ (executor.start false).1.registered, (executor.start false).1.Up service := by
  decide +kernel

end PeerNet.Service.Executor
