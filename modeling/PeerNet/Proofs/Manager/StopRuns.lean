import PeerNet.Proofs.Manager.Requests
import PeerNet.Proofs.Session.PoolCover

/-!
# What is left when a manager has stopped

A stop lowers the gate, has the pool drained on the strand, stops the sessions that were drained,
and closes the strand. Requests may go on between any two of these steps. A manager that has stopped
should leave nothing behind: no session that runs, and none in the pool.

* **The one way to go wrong** (`punctual`): a request that found the gate up puts its insertion on
  the strand behind the drain, before the strand is closed.
* **The strand** (`orders_push`, `orders_tail`): no job that builds gets behind the drain.
* **The account of a manager** (`Accounted`): every session that is alive is in the pool, or among
  those that were drained and are yet to be stopped; nothing is built after the drain.
* **One step** (`accounted_step`) keeps the account, if no insertion gets behind the drain.
* **Any schedule** (`run_start_leavesNothing`): when the stop has returned no session is alive, and
  the pool is empty.
-/

namespace PeerNet

variable {σ : Type}

/-! ### Sessions of a manager -/

/-- What a manager counts on when it uses sessions. `issued` says which numbers were given out. -/
structure Backend.Lawful (backend : Backend σ) (issued : σ → SessionId → Bool) : Prop where
  /-- The next number is new. -/
  fresh (state : σ) : issued state (backend.takeId state).1 = false
  /-- A number that was given out remains so when another one is. -/
  issued_takeId {state : σ} {id : SessionId} :
    issued state id = true → issued (backend.takeId state).2 id = true
  /-- A number that was given out remains so when a session is built. -/
  issued_build {state : σ} {id other : SessionId} {remote : Endpoint} :
    issued state other = true → issued (backend.build id remote state).2 other = true
  /-- A number that was given out remains so when a session is stopped. -/
  issued_halt {state : σ} {id other : SessionId} :
    issued state other = true → issued (backend.halt id state) other = true
  /-- Nothing comes alive by a number being given out. -/
  alive_takeId {state : σ} {id : SessionId} :
    backend.alive (backend.takeId state).2 id = true → backend.alive state id = true
  /-- Nothing comes alive when a session is built, but that session. -/
  alive_build {state : σ} {id other : SessionId} {remote : Endpoint} :
    backend.alive (backend.build id remote state).2 other = true →
      other = id ∨ backend.alive state other = true
  /-- Nothing comes alive when a session cannot be built. -/
  alive_build_error {state : σ} {id other : SessionId} {remote : Endpoint} {cause : Error} :
    (backend.build id remote state).1 = .error cause →
      backend.alive (backend.build id remote state).2 other = true →
        backend.alive state other = true
  /-- A session that is built bears its number. -/
  card_build {state : σ} {id : SessionId} {remote : Endpoint} {card : Card} :
    (backend.build id remote state).1 = .ok card → card.id = id
  /-- A session that is stopped is not alive, and nothing comes alive by it. -/
  alive_halt {state : σ} {id other : SessionId} :
    backend.alive (backend.halt id state) other = true →
      other ≠ id ∧ backend.alive state other = true

/-! ### Phases of a stop -/

/-- Whether the drain is on the strand, or has run, and the strand is not closed yet. -/
def StopProgress.awaitsClose : StopProgress → Bool
  | .draining | .drained _ | .closing => true
  | .idle | .lowered | .halting _ | .finished => false

/-- Whether the strand is closed. -/
def StopProgress.isClosed : StopProgress → Bool
  | .halting _ | .finished => true
  | .idle | .lowered | .draining | .drained _ | .closing => false

/-- The sessions that will be stopped: those in the pool before it is drained, and those that were
drained after that. -/
def StopProgress.Reaches (pool : Pool) (id : SessionId) : StopProgress → Prop
  | .idle | .lowered | .draining => ∃ card, (id, card) ∈ pool.slots
  | .drained sessions | .halting sessions => ∃ card ∈ sessions, card.id = id
  | .closing | .finished => False

/-- What is on the strand: no drain before it is asked for, nothing that builds behind it, and
nothing that builds after it, when the pool is empty. -/
def StopProgress.Orders (pool : Pool) (queue : List ManagerJob) : StopProgress → Prop
  | .idle | .lowered => .drain ∉ queue
  | .draining => ∃ front back, queue = front ++ .drain :: back ∧ .drain ∉ front ∧
      ∀ job ∈ back, job.isHarmless = true
  | .drained _ | .closing | .halting _ | .finished =>
    pool.Vacant ∧ ∀ job ∈ queue, job.isHarmless = true

section orders

variable {progress : StopProgress} {pool after : Pool} {job : ManagerJob} {queue : List ManagerJob}

/-- A job is put on the strand that is not behind the drain, or does not build. -/
theorem orders_push (order : progress.Orders pool queue) (strand : progress.isClosed = false)
    (not_drain : job ≠ .drain) (harmless : progress.awaitsClose = true → job.isHarmless = true) :
    progress.Orders pool (queue ++ [job]) := by
  cases progress with
  | idle | lowered =>
    intro mem
    rcases List.mem_append.mp mem with mem | mem
    · exact order mem
    · exact not_drain (List.mem_singleton.mp mem).symm
  | draining =>
    obtain ⟨front, back, split, first, rest⟩ := order
    refine ⟨front, back ++ [job], by rw [split, List.append_assoc, List.cons_append], first, ?_⟩
    exact List.forall_mem_append.mpr ⟨rest, List.forall_mem_singleton.mpr (harmless rfl)⟩
  | drained | closing =>
    refine ⟨order.1, ?_⟩
    exact List.forall_mem_append.mpr ⟨order.2, List.forall_mem_singleton.mpr (harmless rfl)⟩
  | halting | finished => cases strand

/-- The first job is done, which is not the drain, and leaves a pool without sessions alone if it
does not build. -/
theorem orders_tail (order : progress.Orders pool (job :: queue)) (not_drain : job ≠ .drain)
    (alone : job.isHarmless = true → pool.Vacant → after = pool) :
    progress.Orders after queue := by
  have behind (order : pool.Vacant ∧ ∀ other ∈ job :: queue, other.isHarmless = true) :
      after.Vacant ∧ ∀ other ∈ queue, other.isHarmless = true := by
    obtain ⟨vacant, harmless⟩ := order
    rw [alone (harmless job List.mem_cons_self) vacant]
    exact ⟨vacant, (List.forall_mem_cons.mp harmless).2⟩
  cases progress with
  | idle | lowered => exact fun mem => order (List.mem_cons_of_mem _ mem)
  | draining =>
    obtain ⟨front, back, split, first, harmless⟩ := order
    cases front with
    | nil => exact absurd (List.cons.inj split).1 not_drain
    | cons head front =>
      refine ⟨front, back, (List.cons.inj split).2, ?_, harmless⟩
      exact fun mem => first (List.mem_cons_of_mem _ mem)
  | drained | closing | halting | finished => exact behind order

/-- The drain is done only when it was asked for, and nothing that builds is behind it. -/
theorem orders_drain (order : progress.Orders pool (.drain :: queue)) :
    progress = .draining ∧ ∀ job ∈ queue, job.isHarmless = true := by
  cases progress with
  | idle | lowered => exact absurd List.mem_cons_self order
  | draining =>
    obtain ⟨front, back, split, first, harmless⟩ := order
    cases front with
    | nil => exact ⟨rfl, (List.cons.inj split).2 ▸ harmless⟩
    | cons head front => exact absurd ((List.cons.inj split).1 ▸ List.mem_cons_self) first
  | drained | closing | halting | finished => cases order.2 .drain List.mem_cons_self

end orders

namespace Manager

variable {backend : Backend σ} {issued : σ → SessionId → Bool} {manager : Manager} {state : σ}

/-- Whoever is alive after some sessions were stopped was alive before and is none of them. -/
theorem alive_haltAll (lawful : backend.Lawful issued) {sessions : List Card} {id : SessionId}
    (alive : backend.alive (haltAll backend sessions state) id = true) :
    (∀ card ∈ sessions, card.id ≠ id) ∧ backend.alive state id = true := by
  unfold haltAll at alive
  induction sessions generalizing state with
  | nil => exact ⟨fun card mem => absurd mem List.not_mem_nil, alive⟩
  | cons card rest ih =>
    obtain ⟨others, alive⟩ := ih alive
    obtain ⟨ne, alive⟩ := lawful.alive_halt alive
    refine ⟨fun other mem => ?_, alive⟩
    rcases List.mem_cons.mp mem with rfl | mem
    · exact ne.symm
    · exact others other mem

/-- Sessions that are all stopped are not alive, nor are any others that were not before. -/
theorem dead_of_haltAll (lawful : backend.Lawful issued) {sessions : List Card}
    (all : ∀ id, backend.alive state id = true → ∃ card ∈ sessions, card.id = id)
    (id : SessionId) : backend.alive (haltAll backend sessions state) id = false := by
  refine Bool.eq_false_iff.mpr fun alive => ?_
  obtain ⟨others, alive⟩ := alive_haltAll lawful alive
  obtain ⟨card, mem, eq⟩ := all id alive
  exact others card mem eq

/-- Stopping sessions does not take back the numbers that were given out. -/
theorem issued_haltAll (lawful : backend.Lawful issued) {sessions : List Card} {id : SessionId}
    (known : issued state id = true) : issued (haltAll backend sessions state) id = true := by
  unfold haltAll
  induction sessions generalizing state with
  | nil => exact known
  | cons card rest ih => exact ih (lawful.issued_halt known)

/-! ### Schedules -/

/-- Whether an action is not the report of a session that was not built, or has not ended. -/
def genuine (backend : Backend σ) (issued : σ → SessionId → Bool) (_ : Manager) (state : σ) :
    Action → Bool
  | .reportEnd id => issued state id && !backend.alive state id
  | _ => true

/-- Whether an action does not put an insertion on the strand behind the drain. -/
def punctual (manager : Manager) (_ : σ) : Action → Bool
  | .advance request _ =>
    !(manager.progress.awaitsClose && manager.nextStage request = some .insert)
  | _ => true

/-- Whether every action of a schedule passes a check, made at its time. -/
def checks (backend : Backend σ) (check : Manager → σ → Action → Bool) (manager : Manager)
    (state : σ) : List Action → Bool
  | [] => true
  | action :: rest =>
    check manager state action &&
      checks backend check (Manager.step backend action manager state).1
        (Manager.step backend action manager state).2 rest

/-- Runs a schedule. -/
def run (backend : Backend σ) (manager : Manager) (state : σ) : List Action → Manager × σ
  | [] => (manager, state)
  | action :: rest =>
    run backend (Manager.step backend action manager state).1
      (Manager.step backend action manager state).2 rest

/-! ### The account of a manager -/

/-- Every session that is alive is accounted for. -/
structure Accounted (backend : Backend σ) (issued : σ → SessionId → Bool) (manager : Manager)
    (state : σ) : Prop where
  /-- The card in a slot bears the number of the slot. -/
  labelled : manager.pool.Labelled
  /-- Every session that is alive will be stopped. -/
  reached (id : SessionId) : backend.alive state id = true →
    manager.progress.Reaches manager.pool id
  /-- The jobs on the strand are in order. -/
  order : manager.progress.Orders manager.pool manager.queue
  /-- Sessions that are to be taken out have ended. -/
  ended (id : SessionId) : .remove id ∈ manager.queue →
    issued state id = true ∧ backend.alive state id = false
  /-- The strand is closed in the end. -/
  closed : manager.closed = manager.progress.isClosed
  /-- The gate is down once a stop has begun. -/
  gate : manager.progress ≠ .idle → manager.admits = false

/-- A manager that has just been made accounts for the sessions that are alive: there are none. -/
theorem start_accounted (kind : ManagerKind) (poolName : String) (capacity : Nat) (admits : Bool)
    (nothing : ∀ id, backend.alive state id = false) :
    Accounted backend issued (start kind poolName capacity admits) state where
  labelled := fun _ mem => absurd mem List.not_mem_nil
  reached id alive := by
    rw [nothing id] at alive
    cases alive
  order := List.not_mem_nil
  ended _ mem := absurd mem List.not_mem_nil
  closed := rfl
  gate begun := absurd rfl begun

/-! ### One step -/

section step

variable {after : Manager}

/-- The requests do not matter to the account. -/
theorem Accounted.of_requests (accounted : Accounted backend issued manager state)
    (requests : Table Nat Request) (nextRequest : Nat) :
    Accounted backend issued
      { manager with requests := requests, nextRequest := nextRequest } state :=
  ⟨accounted.labelled, accounted.reached, accounted.order, accounted.ended, accounted.closed,
    accounted.gate⟩

/-- A job is put on the strand that is not behind the drain, or does not build. -/
theorem Accounted.post (accounted : Accounted backend issued manager state) {job : ManagerJob}
    (not_drain : job ≠ .drain)
    (harmless : manager.progress.awaitsClose = true → job.isHarmless = true)
    (ended : ∀ id, job = .remove id → issued state id = true ∧ backend.alive state id = false) :
    Accounted backend issued (manager.post job) state := by
  unfold Manager.post
  split
  case isTrue => exact accounted
  case isFalse opened =>
    have strand := accounted.closed.symm.trans (Bool.eq_false_iff.mpr opened)
    refine ⟨accounted.labelled, accounted.reached, ?_, ?_, accounted.closed, accounted.gate⟩
    · exact orders_push accounted.order strand not_drain harmless
    · intro id mem
      rcases List.mem_append.mp mem with mem | mem
      · exact accounted.ended id mem
      · exact ended id (List.mem_singleton.mp mem).symm

/-- What becomes of a manager when a request goes through its next stage. -/
inductive Advanced (manager : Manager) (request : Nat) : Manager → Prop where
  /-- Only the request changes. -/
  | request (requests : Table Nat Request) :
      Advanced manager request { manager with requests := requests }
  /-- A job is put on the strand, which is an insertion only if it is its time. -/
  | posted (requests : Table Nat Request) (job : ManagerJob) (not_drain : job ≠ .drain)
      (not_remove : ∀ id, job ≠ .remove id)
      (insertion : job.isHarmless = false → manager.nextStage request = some .insert) :
      Advanced manager request { manager.post job with requests := requests }

/-- A request that goes through its next stage changes nothing but itself, or posts a job as well.
-/
theorem advance_advanced (manager : Manager) (alive : SessionId → Bool)
    (dialed : Except Error Unit) (request : Nat) :
    Advanced manager request (manager.advance alive dialed request) := by
  have staged := advance_staged manager alive dialed request
  generalize manager.advance alive dialed request = after at staged ⊢
  cases staged with
  | same => exact .request manager.requests
  | proceeds | refused | found => exact .request _
  | waits job remote asked serves due =>
    refine .posted _ job ?_ ?_ due
    · rintro rfl
      cases serves
    · rintro id rfl
      cases serves

/-- A stage of a request that is not an insertion behind the drain. -/
theorem Accounted.advance (accounted : Accounted backend issued manager state) {request : Nat}
    {dialed : Except Error Unit}
    (punctual : manager.punctual state (.advance request dialed) = true) :
    Accounted backend issued (manager.advance (backend.alive state) dialed request) state := by
  have advanced := advance_advanced manager (backend.alive state) dialed request
  generalize manager.advance (backend.alive state) dialed request = after at advanced ⊢
  cases advanced with
  | request requests => exact accounted.of_requests requests _
  | posted requests job not_drain not_remove insertion =>
    refine (accounted.post not_drain ?_ ?_).of_requests requests _
    · intro waits
      refine Decidable.byContradiction fun harmful => ?_
      have stage := insertion (Bool.eq_false_iff.mpr harmful)
      simp [Manager.punctual, waits, stage] at punctual
    · intro id eq
      exact absurd eq (not_remove id)

/-! ### Jobs -/

/-- The builder of a request's session, which gets the next number. -/
def builder (backend : Backend σ) (remote : Endpoint) (id : SessionId) (state : σ) :
    Except Error Card × σ :=
  backend.build id remote (backend.takeId state).2

/-- What becomes of the pool and the sessions by a job. -/
def HandledBy (backend : Backend σ) (before : Pool) (state : σ) (result : Pool × σ) : Prop :=
  ∃ remote, Pool.Handled (backend.alive state) (backend.takeId state).1 (builder backend remote)
    before state result

section handled

variable {before : Pool} {result : Pool × σ}

/-- Jobs keep the card in a slot under its own number. -/
theorem HandledBy.labelled (handled : HandledBy backend before state result)
    (lawful : backend.Lawful issued) (labelled : before.Labelled) : result.1.Labelled := by
  obtain ⟨remote, handled⟩ := handled
  cases handled with
  | purged purges => exact labelled.purges purges
  | failed purges => exact labelled.purges purges
  | built rest purges built slots =>
    intro entry mem
    rw [slots] at mem
    rcases Table.mem_insert.mp mem with rfl | ⟨mem, _⟩
    · exact lawful.card_build (congrArg Prod.fst built)
    · exact labelled.purges purges entry mem

/-- Jobs keep a slot for every session that is alive. -/
theorem HandledBy.covers (handled : HandledBy backend before state result)
    (lawful : backend.Lawful issued) (covers : before.Covers (backend.alive state)) :
    result.1.Covers (backend.alive result.2) := by
  obtain ⟨remote, handled⟩ := handled
  cases handled with
  | purged purges => exact covers.purges purges
  | failed purges built =>
    intro id alive
    have changed := congrArg Prod.snd built
    have alive := lawful.alive_build_error (congrArg Prod.fst built) (changed ▸ alive)
    exact covers.purges purges id (lawful.alive_takeId alive)
  | built rest purges built slots =>
    intro id alive
    have changed := congrArg Prod.snd built
    dsimp only
    rw [slots]
    by_cases new : id = (backend.takeId state).1
    · exact ⟨_, Table.mem_insert.mpr (.inl (congrArg (·, _) new))⟩
    · have alive := (lawful.alive_build (changed ▸ alive)).resolve_left new
      obtain ⟨card, mem⟩ := covers.purges purges id (lawful.alive_takeId alive)
      exact ⟨card, Table.mem_insert.mpr (.inr ⟨mem, new⟩)⟩

/-- A session that has ended does not come alive again: no number is given out twice. -/
theorem HandledBy.ended (handled : HandledBy backend before state result)
    (lawful : backend.Lawful issued) {id : SessionId} (known : issued state id = true)
    (dead : backend.alive state id = false) :
    issued result.2 id = true ∧ backend.alive result.2 id = false := by
  have built {remote : Endpoint} :
      issued (builder backend remote (backend.takeId state).1 state).2 id = true ∧
        backend.alive (builder backend remote (backend.takeId state).1 state).2 id = false := by
    refine ⟨lawful.issued_build (lawful.issued_takeId known), Bool.eq_false_iff.mpr fun alive => ?_⟩
    rcases lawful.alive_build alive with new | alive
    · rw [new, lawful.fresh] at known
      cases known
    · rw [lawful.alive_takeId alive] at dead
      cases dead
  obtain ⟨remote, handled⟩ := handled
  cases handled with
  | purged => exact ⟨known, dead⟩
  | failed _ eq => exact congrArg Prod.snd eq ▸ built
  | built _ _ eq _ => exact congrArg Prod.snd eq ▸ built

end handled

/-- What becomes of a manager by a job other than the drain. -/
inductive Worked (backend : Backend σ) (manager : Manager) (state : σ) (job : ManagerJob)
    (rest : List ManagerJob) : Manager × σ → Prop where
  /-- The pool and the sessions are handled; a harmless job leaves them alone if the pool holds no
  session. -/
  | worked (pool : Pool) (requests : Table Nat Request) (changed : σ)
      (handled : HandledBy backend manager.pool state (pool, changed))
      (alone : job.isHarmless = true → manager.pool.Vacant →
        pool = manager.pool ∧ changed = state) :
      Worked backend manager state job rest
        ({ manager with queue := rest, pool := pool, requests := requests }, changed)

/-- The worker handles the pool and the sessions by any job but the drain, where a session is taken
out only once it is dead. -/
theorem work_worked {job : ManagerJob} {rest : List ManagerJob}
    (queue : manager.queue = job :: rest) (not_drain : job ≠ .drain)
    (ended : ∀ id, job = .remove id → backend.alive state id = false) :
    Worked backend manager state job rest (manager.work backend state) := by
  have purged {pool : Pool} (purges : Pool.Purges (backend.alive state) manager.pool pool) :
      HandledBy backend manager.pool state (pool, state) :=
    ⟨.localhost 0, .purged purges⟩
  unfold work
  rw [queue]
  dsimp only
  cases job with
  | drain => exact absurd rfl not_drain
  | insert request remote =>
    exact .worked _ _ _ ⟨remote, Pool.getOrInsert_handled remote⟩ nofun
  | recheck request remote failure =>
    refine .worked _ _ _ (purged (Pool.getLive_purges _ _ remote)) fun _ vacant => ?_
    exact ⟨vacant.getLive _ remote, rfl⟩
  | remove id =>
    refine .worked _ _ _ (purged (Pool.remove_purges (ended id rfl))) fun _ vacant => ?_
    exact ⟨vacant.remove id, rfl⟩
  | sweep =>
    refine .worked _ _ _ (purged Pool.sweep_purges) fun _ vacant => ?_
    exact ⟨vacant.sweep _, rfl⟩

/-- A job other than the drain. -/
theorem Accounted.worked (accounted : Accounted backend issued manager state)
    (lawful : backend.Lawful issued) {job : ManagerJob} {rest : List ManagerJob}
    (queue : manager.queue = job :: rest) (not_drain : job ≠ .drain) :
    Accounted backend issued (manager.work backend state).1 (manager.work backend state).2 := by
  have here (id : SessionId) (eq : job = .remove id) :=
    accounted.ended id (queue ▸ eq ▸ List.mem_cons_self)
  have worked := work_worked queue not_drain fun id eq => (here id eq).2
  generalize manager.work backend state = result at worked
  have order := accounted.order
  rw [queue] at order
  cases worked with
  | worked pool requests changed handled alone =>
    refine ⟨handled.labelled lawful accounted.labelled, ?_, ?_, ?_, accounted.closed,
      accounted.gate⟩
    · -- in the pool before the drain, and nothing changes after it
      intro id alive
      have reached := accounted.reached
      dsimp only at alive ⊢
      cases progress : manager.progress with
      | idle | lowered | draining =>
        rw [progress] at reached
        exact handled.covers lawful reached id alive
      | drained | halting | closing | finished =>
        rw [progress] at reached order
        have same := alone (order.2 job List.mem_cons_self) order.1
        exact reached id (same.2 ▸ alive)
    · exact orders_tail order not_drain fun harmless vacant => (alone harmless vacant).1
    · intro id mem
      obtain ⟨known, dead⟩ := accounted.ended id (queue ▸ List.mem_cons_of_mem _ mem)
      exact handled.ended lawful known dead

/-- The drain hands out every session that is alive. -/
theorem Accounted.drained (accounted : Accounted backend issued manager state)
    {rest : List ManagerJob} (queue : manager.queue = .drain :: rest) :
    Accounted backend issued (manager.work backend state).1 (manager.work backend state).2 := by
  unfold work
  rw [queue]
  dsimp only [Pool.drain]
  have reached := accounted.reached
  have strand := accounted.closed
  obtain ⟨progress, harmless⟩ := orders_drain (queue ▸ accounted.order)
  have down : manager.admits = false := accounted.gate (progress ▸ StopProgress.noConfusion)
  rw [progress] at reached strand
  refine ⟨fun _ mem => absurd mem List.not_mem_nil, ?_, ?_, ?_, strand, fun _ => down⟩
  · intro id alive
    exact Pool.Covers.mem_sessions reached accounted.labelled alive
  · exact ⟨Pool.empty_vacant _ _, harmless⟩
  · intro id mem
    exact accounted.ended id (queue ▸ List.mem_cons_of_mem _ mem)

/-- One job on the strand. -/
theorem Accounted.work (accounted : Accounted backend issued manager state)
    (lawful : backend.Lawful issued) :
    Accounted backend issued (manager.work backend state).1 (manager.work backend state).2 := by
  cases queue : manager.queue with
  | nil =>
    have same : manager.work backend state = (manager, state) := by
      unfold Manager.work
      rw [queue]
    rw [same]
    exact accounted
  | cons job rest =>
    by_cases drain : job = .drain
    · exact accounted.drained (drain ▸ queue)
    · exact accounted.worked lawful queue drain

/-! ### The one who stops -/

/-- Sessions end. -/
theorem Accounted.fade (accounted : Accounted backend issued manager state) {changed : σ}
    (issues : ∀ id, issued state id = true → issued changed id = true)
    (fades : ∀ id, backend.alive changed id = true → backend.alive state id = true) :
    Accounted backend issued manager changed := by
  refine ⟨accounted.labelled, fun id alive => accounted.reached id (fades id alive),
    accounted.order, ?_, accounted.closed, accounted.gate⟩
  intro id mem
  obtain ⟨known, dead⟩ := accounted.ended id mem
  refine ⟨issues id known, Bool.eq_false_iff.mpr fun alive => ?_⟩
  rw [fades id alive] at dead
  cases dead

/-- Stopping sessions leaves no one alive who is not accounted for. -/
theorem Accounted.halted (accounted : Accounted backend issued manager state)
    (lawful : backend.Lawful issued) (sessions : List Card) :
    Accounted backend issued manager (haltAll backend sessions state) :=
  accounted.fade (fun _ known => issued_haltAll lawful known)
    fun _ alive => (alive_haltAll lawful alive).2

/-- The gate is lowered. -/
theorem Accounted.lower (accounted : Accounted backend issued manager state) :
    Accounted backend issued manager.lower state := by
  unfold Manager.lower
  split
  case isFalse => exact accounted
  case isTrue up =>
    have progress : manager.progress = .idle := by
      refine Decidable.byContradiction fun begun => ?_
      rw [accounted.gate begun] at up
      cases up
    have reached := accounted.reached
    have order := accounted.order
    have strand := accounted.closed
    rw [progress] at reached order strand
    exact ⟨accounted.labelled, reached, order, accounted.ended, strand, fun _ => rfl⟩

/-- All sessions that are left are stopped. -/
theorem Accounted.haltedAll (accounted : Accounted backend issued manager state)
    (lawful : backend.Lawful issued) {sessions : List Card}
    (all : ∀ id, backend.alive state id = true → ∃ card ∈ sessions, card.id = id)
    (progress : StopProgress) (order : progress.Orders manager.pool manager.queue)
    (strand : manager.closed = progress.isClosed) (down : manager.admits = false) :
    Accounted backend issued { manager with progress := progress }
      (haltAll backend sessions state) := by
  have halted := accounted.halted lawful sessions
  refine ⟨halted.labelled, fun id alive => ?_, order, halted.ended, strand, fun _ => down⟩
  exact absurd alive (Bool.eq_false_iff.mp (dead_of_haltAll lawful all id))

/-- One stretch of the one who stops the manager. -/
theorem Accounted.advanceStop (accounted : Accounted backend issued manager state)
    (lawful : backend.Lawful issued) :
    Accounted backend issued (manager.advanceStop backend state).1
      (manager.advanceStop backend state).2 := by
  have reached := accounted.reached
  have order := accounted.order
  have strand := accounted.closed
  have gate := accounted.gate
  unfold Manager.advanceStop
  cases progress : manager.progress with
  | idle | draining | finished => exact accounted
  | lowered =>
    rw [progress] at reached order strand gate
    have down : manager.admits = false := gate StopProgress.noConfusion
    have opened : manager.closed = false := strand
    dsimp only
    rw [if_neg (Bool.eq_false_iff.mp opened), Manager.post, if_neg (Bool.eq_false_iff.mp opened)]
    have behind : ∀ job ∈ ([] : List ManagerJob), job.isHarmless = true :=
      fun _ mem => absurd mem List.not_mem_nil
    refine ⟨accounted.labelled, reached, ⟨manager.queue, [], rfl, order, behind⟩, ?_, opened,
      fun _ => down⟩
    intro id mem
    rcases List.mem_append.mp mem with mem | mem
    · exact accounted.ended id mem
    · cases List.mem_singleton.mp mem
  | drained sessions =>
    rw [progress] at reached order strand gate
    have down : manager.admits = false := gate StopProgress.noConfusion
    dsimp only
    split
    · exact ⟨accounted.labelled, reached, order, accounted.ended, rfl, fun _ => down⟩
    · exact accounted.haltedAll lawful reached .closing order strand down
  | closing =>
    rw [progress] at reached order gate
    have down : manager.admits = false := gate StopProgress.noConfusion
    exact ⟨accounted.labelled, reached, order, accounted.ended, rfl, fun _ => down⟩
  | halting sessions =>
    rw [progress] at reached order strand gate
    have down : manager.admits = false := gate StopProgress.noConfusion
    exact accounted.haltedAll lawful reached .finished order strand down

end step

/-- Every step keeps the account, if no insertion gets behind the drain. -/
theorem accounted_step (accounted : Accounted backend issued manager state)
    (lawful : backend.Lawful issued) {action : Action}
    (genuine : manager.genuine backend issued state action = true)
    (punctual : manager.punctual state action = true) :
    Accounted backend issued (Manager.step backend action manager state).1
      (Manager.step backend action manager state).2 := by
  cases action with
  | request remote => exact accounted.of_requests _ _
  | inbound remote => exact accounted.of_requests _ _
  | advance request dialed => exact accounted.advance punctual
  | work => exact accounted.work lawful
  | halt id =>
    exact accounted.fade (fun _ => lawful.issued_halt) fun _ alive => (lawful.alive_halt alive).2
  | reportEnd id =>
    simp only [Manager.genuine, Bool.and_eq_true, Bool.not_eq_true'] at genuine
    refine accounted.post ManagerJob.noConfusion (fun _ => rfl) fun other eq => ?_
    exact ManagerJob.remove.inj eq ▸ genuine
  | reap =>
    simp only [Manager.step]
    split
    · exact accounted
    · exact accounted.post ManagerJob.noConfusion (fun _ => rfl) fun _ => ManagerJob.noConfusion
  | stop => exact accounted.lower
  | advanceStop => exact accounted.advanceStop lawful

/-! ### Schedules -/

/-- Every schedule keeps the account, if no insertion gets behind the drain. -/
theorem accounted_run (lawful : backend.Lawful issued) {schedule : List Action}
    (accounted : Accounted backend issued manager state)
    (genuine : checks backend (genuine backend issued) manager state schedule = true)
    (punctual : checks backend punctual manager state schedule = true) :
    Accounted backend issued (run backend manager state schedule).1
      (run backend manager state schedule).2 := by
  induction schedule generalizing manager state with
  | nil => exact accounted
  | cons action rest ih =>
    simp only [checks, Bool.and_eq_true] at genuine punctual
    exact ih (accounted_step accounted lawful genuine.1 punctual.1) genuine.2 punctual.2

/-- **Nothing outlives a manager that has stopped**: no session is alive and none is in the pool,
whatever is done meanwhile, if no insertion gets on the strand behind the drain. -/
theorem run_start_leavesNothing (lawful : backend.Lawful issued) (kind : ManagerKind)
    (poolName : String) (capacity : Nat) (nothing : ∀ id, backend.alive state id = false)
    {schedule : List Action}
    (genuine : checks backend (genuine backend issued) (start kind poolName capacity true) state
      schedule = true)
    (punctual : checks backend punctual (start kind poolName capacity true) state schedule = true)
    (finished : (run backend (start kind poolName capacity true) state schedule).1.progress =
      .finished) :
    (∀ id, backend.alive
        (run backend (start kind poolName capacity true) state schedule).2 id = false) ∧
      (run backend (start kind poolName capacity true) state schedule).1.pool.Vacant := by
  have accounted := accounted_run lawful (start_accounted kind poolName capacity true nothing)
    genuine punctual
  have reached := accounted.reached
  have order := accounted.order
  rw [finished] at reached order
  exact ⟨fun id => Bool.eq_false_iff.mpr (reached id), order.1⟩

end Manager

end PeerNet
