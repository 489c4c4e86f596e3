import PeerNet.Proofs.Manager.Requests
import PeerNet.Proofs.Manager.StopRuns
import PeerNet.Proofs.Session.PoolLedger

/-!
# A manager builds a session once

Requests look into the directory without waiting for the strand, so that many of them may ask for a
session that nobody has built yet. The strand looks again before it builds. Nobody stops the manager
in this module.

* **What was built** (`constructions`): a schedule lists the sessions that it builds.
* **The account** (`Tracked`): the list tells the tables of the pool, and a session that is alive is
  the one that its endpoint leads to.
* **One step** (`Tracked.turn`): sessions are taken out that have ended, or one session is built for
  an endpoint without a live one; whatever is returned is the live session for the endpoint.
* **Any schedule** (`run_start_buildsOnce`): every endpoint has one session that is alive at most,
  and it is the one that all requests for the endpoint return while it is alive.
-/

namespace PeerNet

variable {σ : Type}

/-- What a manager counts on besides to have its sessions used as soon as they are built. -/
structure Backend.Prompt (backend : Backend σ) (issued : σ → SessionId → Bool) : Prop extends
    backend.Lawful issued where
  /-- The number that is taken is given out. -/
  issued_next (state : σ) : issued (backend.takeId state).2 (backend.takeId state).1 = true
  /-- A session that is built is alive. -/
  alive_built {state : σ} {id : SessionId} {remote : Endpoint} {card : Card} :
    (backend.build id remote state).1 = .ok card →
      backend.alive (backend.build id remote state).2 id = true

namespace Manager

variable {backend : Backend σ} {issued : σ → SessionId → Bool} {manager after : Manager}
  {state changed : σ} {ledger : List Pool.Registration}

/-! ### What was built -/

/-- What comes of a request for the session for a peer when it is looked for on the strand. -/
def insertion (backend : Backend σ) (manager : Manager) (remote : Endpoint) (state : σ) :
    Pool.Insertion σ :=
  manager.pool.getOrInsert (backend.alive state) (backend.takeId state).1 remote
    (builder backend remote) state

/-- The session that an action builds, if it builds one, with the endpoint that it is built for. -/
def constructed (backend : Backend σ) (manager : Manager) (state : σ) :
    Action → Option Pool.Registration
  | .work =>
    match manager.queue with
    | .insert _ remote :: _ => (insertion backend manager remote state).registration? remote
    | _ => none
  | _ => none

/-- The sessions that a schedule builds, the last one first. -/
def constructions (backend : Backend σ) (manager : Manager) (state : σ) :
    List Action → List Pool.Registration
  | [] => []
  | action :: rest =>
    constructions backend (Manager.step backend action manager state).1
        (Manager.step backend action manager state).2 rest ++
      (constructed backend manager state action).toList

/-- An insertion that is next on the strand gets or makes the session, and the request takes what
comes of it as its answer. -/
theorem work_insert {request : Nat} {remote : Endpoint} {rest : List ManagerJob}
    (queue : manager.queue = .insert request remote :: rest) :
    manager.work backend state =
      ({ manager with
          queue := rest
          pool := (insertion backend manager remote state).pool }.answer request
            ((insertion backend manager remote state).outcome.mapError Pool.Refusal.toError),
        (insertion backend manager remote state).state) := by
  unfold work
  rw [queue]
  show (_, _) = (_, _)
  congr 2
  unfold insertion builder
  dsimp only
  split <;> next outcome => rw [outcome]; rfl

/-! ### The account -/

/-- The sessions that a manager has built are accounted for, and nobody has stopped it. -/
structure Tracked (backend : Backend σ) (issued : σ → SessionId → Bool) (manager : Manager)
    (state : σ) (ledger : List Pool.Registration) : Prop where
  /-- Every session that is alive has a slot. -/
  accounted : Accounted backend issued manager state
  /-- Nobody has stopped the manager. -/
  idle : manager.progress = .idle
  /-- The jobs on the strand are in line with the requests. -/
  filed : manager.Filed
  /-- The sessions that were built tell the tables of the pool. -/
  registers : manager.pool.Registers ledger
  /-- They bear their numbers. -/
  labelled : ∀ registration ∈ ledger, registration.card.id = registration.id
  /-- Their numbers were given out. -/
  known : ∀ registration ∈ ledger, issued state registration.id = true

/-- A pool that has just been made has built no session. -/
theorem start_tracked (kind : ManagerKind) (poolName : String) (capacity : Nat)
    (nothing : ∀ id, backend.alive state id = false) :
    Tracked backend issued (start kind poolName capacity true) state [] where
  accounted := start_accounted kind poolName capacity true nothing
  idle := rfl
  filed := start_filed kind poolName capacity true
  registers := Pool.empty_registers poolName capacity
  labelled := nofun
  known := nofun

section tracked

variable {id : SessionId} {key : Endpoint} {card : Card}

/-- A session that is alive was built, and the endpoint that it was built for leads to it. -/
theorem Tracked.exists_built (tracked : Tracked backend issued manager state ledger)
    (live : backend.alive state id = true) : ∃ key card,
      Table.get? manager.pool.index key = some id ∧ Table.get? manager.pool.slots id = some card ∧
        ⟨key, id, card⟩ ∈ ledger := by
  have reached := tracked.accounted.reached id live
  rw [tracked.idle] at reached
  obtain ⟨_, mem⟩ := reached
  obtain ⟨card, held⟩ := Table.exists_get?_of_mem mem
  obtain ⟨key, led, built⟩ := tracked.registers.slot held
  exact ⟨key, card, led, held, built⟩

/-- A session that was built for an endpoint and is alive is the live session for the endpoint. -/
theorem Tracked.live?_of_mem (tracked : Tracked backend issued manager state ledger)
    (mem : ⟨key, id, card⟩ ∈ ledger) (live : backend.alive state id = true) :
    manager.pool.live? (backend.alive state) key = some card := by
  obtain ⟨other, shown, led, held, built⟩ := tracked.exists_built live
  obtain ⟨rfl, rfl⟩ := tracked.registers.same built mem
  unfold Pool.live?
  rw [led]
  dsimp only
  rw [if_pos live, held]

/-- The live session for an endpoint was built for the endpoint, and is alive. -/
theorem Tracked.mem_of_live? (tracked : Tracked backend issued manager state ledger)
    (found : manager.pool.live? (backend.alive state) key = some card) :
    backend.alive state card.id = true ∧ ⟨key, card.id, card⟩ ∈ ledger := by
  unfold Pool.live? at found
  cases led : Table.get? manager.pool.index key with
  | none =>
    rw [led] at found
    cases found
  | some id =>
    rw [led] at found
    dsimp only at found
    split at found
    case isFalse => cases found
    case isTrue live =>
      obtain ⟨other, _, built⟩ := tracked.registers.index led
      obtain ⟨_, _, built_held⟩ := tracked.registers.slot found
      obtain ⟨rfl, rfl⟩ := tracked.registers.same built_held built
      have label : card.id = id := tracked.labelled _ built
      rw [label]
      exact ⟨live, built⟩

/-- What the directory shows for an endpoint is the live session for it, if it is alive. -/
theorem Tracked.live?_of_shown (tracked : Tracked backend issued manager state ledger)
    (shown : Table.get? manager.pool.directory key = some card)
    (live : backend.alive state card.id = true) :
    manager.pool.live? (backend.alive state) key = some card := by
  obtain ⟨id, led⟩ := tracked.registers.directory shown
  obtain ⟨other, same, built⟩ := tracked.registers.index led
  rw [shown] at same
  cases same
  have label : card.id = id := tracked.labelled _ built
  rw [label] at live
  exact tracked.live?_of_mem built live

/-- Two sessions that were built for one endpoint are not alive both. -/
theorem Tracked.single (tracked : Tracked backend issued manager state ledger)
    {one other : Pool.Registration} (mem : one ∈ ledger) (mem_other : other ∈ ledger)
    (same_key : one.key = other.key) (live : backend.alive state one.id = true)
    (live_other : backend.alive state other.id = true) : one = other := by
  obtain ⟨key, id, card⟩ := one
  obtain ⟨_, id', card'⟩ := other
  cases same_key
  have found := tracked.live?_of_mem mem live
  have found_other := tracked.live?_of_mem mem_other live_other
  rw [found] at found_other
  cases found_other
  have label : card.id = id := tracked.labelled _ mem
  have label_other : card.id = id' := tracked.labelled _ mem_other
  rw [← label, ← label_other]

end tracked

/-! ### One step -/

/-- What a step does before the manager is stopped, and the session that it builds, if it does. -/
inductive Turn (backend : Backend σ) (issued : σ → SessionId → Bool) (manager : Manager) (state : σ)
    (after : Manager) (changed : σ) : Option Pool.Registration → Prop where
  /-- No session is built. Some may end and be taken out, and what is returned is the live session
  for the endpoint. -/
  | kept (cleared : Pool.Cleared (backend.alive state) manager.pool after.pool)
      (issues : ∀ id, issued state id = true → issued changed id = true)
      (fades : ∀ id, backend.alive changed id = true → backend.alive state id = true)
      (found : ∀ request key card, Returned manager after request key card →
        changed = state ∧ manager.pool.live? (backend.alive state) key = some card) :
      Turn backend issued manager state after changed none
  /-- A session is built for an endpoint without a live one, and returned. -/
  | built (rest : Pool) (key : Endpoint) (card : Card)
      (cleared : Pool.Cleared (backend.alive state) manager.pool rest) (vacates : rest.Vacates key)
      (put : after.pool = rest.register key (backend.takeId state).1 card)
      (asked : builder backend key (backend.takeId state).1 state = (.ok card, changed))
      (found : ∀ request other shown, Returned manager after request other shown →
        other = key ∧ shown = card) :
      Turn backend issued manager state after changed (some ⟨key, (backend.takeId state).1, card⟩)

/-- No session changes, and what is returned is the live session for the endpoint. -/
theorem Turn.found (cleared : Pool.Cleared (backend.alive state) manager.pool after.pool)
    (found : ∀ request key card, Returned manager after request key card →
      manager.pool.live? (backend.alive state) key = some card) :
    Turn backend issued manager state after state none := by
  apply Turn.kept cleared (fun _ known => known) (fun _ live => live)
  exact fun request key card returned => ⟨rfl, found request key card returned⟩

/-- No session changes, and nothing is returned. -/
theorem Turn.silent (cleared : Pool.Cleared (backend.alive state) manager.pool after.pool)
    (silent : ∀ request key card, ¬ Returned manager after request key card) :
    Turn backend issued manager state after state none := by
  apply Turn.found cleared
  exact fun request key card returned => absurd returned (silent request key card)

theorem Turn.refl (manager : Manager) (state : σ) :
    Turn backend issued manager state manager state none :=
  .silent (.refl _) fun _ _ _ => not_returned rfl

/-- Posting a job builds no session. -/
theorem post_turn (manager : Manager) (state : σ) (job : ManagerJob) :
    Turn backend issued manager state (manager.post job) state none := by
  unfold post
  split
  · exact .refl manager state
  · exact .silent (.refl _) fun _ _ _ => not_returned rfl

/-- A request goes through its next stage. -/
theorem Tracked.turn_advance (tracked : Tracked backend issued manager state ledger)
    (request : Nat) (dialed : Except Error Unit) :
    Turn backend issued manager state (manager.advance (backend.alive state) dialed request) state
      none := by
  have staged := advance_staged manager (backend.alive state) dialed request
  generalize manager.advance (backend.alive state) dialed request = after at staged ⊢
  cases staged with
  | same => exact .refl manager state
  | proceeds => exact .silent (.refl _) fun _ _ _ => not_returned (answerOf_proceed ..)
  | refused cause =>
    refine .silent (.refl _) fun other key card returned => ?_
    obtain ⟨_, given, _⟩ := returned_answer returned rfl
    cases given
  | found remote card asked shown live =>
    refine .found (.refl _) fun other key given returned => ?_
    obtain ⟨_, same, asked_key⟩ := returned_answer returned rfl
    cases asked_key.symm.trans asked
    cases same
    exact tracked.live?_of_shown shown live
  | waits job =>
    have pool : ((manager.post job).proceed request []).pool = manager.pool := by
      unfold proceed post
      split <;> rfl
    have answers (other : Nat) :
        ((manager.post job).proceed request []).answerOf other = manager.answerOf other := by
      rw [answerOf_proceed]
      unfold post
      split <;> rfl
    apply Turn.silent
    · rw [pool]
      exact .refl _
    · exact fun other _ _ => not_returned (answers other)

/-- The strand looks for the session for a request, and builds it if there is none. -/
theorem Tracked.turn_insert (tracked : Tracked backend issued manager state ledger)
    (lawful : backend.Lawful issued) {request : Nat} {remote : Endpoint} {rest : List ManagerJob}
    (queue : manager.queue = .insert request remote :: rest) :
    Turn backend issued manager state (manager.work backend state).1
      (manager.work backend state).2
      ((insertion backend manager remote state).registration? remote) := by
  have asked : manager.peerOf request = some remote := by
    apply tracked.filed.asked (.insert request remote) _ request remote rfl
    rw [queue]
    exact List.mem_cons_self
  -- what is returned is returned to the request of this job
  have answered {pool : Pool} {result : Except Error Card} {other : Nat} {key : Endpoint}
      {card : Card} (returned : Returned manager
        ({ manager with queue := rest, pool := pool }.answer request result) other key card) :
      key = remote ∧ result = .ok card := by
    obtain ⟨_, given, asked_key⟩ := returned_answer returned rfl
    exact ⟨Option.some.inj (asked_key.symm.trans asked), given⟩
  rw [work_insert queue]
  dsimp only
  cases found : manager.pool.live? (backend.alive state) remote with
  | some card =>
    have eq : insertion backend manager remote state = ⟨manager.pool, state, none, .ok card⟩ :=
      Pool.getOrInsert_of_live found
    rw [eq]
    refine .found (.refl _) fun other key shown returned => ?_
    obtain ⟨rfl, given⟩ := answered returned
    cases given
    exact found
  | none =>
    have admission : Pool.Admission (backend.alive state) (backend.takeId state).1 remote
        (builder backend remote) manager.pool state (insertion backend manager remote state) :=
      Pool.getOrInsert_admission found
    generalize insertion backend manager remote state = inserted at admission ⊢
    cases admission with
    | full cleared =>
      refine .silent cleared fun other key card returned => ?_
      cases (answered returned).2
    | @failed pool cause changed cleared _ built =>
      have made : (builder backend remote (backend.takeId state).1 state).2 = changed :=
        congrArg Prod.snd built
      refine .kept cleared ?_ ?_ fun other key card returned => ?_
      · intro id known
        exact made ▸ lawful.issued_build (lawful.issued_takeId known)
      · intro id live
        rw [← made] at live
        exact lawful.alive_takeId (lawful.alive_build_error (congrArg Prod.fst built) live)
      · cases (answered returned).2
    | @built pool card _ cleared _ _ vacates built =>
      refine .built pool remote card cleared vacates rfl built fun other key shown returned => ?_
      obtain ⟨rfl, given⟩ := answered returned
      cases given
      exact ⟨rfl, rfl⟩

/-- A job on the strand. -/
theorem Tracked.turn_work (tracked : Tracked backend issued manager state ledger)
    (lawful : backend.Lawful issued) :
    Turn backend issued manager state (manager.work backend state).1
      (manager.work backend state).2 (constructed backend manager state .work) := by
  have order := tracked.accounted.order
  rw [tracked.idle] at order
  unfold constructed
  cases queue : manager.queue with
  | nil =>
    unfold work
    rw [queue]
    exact .refl manager state
  | cons job rest =>
    have here : job ∈ manager.queue := queue ▸ List.mem_cons_self
    cases job with
    | insert request remote => exact tracked.turn_insert lawful queue
    | recheck request remote failure =>
      have asked := tracked.filed.asked _ here request remote rfl
      have cleared := Pool.getLive_cleared manager.pool (backend.alive state) remote
      unfold work
      rw [queue]
      dsimp only
      refine .found cleared fun other key card returned => ?_
      obtain ⟨_, given, asked_key⟩ := returned_answer returned rfl
      cases asked_key.symm.trans asked
      cases found : manager.pool.live? (backend.alive state) remote with
      | some shown =>
        rw [Pool.getLive_of_live found] at given
        cases given
        rfl
      | none =>
        rw [(Pool.getLive_of_not_live found).1] at given
        cases given
    | remove id =>
      have dead := (tracked.accounted.ended id here).2
      unfold work
      rw [queue]
      exact .silent (.one dead) fun _ _ _ => not_returned rfl
    | sweep =>
      unfold work
      rw [queue]
      exact .silent (Pool.sweep_cleared _ _) fun _ _ _ => not_returned rfl
    | drain => exact absurd here order

/-- What any step does before the manager is stopped. -/
theorem Tracked.turn (tracked : Tracked backend issued manager state ledger)
    (lawful : backend.Lawful issued) {action : Action} (goes_on : action ≠ .stop) :
    Turn backend issued manager state (Manager.step backend action manager state).1
      (Manager.step backend action manager state).2
      (constructed backend manager state action) := by
  cases action with
  | request | inbound =>
    exact .silent (.refl _) fun _ _ _ => not_returned_beginWith _ _
  | advance request dialed => exact tracked.turn_advance request dialed
  | work => exact tracked.turn_work lawful
  | halt id =>
    refine .kept (.refl _) ?_ ?_ ?_
    · exact fun _ => lawful.issued_halt
    · exact fun _ live => (lawful.alive_halt live).2
    · exact fun _ _ _ returned => absurd returned (not_returned rfl)
  | reportEnd id => exact post_turn manager state _
  | reap =>
    simp only [Manager.step, constructed]
    split
    · exact .refl manager state
    · exact post_turn manager state _
  | stop => exact absurd rfl goes_on
  | advanceStop =>
    simp only [Manager.step, constructed, Manager.advanceStop, tracked.idle]
    exact .refl manager state

section turn

variable {made : Option Pool.Registration} {action : Action}

/-- A session that was built before a step and is alive after it was alive before it. -/
theorem Turn.alive_before (turn : Turn backend issued manager state after changed made)
    (lawful : backend.Lawful issued) {id : SessionId} (known : issued state id = true)
    (live : backend.alive changed id = true) : backend.alive state id = true := by
  cases turn with
  | kept _ _ fades => exact fades id live
  | built _ key _ _ _ _ asked =>
    have made : (builder backend key (backend.takeId state).1 state).2 = changed :=
      congrArg Prod.snd asked
    rw [← made] at live
    rcases lawful.alive_build live with new | live
    · -- the session that is built now has a number that was not given out
      rw [new, lawful.fresh] at known
      cases known
    · exact lawful.alive_takeId live

/-- A step tells the tables of the pool as it tells what is built. -/
theorem Tracked.registers_turn (tracked : Tracked backend issued manager state ledger)
    (lawful : backend.Lawful issued)
    (turn : Turn backend issued manager state after changed made) :
    after.pool.Registers (made.toList ++ ledger) := by
  cases turn with
  | kept cleared => exact tracked.registers.cleared cleared
  | built rest key card cleared vacates put =>
    rw [put]
    refine (tracked.registers.cleared cleared).register ?_ vacates card
    intro mem
    obtain ⟨registration, mem, eq⟩ := List.mem_map.mp mem
    have known := tracked.known registration mem
    rw [eq, lawful.fresh] at known
    cases known

/-- Every step before a stop keeps the account. -/
theorem Tracked.step (tracked : Tracked backend issued manager state ledger)
    (prompt : backend.Prompt issued) (goes_on : action ≠ .stop)
    (genuine : manager.genuine backend issued state action = true) :
    Tracked backend issued (Manager.step backend action manager state).1
      (Manager.step backend action manager state).2
      ((constructed backend manager state action).toList ++ ledger) := by
  have order := tracked.accounted.order
  rw [tracked.idle] at order
  -- there is no drain that an insertion could get behind
  have punctual : manager.punctual state action = true := by
    unfold punctual
    rw [tracked.idle]
    split <;> rfl
  have turn := tracked.turn prompt.toLawful goes_on
  constructor
  case accounted => exact accounted_step tracked.accounted prompt.toLawful genuine punctual
  case idle => exact step_idle tracked.idle order goes_on
  case filed => exact tracked.filed.step backend action state
  case registers => exact tracked.registers_turn prompt.toLawful turn
  case labelled =>
    intro registration mem
    generalize constructed backend manager state action = made at turn mem
    cases turn with
    | kept => exact tracked.labelled registration mem
    | built _ _ _ _ _ _ asked =>
      rcases List.mem_cons.mp mem with rfl | mem
      · exact prompt.card_build (congrArg Prod.fst asked)
      · exact tracked.labelled registration mem
  case known =>
    intro registration mem
    generalize constructed backend manager state action = made at turn mem
    cases turn with
    | kept _ issues => exact issues _ (tracked.known registration mem)
    | built _ _ _ _ _ _ asked =>
      rw [← congrArg Prod.snd asked]
      apply prompt.issued_build
      rcases List.mem_cons.mp mem with rfl | mem
      · exact prompt.issued_next state
      · exact prompt.issued_takeId (tracked.known registration mem)

/-- What a step returns is a session that is alive, and that was built for the endpoint. -/
theorem Tracked.returned (tracked : Tracked backend issued manager state ledger)
    (prompt : backend.Prompt issued) (goes_on : action ≠ .stop) {request : Nat} {key : Endpoint}
    {card : Card} (returned : Returned manager (Manager.step backend action manager state).1
      request key card) :
    backend.alive (Manager.step backend action manager state).2 card.id = true ∧
      ⟨key, card.id, card⟩ ∈ (constructed backend manager state action).toList ++ ledger := by
  have turn := tracked.turn prompt.toLawful goes_on
  generalize Manager.step backend action manager state = result at turn returned ⊢
  generalize constructed backend manager state action = made at turn ⊢
  cases turn with
  | kept _ _ _ found =>
    obtain ⟨same, found⟩ := found request key card returned
    rw [same]
    exact tracked.mem_of_live? found
  | built _ _ _ _ _ _ asked found =>
    obtain ⟨rfl, rfl⟩ := found request key card returned
    have made := congrArg Prod.fst asked
    have label : card.id = (backend.takeId state).1 := prompt.card_build made
    rw [label, ← congrArg Prod.snd asked]
    exact ⟨prompt.alive_built made, List.mem_cons_self⟩

end turn

/-! ### Any schedule -/

/-- A schedule may be cut anywhere. -/
theorem run_append (manager : Manager) (state : σ) (front back : List Action) :
    run backend manager state (front ++ back) =
      run backend (run backend manager state front).1 (run backend manager state front).2 back := by
  induction front generalizing manager state with
  | nil => rfl
  | cons action rest ih => exact ih _ _

/-- What a schedule builds is what its parts build, the latest first. -/
theorem constructions_append (manager : Manager) (state : σ) (front back : List Action) :
    constructions backend manager state (front ++ back) =
      constructions backend (run backend manager state front).1
          (run backend manager state front).2 back ++
        constructions backend manager state front := by
  induction front generalizing manager state with
  | nil => exact (List.append_nil _).symm
  | cons action rest ih =>
    simp only [List.cons_append, constructions, run]
    rw [ih, List.append_assoc]

/-- A check that holds along a schedule holds along both of its parts. -/
theorem checks_append {check : Manager → σ → Action → Bool} (manager : Manager) (state : σ)
    (front back : List Action) :
    checks backend check manager state (front ++ back) =
      (checks backend check manager state front &&
        checks backend check (run backend manager state front).1
          (run backend manager state front).2 back) := by
  induction front generalizing manager state with
  | nil => rfl
  | cons action rest ih =>
    simp only [List.cons_append, checks, run]
    rw [ih, Bool.and_assoc]

section run

variable {schedule front back : List Action} {action : Action}

/-- Every schedule without a stop keeps the account. -/
theorem Tracked.run (tracked : Tracked backend issued manager state ledger)
    (prompt : backend.Prompt issued) (goes_on : .stop ∉ schedule)
    (genuine : checks backend (genuine backend issued) manager state schedule = true) :
    Tracked backend issued (run backend manager state schedule).1
      (run backend manager state schedule).2
      (constructions backend manager state schedule ++ ledger) := by
  induction schedule generalizing manager state ledger with
  | nil => exact tracked
  | cons action rest ih =>
    simp only [checks, Bool.and_eq_true] at genuine
    rw [List.mem_cons, not_or] at goes_on
    have stepped := tracked.step prompt (Ne.symm goes_on.1) genuine.1
    rw [constructions, List.append_assoc]
    exact ih stepped goes_on.2 genuine.2

/-- What was built before a schedule without a stop, and is alive after it, is alive before it. -/
theorem Tracked.alive_before_run (tracked : Tracked backend issued manager state ledger)
    (prompt : backend.Prompt issued) (goes_on : .stop ∉ schedule)
    (genuine : checks backend (genuine backend issued) manager state schedule = true)
    {registration : Pool.Registration} (mem : registration ∈ ledger)
    (live : backend.alive (Manager.run backend manager state schedule).2 registration.id = true) :
    backend.alive state registration.id = true := by
  induction schedule generalizing manager state ledger with
  | nil => exact live
  | cons action rest ih =>
    simp only [checks, Bool.and_eq_true] at genuine
    rw [List.mem_cons, not_or] at goes_on
    have stepped := tracked.step prompt (Ne.symm goes_on.1) genuine.1
    have live := ih stepped goes_on.2 genuine.2 (List.mem_append_right _ mem) live
    have turn := tracked.turn prompt.toLawful (Ne.symm goes_on.1)
    exact turn.alive_before prompt.toLawful (tracked.known registration mem) live

/-- What the last step of a schedule returns. -/
theorem Tracked.returned_run (tracked : Tracked backend issued manager state ledger)
    (prompt : backend.Prompt issued) (goes_on : .stop ∉ front ++ [action])
    (genuine : checks backend (genuine backend issued) manager state (front ++ [action]) = true)
    {request : Nat} {key : Endpoint} {card : Card}
    (returned : Returned (Manager.run backend manager state front).1
      (Manager.run backend manager state (front ++ [action])).1 request key card) :
    backend.alive (Manager.run backend manager state (front ++ [action])).2 card.id = true ∧
      ⟨key, card.id, card⟩ ∈
        constructions backend manager state (front ++ [action]) ++ ledger := by
  rw [checks_append, Bool.and_eq_true] at genuine
  rw [List.mem_append, not_or] at goes_on
  have before := tracked.run prompt goes_on.1 genuine.1
  have not_stop : action ≠ .stop := fun eq => goes_on.2 (eq ▸ List.mem_cons_self)
  rw [run_append] at returned ⊢
  rw [constructions_append, List.append_assoc]
  exact before.returned prompt not_stop returned

end run

/-- A manager has built one session at a time for every endpoint. -/
structure BuildsOnce (backend : Backend σ) (manager : Manager) (state : σ)
    (schedule : List Action) : Prop where
  /-- No number was given to two sessions. -/
  distinct : ((constructions backend manager state schedule).map Pool.Registration.id).Nodup
  /-- A session that is alive was built by the manager. -/
  built (id : SessionId) : backend.alive (run backend manager state schedule).2 id = true →
    ∃ registration ∈ constructions backend manager state schedule, registration.id = id
  /-- Two sessions that were built for one endpoint are not alive both. -/
  single : ∀ one ∈ constructions backend manager state schedule,
    ∀ other ∈ constructions backend manager state schedule, one.key = other.key →
      backend.alive (run backend manager state schedule).2 one.id = true →
        backend.alive (run backend manager state schedule).2 other.id = true → one = other
  /-- When a request returns a session, the session is alive, and was built for the endpoint that
  the request asks for. -/
  selected {front back : List Action} {action : Action} : schedule = front ++ [action] ++ back →
    ∀ {request key card},
      Returned (run backend manager state front).1
        (run backend manager state (front ++ [action])).1 request key card →
      backend.alive (run backend manager state (front ++ [action])).2 card.id = true ∧
        ⟨key, card.id, card⟩ ∈ constructions backend manager state (front ++ [action])
  /-- While a session is alive that was built for an endpoint, every request for the endpoint that
  returns a session returns this one. -/
  same {front back : List Action} {action : Action} : schedule = front ++ [action] ++ back →
    ∀ registration ∈ constructions backend manager state (front ++ [action]),
      backend.alive (run backend manager state schedule).2 registration.id = true →
        ∀ {request card},
          Returned (run backend manager state front).1
            (run backend manager state (front ++ [action])).1 request registration.key card →
          card = registration.card

/-- **A manager builds a session once** for every endpoint: however the requests, the strand, the
sweeps and the ends of sessions are scheduled, as long as nobody stops the manager. -/
theorem run_start_buildsOnce (prompt : backend.Prompt issued) (kind : ManagerKind)
    (poolName : String) (capacity : Nat) (nothing : ∀ id, backend.alive state id = false)
    {schedule : List Action} (goes_on : .stop ∉ schedule)
    (genuine : checks backend (genuine backend issued) (start kind poolName capacity true) state
      schedule = true) :
    BuildsOnce backend (start kind poolName capacity true) state schedule := by
  have tracked : Tracked backend issued (start kind poolName capacity true) state [] :=
    start_tracked kind poolName capacity nothing
  generalize start kind poolName capacity true = manager at tracked genuine ⊢
  have final := tracked.run prompt goes_on genuine
  rw [List.append_nil] at final
  constructor
  case distinct => exact final.registers.distinct
  case built =>
    intro id live
    obtain ⟨key, card, _, _, mem⟩ := final.exists_built live
    exact ⟨_, mem, rfl⟩
  case single =>
    intro one mem other mem_other same_key live live_other
    exact final.single mem mem_other same_key live live_other
  case selected =>
    rintro front back action rfl request key card returned
    rw [checks_append, Bool.and_eq_true] at genuine
    rw [List.mem_append, not_or] at goes_on
    have selected := tracked.returned_run prompt goes_on.1 genuine.1 returned
    rwa [List.append_nil] at selected
  case same =>
    rintro front back action rfl registration mem live request card returned
    rw [checks_append, Bool.and_eq_true] at genuine
    rw [List.mem_append, not_or] at goes_on
    have selected := tracked.returned_run prompt goes_on.1 genuine.1 returned
    have between := tracked.run prompt goes_on.1 genuine.1
    rw [List.append_nil] at selected between
    -- alive at the end, so alive when the request returned
    rw [run_append] at live
    have live := between.alive_before_run prompt goes_on.2 genuine.2 mem live
    have one := between.single selected.2 mem rfl selected.1 live
    exact congrArg Pool.Registration.card one

end Manager

end PeerNet
