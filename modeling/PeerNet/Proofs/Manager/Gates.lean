import Mathlib.Data.List.Basic
import PeerNet.Proofs.Manager.Lookups

/-!
# The gate of a manager, and what passes it

The gate of a manager is lowered by a stop, which ends its loops for good and closes its strand in
the end. Nothing else touches any of the three.

* **Steps** (`gate_step`): who moves the gate, and who closes the strand.
* **A gate that is only lowered** (`OpenGate`) is up exactly until the loops are told to end.
* **A stop** (`gate_stop`) that nobody disturbs lowers the gate and tells the loops to end.
* **A request** (`serve_answers`) that finds the gate up and the strand open gets what the
  directory shows, or what the pool has for it.
-/

namespace PeerNet.Manager

variable {σ : Type} {backend : Backend σ} {manager : Manager} {state : σ}

/-! ### Steps -/

/-- Posting a job leaves the gate as it is. -/
theorem gate_post (manager : Manager) (job : ManagerJob) :
    (manager.post job).kind = manager.kind ∧ (manager.post job).admits = manager.admits
      ∧ (manager.post job).cancelled = manager.cancelled
      ∧ (manager.post job).closed = manager.closed := by
  unfold post
  split <;> exact ⟨rfl, rfl, rfl, rfl⟩

/-- Nobody but who stops the manager moves the gate, or closes the strand. -/
theorem gate_step (manager : Manager) (backend : Backend σ) (state : σ) {action : Action}
    (stays : action ≠ .stop) :
    (Manager.step backend action manager state).1.kind = manager.kind
      ∧ (Manager.step backend action manager state).1.admits = manager.admits
      ∧ (Manager.step backend action manager state).1.cancelled = manager.cancelled
      ∧ (action ≠ .advanceStop →
          (Manager.step backend action manager state).1.closed = manager.closed) := by
  have posts (job : ManagerJob) :
      (manager.post job).kind = manager.kind ∧ (manager.post job).admits = manager.admits
        ∧ (manager.post job).cancelled = manager.cancelled
        ∧ (action ≠ .advanceStop → (manager.post job).closed = manager.closed) := by
    obtain ⟨kind, admits, cancelled, closed⟩ := manager.gate_post job
    exact ⟨kind, admits, cancelled, fun _ => closed⟩
  cases action with
  | stop => exact absurd rfl stays
  | request | inbound | halt => exact ⟨rfl, rfl, rfl, fun _ => rfl⟩
  | advance request dialed =>
    have advanced := advance_advanced manager (backend.alive state) dialed request
    simp only [Manager.step]
    generalize manager.advance (backend.alive state) dialed request = after at advanced ⊢
    rcases advanced with _ | ⟨_, job, _, _, _⟩
    · exact ⟨rfl, rfl, rfl, fun _ => rfl⟩
    · exact posts job
  | work =>
    simp only [Manager.step, work]
    rcases manager.queue with _ | ⟨_ | _ | _ | _ | _, rest⟩ <;> exact ⟨rfl, rfl, rfl, fun _ => rfl⟩
  | reportEnd id => exact posts _
  | reap =>
    simp only [Manager.step]
    split
    · exact ⟨rfl, rfl, rfl, fun _ => rfl⟩
    · exact posts _
  | advanceStop =>
    simp only [Manager.step, advanceStop]
    rcases manager.progress with _ | _ | _ | sessions | _ | sessions | _
    case lowered =>
      dsimp only
      split
      · exact ⟨rfl, rfl, rfl, fun _ => rfl⟩
      · exact posts _
    case drained =>
      dsimp only
      split <;> exact ⟨rfl, rfl, rfl, fun other => absurd rfl other⟩
    all_goals exact ⟨rfl, rfl, rfl, fun other => absurd rfl other⟩

/-! ### A gate that is only lowered -/

/-- The gate is up until the loops are told to end. -/
def OpenGate (manager : Manager) : Prop := manager.admits = !manager.cancelled

/-- Lowering the gate tells the loops to end, if they have not been told before. -/
theorem OpenGate.lower (gate : manager.OpenGate) :
    manager.lower.OpenGate ∧ manager.lower.cancelled = true := by
  unfold Manager.lower
  split
  · exact ⟨rfl, rfl⟩
  · next down =>
    refine ⟨gate, ?_⟩
    rw [gate] at down
    simpa using down

/-- After every step the gate is still up until the loops are told to end. -/
theorem OpenGate.step (gate : manager.OpenGate) (backend : Backend σ) (action : Action)
    (state : σ) : (Manager.step backend action manager state).1.OpenGate := by
  by_cases stops : action = .stop
  · subst stops
    exact gate.lower.1
  · obtain ⟨-, admits, cancelled, -⟩ := manager.gate_step backend state stops
    rw [OpenGate, admits, cancelled]
    exact gate

/-- What the loops were told is not taken back. -/
theorem cancelled_step (gate : manager.OpenGate) (backend : Backend σ) (action : Action) (state : σ)
    (told : manager.cancelled = true) :
    (Manager.step backend action manager state).1.cancelled = true := by
  by_cases stops : action = .stop
  · subst stops
    exact gate.lower.2
  · obtain ⟨-, -, cancelled, -⟩ := manager.gate_step backend state stops
    exact cancelled.trans told

/-! ### A stop that nobody disturbs -/

/-- Runs as many jobs as are listed. -/
def works (backend : Backend σ) (jobs : List ManagerJob) (manager : Manager) (state : σ) :
    Manager × σ :=
  jobs.foldl (fun (manager, state) _ => manager.work backend state) (manager, state)

/-- Working through jobs is doing the first and then the others. -/
theorem works_cons (job : ManagerJob) (jobs : List ManagerJob) (manager : Manager) (state : σ) :
    works backend (job :: jobs) manager state
      = works backend jobs (manager.work backend state).1 (manager.work backend state).2 := rfl

/-- Working through jobs may be cut anywhere. -/
theorem works_append (jobs more : List ManagerJob) (manager : Manager) (state : σ) :
    works backend (jobs ++ more) manager state
      = works backend more (works backend jobs manager state).1
          (works backend jobs manager state).2 := List.foldl_append

/-- Working through all that is queued is working through the queue. -/
theorem workAll_eq (manager : Manager) (state : σ) :
    manager.workAll backend state = works backend manager.queue manager state := rfl

/-- What holds once the gate is lowered, and is kept by whatever follows, holds after a stop. -/
theorem stop_induction (holds : Manager → Prop) (up : manager.admits = true)
    (lowered : holds manager.lower)
    (step : ∀ {manager : Manager} {state : σ} {action : Action}, action ≠ .stop → holds manager →
      holds (Manager.step backend action manager state).1) :
    holds (manager.stop backend state).1 := by
  have drains (jobs : List ManagerJob) : ∀ (manager : Manager) (state : σ), holds manager →
      holds (works backend jobs manager state).1 := by
    induction jobs with
    | nil => exact fun _ _ held => held
    | cons job rest ih =>
      intro manager state held
      have next : holds (Manager.step backend .work manager state).1 := step nofun held
      exact ih _ _ next
  have goes_on {manager : Manager} {state : σ} (held : holds manager) :
      holds (Manager.step backend .advanceStop manager state).1 := step nofun held
  rw [Manager.stop, if_pos up]
  exact goes_on (goes_on (drains _ _ _ (goes_on lowered)))

/-- A stop lowers a gate that is up, and tells the loops to end. -/
theorem gate_stop (backend : Backend σ) (state : σ) (up : manager.admits = true) :
    (manager.stop backend state).1.kind = manager.kind
      ∧ (manager.stop backend state).1.admits = false
      ∧ (manager.stop backend state).1.cancelled = true := by
  apply stop_induction (fun after =>
    after.kind = manager.kind ∧ after.admits = false ∧ after.cancelled = true) up
  · rw [Manager.lower, if_pos up]
    exact ⟨rfl, rfl, rfl⟩
  · rintro after state action stays ⟨kind, down, told⟩
    obtain ⟨same_kind, admits, cancelled, -⟩ := after.gate_step backend state stays
    exact ⟨same_kind.trans kind, admits.trans down, cancelled.trans told⟩

/-- The jobs stay in line with the requests. -/
theorem Filed.stop (filed : manager.Filed) (backend : Backend σ) (state : σ)
    (up : manager.admits = true) : (manager.stop backend state).1.Filed := by
  apply stop_induction Filed up
  · exact filed.step backend .stop state
  · intro after state action _ filed
    exact filed.step backend action state

/-! ### A request that nobody disturbs -/

section requests

variable {alive : SessionId → Bool} {dialed : Except Error Unit} {request : Nat} {remote : Endpoint}
  {rest : List Stage}

/-- The session that the directory shows for an endpoint, if it is alive. -/
def shown? (manager : Manager) (alive : SessionId → Bool) (remote : Endpoint) : Option Card :=
  (Table.get? manager.pool.directory remote).filter fun card => alive card.id

/-- A request waits for these stages. -/
def Waits (manager : Manager) (request : Nat) (remote : Endpoint) (todo : List Stage) : Prop :=
  Table.get? manager.requests request = some ⟨remote, todo, none⟩

/-- A request that waits goes on to wait for its next stages. -/
theorem Waits.proceed {todo : List Stage} (waits : manager.Waits request remote todo)
    (next : List Stage) : (manager.proceed request next).Waits request remote next := by
  rw [Waits] at waits
  simp [Waits, Manager.proceed, Table.get?_adjust, waits]

/-- The peer of a request that waits is the one it was made for. -/
theorem Waits.peerOf {todo : List Stage} (waits : manager.Waits request remote todo) :
    manager.peerOf request = some remote := by
  rw [Waits] at waits
  rw [Manager.peerOf, waits, Option.map_some]

/-- A request passes the gate while it is up. -/
theorem advance_gate {refusal : Error}
    (waits : manager.Waits request remote (.gate refusal :: rest)) (up : manager.admits = true) :
    manager.advance alive dialed request = manager.proceed request rest := by
  rw [Waits] at waits
  simp [advance, waits, up]

/-- A request takes the live session that the directory shows, or goes on without. -/
theorem advance_directory (waits : manager.Waits request remote (.directory :: rest)) :
    manager.advance alive dialed request =
      match manager.shown? alive remote with
      | some card => manager.answer request (.ok card)
      | none => manager.proceed request rest := by
  rw [Waits] at waits
  simp only [advance, waits, shown?]
  rcases Table.get? manager.pool.directory remote with _ | card
  · rfl
  · rcases live : alive card.id <;> simp [Option.filter, live]

/-- A request for which no session is shown posts an insertion, as long as the strand is open. -/
theorem advance_insert (waits : manager.Waits request remote (.insert :: rest))
    (opened : manager.closed = false) :
    manager.advance alive dialed request
      = (manager.post (.insert request remote)).proceed request [] := by
  rw [Waits] at waits
  simp [advance, waits, Manager.await, opened]

/-- A request that has been through its stages waits. -/
theorem advance_done (waits : manager.Waits request remote []) :
    manager.advance alive dialed request = manager := by
  rw [Waits] at waits
  simp [advance, waits]

/-- A request that has its answer keeps it. -/
theorem advance_answered {result : Except Error Card}
    (asked : manager.peerOf request = some remote) :
    (manager.answer request result).advance alive dialed request
      = manager.answer request result := by
  obtain ⟨r, found, -⟩ := Option.map_eq_some_iff.mp asked
  simp [advance, Manager.answer, Table.get?_adjust, found]

/-- What becomes of a request that goes through all its stages at once: it is answered with what the
directory shows, or looked for on the strand. -/
structure Passes (manager : Manager) (alive : SessionId → Bool) (request : Nat) (remote : Endpoint)
    (after : Manager) : Prop where
  /-- The pool stays as it is. -/
  pool : after.pool = manager.pool
  /-- The request asks for the same endpoint. -/
  asked : after.peerOf request = some remote
  /-- It has its answer, or a job on the strand. -/
  done : match manager.shown? alive remote with
    | some card => after.queue = manager.queue ∧ after.answerOf request = some (.ok card)
    | none => after.queue = manager.queue ++ [.insert request remote]
        ∧ after.Waits request remote []

/-- The last stage: the directory shows nothing. -/
theorem passes_insert {before : Manager} (waits : manager.Waits request remote [.insert])
    (opened : manager.closed = false) (hidden : before.shown? alive remote = none)
    (pool : manager.pool = before.pool) (queue : manager.queue = before.queue) (steps : List Nat) :
    Passes before alive request remote
      (steps.foldl (fun manager _ => manager.advance alive dialed request)
        (manager.advance alive dialed request)) := by
  have posted : (manager.post (.insert request remote)).Waits request remote [.insert] := by
    rw [Waits, requests_post]
    exact waits
  have done := posted.proceed []
  rw [advance_insert waits opened, List.foldl_fixed' fun _ => advance_done done]
  refine ⟨?_, done.peerOf, ?_⟩
  · exact (pool_post ..).trans pool
  · rw [hidden]
    refine ⟨?_, done⟩
    simp [Manager.proceed, post, opened, queue]

/-- The directory shows a session. -/
theorem passes_shown {before : Manager} {card : Card} (asked : manager.peerOf request = some remote)
    (shown : before.shown? alive remote = some card) (pool : manager.pool = before.pool)
    (queue : manager.queue = before.queue) (steps : List Nat) :
    Passes before alive request remote
      (steps.foldl (fun manager _ => manager.advance alive dialed request)
        (manager.answer request (.ok card))) := by
  rw [List.foldl_fixed' fun _ => advance_answered asked]
  refine ⟨pool, (peerOf_answer ..).trans asked, ?_⟩
  rw [shown]
  refine ⟨queue, ?_⟩
  rw [answerOf_answer, if_pos rfl, asked, Option.map_some]

/-- Whether the gate or the directory comes first makes no difference while the gate is up. -/
theorem passes_stages {stages : List Stage} {refusal : Error}
    (waits : manager.Waits request remote stages) (up : manager.admits = true)
    (opened : manager.closed = false)
    (order : stages = [.gate refusal, .directory, .insert]
      ∨ stages = [.directory, .gate refusal, .insert])
    {steps : List Nat} (enough : stages.length ≤ steps.length) :
    Passes manager alive request remote
      (steps.foldl (fun manager _ => manager.advance alive dialed request) manager) := by
  obtain ⟨a, b, c, steps, rfl⟩ : ∃ a b c rest, steps = a :: b :: c :: rest := by
    rcases order with rfl | rfl <;> rcases steps with _ | ⟨a, _ | ⟨b, _ | ⟨c, rest⟩⟩⟩ <;>
      simp at enough ⊢
  simp only [List.foldl_cons]
  rcases shown : manager.shown? alive remote with _ | card
  all_goals rcases order with rfl | rfl
  case none.inl =>
    have passed := waits.proceed [.directory, .insert]
    have hidden : (manager.proceed request [.directory, .insert]).shown? alive remote = none :=
      shown
    rw [advance_gate waits up, advance_directory passed, hidden]
    exact passes_insert (passed.proceed [.insert]) opened shown rfl rfl steps
  case none.inr =>
    have looked := waits.proceed [.gate refusal, .insert]
    rw [advance_directory waits, shown]
    dsimp only
    rw [advance_gate looked up]
    exact passes_insert (looked.proceed [.insert]) opened shown rfl rfl steps
  case some.inl =>
    have passed := waits.proceed [.directory, .insert]
    have there : (manager.proceed request [.directory, .insert]).shown? alive remote = some card :=
      shown
    rw [advance_gate waits up, advance_directory passed, there]
    exact passes_shown passed.peerOf shown rfl rfl (c :: steps)
  case some.inr =>
    rw [advance_directory waits, shown]
    exact passes_shown waits.peerOf shown rfl rfl (b :: c :: steps)

/-! ### The jobs ahead of a request -/

/-- A job does to the pool what it would do without the request, and does not answer it. -/
theorem work_ahead (backend : Backend σ) (state : σ) {before : Manager} {job : ManagerJob}
    {jobs behind : List ManagerJob}
    (queue : before.queue = job :: jobs) (longer : manager.queue = job :: (jobs ++ behind))
    (pool : manager.pool = before.pool) (others : ∀ peer, job.serves? ≠ some (request, peer)) :
    (manager.work backend state).1.pool = (before.work backend state).1.pool
      ∧ (manager.work backend state).2 = (before.work backend state).2
      ∧ (manager.work backend state).1.answerOf request = manager.answerOf request := by
  unfold work
  rw [queue, longer]
  rcases job with ⟨other, peer⟩ | ⟨other, peer, failure⟩ | id | _ | _
  case insert | recheck =>
    have ne : request ≠ other := fun same => others peer (same ▸ rfl)
    dsimp only
    rw [pool]
    refine ⟨rfl, rfl, ?_⟩
    rw [answerOf_answer, if_neg ne]
    rfl
  all_goals
    dsimp only
    rw [pool]
    exact ⟨rfl, rfl, rfl⟩

/-- The jobs ahead of a request do what they would do without it. -/
theorem works_ahead (backend : Backend σ) (state : σ) {jobs behind : List ManagerJob}
    {before : Manager}
    (queue : before.queue = jobs) (longer : manager.queue = jobs ++ behind)
    (pool : manager.pool = before.pool)
    (others : ∀ job ∈ jobs, ∀ peer, job.serves? ≠ some (request, peer)) :
    (works backend jobs manager state).1.pool = (works backend jobs before state).1.pool
      ∧ (works backend jobs manager state).2 = (works backend jobs before state).2
      ∧ (works backend jobs manager state).1.queue = behind
      ∧ (works backend jobs manager state).1.peerOf request = manager.peerOf request
      ∧ (works backend jobs manager state).1.answerOf request = manager.answerOf request := by
  induction jobs generalizing manager before state with
  | nil => exact ⟨pool, rfl, longer, rfl, rfl⟩
  | cons job jobs ih =>
    obtain ⟨same_pool, same_state, same_answer⟩ :=
      work_ahead backend state queue longer pool
        (others job List.mem_cons_self)
    obtain ⟨peers, -, rest⟩ := manager.work_frame backend state
    obtain ⟨-, -, fewer⟩ := before.work_frame backend state
    rw [queue, List.tail_cons] at fewer
    rw [longer, List.cons_append, List.tail_cons] at rest
    rw [works_cons, works_cons, same_state]
    obtain ⟨after_pool, after_state, done, asked, answered⟩ :=
      ih _ fewer rest same_pool fun other mem => others other (List.mem_cons_of_mem _ mem)
    exact ⟨after_pool, after_state, done, asked.trans (peers request), answered.trans same_answer⟩

/-- What a request gets that nobody disturbs: the session that the directory shows if it is alive,
or else what comes of looking for it in the pool, behind the jobs that are on the strand. -/
def pooled (manager : Manager) (backend : Backend σ) (remote : Endpoint) (state : σ) :
    Except Error Card :=
  match manager.shown? (backend.alive state) remote with
  | some card => .ok card
  | none =>
    let (manager, state) := manager.workAll backend state
    (insertion backend manager remote state).outcome.mapError Pool.Refusal.toError

/-- A request goes through all its stages. -/
def passed (manager : Manager) (alive : SessionId → Bool) (dialed : Except Error Unit)
    (remote : Endpoint) : Manager :=
  (List.range (manager.kind.stages.length + 2)).foldl
    (fun after _ => after.advance alive dialed manager.nextRequest) (manager.begin remote).1

/-- The result of a request is its answer, if it has one. -/
theorem serve_answer (backend : Backend σ) (state : σ) {result : Except Error Card}
    (answered : ((manager.passed (backend.alive state) dialed remote).workAll backend
      state).1.answerOf manager.nextRequest = some result) :
    (manager.serve backend dialed remote state).2.2 = result := by
  obtain ⟨⟨peer, todo, answer⟩, found, given⟩ := Option.bind_eq_some_iff.mp answered
  obtain rfl : answer = some result := given
  unfold serve
  dsimp only
  split
  · next stored =>
    cases found.symm.trans stored
    rfl
  · next unanswered => exact absurd found (unanswered peer todo result)

/-- **A request reaches the pool** if it finds the gate up and the strand open: it is not told that
the strand is closed. -/
theorem serve_answers (backend : Backend σ) (state : σ) {refusal : Error} (filed : manager.Filed)
    (up : manager.admits = true) (opened : manager.closed = false)
    (order : manager.kind.stages = [.gate refusal, .directory, .insert]
      ∨ manager.kind.stages = [.directory, .gate refusal, .insert]) :
    (manager.serve backend dialed remote state).2.2 = manager.pooled backend remote state := by
  have waits : (manager.begin remote).1.Waits manager.nextRequest remote manager.kind.stages :=
    (Table.get?_insert ..).trans (if_pos rfl)
  have enough : manager.kind.stages.length
      ≤ (List.range (manager.kind.stages.length + 2)).length := by simp
  obtain ⟨pool, asked, done⟩ : Passes (manager.begin remote).1 (backend.alive state)
      manager.nextRequest remote (manager.passed (backend.alive state) dialed remote) :=
    passes_stages waits up opened order enough
  -- the jobs that are there are for other requests
  have others : ∀ job ∈ manager.queue, ∀ peer, job.serves? ≠ some (manager.nextRequest, peer) := by
    intro job mem peer serves
    have began := filed.asked job mem _ peer serves
    rw [filed.unused _ (Nat.le_refl _)] at began
    cases began
  apply serve_answer
  generalize manager.passed (backend.alive state) dialed remote = after at pool asked done ⊢
  unfold pooled
  rw [show (manager.begin remote).1.shown? (backend.alive state) remote
    = manager.shown? (backend.alive state) remote from rfl] at done
  rcases shown : manager.shown? (backend.alive state) remote with _ | card
  · rw [shown] at done
    obtain ⟨queue, -⟩ := done
    have longer : after.queue = manager.queue ++ [.insert manager.nextRequest remote] := queue
    obtain ⟨same_pool, same_state, rest, still, -⟩ :=
      works_ahead backend state rfl longer pool others
    rw [workAll_eq, longer, works_append, works_cons, work_insert rest]
    show Manager.answerOf (Manager.answer _ _ _) _
      = some ((insertion backend (manager.workAll backend state).1 remote
        (manager.workAll backend state).2).outcome.mapError _)
    have still : (works backend manager.queue after state).1.peerOf manager.nextRequest
        = some remote := still.trans asked
    have same : insertion backend (works backend manager.queue after state).1 remote
        (works backend manager.queue after state).2
          = insertion backend (manager.workAll backend state).1 remote
            (manager.workAll backend state).2 := by
      unfold insertion
      rw [same_pool, same_state]
      rfl
    rw [answerOf_answer, if_pos rfl, ← same]
    exact congrArg (Option.map _) still
  · rw [shown] at done
    obtain ⟨queue, answered⟩ := done
    have longer : after.queue = manager.queue ++ [] := queue.trans (List.append_nil _).symm
    obtain ⟨-, -, -, -, still⟩ := works_ahead backend state rfl longer pool others
    rw [workAll_eq, queue]
    exact still.trans answered

/-- The pool does not say that the strand is closed, if sessions do not when they are built. -/
theorem pooled_ne_closed (builds : ∀ id remote state text,
    (backend.build id remote state).1 ≠ .error (.channelSend text)) (text : String) :
    manager.pooled backend remote state ≠ .error (.channelSend text) := by
  unfold pooled
  split
  · exact nofun
  · dsimp only
    generalize (manager.workAll backend state).1 = after
    generalize (manager.workAll backend state).2 = changed
    rcases live : after.pool.live? (backend.alive changed) remote with _ | card
    · have admission : Pool.Admission (backend.alive changed) (backend.takeId changed).1 remote
          (builder backend remote) after.pool changed (insertion backend after remote changed) :=
        Pool.getOrInsert_admission live
      generalize insertion backend after remote changed = inserted at admission ⊢
      rcases admission with _ | @⟨_, cause, _, _, _, asked⟩ | _
      · exact nofun
      · intro closed
        obtain rfl : cause = .channelSend text := Except.error.inj closed
        exact builds _ _ _ text (congrArg Prod.fst asked)
      · exact nofun
    · have eq : insertion backend after remote changed = ⟨after.pool, changed, none, .ok card⟩ :=
        Pool.getOrInsert_of_live live
      rw [eq]
      exact nofun

end requests

end PeerNet.Manager
