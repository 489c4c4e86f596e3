import PeerNet.Proofs.Strand.Sequence

/-!
# The worker of a strand gets through its jobs

A worker that goes on often enough comes to an end with every job that was accepted, whatever the
holders of the strand do in the meantime.

* **Settling** (`settle_reached`, `step_settle`): to settle a strand is to let its worker go on
  until it has nothing to do.
* **Nothing left** (`Stage.spent`): a worker that has nothing to do, and was not torn down, has
  ended every job.
* **Holders do not hold up the worker** (`outcomes_run`): what the worker gets done alone it gets
  done as well when holders come in between.
* **Progress** (`exists_served`).
-/

namespace PeerNet

namespace Strand

variable {σ ρ : Type} {strand after other : Strand σ ρ}

/-! ### Stretches of the worker alone -/

/-- Whether the worker alone leads from one state of a strand to another. -/
def Reaches (strand after : Strand σ ρ) : Prop :=
  ∃ steps, strand.run (List.replicate steps .work) = after

theorem Reaches.refl (strand : Strand σ ρ) : strand.Reaches strand := ⟨0, rfl⟩

/-- What the worker alone reaches from where it has got alone, it reaches alone. -/
theorem Reaches.trans (first : strand.Reaches other) (second : other.Reaches after) :
    strand.Reaches after := by
  obtain ⟨steps, rfl⟩ := first
  obtain ⟨more, rfl⟩ := second
  refine ⟨steps + more, ?_⟩
  rw [← List.replicate_append_replicate, run_append]

/-- One stretch reaches what it leads to. -/
theorem Reaches.of_step (goes : strand.step = some after) : strand.Reaches after := by
  refine ⟨1, ?_⟩
  show strand.step.getD strand = after
  rw [goes]
  rfl

/-! ### Settling -/

/-- To run a job to its end the worker need not know that it is busy. -/
theorem runToEnd_worker (strand : Strand σ ρ) (worker : Worker σ ρ) (number : Nat)
    (script : Script σ ρ) :
    ({ strand with worker := worker }).runToEnd number script = strand.runToEnd number script := by
  induction script generalizing strand with
  | done result => rfl
  | panic payload => rfl
  | suspend rest ih => exact ih strand
  | act change rest ih =>
    exact ih (change strand.state) { strand with state := change strand.state }

/-- A job that is run to its end leaves the worker waiting and the queue as it was. -/
theorem runToEnd_waits (strand : Strand σ ρ) (number : Nat) (script : Script σ ρ) :
    (strand.runToEnd number script).worker = .waiting ∧
      (strand.runToEnd number script).queue = strand.queue := by
  induction script generalizing strand with
  | done result => exact ⟨rfl, rfl⟩
  | panic payload => exact ⟨rfl, rfl⟩
  | suspend rest ih => exact ih strand
  | act change rest ih =>
    exact ih (change strand.state) { strand with state := change strand.state }

/-- What one stretch leaves of a script is run to its end by further ones. -/
theorem runScript_reached (strand : Strand σ ρ) (number : Nat) (script : Script σ ρ) :
    (strand.runScript number script).Reaches (strand.runToEnd number script) := by
  induction script generalizing strand with
  | done result => exact .refl _
  | panic payload => exact .refl _
  | act change rest ih =>
    exact ih (change strand.state) { strand with state := change strand.state }
  | suspend rest ih =>
    have goes : ({ strand with worker := .busy number rest } : Strand σ ρ).step =
        some (({ strand with worker := .busy number rest } : Strand σ ρ).runScript number rest) :=
      rfl
    have ends := ih { strand with worker := .busy number rest }
    rw [runToEnd_worker] at ends
    exact (Reaches.of_step goes).trans ends

/-- The worker alone gets through the job in progress. -/
theorem reaches_runToEnd {number : Nat} {script : Script σ ρ}
    (busy : strand.worker = .busy number script) :
    strand.Reaches (strand.runToEnd number script) := by
  refine (Reaches.of_step ?_).trans (runScript_reached strand number script)
  rw [step, busy]

/-- A worker that waits with these jobs in the queue, or is gone. -/
inductive Idle (queue : List (Nat × Job σ ρ)) (strand : Strand σ ρ) : Prop where
  /-- It waits. -/
  | waits (work : strand.worker = .waiting) (queue : strand.queue = queue)
  /-- It has ended. -/
  | ended (work : strand.worker = .ended)
  /-- It was torn down. -/
  | crashed (work : strand.worker = .crashed)

/-- The first job is opened and run to its end. -/
theorem Idle.runJob {job : Nat × Job σ ρ} {queue : List (Nat × Job σ ρ)}
    (idle : strand.Idle (job :: queue)) :
    (strand.runJob job).Idle queue ∧ strand.Reaches (strand.runJob job) := by
  rcases idle with ⟨work, jobs⟩ | work | work
  · have goes : strand.step = some (({ strand with queue := queue } : Strand σ ρ).openJob job) := by
      simp only [step, work, jobs]
    simp only [Strand.runJob, work, jobs, List.drop_one, List.tail_cons]
    rcases opened : job.2.opening strand.state with ⟨state, payload | script⟩
    · simp only [openJob, opened] at goes ⊢
      exact ⟨.crashed rfl, .of_step goes⟩
    · simp only [openJob, opened] at goes ⊢
      refine ⟨?_, ?_⟩
      · apply Idle.waits
        · exact (runToEnd_waits _ job.1 script).1
        · exact (runToEnd_waits _ job.1 script).2
      · apply (Reaches.of_step goes).trans
        exact reaches_runToEnd rfl
  · simp only [Strand.runJob, work]
    exact ⟨.ended work, .refl _⟩
  · simp only [Strand.runJob, work]
    exact ⟨.crashed work, .refl _⟩

/-- Each job of the queue is opened and run to its end. -/
theorem Idle.foldl {queue : List (Nat × Job σ ρ)} (idle : strand.Idle queue) :
    (queue.foldl Strand.runJob strand).Idle [] ∧
      strand.Reaches (queue.foldl Strand.runJob strand) := by
  induction queue generalizing strand with
  | nil => exact ⟨idle, .refl _⟩
  | cons job queue ih =>
    obtain ⟨next, reached⟩ := idle.runJob
    obtain ⟨last, further⟩ := ih next
    exact ⟨last, reached.trans further⟩

/-- The worker begins, or ends the job that it is in. -/
theorem wake_idle (strand : Strand σ ρ) :
    strand.wake.Idle strand.wake.queue ∧ strand.Reaches strand.wake := by
  unfold wake
  rcases work : strand.worker with _ | _ | ⟨number, script⟩ | _ | _
  · exact ⟨.waits rfl rfl, .of_step (by simp only [step, work])⟩
  · exact ⟨.waits work rfl, .refl _⟩
  · exact ⟨.waits (runToEnd_waits strand number script).1 rfl, reaches_runToEnd work⟩
  · exact ⟨.ended work, .refl _⟩
  · exact ⟨.crashed work, .refl _⟩

/-- A worker without jobs ends, or has nothing to do. -/
theorem Idle.retire (idle : strand.Idle []) :
    strand.Reaches strand.retire ∧ strand.retire.step = none := by
  unfold Strand.retire
  rcases idle with ⟨work, none⟩ | work | work
  · simp only [work]
    split
    · next ends =>
      refine ⟨.of_step ?_, rfl⟩
      simp only [step, work, none, ends, if_true]
    · next stays =>
      refine ⟨.refl _, ?_⟩
      simp only [step, work, none]
      exact if_neg stays
  · simp only [work]
    exact ⟨.refl _, by simp only [step, work]⟩
  · simp only [work]
    exact ⟨.refl _, by simp only [step, work]⟩

/-- To settle a strand is to let its worker go on, until it has nothing to do. -/
theorem settle_reached (strand : Strand σ ρ) :
    strand.Reaches strand.settle ∧ strand.settle.step = none := by
  obtain ⟨idle, begins⟩ := wake_idle strand
  obtain ⟨last, through⟩ := idle.foldl
  obtain ⟨ends, done⟩ := last.retire
  exact ⟨(begins.trans through).trans ends, done⟩

/-! ### Nothing left -/

/-- Whether none of these jobs panics while it is opened, at the state that it finds. -/
def Calm (initial : σ) (jobs : List (Job σ ρ)) : Prop :=
  ∀ past job waiting, jobs = past ++ job :: waiting →
    ∃ after script, job.opening (Job.runAll past initial).1 = (after, .ok script)

variable {initial : σ} {jobs : List (Job σ ρ)}

/-- Jobs that never panic while they are opened do not do so in sequence. -/
theorem calm_of_opens (opens : ∀ job ∈ jobs, job.Opens) : Calm initial jobs := by
  intro past job waiting same
  apply opens job
  rw [same]
  exact List.mem_append_right _ List.mem_cons_self

/-- Only a job that panics while it is opened tears the worker down. -/
theorem Stage.not_crashed (stage : Stage initial strand jobs) (calm : Calm initial jobs) :
    strand.worker ≠ .crashed := by
  intro crashed
  rcases stage with ⟨past, waiting, account, state, rests⟩ |
      ⟨past, job, waiting, script, account, work, _⟩ |
    ⟨past, job, waiting, payload, account, work, closed, panics⟩
  · rcases rests with fresh | waits | ⟨ended, _⟩ <;> simp_all only [reduceCtorEq]
  · simp_all only [reduceCtorEq]
  · obtain ⟨after, script, opened⟩ := calm past job waiting rfl
    rw [panics] at opened
    cases opened

/-- There are as many outcomes as jobs that have ended. -/
theorem Account.length_outcomes {past waiting : List (Job σ ρ)} {begun : Nat}
    (account : Account initial past begun waiting strand) :
    strand.outcomes.length = past.length := by
  rw [account.outcomes, List.length_reverse, length_numbered, Job.length_runAll]

/-- A worker that has nothing to do has ended every job. -/
theorem Stage.spent (stage : Stage initial strand jobs) (calm : Calm initial jobs)
    (done : strand.step = none) : strand.outcomes.length = jobs.length := by
  have whole := stage.not_crashed calm
  rcases stage with ⟨past, waiting, account, state, rests⟩ |
      ⟨past, job, waiting, script, account, work, _⟩ |
    ⟨past, job, waiting, payload, account, work, _, _⟩
  · have none : waiting = [] := by
      rcases rests with fresh | waits | ⟨_, none, _⟩
      · simp only [Strand.step, fresh, reduceCtorEq] at done
      · rcases waiting with _ | ⟨job, waiting⟩
        · rfl
        · simp only [Strand.step, waits, account.queue, numbered, reduceCtorEq] at done
      · exact none
    rw [none, List.append_nil, account.length_outcomes]
  · simp only [Strand.step, work, reduceCtorEq] at done
  · exact absurd work whole

/-! ### Holders do not hold up the worker -/

/-- Whether an action is a stretch of the worker. -/
def Action.isWork : Action σ ρ → Bool
  | .work => true
  | .post _ | .ask _ | .close | .clone | .drop => false

/-- The only action that is a stretch of the worker is to work. -/
theorem Action.eq_work {action : Action σ ρ} (work : action.isWork = true) : action = .work := by
  cases action with
  | work => rfl
  | post | ask | close | clone | drop => cases work

/-- Two strands with workers that have got equally far; the second one may have more in its queue.
-/
structure Leads (strand other : Strand σ ρ) : Prop where
  /-- The states agree. -/
  state : other.state = strand.state
  /-- The workers agree. -/
  worker : other.worker = strand.worker
  /-- The outcomes agree. -/
  outcomes : other.outcomes = strand.outcomes
  /-- What one has in its queue the other one has in front. -/
  queue : strand.queue <+: other.queue

theorem Leads.refl (strand : Strand σ ρ) : strand.Leads strand :=
  ⟨rfl, rfl, rfl, List.prefix_rfl⟩

/-- To have got equally far is transitive. -/
theorem Leads.trans (first : strand.Leads other) (second : other.Leads after) :
    strand.Leads after :=
  ⟨second.state.trans first.state, second.worker.trans first.worker,
    second.outcomes.trans first.outcomes, first.queue.trans second.queue⟩

/-- A job that is offered leaves the worker where it is. -/
theorem offer_leads (strand : Strand σ ρ) (job : Job σ ρ) : strand.Leads (strand.offer job) := by
  cases closed : strand.closed with
  | true =>
    rw [offer_of_closed closed]
    exact .refl strand
  | false =>
    rw [offer_of_open closed]
    exact ⟨rfl, rfl, rfl, List.prefix_append _ _⟩

/-- What a holder does leaves the worker where it is. -/
theorem act_leads (strand : Strand σ ρ) {action : Action σ ρ} (holder : action.isWork = false) :
    strand.Leads (strand.act action) := by
  have held (next : Strand σ ρ) (leads : strand.Leads next) :
      strand.Leads (if strand.handles = 0 then strand else next) := by
    split
    · exact .refl strand
    · exact leads
  cases action with
  | work => cases holder
  | post job => exact held _ (strand.offer_leads job)
  | ask job => exact held _ (strand.offer_leads job.deferred)
  | close => exact held _ ⟨rfl, rfl, rfl, List.prefix_rfl⟩
  | clone => exact held _ ⟨rfl, rfl, rfl, List.prefix_rfl⟩
  | drop => exact ⟨rfl, rfl, rfl, List.prefix_rfl⟩

/-- Workers that have got equally far end a job alike. -/
theorem Leads.conclude (leads : strand.Leads other) (number : Nat) (outcome : Outcome ρ) :
    (strand.conclude number outcome).Leads (other.conclude number outcome) := by
  refine ⟨?_, rfl, ?_, ?_⟩
  · simpa using leads.state
  · simpa using leads.outcomes
  · simpa using leads.queue

/-- Workers that have got equally far go through a stretch alike. -/
theorem Leads.runScript (leads : strand.Leads other) (number : Nat) (script : Script σ ρ) :
    (strand.runScript number script).Leads (other.runScript number script) := by
  induction script generalizing strand other with
  | done result => exact leads.conclude number (.ok result)
  | panic payload => exact leads.conclude number (.error payload)
  | suspend rest => exact ⟨leads.state, rfl, leads.outcomes, leads.queue⟩
  | act change rest ih =>
    simp only [Strand.runScript, leads.state]
    apply ih
    exact ⟨rfl, leads.worker, leads.outcomes, leads.queue⟩

/-- Workers that have got equally far go on alike, until one has no job left. -/
theorem Leads.work (leads : strand.Leads other) :
    strand.Idle [] ∨ (strand.act .work).Leads (other.act .work) := by
  simp only [act, Strand.step, leads.worker]
  rcases work : strand.worker with _ | _ | ⟨number, script⟩ | _ | _
  · exact .inr ⟨leads.state, rfl, leads.outcomes, leads.queue⟩
  · rcases jobs : strand.queue with _ | ⟨job, rest⟩
    · exact .inl (.waits work jobs)
    · obtain ⟨more, same⟩ := leads.queue
      rw [jobs] at same
      right
      simp only [← same, List.cons_append, Option.getD_some, openJob, leads.state]
      rcases job.2.opening strand.state with ⟨state, payload | script⟩ <;>
        exact ⟨rfl, rfl, leads.outcomes, List.prefix_append _ _⟩
  · exact .inr (leads.runScript number script)
  · exact .inl (.ended work)
  · exact .inl (.crashed work)

/-- A worker that has no job left ends no further one. -/
theorem Idle.work (idle : strand.Idle []) :
    (strand.act .work).Idle [] ∧ (strand.act .work).outcomes = strand.outcomes := by
  rcases idle with ⟨work, none⟩ | work | work
  · simp only [act, Strand.step, work, none]
    split
    · exact ⟨.ended rfl, rfl⟩
    · exact ⟨.waits work none, rfl⟩
  · simp only [act, Strand.step, work]
    exact ⟨.ended work, rfl⟩
  · simp only [act, Strand.step, work]
    exact ⟨.crashed work, rfl⟩

/-- A worker with no job left ends no job, however often it is its turn. -/
theorem Idle.run (idle : strand.Idle []) (steps : Nat) :
    (strand.run (List.replicate steps .work)).outcomes = strand.outcomes := by
  induction steps generalizing strand with
  | zero => rfl
  | succ steps ih => exact (ih idle.work.1).trans idle.work.2

/-! ### What never goes back -/

/-- What does not change any more in the course of a schedule. -/
structure Grows (strand after : Strand σ ρ) : Prop where
  /-- The name is the same. -/
  name : after.name = strand.name
  /-- What is closed stays closed. -/
  closed : strand.closed = true → after.closed = true
  /-- What has ended has ended. -/
  outcomes : strand.outcomes <:+ after.outcomes

theorem Grows.refl (strand : Strand σ ρ) : strand.Grows strand := ⟨rfl, id, List.suffix_rfl⟩

/-- Not to go back is transitive. -/
theorem Grows.trans (first : strand.Grows other) (second : other.Grows after) :
    strand.Grows after :=
  ⟨second.name.trans first.name, second.closed ∘ first.closed,
    first.outcomes.trans second.outcomes⟩

/-- The end of a job takes nothing back. -/
theorem conclude_grows (strand : Strand σ ρ) (number : Nat) (outcome : Outcome ρ) :
    strand.Grows (strand.conclude number outcome) := by
  refine ⟨?_, ?_, ?_⟩
  · rw [conclude_name]
  · rw [conclude_closed]
    exact id
  · rw [conclude_outcomes]
    exact List.suffix_cons _ _

/-- A stretch of a job takes nothing back. -/
theorem runScript_grows (strand : Strand σ ρ) (number : Nat) (script : Script σ ρ) :
    strand.Grows (strand.runScript number script) := by
  induction script generalizing strand with
  | done result => exact strand.conclude_grows number (.ok result)
  | panic payload => exact strand.conclude_grows number (.error payload)
  | suspend rest => exact ⟨rfl, id, List.suffix_rfl⟩
  | act change rest ih =>
    have grows := ih (change strand.state) { strand with state := change strand.state }
    exact ⟨grows.name, grows.closed, grows.outcomes⟩

/-- What a stretch of the worker may be. -/
inductive Turn (strand : Strand σ ρ) : Strand σ ρ → Prop where
  /-- It begins. -/
  | begins (work : strand.worker = .fresh) : Turn strand strand.begin
  /-- It goes on with a job. -/
  | stretches (number : Nat) (script : Script σ ρ) (work : strand.worker = .busy number script) :
      Turn strand (strand.runScript number script)
  /-- It opens the next job. -/
  | opens (job : Nat × Job σ ρ) (rest : List (Nat × Job σ ρ)) (work : strand.worker = .waiting)
      (queue : strand.queue = job :: rest) : Turn strand ({ strand with queue := rest }.openJob job)
  /-- It ends. -/
  | ends (work : strand.worker = .waiting) (queue : strand.queue = []) : Turn strand strand.finish

/-- A stretch of the worker is one of four kinds, by where the worker is. -/
theorem step_turn (goes : strand.step = some after) : strand.Turn after := by
  unfold Strand.step at goes
  rcases work : strand.worker with _ | _ | ⟨number, script⟩ | _ | _ <;>
    simp only [work, reduceCtorEq] at goes
  · cases goes
    exact .begins work
  · rcases jobs : strand.queue with _ | ⟨job, rest⟩ <;> simp only [jobs] at goes
    · split at goes
      · cases goes
        exact .ends work jobs
      · cases goes
    · cases goes
      exact .opens job rest work jobs
  · cases goes
    exact .stretches number script work

/-- A stretch of the worker takes nothing back. -/
theorem step_grows (goes : strand.step = some after) : strand.Grows after := by
  rcases step_turn goes with _ | ⟨number, script, _⟩ | ⟨job, rest, _, _⟩ | _
  · exact ⟨rfl, id, List.suffix_rfl⟩
  · exact strand.runScript_grows number script
  · unfold openJob
    rcases job.2.opening strand.state with ⟨state, payload | script⟩
    · exact ⟨rfl, fun _ => rfl, List.suffix_rfl⟩
    · exact ⟨rfl, id, List.suffix_rfl⟩
  · exact ⟨rfl, id, List.suffix_rfl⟩

/-- A job that is offered takes nothing back. -/
theorem offer_grows (strand : Strand σ ρ) (job : Job σ ρ) : strand.Grows (strand.offer job) := by
  cases closed : strand.closed with
  | true =>
    rw [offer_of_closed closed]
    exact .refl strand
  | false =>
    rw [offer_of_open closed]
    exact ⟨rfl, id, List.suffix_rfl⟩

/-- No action takes anything back. -/
theorem act_grows (strand : Strand σ ρ) (action : Action σ ρ) :
    strand.Grows (strand.act action) := by
  have held (next : Strand σ ρ) (grows : strand.Grows next) :
      strand.Grows (if strand.handles = 0 then strand else next) := by
    split
    · exact .refl strand
    · exact grows
  cases action with
  | work =>
    show strand.Grows (strand.step.getD strand)
    rcases goes : strand.step with _ | after
    · exact .refl strand
    · exact step_grows goes
  | post job => exact held _ (strand.offer_grows job)
  | ask job => exact held _ (strand.offer_grows job.deferred)
  | close => exact held _ ⟨rfl, fun _ => rfl, List.suffix_rfl⟩
  | clone => exact held _ ⟨rfl, id, List.suffix_rfl⟩
  | drop => exact ⟨rfl, id, List.suffix_rfl⟩

/-- No schedule takes anything back. -/
theorem run_grows (strand : Strand σ ρ) (schedule : List (Action σ ρ)) :
    strand.Grows (strand.run schedule) := by
  induction schedule generalizing strand with
  | nil => exact .refl strand
  | cons action rest ih => exact (strand.act_grows action).trans (ih (strand.act action))

/-! ### Progress -/

/-- What the worker gets done alone it gets done as well when holders come in between. -/
theorem outcomes_run (leads : strand.Leads other) (schedule : List (Action σ ρ)) :
    (strand.run (List.replicate (schedule.countP Action.isWork) .work)).outcomes <:+
      (other.run schedule).outcomes := by
  induction schedule generalizing strand other with
  | nil => exact leads.outcomes ▸ List.suffix_rfl
  | cons action rest ih =>
    by_cases work : action.isWork = true
    · rw [List.countP_cons_of_pos work]
      cases Action.eq_work work
      rcases leads.work with idle | leads
      · rw [idle.run, ← leads.outcomes]
        exact (other.run_grows _).outcomes
      · exact ih leads
    · rw [List.countP_cons_of_neg work]
      exact ih (leads.trans (other.act_leads (Bool.eq_false_iff.mpr work)))

/-- The worker accepts no jobs: holders offer them. -/
theorem admitted_work (strand : Strand σ ρ) (steps : Nat) :
    strand.admitted (List.replicate steps .work) = [] := by
  induction steps generalizing strand with
  | zero => rfl
  | succ steps ih =>
    show (strand.admits .work).toList ++
      (strand.act .work).admitted (List.replicate steps .work) = []
    simp [admits, Action.offer?, ih]

/-- Every accepted job ends after some stretches of the worker, whatever comes in between. -/
theorem Stage.exists_served (stage : Stage initial strand jobs) (calm : Calm initial jobs) :
    ∃ steps, ∀ schedule, steps ≤ schedule.countP Action.isWork →
      jobs.length ≤ (strand.run schedule).outcomes.length := by
  obtain ⟨⟨steps, settled⟩, done⟩ := strand.settle_reached
  refine ⟨steps, ?_⟩
  intro schedule enough
  have last := stage_run stage (List.replicate steps .work)
  rw [admitted_work, List.append_nil, settled] at last
  obtain ⟨more, rest⟩ := Nat.exists_eq_add_of_le enough
  have served := outcomes_run (.refl strand) schedule
  rw [rest, ← List.replicate_append_replicate, run_append, settled] at served
  calc jobs.length = strand.settle.outcomes.length := (last.spent calm done).symm
    _ ≤ (strand.settle.run (List.replicate more .work)).outcomes.length :=
      (strand.settle.run_grows _).outcomes.length_le
    _ ≤ (strand.run schedule).outcomes.length := served.length_le

end Strand

end PeerNet
