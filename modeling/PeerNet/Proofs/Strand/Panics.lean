import PeerNet.Proofs.Strand.Serial

/-!
# Panics and strands

A job that panics while it runs ends there, and the strand goes on with the next one. A job that
panics while it is opened is another matter: nothing catches the panic, and it takes the worker with
it.

* **A strand survives** (`Survives`): the worker is there, whatever was accepted is kept and served,
  a panic is over when it has happened, and jobs are taken until a holder closes the strand.
* **Panics of running jobs** (`run_survives`) are survived, as long as no accepted job panics while
  it is opened.
* **A panic of an opening** (`opening_panic_tears_down`) is not: what waits behind it never runs,
  and no job is taken any more, though nobody closed the strand.
-/

namespace PeerNet

namespace Strand

variable {σ ρ : Type} {strand : Strand σ ρ} {initial : σ} {jobs : List (Job σ ρ)}

/-! ### What is survived -/

/-- Whether a strand is at its work after a schedule, whatever its jobs did. -/
structure Survives (name : String) (initial : σ) (schedule : List (Action σ ρ))
    (strand : Strand σ ρ) : Prop where
  /-- The worker has its state, unless it has ended because no job can come any more. -/
  there : strand.worker ≠ .crashed ∧
    (strand.isDropped = true → strand.closed = true ∨ strand.handles = 0)
  /-- Jobs are taken until a holder closes the strand. -/
  takes : .close ∉ schedule → ∀ job, ∃ after, strand.post job = .ok (after, strand.accepted)
  /-- Every accepted job waits, or is in progress, or has ended. -/
  keeps : ∀ number < strand.accepted, number ∈ strand.queue.map Prod.fst ∨
    strand.inProgress = some number ∨ (strand.outcome? number).isSome = true
  /-- Every accepted job ends, whatever comes in between. -/
  serves : ∃ steps, ∀ more, steps ≤ more.countP Action.isWork →
    ∀ number < strand.accepted, ((strand.run more).outcome? number).isSome = true
  /-- When a job panics the worker says so, and waits for the next one with the state as it is left.
  -/
  passes : ∀ number script payload, strand.worker = .busy number script →
    (strand.act .work).outcomes = (number, .error payload) :: strand.outcomes →
    (script.run strand.state).2 = .error payload ∧
    strand.act .work = { strand with
      state := (script.run strand.state).1
      worker := .waiting
      outcomes := (number, .error payload) :: strand.outcomes
      log := ⟨.error, s!"strand {name} job panicked: {payload.message}"⟩ :: strand.log }

/-! ### Panics of running jobs -/

/-- A job in progress neither closes the strand nor opens it. -/
theorem runScript_closed (strand : Strand σ ρ) (number : Nat) (script : Script σ ρ) :
    (strand.runScript number script).closed = strand.closed := by
  have stretched := runScript_stretched strand number script
  generalize strand.runScript number script = after at stretched ⊢
  rcases stretched with _ | _
  · exact conclude_closed _ _ _
  · rfl

/-- The worker closes the strand only when a job tears it down. -/
theorem crashed_of_closed_step {after : Strand σ ρ} (goes : strand.step = some after)
    (opened : strand.closed = false) (closed : after.closed = true) : after.worker = .crashed := by
  rcases step_turn goes with _ | ⟨number, script, _⟩ | ⟨job, rest, _, _⟩ | _
  · exact absurd closed (Bool.eq_false_iff.mp opened)
  · rw [runScript_closed] at closed
    exact absurd closed (Bool.eq_false_iff.mp opened)
  · rcases opening : job.2.opening strand.state with ⟨state, payload | script⟩
    · simp only [openJob, opening]
    · simp only [openJob, opening] at closed
      exact absurd closed (Bool.eq_false_iff.mp opened)
  · exact absurd closed (Bool.eq_false_iff.mp opened)

/-- Whoever finds a strand closed that nobody closed finds its worker torn down. -/
theorem crashed_of_closed_act {action : Action σ ρ} (other : action ≠ .close)
    (only : strand.closed = true → strand.worker = .crashed)
    (closed : (strand.act action).closed = true) : (strand.act action).worker = .crashed := by
  have held (next : Strand σ ρ) (stays : next.worker = strand.worker)
      (same : next.closed = strand.closed)
      (closed : (if strand.handles = 0 then strand else next).closed = true) :
      (if strand.handles = 0 then strand else next).worker = .crashed := by
    split
    · next unheld => exact only (by rwa [if_pos unheld] at closed)
    · next held => exact stays.trans (only (same.symm.trans (by rwa [if_neg held] at closed)))
  cases action with
  | close => exact absurd rfl other
  | post job => exact held _ (strand.offer_leads job).worker (strand.offer_closed job) closed
  | ask job =>
    exact held _ (strand.offer_leads job.deferred).worker (strand.offer_closed job.deferred) closed
  | clone => exact held _ rfl rfl closed
  | drop => exact only closed
  | work =>
    simp only [act] at closed ⊢
    rcases goes : strand.step with _ | after
    · rw [goes] at closed
      exact only closed
    · rw [goes] at closed
      rcases before : strand.closed with _ | _
      · exact crashed_of_closed_step goes before closed
      · -- a worker that is gone does not go on
        simp only [Strand.step, only before, reduceCtorEq] at goes

/-- A strand that nobody closes is found closed only when its worker was torn down. -/
theorem crashed_of_closed_run {schedule : List (Action σ ρ)} (others : .close ∉ schedule)
    (only : strand.closed = true → strand.worker = .crashed) :
    (strand.run schedule).closed = true → (strand.run schedule).worker = .crashed := by
  induction schedule generalizing strand with
  | nil => exact only
  | cons action rest ih =>
    apply ih
    · exact fun mem => others (List.mem_cons_of_mem _ mem)
    · apply crashed_of_closed_act
      · rintro rfl
        exact others List.mem_cons_self
      · exact only

/-- A job that has ended has an outcome. -/
theorem Stage.isSome_outcome? (stage : Stage initial strand jobs) {number : Nat}
    (ended : number < strand.outcomes.length) : (strand.outcome? number).isSome = true := by
  have within : number < (Job.runAll jobs initial).2.length := by
    have ends := stage.ended.length_le
    rw [List.length_reverse, length_numbered] at ends
    exact Nat.lt_of_lt_of_le ended ends
  rw [stage.outcome?_eq, if_pos ended, List.getElem?_eq_getElem within]
  rfl

/-- Every accepted job waits, or is in progress, or has ended, unless the worker is torn down. -/
theorem Stage.keeps (stage : Stage initial strand jobs) (whole : strand.worker ≠ .crashed)
    {number : Nat} (accepted : number < strand.accepted) :
    number ∈ strand.queue.map Prod.fst ∨ strand.inProgress = some number ∨
      (strand.outcome? number).isSome = true := by
  have ends : number < strand.outcomes.length → _ := stage.isSome_outcome?
  rcases stage with ⟨past, waiting, account, _, _⟩ |
      ⟨past, job, waiting, script, account, work, _⟩ |
    ⟨_, _, _, _, _, work, _, _⟩
  · rw [account.queue, map_fst_numbered, List.mem_range'_1]
    rw [account.length_outcomes] at ends
    rw [account.accepted] at accepted
    rcases Nat.lt_or_ge number past.length with less | more
    · exact .inr (.inr (ends less))
    · exact .inl ⟨more, accepted⟩
  · rw [account.queue, map_fst_numbered, List.mem_range'_1]
    rw [account.length_outcomes] at ends
    rw [account.accepted] at accepted
    rcases Nat.lt_trichotomy number past.length with less | rfl | more
    · exact .inr (.inr (ends less))
    · exact .inr (.inl (by simp only [inProgress, work]))
    · exact .inl ⟨more, accepted⟩
  · exact absurd work whole

/-- A panic is over when it has happened. -/
theorem act_of_panic {number : Nat} {script : Script σ ρ} {payload : Payload}
    (busy : strand.worker = .busy number script)
    (panics : (strand.act .work).outcomes = (number, .error payload) :: strand.outcomes) :
    (script.run strand.state).2 = .error payload ∧
      strand.act .work =
        ({ strand with state := (script.run strand.state).1 }.conclude number
          (.error payload)) := by
  have goes : strand.act .work = strand.runScript number script := by
    simp only [act, Strand.step, busy, Option.getD_some]
  rw [goes] at panics ⊢
  have stretched := runScript_stretched strand number script
  generalize strand.runScript number script = after at panics stretched ⊢
  rcases stretched with _ | ⟨state, rest, _⟩
  · rw [conclude_outcomes] at panics
    have same : (script.run strand.state).2 = .error payload := by simpa using panics
    rw [same]
    exact ⟨rfl, rfl⟩
  · -- a script that is suspended has no outcome yet
    have longer := congrArg List.length panics
    simp at longer

/-- A strand survives whatever its jobs do, as long as none of them panics while it is opened. -/
theorem run_survives (name : String) (initial : σ) (schedule : List (Action σ ρ))
    (calm : Calm initial ((start name initial).admitted schedule)) :
    Survives name initial schedule ((start name initial).run schedule) := by
  have stage := stage_run_start name initial schedule
  have whole := stage.not_crashed calm
  refine ⟨⟨whole, ?_⟩, ?_, ?_, ?_, ?_⟩
  · intro dropped
    exact ((stage.inSequence calm).dropped dropped).2
  · intro others job
    have opened : ((start name initial : Strand σ ρ).run schedule).closed = false := by
      apply Bool.eq_false_iff.mpr
      intro closed
      exact whole (crashed_of_closed_run others (fun closed => by cases closed) closed)
    exact ⟨_, by rw [post, opened]; rfl⟩
  · intro number accepted
    exact stage.keeps whole accepted
  · obtain ⟨steps, served⟩ := stage.exists_served calm
    refine ⟨steps, ?_⟩
    intro more enough number accepted
    rw [stage.accepted_eq] at accepted
    exact (stage_run stage more).isSome_outcome? (Nat.lt_of_lt_of_le accepted (served more enough))
  · intro number script payload busy panics
    obtain ⟨ends, after⟩ := act_of_panic busy panics
    refine ⟨ends, after.trans ?_⟩
    simp only [conclude, logLine, run_name]

/-- A job that panics is posted, and another one is asked for behind it. -/
def faultySchedule : List (Action (List Nat) Nat) :=
  [.post (journalFaulty 1), .ask (journalTwice 2 3)] ++ List.replicate 8 .work

/-- A job that panics while it runs is told in the log, and the next one runs to its end. -/
theorem run_survives_of_faulty :
    Calm [] ((start "journal" []).admitted faultySchedule) ∧
      ((start "journal" []).run faultySchedule).log.length = 2 ∧
      ((start "journal" []).run faultySchedule).answer? 1 = some (.ok 3) ∧
      Survives "journal" [] faultySchedule ((start "journal" []).run faultySchedule) := by
  have opens : ∀ job, .post job ∈ faultySchedule → job.Opens := by
    intro job posted
    have same : job = journalFaulty 1 := by simpa [faultySchedule] using posted
    rw [same]
    exact Job.ofScript_opens _
  have calm := calm_admitted "journal" [] faultySchedule opens
  exact ⟨calm, rfl, rfl, run_survives "journal" [] faultySchedule calm⟩

/-! ### A panic of an opening -/

/-- What the worker has not done when it is torn down it never does. -/
theorem run_of_crashed (crashed : strand.worker = .crashed) (more : List (Action σ ρ)) :
    (strand.run more).worker = .crashed ∧ (strand.run more).outcomes = strand.outcomes := by
  induction more generalizing strand with
  | nil => exact ⟨crashed, rfl⟩
  | cons action rest ih =>
    have stays : (strand.act action).worker = .crashed ∧
        (strand.act action).outcomes = strand.outcomes := by
      by_cases work : action.isWork = true
      · cases Action.eq_work work
        simp only [act, Strand.step, crashed, Option.getD_none]
        exact ⟨trivial, trivial⟩
      · have leads := strand.act_leads (Bool.eq_false_iff.mpr work)
        exact ⟨leads.worker.trans crashed, leads.outcomes⟩
    obtain ⟨gone, same⟩ := ih stays.1
    exact ⟨gone, same.trans stays.2⟩

/-- A job that panics before it has anything to suspend. -/
def hasty : Job Nat Nat := ⟨fun state => (state, .error (.words "boom"))⟩

/-- The hasty job is posted, and one that would count behind it; then the worker goes on. -/
def hastySchedule : List (Action Nat Nat) :=
  [.post hasty, .post (.ofScript (.act (· + 1) .done)), .work, .work]

/-- A job that panics while it is opened tears the worker down. The job behind it has been accepted
and never runs, and no further one is taken, though nobody closed the strand. -/
theorem opening_panic_tears_down :
    (¬ ∀ schedule, Survives "counter" 0 schedule
        ((start "counter" 0 : Strand Nat Nat).run schedule)) ∧
      .close ∉ hastySchedule ∧
      ((start "counter" 0).admitted hastySchedule).length = 2 ∧
      ((start "counter" 0).run hastySchedule).isDropped = true ∧
      (∀ more, (((start "counter" 0).run hastySchedule).run more).outcome? 1 = none) ∧
      ∀ job, ((start "counter" 0).run hastySchedule).post job =
        .error (.channelSend "strand counter is closed") := by
  refine ⟨?_, ?_, rfl, rfl, ?_, ?_⟩
  · intro survives
    exact (survives hastySchedule).there.1 rfl
  · simp [hastySchedule]
  · intro more
    have gone : ((start "counter" 0).run hastySchedule).worker = .crashed := rfl
    have stays := run_of_crashed gone more
    rw [outcome?, stays.2]
    rfl
  · intro job
    rfl

end Strand

end PeerNet
