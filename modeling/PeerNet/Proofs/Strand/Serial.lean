import PeerNet.Proofs.Strand.Settling

/-!
# Strands serialize

Any number of holders post and ask, share a strand, close it and let go of it, in any order with the
stretches of its worker. What they see is what they would see if each accepted job was run to its
end before the next one, in the order in which the jobs were accepted.

* **In sequence** (`InSequence`): which jobs have begun, how they ended, what they leave, and when
  the worker ends.
* **Answers** (`Answers`): one who waits for a job is told its result once it is there, and that the
  job was dropped once it has panicked.
* **Refusals** (`Refuses`): after the strand is closed no job is taken.
* **Main result** (`run_inSequence`), together with progress.
-/

namespace PeerNet

namespace Strand

variable {σ ρ : Type} {strand : Strand σ ρ} {initial : σ} {jobs : List (Job σ ρ)}

/-! ### What is said of a strand -/

/-- The number of the job that is in progress, if there is one. -/
def inProgress (strand : Strand σ ρ) : Option Nat :=
  match strand.worker with
  | .busy number _ => some number
  | .fresh | .waiting | .ended | .crashed => none

/-- The numbers of the jobs that have begun, the first one first. -/
def begun (strand : Strand σ ρ) : List Nat :=
  strand.outcomes.reverse.map Prod.fst ++ strand.inProgress.toList

/-- A strand that runs these jobs in sequence, from an initial state. -/
structure InSequence (initial : σ) (jobs : List (Job σ ρ)) (strand : Strand σ ρ) : Prop where
  /-- They are all that was accepted. -/
  accepted : strand.accepted = jobs.length
  /-- Those that have begun are the first ones in their order, each of them once; the others wait.
  -/
  begun : ∃ count ≤ jobs.length,
    strand.begun = List.range count ∧ strand.queue = (numbered 0 jobs).drop count
  /-- Those that have ended did so as they do in sequence. -/
  ended : strand.outcomes.reverse <+: numbered 0 (Job.runAll jobs initial).2
  /-- The one in progress comes right after them, and will do so too. -/
  within : ∀ number script, strand.worker = .busy number script →
    number = strand.outcomes.length ∧ ∃ job, jobs[number]? = some job ∧
      script.run strand.state = job.run (Job.runAll (jobs.take number) initial).1
  /-- If none is in progress the state is as those that ended, or panicked, left it. -/
  between : strand.inProgress = none →
    strand.state = (Job.runAll (jobs.take strand.outcomes.length) initial).1
  /-- The worker ends, and the state is dropped, only when all have ended and none can come. -/
  dropped : strand.isDropped = true →
    strand.outcomes.length = jobs.length ∧ (strand.closed = true ∨ strand.handles = 0)

/-- Whether each one who asks in a schedule, and is not refused, is told how the job ended. -/
def Answers (name : String) (initial : σ) (schedule : List (Action σ ρ)) : Prop :=
  ∀ before job after, schedule = before ++ .ask job :: after →
    ∀ asked, asked = (start name initial).run before → asked.closed = false → asked.handles ≠ 0 →
      ∀ strand, strand = (start name initial).run schedule →
        ∀ outcome, outcome =
            (job.run (Job.runAll ((start name initial).admitted before) initial).1).2 →
          (∀ result, strand.answer? asked.accepted = some (.ok result) ↔
            asked.accepted < strand.outcomes.length ∧ outcome = .ok result) ∧
          ∀ error, strand.answer? asked.accepted = some (.error error) ↔
            asked.accepted < strand.outcomes.length ∧ (∃ payload, outcome = .error payload) ∧
              error = .channelRecv s!"strand {name} dropped the job"

/-- Whether no job is taken after the strand was closed in a schedule. -/
def Refuses (name : String) (initial : σ) (schedule : List (Action σ ρ)) : Prop :=
  ∀ before after, schedule = before ++ .close :: after →
    ((start name initial).run before).handles ≠ 0 →
      (start name initial).admitted schedule = (start name initial).admitted before ∧
      ∀ job, ((start name initial).run schedule).post job =
        .error (.channelSend s!"strand {name} is closed")

/-! ### Stages are in sequence -/

/-- Whatever the stage is, the jobs that have ended are the first ones. -/
theorem Stage.exists_account (stage : Stage initial strand jobs) :
    ∃ past rest begun waiting, jobs = past ++ rest ∧ Account initial past begun waiting strand := by
  rcases stage with ⟨past, waiting, account, _, _⟩ | ⟨past, job, waiting, _, account, _, _⟩ |
    ⟨past, job, waiting, _, account, _, _, _⟩
  · exact ⟨past, waiting, _, _, rfl, account⟩
  · exact ⟨past, job :: waiting, _, _, rfl, account⟩
  · exact ⟨past, job :: waiting, _, _, rfl, account⟩

/-- At every stage the strand has counted the jobs that it accepted. -/
theorem Stage.accepted_eq (stage : Stage initial strand jobs) : strand.accepted = jobs.length := by
  rcases stage with ⟨past, waiting, account, _, _⟩ | ⟨past, job, waiting, _, account, _, _⟩ |
    ⟨past, job, waiting, _, account, _, _, _⟩
  all_goals
    have accepted := account.accepted
    simp only [List.length_append, List.length_cons]
    omega

/-- At every stage the outcomes are the first of those of the jobs run in sequence. -/
theorem Stage.ended (stage : Stage initial strand jobs) :
    strand.outcomes.reverse <+: numbered 0 (Job.runAll jobs initial).2 := by
  obtain ⟨past, rest, begun, waiting, rfl, account⟩ := stage.exists_account
  rw [account.outcomes, List.reverse_reverse, Job.runAll_append, numbered_append]
  exact List.prefix_append _ _

/-- The outcomes that are there are those of the jobs in sequence. -/
theorem Stage.outcome?_eq (stage : Stage initial strand jobs) (number : Nat) :
    strand.outcome? number =
      if number < strand.outcomes.length then (Job.runAll jobs initial).2[number]? else none := by
  obtain ⟨past, rest, begun, waiting, rfl, account⟩ := stage.exists_account
  have length := Job.length_runAll past initial
  rw [outcome?, account.length_outcomes, account.outcomes, lookup_reverse_numbered,
    Job.runAll_append]
  simp only [Nat.not_lt_zero, if_false, Nat.sub_zero]
  split
  · next less => rw [List.getElem?_append_left (by rwa [length])]
  · next less => exact List.getElem?_eq_none (by rw [length]; exact Nat.le_of_not_lt less)

/-- The jobs that have ended are the first ones. -/
theorem Account.map_fst_outcomes {past waiting : List (Job σ ρ)} {count : Nat}
    (account : Account initial past count waiting strand) :
    strand.outcomes.reverse.map Prod.fst = List.range past.length := by
  rw [account.outcomes, List.reverse_reverse, map_fst_numbered, Job.length_runAll,
    List.range_eq_range']

/-- The jobs behind those that have ended keep their numbers. -/
theorem drop_numbered {past waiting : List (Job σ ρ)} :
    (numbered 0 (past ++ waiting)).drop past.length = numbered past.length waiting := by
  rw [numbered_append, Nat.zero_add]
  exact List.drop_left' (length_numbered 0 past)

/-- A worker that no job has torn down has its jobs in sequence. -/
theorem Stage.inSequence (stage : Stage initial strand jobs) (calm : Calm initial jobs) :
    InSequence initial jobs strand := by
  have whole := stage.not_crashed calm
  have ended := stage.ended
  have accepted := stage.accepted_eq
  rcases stage with ⟨past, waiting, account, state, rests⟩ |
    ⟨past, job, waiting, script, account, work, goes_on⟩ | ⟨_, _, _, _, _, work, _, _⟩
  · have idle : strand.inProgress = none := by
      rcases rests with work | work | ⟨work, _⟩ <;> simp only [inProgress, work]
    refine ⟨accepted, ⟨past.length, ?_, ?_, ?_⟩, ended, ?_, ?_, ?_⟩
    · rw [List.length_append]
      exact Nat.le_add_right _ _
    · rw [begun, idle, account.map_fst_outcomes]
      exact List.append_nil _
    · rw [account.queue, drop_numbered]
    · intro number script busy
      simp only [inProgress, busy, reduceCtorEq] at idle
    · intro _
      rw [account.length_outcomes, List.take_left', state]
      rfl
    · intro dropped
      rcases rests with work | work | ⟨work, none, last⟩
      · simp only [isDropped, work, Bool.false_eq_true] at dropped
      · simp only [isDropped, work, Bool.false_eq_true] at dropped
      · rw [none, List.append_nil]
        exact ⟨account.length_outcomes, last⟩
  · have busy : strand.inProgress = some past.length := by simp only [inProgress, work]
    refine ⟨accepted, ⟨past.length + 1, ?_, ?_, ?_⟩, ended, ?_, ?_, ?_⟩
    · rw [List.length_append, List.length_cons]
      omega
    · rw [begun, busy, account.map_fst_outcomes, List.range_succ]
      rfl
    · have behind := @drop_numbered _ _ (past ++ [job]) waiting
      rw [List.length_append] at behind
      rw [account.queue, List.append_cons]
      exact behind.symm
    · intro number left same
      rw [work] at same
      cases same
      refine ⟨account.length_outcomes.symm, job, ?_, ?_⟩
      · rw [List.getElem?_append_right (Nat.le_refl _), Nat.sub_self]
        rfl
      · rw [List.take_left', goes_on]
        rfl
    · intro idle
      rw [busy] at idle
      cases idle
    · intro dropped
      simp only [isDropped, work, Bool.false_eq_true] at dropped
  · exact absurd work whole

/-! ### Schedules -/

variable (name : String) (initial : σ) (schedule : List (Action σ ρ))

/-- If no job that is posted panics while it is opened, none does that is accepted. -/
theorem calm_admitted (opens : ∀ job, .post job ∈ schedule → job.Opens) :
    Calm initial ((start name initial).admitted schedule) :=
  calm_of_opens (opens_of_mem_admitted opens)

/-- A job that is asked for is accepted behind those that were accepted before. -/
theorem admitted_ask {before after : List (Action σ ρ)} {job : Job σ ρ}
    (opened : (strand.run before).closed = false) (held : (strand.run before).handles ≠ 0) :
    ∃ later, strand.admitted (before ++ .ask job :: after) =
      strand.admitted before ++ job.deferred :: later := by
  refine ⟨((strand.run before).act (.ask job)).admitted after, ?_⟩
  have taken : (strand.run before).admits (.ask job) = some job.deferred := by
    simp [admits, opened, held, Action.offer?]
  rw [admitted_append, admitted, taken]
  rfl

/-- The outcome of a job that is asked for is its own, once it is there. -/
theorem outcome?_ask (before after : List (Action σ ρ)) (job : Job σ ρ)
    (opened : ((start name initial).run before).closed = false)
    (held : ((start name initial).run before).handles ≠ 0) :
    ((start name initial).run (before ++ .ask job :: after)).outcome?
        ((start name initial).run before).accepted =
      if ((start name initial).run before).accepted <
          ((start name initial).run (before ++ .ask job :: after)).outcomes.length then
        some (job.run (Job.runAll ((start name initial).admitted before) initial).1).2
      else none := by
  obtain ⟨later, admitted⟩ := @admitted_ask _ _ (start name initial) before after job opened held
  have stage := stage_run_start name initial (before ++ .ask job :: after)
  rw [stage.outcome?_eq, (stage_run_start name initial before).accepted_eq, admitted,
    Job.runAll_append, ← Job.length_runAll _ initial, List.getElem?_append_right (Nat.le_refl _),
    Nat.sub_self, Job.runAll, List.getElem?_cons_zero, Job.run_deferred]

/-- A strand keeps its name. -/
theorem run_name : ((start name initial : Strand σ ρ).run schedule).name = name :=
  ((start name initial).run_grows schedule).name

/-- One who asks is told how the job ended, and that it was dropped if it panicked. -/
theorem run_answers : Answers name initial schedule := by
  rintro before job after rfl asked rfl opened held strand rfl outcome same
  have there := outcome?_ask name initial before after job opened held
  rw [← same] at there
  unfold answer?
  rw [there, droppedError, run_name]
  by_cases ended : ((start name initial).run before).accepted <
      ((start name initial).run (before ++ .ask job :: after)).outcomes.length
  · rw [if_pos ended]
    rcases outcome with payload | result
    · simp [ended, eq_comm]
    · simp [ended, eq_comm]
  · simp [ended]

/-- Nothing is accepted by a strand that is closed. -/
theorem admitted_of_closed (closed : strand.closed = true) (schedule : List (Action σ ρ)) :
    strand.admitted schedule = [] := by
  induction schedule generalizing strand with
  | nil => rfl
  | cons action rest ih =>
    rw [admitted, ih ((strand.act_grows action).closed closed)]
    simp [admits, closed]

/-- After the strand was closed no job is taken. -/
theorem run_refuses : Refuses name initial schedule := by
  rintro before after rfl held
  have closes : (((start name initial).run before).act .close).closed = true := by
    simp [act, held, close]
  refine ⟨?_, ?_⟩
  · rw [admitted_append, admitted, admitted_of_closed closes]
    simp [admits, Action.offer?]
  · intro job
    have closed : ((start name initial).run (before ++ .close :: after)).closed = true := by
      rw [run_append]
      exact (run_grows _ after).closed closes
    rw [post_of_closed closed, closedError, run_name]

/-- A call that nobody comes in between is a schedule: someone asks, and the worker goes on. -/
theorem exists_run_eq_call (held : strand.handles ≠ 0) (job : Job σ ρ) :
    ∃ steps, strand.run (.ask job :: List.replicate steps .work) =
      (strand.call job.deferred).1 := by
  have asks : strand.act (.ask job) = strand.offer job.deferred := if_neg held
  show ∃ steps, (strand.act (.ask job)).run (List.replicate steps .work) = _
  rw [asks, offer, call]
  rcases strand.post job.deferred with error | ⟨after, number⟩
  · exact ⟨0, rfl⟩
  · exact after.settle_reached.1

/-- Whatever holders and the worker of a strand do, in whatever order, and however often jobs
suspend or panic once they are open: the accepted jobs run in sequence, those who ask are told how
their jobs ended, a closed strand refuses, and the worker gets through what was accepted. -/
theorem run_inSequence (opens : ∀ job, .post job ∈ schedule → job.Opens) :
    InSequence initial ((start name initial).admitted schedule)
        ((start name initial).run schedule) ∧
      Answers name initial schedule ∧
      Refuses name initial schedule ∧
      ∃ steps, ∀ more, steps ≤ more.countP Action.isWork →
        ((start name initial).admitted schedule).length ≤
          (((start name initial).run schedule).run more).outcomes.length := by
  have stage := stage_run_start name initial schedule
  have calm := calm_admitted name initial schedule opens
  exact ⟨stage.inSequence calm, run_answers name initial schedule,
    run_refuses name initial schedule,
    stage.exists_served calm⟩

/-- A job that keeps a journal, and lets others run between two entries. -/
def journalTwice (first second : Nat) : Job (List Nat) Nat :=
  .ofScript (.act (· ++ [first]) fun _ => .suspend (.act (· ++ [second]) fun entries =>
    .done entries.length))

/-- A job that makes an entry and panics. -/
def journalFaulty (entry : Nat) : Job (List Nat) Nat :=
  .ofScript (.act (· ++ [entry]) fun _ => .suspend (.panic (.words "no more paper")))

/-- Two jobs are posted, and one that panics is asked for between them. The strand is closed while
the first one is suspended, and takes no fourth job. -/
def journalSchedule : List (Action (List Nat) Nat) :=
  [.post (journalTwice 1 2), .work, .work, .clone, .ask (journalFaulty 3), .work,
    .post (journalTwice 4 5), .close, .drop, .post (journalTwice 6 7)] ++ List.replicate 12 .work

/-- Three jobs are accepted before the close, and one behind it is refused. The one that panics does
not disturb the others. -/
theorem run_inSequence_of_journal :
    (∀ job, .post job ∈ journalSchedule → job.Opens) ∧
      ((start "journal" []).admitted journalSchedule).length = 3 ∧
      ((start "journal" []).run journalSchedule).state = [1, 2, 3, 4, 5] ∧
      ((start "journal" []).run journalSchedule).answer? 1 =
        some (.error (.channelRecv "strand journal dropped the job")) ∧
      ((start "journal" []).run journalSchedule).answer? 2 = some (.ok 5) ∧
      InSequence [] ((start "journal" []).admitted journalSchedule)
        ((start "journal" []).run journalSchedule) := by
  have opens : ∀ job, .post job ∈ journalSchedule → job.Opens := by
    intro job posted
    have one_of : job = journalTwice 1 2 ∨ job = journalTwice 4 5 ∨ job = journalTwice 6 7 := by
      simpa [journalSchedule] using posted
    rcases one_of with rfl | rfl | rfl
    all_goals exact Job.ofScript_opens _
  exact ⟨opens, rfl, rfl, rfl, rfl, (run_inSequence "journal" [] journalSchedule opens).1⟩

end Strand

end PeerNet
