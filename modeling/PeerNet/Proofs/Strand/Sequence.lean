import PeerNet.Strand

/-!
# A strand runs its jobs one after the other

Holders of a strand queue jobs, share the strand, close it and let go of it while its worker opens
jobs, suspends and goes on. Whatever comes in between, the jobs have the outcomes, and leave the
state, that they would if each was run to its end before the next one.

* **Jobs in sequence** (`Job.runAll`): what jobs leave of a state, and how they end, when they are
  run one after the other.
* **The stages of a worker** (`Stage`): between two jobs, the state is what those that have ended
  leave; within a job, what is left of it ends as the job does; and a job that panicked while it was
  opened has torn the worker down.
* **One stretch** (`stage_act`) leads from stage to stage, and so does any schedule (`stage_run`).
-/

namespace PeerNet

variable {σ ρ : Type}

/-! ### Jobs in sequence -/

/-- What a script leaves of a state, and how it ends, when nobody comes in between. -/
def Script.run : Script σ ρ → σ → σ × Outcome ρ
  | .done result, state => (state, .ok result)
  | .panic payload, state => (state, .error payload)
  | .act change rest, state => (rest (change state)).run (change state)
  | .suspend rest, state => rest.run state

namespace Job

/-- What a job leaves of a state, and how it ends, when nobody comes in between. -/
def run (job : Job σ ρ) (state : σ) : σ × Outcome ρ :=
  match job.opening state with
  | (after, .ok script) => script.run after
  | (after, .error payload) => (after, .error payload)

/-- What jobs leave of a state when they are run one after the other, and how they end. -/
def runAll : List (Job σ ρ) → σ → σ × List (Outcome ρ)
  | [], state => (state, [])
  | job :: rest, state =>
    ((runAll rest (job.run state).1).1, (job.run state).2 :: (runAll rest (job.run state).1).2)

/-- Whether a job never panics while it is opened. -/
def Opens (job : Job σ ρ) : Prop := ∀ state, ∃ after script, job.opening state = (after, .ok script)

/-- A job that is a script never panics while it is opened. -/
theorem ofScript_opens (script : Script σ ρ) : (ofScript script).Opens :=
  fun state => ⟨state, script, rfl⟩

/-- A job that is opened late never panics while it is opened: it does so while it runs. -/
theorem deferred_opens (job : Job σ ρ) : job.deferred.Opens := ofScript_opens _

/-- A job that is opened late does what it does. -/
theorem run_deferred (job : Job σ ρ) (state : σ) : job.deferred.run state = job.run state := by
  simp only [deferred, ofScript, run, Script.run, id]
  rcases job.opening state with ⟨after, payload | script⟩ <;> rfl

/-- Running jobs gives as many outcomes as there are jobs. -/
theorem length_runAll (jobs : List (Job σ ρ)) (state : σ) :
    (runAll jobs state).2.length = jobs.length := by
  induction jobs generalizing state with
  | nil => rfl
  | cons job rest ih => simp [runAll, ih]

/-- Running jobs in sequence may be cut anywhere. -/
theorem runAll_append (front back : List (Job σ ρ)) (state : σ) :
    runAll (front ++ back) state =
      ((runAll back (runAll front state).1).1,
        (runAll front state).2 ++ (runAll back (runAll front state).1).2) := by
  induction front generalizing state with
  | nil => rfl
  | cons job rest ih => simp [runAll, ih]

/-- One more job is run. -/
theorem runAll_concat (jobs : List (Job σ ρ)) (job : Job σ ρ) (state : σ) :
    runAll (jobs ++ [job]) state =
      ((job.run (runAll jobs state).1).1,
        (runAll jobs state).2 ++ [(job.run (runAll jobs state).1).2]) :=
  runAll_append jobs [job] state

end Job

/-! ### Numbers -/

/-- The members of a list with their numbers, of which the first one is given. -/
def numbered {α : Type} : Nat → List α → List (Nat × α)
  | _, [] => []
  | first, member :: rest => (first, member) :: numbered (first + 1) rest

section numbered

variable {α : Type}

@[simp] theorem length_numbered (first : Nat) (members : List α) :
    (numbered first members).length = members.length := by
  induction members generalizing first with
  | nil => rfl
  | cons member rest ih => simp [numbered, ih]

/-- Numbers go on behind the front part. -/
theorem numbered_append (first : Nat) (front back : List α) :
    numbered first (front ++ back) =
      numbered first front ++ numbered (first + front.length) back := by
  induction front generalizing first with
  | nil => rfl
  | cons member rest ih =>
    simp [numbered, ih, Nat.add_assoc, Nat.add_comm 1]

/-- The numbers are consecutive from the first. -/
theorem map_fst_numbered (first : Nat) (members : List α) :
    (numbered first members).map Prod.fst = List.range' first members.length := by
  induction members generalizing first with
  | nil => rfl
  | cons member rest ih => simp [numbered, ih, List.range'_succ]

/-- A member is found under its number, from whichever end the numbers are looked through. -/
theorem lookup_reverse_numbered (first number : Nat) (members : List α) :
    (numbered first members).reverse.lookup number =
      if number < first then none else members[number - first]? := by
  induction members generalizing first with
  | nil => simp [numbered]
  | cons member rest ih =>
    rw [numbered, List.reverse_cons, List.lookup_append, ih]
    rcases Nat.lt_trichotomy number first with less | rfl | more
    · have ne : (number == first) = false := beq_eq_false_iff_ne.mpr (Nat.ne_of_lt less)
      simp [less, Nat.lt_succ_of_lt less, List.lookup_cons, ne]
    · simp
    · have ne : (number == first) = false := beq_eq_false_iff_ne.mpr (Nat.ne_of_gt more)
      obtain ⟨distance, rfl⟩ := Nat.exists_eq_add_of_lt more
      have past : ¬ first + distance + 1 < first := by omega
      have past' : ¬ first + distance + 1 < first + 1 := by omega
      have shift : first + distance + 1 - first = distance + 1 := by omega
      have shift' : first + distance + 1 - (first + 1) = distance := by omega
      simp [past, past', shift, shift', List.lookup_cons, ne]

end numbered

namespace Strand

variable {strand after : Strand σ ρ} {initial : σ} {jobs : List (Job σ ρ)}

/-! ### The end of a job -/

section conclude

variable (strand : Strand σ ρ) (number : Nat) (outcome : Outcome ρ)

@[simp] theorem conclude_name : (strand.conclude number outcome).name = strand.name := by
  cases outcome <;> rfl

/-- The end of a job leaves the state as the job has left it. -/
@[simp] theorem conclude_state : (strand.conclude number outcome).state = strand.state := by
  cases outcome <;> rfl

@[simp] theorem conclude_queue : (strand.conclude number outcome).queue = strand.queue := by
  cases outcome <;> rfl

@[simp] theorem conclude_accepted :
    (strand.conclude number outcome).accepted = strand.accepted := by
  cases outcome <;> rfl

/-- The end of a job, by a panic too, does not close the strand. -/
@[simp] theorem conclude_closed : (strand.conclude number outcome).closed = strand.closed := by
  cases outcome <;> rfl

/-- The end of a job is recorded under its number. -/
@[simp] theorem conclude_outcomes :
    (strand.conclude number outcome).outcomes = (number, outcome) :: strand.outcomes := by
  cases outcome <;> rfl

end conclude

/-! ### What is accepted -/

/-- The job that a strand accepts from an action, if it does. -/
def admits (strand : Strand σ ρ) (action : Action σ ρ) : Option (Job σ ρ) :=
  if strand.closed ∨ strand.handles = 0 then none else action.offer?

/-- The jobs that a strand accepts in the course of a schedule, the first one first. -/
def admitted (strand : Strand σ ρ) : List (Action σ ρ) → List (Job σ ρ)
  | [] => []
  | action :: rest => (strand.admits action).toList ++ (strand.act action).admitted rest

/-- A schedule may be cut anywhere. -/
theorem run_append (strand : Strand σ ρ) (front back : List (Action σ ρ)) :
    strand.run (front ++ back) = (strand.run front).run back :=
  List.foldl_append

/-- What a schedule has accepted is what its parts have. -/
theorem admitted_append (strand : Strand σ ρ) (front back : List (Action σ ρ)) :
    strand.admitted (front ++ back) =
      strand.admitted front ++ (strand.run front).admitted back := by
  induction front generalizing strand with
  | nil => rfl
  | cons action rest ih =>
    simp only [List.cons_append, admitted, ih, List.append_assoc]
    rfl

/-- Every accepted job was offered. -/
theorem exists_offer_of_mem_admitted {job : Job σ ρ} {schedule : List (Action σ ρ)}
    (mem : job ∈ strand.admitted schedule) : ∃ action ∈ schedule, action.offer? = some job := by
  induction schedule generalizing strand with
  | nil => cases mem
  | cons action rest ih =>
    rcases List.mem_append.mp mem with mem | mem
    · refine ⟨action, List.mem_cons_self, ?_⟩
      unfold admits at mem
      split at mem
      · cases mem
      · exact Option.mem_toList.mp mem
    · obtain ⟨other, mem, offers⟩ := ih mem
      exact ⟨other, List.mem_cons_of_mem _ mem, offers⟩

/-- If no job that is posted panics while it is opened, none that is accepted does. -/
theorem opens_of_mem_admitted {schedule : List (Action σ ρ)}
    (opens : ∀ job, .post job ∈ schedule → job.Opens) :
    ∀ job ∈ strand.admitted schedule, job.Opens := by
  intro job mem
  obtain ⟨action, mem, offers⟩ := exists_offer_of_mem_admitted mem
  cases action with
  | post posted => exact Option.some.inj offers ▸ opens posted mem
  | ask asked => exact Option.some.inj offers ▸ asked.deferred_opens
  | close | clone | drop | work => cases offers

/-! ### Stages -/

/-- How the accepted jobs stand: these have ended, so many have begun, and these wait. -/
structure Account (initial : σ) (past : List (Job σ ρ)) (begun : Nat) (waiting : List (Job σ ρ))
    (strand : Strand σ ρ) : Prop where
  /-- The outcomes are those of the jobs that have ended, run one after the other. -/
  outcomes : strand.outcomes = (numbered 0 (Job.runAll past initial).2).reverse
  /-- The others wait under their numbers. -/
  queue : strand.queue = numbered begun waiting
  /-- All of them were accepted. -/
  accepted : strand.accepted = begun + waiting.length

/-- A worker between two jobs: it has yet to begin, or waits, or has ended because no job can come
any more. -/
def Rests (waiting : List (Job σ ρ)) (strand : Strand σ ρ) : Prop :=
  strand.worker = .fresh ∨ strand.worker = .waiting ∨
    strand.worker = .ended ∧ waiting = [] ∧ (strand.closed = true ∨ strand.handles = 0)

/-- How far the worker of a strand has got with the jobs that were accepted. -/
inductive Stage (initial : σ) (strand : Strand σ ρ) : List (Job σ ρ) → Prop where
  /-- Some jobs have ended, and the next one has not begun. -/
  | between (past waiting : List (Job σ ρ))
      (account : Account initial past past.length waiting strand)
      (state : strand.state = (Job.runAll past initial).1) (rests : strand.Rests waiting) :
      Stage initial strand (past ++ waiting)
  /-- A job is in progress. What is left of it ends as the job does. -/
  | within (past : List (Job σ ρ)) (job : Job σ ρ) (waiting : List (Job σ ρ)) (script : Script σ ρ)
      (account : Account initial past (past.length + 1) waiting strand)
      (work : strand.worker = .busy past.length script)
      (goes_on : script.run strand.state = job.run (Job.runAll past initial).1) :
      Stage initial strand (past ++ job :: waiting)
  /-- A job has torn the worker down. -/
  | torn (past : List (Job σ ρ)) (job : Job σ ρ) (waiting : List (Job σ ρ)) (payload : Payload)
      (account : Account initial past (past.length + 1) waiting strand)
      (work : strand.worker = .crashed) (closed : strand.closed = true)
      (panics : job.opening (Job.runAll past initial).1 = (strand.state, .error payload)) :
      Stage initial strand (past ++ job :: waiting)

/-- A strand that has just been made has accepted nothing. -/
theorem start_stage (name : String) (initial : σ) :
    Stage initial (start name initial : Strand σ ρ) [] :=
  .between [] [] ⟨rfl, rfl, rfl⟩ rfl (.inl rfl)

/-! ### Holders -/

/-- A job is queued behind those that wait. -/
theorem Account.push {past waiting : List (Job σ ρ)} {begun : Nat}
    (account : Account initial past begun waiting strand) (job : Job σ ρ) :
    Account initial past begun (waiting ++ [job])
      { strand with
        queue := strand.queue ++ [(strand.accepted, job)]
        accepted := strand.accepted + 1 } := by
  refine ⟨account.outcomes, ?_, ?_⟩
  · simp only [numbered_append, account.queue, account.accepted]
    rfl
  · simp [account.accepted, Nat.add_assoc]

/-- Who holds the strand, and whether it is closed, does not change the account. -/
theorem Account.hold {past waiting : List (Job σ ρ)} {begun : Nat}
    (account : Account initial past begun waiting strand) (handles : Nat) (closed : Bool) :
    Account initial past begun waiting { strand with handles := handles, closed := closed } :=
  ⟨account.outcomes, account.queue, account.accepted⟩

/-- A job that is accepted comes last. -/
theorem Stage.push (stage : Stage initial strand jobs) (opened : strand.closed = false)
    (held : strand.handles ≠ 0) (job : Job σ ρ) :
    Stage initial { strand with
        queue := strand.queue ++ [(strand.accepted, job)]
        accepted := strand.accepted + 1 } (jobs ++ [job]) := by
  cases stage with
  | between past waiting account state rests =>
    rw [List.append_assoc]
    refine .between past (waiting ++ [job]) (account.push job) state ?_
    rcases rests with fresh | waits | ⟨_, _, closed | free⟩
    · exact .inl fresh
    · exact .inr (.inl waits)
    · exact absurd closed (Bool.eq_false_iff.mp opened)
    · exact absurd free held
  | within past other waiting script account work goes_on =>
    rw [List.append_assoc]
    exact .within past other (waiting ++ [job]) script (account.push job) work goes_on
  | torn past other waiting payload account work closed =>
    exact absurd closed (Bool.eq_false_iff.mp opened)

/-- Who holds the strand does not matter, and closing it does not, but to a worker that ends. -/
theorem Stage.hold (stage : Stage initial strand jobs) {handles : Nat} {closed : Bool}
    (closes : strand.closed = true → closed = true) (frees : strand.handles = 0 → handles = 0) :
    Stage initial { strand with handles := handles, closed := closed } jobs := by
  cases stage with
  | between past waiting account state rests =>
    refine .between past waiting (account.hold handles closed) state ?_
    rcases rests with fresh | waits | ⟨ended, none, last⟩
    · exact .inl fresh
    · exact .inr (.inl waits)
    · exact .inr (.inr ⟨ended, none, last.imp closes frees⟩)
  | within past job waiting script account work goes_on =>
    exact .within past job waiting script (account.hold handles closed) work goes_on
  | torn past job waiting payload account work is_closed panics =>
    exact .torn past job waiting payload (account.hold handles closed) work (closes is_closed)
      panics

/-- A closed strand refuses a job. -/
theorem post_of_closed (closed : strand.closed = true) (job : Job σ ρ) :
    strand.post job = .error strand.closedError := by
  simp [post, closed]

/-- A job that is offered to a closed strand changes nothing. -/
theorem offer_of_closed (closed : strand.closed = true) (job : Job σ ρ) :
    strand.offer job = strand := by
  simp [offer, post_of_closed closed]

/-- A job that is offered to an open strand comes last, under the next number. -/
theorem offer_of_open (opened : strand.closed = false) (job : Job σ ρ) :
    strand.offer job = { strand with
      queue := strand.queue ++ [(strand.accepted, job)]
      accepted := strand.accepted + 1 } := by
  simp [offer, post, opened]

/-- Offering a job neither closes the strand nor opens it. -/
theorem offer_closed (strand : Strand σ ρ) (job : Job σ ρ) :
    (strand.offer job).closed = strand.closed := by
  cases closed : strand.closed with
  | true => rw [offer_of_closed closed, closed]
  | false => rw [offer_of_open closed, closed]

/-- A holder offers a job. -/
theorem Stage.offer (stage : Stage initial strand jobs) (held : strand.handles ≠ 0)
    (job : Job σ ρ) :
    Stage initial (strand.offer job)
      (jobs ++ (if strand.closed ∨ strand.handles = 0 then none else some job).toList) := by
  cases closed : strand.closed with
  | true => simpa [offer_of_closed closed] using stage
  | false => simpa [offer_of_open closed, held] using stage.push closed held job

/-! ### The worker -/

/-- What becomes of a script in one stretch: it has ended as it does, or what is left of it does. -/
inductive Stretched (strand : Strand σ ρ) (number : Nat) (script : Script σ ρ) :
    Strand σ ρ → Prop where
  /-- It has ended. -/
  | ended : Stretched strand number script
      ({ strand with state := (script.run strand.state).1 }.conclude number
        (script.run strand.state).2)
  /-- It is suspended. -/
  | suspended (state : σ) (rest : Script σ ρ)
      (goes_on : rest.run state = script.run strand.state) :
      Stretched strand number script { strand with state := state, worker := .busy number rest }

/-- In one stretch a script ends as it would alone, or what is left of it would. -/
theorem runScript_stretched (strand : Strand σ ρ) (number : Nat) (script : Script σ ρ) :
    Stretched strand number script (strand.runScript number script) := by
  induction script generalizing strand with
  | done result => exact .ended
  | panic payload => exact .ended
  | suspend rest => exact .suspended strand.state rest rfl
  | act change rest ih =>
    have stretched := ih (change strand.state) { strand with state := change strand.state }
    simp only [runScript]
    generalize ({ strand with state := change strand.state } : Strand σ ρ).runScript number
      (rest (change strand.state)) = after at stretched ⊢
    cases stretched with
    | ended => exact @Stretched.ended _ _ strand number (.act change rest)
    | suspended state left goes_on => exact .suspended state left goes_on

/-- A job has ended: it is one of the past. -/
theorem Account.conclude {past waiting : List (Job σ ρ)} {job : Job σ ρ}
    (account : Account initial past (past.length + 1) waiting strand) (state : σ) :
    Account initial (past ++ [job]) (past ++ [job]).length waiting
      ({ strand with state := state }.conclude past.length
        (job.run (Job.runAll past initial).1).2) := by
  have length : (past ++ [job]).length = past.length + 1 := List.length_append
  refine ⟨?_, ?_, ?_⟩
  · rw [conclude_outcomes, Job.runAll_concat, numbered_append, List.reverse_append,
      account.outcomes, Job.length_runAll, Nat.zero_add]
    rfl
  · rw [conclude_queue, length, account.queue]
  · rw [conclude_accepted, length, account.accepted]

/-- The job in progress goes on. -/
theorem Stage.stretch {past waiting : List (Job σ ρ)} {job : Job σ ρ} {script : Script σ ρ}
    (account : Account initial past (past.length + 1) waiting strand)
    (goes_on : script.run strand.state = job.run (Job.runAll past initial).1) :
    Stage initial (strand.runScript past.length script) (past ++ job :: waiting) := by
  have stretched := runScript_stretched strand past.length script
  generalize strand.runScript past.length script = after at stretched ⊢
  cases stretched with
  | suspended state rest continues =>
    exact .within past job waiting rest ⟨account.outcomes, account.queue, account.accepted⟩ rfl
      (continues.trans goes_on)
  | ended =>
    rw [goes_on, List.append_cons]
    refine .between (past ++ [job]) waiting (account.conclude _) ?_ ?_
    · rw [conclude_state, Job.runAll_concat]
    · exact .inr (.inl rfl)

/-- The next job is opened. -/
theorem Stage.open {past waiting : List (Job σ ρ)} {job : Job σ ρ}
    (account : Account initial past past.length (job :: waiting) strand)
    (state : strand.state = (Job.runAll past initial).1) :
    Stage initial
      ({ strand with queue := numbered (past.length + 1) waiting }.openJob (past.length, job))
      (past ++ job :: waiting) := by
  have accepted : strand.accepted = past.length + 1 + waiting.length := by
    rw [account.accepted, List.length_cons]
    omega
  unfold openJob
  rw [state]
  rcases opened : job.opening (Job.runAll past initial).1 with ⟨left, payload | script⟩
  · exact .torn past job waiting payload ⟨account.outcomes, rfl, accepted⟩ rfl rfl opened
  · refine .within past job waiting script ⟨account.outcomes, rfl, accepted⟩ rfl ?_
    simp only [Job.run, opened]

/-- One stretch of the worker. -/
theorem Stage.step (stage : Stage initial strand jobs) :
    Stage initial (strand.step.getD strand) jobs := by
  cases stage with
  | within past job waiting script account work goes_on =>
    simp only [Strand.step, work, Option.getD_some]
    exact .stretch account goes_on
  | torn past job waiting payload account work closed panics =>
    simp only [Strand.step, work, Option.getD_none]
    exact .torn past job waiting payload account work closed panics
  | between past waiting account state rests =>
    rcases rests with fresh | waits | ⟨ended, none, last⟩
    · simp only [Strand.step, fresh, Option.getD_some]
      exact .between past waiting ⟨account.outcomes, account.queue, account.accepted⟩ state
        (.inr (.inl rfl))
    · have queue := account.queue
      cases waiting with
      | nil =>
        simp only [Strand.step, waits, queue, numbered]
        split
        · next last =>
          simp only [Bool.or_eq_true, decide_eq_true_eq] at last
          exact .between past [] ⟨account.outcomes, queue, account.accepted⟩ state
            (.inr (.inr ⟨rfl, rfl, last⟩))
        · exact .between past [] account state (.inr (.inl waits))
      | cons job waiting =>
        simp only [Strand.step, waits, queue, numbered, Option.getD_some]
        exact .open account state
    · simp only [Strand.step, ended, Option.getD_none]
      exact .between past waiting account state (.inr (.inr ⟨ended, none, last⟩))

/-! ### Schedules -/

/-- Every stretch leads from stage to stage. -/
theorem stage_act (stage : Stage initial strand jobs) (action : Action σ ρ) :
    Stage initial (strand.act action) (jobs ++ (strand.admits action).toList) := by
  by_cases held : strand.handles = 0
  · -- only the worker goes on
    have silent : strand.admits action = none := by simp [admits, held]
    rw [silent, Option.toList_none, List.append_nil]
    cases action with
    | work => exact stage.step
    | drop => exact stage.hold id fun free => by rw [free]
    | post | ask | close | clone => simpa [act, held] using stage
  · have silent (action : Action σ ρ) (offers : action.offer? = none) :
        jobs ++ (strand.admits action).toList = jobs := by
      simp [admits, offers]
    cases action with
    | work =>
      rw [silent .work rfl]
      exact stage.step
    | post job => simpa [act, held, admits, Action.offer?] using stage.offer held job
    | ask job => simpa [act, held, admits, Action.offer?] using stage.offer held job.deferred
    | close =>
      rw [silent .close rfl, act, if_neg held]
      exact stage.hold (fun _ => rfl) id
    | clone =>
      rw [silent .clone rfl, act, if_neg held]
      exact stage.hold id fun free => absurd free held
    | drop =>
      rw [silent .drop rfl]
      exact stage.hold id fun free => absurd free held

/-- Every schedule leads from stage to stage. -/
theorem stage_run (stage : Stage initial strand jobs) (schedule : List (Action σ ρ)) :
    Stage initial (strand.run schedule) (jobs ++ strand.admitted schedule) := by
  induction schedule generalizing strand jobs with
  | nil =>
    rw [admitted, List.append_nil]
    exact stage
  | cons action rest ih =>
    rw [admitted, ← List.append_assoc]
    exact ih (stage_act stage action)

/-- Whatever is done to a strand from its start, its worker is at some stage with what it accepted.
-/
theorem stage_run_start (name : String) (initial : σ) (schedule : List (Action σ ρ)) :
    Stage initial ((start name initial).run schedule) ((start name initial).admitted schedule) :=
  stage_run (start_stage name initial) schedule

end Strand

end PeerNet
