import PeerNet.Log

/-!
# Strands

A strand runs jobs one at a time, in the order in which it accepted them, over a state that nobody
else touches. A job may suspend, and it may panic: then the state stays as the job left it, and the
next job runs. The worker of a strand ends when the strand is closed, or nobody holds it any more,
and no job is left; the state is dropped then.

`Strand.step` is one stretch of the worker between two suspensions, and `Strand.settle` runs the
worker until it has nothing to do. `Strand.act` chooses among the worker and those who hold the
strand.
-/

namespace PeerNet

/-- What a job dies of: a panic with a text, or with something that is none. -/
inductive Payload where
  /-- A text. -/
  | words (text : String)
  /-- Something else. -/
  | other
  deriving DecidableEq, Repr

/-- How a panic shows in the log. -/
def Payload.message : Payload → String
  | .words text => text
  | .other => "unknown panic payload"

/-- What a job has yet to do, over a state `σ` and with a result `ρ`. -/
inductive Script (σ ρ : Type) where
  /-- Nothing; this is the result. -/
  | done (result : ρ)
  /-- It panics. -/
  | panic (payload : Payload)
  /-- It changes the state and goes on. -/
  | act (change : σ → σ) (rest : σ → Script σ ρ)
  /-- It lets others run and then goes on. -/
  | suspend (rest : Script σ ρ)

/-- How a job ended. -/
abbrev Outcome (ρ : Type) := Except Payload ρ

/-- A job. Before it can suspend for the first time it is opened; a panic while it is opened is not
caught. -/
structure Job (σ ρ : Type) where
  /-- Opens the job. -/
  opening : σ → σ × Except Payload (Script σ ρ)

/-- A job that does nothing while it is opened. -/
def Job.ofScript {σ ρ : Type} (script : Script σ ρ) : Job σ ρ := ⟨fun state => (state, .ok script)⟩

/-- A job that opens another one when it runs already, so that a panic on the way is caught. -/
def Job.deferred {σ ρ : Type} (job : Job σ ρ) : Job σ ρ :=
  .ofScript (.act id fun state =>
    match job.opening state with
    | (after, .ok script) => .act (fun _ => after) fun _ => script
    | (after, .error payload) => .act (fun _ => after) fun _ => .panic payload)

/-- What the worker of a strand does. -/
inductive Worker (σ ρ : Type) where
  /-- It has not run yet. -/
  | fresh
  /-- It waits for a job. -/
  | waiting
  /-- It is in the middle of the job with number `job`. -/
  | busy (job : Nat) (rest : Script σ ρ)
  /-- It has ended, and the state is dropped. -/
  | ended
  /-- It was torn down by a job that panicked while it was opened, and the state is dropped. -/
  | crashed

/-- A queue of jobs over a state. -/
structure Strand (σ ρ : Type) where
  /-- The name that errors and log lines carry. -/
  name : String
  /-- The state, as it is or as it was when it was dropped. -/
  state : σ
  /-- The accepted jobs that have not begun, with their numbers. -/
  queue : List (Nat × Job σ ρ)
  /-- How many jobs were accepted. -/
  accepted : Nat
  /-- How many hold the strand. -/
  handles : Nat
  /-- Whether it takes no further job. -/
  closed : Bool
  /-- What the worker does. -/
  worker : Worker σ ρ
  /-- How the jobs that ended did so, the last one first. -/
  outcomes : List (Nat × Outcome ρ)
  /-- The log, the last line first. -/
  log : List Log.Line

namespace Strand

variable {σ ρ : Type}

/-- A strand over a state, held once. -/
def start (name : String) (state : σ) : Strand σ ρ :=
  ⟨name, state, [], 0, 1, false, .fresh, [], []⟩

/-- The error of a job that comes too late. -/
def closedError (strand : Strand σ ρ) : Error := .channelSend s!"strand {strand.name} is closed"

/-- The error of a job whose result will never come. -/
def droppedError (strand : Strand σ ρ) : Error :=
  .channelRecv s!"strand {strand.name} dropped the job"

/-- Queues a job, and gives its number. -/
def post (strand : Strand σ ρ) (job : Job σ ρ) : Except Error (Strand σ ρ × Nat) :=
  if strand.closed then .error strand.closedError
  else
    .ok ({ strand with
        queue := strand.queue ++ [(strand.accepted, job)]
        accepted := strand.accepted + 1 },
      strand.accepted)

/-- Takes no further job. -/
def close (strand : Strand σ ρ) : Strand σ ρ := { strand with closed := true }

/-- Another one holds the strand. -/
def clone (strand : Strand σ ρ) : Strand σ ρ := { strand with handles := strand.handles + 1 }

/-- One that held the strand lets go. -/
def drop (strand : Strand σ ρ) : Strand σ ρ := { strand with handles := strand.handles - 1 }

/-- The number of jobs that have not begun. -/
def pending (strand : Strand σ ρ) : Nat := strand.queue.length

/-- Whether the state is gone. -/
def isDropped (strand : Strand σ ρ) : Bool :=
  match strand.worker with
  | .ended | .crashed => true
  | _ => false

/-- Writes a line into the log. -/
def logLine (strand : Strand σ ρ) (level : Log.Level) (message : String) : Strand σ ρ :=
  { strand with log := ⟨level, message⟩ :: strand.log }

/-- The worker begins. -/
def begin (strand : Strand σ ρ) : Strand σ ρ :=
  { strand.logLine .trace s!"strand {strand.name} started" with worker := .waiting }

/-- The worker ends, and the state is dropped. -/
def finish (strand : Strand σ ρ) : Strand σ ρ :=
  { strand.logLine .trace s!"strand {strand.name} exited" with worker := .ended }

/-- A job has ended; the worker waits for the next one. -/
def conclude (strand : Strand σ ρ) (job : Nat) (outcome : Outcome ρ) : Strand σ ρ :=
  let strand := match outcome with
    | .ok _ => strand
    | .error payload =>
      strand.logLine .error s!"strand {strand.name} job panicked: {payload.message}"
  { strand with worker := .waiting, outcomes := (job, outcome) :: strand.outcomes }

/-- Runs a job up to its next suspension. -/
def runScript (strand : Strand σ ρ) (job : Nat) : Script σ ρ → Strand σ ρ
  | .done result => strand.conclude job (.ok result)
  | .panic payload => strand.conclude job (.error payload)
  | .act change rest =>
    let state := change strand.state
    runScript { strand with state := state } job (rest state)
  | .suspend rest => { strand with worker := .busy job rest }

/-- Runs a job to its end. -/
def runToEnd (strand : Strand σ ρ) (job : Nat) : Script σ ρ → Strand σ ρ
  | .done result => strand.conclude job (.ok result)
  | .panic payload => strand.conclude job (.error payload)
  | .act change rest =>
    let state := change strand.state
    runToEnd { strand with state := state } job (rest state)
  | .suspend rest => runToEnd strand job rest

/-- Opens a job. If it panics on the way the worker is gone, and with it the state; what is in the
queue stays there. -/
def openJob (strand : Strand σ ρ) (job : Nat × Job σ ρ) : Strand σ ρ :=
  match job.2.opening strand.state with
  | (state, .ok script) => { strand with state := state, worker := .busy job.1 script }
  | (state, .error _) =>
    { strand with state := state, closed := true, worker := .crashed }

/-- One stretch of the worker: it begins, or takes a job, or goes on with one up to its next
suspension, or ends. Nothing if it has nothing to do. -/
def step (strand : Strand σ ρ) : Option (Strand σ ρ) :=
  match strand.worker with
  | .fresh => some strand.begin
  | .busy job rest => some (strand.runScript job rest)
  | .waiting =>
    match strand.queue with
    | job :: rest => some ({ strand with queue := rest }.openJob job)
    | [] => if strand.closed || strand.handles = 0 then some strand.finish else none
  | .ended | .crashed => none

/-- Opens a job and runs it to its end, unless the worker is gone. -/
def runJob (strand : Strand σ ρ) (job : Nat × Job σ ρ) : Strand σ ρ :=
  match strand.worker with
  | .waiting =>
    let opened := { strand with queue := strand.queue.drop 1 }.openJob job
    match opened.worker with
    | .busy number script => opened.runToEnd number script
    | _ => opened
  | _ => strand

/-- The worker begins, or runs the job that it is in to its end. -/
def wake (strand : Strand σ ρ) : Strand σ ρ :=
  match strand.worker with
  | .fresh => strand.begin
  | .busy job rest => strand.runToEnd job rest
  | _ => strand

/-- The worker ends, if no job can come any more. -/
def retire (strand : Strand σ ρ) : Strand σ ρ :=
  match strand.worker with
  | .waiting => if strand.closed || strand.handles = 0 then strand.finish else strand
  | _ => strand

/-- Runs the worker until it has nothing to do. -/
def settle (strand : Strand σ ρ) : Strand σ ρ :=
  let awake := strand.wake
  (awake.queue.foldl runJob awake).retire

/-- How a job ended, once it has. -/
def outcome? (strand : Strand σ ρ) (job : Nat) : Option (Outcome ρ) := strand.outcomes.lookup job

/-- What one who waits for the result of a job is told, once the job has ended. -/
def answer? (strand : Strand σ ρ) (job : Nat) : Option (Except Error ρ) :=
  match strand.outcome? job with
  | some (.ok result) => some (.ok result)
  | some (.error _) => some (.error strand.droppedError)
  | none => none

/-- Queues a job and waits for its result while nobody else does anything. -/
def call (strand : Strand σ ρ) (job : Job σ ρ) : Strand σ ρ × Except Error ρ :=
  match strand.post job with
  | .error error => (strand, .error error)
  | .ok (strand, number) =>
    let strand := strand.settle
    (strand, (strand.answer? number).getD (.error strand.droppedError))

/-! ## All stretches -/

/-- What may happen next to a strand. -/
inductive Action (σ ρ : Type) where
  /-- A holder queues a job, if it is not refused. -/
  | post (job : Job σ ρ)
  /-- A holder queues a job to wait for its result, if it is not refused. -/
  | ask (job : Job σ ρ)
  /-- A holder closes the strand. -/
  | close
  /-- A holder has another one hold the strand as well. -/
  | clone
  /-- A holder lets go of the strand. -/
  | drop
  /-- The worker goes on, if it has something to do. -/
  | work

/-- The job that an action offers to the strand. -/
def Action.offer? : Action σ ρ → Option (Job σ ρ)
  | .post job => some job
  | .ask job => some job.deferred
  | .close | .clone | .drop | .work => none

/-- Queues a job, if it is not refused. -/
def offer (strand : Strand σ ρ) (job : Job σ ρ) : Strand σ ρ :=
  match strand.post job with
  | .ok (strand, _) => strand
  | .error _ => strand

/-- One stretch of somebody. On a strand without holders only the worker goes on. -/
def act (strand : Strand σ ρ) (action : Action σ ρ) : Strand σ ρ :=
  match action with
  | .work => strand.step.getD strand
  | .post job => if strand.handles = 0 then strand else strand.offer job
  | .ask job => if strand.handles = 0 then strand else strand.offer job.deferred
  | .close => if strand.handles = 0 then strand else strand.close
  | .clone => if strand.handles = 0 then strand else strand.clone
  | .drop => strand.drop

/-- Runs a schedule. -/
def run (strand : Strand σ ρ) (schedule : List (Action σ ρ)) : Strand σ ρ :=
  schedule.foldl act strand

/-- The description of a strand. -/
def text (strand : Strand σ ρ) : String :=
  s!"Strand \x7b name: {Quoted.quote strand.name}, " ++
    s!"pending: {strand.pending}, closed: {strand.closed} \x7d"

end Strand

end PeerNet
