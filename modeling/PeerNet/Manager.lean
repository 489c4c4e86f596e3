import PeerNet.Session.Pool

/-!
# Managers

A manager hands out sessions and keeps them in a pool. The pool is only touched by jobs on the
manager's strand, one at a time; callers look into the directory and at the gate without waiting. A
request goes through stages in an order of its own for every kind of manager. A stop lowers the
gate, has the pool drained on the strand, stops the sessions that were in it, and closes the strand.

Every function is one stretch that nobody else can interrupt; `Manager.step` chooses among them, and
`Manager.serve` and `Manager.stop` run one caller to the end.

The sessions themselves live in a state of type `σ`, which a `Backend` tells the manager to use.
-/

namespace PeerNet

/-- How a manager uses sessions that live in a state of type `σ`. -/
structure Backend (σ : Type) where
  /-- Whether a session is running. -/
  alive : σ → SessionId → Bool
  /-- Takes a number for a session. -/
  takeId : σ → SessionId × σ
  /-- Builds and starts a session. -/
  build : SessionId → Endpoint → σ → Except Error Card × σ
  /-- Stops a session. -/
  halt : SessionId → σ → σ

/-- The stages of a request for a session. -/
inductive Stage where
  /-- It is refused with this error unless the gate is up. -/
  | gate (refusal : Error)
  /-- The directory is read, and a live session found there is the answer. -/
  | directory
  /-- A stream to the peer is opened. -/
  | dial
  /-- The session is looked for and built on the strand. -/
  | insert
  /-- After the stream failed to open with this error: a live session is looked for on the strand.
  -/
  | recheck (failure : Error)
  deriving DecidableEq, Repr

/-- A request for a session. -/
structure Request where
  /-- The peer. -/
  remote : Endpoint
  /-- The stages to come. -/
  todo : List Stage
  /-- The answer. -/
  answer : Option (Except Error Card)

/-- The jobs on a manager's strand. -/
inductive ManagerJob where
  /-- Finds or builds the session for a request. -/
  | insert (request : Nat) (remote : Endpoint)
  /-- Finds a live session for a request, whose answer is the error otherwise. -/
  | recheck (request : Nat) (remote : Endpoint) (failure : Error)
  /-- Takes a session out that has reported its end. -/
  | remove (id : SessionId)
  /-- Takes out all sessions that are not alive. -/
  | sweep
  /-- Takes out all sessions for the one who stops the manager. -/
  | drain
  deriving DecidableEq, Repr

/-- How far a stop has got. -/
inductive StopProgress where
  /-- Nobody has stopped the manager. -/
  | idle
  /-- The gate is down. -/
  | lowered
  /-- The drain is on the strand. -/
  | draining
  /-- These sessions were drained. -/
  | drained (sessions : List Card)
  /-- The sessions have been stopped, and the strand is about to be closed. -/
  | closing
  /-- The strand is closed, and these sessions are about to be stopped. -/
  | halting (sessions : List Card)
  /-- The stop has returned. -/
  | finished
  deriving DecidableEq, Repr

/-- What distinguishes the kinds of managers. -/
structure ManagerKind where
  /-- The name of the strand. -/
  strandName : String
  /-- The stages of a request by a caller. -/
  stages : List Stage
  /-- The stages of a request for a peer that has come forward by itself. -/
  inbound : List Stage
  /-- Whether a stop closes the strand before it stops the sessions. -/
  closesFirst : Bool
  deriving DecidableEq, Repr

/-- A manager. -/
structure Manager where
  /-- Its kind. -/
  kind : ManagerKind
  /-- Whether the gate is up. -/
  admits : Bool
  /-- Whether its loops have been told to end. -/
  cancelled : Bool
  /-- The pool, touched only on the strand. -/
  pool : Pool
  /-- The jobs on the strand. -/
  queue : List ManagerJob
  /-- Whether the strand takes no further job. -/
  closed : Bool
  /-- The requests that have begun, by number. -/
  requests : Table Nat Request
  /-- The number of the next request. -/
  nextRequest : Nat
  /-- How far a stop has got. -/
  progress : StopProgress

namespace Manager

variable {σ : Type}

/-- A manager without sessions. -/
def start (kind : ManagerKind) (poolName : String) (capacity : Nat) (admits : Bool) : Manager :=
  ⟨kind, admits, false, .empty poolName capacity, [], false, [], 0, .idle⟩

/-- The error of a job that comes too late. -/
def closedError (manager : Manager) : Error :=
  .channelSend s!"strand {manager.kind.strandName} is closed"

/-- Queues a job on the strand, if it still takes one. -/
def post (manager : Manager) (job : ManagerJob) : Manager :=
  if manager.closed then manager else { manager with queue := manager.queue ++ [job] }

/-! ## Requests -/

/-- A request with these stages begins; gives its number. -/
def beginWith (manager : Manager) (stages : List Stage) (remote : Endpoint) : Manager × Nat :=
  ({ manager with
      requests := Table.insert manager.requests manager.nextRequest ⟨remote, stages, none⟩
      nextRequest := manager.nextRequest + 1 },
    manager.nextRequest)

/-- A caller asks for a session; gives the number of the request. -/
def begin (manager : Manager) (remote : Endpoint) : Manager × Nat :=
  manager.beginWith manager.kind.stages remote

/-- A peer has come forward; gives the number of the request for its session. -/
def beginInbound (manager : Manager) (remote : Endpoint) : Manager × Nat :=
  manager.beginWith manager.kind.inbound remote

/-- Answers a request. -/
def answer (manager : Manager) (request : Nat) (result : Except Error Card) : Manager :=
  { manager with
    requests := Table.adjust manager.requests request fun r =>
      { r with todo := [], answer := some result } }

/-- Sets the stages that a request has yet to go through. -/
def proceed (manager : Manager) (request : Nat) (todo : List Stage) : Manager :=
  { manager with
    requests := Table.adjust manager.requests request fun r => { r with todo := todo } }

/-- Queues the job that a request waits for, or answers that the strand is closed. -/
def await (manager : Manager) (request : Nat) (job : ManagerJob) : Manager :=
  if manager.closed then manager.answer request (.error manager.closedError)
  else (manager.post job).proceed request []

/-- One stage of a request. `dialed` is what comes of opening a stream. -/
def advance (manager : Manager) (alive : SessionId → Bool) (dialed : Except Error Unit)
    (request : Nat) : Manager :=
  match Table.get? manager.requests request with
  | none => manager
  | some r =>
    match r.todo with
    | [] => manager
    | .gate refusal :: rest =>
      if manager.admits then manager.proceed request rest
      else manager.answer request (.error refusal)
    | .directory :: rest =>
      match Table.get? manager.pool.directory r.remote with
      | some card =>
        if alive card.id then manager.answer request (.ok card) else manager.proceed request rest
      | none => manager.proceed request rest
    | .dial :: rest =>
      match dialed with
      | .ok () => manager.proceed request rest
      | .error failure => manager.proceed request [.gate failure, .recheck failure]
    | .insert :: _ => manager.await request (.insert request r.remote)
    | .recheck failure :: _ => manager.await request (.recheck request r.remote failure)

/-! ## The strand -/

/-- Runs the first job on the strand. -/
def work (manager : Manager) (backend : Backend σ) (state : σ) : Manager × σ :=
  match manager.queue with
  | [] => (manager, state)
  | job :: rest =>
    let manager := { manager with queue := rest }
    match job with
    | .insert request remote =>
      let inserted := manager.pool.getOrInsert (backend.alive state) (backend.takeId state).1 remote
        (fun id state => backend.build id remote (backend.takeId state).2) state
      let result := match inserted.outcome with
        | .ok card => .ok card
        | .error refusal => .error refusal.toError
      ({ manager with pool := inserted.pool }.answer request result, inserted.state)
    | .recheck request remote failure =>
      let (pool, found) := manager.pool.getLive (backend.alive state) remote
      let result := match found with
        | some card => .ok card
        | none => .error failure
      ({ manager with pool := pool }.answer request result, state)
    | .remove id => ({ manager with pool := (manager.pool.remove id).1 }, state)
    | .sweep => ({ manager with pool := (manager.pool.sweep (backend.alive state)).1 }, state)
    | .drain =>
      let (pool, sessions) := manager.pool.drain
      ({ manager with pool := pool, progress := .drained sessions }, state)

/-- Runs all jobs on the strand. -/
def workAll (manager : Manager) (backend : Backend σ) (state : σ) : Manager × σ :=
  manager.queue.foldl (fun (manager, state) _ => manager.work backend state) (manager, state)

/-! ## Stopping -/

/-- Lowers the gate and tells the loops to end, unless the gate is down already. -/
def lower (manager : Manager) : Manager :=
  if manager.admits then
    { manager with admits := false, cancelled := true, progress := .lowered }
  else manager

/-- Stops sessions. -/
def haltAll (backend : Backend σ) (sessions : List Card) (state : σ) : σ :=
  sessions.foldl (fun state card => backend.halt card.id state) state

/-- One stretch of the one who stops the manager. -/
def advanceStop (manager : Manager) (backend : Backend σ) (state : σ) : Manager × σ :=
  match manager.progress with
  | .idle | .draining | .finished => (manager, state)
  | .lowered =>
    if manager.closed then
      let sessions := if manager.kind.closesFirst then [] else Table.values manager.pool.directory
      ({ manager with progress := .drained sessions }, state)
    else ({ manager.post .drain with progress := .draining }, state)
  | .drained sessions =>
    if manager.kind.closesFirst then
      ({ manager with closed := true, progress := .halting sessions }, state)
    else ({ manager with progress := .closing }, haltAll backend sessions state)
  | .closing => ({ manager with closed := true, progress := .finished }, state)
  | .halting sessions => ({ manager with progress := .finished }, haltAll backend sessions state)

/-! ## All stretches -/

/-- What may happen next to a manager. -/
inductive Action where
  /-- A caller asks for a session. -/
  | request (remote : Endpoint)
  /-- A peer has come forward. -/
  | inbound (remote : Endpoint)
  /-- A request goes through its next stage. -/
  | advance (request : Nat) (dialed : Except Error Unit)
  /-- The strand runs a job. -/
  | work
  /-- A session stops for reasons of its own. -/
  | halt (id : SessionId)
  /-- A session has reported its end. -/
  | reportEnd (id : SessionId)
  /-- The sweep is due. -/
  | reap
  /-- A caller stops the manager. -/
  | stop
  /-- The one who stops the manager goes on. -/
  | advanceStop

/-- One stretch of somebody. -/
def step (backend : Backend σ) (action : Action) (manager : Manager) (state : σ) :
    Manager × σ :=
  match action with
  | .request remote => ((manager.begin remote).1, state)
  | .inbound remote => ((manager.beginInbound remote).1, state)
  | .advance request dialed => (manager.advance (backend.alive state) dialed request, state)
  | .work => manager.work backend state
  | .halt id => (manager, backend.halt id state)
  | .reportEnd id => (manager.post (.remove id), state)
  | .reap => (if manager.cancelled then manager else manager.post .sweep, state)
  | .stop => (manager.lower, state)
  | .advanceStop => manager.advanceStop backend state

/-! ## Undisturbed callers -/

/-- Runs a request to its end while nobody else does anything. -/
def serve (manager : Manager) (backend : Backend σ) (dialed : Except Error Unit) (remote : Endpoint)
    (state : σ) : Manager × σ × Except Error Card :=
  let (manager, request) := manager.begin remote
  let alive := backend.alive state
  -- a stream that fails to open adds one stage
  let manager := (List.range (manager.kind.stages.length + 2)).foldl
    (fun manager _ => manager.advance alive dialed request) manager
  let (manager, state) := manager.workAll backend state
  let result := match Table.get? manager.requests request with
    | some ⟨_, _, some result⟩ => result
    | _ => .error manager.closedError
  ({ manager with requests := Table.erase manager.requests request }, state, result)

/-- Stops the manager while nobody else does anything. -/
def stop (manager : Manager) (backend : Backend σ) (state : σ) : Manager × σ :=
  if manager.admits then
    let (manager, state) := manager.lower.advanceStop backend state
    let (manager, state) := manager.workAll backend state
    let (manager, state) := manager.advanceStop backend state
    manager.advanceStop backend state
  else (manager, state)

/-- Sweeps the pool while nobody else does anything. -/
def sweep (manager : Manager) (backend : Backend σ) (state : σ) : Manager × σ :=
  let (manager, state) := Manager.step backend .reap manager state
  manager.workAll backend state

/-- The number of sessions in the pool. -/
def count (manager : Manager) : Except Error Nat :=
  if manager.closed then .error manager.closedError else .ok manager.pool.size

end Manager

end PeerNet
