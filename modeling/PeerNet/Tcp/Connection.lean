import PeerNet.Config.Settings
import PeerNet.Error
import PeerNet.Frame.Package
import PeerNet.Session.Basic
import PeerNet.Session.Conversation
import PeerNet.Tcp.Outlet

/-!
# Connections

A connection sends and receives packages over a stream. Senders queue their messages on a strand;
its worker writes one message after the other. When the connection is stopped the message in
progress is given up as soon as that is noticed, before it is begun or where it waits for the
socket, and after the jobs that were queued before, the writing side is shut down and let go.

Every function is one stretch that nobody else can interrupt; `Connection.step` chooses among them.
-/

namespace PeerNet.Tcp

/-- The jobs on the strand of a connection. -/
inductive WriteJob where
  /-- Writes a message in blocks for a caller. -/
  | write (caller : Nat) (blocks : List Bytes)
  /-- Shuts the writing side down and lets go of it. -/
  | shutdown
  deriving DecidableEq, Repr

/-- What the worker of the strand does. -/
inductive WriteWork where
  /-- It waits for a job. -/
  | idle
  /-- It writes for a caller; these blocks are left. A write is fresh until its first stretch. -/
  | writing (caller : Nat) (blocks : List Bytes) (fresh : Bool)
  deriving DecidableEq, Repr

/-- A connection. -/
structure Connection where
  /-- Its number and its peer. -/
  card : Card
  /-- The size of the blocks that packages are encoded into. -/
  writeBlock : Nat
  /-- Its phase. -/
  phase : Phase
  /-- Whether its loops and writers have been told to end. -/
  cancelled : Bool
  /-- The buffer in front of the socket. -/
  outlet : Outlet
  /-- Whether the strand holds the writing side of the socket. -/
  holdsWriter : Bool
  /-- The jobs on the strand. -/
  jobs : List WriteJob
  /-- What the worker does. -/
  work : WriteWork
  /-- Whether the strand takes no further job. -/
  closed : Bool
  /-- How the sends ended that nobody has asked about yet, by caller. -/
  sent : List (Nat × Option Error)
  /-- The messages that were queued, the last one first. -/
  messages : List (Nat × Bytes)
  /-- The number of the next caller. -/
  nextCaller : Nat
  deriving DecidableEq, Repr

namespace Connection

/-- A connection over a stream that was opened or accepted just now. -/
def spawn (card : Card) (writeBlock : Nat) : Connection where
  card := card
  writeBlock := writeBlock
  phase := .running
  cancelled := false
  outlet := .start
  holdsWriter := true
  jobs := []
  work := .idle
  closed := false
  sent := []
  messages := []
  nextCaller := 0

/-- Whether a connection is running. -/
def isRunning (connection : Connection) : Bool := connection.phase = .running

/-- The bytes that have reached the socket. -/
def wire (connection : Connection) : Bytes := connection.outlet.wire

/-- Stops a connection, unless that was done before. -/
def stop (connection : Connection) : Connection :=
  match connection.phase with
  | .running =>
    { connection with
      phase := if connection.closed then .stopped else .stopping
      cancelled := true
      jobs := if connection.closed then connection.jobs else connection.jobs ++ [.shutdown]
      closed := true }
  | .created | .stopping | .stopped => connection

/-! ## Sending -/

/-- The error of a message to a connection that has stopped. -/
def stoppedError (connection : Connection) : Error := .sessionStopped connection.card.remote

/-- The error of a message that comes too late for the strand. -/
def closedError (connection : Connection) : Error :=
  .channelSend s!"strand tcp-conn-{connection.card.id}-io is closed"

/-- The blocks that a package is written in. -/
def encode (connection : Connection) (package : Frame.Package) : Except Error (List Bytes) :=
  match package.writeFrame .empty connection.writeBlock with
  | (blocks, .ok _) => .ok blocks.pieces
  | (_, .error error) => .error error

/-- Queues a message for a caller, whose number is given. -/
def submit (connection : Connection) (blocks : List Bytes) : Except Error (Connection × Nat) :=
  if !connection.isRunning then .error connection.stoppedError
  else if connection.closed then .error connection.closedError
  else
    .ok ({ connection with
        jobs := connection.jobs ++ [.write connection.nextCaller blocks]
        messages := (connection.nextCaller, blocks.flatten) :: connection.messages
        nextCaller := connection.nextCaller + 1 },
      connection.nextCaller)

/-- Queues a message for a caller who has found the connection running. -/
def enqueue (connection : Connection) (blocks : List Bytes) : Except Error Connection :=
  if connection.closed then .error connection.closedError
  else
    .ok { connection with
      jobs := connection.jobs ++ [.write connection.nextCaller blocks]
      messages := (connection.nextCaller, blocks.flatten) :: connection.messages
      nextCaller := connection.nextCaller + 1 }

/-- What a caller does whose message could not be queued: a failure that no session survives stops
the connection. -/
def giveBack (connection : Connection) (error : Error) : Connection :=
  if error.isSessionFatal then connection.stop else connection

/-- The worker ends the write for a caller. -/
def finish (connection : Connection) (caller : Nat) (result : Option Error) : Connection :=
  { connection with work := .idle, sent := (caller, result) :: connection.sent }

/-- The worker takes the next job, if it has none. -/
def begin (connection : Connection) : Connection :=
  match connection.work, connection.jobs with
  | .idle, .write caller blocks :: rest =>
    let connection := { connection with jobs := rest }
    if connection.holdsWriter then { connection with work := .writing caller blocks true }
    else connection.finish caller (some connection.stoppedError)
  | .idle, .shutdown :: rest =>
    { connection with jobs := rest, holdsWriter := false, phase := .stopped }
  | _, _ => connection

/-- One stretch of the write in progress. -/
def write (connection : Connection) (acceptance : Acceptance) : Connection :=
  match connection.work with
  | .idle => connection
  | .writing caller blocks _ =>
    match connection.outlet.step acceptance blocks with
    | (outlet, .writing blocks) =>
      { connection with outlet := outlet, work := .writing caller blocks false }
    | (outlet, .done) => { connection with outlet := outlet }.finish caller none
    | (outlet, .failed failure) =>
      { connection with outlet := outlet }.finish caller (some (.io failure))

/-- Whether the worker pauses, so that it may notice a stop: it does before a write and where it
needs the socket. -/
def pauses (connection : Connection) : Bool :=
  match connection.work with
  | .writing _ blocks fresh => fresh || connection.outlet.needsSocket blocks
  | .idle => false

/-- The write in progress is given up, if the connection has been stopped and the worker pauses. -/
def giveUp (connection : Connection) : Connection :=
  match connection.work with
  | .writing caller _ _ =>
    if connection.cancelled && connection.pauses then
      connection.finish caller (some connection.stoppedError)
    else connection
  | .idle => connection

/-- A caller takes the outcome of the send; a failure that no session survives stops the
connection. -/
def take (connection : Connection) (caller : Nat) : Connection :=
  match connection.sent.lookup caller with
  | none => connection
  | some result =>
    let connection := { connection with
      sent := connection.sent.filter fun entry => entry.1 ≠ caller }
    match result with
    | some error => if error.isSessionFatal then connection.stop else connection
    | none => connection

/-! ## All stretches -/

/-- What may happen next to a connection. -/
inductive Action where
  /-- A caller queues a message, if it is not refused. -/
  | submit (blocks : List Bytes)
  /-- The worker takes a job. -/
  | begin
  /-- The worker goes on writing. -/
  | write (acceptance : Acceptance)
  /-- The worker notices that the connection was stopped. -/
  | giveUp
  /-- A caller learns how the send ended. -/
  | take (caller : Nat)
  /-- Somebody stops the connection. -/
  | stop
  deriving DecidableEq, Repr

/-- One stretch of somebody. -/
def step (connection : Connection) : Action → Connection
  | .submit blocks =>
    match connection.submit blocks with
    | .ok (connection, _) => connection
    | .error _ => connection
  | .begin => connection.begin
  | .write acceptance => connection.write acceptance
  | .giveUp => connection.giveUp
  | .take caller => connection.take caller
  | .stop => connection.stop

/-- Runs a schedule. -/
def run (connection : Connection) (schedule : List Action) : Connection :=
  schedule.foldl step connection

/-- The error that the caller of an action is told, if any. -/
def told (connection : Connection) : Action → Option Error
  | .submit blocks =>
    match connection.submit blocks with
    | .ok _ => none
    | .error error => some error
  | .take caller => (connection.sent.lookup caller).join
  | .begin | .write _ | .giveUp | .stop => none

/-- What a caller sends. -/
inductive Message where
  /-- A package. -/
  | package (package : Frame.Package)
  /-- Bytes in blocks. -/
  | blocks (blocks : List Bytes)

/-- The blocks that a message is written in. -/
def prepare (connection : Connection) : Message → Except Error (List Bytes)
  | .package package => connection.encode package
  | .blocks blocks => .ok blocks

/-- What a connection does. -/
def protocol : Protocol Connection Action Message (List Bytes) where
  step := step
  told := told
  stop := .stop
  starts := fun _ _ => false
  phase := Connection.phase
  remote := fun connection => connection.card.remote
  prepare := prepare
  enqueue := enqueue
  giveUp := giveBack

/-! ## Undisturbed callers -/

/-- Runs the write in progress to its end: the socket takes whatever it is offered, or fails. -/
def writeOut (connection : Connection) (acceptance : Acceptance) : (fuel : Nat) → Connection
  | 0 => connection
  | fuel + 1 =>
    match connection.work with
    | .idle => connection
    | .writing .. => (connection.write acceptance).writeOut acceptance fuel

/-- Runs all jobs: those of a connection that was stopped are given up. -/
def settle (connection : Connection) (acceptance : Acceptance) : Connection :=
  connection.jobs.foldl (fun connection job =>
    let fuel := match job with
      | .write _ blocks => 3 * blocks.length + 3
      | .shutdown => 0
    connection.begin.giveUp.writeOut acceptance fuel) connection

/-- Sends a message while nobody else does anything. -/
def send (connection : Connection) (acceptance : Acceptance) (blocks : List Bytes) :
    Connection × Except Error Unit :=
  match connection.submit blocks with
  | .error error => (if error.isSessionFatal then connection.stop else connection, .error error)
  | .ok (connection, caller) =>
    let connection := connection.settle acceptance
    let result := match (connection.sent.lookup caller).join with
      | some error => .error error
      | none => .ok ()
    (connection.take caller, result)

/-- The description of a connection. -/
def text (connection : Connection) : String :=
  s!"TcpConnection \x7b id: SessionId({connection.card.id.number}), " ++
    s!"remote: {connection.card.remote}, state: {connection.phase.name} \x7d"

end Connection

end PeerNet.Tcp
