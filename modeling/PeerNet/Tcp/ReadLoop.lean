import PeerNet.Frame.Reader
import PeerNet.Tcp.Connection

/-!
# The read loop of a connection

The read loop hands every package of the stream to the message handler, until the stream ends, is at
fault or fails, or the connection is stopped. A message handler that panics loses no later package.
An error is told to the error handler, and then the connection is stopped and its end is reported;
a panic of the error handler tears the loop down at once.
-/

namespace PeerNet.Tcp

/-- What a handler does. -/
inductive Handling where
  /-- It returns. -/
  | returns
  /-- It panics. -/
  | panics
  deriving DecidableEq, Repr

/-- Which handlers there are. -/
structure Handlers where
  /-- Whether there is one for messages. -/
  message : Bool
  /-- Whether there is one for errors. -/
  error : Bool
  deriving DecidableEq, Repr

/-- The description of handlers. -/
def Handlers.text (handlers : Handlers) : String :=
  s!"ConnHandlers \x7b msg: {handlers.message}, err: {handlers.error} \x7d"

/-- Whether a read loop runs. -/
inductive LoopState where
  /-- It reads. -/
  | running
  /-- It has ended, with the stream, or because the connection was stopped. -/
  | ended (ending : Option Frame.Ending)
  /-- It was torn down by an error handler that panicked. -/
  | torn
  deriving DecidableEq, Repr

/-- A connection with its read loop. -/
structure ReadLoop where
  /-- The connection. -/
  connection : Connection
  /-- What was received and not used. -/
  reader : Frame.Reader
  /-- Whether the loop runs. -/
  state : LoopState
  /-- All that was received. -/
  received : Bytes
  /-- The packages that were read, with what the message handler did if there was one, the last one
  first. -/
  read : List (Frame.Package × Option Handling)
  /-- The errors that were told to the error handler, with what it did, the last one first. -/
  notified : List (Error × Handling)
  /-- The sessions whose end was reported, the last one first. -/
  reported : List SessionId
  deriving DecidableEq, Repr

namespace ReadLoop

/-- The read loop of a connection that was opened just now. -/
def start (connection : Connection) (maxBody : Nat) : ReadLoop :=
  ⟨connection, .start maxBody, .running, [], [], [], []⟩

/-- The loop stops the connection, reports its end, and ends. -/
def leave (loop : ReadLoop) (ending : Option Frame.Ending) : ReadLoop :=
  { loop with
    connection := loop.connection.stop
    state := .ended ending
    reported := loop.connection.card.id :: loop.reported }

/-- The loop ends because of an error. The error handler is told of it if the connection is still
running; nothing catches a panic of it. -/
def fail (loop : ReadLoop) (handlers : Handlers) (error : Error) (onError : Handling) : ReadLoop :=
  if loop.connection.isRunning && handlers.error then
    let loop := { loop with notified := (error, onError) :: loop.notified }
    match onError with
    | .returns => loop.leave (some (.failed error))
    | .panics => { loop with state := .torn }
  else loop.leave (some (.failed error))

/-- The loop hands a package to the message handler. A panic of it is caught. -/
def dispatch (loop : ReadLoop) (handlers : Handlers) (package : Frame.Package)
    (onMessage : Handling) : ReadLoop :=
  { loop with
    read := (package, if handlers.message then some onMessage else none) :: loop.read }

/-- The loop looks for a package in what was received. -/
def advance (loop : ReadLoop) (handlers : Handlers) (onMessage onError : Handling) : ReadLoop :=
  match loop.reader.take with
  | (reader, .ok (some package)) =>
    { loop with reader := reader }.dispatch handlers package onMessage
  | (reader, .ok none) => { loop with reader := reader }
  | (reader, .error fault) =>
    { loop with reader := reader }.fail handlers fault.toError onError

/-- Whether the loop waits for more bytes. -/
def waits (loop : ReadLoop) : Bool :=
  match loop.reader.take.2 with
  | .ok none => true
  | _ => false

/-- What may happen next to a read loop. -/
inductive Action where
  /-- The loop looks for a package, and the handler that it calls does this. -/
  | advance (onMessage onError : Handling)
  /-- A chunk is received. -/
  | receive (chunk : Bytes)
  /-- The stream ends, and the error handler does this if it is called. -/
  | finish (onError : Handling)
  /-- Reading fails, and the error handler does this if it is called. -/
  | fail (failure : IoFailure) (onError : Handling)
  /-- The loop looks whether the connection was stopped. -/
  | heed
  /-- The connection does something else. -/
  | connection (action : Connection.Action)
  deriving DecidableEq, Repr

/-- The stream ends. -/
def finish (loop : ReadLoop) (handlers : Handlers) (onError : Handling) : ReadLoop :=
  match loop.reader.atEnd with
  | .complete => loop.leave (some .complete)
  | .failed error => loop.fail handlers error onError

/-- One stretch of somebody. The loop turns to the stream only when no whole package was received.
-/
def step (loop : ReadLoop) (handlers : Handlers) (action : Action) : ReadLoop :=
  match action, loop.state with
  | .connection action, _ => { loop with connection := loop.connection.step action }
  | .advance onMessage onError, .running => loop.advance handlers onMessage onError
  | .receive chunk, .running =>
    if loop.waits then
      { loop with reader := loop.reader.receive chunk, received := loop.received ++ chunk }
    else loop
  | .finish onError, .running => if loop.waits then loop.finish handlers onError else loop
  | .fail failure onError, .running =>
    if loop.waits then loop.fail handlers (.io failure) onError else loop
  | .heed, .running => if loop.connection.cancelled then loop.leave none else loop
  | _, _ => loop

/-- The sessions whose end was reported between two states of a loop. -/
def reports (before after : ReadLoop) : List SessionId :=
  after.reported.take (after.reported.length - before.reported.length)

end ReadLoop

end PeerNet.Tcp
