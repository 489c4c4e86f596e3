import PeerNet.Bytes
import PeerNet.Clock
import PeerNet.Config.Settings
import PeerNet.Error
import PeerNet.Session.Basic
import PeerNet.Session.Conversation

/-!
# Sessions over datagrams

A session exchanges datagrams with one peer. It has two strands: on one the datagrams are sent, on
the other those that were received are handed to the handler and it is found out whether the session
is idle. A session with a socket of its own also has a loop that receives from it; a session without
one is fed by its server. The idle timer wakes once per period and stops the session when there was
no traffic since it woke before.

Every function is one stretch that nobody else can interrupt. `Session.step` chooses among them, and
`Session.send` and `Session.tick` run one of them together with the strands to the end.
-/

namespace PeerNet.Udp

open Config (UdpSessionSettings)

/-- The jobs on the strand that sends. -/
inductive SendJob where
  /-- Sends a datagram for a caller. -/
  | send (caller : Nat) (data : Bytes)
  /-- Lets go of the socket. -/
  | close
  deriving DecidableEq, Repr

/-- The jobs on the other strand. -/
inductive LifeJob where
  /-- Hands a datagram to the handler. -/
  | deliver (data : Bytes)
  /-- Tells the idle timer whether there was traffic, and forgets it. -/
  | checkIdle
  deriving DecidableEq, Repr

/-- What the idle timer does. -/
inductive IdleTimer where
  /-- The session has not started. -/
  | off
  /-- It waits for its next tick. -/
  | waiting (ticker : Ticker)
  /-- It has asked whether there was traffic. -/
  | asking (ticker : Ticker)
  /-- It has been told whether the session is idle. -/
  | told (ticker : Ticker) (idle : Bool)
  /-- It has ended. -/
  | ended
  deriving DecidableEq, Repr

/-- The loop that receives from the session's own socket. -/
inductive ReceiveLoop where
  /-- There is none: the socket belongs to a server. -/
  | absent
  /-- It has not begun; the socket is kept for it. -/
  | ready
  /-- It receives. -/
  | running
  /-- It has ended, and has let go of the socket. -/
  | ended
  deriving DecidableEq, Repr

/-- How a send ended: `none` if it succeeded. -/
abbrev Sent := Option Error

/-- A session over datagrams. -/
structure Session where
  /-- Its number and its peer. -/
  card : Card
  /-- The address that its socket is bound to. -/
  origin : Endpoint
  /-- Its settings. -/
  settings : UdpSessionSettings
  /-- Whether the socket is its own. -/
  ownsSocket : Bool
  /-- Its phase. -/
  phase : Phase
  /-- Whether there was traffic since the idle timer asked. -/
  traffic : Bool
  /-- Whether the strand that sends holds the socket. -/
  holdsSocket : Bool
  /-- The jobs on the strand that sends. -/
  sends : List SendJob
  /-- How the sends ended that nobody has asked about yet, by caller. -/
  sent : List (Nat × Sent)
  /-- The number of the next caller. -/
  nextCaller : Nat
  /-- The jobs on the other strand. -/
  life : List LifeJob
  /-- Whether the strands take no further job. -/
  closed : Bool
  /-- Whether the loops have been told to end. -/
  cancelled : Bool
  /-- The loop that receives. -/
  receiver : ReceiveLoop
  /-- The idle timer. -/
  timer : IdleTimer
  /-- The datagrams that were handed to the handler, the last one first. -/
  delivered : List Bytes
  /-- The datagrams that were handed to the socket, the last one first. -/
  transmitted : List Bytes
  deriving DecidableEq, Repr

namespace Session

/-- A session that has not started. -/
def create (card : Card) (origin : Endpoint) (ownsSocket : Bool) (settings : UdpSessionSettings) :
    Session where
  card := card
  origin := origin
  settings := settings
  ownsSocket := ownsSocket
  phase := .created
  traffic := false
  holdsSocket := true
  sends := []
  sent := []
  nextCaller := 0
  life := []
  closed := false
  cancelled := false
  receiver := if ownsSocket then .ready else .absent
  timer := .off
  delivered := []
  transmitted := []

/-- Whether a session is running. -/
def isRunning (session : Session) : Bool := session.phase = .running

/-- Whether a session still uses its socket. -/
def usesSocket (session : Session) : Bool :=
  session.holdsSocket || session.receiver = .ready || session.receiver = .running

/-- Starts a session at a time: its timer and its loop begin. -/
def start (session : Session) (now : Nat) : Except Error Session :=
  if session.phase = .created then
    .ok { session with
      phase := .running
      timer := .waiting (.start now session.settings.maxIdle)
      receiver := if session.receiver = .ready then .running else session.receiver }
  else
    .error (.illegalState
      s!"udp session {session.card.id} to {session.card.remote} started twice")

/-- Stops a session, unless that was done before: the loops are told to end, the strand that sends
lets go of the socket after the jobs it has, and neither strand takes another job. -/
def stop (session : Session) : Session :=
  match session.phase with
  | .created | .running =>
    { session with
      phase := if session.closed then .stopped else .stopping
      cancelled := true
      receiver := if session.receiver = .ready then .ended else session.receiver
      sends := if session.closed then session.sends else session.sends ++ [.close]
      closed := true }
  | .stopping | .stopped => session

/-! ## Sending -/

/-- The error of a datagram that is too long. -/
def tooLarge? (session : Session) (data : Bytes) : Option Error :=
  if session.settings.maxPackageSize < data.length then
    some (.messageTooLarge
      s!"{data.length} bytes exceeds max package size {session.settings.maxPackageSize}")
  else none

/-- Why a datagram is not even queued. -/
def refusal? (session : Session) (data : Bytes) : Option Error :=
  match session.tooLarge? data with
  | some error => some error
  | none => if session.isRunning then none else some (.sessionStopped session.card.remote)

/-- The error of a datagram that comes too late for the strand. -/
def closedError (session : Session) : Error :=
  .channelSend s!"strand udp-session-{session.card.id}-io is closed"

/-- Queues a datagram for a caller, whose number is given. -/
def submit (session : Session) (data : Bytes) : Except Error (Session × Nat) :=
  if session.closed then .error session.closedError
  else
    .ok ({ session with
        sends := session.sends ++ [.send session.nextCaller data]
        nextCaller := session.nextCaller + 1 },
      session.nextCaller)

/-- How a send ends when the socket took so many bytes, or failed. -/
def sentOf (session : Session) (data : Bytes) : Except IoFailure Nat → Sent
  | .error failure => some (.io failure)
  | .ok n =>
    if n = data.length then none
    else some (.detailedIo s!"sent {n} of {data.length} bytes to {session.card.remote}")

/-- Runs the first job on the strand that sends. `transmit` is what the socket does. -/
def workSend (session : Session) (transmit : Bytes → Except IoFailure Nat) : Session :=
  match session.sends with
  | [] => session
  | .send caller data :: rest =>
    let result := if session.holdsSocket then session.sentOf data (transmit data)
      else some (.sessionStopped session.card.remote)
    { session with
      sends := rest
      sent := (caller, result) :: session.sent
      transmitted := if session.holdsSocket then data :: session.transmitted
        else session.transmitted }
  | .close :: rest => { session with sends := rest, holdsSocket := false, phase := .stopped }

/-- Runs all jobs on the strand that sends. -/
def workSends (session : Session) (transmit : Bytes → Except IoFailure Nat) : Session :=
  session.sends.foldl (fun session _ => session.workSend transmit) session

/-- What a caller does who learns how the send ended: a success is traffic, and a failure that no
session survives stops it. -/
def conclude (session : Session) : Sent → Session
  | none => { session with traffic := true }
  | some error => if error.isSessionFatal then session.stop else session

/-- A caller takes the outcome of the send. -/
def take (session : Session) (caller : Nat) : Session :=
  match session.sent.lookup caller with
  | none => session
  | some result =>
    { session with sent := session.sent.filter fun entry => entry.1 ≠ caller }.conclude result

/-- Sends a datagram while nobody else does anything. -/
def send (session : Session) (transmit : Bytes → Except IoFailure Nat) (data : Bytes) :
    Session × Sent :=
  match session.refusal? data with
  | some error => (session, some error)
  | none =>
    match session.submit data with
    | .error error => (session.conclude (some error), some error)
    | .ok (session, caller) =>
      let session := session.workSends transmit
      (session.take caller, (session.sent.lookup caller).join)

/-! ## Receiving -/

/-- A datagram from the peer is queued for the handler. -/
def deliver (session : Session) (data : Bytes) : Session :=
  { session with
    traffic := true
    life := if session.closed then session.life else session.life ++ [.deliver data] }

/-- Runs the first job on the strand of the handler. Without a handler the datagram is dropped. -/
def workLife (session : Session) (registered : Bool) : Session :=
  match session.life with
  | [] => session
  | .deliver data :: rest =>
    { session with
      life := rest
      delivered := if registered then data :: session.delivered else session.delivered }
  | .checkIdle :: rest =>
    { session with
      life := rest
      traffic := false
      timer := match session.timer with
        | .asking ticker => .told ticker (!session.traffic)
        | timer => timer }

/-- Runs all jobs on the strand of the handler. -/
def workLives (session : Session) (registered : Bool) : Session :=
  session.life.foldl (fun session _ => session.workLife registered) session

/-- The loop takes a datagram from the socket. Only those of the peer count, and none that is too
long. -/
def receive (session : Session) (source : Endpoint) (data : Bytes) : Session :=
  if session.receiver = .running ∧ source = session.card.remote
      ∧ data.length ≤ session.settings.maxPackageSize then
    session.deliver data
  else session

/-- The socket fails to receive. -/
def failReceive (session : Session) : Session :=
  if session.receiver = .running then { session.stop with receiver := .ended } else session

/-! ## The idle timer -/

/-- The timer takes a tick that is due and asks whether there was traffic; when the strand is closed
it ends. -/
def wake (session : Session) (now : Nat) : Session :=
  match session.timer with
  | .waiting ticker =>
    if ticker.isDue now then
      if session.closed then { session with timer := .ended }
      else
        { session with timer := .asking (ticker.take now), life := session.life ++ [.checkIdle] }
    else session
  | _ => session

/-- The timer acts on what it was told. -/
def judge (session : Session) : Session :=
  match session.timer with
  | .told ticker false => { session with timer := .waiting ticker }
  | .told _ true => { session.stop with timer := .ended }
  | _ => session

/-- The loops of a session that has stopped notice it. -/
def heed (session : Session) : Session :=
  if session.cancelled then
    { session with
      receiver := if session.receiver = .running then .ended else session.receiver
      timer := match session.timer with
        | .waiting _ => .ended
        | timer => timer }
  else session

/-- One tick of the idle timer while nobody else does anything. -/
def tick (session : Session) (registered : Bool) (now : Nat) : Session :=
  ((session.wake now).workLives registered).judge

/-! ## All stretches -/

/-- What may happen next to a session. -/
inductive Action where
  /-- A caller starts the session, if it has not started. -/
  | start (now : Nat)
  /-- A caller queues a datagram, if it is not refused. -/
  | submit (data : Bytes)
  /-- The strand that sends runs a job, and the socket takes so many bytes or fails. -/
  | workSend (outcome : Except IoFailure Nat)
  /-- A caller learns how the send ended. -/
  | take (caller : Nat)
  /-- A datagram comes in for the session. -/
  | deliver (data : Bytes)
  /-- The loop takes a datagram from the socket. -/
  | receive (source : Endpoint) (data : Bytes)
  /-- The socket fails to receive. -/
  | failReceive
  /-- The strand of the handler runs a job. -/
  | workLife
  /-- The timer looks at the time. -/
  | wake (now : Nat)
  /-- The timer acts on what it was told. -/
  | judge
  /-- The loops look whether they are to end. -/
  | heed
  /-- Somebody stops the session. -/
  | stop

/-- One stretch of somebody. -/
def step (session : Session) (registered : Bool) : Action → Session
  | .start now =>
    match session.start now with
    | .ok session => session
    | .error _ => session
  | .submit data =>
    match session.refusal? data with
    | some _ => session
    | none =>
      match session.submit data with
      | .ok (session, _) => session
      | .error _ => session
  | .workSend outcome => session.workSend fun _ => outcome
  | .take caller => session.take caller
  | .deliver data => session.deliver data
  | .receive source data => session.receive source data
  | .failReceive => session.failReceive
  | .workLife => session.workLife registered
  | .wake now => session.wake now
  | .judge => session.judge
  | .heed => session.heed
  | .stop => session.stop

/-- The error that the caller of an action is told, if any. -/
def told (session : Session) : Action → Option Error
  | .start now =>
    match session.start now with
    | .ok _ => none
    | .error error => some error
  | .submit data =>
    match session.refusal? data with
    | some error => some error
    | none =>
      match session.submit data with
      | .ok _ => none
      | .error error => some error
  | .take caller => (session.sent.lookup caller).join
  | .workSend _ | .deliver _ | .receive .. | .failReceive | .workLife | .wake _ | .judge | .heed
  | .stop => none

/-- What a session over datagrams does, with a handler or without one. -/
def protocol (registered : Bool) : Protocol Session Action Bytes Bytes where
  step := fun session action => session.step registered action
  told := told
  stop := .stop
  starts := fun session action =>
    match action with
    | .start now => (session.start now).isOk
    | _ => false
  phase := Session.phase
  remote := fun session => session.card.remote
  prepare := fun session data =>
    match session.tooLarge? data with
    | some error => .error error
    | none => .ok data
  enqueue := fun session data => (session.submit data).map Prod.fst
  giveUp := fun session error => session.conclude (some error)

/-- Runs everything that a session has to do while nobody else does anything. -/
def settle (session : Session) (registered : Bool) (transmit : Bytes → Except IoFailure Nat) :
    Session :=
  ((session.workSends transmit).workLives registered).heed

/-- The description of a session. -/
def text (session : Session) : String :=
  s!"UdpSession \x7b id: SessionId({session.card.id.number}), remote: {session.card.remote}, " ++
    s!"state: {session.phase.name}, owns_socket: {session.ownsSocket} \x7d"

end Session

end PeerNet.Udp
