import PeerNet.Config.Settings
import PeerNet.Log
import PeerNet.Service.Shutdown

/-!
# The executor

The executor owns the worker threads and the services on them. Services are registered, then started
in this order; when one cannot start, those that were started before it are stopped again, the last
one first, and the ones after it are given up. When a stop is requested the services that run are
stopped, the last one first.

`Executor.journal` records what became of every service.
-/

namespace PeerNet.Service

open Config (ExecutorSettings)

/-- A service, as far as the executor knows it. -/
structure Entry where
  /-- Its name. -/
  name : String
  /-- Why it cannot start, if it cannot. -/
  refusal : Option Error
  /-- Whether it requests a stop of the executor while it starts. -/
  requestsStop : Bool
  deriving DecidableEq, Repr

/-- A service that was registered. -/
structure Registration extends Entry where
  /-- How many services were registered before it; this tells it from others of its name. -/
  number : Nat
  deriving DecidableEq, Repr

/-- What the executor does to a service. -/
inductive Event where
  /-- The start of a service was tried. -/
  | start (service : Registration)
  /-- A service was stopped. -/
  | stop (service : Registration)
  deriving DecidableEq, Repr

/-- The text of an event. -/
def Event.text : Event → String
  | .start service => s!"start {service.name}"
  | .stop service => s!"stop {service.name}"

/-- The executor. -/
structure Executor where
  /-- Its settings. -/
  settings : ExecutorSettings
  /-- The services that were registered, in this order. -/
  registered : List Registration
  /-- The services that are yet to be started, in the order of their registration. -/
  pending : List Registration
  /-- The services that run, the last one started first. -/
  started : List Registration
  /-- The request to stop. -/
  signal : StopSignal
  /-- What became of the services, the last event first. -/
  journal : List Event
  /-- The log, the last line first. -/
  log : List Log.Line
  deriving DecidableEq, Repr

namespace Executor

/-- Writes a line into the log. -/
def logLine (executor : Executor) (level : Log.Level) (message : String) : Executor :=
  { executor with log := ⟨level, message⟩ :: executor.log }

/-- An executor without services. -/
def new (settings : ExecutorSettings) : Executor :=
  let settings := settings.verify
  let executor : Executor := ⟨settings, [], [], [], .start, [], []⟩
  executor.logLine .info s!"executor started with {settings.threads} worker threads"

/-- Registers a service. -/
def register (executor : Executor) (entry : Entry) : Executor :=
  let service : Registration := ⟨entry, executor.registered.length⟩
  { executor with
    registered := executor.registered ++ [service]
    pending := executor.pending ++ [service] }

/-- The first stretch of a request to stop: raises the flag, and says whether it was down. Only this
is told. -/
def raiseStop (executor : Executor) : Executor × Bool :=
  match executor.signal.raise with
  | (signal, true) =>
    ({ executor with signal := signal }.logLine .debug "executor stop requested", true)
  | (signal, false) => ({ executor with signal := signal }, false)

/-- The second stretch, if the flag was down: sends the value. -/
def announceStop (executor : Executor) : Executor :=
  { executor with signal := executor.signal.announce }

/-- Requests a stop. -/
def requestStop (executor : Executor) : Executor :=
  match executor.raiseStop with
  | (executor, true) => executor.announceStop
  | (executor, false) => executor

/-- Looks for the value of a request, and says whether there is one. -/
def pollStop (executor : Executor) : Executor × Bool :=
  let (shutdown, ready) := executor.signal.shutdown.poll
  ({ executor with signal := { executor.signal with shutdown := shutdown } }, ready)

/-- Stops the services that run, the last one started first. -/
def stopServices (executor : Executor) : Executor :=
  { executor with
    started := []
    journal := (executor.started.map Event.stop).reverse ++ executor.journal }

/-- Has a service start, which may request a stop on the way. -/
def tryService (executor : Executor) (index : Nat) (service : Registration) : Executor :=
  let executor := executor.logLine .trace s!"executor starting service {index}"
  let executor := { executor with journal := .start service :: executor.journal }
  if service.requestsStop then executor.requestStop else executor

/-- Tries to start a service. -/
def startService (executor : Executor) (index : Nat) (service : Registration) :
    Executor × Except Error Unit :=
  let executor := executor.tryService index service
  match service.refusal with
  | none => ({ executor with started := service :: executor.started }, .ok ())
  | some error =>
    let executor := executor.logLine .error
      s!"executor failed to start service {index}: {error.message}"
    (executor.stopServices, .error error)

/-- Starts services in order, up to the first that cannot start. -/
def startAll (executor : Executor) (index : Nat) : List Registration → Executor × Except Error Unit
  | [] => (executor, .ok ())
  | service :: rest =>
    match executor.startService index service with
    | (executor, .ok ()) => executor.startAll (index + 1) rest
    | (executor, .error error) => (executor, .error error)

/-- The error of an operation that would block a worker thread. -/
def insideError (operation : String) : Error :=
  .illegalState s!"executor {operation} would block a tokio runtime thread"

/-- Starts the pending services. Refused on a worker thread, which would be blocked. -/
def start (executor : Executor) (onWorker : Bool) : Executor × Except Error Unit :=
  if onWorker then (executor, .error (insideError "start"))
  else
    match { executor with pending := [] }.startAll 0 executor.pending with
    | (executor, .ok ()) =>
      (executor.logLine .info s!"executor started {executor.started.length} services", .ok ())
    | (executor, .error error) => (executor, .error error)

/-- Drops the executor. Services that run are not stopped. -/
def drop (executor : Executor) : Executor := executor.logLine .debug "executor dropped"

/-- Waits for a request to stop, which comes by another hand if it has not come yet; then stops the
services and drops the executor. Refused on a worker thread, but the executor is dropped all the
same. -/
def join (executor : Executor) (onWorker : Bool) : Executor × Except Error Unit :=
  if onWorker then (executor.drop, .error (insideError "join"))
  else
    let executor :=
      if executor.signal.raised then executor
      else executor.requestStop.pollStop.1.logLine .info "executor received stop request"
    let executor := executor.requestStop.stopServices
    ((executor.logLine .info "executor shutdown complete").drop, .ok ())

/-- The description of an executor. -/
def text (executor : Executor) : String :=
  s!"Executor \x7b cfg: {executor.settings.listing.line}, " ++
    s!"pending_services: {executor.pending.length}, " ++
    s!"started_services: {executor.started.length}, stopped: {executor.signal.raised} \x7d"

end Executor

end PeerNet.Service
