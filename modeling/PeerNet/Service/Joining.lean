import PeerNet.Service.Executor

/-!
# Joining an executor

Whoever joins an executor looks at the flag first, and if it is down waits for the value, or for an
interrupt of the process. Then it requests a stop itself, stops the services and is done. Others may
request a stop at any time, and between the raising of the flag and the sending of the value anybody
else may go on.

`Joint.act` is one stretch of somebody. `Executor.join` is what it comes to when the request of
another, if there is one, comes in between once.
-/

namespace PeerNet.Service

/-- How far a request to stop has come, if it has done anything. -/
inductive Request where
  /-- It has raised the flag. If it was the first it has yet to send the value. -/
  | raised (first : Bool)
  /-- It has returned. -/
  | returned (first : Bool)
  deriving DecidableEq, Repr

/-- How far the one who joins has come. -/
inductive Stage where
  /-- It has not looked at the flag. -/
  | entering
  /-- It waits for the value, and for an interrupt if it can hear of one. -/
  | waiting (interruptible : Bool)
  /-- It is to request a stop. -/
  | awake
  /-- It has raised the flag. If it was the first it has yet to send the value. -/
  | raised (first : Bool)
  /-- It stops the services. -/
  | stopping
  /-- It is done. -/
  | joined
  deriving DecidableEq, Repr

/-- An executor that is being joined. -/
structure Joint where
  /-- The executor. -/
  executor : Executor
  /-- The requests to stop, in the order in which they came. -/
  requests : List Request
  /-- How far the one who joins has come. -/
  stage : Stage
  deriving DecidableEq, Repr

namespace Joint

/-- What may happen next. -/
inductive Action where
  /-- Somebody requests a stop, and raises the flag. -/
  | request
  /-- A request that has raised the flag returns. -/
  | answer (index : Nat)
  /-- The process is interrupted, or it turns out that interrupts cannot be heard of. -/
  | interrupt (failure : Option IoFailure)
  /-- The one who joins goes on. -/
  | proceed
  deriving DecidableEq, Repr

/-- The executor of a request that returns. -/
def finish (executor : Executor) (first : Bool) : Executor :=
  if first then executor.announceStop else executor

/-- A stretch of the one who joins. -/
def proceed (joint : Joint) : Joint :=
  match joint.stage with
  | .entering =>
    { joint with stage := if joint.executor.signal.raised then .awake else .waiting true }
  | .waiting interruptible =>
    match joint.executor.pollStop with
    | (executor, false) => { joint with executor := executor }
    | (executor, true) =>
      let executor :=
        if interruptible then executor.logLine .info "executor received stop request" else executor
      { joint with executor := executor, stage := .awake }
  | .awake =>
    let (executor, first) := joint.executor.raiseStop
    { joint with executor := executor, stage := .raised first }
  | .raised first => { joint with executor := finish joint.executor first, stage := .stopping }
  | .stopping =>
    match joint.executor.started with
    | service :: rest =>
      { joint with
        executor := { joint.executor with
          started := rest, journal := .stop service :: joint.executor.journal } }
    | [] =>
      { joint with
        executor := (joint.executor.logLine .info "executor shutdown complete").drop
        stage := .joined }
  | .joined => joint

/-- A stretch of somebody. What makes no sense now makes no difference. -/
def act (joint : Joint) : Action → Joint
  | .request =>
    let (executor, first) := joint.executor.raiseStop
    { joint with executor := executor, requests := joint.requests ++ [.raised first] }
  | .answer index =>
    match joint.requests[index]? with
    | some (.raised first) =>
      { joint with
        executor := finish joint.executor first
        requests := joint.requests.set index (.returned first) }
    | _ => joint
  | .interrupt failure =>
    match joint.stage, failure with
    | .waiting true, none =>
      { joint with
        executor := joint.executor.logLine .info "get shutdown signal", stage := .awake }
    | .waiting true, some failure =>
      { joint with
        executor := joint.executor.logLine .error s!"unable to listen for ctrl-c: {failure.text}"
        stage := .waiting false }
    | _, _ => joint
  | .proceed => joint.proceed

/-- Runs a schedule. -/
def run (joint : Joint) (schedule : List Action) : Joint := schedule.foldl act joint

end Joint

/-- An executor that somebody is about to join. -/
def Executor.enterJoin (executor : Executor) : Joint := ⟨executor, [], .entering⟩

end PeerNet.Service
