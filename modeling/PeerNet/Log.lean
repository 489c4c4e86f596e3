import PeerNet.Error

/-!
# Log lines

A line of the log has a level and a message. A teardown runs all of its steps, whatever becomes of
each: the outcome of a step is logged, and `Log.teardownStep` says whether it succeeded.
-/

namespace PeerNet.Log

/-- How much a line matters. -/
inductive Level where
  | trace
  | debug
  | info
  | warn
  | error
  deriving DecidableEq, Repr

/-- The name of a level. -/
def Level.name : Level → String
  | .trace => "trace"
  | .debug => "debug"
  | .info => "info"
  | .warn => "warn"
  | .error => "error"

/-- A line of the log. -/
structure Line where
  /-- How much it matters. -/
  level : Level
  /-- What it says. -/
  message : String
  deriving DecidableEq, Repr

/-- The log line for one step of the teardown of `owner`, and whether the step succeeded. -/
def teardownStep (owner step : String) : Except Error Unit → Bool × Line
  | .ok () => (true, ⟨.trace, s!"{owner} teardown step {step} done"⟩)
  | .error fault => (false, ⟨.warn, s!"{owner} teardown step {step} failed: {fault.message}"⟩)

end PeerNet.Log
