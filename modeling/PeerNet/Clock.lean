/-!
# Ticking clocks

Time is counted in milliseconds. A ticker falls due once in every period; a tick that is taken late
moves the later ones, so that no two ticks are less than a period apart.
-/

namespace PeerNet

/-- A clock that ticks. -/
structure Ticker where
  /-- The time between two ticks. -/
  period : Nat
  /-- When the next tick falls due. -/
  due : Nat
  deriving DecidableEq, Repr

namespace Ticker

/-- How late a tick may be taken without moving the later ones. -/
def tolerance : Nat := 5

/-- A ticker whose first tick falls due one period from now. -/
def start (now period : Nat) : Ticker := ⟨period, now + period⟩

/-- Whether a tick is due. -/
def isDue (ticker : Ticker) (now : Nat) : Bool := ticker.due ≤ now

/-- Takes a tick that is due. -/
def take (ticker : Ticker) (now : Nat) : Ticker :=
  { ticker with
    due := (if ticker.due + tolerance < now then now else ticker.due) + ticker.period }

end Ticker

end PeerNet
