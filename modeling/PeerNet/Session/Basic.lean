import PeerNet.Endpoint.Basic

/-!
# Sessions

A session is a conversation with one peer. It has a number that no other session has, and goes
through the phases created, running, stopping and stopped in this order.
-/

namespace PeerNet

/-- The number of a session. -/
structure SessionId where
  /-- The number. -/
  number : Nat
  deriving DecidableEq, Repr

namespace SessionId

/-- The number with a sign in front. -/
def text (id : SessionId) : String := s!"#{id.number}"

instance : ToString SessionId := ⟨text⟩

/-- The next number. -/
def next (id : SessionId) : SessionId := ⟨id.number + 1⟩

end SessionId

/-- The phases of a session. -/
inductive Phase where
  /-- It is there but has not started. -/
  | created
  /-- It takes and sends messages. -/
  | running
  /-- It is being torn down. -/
  | stopping
  /-- It is gone. -/
  | stopped
  deriving DecidableEq, Repr

namespace Phase

/-- The name of a phase. -/
def name : Phase → String
  | created => "Created"
  | running => "Running"
  | stopping => "Stopping"
  | stopped => "Stopped"

/-- The number of a phase, its place in the order. -/
def code : Phase → Nat
  | created => 0
  | running => 1
  | stopping => 2
  | stopped => 3

/-- The phase with this number; past the last one a session is gone. -/
def ofCode : Nat → Phase
  | 0 => created
  | 1 => running
  | 2 => stopping
  | _ => stopped

end Phase

/-- What a pool knows of a session: its number and its peer. -/
structure Card where
  /-- The number. -/
  id : SessionId
  /-- The peer. -/
  remote : Endpoint
  deriving DecidableEq, Repr

end PeerNet
