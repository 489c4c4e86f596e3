/-!
# Requests to stop

A request to stop is one value on a broadcast channel. The channel keeps a bounded number of values;
a receiver that has missed some of them, or whose sender is gone, learns of that at once, and takes
it for a request too. Once seen, a request stays seen.

`StopSignal` is a flag that is raised once, with the value sent by the one who raised it.
-/

namespace PeerNet.Service

/-- A channel from one sender to one receiver that keeps a bounded number of values. -/
structure Broadcast where
  /-- How many values it keeps. -/
  capacity : Nat
  /-- How many values were sent. -/
  sent : Nat
  /-- How many of them the receiver has taken or missed. -/
  seen : Nat
  /-- Whether there is no sender any more. -/
  senderGone : Bool
  deriving DecidableEq, Repr

/-- What a receiver finds on the channel. -/
inductive Received where
  /-- A value. -/
  | value
  /-- It has missed values. -/
  | lagged (missed : Nat)
  /-- There is none, and there will be none. -/
  | closed
  /-- There is none yet. -/
  | pending
  deriving DecidableEq, Repr

namespace Broadcast

/-- A channel that keeps at least `capacity` values: the next power of two. -/
def start (capacity : Nat) : Broadcast := ⟨capacity.nextPowerOfTwo, 0, 0, false⟩

/-- The channel, as it is for a receiver that is there from now on. -/
def subscribe (channel : Broadcast) : Broadcast := { channel with seen := channel.sent }

/-- Sends a value, unless the sender is gone. -/
def send (channel : Broadcast) : Broadcast :=
  if channel.senderGone then channel else { channel with sent := channel.sent + 1 }

/-- Drops the sender. -/
def dropSender (channel : Broadcast) : Broadcast := { channel with senderGone := true }

/-- Looks for the next value. -/
def poll (channel : Broadcast) : Broadcast × Received :=
  let waiting := channel.sent - channel.seen
  if channel.capacity < waiting then
    ({ channel with seen := channel.sent - channel.capacity }, .lagged (waiting - channel.capacity))
  else if 0 < waiting then ({ channel with seen := channel.seen + 1 }, .value)
  else (channel, if channel.senderGone then .closed else .pending)

end Broadcast

/-- A receiver that waits for a request to stop. -/
structure Shutdown where
  /-- The channel. -/
  channel : Broadcast
  /-- Whether a request was seen. -/
  seen : Bool
  deriving DecidableEq, Repr

namespace Shutdown

/-- A receiver that has seen nothing yet. -/
def start (channel : Broadcast) : Shutdown := ⟨channel, false⟩

/-- Looks for a request, and says whether there is one. -/
def poll (shutdown : Shutdown) : Shutdown × Bool :=
  if shutdown.seen then (shutdown, true)
  else
    match shutdown.channel.poll with
    | (channel, .pending) => (⟨channel, false⟩, false)
    | (channel, _) => (⟨channel, true⟩, true)

end Shutdown

/-- A flag that is raised once, and the channel on which this is told. -/
structure StopSignal where
  /-- Whether a stop was requested. -/
  raised : Bool
  /-- The receiver that waits for the request. -/
  shutdown : Shutdown
  deriving DecidableEq, Repr

namespace StopSignal

/-- A signal that is not raised, with a channel for one value. -/
def start : StopSignal := ⟨false, .start (.start 1)⟩

/-- Raises the flag, and says whether it was down. -/
def raise (signal : StopSignal) : StopSignal × Bool :=
  ({ signal with raised := true }, !signal.raised)

/-- Sends the value. -/
def announce (signal : StopSignal) : StopSignal :=
  { signal with shutdown.channel := signal.shutdown.channel.send }

end StopSignal

end PeerNet.Service
