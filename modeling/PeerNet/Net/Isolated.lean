import PeerNet.Endpoint.Basic
import PeerNet.IoFailure

/-!
# A host without a route

A host whose interfaces are down: sockets can be bound to its addresses and keep each other from
binding them twice, but nothing leaves it. What an operation fails with is checked in a fixed order:
first what is wrong with the operation itself, last that no route leads anywhere.
-/

namespace PeerNet.Net

/-- The protocols that sockets are for. -/
inductive Protocol where
  /-- Datagrams. -/
  | udp
  /-- Streams. -/
  | tcp
  deriving DecidableEq, Repr

/-- A host without a route. -/
structure Isolated where
  /-- The endpoints that are bound. -/
  bound : List (Protocol × Endpoint)
  /-- The next port to give to a socket that asks for any. -/
  nextPort : UInt16
  deriving DecidableEq, Repr

namespace Isolated

/-- The first port that is given to sockets that ask for any. -/
def firstPort : UInt16 := 32768

/-- A host on which nothing is bound. -/
def start : Isolated := ⟨[], firstPort⟩

/-- Whether an address is one of the host's, or stands for all of them. -/
def isLocal (endpoint : Endpoint) : Bool := endpoint.isLoopback || endpoint.isUnspecified

/-- Whether two endpoints cannot be bound at the same time. -/
def conflicts (x y : Endpoint) : Bool :=
  x.port == y.port && (x.isUnspecified || y.isUnspecified || x.sameAddress y)

/-- Whether an endpoint is free. -/
def isFree (host : Isolated) (protocol : Protocol) (endpoint : Endpoint) : Bool :=
  host.bound.all fun entry => !(entry.1 == protocol && conflicts entry.2 endpoint)

/-- The first free port from `port` on, at most `tries` away. -/
def freePort (host : Isolated) (protocol : Protocol) (endpoint : Endpoint) :
    (tries : Nat) → UInt16 → Option UInt16
  | 0, _ => none
  | tries + 1, port =>
    if host.isFree protocol (endpoint.withPort port) then some port
    else
      freePort host protocol endpoint tries (if port = 65535 then firstPort else port + 1)

/-- Binds a socket, to any free port if the endpoint has none. Gives the endpoint that was bound. -/
def bind (host : Isolated) (protocol : Protocol) (endpoint : Endpoint) :
    Except IoFailure (Isolated × Endpoint) :=
  if !isLocal endpoint then .error .addressNotAvailable
  else if endpoint.port = 0 then
    match host.freePort protocol endpoint 32768 host.nextPort with
    | none => .error .addressInUse
    | some port =>
      let endpoint := endpoint.withPort port
      .ok (⟨(protocol, endpoint) :: host.bound, if port = 65535 then firstPort else port + 1⟩,
        endpoint)
  else if host.isFree protocol endpoint then
    .ok ({ host with bound := (protocol, endpoint) :: host.bound }, endpoint)
  else .error .addressInUse

/-- Releases an endpoint. -/
def release (host : Isolated) (protocol : Protocol) (endpoint : Endpoint) : Isolated :=
  { host with bound := host.bound.erase (protocol, endpoint) }

/-- The largest datagram that can be described to the network at all. -/
def maxDatagram : Nat := 65535

/-- Why a datagram of `length` bytes does not get from one endpoint to another. -/
def datagramFailure (origin remote : Endpoint) (length : Nat) : IoFailure :=
  if maxDatagram < length then .messageTooLong
  else if origin.isV4 && !remote.isV4 then .familyNotSupported
  else if remote.port = 0 then .invalidArgument
  else .networkUnreachable

/-- Why a stream to an endpoint does not open. -/
def streamFailure (_remote : Endpoint) : IoFailure := .networkUnreachable

end Isolated

end PeerNet.Net
