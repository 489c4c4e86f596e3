import PeerNet.Bytes
import PeerNet.IoFailure

/-!
# Buffered writing to a socket

An outlet collects small writes in a buffer and gives them to the socket when the buffer would
overflow, or when it is flushed. The socket takes as many bytes at a time as it likes. A writer may
give up where it waits for the socket; what it has put into the buffer stays there.

`Outlet.step` is one stretch of a writer: it moves bytes into the buffer, or offers bytes to the
socket once. `Outlet.needsSocket` tells which of the two it is.
-/

namespace PeerNet.Tcp

/-- What a socket does with bytes that it is offered. -/
inductive Acceptance where
  /-- It takes at most this many. -/
  | took (count : Nat)
  /-- It fails. -/
  | failed (failure : IoFailure)
  deriving DecidableEq, Repr

/-- A buffer in front of a socket. -/
structure Outlet where
  /-- The bytes in the buffer. -/
  buffer : Bytes
  /-- How many of them the socket has taken. -/
  flushed : Nat
  /-- All bytes that the socket has taken. -/
  wire : Bytes
  /-- How the socket failed, if it did. It then takes no byte any more. -/
  broken : Option IoFailure
  deriving DecidableEq, Repr

namespace Outlet

/-- The size of the buffer. -/
def capacity : Nat := 8192

/-- An outlet through which nothing has gone yet. -/
def start : Outlet := ⟨[], 0, [], none⟩

/-- Offers bytes to the socket. Gives how many it took. -/
def offer (outlet : Outlet) (bytes : Bytes) (acceptance : Acceptance) :
    Outlet × Except IoFailure Nat :=
  match outlet.broken, acceptance with
  | some failure, _ => (outlet, .error failure)
  | none, .failed failure => ({ outlet with broken := some failure }, .error failure)
  | none, .took count =>
    ({ outlet with wire := outlet.wire ++ bytes.take count }, .ok (min count bytes.length))

/-- What is left to do of a write, and what became of it. -/
inductive Progress where
  /-- These blocks are to be written, and then the buffer is to be flushed. -/
  | writing (blocks : List Bytes)
  /-- All is written and flushed. -/
  | done
  /-- The socket has failed. -/
  | failed (failure : IoFailure)
  deriving DecidableEq, Repr

/-- Offers the rest of the buffer to the socket, and empties the buffer when all of it was taken. -/
def drain (outlet : Outlet) (acceptance : Acceptance) : Outlet × Except IoFailure Unit :=
  match outlet.offer (outlet.buffer.drop outlet.flushed) acceptance with
  | (outlet, .error failure) => (outlet, .error failure)
  | (outlet, .ok count) =>
    if outlet.buffer.length ≤ outlet.flushed + count then
      ({ outlet with buffer := [], flushed := 0 }, .ok ())
    else ({ outlet with flushed := outlet.flushed + count }, .ok ())

/-- One stretch of a writer that has these blocks yet to write. -/
def step (outlet : Outlet) (acceptance : Acceptance) : List Bytes → Outlet × Progress
  | [] =>
    if outlet.buffer.isEmpty then (outlet, .done)
    else
      match outlet.drain acceptance with
      | (outlet, .error failure) => (outlet, .failed failure)
      | (outlet, .ok ()) => (outlet, .writing [])
  | block :: rest =>
    if block.isEmpty then (outlet, .writing rest)
    else if !outlet.buffer.isEmpty && capacity < outlet.buffer.length + block.length then
      match outlet.drain acceptance with
      | (outlet, .error failure) => (outlet, .failed failure)
      | (outlet, .ok ()) => (outlet, .writing (block :: rest))
    else if capacity ≤ block.length then
      match outlet.offer block acceptance with
      | (outlet, .error failure) => (outlet, .failed failure)
      | (outlet, .ok count) => (outlet, .writing (block.drop count :: rest))
    else ({ outlet with buffer := outlet.buffer ++ block }, .writing rest)

/-- Whether the next stretch of a writer that has these blocks yet to write offers bytes to the
socket. If it does not, the writer goes on without a pause. -/
def needsSocket (outlet : Outlet) : List Bytes → Bool
  | [] => !outlet.buffer.isEmpty
  | block :: _ =>
    !block.isEmpty &&
      (!outlet.buffer.isEmpty && capacity < outlet.buffer.length + block.length ||
        capacity ≤ block.length)

end Outlet

end PeerNet.Tcp
