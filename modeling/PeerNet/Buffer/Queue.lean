import PeerNet.Bytes
import PeerNet.Buffer.Fault

/-!
# A queue of bytes

Bytes are appended in two steps: an area behind the queue is prepared and filled, and then its front
part joins the queue while the rest is dropped. Bytes leave at the front. A prepared area that was
never committed lies open again when the next one is prepared over it.

`QueueWriter` grants areas of one size that join the queue at once, and takes back their ends.
-/

namespace PeerNet.Buffer

/-- A queue of bytes with a prepared area behind it. -/
structure ByteQueue where
  /-- The bytes of the queue and of the prepared area. -/
  storage : Bytes
  /-- The size of the prepared area. -/
  prepared : Nat
  deriving DecidableEq, Repr

namespace ByteQueue

/-- The queue without a byte. -/
def empty : ByteQueue := ⟨[], 0⟩

/-- The number of bytes in the queue. -/
def length (queue : ByteQueue) : Nat := queue.storage.length - queue.prepared

/-- The bytes in the queue. -/
def contents (queue : ByteQueue) : Bytes := queue.storage.take queue.length

/-- Whether the queue has no byte. -/
def isEmpty (queue : ByteQueue) : Bool := queue.length == 0

/-- Prepares an area of `size` bytes and writes `fill` over its front, as much as there is room for.
Gives the area as it was before: what an earlier area held is still there, and what is new is
zero. -/
def prepare (queue : ByteQueue) (size : Nat) (fill : Bytes) : ByteQueue × Bytes :=
  let area := (queue.storage.drop queue.length ++ Bytes.zeros (size - queue.prepared)).take size
  (⟨queue.contents ++ Bytes.overwrite area 0 (fill.take size), size⟩, area)

/-- Appends the first `count` bytes of the prepared area, all if it has fewer, and drops the rest.
-/
def commit (queue : ByteQueue) (count : Nat) : ByteQueue :=
  ⟨queue.storage.take (queue.length + min count queue.prepared), 0⟩

/-- Drops the first `count` bytes of the queue, all if it has fewer. -/
def consume (queue : ByteQueue) (count : Nat) : ByteQueue :=
  { queue with storage := queue.storage.drop (min count queue.length) }

/-- Takes all bytes out. -/
def split (queue : ByteQueue) : ByteQueue × Bytes := (empty, queue.contents)

/-- Drops the last `count` bytes of the queue, all if it has fewer, and the prepared area. -/
def uncommit (queue : ByteQueue) (count : Nat) : ByteQueue :=
  ⟨queue.storage.take (queue.length - min count queue.length), 0⟩

example : ((empty.prepare 4 [1, 2, 3, 4]).1.commit 2).contents = [1, 2] := rfl

end ByteQueue

/-- A writer at the end of a queue. -/
structure QueueWriter where
  /-- The queue. -/
  queue : ByteQueue
  /-- The size of a grant, never zero. -/
  blockSize : Nat
  /-- The size of the last grant, as long as part of it may be given back. -/
  lastGrant : Option Nat
  /-- How many bytes were written. -/
  byteCount : Nat
  deriving DecidableEq, Repr

namespace QueueWriter

/-- A writer with grants of `blockSize` bytes; zero counts as one. -/
def start (queue : ByteQueue) (blockSize : Nat) : QueueWriter := ⟨queue, max blockSize 1, none, 0⟩

/-- Appends a whole area and writes `fill` over its front, as much as there is room for. Gives the
area as it was before. -/
def grant (writer : QueueWriter) (fill : Bytes) : QueueWriter × Bytes :=
  let (prepared, area) := writer.queue.prepare writer.blockSize fill
  ({ writer with
      queue := prepared.commit writer.blockSize
      lastGrant := some writer.blockSize
      byteCount := writer.byteCount + writer.blockSize },
    area)

/-- Gives back the last `count` bytes of the last grant. Once, and directly after the grant. -/
def backUp (writer : QueueWriter) (count : Nat) : Except Fault QueueWriter :=
  match writer.lastGrant with
  | none => .error .backUpWithoutGrant
  | some grant =>
    if grant < count then .error (.backUpPastGrant count grant)
    else
      .ok { writer with
        queue := writer.queue.uncommit count
        lastGrant := none
        byteCount := writer.byteCount - count }

/-- Copies `bytes` into one grant, as many as fit, and gives back the rest of the grant. The number
is how many were copied. -/
def write (writer : QueueWriter) (bytes : Bytes) : QueueWriter × Nat :=
  if bytes.isEmpty then (writer, 0)
  else
    let (granted, area) := writer.grant bytes
    let copied := min area.length bytes.length
    match granted.backUp (area.length - copied) with
    | .ok after => (after, copied)
    | .error _ => (granted, 0)

/-- Copies all of `bytes`. -/
def writeAll (writer : QueueWriter) (bytes : Bytes) : QueueWriter :=
  if bytes.isEmpty then writer
  else
    let (after, copied) := writer.write bytes
    if copied = 0 then after
    else after.writeAll (bytes.drop copied)
termination_by bytes.length
decreasing_by
  rename_i hne hcopied
  simp only [List.isEmpty_iff] at hne
  have hpos : 0 < bytes.length := List.length_pos_iff.2 hne
  simp only [List.length_drop]
  omega

end QueueWriter

end PeerNet.Buffer
