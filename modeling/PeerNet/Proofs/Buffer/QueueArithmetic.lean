import PeerNet.Proofs.Buffer.QueueParts
import PeerNet.Proofs.Buffer.ReaderArithmetic

/-!
# The arithmetic of a queue

Natural subtraction stops at zero, and a string has a front of any length. Here the operations of a
queue and its writer are written as a machine does them: subtractions and cuts give up where they
are not possible, a grant is filled after it was appended, and the size of the area is not looked at
where the program does not look at it. They never give up, and are the operations of the library.

* **A queue** (`Parts.neverGivesUp`).
* **A writer** (`QueueWriter.Agrees.neverGivesUp`).
-/

namespace PeerNet

namespace Bytes

/-- The front of a string, if it has as many bytes. -/
def front? (bytes : Bytes) (count : Nat) : Option Bytes :=
  if count ≤ bytes.length then some (bytes.take count) else none

/-- What stands behind so many bytes, if there are as many. -/
def behind? (bytes : Bytes) (count : Nat) : Option Bytes :=
  if count ≤ bytes.length then some (bytes.drop count) else none

/-- The string cut to a length, or with zeros behind it. -/
def resize (bytes : Bytes) (length : Nat) : Bytes :=
  bytes.take length ++ zeros (length - bytes.length)

/-- The front of two pieces, as long as the first, is the first. -/
theorem front?_append (front back : Bytes) : (front ++ back).front? front.length = some front := by
  rw [front?, if_pos (by rw [List.length_append]; exact Nat.le_add_right _ _), List.take_left]

/-- What is behind the length of the first of two pieces is the second. -/
theorem behind?_append (front back : Bytes) : (front ++ back).behind? front.length = some back := by
  rw [behind?, if_pos (by rw [List.length_append]; exact Nat.le_add_right _ _), List.drop_left]

end Bytes

namespace Buffer

open Reader (minus minus_of_le)

/-! ### Operations that may give up -/

namespace ByteQueue

/-- The number of bytes in the queue. -/
def length? (queue : ByteQueue) : Option Nat := minus queue.storage.length queue.prepared

/-- The bytes in the queue. -/
def contents? (queue : ByteQueue) : Option Bytes := do
  let committed ← queue.length?
  queue.storage.front? committed

/-- Prepares an area of `size` bytes and writes `fill` over its front. Gives the area as it was
before. -/
def prepare? (queue : ByteQueue) (size : Nat) (fill : Bytes) : Option (ByteQueue × Bytes) := do
  let committed ← queue.length?
  let storage := queue.storage.resize (committed + size)
  let area ← storage.behind? committed
  return (⟨storage.overwrite committed (fill.take area.length), size⟩, area)

/-- Appends the first `count` bytes of the prepared area. -/
def commit? (queue : ByteQueue) (count : Nat) : Option ByteQueue := do
  let committed ← queue.length?
  return ⟨queue.storage.take (committed + min count queue.prepared), 0⟩

/-- Drops the first `count` bytes of the queue. -/
def consume? (queue : ByteQueue) (count : Nat) : Option ByteQueue := do
  let committed ← queue.length?
  let storage ← queue.storage.behind? (min count committed)
  return { queue with storage := storage }

/-- Takes all bytes out. -/
def split? (queue : ByteQueue) : Option (ByteQueue × Bytes) := do
  let committed ← queue.length?
  let taken ← queue.storage.front? committed
  return (⟨[], 0⟩, taken)

/-- Drops the last `count` bytes of the queue. -/
def uncommit? (queue : ByteQueue) (count : Nat) : Option ByteQueue := do
  let committed ← queue.length?
  let left ← minus committed (min count committed)
  return ⟨queue.storage.take left, 0⟩

/-- No operation gives up. -/
structure NeverGivesUp (queue : ByteQueue) : Prop where
  /-- The number of bytes. -/
  length : queue.length? = some queue.length
  /-- The bytes. -/
  contents : queue.contents? = some queue.contents
  /-- Preparing. -/
  prepare : ∀ size fill, queue.prepare? size fill = some (queue.prepare size fill)
  /-- Appending. -/
  commit : ∀ count, queue.commit? count = some (queue.commit count)
  /-- Dropping bytes at the front. -/
  consume : ∀ count, queue.consume? count = some (queue.consume count)
  /-- Taking all bytes out. -/
  split : queue.split? = some queue.split
  /-- Dropping bytes at the end. -/
  uncommit : ∀ count, queue.uncommit? count = some (queue.uncommit count)

end ByteQueue

namespace QueueWriter

/-- Appends a whole area and then writes `fill` over its front. Gives the area as it was before. -/
def grant? (writer : QueueWriter) (fill : Bytes) : Option (QueueWriter × Bytes) := do
  let (prepared, _) ← writer.queue.prepare? writer.blockSize []
  let queue ← prepared.commit? writer.blockSize
  let length ← queue.length?
  let start ← minus length writer.blockSize
  let region ← (← queue.storage.front? length).behind? start
  return ({ writer with
      queue := { queue with storage := queue.storage.overwrite start (fill.take region.length) }
      lastGrant := some writer.blockSize
      byteCount := writer.byteCount + writer.blockSize },
    region)

/-- Gives back the last `count` bytes of the last grant. -/
def backUp? (writer : QueueWriter) (count : Nat) : Option (Except Fault QueueWriter) :=
  match writer.lastGrant with
  | none => some (.error .backUpWithoutGrant)
  | some grant =>
    if count ≤ grant then do
      let queue ← writer.queue.uncommit? count
      let byteCount ← minus writer.byteCount count
      return .ok { writer with queue := queue, lastGrant := none, byteCount := byteCount }
    else some (.error (.backUpPastGrant count grant))

/-- Copies `bytes` into one grant, as many as fit, and gives back the rest of the grant. -/
def write? (writer : QueueWriter) (bytes : Bytes) : Option (QueueWriter × Nat) :=
  if bytes.isEmpty then some (writer, 0)
  else do
    let (granted, region) ← writer.grant? bytes
    let copied := min region.length bytes.length
    let left ← minus region.length copied
    match ← granted.backUp? left with
    | .ok after => return (after, copied)
    | .error _ => return (granted, 0)

/-- Copies all of `bytes`. -/
def writeAll? (writer : QueueWriter) (bytes : Bytes) : Option QueueWriter :=
  if bytes.isEmpty then some writer
  else
    match writer.write? bytes with
    | none => none
    | some (after, copied) =>
      if copied = 0 then some after
      else after.writeAll? (bytes.drop copied)
termination_by bytes.length
decreasing_by
  rename_i nonempty some
  have positive : 0 < bytes.length := List.length_pos_iff.mpr fun nil => nonempty (by rw [nil]; rfl)
  rw [List.length_drop]
  omega

/-- No operation gives up. -/
structure NeverGivesUp (writer : QueueWriter) : Prop where
  /-- A grant. -/
  grant : ∀ fill, writer.grant? fill = some (writer.grant fill)
  /-- Giving bytes back. -/
  backUp : ∀ count, writer.backUp? count = some (writer.backUp count)
  /-- Copying some bytes. -/
  write : ∀ bytes, writer.write? bytes = some (writer.write bytes)
  /-- Copying all bytes. -/
  writeAll : ∀ bytes, writer.writeAll? bytes = some (writer.writeAll bytes)

end QueueWriter

/-! ### They never give up -/

namespace Parts

variable (parts : Parts) (size count : Nat) (fill : Bytes)

/-- The storage of a queue is its readable bytes and the writable ones behind them. -/
theorem storage_queue : parts.queue.storage = parts.contents ++ parts.area := rfl

/-- The subtraction that gives the length never goes below zero. -/
theorem length?_queue : parts.queue.length? = some parts.contents.length := by
  rw [ByteQueue.length?, queue, List.length_append, minus_of_le (Nat.le_add_left _ _),
    Nat.add_sub_cancel]

/-- The string of a queue with room for an area. -/
theorem resize_queue : parts.queue.storage.resize (parts.contents.length + size) =
    parts.contents ++ parts.shown size := by
  rw [Bytes.resize, queue, List.length_append, Nat.add_sub_add_left, List.take_length_add_append,
    List.append_assoc, shown]

/-- Bytes are written over the front of what is shown behind the queue. -/
theorem overwrite_behind : Bytes.overwrite (parts.contents ++ parts.shown size)
      parts.contents.length (fill.take (parts.shown size).length) =
    parts.contents ++ (parts.prepare size fill).area := by
  have filled := Bytes.overwrite_take_drop (parts.contents ++ parts.shown size) fill
    parts.contents.length
  rwa [List.drop_left, List.take_left, overwrite_shown] at filled

/-- Preparing never gives up: it makes the area and returns the bytes shown. -/
theorem prepare?_queue :
    parts.queue.prepare? size fill = some ((parts.prepare size fill).queue, parts.shown size) := by
  simp only [ByteQueue.prepare?, length?_queue, resize_queue, Bytes.behind?_append,
    overwrite_behind, Option.bind_eq_bind, Option.bind_some]
  rw [queue, length_area_prepare]
  rfl

/-- Committing never gives up, however many bytes it is told. -/
theorem commit?_queue : parts.queue.commit? count = some (parts.commit count).queue := by
  rw [ByteQueue.commit?, length?_queue, ← commit_queue, ByteQueue.commit, length_queue]
  rfl

/-- Consuming never gives up, however many bytes it is told. -/
theorem consume?_queue : parts.queue.consume? count = some (parts.consume count).queue := by
  have inside : min count parts.contents.length ≤ parts.queue.storage.length := by
    rw [storage_queue, List.length_append]
    omega
  simp only [ByteQueue.consume?, length?_queue, Bytes.behind?, if_pos inside, ← consume_queue,
    ByteQueue.consume, length_queue, Option.bind_eq_bind, Option.bind_some]
  rfl

/-- Splitting never gives up: it takes all that is readable and leaves an empty queue. -/
theorem split?_queue : parts.queue.split? = some (empty.queue, parts.contents) := by
  simp only [ByteQueue.split?, length?_queue, storage_queue, Bytes.front?_append,
    Option.bind_eq_bind, Option.bind_some]
  rfl

/-- Taking a commit back never gives up. -/
theorem uncommit?_queue : parts.queue.uncommit? count = some (parts.uncommit count).queue := by
  simp only [ByteQueue.uncommit?, length?_queue, minus_of_le (Nat.min_le_right _ _),
    ← uncommit_queue, ByteQueue.uncommit, length_queue, Option.bind_eq_bind, Option.bind_some]
  rfl

/-- **No operation of a queue gives up.** -/
theorem neverGivesUp : parts.queue.NeverGivesUp where
  length := by rw [length?_queue, length_queue]
  contents := by
    simp only [ByteQueue.contents?, length?_queue, storage_queue, Bytes.front?_append,
      Option.bind_eq_bind, Option.bind_some, contents_queue]
  prepare size fill := by rw [prepare?_queue, prepare_queue]
  commit count := by rw [commit?_queue, commit_queue]
  consume count := by rw [consume?_queue, consume_queue]
  split := by rw [split?_queue, split_queue]
  uncommit count := by rw [uncommit?_queue, uncommit_queue]

end Parts

namespace QueueWriter

variable {base size : Nat} {writer : QueueWriter} {session : Session}

/-- A writer on a queue never gives up when it grants an area. -/
theorem Agrees.grant?_eq (agrees : Agrees base size writer session) (fill : Bytes) :
    writer.grant? fill = some (writer.grant fill) := by
  obtain ⟨queue, blockSize, -, -, -⟩ := agrees
  generalize session.parts = parts at queue
  -- the area is appended before it is filled, and then stands at the end of the queue
  have appended : (parts.prepare size []).commit size =
      ⟨parts.contents ++ parts.shown size, []⟩ := by
    rw [Parts.commit_prepare, ← Parts.overwrite_shown, Bytes.overwrite_nil]
  have all := Bytes.front?_append (parts.contents ++ parts.shown size) []
  rw [List.append_nil] at all
  have start : minus (parts.contents ++ parts.shown size).length size =
      some parts.contents.length := by
    rw [List.length_append, Parts.length_shown, minus_of_le (Nat.le_add_left _ _),
      Nat.add_sub_cancel]
  have region := Bytes.behind?_append parts.contents (parts.shown size)
  simp only [grant?, grant, queue, blockSize, Parts.prepare?_queue, Parts.commit?_queue, appended,
    Parts.length?_queue, start, Parts.storage_queue, all, region, List.append_nil,
    parts.overwrite_behind, Parts.prepare_queue, Parts.commit_queue, Parts.commit_prepare,
    Option.bind_eq_bind, Option.bind_some]
  simp only [Parts.queue, List.append_nil]
  rfl

/-- A writer on a queue never gives up when it backs up. -/
theorem Agrees.backUp?_eq (agrees : Agrees base size writer session) (count : Nat) :
    writer.backUp? count = some (writer.backUp count) := by
  rw [backUp?, backUp]
  cases opened : writer.lastGrant with
  | none => rfl
  | some grant =>
    have counted := agrees.grant_le grant (agrees.lastGrant_eq.symm.trans opened)
    by_cases fits : count ≤ grant
    · simp only [if_pos fits, if_neg (Nat.not_lt.mpr fits), agrees.queue_eq,
        session.parts.neverGivesUp.uncommit, minus_of_le (Nat.le_trans fits counted),
        Option.bind_eq_bind, Option.bind_some]
      rfl
    · simp only [if_neg fits, if_pos (Nat.lt_of_not_le fits)]

/-- A writer on a queue never gives up when it writes what fits. -/
theorem Agrees.write?_eq (agrees : Agrees base size writer session) (bytes : Bytes) :
    writer.write? bytes = some (writer.write bytes) := by
  by_cases none : bytes.isEmpty = true
  · rw [write?, write, if_pos none, if_pos none]
  obtain ⟨granted, grants, agreesGrant⟩ := agrees.grant_agrees bytes
  simp only [write?, write, if_neg none, agrees.grant?_eq, grants, agreesGrant.backUp?_eq,
    minus_of_le (Nat.min_le_left _ _), Option.bind_eq_bind, Option.bind_some]
  cases granted.backUp _ <;> rfl

/-- A writer on a queue never gives up when it writes everything, provided its areas are not empty.
-/
theorem Agrees.writeAll?_eq (agrees : Agrees base size writer session) (positive : 0 < size)
    (bytes : Bytes) : writer.writeAll? bytes = some (writer.writeAll bytes) := by
  fun_induction writeAll writer bytes generalizing session with
  | case1 writer bytes empty => rw [writeAll?, if_pos empty]
  | case2 writer bytes nonempty after written =>
    rw [writeAll?, if_neg nonempty, agrees.write?_eq, written]
    rfl
  | case3 writer bytes nonempty after copied written some ih =>
    obtain ⟨after', writes, agreesAfter⟩ := agrees.write_agrees positive bytes
    obtain ⟨rfl, -⟩ := Prod.mk.inj (written.symm.trans writes)
    rw [writeAll?, if_neg nonempty, agrees.write?_eq, written]
    simp only [some, if_false]
    exact ih agreesAfter

/-- **No operation of a writer gives up.** -/
theorem Agrees.neverGivesUp (agrees : Agrees base size writer session) (positive : 0 < size) :
    writer.NeverGivesUp where
  grant := agrees.grant?_eq
  backUp := agrees.backUp?_eq
  write := agrees.write?_eq
  writeAll := agrees.writeAll?_eq positive

end QueueWriter

end Buffer

end PeerNet
