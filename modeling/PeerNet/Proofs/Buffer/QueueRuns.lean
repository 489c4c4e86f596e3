import PeerNet.Proofs.Buffer.QueueArithmetic

/-!
# What a user of a queue can count on

A user prepares, appends, drops and takes out bytes, and opens writers on the queue, in any order.
The queue answers what its two parts say, and its bytes are the first of them.

* **One operation** (`perform_queue`): by the lemmas on the two parts, and on sessions for writers.
* **Any operations** (`run_queue`): by induction on the list of operations.
* **A writer** (`QueueWriter.Agrees.keepsSession`): it counts by how much the queue has grown, and
  only bytes that it has appended can be given back.
* **Refinement** (`run_keepsParts`).
-/

namespace PeerNet.Buffer

namespace ByteQueue

/-- What a user asks of a queue. -/
inductive Operation where
  /-- An area of this size, over whose front these bytes are written. -/
  | prepare (size : Nat) (fill : Bytes)
  /-- To append so many bytes of the area. -/
  | commit (count : Nat)
  /-- To drop so many bytes at the front. -/
  | consume (count : Nat)
  /-- To take out all bytes. -/
  | split
  /-- To open a writer with grants of this size, and to ask these things of it. -/
  | session (blockSize : Nat) (asked : List QueueWriter.Operation)
  deriving DecidableEq, Repr

/-- What the user is told. -/
inductive Answer where
  /-- This area is prepared. -/
  | prepared (area : Bytes)
  /-- It is done. -/
  | done
  /-- These bytes are taken out. -/
  | taken (bytes : Bytes)
  /-- What the writer has answered. -/
  | answered (answers : List QueueWriter.Answer)
  deriving DecidableEq, Repr

/-- Whether an operation prepares an area. -/
def Operation.prepares : Operation → Bool
  | .prepare _ _ => true
  | _ => false

/-- Whether an operation may append bytes of the area. -/
def Operation.appends : Operation → Bool
  | .commit _ | .session _ _ => true
  | _ => false

/-- One operation. -/
def perform (queue : ByteQueue) : Operation → ByteQueue × Answer
  | .prepare size fill => ((queue.prepare size fill).1, .prepared (queue.prepare size fill).2)
  | .commit count => (queue.commit count, .done)
  | .consume count => (queue.consume count, .done)
  | .split => (queue.split.1, .taken queue.split.2)
  | .session blockSize asked =>
    let (writer, answers) := (QueueWriter.start queue blockSize).run asked
    (writer.queue, .answered answers)

/-- Operations one after the other, with their answers. -/
def run (queue : ByteQueue) : List Operation → ByteQueue × List Answer
  | [] => (queue, [])
  | operation :: rest =>
    (((queue.perform operation).1.run rest).1,
      (queue.perform operation).2 :: ((queue.perform operation).1.run rest).2)

end ByteQueue

namespace Parts

open ByteQueue (Operation Answer)

/-- One operation on the two parts. -/
def perform (parts : Parts) : Operation → Parts × Answer
  | .prepare size fill => (parts.prepare size fill, .prepared (parts.shown size))
  | .commit count => (parts.commit count, .done)
  | .consume count => (parts.consume count, .done)
  | .split => (empty, .taken parts.contents)
  | .session blockSize asked =>
    let (session, answers) := (Session.start parts).run (max blockSize 1) asked
    (session.parts, .answered answers)

/-- Operations one after the other, with their answers. -/
def run (parts : Parts) : List Operation → Parts × List Answer
  | [] => (parts, [])
  | operation :: rest =>
    (((parts.perform operation).1.run rest).1,
      (parts.perform operation).2 :: ((parts.perform operation).1.run rest).2)

/-- **Whatever is asked, the queue does and answers what its parts say.** -/
theorem perform_queue (parts : Parts) (operation : Operation) :
    parts.queue.perform operation =
      ((parts.perform operation).1.queue, (parts.perform operation).2) := by
  cases operation with
  | prepare size fill => simp only [ByteQueue.perform, perform, prepare_queue]
  | commit count => simp only [ByteQueue.perform, perform, commit_queue]
  | consume count => simp only [ByteQueue.perform, perform, consume_queue]
  | split => simp only [ByteQueue.perform, perform, split_queue]
  | session blockSize asked =>
    obtain ⟨answers, agrees⟩ := (QueueWriter.start_agrees parts blockSize).run_agrees
      (Nat.le_max_right blockSize 1) asked
    simp only [ByteQueue.perform, perform, answers, agrees.queue_eq]

/-- Any operations on the stored string are the operations on the parts, with the same answers. -/
theorem run_queue (parts : Parts) (operations : List Operation) :
    parts.queue.run operations =
      ((parts.run operations).1.queue, (parts.run operations).2) := by
  induction operations generalizing parts with
  | nil => rfl
  | cons operation rest ih => simp only [ByteQueue.run, run, perform_queue, ih]

/-- Where nothing is appended, the area makes no difference to the bytes. -/
theorem contents_run_of_unappended {operations : List Operation}
    (unappended : ∀ operation ∈ operations, operation.appends = false) {parts other : Parts}
    (same : parts.contents = other.contents) :
    (parts.run operations).1.contents =
      (other.run (operations.filter fun operation => !operation.prepares)).1.contents := by
  induction operations generalizing parts other with
  | nil => exact same
  | cons operation rest ih =>
    have later := fun operation inside => unappended operation (List.mem_cons_of_mem _ inside)
    have first := unappended operation List.mem_cons_self
    cases operation with
    | prepare size fill => exact ih later same
    | commit | session => exact Bool.noConfusion first
    | consume count =>
      refine ih later ?_
      exact congrArg (List.drop count) same
    | split => exact ih later rfl

end Parts

/-! ### What the parts promise -/

/-- A writer on a queue keeps to its session. -/
structure KeepsSession (queue : ByteQueue) (size : Nat) (writer : QueueWriter) (session : Session) :
    Prop where
  /-- The bytes. -/
  contents_eq : writer.queue.contents = session.parts.contents
  /-- It counts by how much the queue has grown. -/
  byteCount_eq : queue.length + writer.byteCount = writer.queue.length
  /-- A grant is appended, with the given bytes over its front. -/
  grant_appends : ∀ fill, (writer.grant fill).2.length = size ∧
    (writer.grant fill).1.queue.contents =
      writer.queue.contents ++ Bytes.overwrite (writer.grant fill).2 0 fill
  /-- Bytes may be given back if the last grant is open and had as many. -/
  backUp_iff : ∀ count, (∃ after, writer.backUp count = .ok after) ↔
    ∃ grant, session.openGrant = some grant ∧ count ≤ grant
  /-- These are the last bytes, and after that no more can be given back. -/
  backUp_removes : ∀ count after, writer.backUp count = .ok after →
    (∃ removed, removed.length = count ∧
      writer.queue.contents = after.queue.contents ++ removed) ∧
    ∀ again, after.backUp again = .error .backUpWithoutGrant
  /-- Some bytes are copied. -/
  write_appends : ∀ bytes, (writer.write bytes).2 = min size bytes.length ∧
    (writer.write bytes).1.queue.contents = writer.queue.contents ++ bytes.take size
  /-- All bytes are copied. -/
  writeAll_appends : ∀ bytes,
    (writer.writeAll bytes).queue.contents = writer.queue.contents ++ bytes
  /-- What is refused changes nothing. -/
  refused_eq : ∀ operation fault, (writer.perform operation).2 = .refused fault →
    (writer.perform operation).1 = writer
  /-- No subtraction gives up. -/
  neverGivesUp : writer.NeverGivesUp

/-- A queue keeps to its parts. -/
structure KeepsParts (queue : ByteQueue) (parts : Parts) : Prop where
  /-- The bytes. -/
  contents_eq : queue.contents = parts.contents
  /-- Their number. -/
  length_eq : queue.length = parts.contents.length
  /-- Whether there are any. -/
  isEmpty_iff : queue.isEmpty = true ↔ parts.contents = []
  /-- Preparing an area changes no byte. It shows what is left of the area before, then zeros. -/
  prepare_shows : ∀ size fill, (queue.prepare size fill).1.contents = queue.contents ∧
    (queue.prepare size fill).2 =
      parts.area.take size ++ Bytes.zeros (size - parts.area.length)
  /-- The first bytes of the area are appended, and nothing is left of it. -/
  commit_appends : ∀ count,
    queue.commit count = ⟨queue.contents ++ parts.area.take count, 0⟩
  /-- Bytes that were prepared and not appended are not among the bytes: preparing makes no
  difference when nothing is appended. -/
  unappended : ∀ operations, (∀ operation ∈ operations, operation.appends = false) →
    (queue.run operations).1.contents =
      (queue.run (operations.filter fun operation => !operation.prepares)).1.contents
  /-- Bytes of the area that the next area is written over are gone. -/
  overwritten : ∀ size next fill cover other, min size next ≤ cover.length →
    ((queue.prepare size fill).1.prepare next cover).1 =
      ((queue.prepare size other).1.prepare next cover).1
  /-- A writer keeps to its session, whatever is asked of it. -/
  session : ∀ blockSize asked,
    KeepsSession queue (max blockSize 1) ((QueueWriter.start queue blockSize).run asked).1
      ((Session.start parts).run (max blockSize 1) asked).1
  /-- No subtraction gives up. -/
  neverGivesUp : queue.NeverGivesUp

namespace QueueWriter

variable {size : Nat} {writer : QueueWriter} {session : Session} {queue : ByteQueue}

/-- A refused operation changes nothing. -/
theorem perform_of_refused {operation : Operation} {fault : Fault}
    (refused : (writer.perform operation).2 = .refused fault) :
    (writer.perform operation).1 = writer := by
  cases operation with
  | backUp count =>
    cases gives : writer.backUp count with
    | ok after => simp [perform, gives] at refused
    | error fault => simp [perform, gives]
  | grant fill => simp [perform] at refused
  | write bytes => simp [perform] at refused
  | writeAll bytes => simp [perform] at refused

/-- The queue of a writer holds what its session says. -/
theorem Agrees.contents_eq {base : Nat} (agrees : Agrees base size writer session) :
    writer.queue.contents = session.parts.contents := by
  rw [agrees.queue_eq, Parts.contents_queue]

/-- What is given back was granted last, and is taken off the end. -/
theorem Agrees.of_backUp {base count : Nat} {after : QueueWriter}
    (agrees : Agrees base size writer session) (gives : writer.backUp count = .ok after) :
    ∃ grant, session.openGrant = some grant ∧ count ≤ grant ∧
      Agrees base size after ⟨session.parts.uncommit count, none⟩ := by
  by_cases fits : ∃ grant, session.openGrant = some grant ∧ count ≤ grant
  · obtain ⟨grant, opened, fits⟩ := fits
    obtain ⟨other, givesOther, agreesAfter⟩ := agrees.backUp_agrees opened fits
    obtain rfl := Except.ok.inj (givesOther.symm.trans gives)
    exact ⟨grant, opened, fits, agreesAfter⟩
  · obtain ⟨fault, refuses, -⟩ := agrees.backUp_refused fun grant opened =>
      Nat.not_le.mp fun le => fits ⟨grant, opened, le⟩
    cases gives.symm.trans refuses

/-- A writer that is where its session says keeps to it. -/
theorem Agrees.keepsSession (agrees : Agrees queue.length size writer session)
    (positive : 0 < size) : KeepsSession queue size writer session where
  contents_eq := agrees.contents_eq
  byteCount_eq := by
    rw [agrees.queue_eq, Parts.length_queue, Nat.add_comm]
    exact agrees.byteCount_eq
  grant_appends fill := by
    obtain ⟨after, grants, agreesAfter⟩ := agrees.grant_agrees fill
    rw [grants, agreesAfter.contents_eq, agrees.contents_eq, Session.grant, Parts.commit_prepare,
      Parts.overwrite_shown]
    exact ⟨Parts.length_shown .., rfl⟩
  backUp_iff count := by
    constructor
    · rintro ⟨after, gives⟩
      obtain ⟨grant, opened, fits, -⟩ := agrees.of_backUp gives
      exact ⟨grant, opened, fits⟩
    · rintro ⟨grant, opened, fits⟩
      obtain ⟨after, gives, -⟩ := agrees.backUp_agrees opened fits
      exact ⟨after, gives⟩
  backUp_removes := by
    intro count after gives
    obtain ⟨grant, opened, fits, agreesAfter⟩ := agrees.of_backUp gives
    have counted := agrees.grant_le grant opened
    have grown := agrees.byteCount_eq
    constructor
    · rw [agrees.contents_eq, agreesAfter.contents_eq, Parts.uncommit]
      refine ⟨session.parts.contents.drop (session.parts.contents.length - count), ?_, ?_⟩
      · rw [List.length_drop]
        omega
      · rw [List.take_append_drop]
    · intro again
      simp only [backUp, agreesAfter.lastGrant_eq]
  write_appends bytes := by
    obtain ⟨after, writes, agreesAfter⟩ := agrees.write_agrees positive bytes
    rw [writes, agreesAfter.contents_eq, agrees.contents_eq, Session.contents_append]
    exact ⟨rfl, rfl⟩
  writeAll_appends bytes := by
    rw [(agrees.writeAll_agrees positive bytes).contents_eq, agrees.contents_eq,
      Session.contents_append]
  refused_eq _ _ := perform_of_refused
  neverGivesUp := agrees.neverGivesUp positive

end QueueWriter

/-- A queue that stores its parts keeps to them. -/
theorem Parts.keepsParts (parts : Parts) : KeepsParts parts.queue parts where
  contents_eq := parts.contents_queue
  length_eq := parts.length_queue
  isEmpty_iff := by
    rw [ByteQueue.isEmpty, length_queue, beq_iff_eq, List.length_eq_zero_iff]
  prepare_shows size fill := by
    rw [prepare_queue, contents_queue, contents_queue]
    exact ⟨rfl, rfl⟩
  commit_appends count := by
    rw [commit_queue, contents_queue, commit, queue, List.append_nil]
    rfl
  unappended operations unappended := by
    rw [run_queue, run_queue, contents_queue, contents_queue]
    exact contents_run_of_unappended unappended rfl
  overwritten size next fill cover other covers := by
    rw [prepare_queue, prepare_queue, prepare_queue, prepare_queue,
      prepare_prepare parts size fill covers other]
  session blockSize asked := by
    have positive := Nat.le_max_right blockSize 1
    have agrees := ((QueueWriter.start_agrees parts blockSize).run_agrees positive asked).2
    rw [← parts.length_queue] at agrees
    exact agrees.keepsSession positive
  neverGivesUp := parts.neverGivesUp

/-- **A queue refines its two parts.** After any operations it has answered what the parts say, and
keeps to them. -/
theorem ByteQueue.run_keepsParts (operations : List Operation) :
    (empty.run operations).2 = (Parts.empty.run operations).2 ∧
      KeepsParts (empty.run operations).1 (Parts.empty.run operations).1 := by
  have runs := Parts.empty.run_queue operations
  have start : Parts.empty.queue = empty := rfl
  rw [start] at runs
  rw [runs]
  exact ⟨rfl, (Parts.empty.run operations).1.keepsParts⟩

/-- Of an area that was not appended, what is left is shown again by the next, and by a grant. -/
example :
    ByteQueue.empty.run [.prepare 4 [1, 2, 3, 4], .prepare 3 [9], .session 2 [.grant [], .backUp 1],
        .prepare 2 [5], .commit 9, .split] =
      (.empty, [.prepared [0, 0, 0, 0], .prepared [1, 2, 3], .answered [.granted [9, 2], .done],
        .prepared [0, 0], .done, .taken [9, 5, 0]]) := by
  decide

end PeerNet.Buffer
