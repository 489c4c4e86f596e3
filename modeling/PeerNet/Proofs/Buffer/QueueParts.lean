import PeerNet.Proofs.Buffer.WriterLog
import PeerNet.Buffer.Queue

/-!
# A queue of bytes in two parts

A queue stores its bytes and the prepared area in one string. Here the two are apart: what is
appended is a part of the area, what is dropped of the area is gone, and nothing is counted.

* **A queue** (`Parts`): every operation on the stored string is the operation on the two parts
  (`prepare_queue`, `commit_queue`, `consume_queue`, `split_queue`, `uncommit_queue`).
* **A writer** (`Session`): the two parts with the grant that may be given back. The writer is where
  the session says (`Agrees`), after a grant (`grant_agrees`), after bytes were given back
  (`backUp_agrees`), and after some bytes were copied or all (`write_agrees`, `writeAll_agrees`).
-/

namespace PeerNet.Buffer

/-- The bytes of a queue, and those of the area behind it. -/
structure Parts where
  /-- The bytes of the queue. -/
  contents : Bytes
  /-- The bytes of the prepared area. -/
  area : Bytes
  deriving DecidableEq, Repr

namespace Parts

/-- No byte at all. -/
def empty : Parts := ⟨[], []⟩

/-- What is shown of an area of `size` bytes: what the area holds already, then zeros. -/
def shown (parts : Parts) (size : Nat) : Bytes :=
  parts.area.take size ++ Bytes.zeros (size - parts.area.length)

/-- Makes the area what is shown, with `fill` over its front. -/
def prepare (parts : Parts) (size : Nat) (fill : Bytes) : Parts :=
  { parts with area := fill.take size ++ (parts.shown size).drop fill.length }

/-- Appends the first bytes of the area, and drops the area. -/
def commit (parts : Parts) (count : Nat) : Parts := ⟨parts.contents ++ parts.area.take count, []⟩

/-- Drops the first bytes. -/
def consume (parts : Parts) (count : Nat) : Parts :=
  { parts with contents := parts.contents.drop count }

/-- Drops the last bytes, and the area. -/
def uncommit (parts : Parts) (count : Nat) : Parts :=
  ⟨parts.contents.take (parts.contents.length - count), []⟩

/-- The queue that stores the one part behind the other. -/
def queue (parts : Parts) : ByteQueue := ⟨parts.contents ++ parts.area, parts.area.length⟩

section queue

variable (parts : Parts) (size count : Nat) (fill : Bytes)

/-- Preparing shows exactly as many bytes as were asked for. -/
@[simp] theorem length_shown : (parts.shown size).length = size := by
  rw [shown, List.length_append, List.length_take, Bytes.length_zeros]
  omega

/-- Preparing makes the area exactly as long as was asked for. -/
@[simp] theorem length_area_prepare : (parts.prepare size fill).area.length = size := by
  simp only [prepare, List.length_append, List.length_take, List.length_drop, length_shown]
  omega

/-- The number of readable bytes is the length of the first part. -/
@[simp] theorem length_queue : parts.queue.length = parts.contents.length := by
  rw [ByteQueue.length, queue, List.length_append, Nat.add_sub_cancel]

/-- The readable bytes are the first part. -/
@[simp] theorem contents_queue : parts.queue.contents = parts.contents := by
  rw [ByteQueue.contents, length_queue, queue, List.take_left]

/-- What is shown is what stands behind the queue when there is room for it. -/
theorem take_area : (parts.area ++ Bytes.zeros (size - parts.area.length)).take size =
    parts.shown size := by
  rw [List.take_append, shown]
  congr 1
  exact List.take_of_length_le (Nat.le_of_eq (Bytes.length_zeros _))

/-- Bytes are written over the front of what is shown. -/
theorem overwrite_shown :
    Bytes.overwrite (parts.shown size) 0 fill = (parts.prepare size fill).area := by
  rw [Bytes.overwrite, List.take_zero, List.nil_append, Nat.sub_zero, Nat.zero_add, length_shown,
    prepare]

/-- Preparing on the stored string is preparing on the parts. -/
theorem prepare_queue :
    parts.queue.prepare size fill = ((parts.prepare size fill).queue, parts.shown size) := by
  have area : (parts.queue.storage.drop parts.queue.length ++
      Bytes.zeros (size - parts.queue.prepared)).take size = parts.shown size := by
    rw [length_queue, queue, List.drop_left, take_area]
  have filled : Bytes.overwrite (parts.shown size) 0 (fill.take size) =
      (parts.prepare size fill).area := by
    have front := Bytes.overwrite_take_drop (parts.shown size) fill 0
    rw [List.drop_zero, List.take_zero, List.nil_append, length_shown] at front
    exact front.trans (overwrite_shown ..)
  rw [ByteQueue.prepare, area, filled, contents_queue, queue, length_area_prepare]
  rfl

/-- Committing on the stored string moves bytes of the area behind the contents. -/
theorem commit_queue : parts.queue.commit count = (parts.commit count).queue := by
  rw [ByteQueue.commit, length_queue]
  simp only [queue, commit, List.append_nil, List.length_nil, List.take_length_add_append,
    ← List.take_eq_take_min]

/-- Consuming on the stored string drops bytes at the front of the contents. -/
theorem consume_queue : parts.queue.consume count = (parts.consume count).queue := by
  rw [ByteQueue.consume, length_queue, queue, queue, consume,
    List.drop_append_of_le_length (Nat.min_le_right _ _), ← List.drop_eq_drop_min]

/-- Splitting takes the contents and drops the area. -/
theorem split_queue : parts.queue.split = (empty.queue, parts.contents) := by
  rw [ByteQueue.split, contents_queue]
  rfl

/-- Taking a commit back drops bytes at the end of the contents, and the area. -/
theorem uncommit_queue : parts.queue.uncommit count = (parts.uncommit count).queue := by
  have left : parts.contents.length - min count parts.contents.length =
      parts.contents.length - count := by omega
  rw [ByteQueue.uncommit, length_queue, left, queue, queue, uncommit, List.append_nil,
    List.take_append_of_le_length (Nat.sub_le _ _)]
  rfl

/-- What is written over when the next area is prepared makes no difference any more. -/
theorem prepare_prepare {next : Nat} {cover : Bytes} (covers : min size next ≤ cover.length)
    (other : Bytes) : (parts.prepare size fill).prepare next cover =
      (parts.prepare size other).prepare next cover := by
  have covered (bytes : Bytes) : (parts.prepare size bytes).prepare next cover =
      ⟨parts.contents, cover.take next ++
        (Bytes.zeros (next - size)).drop (cover.length - min next size)⟩ := by
    have front : ((parts.prepare size bytes).area.take next).length = min next size := by
      rw [List.length_take, length_area_prepare]
    have short : ((parts.prepare size bytes).area.take next).length ≤ cover.length := by omega
    rw [prepare, shown, length_area_prepare, List.drop_append, List.drop_of_length_le short, front,
      List.nil_append]
    rfl
  rw [covered, covered]

/-- A prepared area is appended as a whole. -/
theorem commit_prepare : (parts.prepare size fill).commit size =
    ⟨parts.contents ++ (parts.prepare size fill).area, []⟩ := by
  rw [commit, List.take_of_length_le (Nat.le_of_eq (length_area_prepare ..))]
  rfl

/-- Of a whole area that was appended, the bytes behind the given ones are dropped again. -/
theorem uncommit_commit_prepare :
    ((parts.prepare size fill).commit size).uncommit (size - min size fill.length) =
      ⟨parts.contents ++ fill.take size, []⟩ := by
  have left : (parts.contents ++ (parts.prepare size fill).area).length -
      (size - min size fill.length) = (parts.contents ++ fill.take size).length := by
    rw [List.length_append, List.length_append, length_area_prepare, List.length_take]
    omega
  rw [commit_prepare, uncommit, left, prepare, ← List.append_assoc, List.take_left]

end queue

end Parts

/-! ### A writer -/

namespace QueueWriter

/-- What a user asks of a writer. -/
inductive Operation where
  /-- A grant, over whose front these bytes are written. -/
  | grant (fill : Bytes)
  /-- To take back the last bytes of the last grant, as many as this. -/
  | backUp (count : Nat)
  /-- To copy some of these bytes. -/
  | write (bytes : Bytes)
  /-- To copy all of these bytes. -/
  | writeAll (bytes : Bytes)
  deriving DecidableEq, Repr

/-- What the user is told. -/
inductive Answer where
  /-- This region is granted. -/
  | granted (region : Bytes)
  /-- So many bytes were copied. -/
  | wrote (count : Nat)
  /-- It is done. -/
  | done
  /-- It is refused. -/
  | refused (fault : Fault)
  deriving DecidableEq, Repr

/-- One operation. -/
def perform (writer : QueueWriter) : Operation → QueueWriter × Answer
  | .grant fill => ((writer.grant fill).1, .granted (writer.grant fill).2)
  | .backUp count =>
    match writer.backUp count with
    | .ok after => (after, .done)
    | .error fault => (writer, .refused fault)
  | .write bytes => ((writer.write bytes).1, .wrote (writer.write bytes).2)
  | .writeAll bytes => (writer.writeAll bytes, .done)

/-- Operations one after the other, with their answers. -/
def run (writer : QueueWriter) : List Operation → QueueWriter × List Answer
  | [] => (writer, [])
  | operation :: rest =>
    (((writer.perform operation).1.run rest).1,
      (writer.perform operation).2 :: ((writer.perform operation).1.run rest).2)

end QueueWriter

/-- The parts of a queue while it is written to. -/
structure Session where
  /-- The parts. -/
  parts : Parts
  /-- The size of the last grant, if nothing was given back or copied since. -/
  openGrant : Option Nat
  deriving DecidableEq, Repr

namespace Session

open QueueWriter (Operation Answer)

/-- Nothing was asked yet. -/
def start (parts : Parts) : Session := ⟨parts, none⟩

/-- Appends a whole area of `size` bytes. -/
def grant (session : Session) (size : Nat) (fill : Bytes) : Session :=
  ⟨(session.parts.prepare size fill).commit size, some size⟩

/-- Appends bytes. -/
def append (session : Session) (bytes : Bytes) : Session :=
  if bytes = [] then session else ⟨⟨session.parts.contents ++ bytes, []⟩, none⟩

/-- One operation, with grants of `size` bytes. -/
def perform (session : Session) (size : Nat) : Operation → Session × Answer
  | .grant fill => (session.grant size fill, .granted (session.parts.shown size))
  | .backUp count =>
    match session.openGrant with
    | none => (session, .refused .backUpWithoutGrant)
    | some grant =>
      if count ≤ grant then (⟨session.parts.uncommit count, none⟩, .done)
      else (session, .refused (.backUpPastGrant count grant))
  | .write bytes => (session.append (bytes.take size), .wrote (min size bytes.length))
  | .writeAll bytes => (session.append bytes, .done)

/-- Operations one after the other, with their answers. -/
def run (session : Session) (size : Nat) : List Operation → Session × List Answer
  | [] => (session, [])
  | operation :: rest =>
    (((session.perform size operation).1.run size rest).1,
      (session.perform size operation).2 :: ((session.perform size operation).1.run size rest).2)

/-- What a session appends stands behind what the queue held. -/
theorem contents_append (session : Session) (bytes : Bytes) :
    (session.append bytes).parts.contents = session.parts.contents ++ bytes := by
  rw [append]
  split
  case isTrue none => rw [none, List.append_nil]
  case isFalse => rfl

/-- Appending some bytes and then the rest is appending all of them. -/
theorem append_append (session : Session) {front back : Bytes} (some : front ≠ []) :
    (session.append front).append back = session.append (front ++ back) := by
  have all : front ++ back ≠ [] := fun none => some (List.append_eq_nil_iff.mp none).1
  rw [append, append, append, if_neg some, if_neg all]
  by_cases none : back = []
  · rw [if_pos none, none, List.append_nil]
  · rw [if_neg none, List.append_assoc]

end Session

namespace QueueWriter

/-- A writer that is where its session says. When it was opened there were `base` bytes in the
queue. -/
structure Agrees (base size : Nat) (writer : QueueWriter) (session : Session) : Prop where
  /-- The queue. -/
  queue_eq : writer.queue = session.parts.queue
  /-- The size of a grant. -/
  blockSize_eq : writer.blockSize = size
  /-- The grant that may be given back. -/
  lastGrant_eq : writer.lastGrant = session.openGrant
  /-- The counter is by how much the queue has grown. -/
  byteCount_eq : writer.byteCount + base = session.parts.contents.length
  /-- A grant that may be given back was counted. -/
  grant_le : ∀ grant, session.openGrant = some grant → grant ≤ writer.byteCount

section agrees

variable {base size : Nat} {writer : QueueWriter} {session : Session}

/-- A writer starts with nothing asked. -/
theorem start_agrees (parts : Parts) (blockSize : Nat) :
    Agrees parts.contents.length (max blockSize 1) (start parts.queue blockSize)
      (.start parts) :=
  ⟨rfl, rfl, rfl, Nat.zero_add _, fun _ opened => nomatch opened⟩

/-- A grant appends what is shown, with the given bytes over its front. -/
theorem Agrees.grant_agrees (agrees : Agrees base size writer session) (fill : Bytes) :
    ∃ after, writer.grant fill = (after, session.parts.shown size) ∧
      Agrees base size after (session.grant size fill) := by
  obtain ⟨queue, blockSize, -, byteCount, -⟩ := agrees
  refine ⟨⟨((session.parts.prepare size fill).commit size).queue, size, some size,
    writer.byteCount + size⟩, ?_, rfl, rfl, rfl, ?_, ?_⟩
  · simp only [grant, queue, blockSize, Parts.prepare_queue, Parts.commit_queue]
  · rw [Session.grant, Parts.commit_prepare, List.length_append, Parts.length_area_prepare,
      Nat.add_right_comm, byteCount]
  · intro grant opened
    obtain rfl := Option.some.inj opened
    exact Nat.le_add_left _ _

/-- **What is given back is taken off the end**, as much as was granted last, and only once. -/
theorem Agrees.backUp_agrees (agrees : Agrees base size writer session) {grant count : Nat}
    (opened : session.openGrant = some grant) (fits : count ≤ grant) :
    ∃ after, writer.backUp count = .ok after ∧
      Agrees base size after ⟨session.parts.uncommit count, none⟩ := by
  obtain ⟨queue, blockSize, lastGrant, byteCount, counted⟩ := agrees
  have counted := counted grant opened
  refine ⟨⟨(session.parts.uncommit count).queue, size, none, writer.byteCount - count⟩, ?_, rfl,
    rfl, rfl, ?_, fun _ opened => nomatch opened⟩
  · simp only [backUp, lastGrant, opened, queue, blockSize, Parts.uncommit_queue]
    rw [if_neg (Nat.not_lt.mpr fits)]
  · rw [Parts.uncommit, List.length_take]
    simp only
    omega

/-- What was not granted cannot be given back. -/
theorem Agrees.backUp_refused (agrees : Agrees base size writer session) {count : Nat}
    (closed : ∀ grant, session.openGrant = some grant → grant < count) :
    ∃ fault, writer.backUp count = .error fault ∧
      session.perform size (.backUp count) = (session, .refused fault) := by
  cases opened : session.openGrant with
  | none =>
    refine ⟨.backUpWithoutGrant, ?_, ?_⟩
    · simp only [backUp, agrees.lastGrant_eq, opened]
    · simp only [Session.perform, opened]
  | some grant =>
    refine ⟨.backUpPastGrant count grant, ?_, ?_⟩
    · simp only [backUp, agrees.lastGrant_eq, opened, closed grant opened, if_true]
    · simp only [Session.perform, opened, Nat.not_le.mpr (closed grant opened), if_false]

/-- **As many bytes are appended as fit into a grant.** -/
theorem Agrees.write_agrees (agrees : Agrees base size writer session) (positive : 0 < size)
    (bytes : Bytes) :
    ∃ after, writer.write bytes = (after, min size bytes.length) ∧
      Agrees base size after (session.append (bytes.take size)) := by
  by_cases none : bytes = []
  · subst none
    rw [List.take_nil, List.length_nil, Nat.min_zero]
    exact ⟨writer, rfl, agrees⟩
  obtain ⟨granted, grants, agreesGrant⟩ := agrees.grant_agrees bytes
  obtain ⟨after, gives, agreesAfter⟩ :=
    agreesGrant.backUp_agrees rfl (Nat.sub_le size (min size bytes.length))
  refine ⟨after, ?_, ?_⟩
  · have some : bytes.isEmpty = false := by simpa using none
    simp only [write, some, grants, Parts.length_shown, gives, Bool.false_eq_true, if_false]
  · have some : bytes.take size ≠ [] := fun nil =>
      (List.take_eq_nil_iff.mp nil).elim (Nat.ne_of_gt positive) none
    rw [Session.grant, Parts.uncommit_commit_prepare] at agreesAfter
    rw [Session.append, if_neg some]
    exact agreesAfter

/-- **All bytes are appended.** -/
theorem Agrees.writeAll_agrees (agrees : Agrees base size writer session) (positive : 0 < size)
    (bytes : Bytes) : Agrees base size (writer.writeAll bytes) (session.append bytes) := by
  fun_induction writeAll writer bytes generalizing session with
  | case1 writer bytes empty =>
    rw [Session.append, if_pos (List.isEmpty_iff.mp empty)]
    exact agrees
  | case2 writer bytes nonempty after written =>
    -- something is copied, so that the loop does not stop before the last byte
    obtain ⟨_, writes, -⟩ := agrees.write_agrees positive bytes
    have none := congrArg Prod.snd (written.symm.trans writes)
    have some : 0 < bytes.length := List.length_pos_iff.mpr fun nil => nonempty (by rw [nil]; rfl)
    simp only at none
    omega
  | case3 writer bytes nonempty after copied written some ih =>
    obtain ⟨after', writes, agreesAfter⟩ := agrees.write_agrees positive bytes
    obtain ⟨rfl, rfl⟩ := Prod.mk.inj (written.symm.trans writes)
    have all := ih agreesAfter
    have copied : bytes.take size ≠ [] := fun nil =>
      some (List.length_take.symm.trans (congrArg List.length nil))
    rw [← List.drop_eq_drop_min] at all ⊢
    rwa [Session.append_append _ copied, List.take_append_drop] at all

/-- **Whatever is asked, the writer answers what the session says, and is where it says.** -/
theorem Agrees.perform_agrees (agrees : Agrees base size writer session) (positive : 0 < size)
    (operation : Operation) :
    (writer.perform operation).2 = (session.perform size operation).2 ∧
      Agrees base size (writer.perform operation).1 (session.perform size operation).1 := by
  cases operation with
  | grant fill =>
    obtain ⟨after, grants, agreesAfter⟩ := agrees.grant_agrees fill
    simp only [perform, grants]
    exact ⟨rfl, agreesAfter⟩
  | backUp count =>
    by_cases fits : ∃ grant, session.openGrant = some grant ∧ count ≤ grant
    · obtain ⟨grant, opened, fits⟩ := fits
      obtain ⟨after, gives, agreesAfter⟩ := agrees.backUp_agrees opened fits
      simp only [perform, gives, Session.perform, opened, if_pos fits]
      exact ⟨trivial, agreesAfter⟩
    · obtain ⟨fault, refuses, same⟩ := agrees.backUp_refused fun grant opened =>
        Nat.not_le.mp fun le => fits ⟨grant, opened, le⟩
      simp only [perform, refuses, same]
      exact ⟨trivial, agrees⟩
  | write bytes =>
    obtain ⟨after, writes, agreesAfter⟩ := agrees.write_agrees positive bytes
    simp only [perform, writes]
    exact ⟨rfl, agreesAfter⟩
  | writeAll bytes => exact ⟨rfl, agrees.writeAll_agrees positive bytes⟩

/-- A writer and a session that agree go on to agree, and answer alike, through any operations. -/
theorem Agrees.run_agrees (agrees : Agrees base size writer session) (positive : 0 < size)
    (operations : List Operation) :
    (writer.run operations).2 = (session.run size operations).2 ∧
      Agrees base size (writer.run operations).1 (session.run size operations).1 := by
  induction operations generalizing writer session with
  | nil => exact ⟨rfl, agrees⟩
  | cons operation rest ih =>
    obtain ⟨answer, agreesAfter⟩ := agrees.perform_agrees positive operation
    obtain ⟨answers, agreesAll⟩ := ih agreesAfter
    exact ⟨List.cons_eq_cons.mpr ⟨answer, answers⟩, agreesAll⟩

end agrees

end QueueWriter

end PeerNet.Buffer
