import PeerNet.Proofs.Buffer.ReaderArithmetic

/-!
# What a user of a reader can count on

A user asks a reader for operations in any order and is told an answer to each. From these questions
and answers, and the length of the message, follows a `Cursor`: the position, and the size of the
piece that may be given back. The reader keeps to it.

* **One operation** (`perform_agrees`): what the reader answers and where it is, the cursor records.
* **Any operations** (`run_agrees`): by induction on the list of operations.
* **Refinement** (`run_keepsCursor`): after any operations what is answered is what stands in the
  message from the position on, the end of a piece can be given back exactly when the cursor says,
  and no subtraction on the way gives up.
-/

namespace PeerNet.Buffer.Reader

/-! ### Operations and answers -/

/-- What a user asks of a reader. -/
inductive Operation where
  /-- The next piece. -/
  | next
  /-- To take back the last bytes of the last piece, as many as this. -/
  | backUp (count : Nat)
  /-- To pass as many bytes as this. -/
  | skip (count : Nat)
  /-- Some bytes, at most as many as this. -/
  | read (count : Nat)
  /-- As many bytes as this. -/
  | readExact (count : Nat)
  /-- All bytes that are left. -/
  | readToEnd
  deriving DecidableEq, Repr

/-- What the user is told. -/
inductive Answer where
  /-- This is the next piece, if there is one. -/
  | piece (bytes : Option Bytes)
  /-- It is done. -/
  | done
  /-- It is refused. -/
  | refused (fault : Fault)
  /-- Whether there were as many bytes to be passed. -/
  | passed (all : Bool)
  /-- These bytes were read. -/
  | got (bytes : Bytes)
  /-- These bytes were read, if there were as many. -/
  | gotExactly (bytes : Option Bytes)
  deriving DecidableEq, Repr

/-- One operation. -/
def perform (reader : Reader) : Operation → Reader × Answer
  | .next => (reader.next.1, .piece reader.next.2)
  | .backUp count =>
    match reader.backUp count with
    | .ok after => (after, .done)
    | .error fault => (reader, .refused fault)
  | .skip count => ((reader.skip count).1, .passed (reader.skip count).2)
  | .read count => ((reader.read count).1, .got (reader.read count).2)
  | .readExact count => ((reader.readExact count).1, .gotExactly (reader.readExact count).2)
  | .readToEnd => (reader.readToEnd.1, .got reader.readToEnd.2)

/-- Operations one after the other, each with its answer. -/
def run (reader : Reader) : List Operation → Reader × List (Operation × Answer)
  | [] => (reader, [])
  | operation :: rest =>
    ((run (reader.perform operation).1 rest).1,
      (operation, (reader.perform operation).2) :: (run (reader.perform operation).1 rest).2)

/-- What the questions and answers so far amount to. -/
structure Cursor where
  /-- The position in the message. -/
  position : Nat
  /-- How many bytes of the last piece may be given back: none unless the last operation was to ask
  for it, refusals and reads of no byte aside. -/
  piece : Nat
  deriving DecidableEq, Repr

namespace Cursor

/-- Nothing was asked yet. -/
def front : Cursor := ⟨0, 0⟩

/-- The cursor in a message of `total` bytes after one more operation. -/
def record (total : Nat) (cursor : Cursor) : Operation → Answer → Cursor
  | .next, .piece (some bytes) => ⟨cursor.position + bytes.length, bytes.length⟩
  | .next, .piece none => ⟨cursor.position, 0⟩
  | .backUp count, .done => ⟨cursor.position - count, 0⟩
  | .skip count, .passed _ => ⟨min (cursor.position + count) total, 0⟩
  | .read count, .got bytes =>
    if count = 0 then cursor else ⟨cursor.position + bytes.length, 0⟩
  | .readExact count, .gotExactly _ =>
    if count = 0 then cursor else ⟨min (cursor.position + count) total, 0⟩
  | .readToEnd, .got _ => ⟨total, 0⟩
  | _, _ => cursor

/-- The cursor after a history, the first operation first. -/
def ofHistory (total : Nat) (history : List (Operation × Answer)) : Cursor :=
  history.foldl (fun cursor entry => cursor.record total entry.1 entry.2) front

end Cursor

/-! ### The cursor of a reader -/

section agrees

variable {blocks : Blocks} {reader : Reader} {cursor : Cursor}

/-- A reader that is where its cursor says. -/
structure Agrees (blocks : Blocks) (reader : Reader) (cursor : Cursor) : Prop where
  /-- It is at the position. -/
  placed : Placed blocks cursor.position reader
  /-- So many bytes may be given back. -/
  lastPiece_eq : reader.lastPiece = cursor.piece
  /-- The piece that may be given back lies in the current block. -/
  lastPiece_le : reader.lastPiece ≤ reader.offset

/-- A reader starts at the front. -/
theorem start_agrees (blocks : Blocks) : Agrees blocks (start blocks) .front :=
  ⟨start_placed blocks, rfl, Nat.le_refl _⟩

/-- Where nothing may be given back the position is all that counts. -/
theorem Placed.agrees {position : Nat} (h : Placed blocks position reader)
    (hlast : reader.lastPiece = 0) : Agrees blocks reader ⟨position, 0⟩ :=
  ⟨h, hlast, hlast ▸ Nat.zero_le _⟩

/-- **Whatever is asked, the reader is where the cursor of the answer says.** -/
theorem perform_agrees (h : Agrees blocks reader cursor) (operation : Operation) :
    Agrees blocks (reader.perform operation).1
      (cursor.record blocks.contents.length operation (reader.perform operation).2) := by
  cases operation with
  | next =>
    have hnext := next_outcome h.placed
    simp only [perform]
    generalize reader.next = answer at hnext
    cases hnext with
    | atEnd hend hplaced hlast hahead => exact hplaced.agrees hlast
    | piece hpiece hplaced hlast hle hahead => exact ⟨hplaced, hlast, hlast ▸ hle⟩
  | backUp count =>
    cases hback : reader.backUp count with
    | ok after =>
      have hcount := (exists_backUp_iff reader count).1 ⟨after, hback⟩
      obtain ⟨after', hback', hplaced, hlast⟩ := backUp_placed h.placed hcount h.lastPiece_le
      obtain rfl := Except.ok.inj (hback.symm.trans hback')
      simp only [perform, hback]
      exact hplaced.agrees hlast
    | error fault =>
      simp only [perform, hback]
      exact h
  | skip count =>
    obtain ⟨after, hskip, hplaced, hlast⟩ := skip_placed h.placed count
    simp only [perform, hskip]
    exact hplaced.agrees hlast
  | read count =>
    by_cases hcount : count = 0
    · simp only [perform, read, hcount, if_true]
      exact h
    · obtain ⟨after, bytes, hread, -, hplaced, hlast⟩ := read_placed h.placed hcount
      simp only [perform, hread, Cursor.record, hcount, if_false]
      exact hplaced.agrees hlast
  | readExact count =>
    by_cases hcount : count = 0
    · subst hcount
      have hnone : reader.readExact 0 = (reader, some []) := by
        rw [readExact, readExact.collect, if_pos rfl]
      simp only [perform, hnone]
      exact h
    · obtain ⟨after, hread, hplaced, hlast⟩ := readExact_placed h.placed hcount
      simp only [perform, hread, Cursor.record, hcount, if_false]
      exact hplaced.agrees hlast
  | readToEnd =>
    obtain ⟨after, hread, hplaced, hlast⟩ := readToEnd_placed h.placed
    simp only [perform, hread]
    exact hplaced.agrees hlast

/-- After any operations the reader is where the cursor of their answers says. -/
theorem run_agrees (h : Agrees blocks reader cursor) (operations : List Operation) :
    Agrees blocks (reader.run operations).1
      ((reader.run operations).2.foldl
        (fun cursor entry => cursor.record blocks.contents.length entry.1 entry.2) cursor) := by
  induction operations generalizing reader cursor with
  | nil => exact h
  | cons operation rest ih => exact ih (perform_agrees h operation)

/-! ### What the cursor promises -/

/-- A reader of a message keeps a cursor. -/
structure KeepsCursor (blocks : Blocks) (reader : Reader) (cursor : Cursor) : Prop where
  /-- The position is inside the message. -/
  position_le : cursor.position ≤ blocks.contents.length
  /-- The reader knows its position. -/
  byteCount_eq : reader.byteCount = cursor.position
  /-- It knows how many bytes are left. -/
  remaining_eq : reader.remaining = blocks.contents.length - cursor.position
  /-- There is no next piece exactly at the end. -/
  next_eq_none_iff : reader.next.2 = none ↔ cursor.position = blocks.contents.length
  /-- The next piece is the rest of a block; it is not empty, and stands in the message from the
  position on. -/
  next_piece : ∀ piece, reader.next.2 = some piece →
    PieceAt blocks cursor.position piece ∧ piece ≠ [] ∧
      piece <+: blocks.contents.drop cursor.position
  /-- Bytes may be given back, as many as the cursor says. -/
  backUp_iff : ∀ count, (∃ after, reader.backUp count = .ok after) ↔ count ≤ cursor.piece
  /-- These were passed. -/
  piece_le : cursor.piece ≤ cursor.position
  /-- Skipping succeeds exactly if there are as many bytes. -/
  skip_eq : ∀ count,
    (reader.skip count).2 = decide (count ≤ blocks.contents.length - cursor.position)
  /-- Reading gives the front of the next piece. -/
  read_eq : ∀ count, (reader.read count).2 = (reader.next.2.getD []).take count
  /-- Reading a number of bytes gives them if there are as many. -/
  readExact_eq : ∀ count, (reader.readExact count).2 =
    if count ≤ blocks.contents.length - cursor.position then
      some ((blocks.contents.drop cursor.position).take count) else none
  /-- Reading to the end gives all that is left. -/
  readToEnd_eq : reader.readToEnd.2 = blocks.contents.drop cursor.position
  /-- What is refused changes nothing. -/
  refused_eq : ∀ operation fault, (reader.perform operation).2 = .refused fault →
    (reader.perform operation).1 = reader
  /-- No subtraction gives up, and every loop ends. -/
  neverGivesUp : reader.NeverGivesUp (blocks.contents.length - cursor.position)

/-- A refused operation changes nothing. -/
theorem perform_of_refused {operation : Operation} {fault : Fault}
    (h : (reader.perform operation).2 = .refused fault) :
    (reader.perform operation).1 = reader := by
  cases operation with
  | backUp count =>
    cases hback : reader.backUp count with
    | ok after => simp [perform, hback] at h
    | error fault => simp [perform, hback]
  | next => simp [perform] at h
  | skip count => simp [perform] at h
  | read count => simp [perform] at h
  | readExact count => simp [perform] at h
  | readToEnd => simp [perform] at h

/-- A reader that is where its cursor says keeps what the cursor promises. -/
theorem Agrees.keepsCursor (h : Agrees blocks reader cursor) (hblocks : blocks.WellFormed) :
    KeepsCursor blocks reader cursor where
  position_le := h.placed.le
  byteCount_eq := h.placed.byteCount_eq
  remaining_eq := by
    rw [remaining, h.placed.blocks_eq, hblocks.length_eq, h.placed.byteCount_eq]
  next_eq_none_iff := by
    have hnext := next_outcome h.placed
    generalize reader.next = answer at hnext
    cases hnext with
    | atEnd hend => exact ⟨fun _ => hend, fun _ => rfl⟩
    | piece hpiece hplaced =>
      have hle := hplaced.le
      have hpos := List.length_pos_iff.2 hpiece.ne_nil
      constructor
      · intro hnone
        cases hnone
      · intro hend
        omega
  next_piece := by
    intro piece hsome
    have hnext := next_outcome h.placed
    generalize reader.next = answer at hnext hsome
    cases hnext with
    | atEnd => cases hsome
    | piece hpiece =>
      obtain rfl := Option.some.inj hsome
      exact ⟨hpiece, hpiece.ne_nil, hpiece.prefix_drop⟩
  backUp_iff count := by rw [exists_backUp_iff, h.lastPiece_eq]
  piece_le := by
    have hposition := h.placed.position_eq
    have hlast := h.lastPiece_eq
    have hle := h.lastPiece_le
    omega
  skip_eq count := by
    obtain ⟨after, hskip, -⟩ := skip_placed h.placed count
    rw [hskip]
  read_eq count := by
    by_cases hcount : count = 0
    · simp only [read, hcount, if_true, List.take_zero]
    · obtain ⟨after, bytes, hread, hbytes, -⟩ := read_placed h.placed hcount
      rw [hread, hbytes]
  readExact_eq count := by
    by_cases hcount : count = 0
    · subst hcount
      rw [readExact, readExact.collect, if_pos rfl, if_pos (Nat.zero_le _), List.take_zero]
    · obtain ⟨after, hread, -⟩ := readExact_placed h.placed hcount
      rw [hread]
  readToEnd_eq := by
    obtain ⟨after, hread, -⟩ := readToEnd_placed h.placed
    rw [hread]
  refused_eq operation fault hrefused := perform_of_refused hrefused
  neverGivesUp := h.placed.neverGivesUp hblocks h.lastPiece_le

end agrees

/-- **A reader refines its cursor.** In any message whose blocks are well formed, after any
operations the reader keeps what the cursor of the questions and answers promises. -/
theorem run_keepsCursor (blocks : Blocks) (hblocks : blocks.WellFormed)
    (operations : List Operation) :
    KeepsCursor blocks ((start blocks).run operations).1
      (.ofHistory blocks.contents.length ((start blocks).run operations).2) :=
  (run_agrees (start_agrees blocks) operations).keepsCursor hblocks

/-- A message with an empty block, and a block of which a part is in use: the reader takes back the
end of a piece, passes the end of a block, and runs into the end of the message. -/
theorem run_keepsCursor_across_blocks :
    let blocks : Blocks := ⟨#[⟨[1, 2, 3], 3⟩, ⟨[], 0⟩, ⟨[4, 5, 6, 7], 2⟩]⟩
    let operations : List Operation := [.next, .backUp 2, .backUp 1, .skip 3, .read 0, .skip 9]
    let history : List (Operation × Answer) :=
      [(.next, .piece (some [1, 2, 3])), (.backUp 2, .done),
        (.backUp 1, .refused (.backUpPastPiece 1 0)), (.skip 3, .passed true), (.read 0, .got []),
        (.skip 9, .passed false)]
    blocks.WellFormed ∧ ((start blocks).run operations).2 = history ∧
      KeepsCursor blocks ((start blocks).run operations).1 (.ofHistory 5 history) := by
  intro blocks operations history
  have hblocks : blocks.WellFormed := by decide
  have hhistory : ((start blocks).run operations).2 = history := by decide +kernel
  have hkeeps := run_keepsCursor blocks hblocks operations
  rw [hhistory] at hkeeps
  exact ⟨hblocks, hhistory, hkeeps⟩

end PeerNet.Buffer.Reader
