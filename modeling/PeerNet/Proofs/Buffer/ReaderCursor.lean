import PeerNet.Buffer.Reader
import Mathlib.Tactic.SplitIfs

/-!
# A reader is at a position of the message

A reader stands in a block at an offset, and the end of one block and the front of the next are the
same place. What counts is the position in the message as one string of bytes (`Placed`), and every
operation is described by what it does to the position.

* **Pieces** (`next_placed`): the next piece is the rest of the block that the position is in
  (`PieceAt`), and there is none exactly at the end.
* **Skipping** (`skip_placed`): the position moves by the count, or to the end.
* **Reading** (`read_placed`, `readExact_placed`, `readToEnd_placed`): what is read stands in the
  message from the position on.
-/

namespace PeerNet.Buffer.Reader

variable {blocks : Blocks} {position : Nat} {reader : Reader}

/-! ### Before and behind the reader -/

/-- The contents of the current block, if there is one. -/
def current (reader : Reader) : Bytes := (reader.blocks.piece? reader.block).getD []

/-- The contents of the blocks in front of the current one. -/
def passed (reader : Reader) : Bytes := (reader.blocks.pieces.take reader.block).flatten

/-- The pieces that are left: the rest of the current block and the blocks behind it, but no empty
ones. -/
def ahead (reader : Reader) : List Bytes :=
  (reader.current.drop reader.offset :: reader.blocks.pieces.drop (reader.block + 1)).filter
    fun piece => !piece.isEmpty

/-- The message is what is in front of the current block, this block, and what is behind it. -/
theorem contents_eq (reader : Reader) :
    reader.blocks.contents =
      reader.passed ++ reader.current ++
        (reader.blocks.pieces.drop (reader.block + 1)).flatten := by
  have hsplit := List.take_append_drop reader.block reader.blocks.pieces
  have hdrop : (reader.blocks.pieces.drop reader.block).flatten =
      reader.current ++ (reader.blocks.pieces.drop (reader.block + 1)).flatten := by
    unfold current
    rw [Blocks.piece?_eq_getElem?]
    cases hpiece : reader.blocks.pieces[reader.block]? with
    | none =>
      have hle := List.getElem?_eq_none_iff.1 hpiece
      rw [List.drop_of_length_le hle, List.drop_of_length_le (Nat.le_succ_of_le hle)]
      rfl
    | some piece =>
      obtain ⟨hlt, rfl⟩ := List.getElem?_eq_some_iff.1 hpiece
      rw [List.drop_eq_getElem_cons hlt]
      rfl
  rw [List.append_assoc, ← hdrop, passed, ← List.flatten_append, hsplit]
  rfl

/-- A reader at a position of a message. -/
structure Placed (blocks : Blocks) (position : Nat) (reader : Reader) : Prop where
  /-- It reads this message. -/
  blocks_eq : reader.blocks = blocks
  /-- It does not pass the end of the current block. -/
  offset_le : reader.offset ≤ reader.current.length
  /-- The position is behind the blocks in front and the front of the current block. -/
  position_eq : position = reader.passed.length + reader.offset
  /-- The reader knows its position. -/
  byteCount_eq : reader.byteCount = position

/-- A reader starts at the front. -/
theorem start_placed (blocks : Blocks) : Placed blocks 0 (start blocks) :=
  ⟨rfl, Nat.zero_le _, rfl, rfl⟩

/-- What is behind the position. -/
theorem Placed.drop_eq (h : Placed blocks position reader) :
    blocks.contents.drop position =
      reader.current.drop reader.offset ++
        (reader.blocks.pieces.drop (reader.block + 1)).flatten := by
  rw [← h.blocks_eq, reader.contents_eq, h.position_eq, List.append_assoc,
    List.drop_length_add_append, List.drop_append_of_le_length h.offset_le]

/-- The pieces that are left are what is behind the position. -/
theorem Placed.flatten_ahead (h : Placed blocks position reader) :
    reader.ahead.flatten = blocks.contents.drop position := by
  have hfilter : ∀ pieces : List Bytes,
      (pieces.filter fun piece => !piece.isEmpty).flatten = pieces.flatten := by
    intro pieces
    exact List.flatten_filter_not_isEmpty
  rw [ahead, hfilter, List.flatten_cons, h.drop_eq]

/-- The position is inside the message. -/
theorem Placed.le (h : Placed blocks position reader) : position ≤ blocks.contents.length := by
  have hle := h.offset_le
  rw [← h.blocks_eq, reader.contents_eq, h.position_eq, List.length_append, List.length_append]
  omega

/-- Behind the last block is the end of the message. -/
theorem Placed.eq_length (h : Placed blocks position reader)
    (hpiece : reader.blocks.piece? reader.block = none) : position = blocks.contents.length := by
  refine Nat.le_antisymm h.le (List.drop_eq_nil_iff.1 ?_)
  have hle : reader.blocks.pieces.length ≤ reader.block := by
    rw [Blocks.piece?_eq_getElem?] at hpiece
    exact List.getElem?_eq_none_iff.1 hpiece
  rw [h.drop_eq, List.drop_of_length_le (Nat.le_succ_of_le hle), current, hpiece]
  simp

/-- Another place in the current block. -/
theorem Placed.within (h : Placed blocks position reader) {after : Reader} {there : Nat}
    (hblocks : after.blocks = reader.blocks) (hblock : after.block = reader.block)
    (hle : after.offset ≤ reader.current.length)
    (hmoved : there + reader.offset = position + after.offset) (hcount : after.byteCount = there) :
    Placed blocks there after := by
  have hposition := h.position_eq
  refine ⟨hblocks.trans h.blocks_eq, ?_, ?_, hcount⟩
  · rwa [current, hblocks, hblock]
  · rw [passed, hblocks, hblock]
    unfold passed at hposition
    omega

/-- The front of the next block, with the rest of the current one passed. -/
theorem Placed.nextBlock (h : Placed blocks position reader) {piece : Bytes}
    (hpiece : reader.blocks.piece? reader.block = some piece) {after : Reader}
    (hblocks : after.blocks = reader.blocks) (hblock : after.block = reader.block + 1)
    (hoffset : after.offset = 0)
    (hcount : after.byteCount = reader.byteCount + (piece.length - reader.offset)) :
    Placed blocks (position + (piece.length - reader.offset)) after := by
  have hle := h.offset_le
  have hcurrent : reader.current = piece := by simp [current, hpiece]
  have hpassed : after.passed = reader.passed ++ piece := by
    rw [Blocks.piece?_eq_getElem?] at hpiece
    rw [passed, passed, hblocks, hblock, List.take_add_one, hpiece]
    simp
  rw [hcurrent] at hle
  refine ⟨hblocks.trans h.blocks_eq, hoffset ▸ Nat.zero_le _, ?_, ?_⟩
  · rw [hpassed, List.length_append, hoffset, h.position_eq]
    omega
  · rw [hcount, h.byteCount_eq]

/-- An empty rest of the current block is no piece. -/
theorem ahead_nextBlock (h : reader.current.length ≤ reader.offset) :
    reader.nextBlock.ahead = reader.ahead := by
  have hnext : (reader.nextBlock.current :: reader.blocks.pieces.drop (reader.block + 2)).filter
        (fun piece => !piece.isEmpty) =
      (reader.blocks.pieces.drop (reader.block + 1)).filter fun piece => !piece.isEmpty := by
    unfold current nextBlock
    rw [Blocks.piece?_eq_getElem?]
    cases hpiece : reader.blocks.pieces[reader.block + 1]? with
    | none =>
      have hle := List.getElem?_eq_none_iff.1 hpiece
      rw [List.drop_of_length_le hle, List.drop_of_length_le (Nat.le_succ_of_le hle)]
      rfl
    | some piece =>
      obtain ⟨hlt, rfl⟩ := List.getElem?_eq_some_iff.1 hpiece
      rw [List.drop_eq_getElem_cons hlt]
      rfl
  rw [ahead, ahead, List.drop_of_length_le h]
  exact hnext

/-! ### Pieces -/

/-- The piece at a position: the rest of the block that the position is in. -/
inductive PieceAt (blocks : Blocks) (position : Nat) : Bytes → Prop where
  /-- The position is at an offset in one of the blocks, in front of its end. -/
  | rest (before behind : List Bytes) (whole : Bytes) (offset : Nat)
      (hpieces : blocks.pieces = before ++ whole :: behind)
      (hposition : position = before.flatten.length + offset) (hoffset : offset < whole.length) :
      PieceAt blocks position (whole.drop offset)

/-- A piece is not empty. -/
theorem PieceAt.ne_nil {piece : Bytes} (h : PieceAt blocks position piece) : piece ≠ [] := by
  obtain ⟨before, behind, whole, offset, hpieces, hposition, hoffset⟩ := h
  exact fun hnil => Nat.not_le.2 hoffset (List.drop_eq_nil_iff.1 hnil)

/-- A piece stands in the message from the position on. -/
theorem PieceAt.prefix_drop {piece : Bytes} (h : PieceAt blocks position piece) :
    piece <+: blocks.contents.drop position := by
  obtain ⟨before, behind, whole, offset, hpieces, rfl, hoffset⟩ := h
  rw [Blocks.contents, hpieces, List.flatten_append, List.flatten_cons,
    List.drop_length_add_append, List.drop_append_of_le_length (Nat.le_of_lt hoffset)]
  exact List.prefix_append _ _

/-- What comes of asking for the next piece at a position. -/
inductive NextOutcome (blocks : Blocks) (position : Nat) (reader : Reader) :
    Reader × Option Bytes → Prop where
  /-- The reader is at the end. -/
  | atEnd {after : Reader} (hend : position = blocks.contents.length)
      (hplaced : Placed blocks position after) (hlast : after.lastPiece = 0)
      (hahead : reader.ahead = []) : NextOutcome blocks position reader (after, none)
  /-- The piece at the position is handed out, and it is part of the block that is then the current
  one. -/
  | piece {after : Reader} {piece : Bytes} (hpiece : PieceAt blocks position piece)
      (hplaced : Placed blocks (position + piece.length) after)
      (hlast : after.lastPiece = piece.length) (hle : piece.length ≤ after.offset)
      (hahead : reader.ahead = piece :: after.ahead) :
      NextOutcome blocks position reader (after, some piece)

/-- **The next piece is the one at the position**, and there is none exactly at the end. -/
theorem next_outcome (h : Placed blocks position reader) :
    NextOutcome blocks position reader reader.next := by
  fun_induction next reader with
  | case1 reader hpiece =>
    have hend := h.eq_length hpiece
    refine .atEnd hend ⟨h.blocks_eq, h.offset_le, h.position_eq, h.byteCount_eq⟩ rfl ?_
    have hle : reader.blocks.pieces.length ≤ reader.block := by
      rw [Blocks.piece?_eq_getElem?] at hpiece
      exact List.getElem?_eq_none_iff.1 hpiece
    rw [ahead, List.drop_of_length_le (Nat.le_succ_of_le hle), current, hpiece]
    simp
  | case2 reader whole hpiece hoffset unread =>
    have hcurrent : reader.current = whole := by simp [current, hpiece]
    have hlength : unread.length = whole.length - reader.offset := List.length_drop
    have hsplit : blocks.pieces =
        reader.blocks.pieces.take reader.block ++
          whole :: reader.blocks.pieces.drop (reader.block + 1) := by
      rw [Blocks.piece?_eq_getElem?] at hpiece
      obtain ⟨hlt, rfl⟩ := List.getElem?_eq_some_iff.1 hpiece
      rw [← List.drop_eq_getElem_cons hlt, List.take_append_drop, h.blocks_eq]
    refine .piece (.rest _ _ whole reader.offset hsplit h.position_eq hoffset)
      (h.within rfl rfl ?_ ?_ ?_) rfl ?_ ?_
    · exact Nat.le_of_eq (congrArg List.length hcurrent.symm)
    · -- from the offset to the end of the block
      simp only
      omega
    · exact congrArg (· + unread.length) h.byteCount_eq
    · rw [hlength]
      exact Nat.sub_le _ _
    · simp only [ahead, current, hpiece, Option.getD_some, List.drop_length]
      rw [List.filter_cons_of_pos (by simpa using hoffset), List.filter_cons_of_neg (by simp)]
  | case3 reader whole hpiece hoffset ih =>
    have hcurrent : reader.current = whole := by simp [current, hpiece]
    have hzero : whole.length - reader.offset = 0 := by omega
    have hnext : Placed blocks (position + (whole.length - reader.offset)) reader.nextBlock :=
      h.nextBlock hpiece rfl rfl rfl (by simp [nextBlock, hzero])
    rw [hzero] at hnext
    have hahead := reader.ahead_nextBlock (by rw [hcurrent]; omega)
    cases hout : reader.nextBlock.next with
    | mk after answer =>
      rw [hout] at ih
      cases ih hnext with
      | atEnd hend hplaced hlast hnil => exact .atEnd hend hplaced hlast (hahead ▸ hnil)
      | piece hpiece hplaced hlast hle hcons =>
        exact .piece hpiece hplaced hlast hle (hahead ▸ hcons)

/-! ### Skipping -/

/-- Moving forward passes as many bytes as there are, and says whether they were enough. -/
theorem advance_placed (h : Placed blocks position reader) (count : Nat) :
    ∃ after, skip.advance reader count =
        (after, decide (count ≤ blocks.contents.length - position)) ∧
      Placed blocks (min (position + count) blocks.contents.length) after ∧
      after.lastPiece = reader.lastPiece := by
  fun_induction skip.advance reader count generalizing position with
  | case1 reader =>
    refine ⟨reader, by simp, ?_, rfl⟩
    rw [Nat.add_zero, Nat.min_eq_left h.le]
    exact h
  | case2 reader count hne hpiece =>
    have hend := h.eq_length hpiece
    refine ⟨reader, ?_, ?_, rfl⟩
    · rw [decide_eq_false (by omega)]
    · rw [Nat.min_eq_right (by omega), ← hend]
      exact h
  | case3 reader count hne piece hpiece available =>
    rename_i hle
    have hcurrent : reader.current.length = piece.length := by simp [current, hpiece]
    have hroom : count ≤ (blocks.contents.drop position).length := by
      rw [h.drop_eq, List.length_append, List.length_drop, hcurrent]
      exact Nat.le_trans hle (Nat.le_add_right _ _)
    rw [List.length_drop] at hroom
    have hinside := h.le
    have hoffset := h.offset_le
    refine ⟨_, congrArg (Prod.mk _) (decide_eq_true hroom).symm, ?_, rfl⟩
    rw [Nat.min_eq_left (by omega)]
    refine h.within rfl rfl ?_ ?_ (congrArg (· + count) h.byteCount_eq)
    · simp only
      omega
    · simp only
      omega
  | case4 reader count hne piece hpiece available =>
    rename_i hlt ih
    have hnext : Placed blocks (position + (piece.length - reader.offset)) { reader with
        block := reader.block + 1, offset := 0,
        byteCount := reader.byteCount + (piece.length - reader.offset) } :=
      h.nextBlock hpiece rfl rfl rfl rfl
    obtain ⟨after, hadvance, hplaced, hlast⟩ := ih hnext
    have hinside := hnext.le
    refine ⟨after, ?_, ?_, hlast⟩
    · rw [hadvance]
      congr 1
      exact decide_eq_decide.2 (by omega)
    · have hsum : position + (piece.length - reader.offset) +
          (count - (piece.length - reader.offset)) = position + count := by omega
      rwa [hsum] at hplaced

/-- **Skipping moves the position** by the count, or to the end, and says which. -/
theorem skip_placed (h : Placed blocks position reader) (count : Nat) :
    ∃ after, reader.skip count =
        (after, decide (count ≤ blocks.contents.length - position)) ∧
      Placed blocks (min (position + count) blocks.contents.length) after ∧
      after.lastPiece = 0 :=
  have hplaced : Placed blocks position { reader with lastPiece := 0 } :=
    ⟨h.blocks_eq, h.offset_le, h.position_eq, h.byteCount_eq⟩
  advance_placed hplaced count

/-! ### Taking back and reading -/

/-- The end of the last piece is taken back exactly if it has as many bytes. -/
theorem exists_backUp_iff (reader : Reader) (count : Nat) :
    (∃ after, reader.backUp count = .ok after) ↔ count ≤ reader.lastPiece := by
  unfold backUp
  split_ifs with hlt
  · simp [hlt]
  · simp [Nat.le_of_not_lt hlt]

/-- **Taking back moves the position** towards the front, inside the current block. -/
theorem backUp_placed (h : Placed blocks position reader) {count : Nat}
    (hcount : count ≤ reader.lastPiece) (hlast : reader.lastPiece ≤ reader.offset) :
    ∃ after, reader.backUp count = .ok after ∧ Placed blocks (position - count) after ∧
      after.lastPiece = 0 := by
  have hback : reader.backUp count = .ok { reader with
      offset := reader.offset - count, lastPiece := 0, byteCount := reader.byteCount - count } := by
    unfold backUp
    rw [if_neg (Nat.not_lt.2 hcount)]
  have hposition := h.position_eq
  refine ⟨_, hback, h.within rfl rfl ?_ ?_ (congrArg (· - count) h.byteCount_eq), rfl⟩
  · exact Nat.le_trans (Nat.sub_le _ _) h.offset_le
  · simp only
    omega

/-- What is read of the next piece stands in the message from the position on, and something is read
unless the reader is at the end. -/
theorem take_next (h : Placed blocks position reader) {count : Nat} (hcount : count ≠ 0)
    {bytes : Bytes} (hbytes : bytes = (reader.next.2.getD []).take count) :
    (blocks.contents.drop position).take bytes.length = bytes ∧ bytes.length ≤ count ∧
      (bytes.length = 0 → position = blocks.contents.length) := by
  have hnext := next_outcome h
  generalize reader.next = answer at hnext hbytes
  cases hnext with
  | atEnd hend =>
    rw [Option.getD_none, List.take_nil] at hbytes
    subst hbytes
    exact ⟨rfl, Nat.zero_le _, fun _ => hend⟩
  | @piece _ piece hpiece =>
    rw [Option.getD_some] at hbytes
    subst hbytes
    refine ⟨?_, ?_, ?_⟩
    · exact (List.prefix_iff_eq_take.1 ((List.take_prefix _ _).trans hpiece.prefix_drop)).symm
    · rw [List.length_take]
      exact Nat.min_le_left _ _
    · intro hzero
      have hpos := List.length_pos_iff.2 hpiece.ne_nil
      rw [List.length_take] at hzero
      omega

/-- **Reading gives the front of the next piece**, and moves the position behind what was read. At
the end nothing is read. -/
theorem read_placed (h : Placed blocks position reader) {count : Nat} (hcount : count ≠ 0) :
    ∃ after bytes, reader.read count = (after, bytes) ∧
      bytes = (reader.next.2.getD []).take count ∧
      Placed blocks (position + bytes.length) after ∧ after.lastPiece = 0 := by
  have hnext := next_outcome h
  cases hout : reader.next with
  | mk granted answer =>
    rw [hout] at hnext
    cases hnext with
    | atEnd hend hplaced hlast hahead =>
      refine ⟨granted, [], ?_, List.take_nil.symm, hplaced, hlast⟩
      simp only [read, hcount, hout, if_false]
    | @piece _ piece hpiece hplaced hlast hle hahead =>
      have hunread : piece.length - min piece.length count ≤ granted.lastPiece := by omega
      obtain ⟨after, hback, hplaced', hlast'⟩ := backUp_placed hplaced hunread (by omega)
      refine ⟨after, piece.take count, ?_, rfl, ?_, hlast'⟩
      · simp only [read, hcount, hout, if_false, hback]
        rw [Nat.min_comm, ← List.take_eq_take_min]
      · have hback : position + piece.length - (piece.length - min piece.length count) =
            position + (piece.take count).length := by
          rw [List.length_take]
          omega
        rwa [hback] at hplaced'

/-- Reading a number of bytes gives those behind the position, if there are as many. -/
theorem collect_placed (h : Placed blocks position reader) {count : Nat} (hcount : count ≠ 0)
    (done : Bytes) :
    ∃ after, readExact.collect reader count done =
        (after, if count ≤ blocks.contents.length - position then
          some (done ++ (blocks.contents.drop position).take count) else none) ∧
      Placed blocks (min (position + count) blocks.contents.length) after ∧
      after.lastPiece = 0 := by
  fun_induction readExact.collect reader count done generalizing position with
  | case1 reader done => exact absurd rfl hcount
  | case2 reader count done hne after bytes hread hzero =>
    obtain ⟨after', bytes', hread', hbytes, hplaced, hlast⟩ := read_placed h hne
    rw [hread] at hread'
    cases hread'
    have hend := (take_next h hne hbytes).2.2 hzero
    refine ⟨after, by rw [if_neg (by omega)], ?_, hlast⟩
    rw [hzero, Nat.add_zero] at hplaced
    rwa [Nat.min_eq_right (by omega), ← hend]
  | case3 reader count done hne after bytes hread hpos ih =>
    obtain ⟨after', bytes', hread', hbytes, hplaced, hlast⟩ := read_placed h hne
    rw [hread] at hread'
    cases hread'
    have hinside := hplaced.le
    obtain ⟨hfront, hshort, -⟩ := take_next h hne hbytes
    have hsplit : (blocks.contents.drop position).take count =
        bytes ++ (blocks.contents.drop (position + bytes.length)).take (count - bytes.length) := by
      calc (blocks.contents.drop position).take count
          = (blocks.contents.drop position).take (bytes.length + (count - bytes.length)) := by
            rw [Nat.add_sub_cancel' hshort]
        _ = bytes ++ (blocks.contents.drop (position + bytes.length)).take
              (count - bytes.length) := by
            rw [List.take_add, hfront, List.drop_drop]
    by_cases hrest : count - bytes.length = 0
    · have hall : bytes.length = count := by omega
      refine ⟨after, ?_, ?_, hlast⟩
      · rw [readExact.collect, if_pos hrest, if_pos (by omega), hsplit, hrest, List.take_zero,
          List.append_nil]
      · rwa [hall, ← Nat.min_eq_left (by omega : position + count ≤ blocks.contents.length)]
          at hplaced
    · obtain ⟨last, hcollect, hplaced', hlast'⟩ := ih hplaced hrest
      refine ⟨last, ?_, ?_, hlast'⟩
      · rw [hcollect, hsplit, List.append_assoc]
        congr 1
        by_cases hroom : count ≤ blocks.contents.length - position
        · rw [if_pos hroom, if_pos (by omega)]
        · rw [if_neg hroom, if_neg (by omega)]
      · have hsum : position + bytes.length + (count - bytes.length) = position + count := by omega
        rwa [hsum] at hplaced'

/-- **Reading a number of bytes** gives those behind the position, if there are as many, and moves
the position by the count, or to the end. -/
theorem readExact_placed (h : Placed blocks position reader) {count : Nat} (hcount : count ≠ 0) :
    ∃ after, reader.readExact count =
        (after, if count ≤ blocks.contents.length - position then
          some ((blocks.contents.drop position).take count) else none) ∧
      Placed blocks (min (position + count) blocks.contents.length) after ∧
      after.lastPiece = 0 :=
  collect_placed h hcount []

/-- The pieces that are left are handed out one after the other, if they are asked for often
enough. -/
theorem pieces_placed (h : Placed blocks position reader) {most : Nat}
    (hmost : reader.ahead.length < most) :
    ∃ after, drain.pieces most reader = (after, reader.ahead) ∧
      Placed blocks blocks.contents.length after ∧ after.lastPiece = 0 := by
  induction most generalizing reader position with
  | zero => cases hmost
  | succ most ih =>
    have hnext := next_outcome h
    cases hout : reader.next with
    | mk granted answer =>
      rw [hout] at hnext
      cases hnext with
      | atEnd hend hplaced hlast hahead =>
        refine ⟨granted, ?_, hend ▸ hplaced, hlast⟩
        simp only [drain.pieces, hout, hahead]
      | @piece _ piece hpiece hplaced hlast hle hahead =>
        rw [hahead, List.length_cons] at hmost
        obtain ⟨last, hrest, hplaced', hlast'⟩ := ih hplaced (Nat.lt_of_succ_lt_succ hmost)
        refine ⟨last, ?_, hplaced', hlast'⟩
        simp only [drain.pieces, hout, hrest, hahead]

/-- There are not more pieces left than there are blocks. -/
theorem length_ahead_le (reader : Reader) : reader.ahead.length ≤ reader.blocks.count := by
  rw [← Blocks.length_pieces]
  cases hpiece : reader.blocks.pieces[reader.block]? with
  | none =>
    have hle := List.getElem?_eq_none_iff.1 hpiece
    rw [ahead, List.drop_of_length_le (Nat.le_succ_of_le hle), current, Blocks.piece?_eq_getElem?,
      hpiece]
    simp
  | some piece =>
    obtain ⟨hlt, -⟩ := List.getElem?_eq_some_iff.1 hpiece
    refine Nat.le_trans (List.length_filter_le _ _) ?_
    rw [List.length_cons, List.length_drop]
    omega

/-- **Reading to the end** gives everything behind the position. -/
theorem readToEnd_placed (h : Placed blocks position reader) :
    ∃ after, reader.readToEnd = (after, blocks.contents.drop position) ∧
      Placed blocks blocks.contents.length after ∧ after.lastPiece = 0 := by
  obtain ⟨after, hpieces, hplaced, hlast⟩ :=
    pieces_placed h (Nat.lt_succ_of_le reader.length_ahead_le)
  refine ⟨after, ?_, hplaced, hlast⟩
  simp only [readToEnd, drain, hpieces, h.flatten_ahead]

end PeerNet.Buffer.Reader
