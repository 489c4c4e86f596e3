import PeerNet.Proofs.Buffer.ReaderCursor

/-!
# The arithmetic of a reader

Natural subtraction stops at zero, where a machine's gives up. Here the operations of a reader are
written with a subtraction that gives up (`minus`), and with the loops that a machine runs: skipping
goes on block by block and adds to the position at the end only, and reading to the end is reading
into buffers of any sizes until nothing comes. At a position of the message they never give up, and
are the operations of the library.

* **Operations** (`remaining?_eq`, `backUp?_eq`, `skip?_eq`, `read?_eq`, `readExact?_eq`).
* **Reading to the end** (`readAll?_placed`): whatever the sizes of the buffers are, the loop ends
  and has read everything behind the position.
* **All of them** (`Placed.neverGivesUp`).
-/

namespace PeerNet.Buffer.Reader

variable {blocks : Blocks} {position : Nat} {reader : Reader}

/-- The difference of two numbers, if it is one. -/
def minus (a b : Nat) : Option Nat := if b ≤ a then some (a - b) else none

/-- A subtraction whose result is not negative does not give up. -/
theorem minus_of_le {a b : Nat} (h : b ≤ a) : minus a b = some (a - b) := if_pos h

/-! ### Operations that may give up -/

/-- The number of bytes that are left. -/
def remaining? (reader : Reader) : Option Nat := minus reader.blocks.length reader.byteCount

/-- Takes back the last `count` bytes of the last piece. -/
def backUp? (reader : Reader) (count : Nat) : Option (Except Fault Reader) :=
  if reader.lastPiece < count then some (.error (.backUpPastPiece count reader.lastPiece))
  else do
    let offset ← minus reader.offset count
    let byteCount ← minus reader.byteCount count
    return .ok { reader with offset := offset, lastPiece := 0, byteCount := byteCount }

/-- Moves forward by `count` bytes, or to the end. -/
def skip? (reader : Reader) (count : Nat) : Option (Reader × Bool) :=
  loop { reader with lastPiece := 0 } count count
where
  /-- Moves forward while `left` of the `count` bytes are left to be passed. -/
  loop (reader : Reader) (count left : Nat) : Option (Reader × Bool) :=
    if left = 0 then some ({ reader with byteCount := reader.byteCount + count }, true)
    else
      match _h : reader.blocks.piece? reader.block with
      | none =>
        (minus count left).map fun passed =>
          ({ reader with byteCount := reader.byteCount + passed }, false)
      | some piece =>
        match minus piece.length reader.offset with
        | none => none
        | some available =>
          if available = 0 then loop reader.nextBlock count left
          else
            let passed := min available left
            if left < passed then none
            else loop { reader with offset := reader.offset + passed } count (left - passed)
  termination_by (reader.blocks.count - reader.block, left)
  decreasing_by
    · have := block_lt_count _h
      exact Prod.Lex.left _ _ (by simp only [nextBlock]; omega)
    · exact Prod.Lex.right _ (by omega)

/-- Reads at most `count` bytes, all from one piece. -/
def read? (reader : Reader) (count : Nat) : Option (Reader × Bytes) :=
  if count = 0 then some (reader, [])
  else
    match reader.next with
    | (after, none) => some (after, [])
    | (after, some piece) => do
      let taken := min piece.length count
      let unread ← minus piece.length taken
      match ← after.backUp? unread with
      | .ok after => return (after, piece.take taken)
      | .error _ => return (after, [])

/-- Reads `count` bytes, or nothing if there are not as many. -/
def readExact? (reader : Reader) (count : Nat) : Option (Reader × Option Bytes) :=
  collect reader count []
where
  /-- Reads `count` bytes more, after those in `done`. -/
  collect (reader : Reader) (count : Nat) (done : Bytes) : Option (Reader × Option Bytes) :=
    if count = 0 then some (reader, some done)
    else
      match reader.read? count with
      | none => none
      | some (after, bytes) =>
        if bytes.length = 0 then some (after, none)
        else collect after (count - bytes.length) (done ++ bytes)
  termination_by count
  decreasing_by omega

/-- Reads into buffers of the given sizes, at most `most` of them, until nothing comes. -/
def readAll? (sizes : Nat → Nat) : (most : Nat) → Reader → Bytes → Option (Reader × Bytes)
  | 0, _, _ => none
  | most + 1, reader, done =>
    match reader.read? (sizes most) with
    | none => none
    | some (after, bytes) =>
      if bytes.length = 0 then some (after, done)
      else readAll? sizes most after (done ++ bytes)

/-! ### They never give up -/

/-- Counting the bytes left never goes below zero: the position is inside the blocks. -/
theorem remaining?_eq (h : Placed blocks position reader) (hblocks : blocks.WellFormed) :
    reader.remaining? = some reader.remaining := by
  have hle := h.le
  refine minus_of_le ?_
  rw [h.blocks_eq, hblocks.length_eq, h.byteCount_eq]
  exact hle

/-- Backing up never goes below zero: the last piece ends where the reader stands. -/
theorem backUp?_eq (h : Placed blocks position reader) (hlast : reader.lastPiece ≤ reader.offset)
    (count : Nat) : reader.backUp? count = some (reader.backUp count) := by
  unfold backUp? backUp
  split_ifs with hlt
  · rfl
  · have hposition := h.position_eq
    have hcount := h.byteCount_eq
    rw [minus_of_le (by omega), minus_of_le (by omega)]
    rfl

/-- One step of moving forward inside the current block, or past it. -/
theorem advance_of_piece {piece : Bytes}
    (hpiece : reader.blocks.piece? reader.block = some piece) {count : Nat} (hcount : count ≠ 0) :
    skip.advance reader count =
      if count ≤ piece.length - reader.offset then
        ({ reader with
            offset := reader.offset + count
            byteCount := reader.byteCount + count },
          true)
      else
        skip.advance { reader with
          block := reader.block + 1
          offset := 0
          byteCount := reader.byteCount + (piece.length - reader.offset) }
          (count - (piece.length - reader.offset)) := by
  rw [skip.advance, if_neg hcount]
  split
  · next hnone => exact absurd (hpiece.symm.trans hnone) (by simp)
  · next piece' hpiece' =>
    obtain rfl := Option.some.inj (hpiece.symm.trans hpiece')
    rfl

/-- Behind the last byte of a block a reader moves forward as from the front of the next block. -/
theorem advance_nextBlock {piece : Bytes} (hpiece : reader.blocks.piece? reader.block = some piece)
    (hoffset : piece.length ≤ reader.offset) {count : Nat} (hcount : count ≠ 0) :
    skip.advance reader count = skip.advance reader.nextBlock count := by
  have hzero : piece.length - reader.offset = 0 := Nat.sub_eq_zero_of_le hoffset
  rw [advance_of_piece hpiece hcount, hzero, if_neg (by omega)]
  rfl

/-- A reader may move forward in two steps, the first inside the current block. -/
theorem advance_within {piece : Bytes} (hpiece : reader.blocks.piece? reader.block = some piece)
    {count passed : Nat} (hroom : passed ≤ piece.length - reader.offset) (hle : passed ≤ count) :
    skip.advance reader count =
      skip.advance { reader with
        offset := reader.offset + passed
        byteCount := reader.byteCount + passed } (count - passed) := by
  by_cases hall : count - passed = 0
  · obtain rfl : passed = count := by omega
    by_cases hzero : passed = 0
    · subst hzero
      rfl
    · rw [advance_of_piece hpiece hzero, if_pos hroom, hall, skip.advance, if_pos rfl]
  · have hpiece' : Blocks.piece? (Reader.blocks { reader with
          offset := reader.offset + passed, byteCount := reader.byteCount + passed })
        (Reader.block { reader with
          offset := reader.offset + passed, byteCount := reader.byteCount + passed }) =
        some piece := hpiece
    rw [advance_of_piece hpiece (by omega), advance_of_piece hpiece' hall]
    simp only
    by_cases hinside : count ≤ piece.length - reader.offset
    · rw [if_pos hinside, if_pos (by omega), Nat.add_assoc, Nat.add_assoc,
        Nat.add_sub_cancel' hle]
    · have hrest : piece.length - (reader.offset + passed) =
          piece.length - reader.offset - passed := Nat.sub_add_eq _ _ _
      rw [if_neg hinside, if_neg (by omega), hrest, Nat.add_assoc, Nat.add_sub_cancel' hroom,
        Nat.sub_sub_sub_cancel_right hroom]

/-- The reader with bytes added to its position that it has passed. -/
def plus (reader : Reader) (passed : Nat) : Reader :=
  { reader with byteCount := reader.byteCount + passed }

/-- The loop of a machine moves forward as the reader does. Its position is behind by what it has
passed. -/
theorem loop_eq {count left : Nat} (hleft : left ≤ count)
    (h : Placed blocks position (reader.plus (count - left))) :
    skip?.loop reader count left = some (skip.advance (reader.plus (count - left)) left) := by
  fun_induction skip?.loop reader count left generalizing position with
  | case1 reader =>
    rw [skip.advance]
    rfl
  | case2 reader left hne hpiece =>
    rw [minus_of_le hleft, skip.advance, if_neg hne]
    split
    · rfl
    · next piece hpiece' => exact absurd (hpiece.symm.trans hpiece') (by simp)
  | case3 reader left hne piece hpiece hminus =>
    -- the offset does not pass the end of the block
    have hoffset := h.offset_le
    simp only [current, plus, hpiece, Option.getD_some] at hoffset
    rw [minus_of_le hoffset] at hminus
    cases hminus
  | case4 reader left hne piece hpiece hminus ih =>
    have hoffset := h.offset_le
    simp only [current, plus, hpiece, Option.getD_some] at hoffset
    rw [minus_of_le hoffset, Option.some.injEq] at hminus
    have hnext : Placed blocks (position + (piece.length - reader.offset))
        (reader.nextBlock.plus (count - left)) :=
      h.nextBlock hpiece rfl rfl rfl (by simp [plus, nextBlock, hminus])
    have hpiece' : (reader.plus (count - left)).blocks.piece? (reader.plus (count - left)).block =
        some piece := hpiece
    rw [ih hleft hnext, advance_nextBlock hpiece' (Nat.le_of_sub_eq_zero hminus) hne]
    rfl
  | case5 => omega
  | case6 reader left hne piece hpiece available hminus hzero passed =>
    rename_i hlt ih
    have hoffset := h.offset_le
    simp only [current, plus, hpiece, Option.getD_some] at hoffset
    rw [minus_of_le hoffset, Option.some.injEq] at hminus
    have hpassed : passed = min available left := rfl
    have hsum : count - (left - passed) = count - left + passed := by omega
    have hthere : Placed blocks (position + passed)
        (plus { reader with offset := reader.offset + passed } (count - (left - passed))) := by
      refine h.within rfl rfl ?_ ?_ ?_
      · simp only [current, plus, hpiece, Option.getD_some]
        omega
      · simp only [plus]
        omega
      · have hcount := h.byteCount_eq
        simp only [plus, hsum] at hcount ⊢
        omega
    have hpiece' : (reader.plus (count - left)).blocks.piece? (reader.plus (count - left)).block =
        some piece := hpiece
    have hroom : passed ≤ piece.length - (reader.plus (count - left)).offset := by
      rw [plus, hminus]
      exact Nat.min_le_left _ _
    rw [ih (by omega) hthere, advance_within hpiece' hroom (Nat.min_le_right _ _)]
    simp only [plus, hsum, Nat.add_assoc]

/-- Moving forward never gives up. -/
theorem skip?_eq (h : Placed blocks position reader) (count : Nat) :
    reader.skip? count = some (reader.skip count) := by
  have hstart : plus { reader with lastPiece := 0 } (count - count) =
      { reader with lastPiece := 0 } := by
    rw [Nat.sub_self]
    rfl
  have hplaced : Placed blocks position { reader with lastPiece := 0 } :=
    ⟨h.blocks_eq, h.offset_le, h.position_eq, h.byteCount_eq⟩
  rw [skip?, loop_eq (Nat.le_refl count) (hstart ▸ hplaced), hstart]
  rfl

/-- Reading from one piece never gives up. -/
theorem read?_eq (h : Placed blocks position reader) (count : Nat) :
    reader.read? count = some (reader.read count) := by
  by_cases hcount : count = 0
  · simp only [read?, read, hcount, if_true]
  · have hnext := next_outcome h
    cases hout : reader.next with
    | mk granted answer =>
      rw [hout] at hnext
      cases hnext with
      | atEnd hend hplaced hlast hahead => simp only [read?, read, hcount, hout, if_false]
      | @piece _ piece hpiece hplaced hlast hle hahead =>
        have hback := backUp?_eq hplaced (hlast ▸ hle) (piece.length - min piece.length count)
        simp only [read?, read, hcount, hout, if_false, minus_of_le (Nat.min_le_left _ _),
          Option.bind_eq_bind, Option.bind_some, hback]
        cases granted.backUp (piece.length - min piece.length count) <;> rfl

/-- Reading a number of bytes never gives up. -/
theorem readExact?_eq (h : Placed blocks position reader) (count : Nat) :
    reader.readExact? count = some (reader.readExact count) := by
  unfold readExact? readExact
  generalize ([] : Bytes) = done
  fun_induction readExact.collect reader count done generalizing position with
  | case1 reader done => rw [readExact?.collect, if_pos rfl]
  | case2 reader count done hne after bytes hread hzero =>
    rw [readExact?.collect, if_neg hne, read?_eq h, hread]
    simp only [hzero, if_true]
  | case3 reader count done hne after bytes hread hpos ih =>
    obtain ⟨after', bytes', hread', -, hplaced, -⟩ := read_placed h hne
    obtain ⟨rfl, rfl⟩ := Prod.mk.inj (hread.symm.trans hread')
    rw [readExact?.collect, if_neg hne, read?_eq h, hread]
    simp only [hpos, if_false]
    exact ih hplaced

/-- **Reading to the end never gives up, and the loop ends**, whatever the sizes of the buffers are
that are read into: the bytes are all that stand behind the position. -/
theorem readAll?_placed (h : Placed blocks position reader) {sizes : Nat → Nat}
    (hsizes : ∀ i, sizes i ≠ 0) {most : Nat} (hmost : blocks.contents.length - position < most)
    (done : Bytes) :
    ∃ after, readAll? sizes most reader done =
        some (after, done ++ blocks.contents.drop position) ∧
      Placed blocks blocks.contents.length after ∧ after.lastPiece = 0 := by
  induction most generalizing reader position done with
  | zero => cases hmost
  | succ most ih =>
    obtain ⟨after, bytes, hread, hbytes, hplaced, hlast⟩ := read_placed h (hsizes most)
    have hread' : reader.read? (sizes most) = some (after, bytes) := by
      rw [read?_eq h, hread]
    obtain ⟨hfront, -, hend⟩ := take_next h (hsizes most) hbytes
    by_cases hzero : bytes.length = 0
    · have hend := hend hzero
      refine ⟨after, ?_, ?_, hlast⟩
      · simp only [readAll?, hread', hzero, if_true, hend, List.drop_length, List.append_nil]
      · rwa [hzero, Nat.add_zero, hend] at hplaced
    · have hinside := hplaced.le
      obtain ⟨last, hrest, hplaced', hlast'⟩ := ih hplaced (by omega) (done ++ bytes)
      have hsplit : bytes ++ blocks.contents.drop (position + bytes.length) =
          blocks.contents.drop position := by
        calc bytes ++ blocks.contents.drop (position + bytes.length)
            = (blocks.contents.drop position).take bytes.length ++
                (blocks.contents.drop position).drop bytes.length := by
              rw [hfront, List.drop_drop]
          _ = blocks.contents.drop position := List.take_append_drop _ _
      refine ⟨last, ?_, hplaced', hlast'⟩
      simp only [readAll?, hread', hzero, if_false, hrest, List.append_assoc, hsplit]

/-- In every operation of a reader in front of `left` bytes the subtractions are possible, and every
loop ends. -/
structure NeverGivesUp (left : Nat) (reader : Reader) : Prop where
  /-- The number of bytes that are left. -/
  remaining : reader.remaining? = some reader.remaining
  /-- Taking back. -/
  backUp : ∀ count, reader.backUp? count = some (reader.backUp count)
  /-- Moving forward. -/
  skip : ∀ count, reader.skip? count = some (reader.skip count)
  /-- Reading from one piece. -/
  read : ∀ count, reader.read? count = some (reader.read count)
  /-- Reading a number of bytes. -/
  readExact : ∀ count, reader.readExact? count = some (reader.readExact count)
  /-- Reading to the end, into buffers of any sizes. -/
  readToEnd : ∀ sizes : Nat → Nat, (∀ i, sizes i ≠ 0) →
    ∃ after, readAll? sizes (left + 1) reader [] = some (after, reader.readToEnd.2)

/-- **No operation gives up** at a position of the message. -/
theorem Placed.neverGivesUp (h : Placed blocks position reader) (hblocks : blocks.WellFormed)
    (hlast : reader.lastPiece ≤ reader.offset) :
    reader.NeverGivesUp (blocks.contents.length - position) where
  remaining := remaining?_eq h hblocks
  backUp := backUp?_eq h hlast
  skip := skip?_eq h
  read := read?_eq h
  readExact := readExact?_eq h
  readToEnd sizes hsizes := by
    obtain ⟨after, hread, -⟩ := readAll?_placed h hsizes (Nat.lt_succ_self _) []
    obtain ⟨last, hend, -⟩ := readToEnd_placed h
    exact ⟨after, by rw [hread, hend, List.nil_append]⟩

end PeerNet.Buffer.Reader
