import PeerNet.Buffer.Blocks

/-!
# Reading a message in blocks

A reader hands out the contents of a message piece by piece, each piece the unread part of one
block, and takes back the end of the last piece. It never passes the end of the message.
-/

namespace PeerNet.Buffer

/-- A reader inside a message. -/
structure Reader where
  /-- The message. -/
  blocks : Blocks
  /-- The index of the current block. -/
  block : Nat
  /-- The position in the current block. -/
  offset : Nat
  /-- The size of the piece that may be given back. -/
  lastPiece : Nat
  /-- The position in the message. -/
  byteCount : Nat
  deriving DecidableEq, Repr

namespace Reader

/-- A reader at the front of a message. -/
def start (blocks : Blocks) : Reader := ⟨blocks, 0, 0, 0, 0⟩

/-- The number of bytes that are left. -/
def remaining (reader : Reader) : Nat := reader.blocks.length - reader.byteCount

/-- The reader at the front of the next block. -/
def nextBlock (reader : Reader) : Reader := { reader with block := reader.block + 1, offset := 0 }

/-- A reader that sees bytes stands on one of its blocks. -/
theorem block_lt_count {reader : Reader} {piece : Bytes}
    (h : reader.blocks.piece? reader.block = some piece) : reader.block < reader.blocks.count := by
  simp only [Blocks.piece?, Option.map_eq_some_iff] at h
  obtain ⟨block, hblock, _⟩ := h
  exact (Array.getElem?_eq_some_iff.1 hblock).1

/-- The unread part of the next block that has one. -/
def next (reader : Reader) : Reader × Option Bytes :=
  match _h : reader.blocks.piece? reader.block with
  | none => ({ reader with lastPiece := 0 }, none)
  | some piece =>
    if reader.offset < piece.length then
      let unread := piece.drop reader.offset
      ({ reader with
          offset := piece.length
          lastPiece := unread.length
          byteCount := reader.byteCount + unread.length },
        some unread)
    else reader.nextBlock.next
termination_by reader.blocks.count - reader.block
decreasing_by
  have := block_lt_count _h
  simp only [nextBlock]
  omega

/-- Takes back the last `count` bytes of the last piece. -/
def backUp (reader : Reader) (count : Nat) : Except Fault Reader :=
  if reader.lastPiece < count then .error (.backUpPastPiece count reader.lastPiece)
  else
    .ok { reader with
      offset := reader.offset - count
      lastPiece := 0
      byteCount := reader.byteCount - count }

/-- Moves forward by `count` bytes, or to the end. Says whether there were as many. -/
def skip (reader : Reader) (count : Nat) : Reader × Bool :=
  advance { reader with lastPiece := 0 } count
where
  /-- Moves forward inside the blocks. -/
  advance (reader : Reader) (count : Nat) : Reader × Bool :=
    if count = 0 then (reader, true)
    else
      match _h : reader.blocks.piece? reader.block with
      | none => (reader, false)
      | some piece =>
        let available := piece.length - reader.offset
        if count ≤ available then
          ({ reader with
              offset := reader.offset + count
              byteCount := reader.byteCount + count },
            true)
        else
          advance { reader with
            block := reader.block + 1
            offset := 0
            byteCount := reader.byteCount + available } (count - available)
  termination_by reader.blocks.count - reader.block
  decreasing_by
    have := block_lt_count _h
    omega

/-- Reads at most `count` bytes, all from one piece; none only at the end or when none are wanted.
-/
def read (reader : Reader) (count : Nat) : Reader × Bytes :=
  if count = 0 then (reader, [])
  else
    match reader.next with
    | (after, none) => (after, [])
    | (after, some piece) =>
      let taken := min piece.length count
      match after.backUp (piece.length - taken) with
      | .ok after => (after, piece.take taken)
      | .error _ => (after, [])

/-- Reads `count` bytes, or nothing if there are not as many; the bytes before the end are then
passed all the same. -/
def readExact (reader : Reader) (count : Nat) : Reader × Option Bytes :=
  collect reader count []
where
  /-- Reads `count` bytes more, after those in `done`. -/
  collect (reader : Reader) (count : Nat) (done : Bytes) : Reader × Option Bytes :=
    if count = 0 then (reader, some done)
    else
      let (after, bytes) := reader.read count
      if bytes.length = 0 then (after, none)
      else collect after (count - bytes.length) (done ++ bytes)
  termination_by count
  decreasing_by omega

/-- Hands out all pieces that are left. -/
def drain (reader : Reader) : Reader × List Bytes :=
  pieces (reader.blocks.count + 1) reader
where
  /-- Hands out at most `most` pieces. As each but the first starts a new block, one more than there
  are blocks is enough. -/
  pieces : (most : Nat) → Reader → Reader × List Bytes
    | 0, reader => (reader, [])
    | most + 1, reader =>
      match reader.next with
      | (after, none) => (after, [])
      | (after, some piece) =>
        let (last, rest) := pieces most after
        (last, piece :: rest)

/-- Reads all bytes that are left. -/
def readToEnd (reader : Reader) : Reader × Bytes :=
  let (after, pieces) := reader.drain
  (after, pieces.flatten)

end Reader

end PeerNet.Buffer
