import PeerNet.Buffer.Blocks

/-!
# Writing a message in blocks

A writer appends blocks of one size to a message and grants their free part to its user, who fills
it and gives back what was too much. A whole grant counts as written until part of it is given back.
Blocks that were there before are left alone. The last block keeps its full length until
`Writer.finish` declares how much of it was written.

`Writer.write` and `Writer.writeAll` copy bytes into grants.
-/

namespace PeerNet.Buffer

/-- A writer at the end of a message. -/
structure Writer where
  /-- The message. -/
  blocks : Blocks
  /-- The size of the blocks to append, never zero. -/
  blockSize : Nat
  /-- Whether the last block was appended by this writer. -/
  ownsTail : Bool
  /-- How much of the last block is written. -/
  lastUsed : Nat
  /-- The size of the last grant, as long as part of it may be given back. -/
  lastGrant : Option Nat
  /-- How many bytes were written. -/
  byteCount : Nat
  deriving DecidableEq, Repr

namespace Writer

/-- A writer that appends blocks of `blockSize` bytes; zero counts as one. -/
def start (blocks : Blocks) (blockSize : Nat) : Writer :=
  ⟨blocks, max blockSize 1, false, 0, none, 0⟩

/-- Reserves `size` bytes at the front, to be written when the rest is known. The range is where
they are. Only before the first grant. -/
def reserveHead (writer : Writer) (size : Nat) : Except Fault (Writer × BlockRange) :=
  if writer.ownsTail || writer.byteCount ≠ 0 then .error .headTooLate
  else if writer.blockSize ≤ size then .error (.headTooLarge size writer.blockSize)
  else
    .ok ({ writer with
        blocks := writer.blocks.grow writer.blockSize
        ownsTail := true
        lastUsed := size
        byteCount := size },
      ⟨.ofNat writer.blocks.count, 0, UInt64.ofNat size⟩)

/-- The writer with a block to write to: a new one if the last is full or not its own. -/
def withRoom (writer : Writer) : Writer :=
  let full := match writer.blocks.last? with
    | some block => block.capacity ≤ writer.lastUsed
    | none => true
  if !writer.ownsTail || full then
    { writer with
      blocks := writer.blocks.grow writer.blockSize
      ownsTail := true
      lastUsed := 0 }
  else writer

/-- Grants the free part of the last block, and writes `fill` over its front, as much as there is
room for. Gives the granted bytes as they were before. -/
def grant (writer : Writer) (fill : Bytes) : Writer × Bytes :=
  let writer := writer.withRoom
  match writer.blocks.last? with
  | none => (writer, [])
  | some block =>
    let region := block.storage.drop writer.lastUsed
    ({ writer with
        blocks := writer.blocks.setLast (block.write writer.lastUsed (fill.take region.length))
        lastUsed := block.capacity
        lastGrant := some region.length
        byteCount := writer.byteCount + region.length },
      region)

/-- Gives back the last `count` bytes of the last grant. Once, and directly after the grant. -/
def backUp (writer : Writer) (count : Nat) : Except Fault Writer :=
  match writer.lastGrant with
  | none => .error .backUpWithoutGrant
  | some grant =>
    if grant < count then .error (.backUpPastGrant count grant)
    else
      .ok { writer with
        lastUsed := writer.lastUsed - count
        lastGrant := none
        byteCount := writer.byteCount - count }

/-- Copies `bytes` into one grant, as many as fit, and gives back the rest of the grant. The number
is how many were copied. -/
def write (writer : Writer) (bytes : Bytes) : Writer × Nat :=
  if bytes.isEmpty then (writer, 0)
  else
    let (granted, region) := writer.grant bytes
    let copied := min region.length bytes.length
    match granted.backUp (region.length - copied) with
    | .ok after => (after, copied)
    | .error _ => (granted, 0)

/-- Copies all of `bytes`. -/
def writeAll (writer : Writer) (bytes : Bytes) : Writer :=
  if bytes.isEmpty then writer
  else
    let (after, copied) := writer.write bytes
    if copied = 0 then after
    else after.writeAll (bytes.drop copied)
termination_by bytes.length
decreasing_by
  rename_i hne hcopied
  simp only [List.isEmpty_iff] at hne
  have hpos : 0 < bytes.length := List.length_pos_iff.2 hne
  simp only [List.length_drop]
  omega

/-- Declares how much of the last block was written. Gives the message and the number of bytes that
were written. -/
def finish (writer : Writer) : Except Fault (Blocks × Nat) :=
  if writer.ownsTail then
    match writer.blocks.commitLast writer.lastUsed with
    | .ok blocks => .ok (blocks, writer.byteCount)
    | .error fault => .error fault
  else .ok (writer.blocks, writer.byteCount)

example : ((start .empty 4).write [1, 2, 3, 4, 5]).2 = 4 := rfl

example : ((start .empty 4).writeAll [1, 2, 3, 4, 5]).byteCount = 5 := by decide +kernel

end Writer

end PeerNet.Buffer
