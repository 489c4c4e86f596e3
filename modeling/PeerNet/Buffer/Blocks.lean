import PeerNet.Bytes
import PeerNet.Buffer.Fault

/-!
# Messages in blocks

A message is kept as a list of blocks. A block owns storage of a fixed size and declares how much of
it, counted from the front, belongs to the message; the bytes behind that are kept, so that a block
can be shortened and lengthened again. Only the last block's declared length is ever changed.

* `Blocks.contents` is the message as one string of bytes.
* `Blocks.range?` finds a range inside one block, with positions in machine arithmetic.
-/

namespace PeerNet.Buffer

/-- Storage of a fixed size, a front part of which is in use. -/
structure Block where
  /-- The whole storage. -/
  storage : Bytes
  /-- How many bytes of the storage are in use. -/
  length : Nat
  deriving DecidableEq, Repr

namespace Block

/-- A block of `size` zero bytes, all in use. -/
def zeroed (size : Nat) : Block := ⟨Bytes.zeros size, size⟩

/-- The bytes in use. -/
def contents (block : Block) : Bytes := block.storage.take block.length

/-- The size of the storage. -/
def capacity (block : Block) : Nat := block.storage.length

/-- The block with `bytes` written over its storage from position `start` on. -/
def write (block : Block) (start : Nat) (bytes : Bytes) : Block :=
  { block with storage := block.storage.overwrite start bytes }

/-- The declared length stays inside the storage. -/
def WellFormed (block : Block) : Prop := block.length ≤ block.capacity

instance (block : Block) : Decidable block.WellFormed := inferInstanceAs (Decidable (_ ≤ _))

/-- A block holds as many bytes as it declares. -/
theorem length_contents {block : Block} (h : block.WellFormed) :
    block.contents.length = block.length := by
  simp only [contents, List.length_take]
  exact Nat.min_eq_left h

end Block

/-- The index of a block in a message. -/
structure BlockIndex where
  /-- The index with this number. -/
  ofNat ::
  /-- How many blocks stand in front of the block. -/
  toNat : Nat
  deriving DecidableEq, Repr

/-- A range of bytes inside one block. The positions in the block are machine words. -/
structure BlockRange where
  /-- The index of the block. -/
  block : BlockIndex
  /-- The position of the first byte in the block. -/
  offset : UInt64
  /-- The number of bytes. -/
  length : UInt64
  deriving DecidableEq, Repr

/-- A message in blocks. -/
structure Blocks where
  /-- The blocks, the first one first. -/
  toArray : Array Block
  deriving DecidableEq, Repr

namespace Blocks

/-- The message without a block. -/
def empty : Blocks := ⟨#[]⟩

instance : Inhabited Blocks := ⟨empty⟩

/-- The blocks as a list. -/
def toList (blocks : Blocks) : List Block := blocks.toArray.toList

/-- The number of blocks. -/
def count (blocks : Blocks) : Nat := blocks.toArray.size

/-- The contents of every block. -/
def pieces (blocks : Blocks) : List Bytes := blocks.toList.map Block.contents

/-- The message as one string of bytes. -/
def contents (blocks : Blocks) : Bytes := blocks.pieces.flatten

/-- Every declared length stays inside its storage. -/
def WellFormed (blocks : Blocks) : Prop := ∀ block ∈ blocks.toList, block.WellFormed

instance (blocks : Blocks) : Decidable blocks.WellFormed :=
  inferInstanceAs (Decidable (∀ block ∈ blocks.toList, block.WellFormed))

/-- The sum of the declared lengths. -/
def length (blocks : Blocks) : Nat :=
  blocks.toList.foldr (fun block total => block.length + total) 0

/-- Whether the message has no byte. -/
def isEmpty (blocks : Blocks) : Bool := blocks.length == 0

/-- The contents of the block with index `i`. -/
def piece? (blocks : Blocks) (i : Nat) : Option Bytes := (blocks.toArray[i]?).map Block.contents

/-- The last block. -/
def last? (blocks : Blocks) : Option Block := blocks.toArray.back?

/-- The message with a block after the last one. -/
def push (blocks : Blocks) (block : Block) : Blocks := ⟨blocks.toArray.push block⟩

/-- The message with its last block replaced. -/
def setLast (blocks : Blocks) (block : Block) : Blocks := ⟨blocks.toArray.pop.push block⟩

/-- The message with a block of `size` zero bytes after the last one. -/
def grow (blocks : Blocks) (size : Nat) : Blocks := blocks.push (.zeroed size)

/-- A message of one block that holds exactly these bytes. -/
def ofBytes (bytes : Bytes) : Blocks := empty.push ⟨bytes, bytes.length⟩

/-- The message with `bytes` written over the front of the last block's contents, as many as there
is room for. -/
def writeLast (blocks : Blocks) (bytes : Bytes) : Blocks :=
  match blocks.last? with
  | some block => blocks.setLast (block.write 0 (bytes.take block.length))
  | none => blocks

/-- Declares how much of the last block is in use. -/
def commitLast (blocks : Blocks) (size : Nat) : Except Fault Blocks :=
  match blocks.last? with
  | none => .error .commitWithoutBlock
  | some block =>
    if block.capacity < size then .error (.commitTooLong size block.capacity)
    else .ok (blocks.setLast { block with length := size })

/-- Moves all blocks of the second message behind those of the first. -/
def merge (blocks other : Blocks) : Blocks × Blocks := (⟨blocks.toArray ++ other.toArray⟩, empty)

/-- Exchanges two messages. -/
def swap (blocks other : Blocks) : Blocks × Blocks := (other, blocks)

/-- The message as one string of bytes, taken out of its blocks. The storage of a single block is
cut to its declared length; several blocks are copied one after the other. -/
def intoBytes (blocks : Blocks) : Bytes :=
  match blocks.toList with
  | [block] => block.storage.take block.length
  | several => several.foldr (fun block rest => block.contents ++ rest) []

/-- What comes of looking for a range. -/
inductive RangeOutcome where
  /-- The range lies inside the contents of the block with index `index`. -/
  | found (index start length : Nat)
  /-- It does not. -/
  | refused (fault : Fault)
  /-- The end of the range is not a machine word, and the machine's addition gives up. -/
  | overflow
  deriving DecidableEq, Repr

/-- Looks for a range of bytes in the contents of one block. -/
def range? (blocks : Blocks) (range : BlockRange) : RangeOutcome :=
  match blocks.toArray[range.block.toNat]? with
  | none => .refused (.noBlock range.block.toNat)
  | some block =>
    let stop := range.offset.toNat + range.length.toNat
    if UInt64.size ≤ stop then .overflow
    else if block.length < stop then .refused (.outsideBlock range.offset.toNat stop block.length)
    else .found range.block.toNat range.offset.toNat range.length.toNat

/-- The bytes of a range that was found. -/
def readRange (blocks : Blocks) (index start length : Nat) : Bytes :=
  match blocks.toArray[index]? with
  | some block => block.storage.slice start length
  | none => []

/-- The message with `bytes` written over the front of a range that was found, as many as there is
room for. -/
def writeRange (blocks : Blocks) (index start length : Nat) (bytes : Bytes) : Blocks :=
  ⟨blocks.toArray.modify index fun block => block.write start (bytes.take length)⟩

/-! ## What the operations do to the list of blocks -/

@[simp] theorem toList_empty : empty.toList = [] := rfl

/-- A block that is pushed comes last. -/
@[simp] theorem toList_push (blocks : Blocks) (block : Block) :
    (blocks.push block).toList = blocks.toList ++ [block] := by
  simp [push, toList]

/-- Setting the last block leaves those in front of it alone. -/
@[simp] theorem toList_setLast (blocks : Blocks) (block : Block) :
    (blocks.setLast block).toList = blocks.toList.dropLast ++ [block] := by
  simp [setLast, toList]

/-- Merged blocks come behind those that were there. -/
@[simp] theorem toList_merge (blocks other : Blocks) :
    (blocks.merge other).1.toList = blocks.toList ++ other.toList := by
  simp [merge, toList]

/-- The last block is the last of the list. -/
theorem last?_eq_getLast? (blocks : Blocks) : blocks.last? = blocks.toList.getLast? := by
  simp [last?, toList]

/-- The bytes of a block are found at its place among the pieces. -/
theorem piece?_eq_getElem? (blocks : Blocks) (i : Nat) : blocks.piece? i = blocks.pieces[i]? := by
  simp [piece?, pieces, toList]

/-- There are as many pieces as blocks. -/
@[simp] theorem length_pieces (blocks : Blocks) : blocks.pieces.length = blocks.count := by
  simp [pieces, toList, count]

/-- The total that well formed blocks keep is the number of bytes that they hold. -/
theorem WellFormed.length_eq {blocks : Blocks} (h : blocks.WellFormed) :
    blocks.length = blocks.contents.length := by
  unfold length contents pieces
  unfold WellFormed at h
  generalize blocks.toList = list at h
  induction list with
  | nil => rfl
  | cons block rest ih =>
    rw [List.foldr_cons, List.map_cons, List.flatten_cons, List.length_append,
      Block.length_contents (h block List.mem_cons_self),
      ih fun other hother => h other (List.mem_cons_of_mem _ hother)]

example : (ofBytes [1, 2, 3]).commitLast 4 = .error (.commitTooLong 4 3) := rfl

end Blocks

end PeerNet.Buffer
