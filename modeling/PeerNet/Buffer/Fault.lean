/-!
# What can go wrong with a buffer

Every refused operation on a buffer, with the description that its caller sees. A refused operation
changes nothing.
-/

namespace PeerNet.Buffer

/-- Why an operation on a buffer was refused. -/
inductive Fault where
  /-- A length was set although there is no block. -/
  | commitWithoutBlock
  /-- A block was to be longer than its storage. -/
  | commitTooLong (size capacity : Nat)
  /-- There is no block with this index. -/
  | noBlock (index : Nat)
  /-- The range does not lie inside the block's contents. -/
  | outsideBlock (start stop length : Nat)
  /-- More bytes were given back than the last grant had. -/
  | backUpPastGrant (count grant : Nat)
  /-- Bytes were given back although the last operation was not a grant. -/
  | backUpWithoutGrant
  /-- More bytes were given back than the last piece had. -/
  | backUpPastPiece (count piece : Nat)
  /-- A head was reserved after the first bytes. -/
  | headTooLate
  /-- The head does not fit into a block with room to spare. -/
  | headTooLarge (size blockSize : Nat)
  deriving DecidableEq, Repr

/-- The description of a fault. -/
def Fault.message : Fault → String
  | .commitWithoutBlock => "commit_last_buf on an empty buffer vec"
  | .commitTooLong size capacity => s!"commit {size} bytes into a block of {capacity} bytes"
  | .noBlock index => s!"no block at index {index}"
  | .outsideBlock start stop length => s!"range {start}..{stop} outside block of {length} bytes"
  | .backUpPastGrant count grant => s!"back_up {count} bytes of a {grant} byte grant"
  | .backUpWithoutGrant => "back_up must directly follow next"
  | .backUpPastPiece count piece => s!"back_up {count} bytes after a next of {piece} bytes"
  | .headTooLate => "init_head must be called before any next"
  | .headTooLarge size blockSize =>
    s!"head size {size} must be smaller than block size {blockSize}"

end PeerNet.Buffer
