import PeerNet.Proofs.Buffer.Ranges

/-!
# Blocks with their hidden bytes

A block is shown up to its declared length and keeps the bytes behind that. Here both are apart, and
every block has a number, so that it can be followed from message to message.

* **One block** (`Extent`): what is written changes shown bytes only (`block_write`), and declaring
  another length moves the border between shown and hidden bytes (`block_cut`).
* **One message** (`Shelf.perform_blocks`): every operation on the blocks is the operation on the
  extents.
* **Where blocks come from** (`Shelf.perform_stems`): a block behind an operation is new or was
  there before, and has its old bytes unless the operation writes over it.
-/

namespace PeerNet

/-- Writing inside the front of a string keeps what is behind the front. -/
theorem Bytes.overwrite_append {front : Bytes} {start : Nat} {bytes : Bytes}
    (fits : start + bytes.length ≤ front.length) (back : Bytes) :
    (front ++ back).overwrite start bytes = front.overwrite start bytes ++ back := by
  have before : start ≤ front.length := Nat.le_trans (Nat.le_add_right _ _) fits
  have room : bytes.length ≤ front.length - start := by omega
  have more : bytes.length ≤ (front ++ back).length - start := by
    rw [List.length_append]
    omega
  rw [overwrite, overwrite, List.take_append_of_le_length before, List.take_of_length_le room,
    List.take_of_length_le more, List.drop_append_of_le_length fits, List.append_assoc,
    List.append_assoc]

namespace Buffer

/-- Blocks are their list. -/
theorem Blocks.ext_toList {blocks other : Blocks} (same : blocks.toList = other.toList) :
    blocks = other := by
  obtain ⟨list⟩ := blocks
  obtain ⟨others⟩ := other
  exact congrArg Blocks.mk (Array.ext' same)

/-- **A message is taken out of its blocks as it is**, whether it is handed over or copied. -/
theorem Blocks.intoBytes_eq_contents (blocks : Blocks) : blocks.intoBytes = blocks.contents := by
  rw [intoBytes, contents, pieces]
  split
  · next block single =>
    rw [single, List.map_singleton, List.flatten_singleton, Block.contents]
  · induction blocks.toList with
    | nil => rfl
    | cons block rest ih => rw [List.foldr_cons, ih, List.map_cons, List.flatten_cons]

/-- A block, with the bytes that are in use and those that are not. -/
structure Extent where
  /-- The number of the block. -/
  serial : Nat
  /-- The bytes that are in use. -/
  shown : Bytes
  /-- The bytes behind them. -/
  hidden : Bytes
  deriving DecidableEq, Repr

namespace Extent

/-- All bytes of the block. -/
def storage (extent : Extent) : Bytes := extent.shown ++ extent.hidden

/-- The block without its number. -/
def block (extent : Extent) : Block := ⟨extent.storage, extent.shown.length⟩

/-- Writes over shown bytes, as far as there are any. -/
def write (extent : Extent) (start : Nat) (bytes : Bytes) : Extent :=
  { extent with shown := extent.shown.overwrite start bytes }

/-- Shows the first bytes and hides the others. -/
def cut (extent : Extent) (size : Nat) : Extent :=
  { extent with shown := extent.storage.take size, hidden := extent.storage.drop size }

variable (extent : Extent)

/-- The block of an extent holds what the extent shows. -/
@[simp] theorem contents_block : extent.block.contents = extent.shown := List.take_left

@[simp] theorem capacity_block : extent.block.capacity = extent.storage.length := rfl

@[simp] theorem length_block : extent.block.length = extent.shown.length := rfl

/-- Cutting an extent moves its end; the storage stays. -/
@[simp] theorem storage_cut (size : Nat) : (extent.cut size).storage = extent.storage :=
  List.take_append_drop ..

/-- **What is written changes shown bytes only.** -/
theorem block_write {start : Nat} {bytes : Bytes}
    (fits : start + bytes.length ≤ extent.shown.length) :
    (extent.write start bytes).block = extent.block.write start bytes := by
  have before : start ≤ extent.shown.length := Nat.le_trans (Nat.le_add_right _ _) fits
  simp only [block, write, storage, Block.write, Bytes.overwrite_append fits,
    Bytes.length_overwrite _ _ before]

/-- What does not fit is not written. -/
theorem write_take (bytes : Bytes) :
    extent.write 0 (bytes.take extent.shown.length) = extent.write 0 bytes := by
  have front := Bytes.overwrite_take_drop extent.shown bytes 0
  rw [List.drop_zero, List.take_zero, List.nil_append] at front
  rw [write, front, write]

/-- **Another declared length moves the border** between shown and hidden bytes. -/
theorem block_cut {size : Nat} (fits : size ≤ extent.storage.length) :
    (extent.cut size).block = { extent.block with length := size } := by
  rw [block, storage_cut, cut, List.length_take, Nat.min_eq_left fits]
  rfl

end Extent

/-- The blocks of a message with their hidden bytes, the first one first. -/
abbrev Shelf := List Extent

namespace Shelf

open Blocks (Operation Answer)

/-- The message. -/
def blocks (shelf : Shelf) : Blocks := ⟨(shelf.map Extent.block).toArray⟩

/-- The bytes that are in use. -/
def shown (shelf : Shelf) : Bytes := (shelf.map Extent.shown).flatten

/-- One operation. A new block gets the given number. -/
def perform (shelf : Shelf) (serial : Nat) : Operation → Shelf × Answer
  | .grow size =>
    (shelf ++ [⟨serial, Bytes.zeros size.toNat, []⟩], .gives (Bytes.zeros size.toNat))
  | .writeLast bytes =>
    match shelf.getLast? with
    | none => (shelf, .nothing)
    | some last => (shelf.dropLast ++ [last.write 0 bytes], .gives last.shown)
  | .writeRange range bytes =>
    match shelf[range.block.toNat]? with
    | none => (shelf, .refused (.noBlock range.block.toNat))
    | some extent =>
      if UInt64.size ≤ range.stop then (shelf, .overflow)
      else if range.stop ≤ extent.shown.length then
        (shelf.modify range.block.toNat fun extent =>
            extent.write range.offset.toNat (bytes.take range.length.toNat),
          .gives (extent.shown.slice range.offset.toNat range.length.toNat))
      else
        (shelf,
          .refused (.outsideBlock range.offset.toNat range.stop extent.shown.length))
  | .commit size =>
    match shelf.getLast? with
    | none => (shelf, .refused .commitWithoutBlock)
    | some last =>
      if size ≤ last.storage.length then (shelf.dropLast ++ [last.cut size], .done)
      else (shelf, .refused (.commitTooLong size last.storage.length))

/-- The blocks of a shelf are those of its extents, in order. -/
@[simp] theorem toList_blocks (shelf : Shelf) : shelf.blocks.toList = shelf.map Extent.block := rfl

/-- A single block that is in use as a whole is a message of its bytes. -/
theorem blocks_singleton (serial : Nat) (bytes : Bytes) :
    blocks [⟨serial, bytes, []⟩] = .ofBytes bytes := by
  apply Blocks.ext_toList
  simp only [toList_blocks, List.map_cons, List.map_nil, Blocks.ofBytes, Blocks.toList_push,
    Blocks.toList_empty, List.nil_append, Extent.block, Extent.storage, List.append_nil]

/-- Two shelves, one behind the other, are two messages joined. -/
theorem blocks_append (front back : Shelf) :
    blocks (front ++ back) = (front.blocks.merge back.blocks).1 := by
  apply Blocks.ext_toList
  rw [Blocks.toList_merge, toList_blocks, toList_blocks, toList_blocks, List.map_append]

/-- The last block of a shelf is that of its last extent. -/
theorem last?_blocks (shelf : Shelf) : shelf.blocks.last? = shelf.getLast?.map Extent.block := by
  rw [Blocks.last?_eq_getLast?, toList_blocks, List.getLast?_map]

/-- The pieces of the blocks are what the extents show. -/
theorem pieces_blocks (shelf : Shelf) : shelf.blocks.pieces = shelf.map Extent.shown := by
  rw [Blocks.pieces, toList_blocks, List.map_map]
  exact List.map_congr_left fun extent _ => extent.contents_block

/-- The bytes in the blocks of a shelf are those that the shelf shows. -/
theorem contents_blocks (shelf : Shelf) : shelf.blocks.contents = shelf.shown := by
  rw [Blocks.contents, pieces_blocks, shown]

/-- Replacing the last extent is replacing the last block. -/
theorem setLast_blocks (shelf : Shelf) (extent : Extent) :
    shelf.blocks.setLast extent.block = blocks (shelf.dropLast ++ [extent]) := by
  apply Blocks.ext_toList
  simp only [Blocks.toList_setLast, toList_blocks, List.map_append, List.map_dropLast,
    List.map_cons, List.map_nil]

/-- **Every operation on a message is the operation on its extents.** -/
theorem perform_blocks (shelf : Shelf) (serial : Nat) (operation : Operation) :
    shelf.blocks.perform operation =
      ((shelf.perform serial operation).1.blocks, (shelf.perform serial operation).2) := by
  cases operation with
  | grow size =>
    refine Prod.ext (Blocks.ext_toList ?_) rfl
    simp only [Blocks.perform, perform, Blocks.grow, Blocks.toList_push, toList_blocks,
      List.map_append, List.map_cons, List.map_nil, Extent.block, Extent.storage, Block.zeroed,
      List.append_nil, Bytes.length_zeros]
  | writeLast bytes =>
    have last := shelf.last?_blocks
    cases ends : shelf.getLast? with
    | none =>
      rw [ends] at last
      simp only [Blocks.perform, perform, last, ends, Option.map_none]
    | some extent =>
      rw [ends] at last
      have fits : 0 + (bytes.take extent.shown.length).length ≤ extent.shown.length := by
        rw [List.length_take]
        omega
      simp only [Blocks.perform, perform, Blocks.writeLast, last, ends, Option.map_some,
        Extent.contents_block, Extent.length_block, ← extent.block_write fits, extent.write_take,
        setLast_blocks]
  | writeRange range bytes =>
    cases there : shelf[range.block.toNat]? with
    | none =>
      have missing : shelf.blocks.toList[range.block.toNat]? = none := by
        rw [toList_blocks, List.getElem?_map, there, Option.map_none]
      simp only [Blocks.perform_noBlock bytes missing, perform, there]
    | some extent =>
      have found : shelf.blocks.toList[range.block.toNat]? = some extent.block := by
        rw [toList_blocks, List.getElem?_map, there, Option.map_some]
      by_cases large : UInt64.size ≤ range.stop
      · simp only [Blocks.perform_overflow bytes found large, perform, there, if_pos large]
      have word : range.stop < UInt64.size := Nat.lt_of_not_le large
      by_cases inside : range.stop ≤ extent.shown.length
      · simp only [Blocks.perform_inside bytes found word inside, perform, there, if_neg large,
          if_pos inside, Extent.contents_block]
        refine Prod.ext (Blocks.ext_toList ?_) rfl
        have fits : range.offset.toNat + (bytes.take range.length.toNat).length ≤
            extent.shown.length := by
          rw [BlockRange.stop] at inside
          rw [List.length_take]
          omega
        rw [Blocks.toList_writeRange_eq_modify, toList_blocks, toList_blocks]
        obtain ⟨lt, rfl⟩ := List.getElem?_eq_some_iff.mp there
        have lt' : range.block.toNat < (shelf.map Extent.block).length := by rwa [List.length_map]
        rw [List.modify_eq_take_cons_drop lt, List.modify_eq_take_cons_drop lt', List.getElem_map,
          List.map_append, List.map_cons, List.map_take, List.map_drop, Extent.block_write _ fits]
      · have outside : extent.block.length < range.stop := Nat.lt_of_not_le inside
        simp only [Blocks.perform_outside bytes found word outside, perform, there, if_neg large,
          if_neg inside, Extent.length_block]
  | commit size =>
    have last := shelf.last?_blocks
    cases ends : shelf.getLast? with
    | none =>
      rw [ends] at last
      simp only [Blocks.perform_commit_none size last, perform, ends]
    | some extent =>
      rw [ends] at last
      by_cases fits : size ≤ extent.storage.length
      · simp only [Blocks.perform_commit_fits last fits, perform, ends, if_pos fits,
          ← extent.block_cut fits, setLast_blocks]
      · have long : extent.block.capacity < size := Nat.lt_of_not_le fits
        simp only [Blocks.perform_commit_long last long, perform, ends, if_neg fits,
          Extent.capacity_block]

/-! ### Where blocks come from -/

/-- The number of the block that an operation writes over. -/
def target (shelf : Shelf) : Operation → Option Nat
  | .writeLast _ => shelf.getLast?.map Extent.serial
  | .writeRange range _ => shelf[range.block.toNat]?.map Extent.serial
  | .grow _ | .commit _ => none

/-- An extent that comes from one of a shelf: it has its number, and its bytes unless they were
written over. -/
def Stems (shelf : Shelf) (target : Option Nat) (later : Extent) : Prop :=
  ∃ extent ∈ shelf, extent.serial = later.serial ∧
    (target ≠ some extent.serial → extent.storage = later.storage)

/-- An extent of a shelf stems from that shelf, whichever block is written to. -/
theorem stems_of_mem {shelf : Shelf} {later : Extent} (same : later ∈ shelf)
    (target : Option Nat) : shelf.Stems target later :=
  ⟨later, same, rfl, fun _ => rfl⟩

/-- **A block behind an operation is the new one or stems from one before.** -/
theorem perform_stems {shelf : Shelf} {serial : Nat} {operation : Operation} {later : Extent}
    (present : later ∈ (shelf.perform serial operation).1) :
    later.serial = serial ∨ shelf.Stems (shelf.target operation) later := by
  cases operation with
  | grow size =>
    rw [perform, List.mem_append, List.mem_singleton] at present
    rcases present with old | rfl
    · exact .inr (stems_of_mem old _)
    · exact .inl rfl
  | writeLast bytes =>
    right
    cases ends : shelf.getLast? with
    | none =>
      rw [perform, ends] at present
      exact stems_of_mem present _
    | some last =>
      rw [perform, ends, List.mem_append, List.mem_singleton] at present
      rcases present with old | rfl
      · exact stems_of_mem (List.dropLast_subset _ old) _
      · refine ⟨last, List.mem_of_getLast? ends, rfl, fun spared => absurd ?_ spared⟩
        rw [target, ends, Option.map_some]
  | writeRange range bytes =>
    right
    cases there : shelf[range.block.toNat]? with
    | none =>
      rw [perform, there] at present
      exact stems_of_mem present _
    | some extent =>
      simp only [perform, there] at present
      -- only the second of the three ways changes a block
      split_ifs at present
      · exact stems_of_mem present _
      · obtain ⟨i, found⟩ := List.mem_iff_getElem?.mp present
        rw [List.getElem?_modify] at found
        obtain ⟨old, before, rfl⟩ := Option.map_eq_some_iff.mp found
        by_cases same : range.block.toNat = i
        · subst same
          obtain rfl := Option.some.inj (there.symm.trans before)
          rw [if_pos rfl]
          refine ⟨extent, List.mem_of_getElem? there, rfl, fun spared => absurd ?_ spared⟩
          rw [target, there, Option.map_some]
        · rw [if_neg same]
          exact stems_of_mem (List.mem_of_getElem? before) _
      · exact stems_of_mem present _
  | commit size =>
    right
    cases ends : shelf.getLast? with
    | none =>
      rw [perform, ends] at present
      exact stems_of_mem present _
    | some last =>
      simp only [perform, ends] at present
      split_ifs at present
      · rw [List.mem_append, List.mem_singleton] at present
        rcases present with old | rfl
        · exact stems_of_mem (List.dropLast_subset _ old) _
        · exact ⟨last, List.mem_of_getLast? ends, rfl, fun _ => (last.storage_cut size).symm⟩
      · exact stems_of_mem present _

/-- The numbers of the blocks. -/
def serials (shelf : Shelf) : List Nat := shelf.map Extent.serial

/-- Replacing the last extent by one with its number keeps the numbers. -/
theorem serials_setLast {shelf : Shelf} {last other : Extent} (ends : shelf.getLast? = some last)
    (same : other.serial = last.serial) : serials (shelf.dropLast ++ [other]) = shelf.serials := by
  obtain ⟨front, rfl⟩ := List.getLast?_eq_some_iff.mp ends
  rw [List.dropLast_concat, serials, serials, List.map_append, List.map_append, List.map_singleton,
    List.map_singleton, same]

/-- Modifying an extent that keeps its number keeps the numbers. -/
theorem serials_modify (shelf : Shelf) (index : Nat) {change : Extent → Extent}
    (same : ∀ extent, (change extent).serial = extent.serial) :
    serials (shelf.modify index change) = shelf.serials := by
  apply List.ext_getElem?
  intro i
  rw [serials, serials, List.getElem?_map, List.getElem?_map, List.getElem?_modify]
  cases shelf[i]? with
  | none => rfl
  | some extent =>
    by_cases here : index = i
    · simp only [Option.map_eq_map, Option.map_some, if_pos here, same]
    · simp only [Option.map_eq_map, Option.map_some, if_neg here]

/-- A new block has its number behind the others, and any other operation leaves all numbers. -/
theorem serials_perform (shelf : Shelf) (serial : Nat) (operation : Operation) :
    (shelf.perform serial operation).1.serials =
      if operation.grows then shelf.serials ++ [serial] else shelf.serials := by
  cases operation with
  | grow size => exact List.map_append
  | writeLast bytes =>
    cases ends : shelf.getLast? with
    | none => simp only [perform, ends, Operation.grows, Bool.false_eq_true, if_false]
    | some last =>
      simp only [perform, ends]
      exact serials_setLast ends rfl
  | writeRange range bytes =>
    cases there : shelf[range.block.toNat]? with
    | none => simp only [perform, there, Operation.grows, Bool.false_eq_true, if_false]
    | some extent =>
      simp only [perform, there, Operation.grows, Bool.false_eq_true, if_false]
      split_ifs
      · rfl
      · exact serials_modify shelf _ fun extent => rfl
      · rfl
  | commit size =>
    cases ends : shelf.getLast? with
    | none => simp only [perform, ends, Operation.grows, Bool.false_eq_true, if_false]
    | some last =>
      simp only [perform, ends, Operation.grows, Bool.false_eq_true, if_false]
      split_ifs
      · exact serials_setLast ends rfl
      · rfl

end Shelf

end Buffer

end PeerNet
