import PeerNet.Proofs.Buffer.WriterRuns
import PeerNet.Frame.Package

/-!
# Ranges of a message

A program makes a message by appending blocks, by writing over them and declaring how much of them
is in use, by joining messages, and through writers (`Reachable`). The position and the length of a
range are machine words, and a program may ask for any range of any message.

* **Blocks of a machine** (`Blocks.Sound`): whatever a program does, every block declares no more
  than its storage, and a word counts the bytes of the storage (`Reachable.sound`).
* **One range** (`perform_noBlock`, `perform_overflow`, `perform_outside`, `perform_inside`): the
  four ways that a request for a range may go.
* **Every range** (`Reachable.answersRange_iff`): a range inside the contents of its block is given,
  and any other is refused, exactly if the end of the range is a machine word or the block does not
  exist.
-/

namespace PeerNet.Buffer

/-- Bytes that lie one behind the other in a machine, so that a word counts them. -/
structure Slice where
  /-- The bytes. -/
  bytes : Bytes
  /-- Their number is a word. -/
  addressable : bytes.length < UInt64.size

/-- The position behind the last byte of a range, which need not be a word. -/
def BlockRange.stop (range : BlockRange) : Nat := range.offset.toNat + range.length.toNat

namespace Blocks

/-! ### Operations on one message -/

/-- What a program asks of one message. -/
inductive Operation where
  /-- A block of this size behind the others. -/
  | grow (size : UInt64)
  /-- To write these bytes over the front of the last block's contents. -/
  | writeLast (bytes : Bytes)
  /-- To write these bytes over the front of a range. -/
  | writeRange (range : BlockRange) (bytes : Bytes)
  /-- To declare how much of the last block is in use. -/
  | commit (size : Nat)
  deriving DecidableEq, Repr

/-- Whether an operation makes a block. -/
def Operation.grows : Operation → Bool
  | .grow _ => true
  | .writeLast _ | .writeRange _ _ | .commit _ => false

/-- What the program is told. -/
inductive Answer where
  /-- These bytes are given, as they are before anything is written over them. -/
  | gives (bytes : Bytes)
  /-- There is nothing to give. -/
  | nothing
  /-- It is done. -/
  | done
  /-- It is refused, as an invalid operation. -/
  | refused (fault : Fault)
  /-- The machine's addition has given up. -/
  | overflow
  deriving DecidableEq, Repr

/-- One operation. -/
def perform (blocks : Blocks) : Operation → Blocks × Answer
  | .grow size => (blocks.grow size.toNat, .gives (Bytes.zeros size.toNat))
  | .writeLast bytes =>
    match blocks.last? with
    | some block => (blocks.writeLast bytes, .gives block.contents)
    | none => (blocks, .nothing)
  | .writeRange range bytes =>
    match blocks.range? range with
    | .found index start length =>
      (blocks.writeRange index start length bytes, .gives (blocks.readRange index start length))
    | .refused fault => (blocks, .refused fault)
    | .overflow => (blocks, .overflow)
  | .commit size =>
    match blocks.commitLast size with
    | .ok after => (after, .done)
    | .error fault => (blocks, .refused fault)

section commit

variable {blocks : Blocks} {block : Block} {size : Nat}

/-- Without a block there is nothing to commit to. -/
theorem perform_commit_none (size : Nat) (last : blocks.last? = none) :
    blocks.perform (.commit size) = (blocks, .refused .commitWithoutBlock) := by
  simp only [perform, commitLast, last]

/-- A commit up to the capacity of the last block moves the block's end. -/
theorem perform_commit_fits (last : blocks.last? = some block) (fits : size ≤ block.capacity) :
    blocks.perform (.commit size) = (blocks.setLast { block with length := size }, .done) := by
  simp only [perform, commitLast, last, if_neg (Nat.not_lt.mpr fits)]

/-- A commit past the capacity of the last block is refused, with both numbers. -/
theorem perform_commit_long (last : blocks.last? = some block) (long : block.capacity < size) :
    blocks.perform (.commit size) = (blocks, .refused (.commitTooLong size block.capacity)) := by
  simp only [perform, commitLast, last, if_pos long]

end commit

end Blocks

/-! ### Blocks of a machine -/

namespace Block

/-- Writing over a block leaves its end where it is. -/
@[simp] theorem length_write (block : Block) (start : Nat) (bytes : Bytes) :
    (block.write start bytes).length = block.length := rfl

/-- Writing over a storage keeps its size, wherever it starts. -/
@[simp] theorem capacity_write (block : Block) (start : Nat) (bytes : Bytes) :
    (block.write start bytes).capacity = block.capacity := by
  simp only [capacity, write, Bytes.overwrite, List.length_append, List.length_take,
    List.length_drop]
  omega

/-- Bytes that there is room for are written in the place of the old ones. -/
theorem write_eq {block : Block} {start : Nat} {bytes : Bytes}
    (fits : start + bytes.length ≤ block.capacity) :
    block.write start bytes =
      { block with storage :=
          block.storage.take start ++ bytes ++ block.storage.drop (start + bytes.length) } := by
  have room : bytes.length ≤ block.storage.length - start := by
    rw [capacity] at fits
    omega
  rw [write, Bytes.overwrite, List.take_of_length_le room, List.append_assoc]

/-- A block that a machine can have. -/
structure Sound (block : Block) : Prop where
  /-- The declared length stays inside the storage. -/
  wellFormed : block.WellFormed
  /-- The size of the storage is a word. -/
  addressable : block.capacity < UInt64.size

/-- The end of a sound block is a word. -/
theorem Sound.length_lt {block : Block} (sound : block.Sound) : block.length < UInt64.size :=
  Nat.lt_of_le_of_lt sound.wellFormed sound.addressable

/-- Writing over a sound block keeps it sound: the storage is as long as before. -/
theorem Sound.write {block : Block} (sound : block.Sound) (start : Nat) (bytes : Bytes) :
    (block.write start bytes).Sound where
  wellFormed := by
    rw [WellFormed, length_write, capacity_write]
    exact sound.wellFormed
  addressable := by
    rw [capacity_write]
    exact sound.addressable

/-- A block that is in use as a whole. -/
theorem Full.sound {size : Nat} {block : Block} (full : block.Full size)
    (word : size < UInt64.size) : block.Sound where
  wellFormed := Nat.le_of_eq (full.length_eq.trans full.capacity_eq.symm)
  addressable := full.capacity_eq ▸ word

end Block

namespace Blocks

/-- The blocks are such as a machine can have. -/
def Sound (blocks : Blocks) : Prop := ∀ block ∈ blocks.toList, block.Sound

variable {blocks : Blocks} {block : Block}

/-- A sound block behind sound blocks keeps them sound. -/
theorem Sound.push (sound : blocks.Sound) (last : block.Sound) : (blocks.push block).Sound := by
  intro other inside
  rw [toList_push, List.mem_append, List.mem_singleton] at inside
  rcases inside with old | rfl
  · exact sound other old
  · exact last

/-- A sound block in place of the last keeps the blocks sound. -/
theorem Sound.setLast (sound : blocks.Sound) (last : block.Sound) :
    (blocks.setLast block).Sound := by
  intro other inside
  rw [toList_setLast, List.mem_append, List.mem_singleton] at inside
  rcases inside with old | rfl
  · exact sound other (List.dropLast_subset _ old)
  · exact last

/-- The last of sound blocks is sound. -/
theorem Sound.of_last? (sound : blocks.Sound) (last : blocks.last? = some block) :
    block.Sound := by
  rw [last?_eq_getLast?] at last
  exact sound block (List.mem_of_getLast? last)

/-- Writing to a range is writing to the block with its index. -/
theorem toList_writeRange_eq_modify (blocks : Blocks) (index start length : Nat) (bytes : Bytes) :
    (blocks.writeRange index start length bytes).toList =
      blocks.toList.modify index fun block => block.write start (bytes.take length) := by
  rw [writeRange, toList, Array.toList_modify]
  rfl

/-- Writing over a range keeps the blocks sound. -/
theorem Sound.writeRange (sound : blocks.Sound) (index start length : Nat) (bytes : Bytes) :
    (blocks.writeRange index start length bytes).Sound := by
  intro other inside
  rw [toList_writeRange_eq_modify, List.mem_iff_getElem?] at inside
  obtain ⟨i, found⟩ := inside
  rw [List.getElem?_modify] at found
  obtain ⟨block, there, rfl⟩ := Option.map_eq_some_iff.mp found
  have old := sound block (List.mem_of_getElem? there)
  split
  · exact old.write start _
  · exact old

/-- Every operation leaves blocks such as a machine can have. -/
theorem Sound.perform (sound : blocks.Sound) (operation : Operation) :
    (blocks.perform operation).1.Sound := by
  cases operation with
  | grow size => exact sound.push ((Block.full_zeroed _).sound size.toNat_lt_size)
  | writeLast bytes =>
    cases last : blocks.last? with
    | none => simpa only [Blocks.perform, last] using sound
    | some block =>
      simp only [Blocks.perform, writeLast, last]
      exact sound.setLast ((sound.of_last? last).write 0 _)
  | writeRange range bytes =>
    cases found : blocks.range? range with
    | found index start length =>
      simp only [Blocks.perform, found]
      exact sound.writeRange index start length bytes
    | refused | overflow => simpa only [Blocks.perform, found] using sound
  | commit size =>
    cases last : blocks.last? with
    | none => exact (perform_commit_none size last).symm ▸ sound
    | some block =>
      by_cases fits : size ≤ block.capacity
      · rw [perform_commit_fits last fits]
        exact sound.setLast ⟨fits, (sound.of_last? last).addressable⟩
      · rw [perform_commit_long last (Nat.lt_of_not_le fits)]
        exact sound

end Blocks

/-- A writer with blocks of a size that is a word leaves blocks such as a machine can have. -/
theorem Writer.Logs.sound {base : Blocks} {size : Nat} {writer : Writer} {log : Bytes}
    (logs : Writer.Logs base size writer log) (sound : base.Sound) (word : size < UInt64.size) :
    writer.blocks.Sound := by
  cases logs with
  | nothing same => exact same ▸ sound
  | blocks front last appended =>
    intro block inside
    rw [appended.toList_eq, List.mem_append, List.mem_append, List.mem_singleton] at inside
    rcases inside with old | own | rfl
    · exact sound block old
    · exact (appended.front_full block own).sound word
    · exact appended.last_full.sound word

/-! ### The messages of a program -/

/-- The messages that a program can make. -/
inductive Reachable : Blocks → Prop where
  /-- A message without a block. -/
  | empty : Reachable .empty
  /-- A message of given bytes. -/
  | ofBytes (slice : Slice) : Reachable (.ofBytes slice.bytes)
  /-- A message after one operation, whether it is refused or not. -/
  | perform {blocks : Blocks} (reached : Reachable blocks) (operation : Blocks.Operation) :
    Reachable (blocks.perform operation).1
  /-- Two messages, the second behind the first. -/
  | merge {blocks other : Blocks} (reached : Reachable blocks) (second : Reachable other) :
    Reachable (blocks.merge other).1
  /-- A message that a writer was opened on, whatever was asked of the writer until it was left. -/
  | session {blocks : Blocks} (reached : Reachable blocks) {blockSize : Nat}
    (word : blockSize < UInt64.size) (asked : List Writer.Operation) :
    Reachable ((Writer.start blocks blockSize).run asked).1.blocks

namespace Reachable

variable {blocks : Blocks}

/-- **Every message of a program has blocks such as a machine can have.** -/
theorem sound (reached : Reachable blocks) : blocks.Sound := by
  induction reached with
  | empty => exact fun block inside => absurd inside List.not_mem_nil
  | ofBytes slice =>
    intro block inside
    rw [Blocks.ofBytes, Blocks.toList_push, Blocks.toList_empty, List.nil_append,
      List.mem_singleton] at inside
    subst inside
    exact ⟨Nat.le_refl _, slice.addressable⟩
  | perform reached operation ih => exact ih.perform operation
  | merge reached second ih ih' =>
    intro block inside
    rw [Blocks.toList_merge, List.mem_append] at inside
    exact inside.elim (ih block) (ih' block)
  | @session blocks reached blockSize word asked ih =>
    -- a writer's blocks have one byte at least
    have size : max blockSize 1 < UInt64.size := Nat.max_lt.mpr ⟨word, by decide⟩
    have agrees := Writer.run_agrees (Writer.start_agrees blocks blockSize)
      (Nat.le_max_right blockSize 1) asked
    exact agrees.logs.sound ih size

/-- A writer that is finished leaves a message of a program. -/
theorem finish {writer : Writer} {after : Blocks} {total : Nat} (reached : Reachable writer.blocks)
    (finishes : writer.finish = .ok (after, total)) : Reachable after := by
  unfold Writer.finish at finishes
  split at finishes
  · split at finishes
    · next committed =>
      cases finishes
      have last := reached.perform (.commit writer.lastUsed)
      rwa [Blocks.perform, committed] at last
    · cases finishes
  · cases finishes
    exact reached

end Reachable

/-- Copying strings one after the other is asking for it string by string. -/
theorem Writer.run_writeAll (writer : Writer) (parts : List Bytes) :
    (writer.run (parts.map .writeAll)).1 = parts.foldl writeAll writer := by
  induction parts generalizing writer with
  | nil => rfl
  | cons bytes rest ih => exact ih (writer.writeAll bytes)

/-- **A frame that is written behind a message of a program leaves one**, also if the package is
refused. -/
theorem Reachable.writeFrame {blocks : Blocks} (reached : Reachable blocks)
    (package : Frame.Package) {blockSize : Nat} (word : blockSize < UInt64.size) :
    Reachable (package.writeFrame blocks blockSize).1 := by
  have size : max blockSize (Frame.headerLength + 1) < UInt64.size :=
    Nat.max_lt.mpr ⟨word, by decide⟩
  unfold Frame.Package.writeFrame
  split
  · exact reached
  · next writer head reserves =>
    have asked (parts : List Bytes) : Reachable (parts.foldl Writer.writeAll writer).blocks := by
      have session := reached.session size
        (.reserveHead Frame.headerLength :: parts.map .writeAll)
      rwa [Writer.run, Writer.perform, reserves, Writer.run_writeAll] at session
    split
    · exact asked []
    · next parts body =>
      cases finishes : (parts.foldl Writer.writeAll writer).finish with
      | error fault => simpa only [finishes] using asked parts
      | ok result =>
        obtain ⟨after, total⟩ := result
        have finished := (asked parts).finish finishes
        simp only [finishes]
        split
        · exact finished
        · cases found : after.range? head with
          | refused | overflow => exact finished
          | found index start count =>
            have header := finished.perform (.writeRange head
              (Frame.Header.mk package.tag (.ofNat (total - Frame.headerLength))).toBytes)
            rwa [Blocks.perform, found] at header

/-! ### Requests for a range -/

namespace Blocks

variable {blocks : Blocks} {range : BlockRange} {block : Block}

/-- The block exists, and the range ends inside its contents. -/
def Holds (blocks : Blocks) (range : BlockRange) : Prop :=
  ∃ block, blocks.toList[range.block.toNat]? = some block ∧ range.stop ≤ block.length

section perform

variable (bytes : Bytes)

/-- A range of a block that does not exist is refused, with the number of the block. -/
theorem perform_noBlock (none : blocks.toList[range.block.toNat]? = none) :
    blocks.perform (.writeRange range bytes) =
      (blocks, .refused (.noBlock range.block.toNat)) := by
  rw [toList, Array.getElem?_toList] at none
  simp only [perform, range?, none]

/-- A range of a block that exists makes the addition give up if its end is no word. -/
theorem perform_overflow (found : blocks.toList[range.block.toNat]? = some block)
    (large : UInt64.size ≤ range.stop) :
    blocks.perform (.writeRange range bytes) = (blocks, .overflow) := by
  rw [toList, Array.getElem?_toList] at found
  rw [BlockRange.stop] at large
  simp only [perform, range?, found, if_pos large]

/-- A range that ends behind the contents of its block is refused, with the end that it should have
kept to. -/
theorem perform_outside (found : blocks.toList[range.block.toNat]? = some block)
    (word : range.stop < UInt64.size) (outside : block.length < range.stop) :
    blocks.perform (.writeRange range bytes) =
      (blocks, .refused (.outsideBlock range.offset.toNat range.stop block.length)) := by
  rw [toList, Array.getElem?_toList] at found
  rw [BlockRange.stop] at word outside ⊢
  simp only [perform, range?, found, if_neg (Nat.not_le.mpr word), if_pos outside]

/-- A range inside the contents of its block is given as it is, and then written over. -/
theorem perform_inside (found : blocks.toList[range.block.toNat]? = some block)
    (word : range.stop < UInt64.size) (inside : range.stop ≤ block.length) :
    blocks.perform (.writeRange range bytes) =
      (blocks.writeRange range.block.toNat range.offset.toNat range.length.toNat bytes,
        .gives (block.contents.slice range.offset.toNat range.length.toNat)) := by
  have same : block.storage.slice range.offset.toNat range.length.toNat =
      block.contents.slice range.offset.toNat range.length.toNat := by
    rw [Bytes.slice, Bytes.slice, Block.contents, List.drop_take, List.take_take, Nat.min_eq_left]
    rw [BlockRange.stop] at inside
    omega
  rw [toList, Array.getElem?_toList] at found
  rw [BlockRange.stop] at word inside
  simp only [perform, range?, found, if_neg (Nat.not_le.mpr word), if_neg (Nat.not_lt.mpr inside),
    readRange, same]

end perform

/-- A request for a range gives what the range holds. -/
structure GivesRange (blocks : Blocks) (range : BlockRange) : Prop where
  /-- Something is given exactly if the block exists and the range ends inside its contents. -/
  gives_iff : ∀ bytes, (∃ region, (blocks.perform (.writeRange range bytes)).2 = .gives region) ↔
    blocks.Holds range
  /-- It is this range of the block's contents, as a whole. -/
  region_eq : ∀ bytes region, (blocks.perform (.writeRange range bytes)).2 = .gives region →
    region.length = range.length.toNat ∧ ∃ piece, blocks.piece? range.block.toNat = some piece ∧
      region = piece.slice range.offset.toNat range.length.toNat
  /-- What is written over it stands in its place, and nothing else changes. -/
  written : ∀ bytes region, (blocks.perform (.writeRange range bytes)).2 = .gives region →
    bytes.length = region.length →
    (blocks.perform (.writeRange range bytes)).1.toList =
      blocks.toList.modify range.block.toNat fun block =>
        { block with storage :=
            block.storage.take range.offset.toNat ++ bytes ++ block.storage.drop range.stop }

/-- A request for a range gives what the range holds, or is refused. -/
structure AnswersRange (blocks : Blocks) (range : BlockRange) : Prop extends
    GivesRange blocks range where
  /-- What the message does not hold is refused, and nothing changes. -/
  refused : ¬ blocks.Holds range → ∀ bytes, ∃ fault,
    blocks.perform (.writeRange range bytes) = (blocks, .refused fault)
  /-- The machine's addition never gives up. -/
  sums : ∀ bytes, (blocks.perform (.writeRange range bytes)).2 ≠ .overflow

/-- Nothing is given of a range that the message does not hold. -/
theorem not_gives_of_not_holds (outside : ¬ blocks.Holds range) (bytes region : Bytes) :
    (blocks.perform (.writeRange range bytes)).2 ≠ .gives region := by
  cases found : blocks.toList[range.block.toNat]? with
  | none =>
    rw [perform_noBlock bytes found]
    intro same
    cases same
  | some block =>
    have behind : block.length < range.stop :=
      Nat.lt_of_not_le fun inside => outside ⟨block, found, inside⟩
    by_cases word : range.stop < UInt64.size
    · rw [perform_outside bytes found word behind]
      intro same
      cases same
    · rw [perform_overflow bytes found (Nat.le_of_not_lt word)]
      intro same
      cases same

/-- A range that does not lie inside its block is not given, whatever is to be written. -/
theorem givesRange_of_not_holds (outside : ¬ blocks.Holds range) : blocks.GivesRange range where
  gives_iff bytes :=
    iff_of_false (fun ⟨region, gives⟩ => not_gives_of_not_holds outside bytes region gives) outside
  region_eq bytes region gives := absurd gives (not_gives_of_not_holds outside bytes region)
  written bytes region gives := absurd gives (not_gives_of_not_holds outside bytes region)

/-- A refusal is an answer for a range that the message does not hold. -/
theorem answersRange_of_refused (outside : ¬ blocks.Holds range) {fault : Fault}
    (refuses : ∀ bytes, blocks.perform (.writeRange range bytes) = (blocks, .refused fault)) :
    blocks.AnswersRange range := by
  constructor
  case toGivesRange => exact givesRange_of_not_holds outside
  case refused => exact fun _ bytes => ⟨fault, refuses bytes⟩
  case sums =>
    intro bytes
    rw [refuses bytes]
    intro same
    cases same

/-- As many bytes as a range of the contents has are written in their place. -/
theorem toList_writeRange_inside (found : blocks.toList[range.block.toNat]? = some block)
    (wellFormed : block.WellFormed) (inside : range.stop ≤ block.length) {bytes : Bytes}
    (same : bytes.length = range.length.toNat) :
    (blocks.writeRange range.block.toNat range.offset.toNat range.length.toNat bytes).toList =
      blocks.toList.modify range.block.toNat fun block =>
        { block with storage :=
            block.storage.take range.offset.toNat ++ bytes ++ block.storage.drop range.stop } := by
  have room : range.offset.toNat + bytes.length ≤ block.capacity := by
    rw [same]
    exact Nat.le_trans inside wellFormed
  obtain ⟨there, rfl⟩ := List.getElem?_eq_some_iff.mp found
  rw [toList_writeRange_eq_modify, List.modify_eq_take_cons_drop there,
    List.modify_eq_take_cons_drop there, ← same, List.take_length, Block.write_eq room, same]
  rfl

/-- What a message of a machine holds is given. -/
theorem Sound.answersRange_of_holds (sound : blocks.Sound) (holds : blocks.Holds range) :
    blocks.AnswersRange range := by
  obtain ⟨block, found, inside⟩ := holds
  have fits := sound block (List.mem_of_getElem? found)
  -- a declared length is a word, so that no sum inside of it gives up
  have word : range.stop < UInt64.size := Nat.lt_of_le_of_lt inside fits.length_lt
  have length : (block.contents.slice range.offset.toNat range.length.toNat).length =
      range.length.toNat := by
    rw [Bytes.slice, List.length_take, List.length_drop, Block.length_contents fits.wellFormed]
    rw [BlockRange.stop] at inside
    omega
  constructor
  case toGivesRange =>
    constructor
    case gives_iff =>
      intro bytes
      rw [perform_inside bytes found word inside]
      exact iff_of_true ⟨_, rfl⟩ ⟨block, found, inside⟩
    case region_eq =>
      intro bytes region gives
      rw [perform_inside bytes found word inside] at gives
      obtain rfl := Answer.gives.inj gives
      refine ⟨length, block.contents, ?_, rfl⟩
      rw [piece?_eq_getElem?, pieces, List.getElem?_map, found]
      rfl
    case written =>
      intro bytes region gives same
      rw [perform_inside bytes found word inside] at gives ⊢
      obtain rfl := Answer.gives.inj gives
      exact toList_writeRange_inside found fits.wellFormed inside (same.trans length)
  case refused => exact fun outside => absurd ⟨block, found, inside⟩ outside
  case sums =>
    intro bytes
    rw [perform_inside bytes found word inside]
    intro same
    cases same

/-- **A request for a range of a message gives what the range holds**, and nothing if the message
does not hold it. -/
theorem Sound.givesRange (sound : blocks.Sound) (range : BlockRange) : blocks.GivesRange range := by
  by_cases holds : blocks.Holds range
  · exact (sound.answersRange_of_holds holds).toGivesRange
  · exact givesRange_of_not_holds holds

end Blocks

/-- **A request for a range of a message gives what the range holds**, and what the message does not
hold is refused exactly if the machine can add up the end of the range, or does not come to it
since there is no such block. -/
theorem Reachable.answersRange_iff {blocks : Blocks} (reached : Reachable blocks)
    (range : BlockRange) :
    blocks.GivesRange range ∧
      (blocks.AnswersRange range ↔
        (range.block.toNat < blocks.count → range.stop < UInt64.size)) := by
  refine ⟨reached.sound.givesRange range, ?_⟩
  by_cases holds : blocks.Holds range
  · have answers := reached.sound.answersRange_of_holds holds
    obtain ⟨block, found, inside⟩ := holds
    have fits := reached.sound block (List.mem_of_getElem? found)
    exact iff_of_true answers fun _ => Nat.lt_of_le_of_lt inside fits.length_lt
  cases found : blocks.toList[range.block.toNat]? with
  | none =>
    have refuses (bytes : Bytes) := Blocks.perform_noBlock bytes found
    have missing := Nat.not_lt.mpr (List.getElem?_eq_none_iff.mp found)
    exact iff_of_true (Blocks.answersRange_of_refused holds refuses) fun there =>
      absurd there missing
  | some block =>
    have there : range.block.toNat < blocks.count := (List.getElem?_eq_some_iff.mp found).1
    have behind : block.length < range.stop :=
      Nat.lt_of_not_le fun inside => holds ⟨block, found, inside⟩
    by_cases word : range.stop < UInt64.size
    · have refuses (bytes : Bytes) := Blocks.perform_outside bytes found word behind
      exact iff_of_true (Blocks.answersRange_of_refused holds refuses) fun _ => word
    · have overflows := Blocks.perform_overflow [] found (Nat.le_of_not_lt word)
      refine iff_of_false ?_ fun small => word (small there)
      exact fun answers => answers.sums [] (congrArg Prod.snd overflows)

/-- A block of eight bytes that has been shortened to four: no byte behind these is given. -/
theorem Reachable.answersRange_of_shortened :
    let shortened := (((Blocks.empty.perform (.grow 8)).1.perform (.commit 4)).1)
    Reachable shortened ∧ shortened.AnswersRange ⟨.ofNat 0, 2, 3⟩ := by
  intro shortened
  have reached : Reachable shortened := (Reachable.empty.perform (.grow 8)).perform (.commit 4)
  exact ⟨reached, (reached.answersRange_iff ⟨.ofNat 0, 2, 3⟩).2.mpr (by decide)⟩

/-- **The largest position overflows**: the byte behind it is in no block, and is not refused. -/
theorem Reachable.largest_position_overflows :
    let blocks := (Blocks.empty.perform (.grow 1)).1
    let range : BlockRange := ⟨.ofNat 0, 18446744073709551615, 1⟩
    Reachable blocks ∧ ¬ blocks.Holds range ∧
      (blocks.perform (.writeRange range [])).2 = .overflow ∧ ¬ blocks.AnswersRange range := by
  intro blocks range
  have overflows : (blocks.perform (.writeRange range [])).2 = .overflow := by decide +kernel
  refine ⟨Reachable.empty.perform (.grow 1), ?_, overflows, ?_⟩
  · rintro ⟨block, found, inside⟩
    cases found
    exact absurd inside (by decide +kernel)
  · exact fun answers => answers.sums [] overflows

end PeerNet.Buffer
