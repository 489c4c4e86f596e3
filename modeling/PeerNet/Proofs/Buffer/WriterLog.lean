import PeerNet.Buffer.Writer
import Mathlib.Tactic.SplitIfs

/-!
# A writer keeps a log

Behind the message that it was started with, a writer has appended full blocks and a last one, of
which a front part is written (`Appended`). The bytes in them are its log (`Logs`). Every operation
of a writer is described by what it does to the log.

* **Granting** (`grant_logs`): a grant is never empty, and all of it is put behind the log.
* **Giving back** (`backUp_logs`): the bytes that are given back are taken off the log.
* **Copying** (`write_logs`, `writeAll_logs`): what was copied is put behind the log.
* **Finishing** (`finish_logs`): the appended blocks declare exactly the log.
-/

namespace PeerNet

namespace Bytes

/-- Writing over the end of a string is writing over the front of this end. -/
theorem overwrite_take_drop (dst src : Bytes) (start : Nat) :
    dst.overwrite start (src.take (dst.drop start).length) =
      dst.take start ++ Bytes.overwrite (dst.drop start) 0 src := by
  simp only [overwrite, List.length_drop, List.take_take, Nat.min_self, List.length_take,
    List.take_zero, List.nil_append, Nat.sub_zero, Nat.zero_add, List.drop_drop]
  congr 2
  by_cases hlong : src.length ≤ dst.length - start
  · rw [Nat.min_eq_right hlong]
  · have hlong : dst.length - start ≤ src.length := Nat.le_of_not_le hlong
    rw [Nat.min_eq_left hlong, List.drop_of_length_le (by omega), List.drop_of_length_le (by omega)]

/-- The front of a string that was written over is what was written. -/
theorem take_overwrite_zero (dst src : Bytes) {count : Nat} (hdst : count ≤ dst.length)
    (hsrc : count ≤ src.length) : (dst.overwrite 0 src).take count = src.take count := by
  simp only [overwrite, List.take_zero, List.nil_append, Nat.sub_zero, Nat.zero_add]
  rw [List.take_append_of_le_length (by rw [List.length_take]; omega), List.take_take,
    Nat.min_eq_left hdst]

end Bytes

namespace Buffer

/-- A block of this size that is in use as a whole. -/
structure Block.Full (size : Nat) (block : Block) : Prop where
  /-- The size of the storage. -/
  capacity_eq : block.capacity = size
  /-- All of it is in use. -/
  length_eq : block.length = size

/-- The contents of a full block are its storage. -/
theorem Block.Full.contents_eq {size : Nat} {block : Block} (h : block.Full size) :
    block.contents = block.storage := by
  rw [contents, h.length_eq, ← h.capacity_eq, capacity, List.take_length]

/-- A block of zero bytes is full. -/
theorem Block.full_zeroed (size : Nat) : (Block.zeroed size).Full size :=
  ⟨Bytes.length_zeros size, rfl⟩

/-- A full block stays full when it is written over. -/
theorem Block.Full.write {size : Nat} {block : Block} (h : block.Full size) {start : Nat}
    (hstart : start ≤ size) (bytes : Bytes) : (block.write start bytes).Full size := by
  refine ⟨?_, h.length_eq⟩
  have hle : start ≤ block.storage.length := Nat.le_trans hstart (Nat.le_of_eq h.capacity_eq.symm)
  exact (Bytes.length_overwrite block.storage bytes hle).trans h.capacity_eq

namespace Writer

/-- A writer at work: behind the message `base` it has appended full blocks and a last one, and
written the log to them. -/
structure Appended (base : Blocks) (size : Nat) (writer : Writer) (front : List Block)
    (last : Block) (log : Bytes) : Prop where
  /-- The blocks are appended. -/
  toList_eq : writer.blocks.toList = base.toList ++ (front ++ [last])
  /-- The last block is the writer's own. -/
  owns : writer.ownsTail = true
  /-- Every appended block has the size of the writer's blocks. -/
  blockSize_eq : writer.blockSize = size
  /-- The blocks in front are written. -/
  front_full : ∀ block ∈ front, block.Full size
  /-- All of the last block may be written. -/
  last_full : last.Full size
  /-- Not more is written than there is room for. -/
  used_le : writer.lastUsed ≤ size
  /-- What is written. -/
  log_eq : log = (front.map Block.contents).flatten ++ last.storage.take writer.lastUsed
  /-- How much is written. -/
  count_eq : writer.byteCount = log.length

/-- The log of a writer that was started behind the message `base`. -/
inductive Logs (base : Blocks) (size : Nat) (writer : Writer) : Bytes → Prop where
  /-- Nothing is appended. -/
  | nothing (hblocks : writer.blocks = base) (howns : writer.ownsTail = false)
      (hsize : writer.blockSize = size) (hcount : writer.byteCount = 0)
      (hgrant : writer.lastGrant = none) : Logs base size writer []
  /-- Blocks are appended, and the last grant, if part of it may be given back, is at their end. -/
  | blocks (front : List Block) (last : Block) {log : Bytes}
      (happended : writer.Appended base size front last log)
      (hgrant : ∀ grant, writer.lastGrant = some grant → grant ≤ writer.lastUsed) :
      Logs base size writer log

section logs

variable {base : Blocks} {size : Nat} {writer : Writer} {log : Bytes}

/-- The last block of the message is the last one that was appended. -/
theorem Appended.last?_eq {front : List Block} {last : Block}
    (h : writer.Appended base size front last log) : writer.blocks.last? = some last := by
  rw [Blocks.last?_eq_getLast?, h.toList_eq, ← List.append_assoc, List.getLast?_concat]

/-- When the last block is replaced, the blocks in front of it stay. -/
theorem Appended.toList_setLast {front : List Block} {last : Block}
    (h : writer.Appended base size front last log) (block : Block) :
    (writer.blocks.setLast block).toList = base.toList ++ (front ++ [block]) := by
  rw [Blocks.toList_setLast, h.toList_eq, ← List.append_assoc, List.dropLast_concat,
    List.append_assoc]

/-- The number of written bytes is the length of the log. -/
theorem Logs.count_eq (h : Logs base size writer log) : writer.byteCount = log.length := by
  cases h with
  | nothing _ _ _ hcount => exact hcount
  | blocks _ _ happended => exact happended.count_eq

/-- The message in front of the log is left alone. -/
theorem Logs.prefix (h : Logs base size writer log) :
    base.toList <+: writer.blocks.toList := by
  cases h with
  | nothing hblocks => exact hblocks ▸ List.prefix_rfl
  | blocks _ _ happended =>
    rw [happended.toList_eq]
    exact List.prefix_append _ _

/-- A writer starts with an empty log. -/
theorem start_logs (blocks : Blocks) (blockSize : Nat) :
    Logs blocks (max blockSize 1) (start blocks blockSize) [] :=
  .nothing rfl rfl rfl rfl rfl

/-- Room for a head is a log of zero bytes. -/
theorem reserveHead_logs {head : Nat} (h : Logs base size writer [])
    (howns : writer.ownsTail = false) (hhead : head < size) :
    ∃ after, writer.reserveHead head = .ok (after, ⟨.ofNat base.count, 0, .ofNat head⟩) ∧
      Logs base size after (Bytes.zeros head) := by
  cases h with
  | blocks _ _ happended =>
    rw [happended.owns] at howns
    cases howns
  | nothing hblocks howns hsize hcount hgrant =>
    have hreserve : writer.reserveHead head =
        .ok ({ writer with
            blocks := base.grow size, ownsTail := true, lastUsed := head, byteCount := head },
          ⟨.ofNat base.count, 0, .ofNat head⟩) := by
      unfold reserveHead
      rw [howns, hcount, hblocks, hsize, if_neg (by decide), if_neg (Nat.not_le.2 hhead)]
    refine ⟨_, hreserve, .blocks [] (.zeroed size)
      ⟨?_, rfl, hsize, ?_, ?_, ?_, ?_, ?_⟩ ?_⟩
    · exact Blocks.toList_push base (.zeroed size)
    · exact fun block hblock => absurd hblock List.not_mem_nil
    · exact Block.full_zeroed size
    · exact Nat.le_of_lt hhead
    · simp [Block.zeroed, Bytes.zeros, List.take_replicate, Nat.min_eq_left (Nat.le_of_lt hhead)]
    · exact (Bytes.length_zeros head).symm
    · intro grant hsome
      rw [hgrant] at hsome
      cases hsome

/-- A writer with room has appended a block that is not written to its end. -/
theorem withRoom_appended (h : Logs base size writer log) (hsize : 0 < size) :
    ∃ front last, writer.withRoom.Appended base size front last log ∧
      writer.withRoom.lastUsed < size := by
  cases h with
  | nothing hblocks howns hblockSize hcount =>
    have hroom : writer.withRoom =
        { writer with blocks := base.grow size, ownsTail := true, lastUsed := 0 } := by
      simp only [withRoom, howns, hblocks, hblockSize, Bool.not_false, Bool.true_or, if_true]
    rw [hroom]
    refine ⟨[], .zeroed size, ⟨?_, rfl, hblockSize, ?_, ?_, Nat.zero_le _, rfl, hcount⟩, hsize⟩
    · exact Blocks.toList_push base (.zeroed size)
    · exact fun block hblock => absurd hblock List.not_mem_nil
    · exact Block.full_zeroed size
  | blocks front last happended =>
    have hlast := happended.last?_eq
    by_cases hfull : size ≤ writer.lastUsed
    · -- the last block is written to its end, so that it is one of those in front from now on
      have hroom : writer.withRoom =
          { writer with blocks := writer.blocks.grow size, ownsTail := true, lastUsed := 0 } := by
        simp only [withRoom, hlast, happended.last_full.capacity_eq, happended.blockSize_eq, hfull,
          decide_true, Bool.or_true, if_true]
      rw [hroom]
      refine ⟨front ++ [last], .zeroed size, ⟨?_, rfl, happended.blockSize_eq, ?_, ?_,
        Nat.zero_le _, ?_, happended.count_eq⟩, hsize⟩
      · simp only [Blocks.grow, Blocks.toList_push, happended.toList_eq, List.append_assoc]
      · intro block hblock
        rcases List.mem_append.1 hblock with hblock | hblock
        · exact happended.front_full block hblock
        · obtain rfl := List.mem_singleton.1 hblock
          exact happended.last_full
      · exact Block.full_zeroed size
      · have hstorage : last.storage.take writer.lastUsed = last.contents := by
          rw [happended.last_full.contents_eq]
          exact List.take_of_length_le
            (Nat.le_trans (Nat.le_of_eq happended.last_full.capacity_eq) hfull)
        rw [happended.log_eq, hstorage]
        simp
    · have hroom : writer.withRoom = writer := by
        simp only [withRoom, hlast, happended.last_full.capacity_eq, happended.owns, hfull,
          decide_false, Bool.not_true, Bool.or_false, Bool.false_eq_true, if_false]
      rw [hroom]
      exact ⟨front, last, happended, Nat.not_le.1 hfull⟩

/-- **A grant is never empty, and all of it is put behind the log**, with the given bytes written
over its front. -/
theorem grant_logs (h : Logs base size writer log) (hsize : 0 < size) (fill : Bytes) :
    ∃ after region, writer.grant fill = (after, region) ∧ region ≠ [] ∧
      after.lastGrant = some region.length ∧
      Logs base size after (log ++ region.overwrite 0 fill) := by
  obtain ⟨front, last, happended, hroom⟩ := withRoom_appended h hsize
  have hlast := happended.last?_eq
  have hcapacity : last.storage.length = size := happended.last_full.capacity_eq
  have hgrant : writer.grant fill =
      ({ writer.withRoom with
          blocks := writer.withRoom.blocks.setLast (last.write writer.withRoom.lastUsed
            (fill.take (last.storage.drop writer.withRoom.lastUsed).length))
          lastUsed := last.capacity
          lastGrant := some (last.storage.drop writer.withRoom.lastUsed).length
          byteCount := writer.withRoom.byteCount +
            (last.storage.drop writer.withRoom.lastUsed).length },
        last.storage.drop writer.withRoom.lastUsed) := by
    simp only [grant, hlast]
  generalize writer.withRoom = roomy at *
  have hstorage := Bytes.overwrite_take_drop last.storage fill roomy.lastUsed
  have hregion : (last.storage.drop roomy.lastUsed).length = size - roomy.lastUsed := by
    rw [List.length_drop, hcapacity]
  have hfull := happended.last_full.write happended.used_le
    (fill.take (last.storage.drop roomy.lastUsed).length)
  refine ⟨_, _, hgrant, List.ne_nil_of_length_pos (by omega), rfl,
    .blocks front _ ⟨?_, happended.owns, happended.blockSize_eq, happended.front_full, hfull,
      Nat.le_of_eq happended.last_full.capacity_eq, ?_, ?_⟩ ?_⟩
  · exact happended.toList_setLast _
  · rw [happended.log_eq, List.append_assoc, ← hstorage]
    have hwhole := Nat.le_of_eq (hfull.capacity_eq.trans hcapacity.symm)
    exact congrArg _ (List.take_of_length_le hwhole).symm
  · rw [List.length_append, Bytes.length_overwrite _ _ (Nat.zero_le _)]
    exact congrArg (· + _) happended.count_eq
  · intro grant hsome
    obtain rfl := Option.some.inj hsome
    rw [List.length_drop]
    exact Nat.sub_le _ _

/-- **The bytes that are given back are taken off the log**, as many as were granted last, and only
once. -/
theorem backUp_logs {grant count : Nat} (h : Logs base size writer log)
    (hgrant : writer.lastGrant = some grant) (hcount : count ≤ grant) :
    ∃ after, writer.backUp count = .ok after ∧
      Logs base size after (log.take (log.length - count)) := by
  cases h with
  | nothing _ _ _ _ hnone =>
    rw [hnone] at hgrant
    cases hgrant
  | blocks front last happended hle =>
    have hused : count ≤ writer.lastUsed := Nat.le_trans hcount (hle grant hgrant)
    have hcapacity : last.storage.length = size := happended.last_full.capacity_eq
    have hlength : log.length = (front.map Block.contents).flatten.length + writer.lastUsed := by
      rw [happended.log_eq, List.length_append, List.length_take, hcapacity,
        Nat.min_eq_left happended.used_le]
    have hback : writer.backUp count =
        .ok { writer with
          lastUsed := writer.lastUsed - count
          lastGrant := none
          byteCount := writer.byteCount - count } := by
      simp only [backUp, hgrant]
      rw [if_neg (Nat.not_lt.2 hcount)]
    refine ⟨_, hback, .blocks front last ⟨happended.toList_eq, happended.owns,
      happended.blockSize_eq, happended.front_full, happended.last_full, ?_, ?_, ?_⟩ ?_⟩
    · exact Nat.le_trans (Nat.sub_le _ _) happended.used_le
    · rw [hlength, Nat.add_sub_assoc hused, happended.log_eq, List.take_length_add_append,
        List.take_take, Nat.min_eq_left (Nat.sub_le _ _)]
    · rw [List.length_take, Nat.min_eq_left (Nat.sub_le _ _)]
      exact congrArg (· - count) happended.count_eq
    · intro grant hsome
      cases hsome

/-- **What was copied is put behind the log**, and something is copied. -/
theorem write_logs (h : Logs base size writer log) (hsize : 0 < size) {bytes : Bytes}
    (hne : bytes ≠ []) :
    ∃ after copied, writer.write bytes = (after, copied) ∧ 0 < copied ∧ copied ≤ bytes.length ∧
      Logs base size after (log ++ bytes.take copied) := by
  obtain ⟨granted, region, hgrant, hregion, hlast, hlogs⟩ := grant_logs h hsize bytes
  have hpos : 0 < region.length := List.length_pos_iff.2 hregion
  have hpos' : 0 < bytes.length := List.length_pos_iff.2 hne
  obtain ⟨after, hback, hlogs⟩ := backUp_logs hlogs hlast
    (Nat.sub_le region.length (min region.length bytes.length))
  have hwrite : writer.write bytes = (after, min region.length bytes.length) := by
    have hfalse : bytes.isEmpty = false := by simpa using hne
    simp only [write, hfalse, hgrant, hback, Bool.false_eq_true, if_false]
  refine ⟨after, _, hwrite, Nat.lt_min.2 ⟨hpos, hpos'⟩, Nat.min_le_right _ _, ?_⟩
  -- of the grant, what was not copied is given back, so that the log ends with the copied bytes
  have hleft : (log ++ region.overwrite 0 bytes).length -
      (region.length - min region.length bytes.length) =
        log.length + min region.length bytes.length := by
    rw [List.length_append, Bytes.length_overwrite _ _ (Nat.zero_le _)]
    omega
  rw [hleft, List.take_length_add_append,
    Bytes.take_overwrite_zero _ _ (Nat.min_le_left _ _) (Nat.min_le_right _ _)] at hlogs
  exact hlogs

/-- **All bytes are put behind the log.** -/
theorem writeAll_logs (h : Logs base size writer log) (hsize : 0 < size) (bytes : Bytes) :
    Logs base size (writer.writeAll bytes) (log ++ bytes) := by
  fun_induction writeAll writer bytes generalizing log with
  | case1 writer bytes hempty =>
    obtain rfl := List.isEmpty_iff.1 hempty
    rw [List.append_nil]
    exact h
  | case2 writer bytes hne after hwrite =>
    -- something was copied, so that the loop does not stop before the last byte
    have hne : bytes ≠ [] := fun hnil => hne (List.isEmpty_iff.2 hnil)
    obtain ⟨after', copied, hwrite', hpos, -⟩ := write_logs h hsize hne
    rw [hwrite] at hwrite'
    cases hwrite'
    cases hpos
  | case3 writer bytes hne after copied hwrite hcopied ih =>
    have hne : bytes ≠ [] := fun hnil => hne (List.isEmpty_iff.2 hnil)
    obtain ⟨after', copied', hwrite', -, -, hlogs⟩ := write_logs h hsize hne
    rw [hwrite] at hwrite'
    cases hwrite'
    have hall := ih hlogs
    rwa [List.append_assoc, List.take_append_drop] at hall

/-- Several strings are put behind the log one after the other. -/
theorem foldl_writeAll_logs (h : Logs base size writer log) (hsize : 0 < size)
    (parts : List Bytes) :
    Logs base size (parts.foldl writeAll writer) (log ++ parts.flatten) := by
  induction parts generalizing writer log with
  | nil =>
    rw [List.flatten_nil, List.append_nil]
    exact h
  | cons bytes parts ih =>
    rw [List.foldl_cons, List.flatten_cons, ← List.append_assoc]
    exact ih (writeAll_logs h hsize bytes)

/-- **A finished writer has appended blocks that declare exactly the log**, and gives its length.
All of these blocks but the last one are full. -/
theorem finish_logs (h : Logs base size writer log) :
    ∃ after appended, writer.finish = .ok (after, log.length) ∧
      after.toList = base.toList ++ appended ∧ (appended.map Block.contents).flatten = log ∧
      (∀ block ∈ appended, block.WellFormed) ∧ ∀ block ∈ appended.dropLast, block.Full size := by
  have hcount := h.count_eq
  cases h with
  | nothing hblocks howns =>
    refine ⟨base, [], ?_, (List.append_nil _).symm, rfl, ?_, ?_⟩
    · simp only [finish, howns, hblocks, hcount, Bool.false_eq_true, if_false]
    · exact fun block hblock => absurd hblock List.not_mem_nil
    · exact fun block hblock => absurd hblock List.not_mem_nil
  | blocks front last happended =>
    have hlast := happended.last?_eq
    have hfits : writer.lastUsed ≤ last.capacity :=
      Nat.le_trans happended.used_le (Nat.le_of_eq happended.last_full.capacity_eq.symm)
    have hfinish : writer.finish =
        .ok (writer.blocks.setLast { last with length := writer.lastUsed }, log.length) := by
      simp only [finish, happended.owns, if_true, Blocks.commitLast, hlast,
        if_neg (Nat.not_lt.2 hfits), hcount]
    refine ⟨_, front ++ [{ last with length := writer.lastUsed }], hfinish, ?_, ?_, ?_, ?_⟩
    · exact happended.toList_setLast _
    · rw [happended.log_eq]
      simp [Block.contents]
    · intro block hblock
      rcases List.mem_append.1 hblock with hblock | hblock
      · have hfull := happended.front_full block hblock
        exact Nat.le_of_eq (hfull.length_eq.trans hfull.capacity_eq.symm)
      · obtain rfl := List.mem_singleton.1 hblock
        exact hfits
    · rw [List.dropLast_concat]
      exact happended.front_full

end logs

end Writer

end Buffer

end PeerNet
