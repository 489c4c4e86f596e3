import PeerNet.Proofs.Buffer.WriterLog
import PeerNet.Proofs.Frame.RoundTrip

/-!
# A frame is written in blocks as it is written at once

`Package.writeFrame` reserves the room of the header in a new block, lets the body run over as many
blocks as it needs, and writes the header last, with the length that the writer has counted;
`Package.toFrame` takes the length from the package and writes everything at once.

* **The header's block** (`range?_of_toList`, `toList_writeRange`, `contents_write_zero`): the room
  that was reserved is found again behind the old blocks, and writing to it changes the front of
  this block only.
* **Two cases** (`writeFrame_of_toFrame`, `writeFrame_of_no_frame`): what is written for a package
  that has a frame, and for one that has none.
* **Agreement** (`writeFrame_agrees`): both ways succeed for the same packages and write the same
  bytes, and the blocks that were there before are left alone.
-/

namespace PeerNet

namespace Buffer

/-! ### A range of one block -/

section range

variable {blocks : Blocks} {front rest : List Block} {block : Block}

/-- The block that stands behind others. -/
theorem getElem?_of_toList (h : blocks.toList = front ++ block :: rest) :
    blocks.toArray[front.length]? = some block := by
  have hlist : blocks.toList[front.length]? = some block := by
    rw [h, List.getElem?_append_right (Nat.le_refl _), Nat.sub_self]
    rfl
  rwa [Blocks.toList, Array.getElem?_toList] at hlist

/-- A range inside the contents of a block is found. -/
theorem range?_of_toList (h : blocks.toList = front ++ block :: rest) {offset length : UInt64}
    (hword : offset.toNat + length.toNat < UInt64.size)
    (hfits : offset.toNat + length.toNat ≤ block.length) :
    blocks.range? ⟨.ofNat front.length, offset, length⟩ =
      .found front.length offset.toNat length.toNat := by
  simp only [Blocks.range?, getElem?_of_toList h]
  rw [if_neg (Nat.not_le.2 hword), if_neg (Nat.not_lt.2 hfits)]

/-- Writing to a range of a block leaves the other blocks alone. -/
theorem toList_writeRange (h : blocks.toList = front ++ block :: rest) (start : Nat)
    (bytes : Bytes) :
    (blocks.writeRange front.length start bytes.length bytes).toList =
      front ++ block.write start bytes :: rest := by
  have hlt : front.length < (front ++ block :: rest).length := by simp
  unfold Blocks.toList at h ⊢
  rw [Blocks.writeRange, Array.toList_modify, h, List.modify_eq_take_cons_drop hlt,
    List.take_length, List.take_left, List.getElem_append_right (Nat.le_refl _)]
  simp

/-- Writing over the front of a block's contents keeps the rest of them. -/
theorem Block.contents_write_zero {block : Block} (h : block.WellFormed) {bytes : Bytes}
    (hfits : bytes.length ≤ block.length) :
    (block.write 0 bytes).contents = bytes ++ block.contents.drop bytes.length := by
  have hle : bytes.length ≤ block.storage.length := Nat.le_trans hfits h
  simp only [contents, write, Bytes.overwrite, List.take_zero, List.nil_append, Nat.sub_zero,
    Nat.zero_add, List.take_of_length_le hle, List.drop_take]
  rw [List.take_append, List.take_of_length_le hfits]

/-- The first of the blocks that declare a log is as long as the log's front, if that is not longer
than a full block. -/
theorem le_length_head {head : Block} {more : List Block} {size count : Nat}
    (hfits : head.WellFormed) (hfull : ∀ block ∈ (head :: more).dropLast, block.Full size)
    (hsize : count ≤ size) (hlog : count ≤ ((head :: more).map Block.contents).flatten.length) :
    count ≤ head.length := by
  cases more with
  | nil =>
    rw [List.map_cons, List.map_nil, List.flatten_cons, List.flatten_nil, List.append_nil,
      Block.length_contents hfits] at hlog
    exact hlog
  | cons next more =>
    rw [(hfull head List.mem_cons_self).length_eq]
    exact hsize

end range

end Buffer

namespace Frame.Package

open Buffer

/-- The header is written to the room that was reserved for it behind a message: nothing but this
room changes. -/
theorem contents_writeRange {base after : Blocks} {appended : List Block} {size : Nat}
    (header : Header) {body : Bytes} (hafter : after.toList = base.toList ++ appended)
    (hlog : (appended.map Block.contents).flatten = Bytes.zeros headerLength ++ body)
    (hfits : ∀ block ∈ appended, block.WellFormed)
    (hfull : ∀ block ∈ appended.dropLast, block.Full size) (hsize : headerLength ≤ size) :
    after.range? ⟨.ofNat base.count, 0, .ofNat headerLength⟩ =
        .found base.count 0 headerLength ∧
      (after.writeRange base.count 0 headerLength header.toBytes).contents =
        base.contents ++ (header.toBytes ++ body) ∧
      base.toList <+: (after.writeRange base.count 0 headerLength header.toBytes).toList := by
  have hcount : base.count = base.toList.length := rfl
  cases appended with
  | nil =>
    have hlength := congrArg List.length hlog
    rw [List.length_append, Bytes.length_zeros, headerLength] at hlength
    exact absurd hlength (by simp; omega)
  | cons head more =>
    have hhead := hfits head List.mem_cons_self
    have hroom : headerLength ≤ head.length := by
      refine le_length_head hhead hfull hsize ?_
      rw [hlog, List.length_append, Bytes.length_zeros]
      exact Nat.le_add_right _ _
    have hwritten := toList_writeRange hafter 0 header.toBytes
    rw [header.length_toBytes, ← hcount] at hwritten
    refine ⟨?_, ?_, ?_⟩
    · rw [hcount]
      exact range?_of_toList hafter (by decide) hroom
    · have hbody : body = head.contents.drop headerLength ++ (more.map Block.contents).flatten := by
        have hdrop := congrArg (List.drop headerLength) hlog
        rw [List.drop_left' (Bytes.length_zeros _), List.map_cons, List.flatten_cons,
          List.drop_append_of_le_length (by rwa [Block.length_contents hhead])] at hdrop
        exact hdrop.symm
      have hheader : header.toBytes.length ≤ head.length := by rwa [header.length_toBytes]
      have hcontents := Block.contents_write_zero hhead hheader
      rw [header.length_toBytes] at hcontents
      simp only [Blocks.contents, Blocks.pieces, hwritten, List.map_append, List.map_cons,
        List.flatten_append, List.flatten_cons, hcontents, hbody, List.append_assoc]
    · rw [hwritten]
      exact List.prefix_append _ _

/-- The room of the header is always reserved, and when a body was written behind it, the appended
blocks declare this room and the body. -/
theorem exists_reserveHead (blocks : Blocks) (blockSize : Nat) :
    ∃ writer,
      (Writer.start blocks (max blockSize (headerLength + 1))).reserveHead headerLength =
        .ok (writer, ⟨.ofNat blocks.count, 0, .ofNat headerLength⟩) ∧
      blocks.toList <+: writer.blocks.toList ∧
      ∀ parts : List Bytes, ∃ after appended size,
        (parts.foldl Writer.writeAll writer).finish =
          .ok (after, headerLength + parts.flatten.length) ∧
        after.toList = blocks.toList ++ appended ∧
        (appended.map Block.contents).flatten = Bytes.zeros headerLength ++ parts.flatten ∧
        (∀ block ∈ appended, block.WellFormed) ∧
        (∀ block ∈ appended.dropLast, block.Full size) ∧ headerLength ≤ size := by
  have hsize : headerLength < max (max blockSize (headerLength + 1)) 1 := by omega
  obtain ⟨writer, hreserve, hwriter⟩ :=
    Writer.reserveHead_logs (Writer.start_logs blocks (max blockSize (headerLength + 1))) rfl hsize
  refine ⟨writer, hreserve, hwriter.prefix, fun parts => ?_⟩
  have hlogs := Writer.foldl_writeAll_logs hwriter (Nat.zero_lt_of_lt hsize) parts
  obtain ⟨after, appended, hfinish, hafter, hlog, hfits, hfull⟩ := Writer.finish_logs hlogs
  rw [List.length_append, Bytes.length_zeros] at hfinish
  exact ⟨after, appended, _, hfinish, hafter, hlog, hfits, hfull, Nat.le_of_lt hsize⟩

/-- A package that has a frame is written in blocks behind the old ones, which then hold this frame.
-/
theorem writeFrame_of_toFrame {package : Package} {frame : Bytes}
    (h : package.toFrame = .ok frame) (blocks : Blocks) (blockSize : Nat) :
    ∃ after, package.writeFrame blocks blockSize =
        (after, .ok (headerLength + package.bodyLength)) ∧
      after.contents = blocks.contents ++ frame ∧ blocks.toList <+: after.toList := by
  obtain ⟨hlt, parts, hparts, rfl⟩ := toFrame_eq_ok_iff.1 h
  obtain ⟨writer, hreserve, -, hwriter⟩ := exists_reserveHead blocks blockSize
  obtain ⟨after, appended, size, hfinish, hafter, hlog, hfits, hfull, hsize⟩ := hwriter parts
  obtain ⟨hrange, hcontents, hold⟩ :=
    contents_writeRange package.header hafter hlog hfits hfull hsize
  rw [length_flatten_bodyParts hparts] at hfinish
  refine ⟨_, ?_, hcontents, hold⟩
  unfold writeFrame
  simp only [hreserve, hparts, hfinish, Nat.add_sub_cancel_left, hrange]
  rw [if_neg (Nat.not_le.2 hlt)]
  rfl

/-- A package without a frame is refused in blocks as well, and the old blocks are left alone: when
its body cannot be written, room for a header was appended to them, and when its length cannot be
announced, the body as well. -/
theorem writeFrame_of_no_frame {package : Package}
    (h : ¬∃ frame, package.toFrame = .ok frame) (blocks : Blocks) (blockSize : Nat) :
    ∃ after error, package.writeFrame blocks blockSize = (after, .error error) ∧
      blocks.toList <+: after.toList := by
  obtain ⟨writer, hreserve, hold, hwriter⟩ := exists_reserveHead blocks blockSize
  cases hparts : package.bodyParts with
  | error fault =>
    refine ⟨writer.blocks, fault.toError, ?_, hold⟩
    unfold writeFrame
    simp only [hreserve, hparts]
  | ok parts =>
    obtain ⟨after, appended, size, hfinish, hafter, -⟩ := hwriter parts
    rw [length_flatten_bodyParts hparts] at hfinish
    have hlong : UInt32.size ≤ package.bodyLength := by
      rcases Nat.lt_or_ge package.bodyLength UInt32.size with hlt | hlong
      · exact absurd ⟨_, toFrame_eq_ok_iff.2 ⟨hlt, parts, hparts, rfl⟩⟩ h
      · exact hlong
    refine ⟨after, (Fault.bodyNotAnnounceable (headerLength + package.bodyLength)).toError, ?_, ?_⟩
    · unfold writeFrame
      simp only [hreserve, hparts, hfinish, Nat.add_sub_cancel_left]
      rw [if_pos hlong]
    · rw [hafter]
      exact List.prefix_append _ _

/-- **A frame is written in blocks as it is written at once.** Both ways of writing succeed for the
same packages. The blocks then hold the old message and, behind it, exactly the frame, and its
length is given. Whether or not the package is refused, all blocks that were there before are left
alone. -/
theorem writeFrame_agrees (package : Package) (blocks : Blocks) (blockSize : Nat) :
    ((∃ total, (package.writeFrame blocks blockSize).2 = .ok total) ↔
        ∃ frame, package.toFrame = .ok frame) ∧
      (∀ total frame, (package.writeFrame blocks blockSize).2 = .ok total →
        package.toFrame = .ok frame →
          (package.writeFrame blocks blockSize).1.contents = blocks.contents ++ frame ∧
            total = headerLength + package.bodyLength) ∧
      blocks.toList <+: (package.writeFrame blocks blockSize).1.toList := by
  by_cases hyes : ∃ frame, package.toFrame = .ok frame
  · obtain ⟨frame, hframe⟩ := hyes
    obtain ⟨after, hwrite, hcontents, hold⟩ := writeFrame_of_toFrame hframe blocks blockSize
    rw [hwrite]
    refine ⟨⟨fun _ => ⟨frame, hframe⟩, fun _ => ⟨_, rfl⟩⟩, ?_, hold⟩
    intro total frame' htotal hframe'
    rw [hframe] at hframe'
    cases hframe'
    cases htotal
    exact ⟨hcontents, rfl⟩
  · obtain ⟨after, error, hwrite, hold⟩ := writeFrame_of_no_frame hyes blocks blockSize
    rw [hwrite]
    refine ⟨⟨?_, fun h => absurd h hyes⟩, ?_, hold⟩
    · rintro ⟨total, htotal⟩
      cases htotal
    · intro total frame htotal
      cases htotal

end Frame.Package

end PeerNet
