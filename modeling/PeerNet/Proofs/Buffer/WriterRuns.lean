import PeerNet.Proofs.Buffer.WriterLog

/-!
# What a user of a writer can count on

A user asks a writer for operations in any order and is told an answer to each. From these questions
and answers alone follows a `Ledger`: the log, the grant that may be given back, and the bytes that
were given back last. The writer keeps to it.

* **One operation** (`perform_agrees`): what the writer answers and keeps, the ledger records.
* **Any operations** (`run_agrees`): by induction on the list of operations.
* **Refinement** (`run_keepsLedger`): after any operations the counter is the length of the log, the
  finished message is the old one with the log behind it, the next grant is never empty and gives
  back what was returned, and bytes can be returned exactly when the ledger has an open grant.
-/

namespace PeerNet

/-- Writing over the front of a string keeps what is behind it. -/
theorem Bytes.drop_overwrite_zero {dst src : Bytes} (h : src.length ≤ dst.length) :
    (dst.overwrite 0 src).drop src.length = dst.drop src.length := by
  simp only [overwrite, List.take_zero, List.nil_append, Nat.sub_zero, Nat.zero_add,
    List.take_of_length_le h]
  exact List.drop_left

namespace Buffer.Writer

/-! ### Operations and answers -/

/-- What a user asks of a writer. -/
inductive Operation where
  /-- Room at the front, of this size. -/
  | reserveHead (size : Nat)
  /-- A grant, over whose front these bytes are written. -/
  | grant (fill : Bytes)
  /-- To take back the last bytes of the last grant, as many as this. -/
  | backUp (count : Nat)
  /-- To copy some of these bytes. -/
  | write (bytes : Bytes)
  /-- To copy all of these bytes. -/
  | writeAll (bytes : Bytes)
  /-- To pass on what was written. -/
  | flush
  deriving DecidableEq, Repr

/-- What the user is told. -/
inductive Answer where
  /-- The room at the front is here. -/
  | reserved (range : BlockRange)
  /-- This region is granted. -/
  | granted (region : Bytes)
  /-- So many bytes were copied. -/
  | wrote (count : Nat)
  /-- It is done. -/
  | done
  /-- It is refused. -/
  | refused (fault : Fault)
  deriving DecidableEq, Repr

/-- One operation. A writer hands nothing on, so that there is nothing to flush. -/
def perform (writer : Writer) : Operation → Writer × Answer
  | .reserveHead size =>
    match writer.reserveHead size with
    | .ok (after, range) => (after, .reserved range)
    | .error fault => (writer, .refused fault)
  | .grant fill => ((writer.grant fill).1, .granted (writer.grant fill).2)
  | .backUp count =>
    match writer.backUp count with
    | .ok after => (after, .done)
    | .error fault => (writer, .refused fault)
  | .write bytes => ((writer.write bytes).1, .wrote (writer.write bytes).2)
  | .writeAll bytes => (writer.writeAll bytes, .done)
  | .flush => (writer, .done)

/-- Operations one after the other, each with its answer. -/
def run (writer : Writer) : List Operation → Writer × List (Operation × Answer)
  | [] => (writer, [])
  | operation :: rest =>
    ((run (writer.perform operation).1 rest).1,
      (operation, (writer.perform operation).2) :: (run (writer.perform operation).1 rest).2)

/-- What the questions and answers so far amount to. -/
structure Ledger where
  /-- The bytes that are written. -/
  log : Bytes
  /-- The size of the last grant, if nothing was given back or copied since. -/
  openGrant : Option Nat
  /-- The bytes that were given back and not granted again. -/
  returned : Bytes
  /-- Whether anything was reserved, granted or copied. -/
  begun : Bool
  deriving DecidableEq, Repr

namespace Ledger

/-- Nothing was asked yet. -/
def empty : Ledger := ⟨[], none, [], false⟩

/-- A grant counts as written as a whole, as it is once it was filled; what is given back is taken
off the end of the log. -/
def record (ledger : Ledger) : Operation → Answer → Ledger
  | .reserveHead size, .reserved _ =>
    { ledger with log := ledger.log ++ Bytes.zeros size, begun := true }
  | .grant fill, .granted region =>
    ⟨ledger.log ++ region.overwrite 0 fill, some region.length, [], true⟩
  | .backUp count, .done =>
    { ledger with
      log := ledger.log.take (ledger.log.length - count)
      openGrant := none
      returned := ledger.log.drop (ledger.log.length - count) }
  | .write bytes, .wrote count =>
    if bytes.isEmpty then ledger
    else ⟨ledger.log ++ bytes.take count, none, ledger.returned.drop count, true⟩
  | .writeAll bytes, .done =>
    if bytes.isEmpty then ledger
    else ⟨ledger.log ++ bytes, none, ledger.returned.drop bytes.length, true⟩
  | _, _ => ledger

/-- The ledger of a history, the first operation first. -/
def ofHistory (history : List (Operation × Answer)) : Ledger :=
  history.foldl (fun ledger entry => ledger.record entry.1 entry.2) empty

end Ledger

/-! ### The free part of the last block -/

/-- The part of the writer's last block that is not written. -/
def free (writer : Writer) : Bytes :=
  match writer.ownsTail, writer.blocks.last? with
  | true, some block => block.storage.drop writer.lastUsed
  | _, _ => []

section agrees

variable {base : Blocks} {size : Nat} {writer : Writer} {log : Bytes} {ledger : Ledger}

/-- The free part of an appended block. -/
theorem Appended.free_eq {front : List Block} {last : Block}
    (h : writer.Appended base size front last log) :
    writer.free = last.storage.drop writer.lastUsed := by
  simp only [free, h.owns, h.last?_eq]

/-- A grant that may be given back is not longer than the log. -/
theorem Logs.grant_le (h : Logs base size writer log) {grant : Nat}
    (hgrant : writer.lastGrant = some grant) : grant ≤ log.length := by
  cases h with
  | nothing _ _ _ _ hnone =>
    rw [hnone] at hgrant
    cases hgrant
  | blocks front last happended hle =>
    have hcapacity : last.storage.length = size := happended.last_full.capacity_eq
    rw [happended.log_eq, List.length_append, List.length_take, hcapacity,
      Nat.min_eq_left happended.used_le]
    exact Nat.le_trans (hle grant hgrant) (Nat.le_add_left _ _)

/-- When part of the last block is free, a grant gives this part. -/
theorem grant_of_free (h : writer.free ≠ []) (fill : Bytes) :
    (writer.grant fill).2 = writer.free := by
  unfold free at h ⊢
  cases howns : writer.ownsTail with
  | false => simp [howns] at h
  | true =>
    cases hlast : writer.blocks.last? with
    | none => simp [howns, hlast] at h
    | some block =>
      simp only [howns, hlast, ne_eq, List.drop_eq_nil_iff] at h
      have hroom : writer.withRoom = writer := by
        simp [withRoom, howns, hlast, Block.capacity, h]
      simp only [grant, hroom, hlast]

/-- After a grant the last block is the writer's own, and no part of it is free. -/
theorem free_grant (h : Logs base size writer log) (hsize : 0 < size) (fill : Bytes) :
    (writer.grant fill).1.ownsTail = true ∧ (writer.grant fill).1.free = [] := by
  obtain ⟨front, last, happended, -⟩ := withRoom_appended h hsize
  have hlast : ∀ block, (writer.withRoom.blocks.setLast block).last? = some block := by
    intro block
    rw [Blocks.last?_eq_getLast?, Blocks.toList_setLast, List.getLast?_concat]
  have hlength : ∀ bytes, (last.storage.overwrite writer.withRoom.lastUsed bytes).length =
      last.storage.length := by
    intro bytes
    refine Bytes.length_overwrite _ _ (Nat.le_trans happended.used_le ?_)
    exact Nat.le_of_eq happended.last_full.capacity_eq.symm
  simp only [grant, happended.last?_eq, free, happended.owns, hlast, Block.write,
    List.drop_eq_nil_iff, hlength, true_and]
  exact Nat.le_refl _

/-- Of a whole block, the bytes of an open grant that are given back become its free part. -/
theorem free_backUp {count grant : Nat} (h : Logs base size writer log)
    (hgrant : writer.lastGrant = some grant) (hcount : count ≤ grant) (hfree : writer.free = []) :
    ∃ after, writer.backUp count = .ok after ∧ after.lastGrant = none ∧
      after.ownsTail = writer.ownsTail ∧ after.free = log.drop (log.length - count) := by
  cases h with
  | nothing _ _ _ _ hnone =>
    rw [hnone] at hgrant
    cases hgrant
  | blocks front last happended hle =>
    have hused : count ≤ writer.lastUsed := Nat.le_trans hcount (hle grant hgrant)
    have hcapacity : last.storage.length = size := happended.last_full.capacity_eq
    have hfull : writer.lastUsed = size := by
      rw [happended.free_eq, List.drop_eq_nil_iff, hcapacity] at hfree
      exact Nat.le_antisymm happended.used_le hfree
    have hlog : log = (front.map Block.contents).flatten ++ last.storage := by
      rw [happended.log_eq, hfull, ← hcapacity, List.take_length]
    have hback : writer.backUp count =
        .ok { writer with
          lastUsed := writer.lastUsed - count
          lastGrant := none
          byteCount := writer.byteCount - count } := by
      simp only [backUp, hgrant]
      rw [if_neg (Nat.not_lt.2 hcount)]
    refine ⟨_, hback, rfl, rfl, ?_⟩
    have hfront : log.length - count =
        (front.map Block.contents).flatten.length + (size - count) := by
      rw [hlog, List.length_append, hcapacity]
      omega
    simp only [free, happended.owns, happended.last?_eq, hfull]
    rw [hfront, hlog, List.drop_length_add_append]

/-! ### The ledger of a writer -/

/-- A writer behind the message `base` that is where its ledger says. -/
structure Agrees (base : Blocks) (size : Nat) (writer : Writer) (ledger : Ledger) : Prop where
  /-- What is written. -/
  logs : Logs base size writer ledger.log
  /-- The grant that may be given back. -/
  openGrant_eq : writer.lastGrant = ledger.openGrant
  /-- Whether a block was appended. -/
  begun_eq : writer.ownsTail = ledger.begun
  /-- As long as a grant may be given back it reaches to the end of the last block. -/
  free_eq_nil : ledger.openGrant ≠ none → writer.free = []
  /-- What was given back is the free part of the last block. -/
  free_eq_returned : ledger.returned ≠ [] → writer.free = ledger.returned

/-- A writer starts with an empty ledger. -/
theorem start_agrees (blocks : Blocks) (blockSize : Nat) :
    Agrees blocks (max blockSize 1) (start blocks blockSize) .empty :=
  ⟨start_logs blocks blockSize, rfl, rfl, fun h => absurd rfl h, fun h => absurd rfl h⟩

/-- A grant is recorded. -/
theorem grant_agrees (h : Agrees base size writer ledger) (hsize : 0 < size) (fill : Bytes) :
    Agrees base size (writer.grant fill).1
      (ledger.record (.grant fill) (.granted (writer.grant fill).2)) := by
  obtain ⟨howns, hfree⟩ := free_grant h.logs hsize fill
  obtain ⟨after, region, hgrant, -, hlast, hlogs⟩ := grant_logs h.logs hsize fill
  rw [hgrant] at howns hfree ⊢
  exact ⟨hlogs, hlast, howns, fun _ => hfree, fun hne => absurd rfl hne⟩

/-- Bytes are taken back exactly when the last grant is still open and had as many. -/
theorem exists_backUp_iff (writer : Writer) (count : Nat) :
    (∃ after, writer.backUp count = .ok after) ↔
      ∃ grant, writer.lastGrant = some grant ∧ count ≤ grant := by
  unfold backUp
  cases writer.lastGrant with
  | none => simp
  | some grant =>
    by_cases hcount : grant < count
    · simp [hcount]
    · simp [hcount, Nat.le_of_not_lt hcount]

/-- What is given back is recorded. -/
theorem backUp_agrees (h : Agrees base size writer ledger) {count : Nat} {after : Writer}
    (hback : writer.backUp count = .ok after) :
    Agrees base size after (ledger.record (.backUp count) .done) := by
  obtain ⟨grant, hgrant, hcount⟩ := (exists_backUp_iff writer count).1 ⟨after, hback⟩
  have hopen : ledger.openGrant ≠ none := by
    rw [← h.openGrant_eq, hgrant]
    exact Option.some_ne_none grant
  obtain ⟨after', hback', hlast, howns, hfree⟩ :=
    free_backUp h.logs hgrant hcount (h.free_eq_nil hopen)
  obtain ⟨after'', hback'', hlogs⟩ := backUp_logs h.logs hgrant hcount
  rw [hback] at hback' hback''
  cases hback'
  cases hback''
  exact ⟨hlogs, hlast, howns.trans h.begun_eq, fun hne => absurd rfl hne, fun _ => hfree⟩

/-- Room at the front is there exactly before the first block, for less than a block. -/
theorem exists_reserveHead_iff (h : Agrees base size writer ledger) (head : Nat) :
    (∃ after range, writer.reserveHead head = .ok (after, range)) ↔
      ledger.begun = false ∧ head < size := by
  rw [← h.begun_eq]
  obtain ⟨hlogs, -⟩ := h
  generalize ledger.log = log at hlogs
  cases hlogs with
  | nothing hblocks howns hblockSize hcount =>
    by_cases hhead : head < size
    · simp [reserveHead, howns, hcount, hblockSize, hhead, Nat.not_le.2 hhead]
    · simp [reserveHead, howns, hcount, hblockSize, hhead, Nat.not_lt.1 hhead]
  | blocks front last happended => simp [reserveHead, happended.owns]

/-- A writer that has not begun has no open grant, and nothing was given back to it. -/
theorem Agrees.of_not_begun (h : Agrees base size writer ledger) (hbegun : ledger.begun = false) :
    ledger.log = [] ∧ ledger.openGrant = none ∧ ledger.returned = [] := by
  obtain ⟨hlogs, hopen, howns, -, hreturned⟩ := h
  rw [hbegun] at howns
  refine ⟨?_, ?_, ?_⟩
  · cases hlog : ledger.log with
    | nil => rfl
    | cons byte rest =>
      rw [hlog] at hlogs
      cases hlogs with
      | blocks front last happended => exact absurd (howns.symm.trans happended.owns) (by decide)
  · rw [← hopen]
    generalize ledger.log = log at hlogs
    cases hlogs with
    | nothing _ _ _ _ hgrant => exact hgrant
    | blocks front last happended => exact absurd (howns.symm.trans happended.owns) (by decide)
  · refine Decidable.byContradiction fun hne => hne ((hreturned hne).symm.trans ?_)
    simp only [free, howns]

/-- The room at the front is recorded, and it is at the front of the first appended block. -/
theorem reserveHead_agrees (h : Agrees base size writer ledger) {head : Nat} {after : Writer}
    {range : BlockRange} (hreserve : writer.reserveHead head = .ok (after, range)) :
    Agrees base size after (ledger.record (.reserveHead head) (.reserved range)) ∧
      range = ⟨.ofNat base.count, 0, .ofNat head⟩ := by
  obtain ⟨hbegun, hhead⟩ := (exists_reserveHead_iff h head).1 ⟨after, range, hreserve⟩
  obtain ⟨hlog, hopen, hreturned⟩ := h.of_not_begun hbegun
  have howns : writer.ownsTail = false := h.begun_eq.trans hbegun
  have hkept : after.lastGrant = writer.lastGrant ∧ after.ownsTail = true := by
    unfold reserveHead at hreserve
    split_ifs at hreserve
    cases hreserve
    exact ⟨rfl, rfl⟩
  have hlogs := h.logs
  rw [hlog] at hlogs
  obtain ⟨after', hreserve', hlogs'⟩ := reserveHead_logs hlogs howns hhead
  rw [hreserve] at hreserve'
  cases hreserve'
  refine ⟨⟨?_, hkept.1.trans h.openGrant_eq, hkept.2, ?_, ?_⟩, rfl⟩
  · simp only [Ledger.record, hlog, List.nil_append]
    exact hlogs'
  · exact fun hne => absurd hopen hne
  · exact fun hne => absurd hreturned hne

/-- To copy bytes is to have them granted, and to give back what was granted too much. -/
theorem write_eq (h : Agrees base size writer ledger) (hsize : 0 < size) {bytes : Bytes}
    (hne : bytes ≠ []) :
    ∃ region copied after, (writer.grant bytes).2 = region ∧
      copied = min region.length bytes.length ∧ 0 < copied ∧
      (writer.grant bytes).1.backUp (region.length - copied) = .ok after ∧
      writer.write bytes = (after, copied) := by
  obtain ⟨granted, region, hgrant, hregion, hlast, -⟩ := grant_logs h.logs hsize bytes
  have hpos : 0 < min region.length bytes.length :=
    Nat.lt_min.2 ⟨List.length_pos_iff.2 hregion, List.length_pos_iff.2 hne⟩
  obtain ⟨after, hback⟩ :=
    (exists_backUp_iff granted (region.length - min region.length bytes.length)).2
      ⟨region.length, hlast, Nat.sub_le _ _⟩
  refine ⟨region, _, after, congrArg Prod.snd hgrant, rfl, hpos, ?_, ?_⟩
  · rw [hgrant]
    exact hback
  · have hfalse : bytes.isEmpty = false := by simpa using hne
    simp only [write, hfalse, hgrant, hback, Bool.false_eq_true, if_false]

/-- What is copied is recorded. -/
theorem write_agrees (h : Agrees base size writer ledger) (hsize : 0 < size) (bytes : Bytes) :
    Agrees base size (writer.write bytes).1
      (ledger.record (.write bytes) (.wrote (writer.write bytes).2)) := by
  by_cases hne : bytes = []
  · subst hne
    exact h
  obtain ⟨region, copied, after, hregion, hcopied, hpos, hback, hwrite⟩ := write_eq h hsize hne
  have hgranted := grant_agrees h hsize bytes
  have hagrees := backUp_agrees hgranted hback
  simp only [Ledger.record, hregion] at hagrees
  -- the ledger of a grant and a return, in terms of what was copied
  have hleft : (ledger.log ++ region.overwrite 0 bytes).length - (region.length - copied) =
      ledger.log.length + copied := by
    rw [List.length_append, Bytes.length_overwrite _ _ (Nat.zero_le _)]
    omega
  rw [hleft, List.take_length_add_append, List.drop_length_add_append,
    Bytes.take_overwrite_zero _ _ (by omega) (by omega)] at hagrees
  have hfalse : bytes.isEmpty = false := by simpa using hne
  simp only [hwrite, Ledger.record, hfalse, Bool.false_eq_true, if_false]
  refine ⟨hagrees.logs, hagrees.openGrant_eq, hagrees.begun_eq, hagrees.free_eq_nil, ?_⟩
  intro hreturned
  have hwas : ledger.returned ≠ [] := by
    intro hnil
    rw [hnil, List.drop_nil] at hreturned
    exact hreturned rfl
  have hregion' : region = ledger.returned := by
    rw [← hregion, ← h.free_eq_returned hwas]
    exact grant_of_free (by rwa [h.free_eq_returned hwas]) bytes
  -- part of the grant is left, so that all of the bytes were copied over its front
  have hshort : copied < region.length := by
    refine Nat.lt_of_not_le fun hle => hreturned ?_
    rw [← hregion']
    exact List.drop_of_length_le hle
  have hall : copied = bytes.length := by omega
  have hdrop : (region.overwrite 0 bytes).drop copied = ledger.returned.drop copied := by
    rw [hall, ← hregion']
    exact Bytes.drop_overwrite_zero (by omega)
  exact (hagrees.free_eq_returned (hdrop ▸ hreturned)).trans hdrop

/-- Copying some bytes and then the rest is recorded as copying all of them. -/
theorem Ledger.record_write_writeAll (ledger : Ledger) {bytes : Bytes} (hne : bytes ≠ [])
    {copied : Nat} (hle : copied ≤ bytes.length) :
    (ledger.record (.write bytes) (.wrote copied)).record (.writeAll (bytes.drop copied)) .done =
      ledger.record (.writeAll bytes) .done := by
  have hfalse : bytes.isEmpty = false := by simpa using hne
  simp only [record, hfalse, Bool.false_eq_true, if_false]
  by_cases hrest : bytes.drop copied = []
  · have hall : copied = bytes.length := Nat.le_antisymm hle (List.drop_eq_nil_iff.1 hrest)
    simp [hall]
  · have hfalse : (bytes.drop copied).isEmpty = false := by simpa using hrest
    simp only [hfalse, Bool.false_eq_true, if_false, List.append_assoc, List.take_append_drop,
      List.drop_drop, List.length_drop, Nat.add_sub_cancel' hle]

/-- What is copied as a whole is recorded. -/
theorem writeAll_agrees (h : Agrees base size writer ledger) (hsize : 0 < size) (bytes : Bytes) :
    Agrees base size (writer.writeAll bytes) (ledger.record (.writeAll bytes) .done) := by
  fun_induction writeAll writer bytes generalizing ledger with
  | case1 writer bytes hempty =>
    simp only [Ledger.record, hempty, if_true]
    exact h
  | case2 writer bytes hempty after hwrite =>
    -- something is copied, so that the loop does not stop before the last byte
    have hne : bytes ≠ [] := fun hnil => hempty (List.isEmpty_iff.2 hnil)
    obtain ⟨_, copied, _, -, -, hpos, -, hwrite'⟩ := write_eq h hsize hne
    rw [hwrite] at hwrite'
    cases hwrite'
    cases hpos
  | case3 writer bytes hempty after copied hwrite hcopied ih =>
    have hne : bytes ≠ [] := fun hnil => hempty (List.isEmpty_iff.2 hnil)
    obtain ⟨_, copied', _, -, hmin, -, -, hwrite'⟩ := write_eq h hsize hne
    rw [hwrite] at hwrite'
    cases hwrite'
    have hagrees := write_agrees h hsize bytes
    rw [hwrite] at hagrees
    rw [← ledger.record_write_writeAll hne (hmin ▸ Nat.min_le_right _ _)]
    exact ih hagrees

/-- **Whatever is asked, the writer is where the ledger of the answer says.** -/
theorem perform_agrees (h : Agrees base size writer ledger) (hsize : 0 < size)
    (operation : Operation) :
    Agrees base size (writer.perform operation).1
      (ledger.record operation (writer.perform operation).2) := by
  cases operation with
  | reserveHead head =>
    cases hreserve : writer.reserveHead head with
    | ok result =>
      simp only [perform, hreserve]
      exact (reserveHead_agrees h hreserve).1
    | error fault =>
      simp only [perform, hreserve]
      exact h
  | grant fill => exact grant_agrees h hsize fill
  | backUp count =>
    cases hback : writer.backUp count with
    | ok after =>
      simp only [perform, hback]
      exact backUp_agrees h hback
    | error fault =>
      simp only [perform, hback]
      exact h
  | write bytes => exact write_agrees h hsize bytes
  | writeAll bytes => exact writeAll_agrees h hsize bytes
  | flush => exact h

/-- After any operations the writer is where the ledger of their answers says. -/
theorem run_agrees (h : Agrees base size writer ledger) (hsize : 0 < size)
    (operations : List Operation) :
    Agrees base size (writer.run operations).1
      ((writer.run operations).2.foldl (fun ledger entry => ledger.record entry.1 entry.2)
        ledger) := by
  induction operations generalizing writer ledger with
  | nil => exact h
  | cons operation rest ih => exact ih (perform_agrees h hsize operation)

/-! ### What the ledger promises -/

/-- A writer behind the message `base`, with blocks of `size` bytes, keeps a ledger. -/
structure KeepsLedger (base : Blocks) (size : Nat) (writer : Writer) (ledger : Ledger) : Prop where
  /-- The old blocks are left alone. -/
  old_blocks : base.toList <+: writer.blocks.toList
  /-- The counter is the length of the log. -/
  byteCount_eq : writer.byteCount = ledger.log.length
  /-- The writer can always be finished. Then blocks stand behind the old ones that declare the log,
  and the number is its length. -/
  finish_eq : ∃ after appended, writer.finish = .ok (after, ledger.log.length) ∧
    after.toList = base.toList ++ appended ∧
    (appended.map Block.contents).flatten = ledger.log
  /-- A grant is never empty. -/
  grant_ne_nil : ∀ fill, (writer.grant fill).2 ≠ []
  /-- What was given back is what is granted next. -/
  grant_eq_returned : ∀ fill, ledger.returned ≠ [] → (writer.grant fill).2 = ledger.returned
  /-- Bytes may be given back when the last grant is open and had as many. -/
  backUp_iff : ∀ count, (∃ after, writer.backUp count = .ok after) ↔
    ∃ grant, ledger.openGrant = some grant ∧ count ≤ grant
  /-- An open grant is at the end of the log. -/
  openGrant_le : ∀ grant, ledger.openGrant = some grant → grant ≤ ledger.log.length
  /-- Room at the front may be had before anything else, for less than a block, and it is at the
  front of the first appended block. -/
  reserveHead_iff : ∀ head range, (∃ after, writer.reserveHead head = .ok (after, range)) ↔
    ledger.begun = false ∧ head < size ∧ range = ⟨.ofNat base.count, 0, .ofNat head⟩
  /-- Of some bytes at least one is copied. -/
  write_pos : ∀ bytes, bytes ≠ [] →
    0 < (writer.write bytes).2 ∧ (writer.write bytes).2 ≤ bytes.length
  /-- What is refused changes nothing. -/
  refused_eq : ∀ operation fault, (writer.perform operation).2 = .refused fault →
    (writer.perform operation).1 = writer

/-- A refused operation changes nothing. -/
theorem perform_of_refused {operation : Operation} {fault : Fault}
    (h : (writer.perform operation).2 = .refused fault) :
    (writer.perform operation).1 = writer := by
  cases operation with
  | reserveHead head =>
    cases hreserve : writer.reserveHead head with
    | ok result => simp [perform, hreserve] at h
    | error fault => simp [perform, hreserve]
  | backUp count =>
    cases hback : writer.backUp count with
    | ok after => simp [perform, hback] at h
    | error fault => simp [perform, hback]
  | grant fill => simp [perform] at h
  | write bytes => simp [perform] at h
  | writeAll bytes => simp [perform] at h
  | flush => rfl

/-- A writer that is where its ledger says keeps what the ledger promises. -/
theorem Agrees.keepsLedger (h : Agrees base size writer ledger) (hsize : 0 < size) :
    KeepsLedger base size writer ledger where
  old_blocks := h.logs.prefix
  byteCount_eq := h.logs.count_eq
  finish_eq := by
    obtain ⟨after, appended, hfinish, hafter, hlog, -⟩ := finish_logs h.logs
    exact ⟨after, appended, hfinish, hafter, hlog⟩
  grant_ne_nil fill := by
    obtain ⟨after, region, hgrant, hregion, -⟩ := grant_logs h.logs hsize fill
    rwa [hgrant]
  grant_eq_returned fill hreturned := by
    rw [← h.free_eq_returned hreturned]
    exact grant_of_free (by rwa [h.free_eq_returned hreturned]) fill
  backUp_iff count := by
    rw [exists_backUp_iff, h.openGrant_eq]
  openGrant_le grant hgrant := h.logs.grant_le (h.openGrant_eq.trans hgrant)
  reserveHead_iff head range := by
    constructor
    · rintro ⟨after, hreserve⟩
      obtain ⟨hbegun, hhead⟩ := (exists_reserveHead_iff h head).1 ⟨after, range, hreserve⟩
      exact ⟨hbegun, hhead, (reserveHead_agrees h hreserve).2⟩
    · rintro ⟨hbegun, hhead, rfl⟩
      obtain ⟨after, range, hreserve⟩ := (exists_reserveHead_iff h head).2 ⟨hbegun, hhead⟩
      obtain ⟨-, rfl⟩ := reserveHead_agrees h hreserve
      exact ⟨after, hreserve⟩
  write_pos bytes hne := by
    obtain ⟨region, copied, after, -, hmin, hpos, -, hwrite⟩ := write_eq h hsize hne
    rw [hwrite]
    exact ⟨hpos, hmin ▸ Nat.min_le_right _ _⟩
  refused_eq operation fault hrefused := perform_of_refused hrefused

end agrees

/-- **A writer refines its ledger.** Behind any message, with blocks of any size (zero counts as
one), after any operations the writer keeps what the ledger of the questions and answers promises.
-/
theorem run_keepsLedger (base : Blocks) (blockSize : Nat) (operations : List Operation) :
    KeepsLedger base (max blockSize 1) ((start base blockSize).run operations).1
      (.ofHistory ((start base blockSize).run operations).2) := by
  have hsize : 0 < max blockSize 1 := Nat.le_max_right _ _
  exact (run_agrees (start_agrees base blockSize) hsize operations).keepsLedger hsize

/-- Three bytes of a grant of four are given back and granted again. -/
example :
    ((start .empty 4).run [.grant [1, 2], .backUp 3, .backUp 1, .grant [], .flush]).2 =
      [(.grant [1, 2], .granted [0, 0, 0, 0]), (.backUp 3, .done),
        (.backUp 1, .refused .backUpWithoutGrant), (.grant [], .granted [2, 0, 0]),
        (.flush, .done)] := by
  decide

end Buffer.Writer

end PeerNet
