import PeerNet.Frame.Header
import Mathlib.Tactic.SplitIfs

/-!
# What a header is read from

Reading a header is the inverse of writing it, as far as the header is allowed: its body is not
longer than the reader takes, and an end mark has none.

* **Reading** (`Header.ofBytes_eq_ok_iff`): eight bytes are read as a header iff they are the bytes
  of this header and it is allowed.
* **Fronts** (`Header.front`): a buffer is shorter than a header, begins with an allowed header,
  with or without its whole body, or begins with eight bytes that are refused.
* **Splitting** (`Header.split_allowed`): behind an allowed header, the body is split from the rest
  as soon as it is there.
-/

namespace PeerNet.Frame

/-- Two bytes are read as a tag iff they are the bytes of this tag. -/
theorem Tag.ofBytes_eq_ok_iff {first second : UInt8} {tag : Tag} :
    Tag.ofBytes first second = .ok tag ↔ first = tag.toBytes.1 ∧ second = tag.toBytes.2 := by
  constructor
  · intro h
    unfold Tag.ofBytes at h
    cases hfirst : Tag.ofFirst? first with
    | none =>
      rw [hfirst] at h
      cases h
    | some found =>
      rw [hfirst] at h
      by_cases hsecond : found.toBytes.2 = second
      · simp only [if_pos hsecond, Except.ok.injEq] at h
        subst h
        refine ⟨?_, hsecond.symm⟩
        unfold Tag.ofFirst? at hfirst
        grind [Tag.toBytes]
      · simp only [if_neg hsecond] at h
        cases h
  · rintro ⟨rfl, rfl⟩
    exact Tag.ofBytes_toBytes tag

/-- A word is read back from its four bytes. -/
theorem ofLittleEndian_word (word : UInt32) :
    Bytes.ofLittleEndian (Bytes.littleEndian 4 word.toNat) = word.toNat :=
  Bytes.ofLittleEndian_littleEndian (Nat.lt_of_lt_of_eq word.toNat_lt (by decide))

/-- Four bytes are those of a word. -/
theorem exists_word (l₁ l₂ l₃ l₄ : UInt8) :
    ∃ word : UInt32, [l₁, l₂, l₃, l₄] = Bytes.littleEndian 4 word.toNat := by
  have hlt : Bytes.ofLittleEndian [l₁, l₂, l₃, l₄] < Nat.pow 256 4 :=
    Bytes.ofLittleEndian_lt [l₁, l₂, l₃, l₄]
  refine ⟨.ofNat (Bytes.ofLittleEndian [l₁, l₂, l₃, l₄]), ?_⟩
  rw [UInt32.toNat_ofNat_of_lt' (Nat.lt_of_lt_of_eq hlt (by decide))]
  exact (Bytes.littleEndian_ofLittleEndian [l₁, l₂, l₃, l₄]).symm

namespace Header

/-- A reader that takes bodies of at most `maxBody` bytes accepts this header. -/
structure Allowed (maxBody : Nat) (header : Header) : Prop where
  /-- The body is not too long. -/
  fits : header.bodyLength.toNat ≤ maxBody
  /-- An end mark has no body. -/
  bare : header.tag = .endMark → header.bodyLength.toNat = 0

/-- The body behind the allowed header of an end mark is empty. -/
theorem Allowed.body_eq_nil {maxBody : Nat} {header : Header} (h : header.Allowed maxBody)
    {body : Bytes} (hbody : body.length = header.bodyLength.toNat) (hmark : header.tag = .endMark) :
    body = [] := by
  rw [h.bare hmark] at hbody
  exact List.eq_nil_of_length_eq_zero hbody

/-- Eight bytes are read as a header iff they are the bytes of this header and it is allowed. -/
theorem ofBytes_eq_ok_iff {m₁ m₂ t₁ t₂ l₁ l₂ l₃ l₄ : UInt8} {maxBody : Nat} {header : Header} :
    ofBytes m₁ m₂ t₁ t₂ l₁ l₂ l₃ l₄ maxBody = .ok header ↔
      [m₁, m₂, t₁, t₂, l₁, l₂, l₃, l₄] = header.toBytes ∧ header.Allowed maxBody := by
  constructor
  · intro h
    obtain ⟨word, hword⟩ := exists_word l₁ l₂ l₃ l₄
    have hread : Bytes.ofLittleEndian [l₁, l₂, l₃, l₄] = word.toNat := by
      rw [hword, ofLittleEndian_word]
    simp only [ofBytes, hread, UInt32.ofNat_toNat] at h
    by_cases hmagic : (m₁, m₂) = magic
    case neg =>
      rw [if_pos hmagic] at h
      cases h
    rw [if_neg (not_not_intro hmagic)] at h
    cases htag : Tag.ofBytes t₁ t₂ with
    | error fault =>
      rw [htag] at h
      cases h
    | ok tag =>
      simp only [htag] at h
      split_ifs at h with hlong hend
      obtain rfl := Except.ok.inj h
      obtain ⟨rfl, rfl⟩ := Tag.ofBytes_eq_ok_iff.1 htag
      obtain ⟨rfl, rfl⟩ := Prod.mk.inj hmagic
      refine ⟨?_, ⟨Nat.not_lt.1 hlong, fun hmark => ?_⟩⟩
      · rw [hword]
        rfl
      · exact Decidable.not_not.1 fun hne => hend ⟨hmark, hne⟩
  · rintro ⟨hbytes, hfits, hbare⟩
    simp only [toBytes, List.cons.injEq] at hbytes
    obtain ⟨rfl, rfl, rfl, rfl, hlength⟩ := hbytes
    have hread : Bytes.ofLittleEndian [l₁, l₂, l₃, l₄] = header.bodyLength.toNat := by
      rw [hlength, ofLittleEndian_word]
    unfold ofBytes
    rw [if_neg (by simp [magic]), Tag.ofBytes_toBytes]
    simp only [hread]
    rw [if_neg (Nat.not_lt.2 hfits), if_neg (fun h => h.2 (hbare h.1)), UInt32.ofNat_toNat]

/-- The magic bytes, the tag and the length of the body are read back from a header. -/
theorem toBytes_injective {header header' : Header} (h : header.toBytes = header'.toBytes) :
    header = header' := by
  obtain ⟨tag, length⟩ := header
  obtain ⟨tag', length'⟩ := header'
  simp only [toBytes, List.cons.injEq, true_and] at h
  obtain ⟨hfirst, hsecond, hlength⟩ := h
  have htag : tag = tag' := by
    have hread := Tag.ofBytes_toBytes tag
    rw [hfirst, hsecond, Tag.ofBytes_toBytes] at hread
    exact (Except.ok.inj hread).symm
  have hword : length.toNat = length'.toNat := by
    rw [← ofLittleEndian_word length, hlength, ofLittleEndian_word]
  rw [htag, UInt32.toNat_inj.1 hword]

/-- A header is told from what follows it. -/
theorem toBytes_append_inj {header header' : Header} {rest rest' : Bytes}
    (h : header.toBytes ++ rest = header'.toBytes ++ rest') : header = header' ∧ rest = rest' := by
  obtain ⟨hbytes, hrest⟩ := List.append_inj h (by simp)
  exact ⟨toBytes_injective hbytes, hrest⟩

/-- Only a malformed frame makes the reading of a header fail. -/
theorem toError_of_ofBytes_eq_error {m₁ m₂ t₁ t₂ l₁ l₂ l₃ l₄ : UInt8} {maxBody : Nat}
    {fault : Fault} (h : ofBytes m₁ m₂ t₁ t₂ l₁ l₂ l₃ l₄ maxBody = .error fault) :
    fault.toError = .malformedProtocol fault.message := by
  unfold ofBytes Tag.ofBytes at h
  grind [Fault.toError]

/-! ### Splitting a buffer -/

/-- The header of a buffer is refused, whatever else arrives. -/
structure Refuses (maxBody : Nat) (buffer : Bytes) (fault : Fault) : Prop where
  /-- The fault is one of the protocol. -/
  malformed : fault.toError = .malformedProtocol fault.message
  /-- The buffer is not split, also with more bytes behind it. -/
  split : ∀ tail, Header.split (buffer ++ tail) maxBody = .error fault

/-- What a buffer begins with, as far as the reader has to know it to go on. -/
inductive Front (maxBody : Nat) : Bytes → Prop where
  /-- Less than a header. -/
  | short {buffer : Bytes} (h : buffer.length < headerLength) : Front maxBody buffer
  /-- An allowed header with less than the body that it announces. -/
  | cut {header : Header} (hallowed : header.Allowed maxBody) {after : Bytes}
      (h : after.length < header.bodyLength.toNat) : Front maxBody (header.toBytes ++ after)
  /-- An allowed header with its body. -/
  | whole {header : Header} (hallowed : header.Allowed maxBody) {body : Bytes}
      (h : body.length = header.bodyLength.toNat) (rest : Bytes) :
      Front maxBody (header.toBytes ++ (body ++ rest))
  /-- Eight bytes that are no allowed header. -/
  | refused {buffer : Bytes} {fault : Fault} (h : Refuses maxBody buffer fault) :
      Front maxBody buffer

/-- **Every buffer has one of the four fronts.** -/
theorem front (maxBody : Nat) (buffer : Bytes) : Front maxBody buffer := by
  match buffer with
  | [] | [_] | [_, _] | [_, _, _] | [_, _, _, _] | [_, _, _, _, _] | [_, _, _, _, _, _]
  | [_, _, _, _, _, _, _] => exact .short (by simp [headerLength])
  | m₁ :: m₂ :: t₁ :: t₂ :: l₁ :: l₂ :: l₃ :: l₄ :: after =>
    cases hread : ofBytes m₁ m₂ t₁ t₂ l₁ l₂ l₃ l₄ maxBody with
    | ok header =>
      obtain ⟨hbytes, hallowed⟩ := ofBytes_eq_ok_iff.1 hread
      have hbuffer : m₁ :: m₂ :: t₁ :: t₂ :: l₁ :: l₂ :: l₃ :: l₄ :: after =
          header.toBytes ++ after := by
        rw [← hbytes]
        rfl
      rw [hbuffer]
      by_cases hcut : after.length < header.bodyLength.toNat
      · exact .cut hallowed hcut
      · rw [← List.take_append_drop header.bodyLength.toNat after]
        exact .whole hallowed (List.length_take_of_le (Nat.not_lt.1 hcut)) _
    | error fault =>
      refine .refused ⟨toError_of_ofBytes_eq_error hread, fun tail => ?_⟩
      simp only [split, List.cons_append, hread]

/-- Less than a header is not split. -/
theorem split_short {buffer : Bytes} (maxBody : Nat) (h : buffer.length < headerLength) :
    split buffer maxBody = .ok none := by
  unfold split
  split
  · simp [headerLength] at h
    omega
  · rfl

/-- A refused header stays refused when more bytes arrive. -/
theorem Refuses.append {maxBody : Nat} {buffer : Bytes} {fault : Fault}
    (h : Refuses maxBody buffer fault) (tail : Bytes) : Refuses maxBody (buffer ++ tail) fault := by
  refine ⟨h.malformed, fun more => ?_⟩
  rw [List.append_assoc]
  exact h.split (tail ++ more)

/-- Less than a header is not refused. -/
theorem Refuses.headerLength_le {maxBody : Nat} {buffer : Bytes} {fault : Fault}
    (h : Refuses maxBody buffer fault) : headerLength ≤ buffer.length := by
  refine Nat.not_lt.1 fun hshort => ?_
  have hsplit := h.split []
  rw [List.append_nil, split_short maxBody hshort] at hsplit
  cases hsplit

/-- An allowed header is split from the body and the rest once the body is there. -/
theorem split_allowed {maxBody : Nat} {header : Header} (h : header.Allowed maxBody)
    (rest : Bytes) :
    split (header.toBytes ++ rest) maxBody =
      if rest.length < header.bodyLength.toNat then .ok none
      else .ok (some (header, rest.take header.bodyLength.toNat,
        rest.drop header.bodyLength.toNat)) := by
  obtain ⟨l₁, l₂, l₃, l₄, hlength⟩ : ∃ l₁ l₂ l₃ l₄,
      Bytes.littleEndian 4 header.bodyLength.toNat = [l₁, l₂, l₃, l₄] := ⟨_, _, _, _, rfl⟩
  have hread : ofBytes magic.1 magic.2 header.tag.toBytes.1 header.tag.toBytes.2 l₁ l₂ l₃ l₄
      maxBody = .ok header :=
    ofBytes_eq_ok_iff.2 ⟨by rw [toBytes, hlength], h⟩
  have hshort : (rest.take header.bodyLength.toNat).length < header.bodyLength.toNat ↔
      rest.length < header.bodyLength.toNat := by
    rw [List.length_take]
    omega
  rw [toBytes, hlength]
  simp only [split, List.cons_append, List.nil_append, hread, hshort]

end Header

end PeerNet.Frame
