import PeerNet.Proofs.Frame.RoundTrip

/-!
# The grammar of frames

What a frame is, said of its bytes alone, without the functions that read and write it: a valid
header (`Announces`), a body that belongs to its tag (`BodyOf`), and both together (`WellFormed`). A
buffer that begins with no well formed frame lacks bytes (`Incomplete`) or is `Malformed`.

* **Bodies** (`exists_ofBody_iff`): a body can be read iff it belongs to its tag.
* **Frames** (`wellFormed_iff`): the well formed frames are the frames of the packages that fit.
* **At most one** (`Announces.unique`, `WellFormed.append_inj`): a buffer begins with at most one
  valid header and with at most one well formed frame.
-/

namespace PeerNet.Frame

/-- A buffer begins with a valid header: the two magic bytes, the two bytes of a tag, and the length
of the body in four bytes, the least significant first. The body is not longer than allowed, and an
end mark has none. -/
structure Announces (maxBody : Nat) (buffer : Bytes) (tag : Tag) (length : Nat) : Prop where
  /-- Where the bytes are. -/
  layout : ∃ l₁ l₂ l₃ l₄ after,
    buffer = 0x59 :: 0x54 :: tag.toBytes.1 :: tag.toBytes.2 :: l₁ :: l₂ :: l₃ :: l₄ :: after ∧
      Bytes.ofLittleEndian [l₁, l₂, l₃, l₄] = length
  /-- The body is not too long. -/
  fits : length ≤ maxBody
  /-- An end mark has no body. -/
  bare : tag = .endMark → length = 0

/-- The bodies that belong to a tag. -/
inductive BodyOf : Tag → Bytes → Prop where
  /-- Any bytes are an object or a short message. -/
  | plain {tag : Tag} (htag : tag = .classObject ∨ tag = .quick) (data : Bytes) : BodyOf tag data
  /-- A piece of data and a file begin with the length of a text in two bytes and this text in
  UTF-8; after that, any bytes. -/
  | named {tag : Tag} (htag : tag = .dataItem ∨ tag = .file) {l₁ l₂ : UInt8} {name : Bytes}
      (hlength : Bytes.ofLittleEndian [l₁, l₂] = name.length)
      (htext : name.toByteArray.IsValidUTF8) (data : Bytes) :
      BodyOf tag (l₁ :: l₂ :: (name ++ data))
  /-- No byte belongs to an end mark. -/
  | endMark : BodyOf .endMark []

/-- A string of bytes is one well formed frame: a valid header, and behind it exactly the announced
body. -/
def WellFormed (maxBody : Nat) (frame : Bytes) : Prop :=
  ∃ tag length, Announces maxBody frame tag length ∧ frame.length = headerLength + length ∧
    BodyOf tag (frame.drop headerLength)

/-- Bytes are missing: there is no whole header, or it is valid and announces more than there is. -/
def Incomplete (maxBody : Nat) (buffer : Bytes) : Prop :=
  buffer.length < headerLength ∨
    ∃ tag length, Announces maxBody buffer tag length ∧ buffer.length < headerLength + length

/-- A buffer is no beginning of a well formed frame: no byte is missing, and still it begins with
none. -/
def Malformed (maxBody : Nat) (buffer : Bytes) : Prop :=
  ¬Incomplete maxBody buffer ∧ ¬∃ frame, frame <+: buffer ∧ WellFormed maxBody frame

/-! ### Headers in the grammar -/

/-- The valid headers of the grammar are the allowed headers. -/
theorem announces_iff {maxBody : Nat} {buffer : Bytes} {tag : Tag} {length : Nat} :
    Announces maxBody buffer tag length ↔
      ∃ (header : Header) (after : Bytes), header.Allowed maxBody ∧ header.tag = tag ∧
        header.bodyLength.toNat = length ∧ buffer = header.toBytes ++ after := by
  constructor
  · rintro ⟨⟨l₁, l₂, l₃, l₄, after, rfl, rfl⟩, hfits, hbare⟩
    obtain ⟨word, hword⟩ := exists_word l₁ l₂ l₃ l₄
    have hread : Bytes.ofLittleEndian [l₁, l₂, l₃, l₄] = word.toNat := by
      rw [hword, ofLittleEndian_word]
    rw [hread] at hfits hbare ⊢
    refine ⟨⟨tag, word⟩, after, ⟨hfits, hbare⟩, rfl, rfl, ?_⟩
    rw [Header.toBytes, ← hword]
    rfl
  · rintro ⟨header, after, hallowed, rfl, rfl, rfl⟩
    obtain ⟨l₁, l₂, l₃, l₄, hlength⟩ : ∃ l₁ l₂ l₃ l₄,
        Bytes.littleEndian 4 header.bodyLength.toNat = [l₁, l₂, l₃, l₄] := ⟨_, _, _, _, rfl⟩
    refine ⟨⟨l₁, l₂, l₃, l₄, after, ?_, ?_⟩, hallowed.fits, hallowed.bare⟩
    · rw [Header.toBytes, hlength]
      rfl
    · rw [← hlength, ofLittleEndian_word]

/-- A buffer begins with at most one valid header. -/
theorem Announces.unique {maxBody length length' : Nat} {buffer : Bytes} {tag tag' : Tag}
    (h : Announces maxBody buffer tag length) (h' : Announces maxBody buffer tag' length') :
    tag = tag' ∧ length = length' := by
  obtain ⟨header, after, -, rfl, rfl, rfl⟩ := announces_iff.1 h
  obtain ⟨header', after', -, rfl, rfl, heq⟩ := announces_iff.1 h'
  obtain ⟨rfl, -⟩ := Header.toBytes_append_inj heq
  exact ⟨rfl, rfl⟩

/-- A valid header stays one when more bytes arrive. -/
theorem Announces.append {maxBody length : Nat} {buffer : Bytes} {tag : Tag}
    (h : Announces maxBody buffer tag length) (tail : Bytes) :
    Announces maxBody (buffer ++ tail) tag length := by
  obtain ⟨header, after, hallowed, rfl, rfl, rfl⟩ := announces_iff.1 h
  exact announces_iff.2 ⟨header, after ++ tail, hallowed, rfl, rfl, List.append_assoc _ _ _⟩

/-- A refused header is no valid one. -/
theorem not_announces_of_refuses {maxBody : Nat} {buffer : Bytes} {fault : Fault}
    (h : Header.Refuses maxBody buffer fault) (tag : Tag) (length : Nat) :
    ¬Announces maxBody buffer tag length := by
  intro hannounces
  -- the header would be allowed, and then it is not refused, however much of the body is there
  obtain ⟨header, after, hallowed, rfl, rfl, rfl⟩ := announces_iff.1 hannounces
  have hsplit := h.split []
  rw [List.append_nil, Header.split_allowed hallowed] at hsplit
  split_ifs at hsplit

/-! ### Bodies in the grammar -/

/-- A name can be read from a body iff the body begins with the length of a text and this text. -/
theorem exists_splitName_iff {body : Bytes} :
    (∃ found, Package.splitName body = .ok found) ↔
      ∃ l₁ l₂ name data, body = l₁ :: l₂ :: (name ++ data) ∧
        Bytes.ofLittleEndian [l₁, l₂] = name.length ∧ name.toByteArray.IsValidUTF8 := by
  constructor
  · rintro ⟨⟨text, data⟩, h⟩
    obtain ⟨hlt, rfl⟩ := Package.splitName_eq_ok_iff.1 h
    obtain ⟨l₁, l₂, hlength⟩ : ∃ l₁ l₂,
        Bytes.littleEndian 2 (Package.nameLength text) = [l₁, l₂] := ⟨_, _, rfl⟩
    refine ⟨l₁, l₂, Utf8.encode text, data, by rw [hlength]; rfl, ?_,
      Utf8.exists_encode_iff.1 ⟨text, rfl⟩⟩
    rw [← hlength]
    exact Bytes.ofLittleEndian_littleEndian hlt
  · rintro ⟨l₁, l₂, name, data, rfl, hlength, htext⟩
    obtain ⟨text, rfl⟩ := Utf8.exists_encode_iff.2 htext
    have hlt : Bytes.ofLittleEndian [l₁, l₂] < Nat.pow 256 2 := Bytes.ofLittleEndian_lt [l₁, l₂]
    have hback : Bytes.littleEndian 2 (Bytes.ofLittleEndian [l₁, l₂]) = [l₁, l₂] :=
      Bytes.littleEndian_ofLittleEndian [l₁, l₂]
    rw [hlength] at hlt hback
    refine ⟨(text, data), Package.splitName_eq_ok_iff.2 ⟨hlt, ?_⟩⟩
    rw [Package.nameLength, hback]
    rfl

/-- Something comes out of a map iff something goes in. -/
theorem exists_map_iff {α β ε : Type} (make : α → β) (found : Except ε α) :
    (∃ b, found.map make = .ok b) ↔ ∃ a, found = .ok a := by
  cases found <;> simp [Except.map]

/-- The bodies that begin with a text. -/
theorem bodyOf_named_iff {tag : Tag} {body : Bytes} (htag : tag = .dataItem ∨ tag = .file) :
    BodyOf tag body ↔ ∃ l₁ l₂ name data, body = l₁ :: l₂ :: (name ++ data) ∧
      Bytes.ofLittleEndian [l₁, l₂] = name.length ∧ name.toByteArray.IsValidUTF8 := by
  constructor
  · intro h
    cases h with
    | plain hplain =>
      exfalso
      rcases htag with rfl | rfl <;> simp at hplain
    | named _ hlength htext data => exact ⟨_, _, _, data, rfl, hlength, htext⟩
    | endMark => simp at htag
  · rintro ⟨l₁, l₂, name, data, rfl, hlength, htext⟩
    exact .named htag hlength htext data

/-- A body is read iff it belongs to its tag, given that the body of an end mark is empty. -/
theorem exists_ofBody_iff {tag : Tag} {body : Bytes} (hbare : tag = .endMark → body = []) :
    (∃ package, Package.ofBody tag body = .ok package) ↔ BodyOf tag body := by
  cases tag with
  | classObject => exact ⟨fun _ => .plain (.inl rfl) body, fun _ => ⟨_, rfl⟩⟩
  | quick => exact ⟨fun _ => .plain (.inr rfl) body, fun _ => ⟨_, rfl⟩⟩
  | dataItem =>
    rw [bodyOf_named_iff (.inl rfl), ← exists_splitName_iff]
    exact exists_map_iff _ _
  | file =>
    rw [bodyOf_named_iff (.inr rfl), ← exists_splitName_iff]
    exact exists_map_iff _ _
  | endMark =>
    rw [hbare rfl]
    exact ⟨fun _ => .endMark, fun _ => ⟨_, rfl⟩⟩

/-- Only a malformed frame makes the reading of a body fail. -/
theorem toError_of_ofBody_eq_error {tag : Tag} {body : Bytes} {fault : Fault}
    (h : Package.ofBody tag body = .error fault) :
    fault.toError = .malformedProtocol fault.message := by
  have hsplit : ∀ fault', Package.splitName body = .error fault' →
      fault'.toError = .malformedProtocol fault'.message := by
    intro fault' h'
    unfold Package.splitName at h'
    grind [Fault.toError]
  cases tag with
  | classObject | quick | endMark => cases h
  | dataItem | file =>
    cases hname : Package.splitName body with
    | ok found =>
      rw [Package.ofBody, hname] at h
      cases h
    | error fault' =>
      rw [Package.ofBody, hname] at h
      cases h
      exact hsplit fault hname

/-! ### Frames in the grammar -/

/-- An allowed header and the announced bytes are a well formed frame iff the bytes belong to the
tag. -/
theorem wellFormed_append_iff {maxBody : Nat} {header : Header} (hallowed : header.Allowed maxBody)
    {body : Bytes} (h : body.length = header.bodyLength.toNat) :
    WellFormed maxBody (header.toBytes ++ body) ↔ BodyOf header.tag body := by
  have hannounces : Announces maxBody (header.toBytes ++ body) header.tag
      header.bodyLength.toNat := announces_iff.2 ⟨header, body, hallowed, rfl, rfl, rfl⟩
  have hdrop : (header.toBytes ++ body).drop headerLength = body :=
    List.drop_left' header.length_toBytes
  constructor
  · rintro ⟨tag, length, hannounces', -, hbody⟩
    obtain ⟨rfl, rfl⟩ := hannounces.unique hannounces'
    rwa [hdrop] at hbody
  · intro hbody
    refine ⟨_, _, hannounces, ?_, by rwa [hdrop]⟩
    rw [List.length_append, header.length_toBytes, h]

/-- A well formed frame is an allowed header and a body that belongs to its tag. -/
theorem WellFormed.exists_header {maxBody : Nat} {frame : Bytes} (h : WellFormed maxBody frame) :
    ∃ (header : Header) (body : Bytes), header.Allowed maxBody ∧
      body.length = header.bodyLength.toNat ∧ frame = header.toBytes ++ body ∧
      BodyOf header.tag body := by
  obtain ⟨tag, length, hannounces, hlength, hbody⟩ := h
  obtain ⟨header, body, hallowed, rfl, rfl, rfl⟩ := announces_iff.1 hannounces
  rw [List.length_append, header.length_toBytes] at hlength
  rw [List.drop_left' header.length_toBytes] at hbody
  exact ⟨header, body, hallowed, Nat.add_left_cancel hlength, rfl, hbody⟩

/-- **The well formed frames are the frames of the packages that fit.** -/
theorem wellFormed_iff {maxBody : Nat} {frame : Bytes} :
    WellFormed maxBody frame ↔
      ∃ package : Package, package.toFrame = .ok frame ∧ package.bodyLength ≤ maxBody := by
  constructor
  · intro h
    obtain ⟨header, body, hallowed, hlength, rfl, hbody⟩ := h.exists_header
    obtain ⟨package, hpackage⟩ := (exists_ofBody_iff (hallowed.body_eq_nil hlength)).2 hbody
    obtain ⟨hframe, hbodyLength⟩ := Package.toFrame_of_ofBody hallowed hlength hpackage
    refine ⟨package, hframe, ?_⟩
    rw [hbodyLength]
    exact hallowed.fits
  · rintro ⟨package, hframe, hfits⟩
    obtain ⟨hlt, parts, hparts, rfl⟩ := Package.toFrame_eq_ok_iff.1 hframe
    have hlength : parts.flatten.length = package.header.bodyLength.toNat := by
      rw [Package.toNat_header hlt, Package.length_flatten_bodyParts hparts]
    have hallowed := Package.header_allowed hlt hfits
    have hbody : BodyOf package.header.tag parts.flatten :=
      (exists_ofBody_iff (hallowed.body_eq_nil hlength)).1 ⟨package, Package.ofBody_flatten hparts⟩
    exact (wellFormed_append_iff hallowed hlength).2 hbody

/-- A buffer that begins with a valid header and the announced bytes lacks no byte. -/
theorem Announces.not_incomplete {maxBody length : Nat} {frame : Bytes} {tag : Tag}
    (h : Announces maxBody frame tag length) (hlength : frame.length = headerLength + length)
    (rest : Bytes) : ¬Incomplete maxBody (frame ++ rest) := by
  rintro (hshort | ⟨tag', length', hannounces, hcut⟩)
  · rw [List.length_append] at hshort
    omega
  · obtain ⟨-, rfl⟩ := (h.append rest).unique hannounces
    rw [List.length_append] at hcut
    omega

/-- A buffer that begins with a well formed frame lacks no byte. -/
theorem WellFormed.not_incomplete {maxBody : Nat} {frame : Bytes} (h : WellFormed maxBody frame)
    (rest : Bytes) : ¬Incomplete maxBody (frame ++ rest) := by
  obtain ⟨tag, length, hannounces, hlength, -⟩ := h
  exact hannounces.not_incomplete hlength rest

/-- A buffer begins with at most one well formed frame. -/
theorem WellFormed.append_inj {maxBody : Nat} {frame frame' rest rest' : Bytes}
    (h : WellFormed maxBody frame) (h' : WellFormed maxBody frame')
    (heq : frame ++ rest = frame' ++ rest') : frame = frame' ∧ rest = rest' := by
  obtain ⟨tag, length, hannounces, hlength, -⟩ := h
  obtain ⟨tag', length', hannounces', hlength', -⟩ := h'
  obtain ⟨-, rfl⟩ := (hannounces.append rest).unique (heq ▸ hannounces'.append rest')
  exact List.append_inj heq (hlength.trans hlength'.symm)

/-- Eight bytes that are no valid header are malformed. -/
theorem malformed_of_not_announces {maxBody : Nat} {buffer : Bytes}
    (hlength : headerLength ≤ buffer.length)
    (h : ∀ tag length, ¬Announces maxBody buffer tag length) : Malformed maxBody buffer := by
  constructor
  · rintro (hshort | ⟨tag, length, hannounces, -⟩)
    · exact absurd hlength (Nat.not_le.2 hshort)
    · exact h tag length hannounces
  · rintro ⟨frame, ⟨rest, rfl⟩, tag, length, hannounces, -⟩
    exact h tag length (hannounces.append rest)

/-- A valid header with a body that does not belong to the tag is malformed. -/
theorem malformed_of_not_bodyOf {maxBody length : Nat} {frame : Bytes} {tag : Tag}
    (h : Announces maxBody frame tag length) (hlength : frame.length = headerLength + length)
    (hbody : ¬BodyOf tag (frame.drop headerLength)) (rest : Bytes) :
    Malformed maxBody (frame ++ rest) := by
  refine ⟨h.not_incomplete hlength rest, ?_⟩
  rintro ⟨front, ⟨rest', heq⟩, tag', length', hannounces, hlength', hbody'⟩
  obtain ⟨rfl, rfl⟩ := (h.append rest).unique (heq ▸ hannounces.append rest')
  obtain ⟨rfl, -⟩ := List.append_inj heq (hlength'.trans hlength.symm)
  exact hbody hbody'

end PeerNet.Frame
