import PeerNet.Text.Utf8
import Mathlib.Tactic.SplitIfs

/-!
# Reading UTF-8 undoes writing it

A scan takes one piece after another off the front of a byte string. `scan_encodeChar` says that it
takes a whole character off the encoding of that character, and `faithful_scan` that it calls
nothing else a character. Together they make the strict reader the exact inverse of the writer.

* **Round trip** (`decode_eq_ok_iff`): a byte string reads as a text iff it is the encoding of this
  text.
* **Validity** (`exists_encode_iff`): the byte strings that are read are those that the standard
  library calls valid, as its encoding of a character is `encodeChar`.
-/

namespace PeerNet.Utf8

/-! ### Bytes as numbers -/

/-- A number that fits into a byte is read back from it. -/
theorem toNat_ofNat_of_lt {n : Nat} (h : n < 256) : (UInt8.ofNat n).toNat = n := by
  rw [UInt8.toNat_ofNat', Nat.mod_eq_of_lt h]

/-- A byte is made of its own number. -/
theorem ofNat_of_toNat_eq {n : Nat} {b : UInt8} (h : b.toNat = n) : UInt8.ofNat n = b := by
  rw [← h, UInt8.ofNat_toNat]

/-- The number of a continuation byte. -/
theorem toNat_continuation (n : Nat) : (continuation n).toNat = 0x80 + n % 64 := by
  unfold continuation
  exact toNat_ofNat_of_lt (by omega)

/-- The range of the continuation bytes. -/
theorem isContinuation_iff {b : UInt8} :
    isContinuation b = true ↔ 0x80 ≤ b.toNat ∧ b.toNat ≤ 0xBF := by
  simp [isContinuation, UInt8.le_iff_toNat_le]

/-- The range of the second bytes of a three byte character. -/
theorem fitsAfterThree_iff {a b : UInt8} :
    fitsAfterThree a b = true ↔ 0x80 ≤ b.toNat ∧ b.toNat ≤ 0xBF ∧
      (a.toNat = 0xE0 → 0xA0 ≤ b.toNat) ∧ (a.toNat = 0xED → b.toNat ≤ 0x9F) := by
  unfold fitsAfterThree
  simp only [← UInt8.toNat_inj]
  split_ifs <;> simp [isContinuation, UInt8.le_iff_toNat_le] at * <;> omega

/-- The range of the second bytes of a four byte character. -/
theorem fitsAfterFour_iff {a b : UInt8} :
    fitsAfterFour a b = true ↔ 0x80 ≤ b.toNat ∧ b.toNat ≤ 0xBF ∧
      (a.toNat = 0xF0 → 0x90 ≤ b.toNat) ∧ (a.toNat = 0xF4 → b.toNat ≤ 0x8F) := by
  unfold fitsAfterFour
  simp only [← UInt8.toNat_inj]
  split_ifs <;> simp [isContinuation, UInt8.le_iff_toNat_le] at * <;> omega

/-- A code point is read back from its character. -/
theorem toNat_ofNat_of_valid {n : Nat} (h : n.isValidChar) : (Char.ofNat n).toNat = n := by
  unfold Char.ofNat
  rw [dif_pos h]
  rfl

/-! ### One step of a scan -/

section steps

variable {a b c d : UInt8} (done : List Piece) (rest : Bytes)

/-- A scan takes a character of one byte off the front. -/
theorem scan_one (ha : a.toNat < 0x80) :
    scan done (a :: rest) = scan (charOf a.toNat :: done) rest := by
  rw [scan.eq_def]
  simp [UInt8.lt_iff_toNat_lt, ha]

/-- A scan takes a character of two bytes off the front. -/
theorem scan_two (ha : 0xC2 ≤ a.toNat ∧ a.toNat ≤ 0xDF) (hb : isContinuation b = true) :
    scan done (a :: b :: rest) =
      scan (charOf ((a.toNat - 0xC0) * 64 + (b.toNat - 0x80)) :: done) rest := by
  have h1 : ¬a.toNat < 0x80 := by omega
  rw [scan.eq_def]
  simp [UInt8.lt_iff_toNat_lt, UInt8.le_iff_toNat_le, h1, ha, hb]

/-- A scan takes a character of three bytes off the front. -/
theorem scan_three (ha : 0xE0 ≤ a.toNat ∧ a.toNat ≤ 0xEF) (hb : fitsAfterThree a b = true)
    (hc : isContinuation c = true) :
    scan done (a :: b :: c :: rest) =
      scan (charOf ((a.toNat - 0xE0) * 4096 + (b.toNat - 0x80) * 64 + (c.toNat - 0x80))
        :: done) rest := by
  have h1 : ¬a.toNat < 0x80 := by omega
  have h2 : ¬a.toNat ≤ 0xDF := by omega
  rw [scan.eq_def]
  simp [UInt8.lt_iff_toNat_lt, UInt8.le_iff_toNat_le, h1, h2, ha, hb, hc]

/-- A scan takes a character of four bytes off the front. -/
theorem scan_four (ha : 0xF0 ≤ a.toNat ∧ a.toNat ≤ 0xF4) (hb : fitsAfterFour a b = true)
    (hc : isContinuation c = true) (hd : isContinuation d = true) :
    scan done (a :: b :: c :: d :: rest) =
      scan (charOf ((a.toNat - 0xF0) * 262144 + (b.toNat - 0x80) * 4096
        + (c.toNat - 0x80) * 64 + (d.toNat - 0x80)) :: done) rest := by
  have h1 : ¬a.toNat < 0x80 := by omega
  have h2 : ¬a.toNat ≤ 0xDF := by omega
  have h3 : ¬a.toNat ≤ 0xEF := by omega
  rw [scan.eq_def]
  simp [UInt8.lt_iff_toNat_lt, UInt8.le_iff_toNat_le, h1, h2, h3, ha, hb, hc, hd]

end steps

/-- **A scan takes a whole character off the encoding of that character.** -/
theorem scan_encodeChar (done : List Piece) (c : Char) (rest : Bytes) :
    scan done (encodeChar c ++ rest) = scan (.char c :: done) rest := by
  have hvalid : c.toNat < 0xD800 ∨ 0xDFFF < c.toNat ∧ c.toNat < 0x110000 := c.valid
  have hchar : ∀ n, n = c.toNat → charOf n = .char c := by
    rintro n rfl
    rw [charOf, Char.ofNat_toNat]
  have htail := toNat_continuation
  unfold encodeChar
  simp only
  split_ifs with h1 h2 h3
  · have ha : (UInt8.ofNat c.toNat).toNat = c.toNat := toNat_ofNat_of_lt (by omega)
    simp only [List.cons_append, List.nil_append]
    rw [scan_one _ _ (by omega), hchar _ ha]
  · have ha : (UInt8.ofNat (0xC0 + c.toNat / 64)).toNat = 0xC0 + c.toNat / 64 :=
      toNat_ofNat_of_lt (by omega)
    simp only [List.cons_append, List.nil_append]
    rw [scan_two _ _ (by omega) (isContinuation_iff.2 (by rw [htail]; omega)), hchar]
    rw [ha, htail]
    omega
  · have ha : (UInt8.ofNat (0xE0 + c.toNat / 4096)).toNat = 0xE0 + c.toNat / 4096 :=
      toNat_ofNat_of_lt (by omega)
    simp only [List.cons_append, List.nil_append]
    rw [scan_three _ _ (by omega) (fitsAfterThree_iff.2 (by rw [htail]; omega))
      (isContinuation_iff.2 (by rw [htail]; omega)), hchar]
    rw [ha, htail, htail]
    omega
  · have ha : (UInt8.ofNat (0xF0 + c.toNat / 262144)).toNat = 0xF0 + c.toNat / 262144 :=
      toNat_ofNat_of_lt (by omega)
    simp only [List.cons_append, List.nil_append]
    rw [scan_four _ _ (by omega) (fitsAfterFour_iff.2 (by rw [htail]; omega))
      (isContinuation_iff.2 (by rw [htail]; omega)) (isContinuation_iff.2 (by rw [htail]; omega)),
      hchar]
    rw [ha, htail, htail, htail]
    omega

/-! ### Bytes that make a character -/

section characters

variable {a b c d : UInt8}

/-- A byte below `0x80` is the encoding of its character. -/
theorem encodeChar_ofNat_one (ha : a.toNat < 0x80) : encodeChar (Char.ofNat a.toNat) = [a] := by
  have hn : (Char.ofNat a.toNat).toNat = a.toNat := toNat_ofNat_of_valid (Or.inl (by omega))
  unfold encodeChar
  simp only [hn]
  rw [if_pos ha, UInt8.ofNat_toNat]

/-- Two bytes that a scan takes for a character are the encoding of this character. -/
theorem encodeChar_ofNat_two (ha : 0xC2 ≤ a.toNat ∧ a.toNat ≤ 0xDF)
    (hb : isContinuation b = true) :
    encodeChar (Char.ofNat ((a.toNat - 0xC0) * 64 + (b.toNat - 0x80))) = [a, b] := by
  rw [isContinuation_iff] at hb
  have hn : (Char.ofNat ((a.toNat - 0xC0) * 64 + (b.toNat - 0x80))).toNat =
      (a.toNat - 0xC0) * 64 + (b.toNat - 0x80) := toNat_ofNat_of_valid (Or.inl (by omega))
  unfold encodeChar continuation
  simp only [hn]
  rw [if_neg (by omega), if_pos (by omega), ofNat_of_toNat_eq (b := a) (by omega),
    ofNat_of_toNat_eq (b := b) (by omega)]

/-- Three bytes that a scan takes for a character are the encoding of this character. -/
theorem encodeChar_ofNat_three (ha : 0xE0 ≤ a.toNat ∧ a.toNat ≤ 0xEF)
    (hb : fitsAfterThree a b = true) (hc : isContinuation c = true) :
    encodeChar (Char.ofNat ((a.toNat - 0xE0) * 4096 + (b.toNat - 0x80) * 64
      + (c.toNat - 0x80))) = [a, b, c] := by
  rw [fitsAfterThree_iff] at hb
  rw [isContinuation_iff] at hc
  -- The second byte keeps the code point out of the surrogates.
  have hn : (Char.ofNat ((a.toNat - 0xE0) * 4096 + (b.toNat - 0x80) * 64
      + (c.toNat - 0x80))).toNat = (a.toNat - 0xE0) * 4096 + (b.toNat - 0x80) * 64
      + (c.toNat - 0x80) := toNat_ofNat_of_valid (by unfold Nat.isValidChar; omega)
  unfold encodeChar continuation
  simp only [hn]
  rw [if_neg (by omega), if_neg (by omega), if_pos (by omega),
    ofNat_of_toNat_eq (b := a) (by omega), ofNat_of_toNat_eq (b := b) (by omega),
    ofNat_of_toNat_eq (b := c) (by omega)]

/-- Four bytes that a scan takes for a character are the encoding of this character. -/
theorem encodeChar_ofNat_four (ha : 0xF0 ≤ a.toNat ∧ a.toNat ≤ 0xF4)
    (hb : fitsAfterFour a b = true) (hc : isContinuation c = true)
    (hd : isContinuation d = true) :
    encodeChar (Char.ofNat ((a.toNat - 0xF0) * 262144 + (b.toNat - 0x80) * 4096
      + (c.toNat - 0x80) * 64 + (d.toNat - 0x80))) = [a, b, c, d] := by
  rw [fitsAfterFour_iff] at hb
  rw [isContinuation_iff] at hc hd
  -- The second byte keeps the code point below the end of the code space.
  have hn : (Char.ofNat ((a.toNat - 0xF0) * 262144 + (b.toNat - 0x80) * 4096
      + (c.toNat - 0x80) * 64 + (d.toNat - 0x80))).toNat = (a.toNat - 0xF0) * 262144
      + (b.toNat - 0x80) * 4096 + (c.toNat - 0x80) * 64 + (d.toNat - 0x80) :=
    toNat_ofNat_of_valid (by unfold Nat.isValidChar; omega)
  unfold encodeChar continuation
  simp only [hn]
  rw [if_neg (by omega), if_neg (by omega), if_neg (by omega),
    ofNat_of_toNat_eq (b := a) (by omega), ofNat_of_toNat_eq (b := b) (by omega),
    ofNat_of_toNat_eq (b := c) (by omega), ofNat_of_toNat_eq (b := d) (by omega)]

end characters

/-! ### A whole scan -/

/-- What a scan has put in front of `done` is faithful to the scanned bytes: if it is characters
only, then the bytes are their encoding. -/
def Faithful (done : List Piece) (bytes : Bytes) (found : List Piece) : Prop :=
  ∃ pieces, found = pieces.reverse ++ done ∧
    ∀ characters : List Char, pieces = characters.map .char →
      bytes = characters.flatMap encodeChar

/-- Nothing is faithful to no byte. -/
theorem Faithful.nil (done : List Piece) : Faithful done [] done := by
  refine ⟨[], rfl, fun characters h => ?_⟩
  rw [List.map_eq_nil_iff.1 h.symm]
  rfl

/-- A step over a character keeps a scan faithful. -/
theorem Faithful.char {done found : List Piece} {bytes rest : Bytes} {c : Char}
    (hbytes : bytes = encodeChar c ++ rest) (h : Faithful (.char c :: done) rest found) :
    Faithful done bytes found := by
  obtain ⟨pieces, rfl, hpieces⟩ := h
  refine ⟨.char c :: pieces, by simp, fun characters hcharacters => ?_⟩
  obtain ⟨c', characters, rfl, hc, hrest⟩ := List.map_eq_cons_iff.1 hcharacters.symm
  cases hc
  rw [hbytes, List.flatMap_cons, hpieces characters hrest.symm]

/-- A step over a malformed run keeps a scan faithful, as the pieces are then not characters
only. -/
theorem Faithful.invalid {done found : List Piece} {bytes rest : Bytes} {length : Nat}
    (h : Faithful (.invalid length :: done) rest found) : Faithful done bytes found := by
  obtain ⟨pieces, rfl, -⟩ := h
  refine ⟨.invalid length :: pieces, by simp, fun characters hcharacters => ?_⟩
  obtain ⟨c, -, -, hc, -⟩ := List.map_eq_cons_iff.1 hcharacters.symm
  cases hc

/-- A character that is cut short ends a scan faithfully. -/
theorem Faithful.truncated (done : List Piece) (bytes : Bytes) (length : Nat) :
    Faithful done bytes (.truncated length :: done) := by
  refine ⟨[.truncated length], rfl, fun characters hcharacters => ?_⟩
  obtain ⟨c, -, -, hc, -⟩ := List.map_eq_cons_iff.1 hcharacters.symm
  cases hc

/-- **A scan calls nothing a character but the encoding of one.** -/
theorem faithful_scan (done : List Piece) (bytes : Bytes) :
    Faithful done bytes (scan done bytes) := by
  fun_induction scan done bytes with
  | case1 done => exact .nil done
  | case2 done a rest ha ih =>
    exact .char (by rw [encodeChar_ofNat_one (UInt8.lt_iff_toNat_lt.1 ha)]; rfl) ih
  | case4 done a _ ha b rest hb ih =>
    simp [UInt8.le_iff_toNat_le] at ha
    exact .char (by rw [encodeChar_ofNat_two ha hb]; rfl) ih
  | case8 done a _ _ ha b hb c rest hc ih =>
    simp [UInt8.le_iff_toNat_le] at ha
    exact .char (by rw [encodeChar_ofNat_three ha hb hc]; rfl) ih
  | case14 done a _ _ _ ha b hb c hc d rest hd ih =>
    simp [UInt8.le_iff_toNat_le] at ha
    exact .char (by rw [encodeChar_ofNat_four ha hb hc hd]; rfl) ih
  | case3 | case6 | case7 | case11 | case12 | case13 => exact .truncated _ _ _
  | case5 | case9 | case10 | case15 | case16 | case17 | case18 =>
    rename_i ih
    exact .invalid ih

/-- A scan of an encoded text finds its characters. -/
theorem scan_encode (done : List Piece) (characters : List Char) :
    scan done (characters.flatMap encodeChar) = (characters.map .char).reverse ++ done := by
  induction characters generalizing done with
  | nil => rfl
  | cons c characters ih =>
    rw [List.flatMap_cons, scan_encodeChar, ih]
    simp

/-! ### The strict reader -/

/-- Pieces that are characters only are a text. -/
theorem collect_char (done characters : List Char) (position : Nat) :
    collect done position (characters.map .char) = .ok (done.reverse ++ characters) := by
  induction characters generalizing done position with
  | nil => simp [collect]
  | cons c characters ih =>
    rw [List.map_cons, collect, ih]
    simp

/-- Only pieces that are characters are a text. -/
theorem eq_map_char_of_collect {done characters : List Char} {position : Nat} {pieces : List Piece}
    (h : collect done position pieces = .ok characters) :
    ∃ found : List Char, pieces = found.map .char ∧ characters = done.reverse ++ found := by
  induction pieces generalizing done position with
  | nil =>
    cases h
    exact ⟨[], rfl, by simp⟩
  | cons piece pieces ih =>
    cases piece with
    | char c =>
      obtain ⟨found, rfl, rfl⟩ := ih h
      exact ⟨c :: found, rfl, by simp⟩
    | invalid length => cases h
    | truncated length => cases h

/-- **The strict reader is the inverse of the writer**: a byte string reads as a text iff it is the
encoding of this text. -/
theorem decode_eq_ok_iff {bytes : Bytes} {text : String} :
    decode bytes = .ok text ↔ bytes = encode text := by
  constructor
  · intro h
    unfold decode PeerNet.Utf8.pieces at h
    cases hcollect : collect [] 0 (scan [] bytes).reverse with
    | error fault =>
      rw [hcollect] at h
      cases h
    | ok characters =>
      rw [hcollect] at h
      cases h
      obtain ⟨found, hfound, hcharacters⟩ := eq_map_char_of_collect hcollect
      obtain ⟨pieces, hpieces, hbytes⟩ := faithful_scan [] bytes
      rw [hpieces, List.append_nil, List.reverse_reverse] at hfound
      rw [hbytes found hfound, hcharacters]
      simp [encode]
  · rintro rfl
    unfold decode PeerNet.Utf8.pieces encode
    rw [scan_encode, List.append_nil, List.reverse_reverse, collect_char]
    simp [Except.map]

/-- The encoding of a text reads as this text. -/
theorem decode_encode (text : String) : decode (encode text) = .ok text :=
  decode_eq_ok_iff.2 rfl

/-! ### The standard library's encoding -/

/-- The encoding of a character is that of the standard library. -/
theorem encodeChar_eq_utf8EncodeChar (c : Char) : encodeChar c = String.utf8EncodeChar c := by
  have hvalid : c.toNat < 0xD800 ∨ 0xDFFF < c.toNat ∧ c.toNat < 0x110000 := c.valid
  have hval : c.val.toNat = c.toNat := rfl
  unfold encodeChar String.utf8EncodeChar continuation
  simp only [hval]
  -- The bounds of the two agree; the library masks the lead byte as well.
  split_ifs <;> first | omega | skip
  · rfl
  · rw [Nat.mod_eq_of_lt (show c.toNat / 64 < 0x20 by omega), Nat.add_comm (c.toNat / 64),
      Nat.add_comm (c.toNat % 64)]
  · rw [Nat.mod_eq_of_lt (show c.toNat / 4096 < 0x10 by omega), Nat.add_comm (c.toNat / 4096),
      Nat.add_comm (c.toNat / 64 % 64), Nat.add_comm (c.toNat % 64)]
  · rw [Nat.mod_eq_of_lt (show c.toNat / 262144 < 0x08 by omega), Nat.add_comm (c.toNat / 262144),
      Nat.add_comm (c.toNat / 4096 % 64), Nat.add_comm (c.toNat / 64 % 64),
      Nat.add_comm (c.toNat % 64)]

/-- The encoding of a text is that of the standard library. -/
theorem toByteArray_encode (text : String) : (encode text).toByteArray = text.toByteArray := by
  have h : encodeChar = String.utf8EncodeChar := funext encodeChar_eq_utf8EncodeChar
  unfold encode
  rw [h, ← String.utf8Encode_toList]
  rfl

/-- The length of an encoded text. -/
theorem length_encode (text : String) : (encode text).length = text.utf8ByteSize := by
  rw [← String.size_toByteArray, ← toByteArray_encode, List.size_toByteArray]

/-- **A byte string is the encoding of a text iff it is valid UTF-8.** -/
theorem exists_encode_iff {bytes : Bytes} :
    (∃ text, bytes = encode text) ↔ bytes.toByteArray.IsValidUTF8 := by
  constructor
  · rintro ⟨text, rfl⟩
    rw [toByteArray_encode]
    exact text.isValidUTF8
  · intro h
    refine ⟨String.ofByteArray bytes.toByteArray h, ?_⟩
    have hdata := congrArg (fun array => array.data.toList)
      (toByteArray_encode (String.ofByteArray bytes.toByteArray h))
    simpa using hdata.symm

end PeerNet.Utf8
