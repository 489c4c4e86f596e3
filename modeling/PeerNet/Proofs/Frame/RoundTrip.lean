import PeerNet.Frame.Package
import PeerNet.Proofs.Frame.Header
import PeerNet.Proofs.Text.Utf8

/-!
# Parsing undoes framing

A frame is an allowed header and the parts of a body. What a parse does with a buffer follows from
what the buffer begins with, and a package is parsed exactly from its own frame.

* **Bodies** (`splitName_eq_ok_iff`, `ofBody_flatten`, `exists_bodyParts_of_ofBody`): a body is read
  as it was written, and written as it was read.
* **One frame** (`parse_eq_some_iff`): a package is parsed iff the buffer begins with its frame and
  the frame is not too long.
* **Many frames** (`parseTimes_frames`): the frames of any packages that may be sent, with any bytes
  behind them, are parsed as these packages, and exactly the bytes behind them are left.
-/

namespace PeerNet.Frame.Package

/-! ### Bodies -/

/-- A name and the data after it are read iff they are written in this way. -/
theorem splitName_eq_ok_iff {body data : Bytes} {name : String} :
    splitName body = .ok (name, data) ↔
      nameLength name < 65536 ∧
        body = Bytes.littleEndian 2 (nameLength name) ++ (Utf8.encode name ++ data) := by
  constructor
  · intro h
    match body with
    | [] => cases h
    | [_] => cases h
    | l₁ :: l₂ :: rest =>
      have hlt : Bytes.ofLittleEndian [l₁, l₂] < Nat.pow 256 2 := Bytes.ofLittleEndian_lt [l₁, l₂]
      have hback : Bytes.littleEndian 2 (Bytes.ofLittleEndian [l₁, l₂]) = [l₁, l₂] :=
        Bytes.littleEndian_ofLittleEndian [l₁, l₂]
      simp only [splitName] at h
      generalize Bytes.ofLittleEndian [l₁, l₂] = length at h hlt hback
      split_ifs at h with hshort
      cases hname : Utf8.decode (rest.take length) with
      | error fault =>
        rw [hname] at h
        cases h
      | ok text =>
        rw [hname] at h
        obtain ⟨rfl, rfl⟩ := Prod.mk.inj (Except.ok.inj h)
        have hencode := Utf8.decode_eq_ok_iff.1 hname
        have hlength : nameLength text = length := by
          unfold nameLength
          rw [← hencode]
          rw [List.length_take] at hshort ⊢
          omega
        rw [hlength, hback, ← hencode, List.take_append_drop]
        exact ⟨hlt, rfl⟩
  · rintro ⟨hlt, rfl⟩
    obtain ⟨l₁, l₂, hlength⟩ : ∃ l₁ l₂, Bytes.littleEndian 2 (nameLength name) = [l₁, l₂] :=
      ⟨_, _, rfl⟩
    have hread : Bytes.ofLittleEndian [l₁, l₂] = (Utf8.encode name).length := by
      rw [← hlength]
      exact Bytes.ofLittleEndian_littleEndian hlt
    rw [hlength]
    simp only [List.cons_append, List.nil_append, splitName, hread, List.take_left',
      List.drop_left', Nat.lt_irrefl, if_false, Utf8.decode_encode]

/-- The parts of a body are as long as the body. -/
theorem length_flatten_bodyParts {package : Package} {parts : List Bytes}
    (h : package.bodyParts = .ok parts) : parts.flatten.length = package.bodyLength := by
  cases package with
  | classObject data | quick data =>
    cases h
    simp [bodyLength]
  | dataItem name data | file name data =>
    simp only [bodyParts] at h
    split_ifs at h
    cases h
    simp [bodyLength, nameLength, Nat.add_assoc]
  | endMark =>
    cases h
    rfl

/-- A body is read as the package that it was written from. -/
theorem ofBody_flatten {package : Package} {parts : List Bytes}
    (h : package.bodyParts = .ok parts) : ofBody package.tag parts.flatten = .ok package := by
  cases package with
  | classObject data | quick data =>
    cases h
    simp [ofBody, tag]
  | dataItem name data | file name data =>
    simp only [bodyParts] at h
    split_ifs at h with hlong
    cases h
    have hsplit : splitName (Bytes.littleEndian 2 (nameLength name) ++ (Utf8.encode name ++ data)) =
        .ok (name, data) := splitName_eq_ok_iff.2 ⟨Nat.not_le.1 hlong, rfl⟩
    simp [ofBody, tag, hsplit, Except.map]
  | endMark => rfl

/-- A body is written as it was read. An end mark is read from any body, so that its body has to be
empty. -/
theorem exists_bodyParts_of_ofBody {tag : Tag} {body : Bytes} {package : Package}
    (h : ofBody tag body = .ok package) (hbare : tag = .endMark → body = []) :
    package.tag = tag ∧ ∃ parts, package.bodyParts = .ok parts ∧ parts.flatten = body := by
  cases tag with
  | classObject | quick =>
    cases h
    exact ⟨rfl, [body], rfl, by simp⟩
  | dataItem | file =>
    simp only [ofBody] at h
    cases hsplit : splitName body with
    | error fault =>
      rw [hsplit] at h
      cases h
    | ok split =>
      obtain ⟨name, data⟩ := split
      rw [hsplit] at h
      cases h
      obtain ⟨hlt, rfl⟩ := splitName_eq_ok_iff.1 hsplit
      refine ⟨rfl, [Bytes.littleEndian 2 (nameLength name), Utf8.encode name, data], ?_, ?_⟩
      · simp only [bodyParts]
        rw [if_neg (Nat.not_le.2 hlt)]
      · simp
  | endMark =>
    cases h
    exact ⟨rfl, [], rfl, (hbare rfl).symm⟩

/-! ### Frames -/

/-- The header of the frame of a package. -/
def header (package : Package) : Header := ⟨package.tag, .ofNat package.bodyLength⟩

/-- A package has a frame iff its body can be written and its length be announced. -/
theorem toFrame_eq_ok_iff {package : Package} {frame : Bytes} :
    package.toFrame = .ok frame ↔
      package.bodyLength < UInt32.size ∧
        ∃ parts, package.bodyParts = .ok parts ∧
          frame = package.header.toBytes ++ parts.flatten := by
  unfold toFrame
  simp only
  split_ifs with hlong
  · simp only [false_iff]
    rintro ⟨hlt, -⟩
    omega
  · cases hparts : package.bodyParts with
    | error fault => simp
    | ok parts =>
      simp only [Except.ok.injEq, exists_eq_left', header]
      exact ⟨fun h => ⟨Nat.not_le.1 hlong, h.symm⟩, fun h => h.2.symm⟩

/-- The header of a frame announces the length of the body. -/
theorem toNat_header {package : Package} (h : package.bodyLength < UInt32.size) :
    package.header.bodyLength.toNat = package.bodyLength :=
  UInt32.toNat_ofNat_of_lt' h

/-- A reader that takes bodies as long as that of a package takes its header. -/
theorem header_allowed {package : Package} {maxBody : Nat} (h : package.bodyLength < UInt32.size)
    (hfits : package.bodyLength ≤ maxBody) : package.header.Allowed maxBody := by
  refine ⟨?_, fun hmark => ?_⟩
  · rw [toNat_header h]
    exact hfits
  · rw [toNat_header h]
    cases package <;> simp [header, tag, bodyLength] at *

/-- What is read from a whole body is framed as it stood there. -/
theorem toFrame_of_ofBody {maxBody : Nat} {header : Header} (hallowed : header.Allowed maxBody)
    {body : Bytes} (hbody : body.length = header.bodyLength.toNat) {package : Package}
    (h : ofBody header.tag body = .ok package) :
    package.toFrame = .ok (header.toBytes ++ body) ∧
      package.bodyLength = header.bodyLength.toNat := by
  obtain ⟨htag, parts, hparts, rfl⟩ := exists_bodyParts_of_ofBody h (hallowed.body_eq_nil hbody)
  have hlength : package.bodyLength = header.bodyLength.toNat := by
    rw [← length_flatten_bodyParts hparts, hbody]
  have hheader : package.header = header := by
    unfold Package.header
    rw [htag, hlength, UInt32.ofNat_toNat]
  refine ⟨toFrame_eq_ok_iff.2 ⟨?_, parts, hparts, by rw [hheader]⟩, hlength⟩
  rw [hlength]
  exact header.bodyLength.toNat_lt

/-! ### Parsing -/

/-- Less than a header is no package and stays. -/
theorem parse_short {buffer : Bytes} (maxBody : Nat) (h : buffer.length < headerLength) :
    parse buffer maxBody = (buffer, .ok none) := by
  unfold parse
  rw [Header.split_short maxBody h]

/-- Less than the announced body is no package and stays. -/
theorem parse_cut {maxBody : Nat} {header : Header} (hallowed : header.Allowed maxBody)
    {rest : Bytes} (h : rest.length < header.bodyLength.toNat) :
    parse (header.toBytes ++ rest) maxBody = (header.toBytes ++ rest, .ok none) := by
  unfold parse
  rw [Header.split_allowed hallowed, if_pos h]

/-- A whole body is read and taken off together with its header, also if it is at fault. -/
theorem parse_whole {maxBody : Nat} {header : Header} (hallowed : header.Allowed maxBody)
    {body : Bytes} (h : body.length = header.bodyLength.toNat) (rest : Bytes) :
    parse (header.toBytes ++ (body ++ rest)) maxBody =
      (rest, (ofBody header.tag body).map some) := by
  have hlong : ¬(body ++ rest).length < header.bodyLength.toNat := by
    rw [List.length_append]
    omega
  unfold parse
  rw [Header.split_allowed hallowed, if_neg hlong]
  simp only [List.take_left' h, List.drop_left' h]

/-- A refused header stays. -/
theorem parse_refuses {maxBody : Nat} {buffer : Bytes} {fault : Fault}
    (h : Header.Refuses maxBody buffer fault) :
    parse buffer maxBody = (buffer, .error fault) := by
  have hsplit := h.split []
  rw [List.append_nil] at hsplit
  unfold parse
  rw [hsplit]

/-- **A package is parsed iff the buffer begins with its frame and the reader takes a body of this
length; the frame is taken off.** -/
theorem parse_eq_some_iff {buffer rest : Bytes} {maxBody : Nat} {package : Package} :
    parse buffer maxBody = (rest, .ok (some package)) ↔
      ∃ frame, package.toFrame = .ok frame ∧ package.bodyLength ≤ maxBody ∧
        buffer = frame ++ rest := by
  constructor
  · intro h
    cases Header.front maxBody buffer with
    | short hshort =>
      rw [parse_short maxBody hshort] at h
      cases h
    | cut hallowed hcut =>
      rw [parse_cut hallowed hcut] at h
      cases h
    | @whole header hallowed body hbody after =>
      rw [parse_whole hallowed hbody] at h
      obtain ⟨rfl, hread⟩ := Prod.mk.inj h
      cases hpackage : ofBody header.tag body with
      | error fault =>
        rw [hpackage] at hread
        cases hread
      | ok found =>
        rw [hpackage] at hread
        cases hread
        obtain ⟨hframe, hlength⟩ := toFrame_of_ofBody hallowed hbody hpackage
        refine ⟨_, hframe, ?_, (List.append_assoc _ _ _).symm⟩
        rw [hlength]
        exact hallowed.fits
    | refused hrefuses =>
      rw [parse_refuses hrefuses] at h
      cases h
  · rintro ⟨frame, hframe, hfits, rfl⟩
    obtain ⟨hlt, parts, hparts, rfl⟩ := toFrame_eq_ok_iff.1 hframe
    have hlength : parts.flatten.length = package.header.bodyLength.toNat := by
      rw [toNat_header hlt, length_flatten_bodyParts hparts]
    rw [List.append_assoc, parse_whole (header_allowed hlt hfits) hlength]
    show (rest, (ofBody package.tag parts.flatten).map some) = _
    rw [ofBody_flatten hparts]
    rfl

/-! ### Streams of frames -/

/-- Parses `count` times, each time what the parse before has left. Gives all results and what is
left at the end. -/
def parseTimes (maxBody : Nat) :
    (count : Nat) → Bytes → List (Except Fault (Option Package)) × Bytes
  | 0, buffer => ([], buffer)
  | count + 1, buffer =>
    let (rest, result) := parse buffer maxBody
    let (results, last) := parseTimes maxBody count rest
    (result :: results, last)

/-- The name that a package carries. -/
def name? : Package → Option String
  | dataItem name _ | file name _ => some name
  | _ => none

/-- A package can be sent to a reader that takes bodies of at most `maxBody` bytes: the length of
its name fits into two bytes and that of its body into four, and the body is not too long. -/
structure Sendable (maxBody : Nat) (package : Package) : Prop where
  /-- The name has at most 65535 bytes. -/
  name_le : ∀ name ∈ package.name?, name.utf8ByteSize ≤ 65535
  /-- The body is not longer than allowed, and its length is a word of four bytes. -/
  body_le : package.bodyLength ≤ min maxBody (UInt32.size - 1)

instance (maxBody : Nat) (package : Package) : Decidable (package.Sendable maxBody) :=
  decidable_of_iff
    ((∀ name ∈ package.name?, name.utf8ByteSize ≤ 65535) ∧
      package.bodyLength ≤ min maxBody (UInt32.size - 1))
    ⟨fun h => ⟨h.1, h.2⟩, fun h => ⟨h.name_le, h.body_le⟩⟩

/-- A package that can be sent has a frame. -/
theorem Sendable.exists_toFrame {maxBody : Nat} {package : Package} (h : package.Sendable maxBody) :
    ∃ frame, package.toFrame = .ok frame := by
  have hlt : package.bodyLength < UInt32.size := by
    have hle := h.body_le
    simp only [UInt32.size] at hle ⊢
    omega
  have hparts : ∃ parts, package.bodyParts = .ok parts := by
    have hname := h.name_le
    cases package with
    | classObject data | quick data => exact ⟨[data], rfl⟩
    | endMark => exact ⟨[], rfl⟩
    | dataItem name data | file name data =>
      have hlength : ¬65536 ≤ nameLength name := by
        have hle := hname name rfl
        rw [nameLength, Utf8.length_encode]
        omega
      exact ⟨_, by simp only [bodyParts]; rw [if_neg hlength]⟩
  obtain ⟨parts, hparts⟩ := hparts
  exact ⟨_, toFrame_eq_ok_iff.2 ⟨hlt, parts, hparts, rfl⟩⟩

/-- **Parsing undoes framing over whole streams.** -/
theorem parseTimes_frames (maxBody : Nat) (packages : List Package)
    (h : ∀ package ∈ packages, package.Sendable maxBody) (tail : Bytes) :
    ∃ frames, packages.mapM toFrame = .ok frames ∧
      parseTimes maxBody packages.length (frames.flatten ++ tail) =
        (packages.map fun package => .ok (some package), tail) := by
  induction packages with
  | nil => exact ⟨[], rfl, rfl⟩
  | cons package packages ih =>
    obtain ⟨frame, hframe⟩ := (h package List.mem_cons_self).exists_toFrame
    obtain ⟨frames, hframes, hparse⟩ :=
      ih fun other hother => h other (List.mem_cons_of_mem _ hother)
    have hfits : package.bodyLength ≤ maxBody :=
      Nat.le_trans (h package List.mem_cons_self).body_le (Nat.min_le_left _ _)
    have hfirst : parse (frame ++ (frames.flatten ++ tail)) maxBody =
        (frames.flatten ++ tail, .ok (some package)) :=
      parse_eq_some_iff.2 ⟨frame, hframe, hfits, rfl⟩
    refine ⟨frame :: frames, ?_, ?_⟩
    · rw [List.mapM_cons, hframe, hframes]
      rfl
    · rw [List.length_cons, List.flatten_cons, List.append_assoc, parseTimes, hfirst]
      simp only [hparse, List.map_cons]

/-- All five kinds, a name of two bytes, data that looks like a header, and a tail that begins
another frame. -/
theorem parseTimes_frames_of_each_kind :
    (∀ package ∈ [file "é" [0x59, 0x54], endMark, quick [0x59, 0x54, 0x51, 0x44, 0, 0],
        dataItem "" [], classObject []], package.Sendable 6) ∧
      ∃ frames, [file "é" [0x59, 0x54], endMark, quick [0x59, 0x54, 0x51, 0x44, 0, 0],
          dataItem "" [], classObject []].mapM toFrame = .ok frames ∧
        parseTimes 6 5 (frames.flatten ++ [0x59, 0x54]) =
          ([file "é" [0x59, 0x54], endMark, quick [0x59, 0x54, 0x51, 0x44, 0, 0],
            dataItem "" [], classObject []].map fun package => .ok (some package), [0x59, 0x54]) :=
  have h : ∀ package ∈ [file "é" [0x59, 0x54], endMark, quick [0x59, 0x54, 0x51, 0x44, 0, 0],
      dataItem "" [], classObject []], package.Sendable 6 := by decide
  ⟨h, parseTimes_frames 6 _ h [0x59, 0x54]⟩

end PeerNet.Frame.Package
