import PeerNet.Frame.Tag

/-!
# Headers of frames

A frame begins with eight bytes: the two magic bytes, the two bytes of the tag, and the length of
the body in four bytes, the least significant first. A header is refused if it announces more than
the reader wants to take, or a body for an end mark.

* `Header.ofBytes` reads eight bytes.
* `Header.check` finds out whether a buffer begins with a complete frame.
-/

namespace PeerNet.Frame

/-- The bytes that every frame begins with. -/
def magic : UInt8 × UInt8 := (0x59, 0x54)

/-- The number of bytes of a header. -/
def headerLength : Nat := 8

/-- What a frame announces. -/
structure Header where
  /-- What the body is. -/
  tag : Tag
  /-- The length of the body. -/
  bodyLength : UInt32
  deriving DecidableEq, Repr

namespace Header

/-- The eight bytes of a header. -/
def toBytes (header : Header) : Bytes :=
  magic.1 :: magic.2 :: header.tag.toBytes.1 :: header.tag.toBytes.2
    :: Bytes.littleEndian 4 header.bodyLength.toNat

/-- The header of eight bytes. -/
def ofBytes (m₁ m₂ t₁ t₂ l₁ l₂ l₃ l₄ : UInt8) (maxBody : Nat) : Except Fault Header :=
  if (m₁, m₂) ≠ magic then .error (.badMagic m₁ m₂)
  else
    match Tag.ofBytes t₁ t₂ with
    | .error fault => .error fault
    | .ok tag =>
      let length := Bytes.ofLittleEndian [l₁, l₂, l₃, l₄]
      if maxBody < length then .error (.bodyTooLong length)
      else if tag = .endMark ∧ length ≠ 0 then .error (.endWithBody length)
      else .ok ⟨tag, .ofNat length⟩

/-- Splits a buffer into the header, the body and what follows the frame; nothing as long as bytes
are missing. -/
def split (buffer : Bytes) (maxBody : Nat) : Except Fault (Option (Header × Bytes × Bytes)) :=
  match buffer with
  | m₁ :: m₂ :: t₁ :: t₂ :: l₁ :: l₂ :: l₃ :: l₄ :: rest =>
    match ofBytes m₁ m₂ t₁ t₂ l₁ l₂ l₃ l₄ maxBody with
    | .error fault => .error fault
    | .ok header =>
      let body := rest.take header.bodyLength.toNat
      if body.length < header.bodyLength.toNat then .ok none
      else .ok (some (header, body, rest.drop header.bodyLength.toNat))
  | _ => .ok none

/-- The header of the complete frame that a buffer begins with. -/
def check (buffer : Bytes) (maxBody : Nat) : Except Error Header :=
  match split buffer maxBody with
  | .error fault => .error fault.toError
  | .ok none => .error .incomplete
  | .ok (some (header, _)) => .ok header

/-- Splitting off a body takes bytes away from the buffer, so cutting a stream comes to an end. -/
theorem length_lt_of_split {buffer body rest : Bytes} {maxBody : Nat} {header : Header}
    (h : split buffer maxBody = .ok (some (header, body, rest))) :
    rest.length < buffer.length := by
  unfold split at h
  split at h
  · next m₁ m₂ t₁ t₂ l₁ l₂ l₃ l₄ after =>
    split at h
    · cases h
    · next found _ =>
      by_cases hcut : (after.take found.bodyLength.toNat).length < found.bodyLength.toNat
      · simp only [if_pos hcut] at h
        cases h
      · simp only [if_neg hcut] at h
        cases h
        simp only [List.length_cons, List.length_drop]
        omega
  · cases h

/-- Every header has the same length. -/
@[simp] theorem length_toBytes (header : Header) : header.toBytes.length = headerLength := by
  simp [toBytes, headerLength]

end Header

end PeerNet.Frame
