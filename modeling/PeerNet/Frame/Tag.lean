import PeerNet.Error
import PeerNet.Text.Utf8

/-!
# Tags of frames

A frame says in two bytes what its body is. The first byte decides; the second has to be the one
that belongs to it. This file also holds everything that can be wrong with a frame.
-/

namespace PeerNet.Frame

/-- What the body of a frame is. -/
inductive Tag where
  /-- A serialized object. -/
  | classObject
  /-- A short message. -/
  | quick
  /-- A piece of data with a short text in front. -/
  | dataItem
  /-- A file with its name. -/
  | file
  /-- The mark after the last package, without a body. -/
  | endMark
  deriving DecidableEq, Repr

/-- The name of a tag. -/
def Tag.name : Tag → String
  | .classObject => "ClassObject"
  | .quick => "Quick"
  | .dataItem => "DataItem"
  | .file => "File"
  | .endMark => "End"

/-- Why bytes are no frame, or a package cannot be put into one. -/
inductive Fault where
  /-- The frame does not begin with the two bytes that all frames begin with. -/
  | badMagic (first second : UInt8)
  /-- No tag has this first byte. -/
  | unknownTag (first : UInt8)
  /-- The second byte is not the one that belongs to the tag. -/
  | unknownSubTag (second : UInt8) (tag : Tag)
  /-- The announced body is longer than allowed. -/
  | bodyTooLong (length : Nat)
  /-- An end mark announces a body. -/
  | endWithBody (length : Nat)
  /-- The body is too short for the length of the name. -/
  | noNameLength
  /-- The body is shorter than the name. -/
  | nameTooShort (length : Nat)
  /-- The name is no text. -/
  | nameNotText (fault : Utf8.Fault)
  /-- The name is too long for its length to be written. -/
  | nameTooLong (length : Nat)
  /-- The body is too long for its length to be written. -/
  | bodyNotAnnounceable (length : Nat)
  deriving DecidableEq, Repr

/-- A byte in hexadecimal with two digits. -/
def hexByte (b : UInt8) : String :=
  let digit (n : Nat) := String.ofList (Nat.toDigits 16 n)
  s!"0x{digit (b.toNat / 16)}{digit (b.toNat % 16)}"

/-- The description of a fault. -/
def Fault.message : Fault → String
  | .badMagic first second => s!"bad magic {hexByte first} {hexByte second}"
  | .unknownTag first => s!"unknown tag {hexByte first}"
  | .unknownSubTag second tag => s!"unknown sub tag {hexByte second} for tag {tag.name}"
  | .bodyTooLong length => s!"Frame of length {length} is too large."
  | .endWithBody length => s!"end of package marker with {length} body bytes"
  | .noNameLength => "missing name prefix block"
  | .nameTooShort length => s!"name prefix of {length} bytes exceeds body"
  | .nameNotText fault => s!"name prefix is not utf-8: {fault.message}"
  | .nameTooLong length => s!"name of {length} bytes is too long"
  | .bodyNotAnnounceable length => s!"package body of {length} bytes"

/-- The error that a fault is reported as: what arrives is malformed, what is to be sent is of no
use or too large. -/
def Fault.toError (fault : Fault) : Error :=
  match fault with
  | .nameTooLong _ => .invalidValue fault.message
  | .bodyNotAnnounceable _ => .messageTooLarge fault.message
  | _ => .malformedProtocol fault.message

namespace Tag

/-- The two bytes of a tag. -/
def toBytes : Tag → UInt8 × UInt8
  | classObject => (0x43, 0x4F)
  | quick => (0x51, 0x44)
  | dataItem => (0x44, 0x41)
  | file => (0x46, 0x4C)
  | endMark => (0x4F, 0x56)

/-- The tag that the first byte stands for. -/
def ofFirst? (first : UInt8) : Option Tag :=
  if first = 0x43 then some classObject
  else if first = 0x51 then some quick
  else if first = 0x44 then some dataItem
  else if first = 0x46 then some file
  else if first = 0x4F then some endMark
  else none

/-- The tag of two bytes. -/
def ofBytes (first second : UInt8) : Except Fault Tag :=
  match ofFirst? first with
  | none => .error (.unknownTag first)
  | some tag => if tag.toBytes.2 = second then .ok tag else .error (.unknownSubTag second tag)

/-- A tag is read back from the two bytes that it is written as. -/
theorem ofBytes_toBytes (tag : Tag) : ofBytes tag.toBytes.1 tag.toBytes.2 = .ok tag := by
  cases tag <;> rfl

end Tag

end PeerNet.Frame
