import PeerNet.Frame.Header
import PeerNet.Buffer.Writer

/-!
# Packages

A package is what a frame carries: data, data with a name, or the mark after the last package. In
the body, a name stands before the data, after its length in two bytes.

* `Package.toFrame` writes a package as one string of bytes.
* `Package.writeFrame` writes it into the blocks of a message, the header last.
* `Package.parse` takes a package off the front of a buffer.
-/

namespace PeerNet.Frame

/-- What a frame carries. -/
inductive Package where
  /-- A serialized object. -/
  | classObject (data : Bytes)
  /-- A short message. -/
  | quick (data : Bytes)
  /-- Data with a short text in front. -/
  | dataItem (tip : String) (data : Bytes)
  /-- A file with its name. -/
  | file (name : String) (data : Bytes)
  /-- The mark after the last package. -/
  | endMark
  deriving DecidableEq, Repr

namespace Package

/-- The tag of the frame. -/
def tag : Package → Tag
  | classObject _ => .classObject
  | quick _ => .quick
  | dataItem .. => .dataItem
  | file .. => .file
  | endMark => .endMark

/-- The number of bytes of a text. -/
def nameLength (name : String) : Nat := (Utf8.encode name).length

/-- The number of bytes of the body. -/
def bodyLength : Package → Nat
  | classObject data | quick data => data.length
  | dataItem name data | file name data => 2 + nameLength name + data.length
  | endMark => 0

/-- The parts of the body in the order in which they are written. Refused if the length of the name
does not fit into two bytes. -/
def bodyParts : Package → Except Fault (List Bytes)
  | classObject data | quick data => .ok [data]
  | dataItem name data | file name data =>
    let length := nameLength name
    if 65536 ≤ length then .error (.nameTooLong length)
    else .ok [Bytes.littleEndian 2 length, Utf8.encode name, data]
  | endMark => .ok []

/-! ## Writing -/

/-- The frame of a package. -/
def toFrame (package : Package) : Except Fault Bytes :=
  let length := package.bodyLength
  if UInt32.size ≤ length then .error (.bodyNotAnnounceable length)
  else
    match package.bodyParts with
    | .error fault => .error fault
    | .ok parts => .ok ((Header.mk package.tag (.ofNat length)).toBytes ++ parts.flatten)

/-- Writes the frame of a package behind a message, in blocks of `blockSize` bytes, at least one
byte more than a header. The room for the header is left free and filled at the end. Gives the
message, also if the package is refused, and the length of the frame. -/
def writeFrame (package : Package) (blocks : Buffer.Blocks) (blockSize : Nat) :
    Buffer.Blocks × Except Error Nat :=
  match (Buffer.Writer.start blocks (max blockSize (headerLength + 1))).reserveHead
    headerLength with
  | .error fault => (blocks, .error fault)
  | .ok (writer, head) =>
    match package.bodyParts with
    | .error fault => (writer.blocks, .error fault.toError)
    | .ok parts =>
      let writer := parts.foldl Buffer.Writer.writeAll writer
      match writer.finish with
      | .error fault => (writer.blocks, .error fault)
      | .ok (blocks, total) =>
        let length := total - headerLength
        if UInt32.size ≤ length then
          (blocks, .error (Fault.bodyNotAnnounceable total).toError)
        else
          match blocks.range? head with
          | .found index start count =>
            (blocks.writeRange index start count (Header.mk package.tag (.ofNat length)).toBytes,
              .ok total)
          | .refused fault => (blocks, .error fault)
          | .overflow => (blocks, .error (.illegalState "range of the header overflows"))

/-! ## Reading -/

/-- Reads a name and the data after it. -/
def splitName (body : Bytes) : Except Fault (String × Bytes) :=
  match body with
  | l₁ :: l₂ :: rest =>
    let length := Bytes.ofLittleEndian [l₁, l₂]
    let name := rest.take length
    if name.length < length then .error (.nameTooShort length)
    else
      match Utf8.decode name with
      | .error fault => .error (.nameNotText fault)
      | .ok name => .ok (name, rest.drop length)
  | _ => .error .noNameLength

/-- The package with this tag and body. -/
def ofBody (tag : Tag) (body : Bytes) : Except Fault Package :=
  match tag with
  | .classObject => .ok (classObject body)
  | .quick => .ok (quick body)
  | .dataItem => (splitName body).map fun (tip, data) => dataItem tip data
  | .file => (splitName body).map fun (name, data) => file name data
  | .endMark => .ok endMark

/-- Takes a package off the front of a buffer; nothing as long as bytes are missing. A frame whose
body is at fault is taken off as well, one whose header is at fault stays. -/
def parse (buffer : Bytes) (maxBody : Nat) : Bytes × Except Fault (Option Package) :=
  match Header.split buffer maxBody with
  | .error fault => (buffer, .error fault)
  | .ok none => (buffer, .ok none)
  | .ok (some (header, body, rest)) => (rest, (ofBody header.tag body).map some)

/-- A parse that finds a package consumes something. -/
theorem length_lt_of_parse {buffer rest : Bytes} {maxBody : Nat} {package : Package}
    (h : parse buffer maxBody = (rest, .ok (some package))) : rest.length < buffer.length := by
  unfold parse at h
  split at h
  · cases h
  · cases h
  · next hsplit =>
    obtain ⟨rfl, -⟩ := Prod.mk.inj h
    exact Header.length_lt_of_split hsplit

/-- A parse that has to wait for more leaves the buffer as it is. -/
theorem eq_of_parse_none {buffer rest : Bytes} {maxBody : Nat}
    (h : parse buffer maxBody = (rest, .ok none)) : rest = buffer := by
  unfold parse at h
  split at h
  · cases h
  · cases h
    rfl
  · next header body _ _ =>
    cases hbody : ofBody header.tag body <;> rw [hbody] at h <;> cases h

/-- Takes packages off the front of a buffer until bytes are missing or something is at fault. -/
def parseAll (buffer : Bytes) (maxBody : Nat) : Bytes × List Package × Option Fault :=
  collect (buffer.length + 1) buffer []
where
  /-- Takes at most `most` packages off, after those in `done`. A frame has at least eight bytes, so
  that there are never more packages than bytes. -/
  collect : (most : Nat) → Bytes → List Package → Bytes × List Package × Option Fault
    | 0, buffer, done => (buffer, done.reverse, none)
    | most + 1, buffer, done =>
      match parse buffer maxBody with
      | (rest, .error fault) => (rest, done.reverse, some fault)
      | (rest, .ok none) => (rest, done.reverse, none)
      | (rest, .ok (some package)) => collect most rest (package :: done)

example : (quick [1, 2]).toFrame = .ok [0x59, 0x54, 0x51, 0x44, 2, 0, 0, 0, 1, 2] := rfl

end Package

end PeerNet.Frame
