import PeerNet.Bytes

/-!
# UTF-8

The encoding of text as bytes and the reading of bytes as text. Reading splits a byte string into
pieces: characters, and maximal malformed runs. A run ends before the first byte that rules out
every character starting with the bytes so far, so that a strict reader can say where the first
fault lies and how long it is, and a forgiving reader can put one replacement character for each
run.

* `Utf8.encode` and `Utf8.decode` are the strict pair.
* `Utf8.decodeLossy` replaces every malformed run.
-/

namespace PeerNet.Utf8

/-! ## Writing -/

/-- A continuation byte with the six low bits of `n`. -/
def continuation (n : Nat) : UInt8 := UInt8.ofNat (0x80 + n % 64)

/-- The one to four bytes of a character. -/
def encodeChar (c : Char) : Bytes :=
  let n := c.toNat
  if n < 0x80 then [UInt8.ofNat n]
  else if n < 0x800 then [UInt8.ofNat (0xC0 + n / 64), continuation n]
  else if n < 0x10000 then
    [UInt8.ofNat (0xE0 + n / 4096), continuation (n / 64), continuation n]
  else
    [UInt8.ofNat (0xF0 + n / 262144), continuation (n / 4096), continuation (n / 64),
      continuation n]

/-- The bytes of a text. -/
def encode (text : String) : Bytes := text.toList.flatMap encodeChar

/-! ## Reading -/

/-- A piece of a byte string: a character, or a run of bytes that belongs to none. -/
inductive Piece where
  /-- One whole character. -/
  | char (c : Char)
  /-- `length` bytes that no character starts with. -/
  | invalid (length : Nat)
  /-- The last bytes of the string, which begin a character that they do not finish. -/
  | truncated (length : Nat)
  deriving DecidableEq, Repr

/-- Whether a byte continues a character. -/
def isContinuation (b : UInt8) : Bool := 0x80 ≤ b && b ≤ 0xBF

/-- Whether `b` may follow the lead byte `a` of a three byte character: neither overlong nor a
surrogate. -/
def fitsAfterThree (a b : UInt8) : Bool :=
  if a = 0xE0 then 0xA0 ≤ b && b ≤ 0xBF
  else if a = 0xED then 0x80 ≤ b && b ≤ 0x9F
  else isContinuation b

/-- Whether `b` may follow the lead byte `a` of a four byte character: neither overlong nor past the
last code point. -/
def fitsAfterFour (a b : UInt8) : Bool :=
  if a = 0xF0 then 0x90 ≤ b && b ≤ 0xBF
  else if a = 0xF4 then 0x80 ≤ b && b ≤ 0x8F
  else isContinuation b

/-- The character with code point `n`. -/
def charOf (n : Nat) : Piece := .char (Char.ofNat n)

/-- The pieces of a byte string, put in reverse order in front of `done`. -/
def scan (done : List Piece) : Bytes → List Piece
  | [] => done
  | a :: rest =>
    if a < 0x80 then scan (charOf a.toNat :: done) rest
    else if 0xC2 ≤ a && a ≤ 0xDF then
      match rest with
      | [] => .truncated 1 :: done
      | b :: rest' =>
        if isContinuation b then
          scan (charOf ((a.toNat - 0xC0) * 64 + (b.toNat - 0x80)) :: done) rest'
        else scan (.invalid 1 :: done) (b :: rest')
    else if 0xE0 ≤ a && a ≤ 0xEF then
      match rest with
      | [] => .truncated 1 :: done
      | b :: rest' =>
        if fitsAfterThree a b then
          match rest' with
          | [] => .truncated 2 :: done
          | c :: rest'' =>
            if isContinuation c then
              scan (charOf ((a.toNat - 0xE0) * 4096 + (b.toNat - 0x80) * 64 + (c.toNat - 0x80))
                :: done) rest''
            else scan (.invalid 2 :: done) (c :: rest'')
        else scan (.invalid 1 :: done) (b :: rest')
    else if 0xF0 ≤ a && a ≤ 0xF4 then
      match rest with
      | [] => .truncated 1 :: done
      | b :: rest' =>
        if fitsAfterFour a b then
          match rest' with
          | [] => .truncated 2 :: done
          | c :: rest'' =>
            if isContinuation c then
              match rest'' with
              | [] => .truncated 3 :: done
              | d :: rest''' =>
                if isContinuation d then
                  scan (charOf ((a.toNat - 0xF0) * 262144 + (b.toNat - 0x80) * 4096
                    + (c.toNat - 0x80) * 64 + (d.toNat - 0x80)) :: done) rest'''
                else scan (.invalid 3 :: done) (d :: rest''')
            else scan (.invalid 2 :: done) (c :: rest'')
        else scan (.invalid 1 :: done) (b :: rest')
    else scan (.invalid 1 :: done) rest

/-- The pieces of a byte string, in order. -/
def pieces (bytes : Bytes) : List Piece := (scan [] bytes).reverse

/-- Where and how a byte string fails to be UTF-8. -/
inductive Fault where
  /-- The `length` bytes from `position` on begin no character. -/
  | invalid (length position : Nat)
  /-- The bytes from `position` on begin a character and end before it does. -/
  | truncated (position : Nat)
  deriving DecidableEq, Repr

/-- The description of a fault. -/
def Fault.message : Fault → String
  | .invalid length position =>
    s!"invalid utf-8 sequence of {length} bytes from index {position}"
  | .truncated position => s!"incomplete utf-8 byte sequence from index {position}"

/-- The characters of a list of pieces, the first of which starts at `position`; `done` holds the
characters before them in reverse order. -/
def collect (done : List Char) (position : Nat) : List Piece → Except Fault (List Char)
  | [] => .ok done.reverse
  | .char c :: rest => collect (c :: done) (position + (encodeChar c).length) rest
  | .invalid length :: _ => .error (.invalid length position)
  | .truncated _ :: _ => .error (.truncated position)

/-- The text that a byte string encodes, or its first fault. -/
def decode (bytes : Bytes) : Except Fault String :=
  (collect [] 0 (pieces bytes)).map String.ofList

/-- The character that stands for a malformed run. -/
def replacement : Char := '\uFFFD'

/-- The text of a byte string, every malformed run replaced by one character. -/
def decodeLossy (bytes : Bytes) : String :=
  String.ofList ((pieces bytes).map fun
    | .char c => c
    | _ => replacement)

example : decode [0x61, 0xC3, 0xA9] = .ok "aé" := rfl

example : decode [0x61, 0xED, 0xA0, 0x80] = .error (.invalid 1 1) := rfl

example : decode [0x61, 0xF0, 0x9F, 0x98] = .error (.truncated 1) := rfl

end PeerNet.Utf8
