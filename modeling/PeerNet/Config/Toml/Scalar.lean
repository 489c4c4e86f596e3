import PeerNet.Config.Toml.Text
import PeerNet.Number.Binary64

/-!
# Numbers and times of the configuration format

Numbers may have underscores between digits. Integers have 64 bits with a sign, and a base by their
first two characters; a decimal integer of several digits begins with no zero. Numbers with a point
or an exponent are binary numbers of double precision; one that is too large is refused.

Times and dates are checked, and kept as text in a normal form.
-/

namespace PeerNet.Config.Toml

/-- A value without parts. -/
inductive Scalar where
  /-- A text, also one that spells a time. -/
  | text (value : String)
  /-- An integer. -/
  | integer (value : Int)
  /-- A number with a fraction. -/
  | float (value : Binary64)
  /-- A truth value. -/
  | bool (value : Bool)
  deriving DecidableEq, Repr

/-- What comes of an attempt to read something. -/
inductive Attempt (α : Type) where
  /-- It was read, and this is left. -/
  | found (value : α) (rest : List Char)
  /-- The text starts with something else. -/
  | absent
  /-- The text starts like it, and is malformed. -/
  | malformed

/-! ## Numbers -/

/-- Reads digits with single underscores between them, after one digit. Gives the digits without the
underscores, the last one first. -/
def moreDigits (isDigit : Char → Bool) (done : List Char) :
    List Char → Option (List Char × List Char)
  | '_' :: c :: rest => if isDigit c then moreDigits isDigit (c :: done) rest else none
  | ['_'] => none
  | c :: rest => if isDigit c then moreDigits isDigit (c :: done) rest else some (done, c :: rest)
  | [] => some (done, [])

/-- Reads one digit or more, with underscores. -/
def digits (isDigit : Char → Bool) : List Char → Option (List Char × List Char)
  | c :: rest =>
    if isDigit c then
      (moreDigits isDigit [c] rest).map fun (digits, rest) => (digits.reverse, rest)
    else none
  | [] => none

/-- The number of digits in a base. -/
def valueOf (base : Nat) (digits : List Char) : Nat :=
  digits.foldl (fun n c => n * base + (hexValue? c).getD 0) 0

/-- Reads a sign. Gives whether it is a minus. -/
def sign : List Char → Bool × List Char
  | '-' :: rest => (true, rest)
  | '+' :: rest => (false, rest)
  | text => (false, text)

/-- Reads the digits of a decimal integer without its sign. -/
def decimalDigits (text : List Char) : Attempt (List Char) :=
  match text with
  | '0' :: rest => .found ['0'] rest
  | c :: _ =>
    if c.isDigit then
      match digits Char.isDigit text with
      | some (digits, rest) => .found digits rest
      | none => .malformed
    else .absent
  | [] => .absent

/-- An integer that fits into 64 bits with a sign. -/
def integerOf (negative : Bool) (n : Nat) : Option Scalar :=
  if negative then if n ≤ UInt64.size / 2 then some (.integer (-n)) else none
  else if n < UInt64.size / 2 then some (.integer n) else none

/-- Reads an integer in a base, after the two characters that name it. -/
def based (base : Nat) (text : List Char) : Option (Scalar × List Char) :=
  match digits (fun c => (hexValue? c).any (· < base)) text with
  | none => none
  | some (digits, rest) => (integerOf false (valueOf base digits)).map fun n => (n, rest)

/-- Reads an exponent, if there is one. Gives nothing if it is malformed. -/
def exponentPart (text : List Char) : Option (Option Int × List Char) :=
  match text with
  | c :: rest =>
    if c = 'e' || c = 'E' then
      let (negative, rest) := sign rest
      match digits Char.isDigit rest with
      | none => none
      | some (digits, rest) =>
        let n : Int := valueOf 10 digits
        some (some (if negative then -n else n), rest)
    else some (none, text)
  | [] => some (none, [])

/-- Reads a fraction, if there is one. Gives nothing if it is malformed. -/
def fractionPart (text : List Char) : Option (Option (List Char) × List Char) :=
  match text with
  | '.' :: rest =>
    match digits Char.isDigit rest with
    | none => none
    | some (digits, rest) => some (some digits, rest)
  | _ => some (none, text)

/-- Reads a number that is given by name. -/
def namedNumber (negative : Bool) : List Char → Option (Scalar × List Char)
  | 'i' :: 'n' :: 'f' :: rest => some (.float (.infinite negative), rest)
  | 'n' :: 'a' :: 'n' :: rest => some (.float .nan, rest)
  | _ => none

/-- Reads a number. -/
def number (text : List Char) : Option (Scalar × List Char) :=
  match text with
  | '0' :: 'x' :: rest => based 16 rest
  | '0' :: 'o' :: rest => based 8 rest
  | '0' :: 'b' :: rest => based 2 rest
  | _ =>
    let (negative, unsigned) := sign text
    match decimalDigits unsigned with
    | .malformed => none
    | .absent => namedNumber negative unsigned
    | .found whole rest =>
      match fractionPart rest with
      | none => none
      | some (fraction, rest) =>
        match exponentPart rest with
        | none => none
        | some (exponent, rest) =>
          if fraction.isNone && exponent.isNone then
            (integerOf negative (valueOf 10 whole)).map fun n => (n, rest)
          else
            let fraction := fraction.getD []
            let value := Binary64.ofDecimal negative (valueOf 10 (whole ++ fraction))
              (exponent.getD 0 - fraction.length)
            if value = .infinite false then none else some (.float value, rest)

/-! ## Times -/

/-- Reads exactly `count` digits as a number. -/
def exactly (count : Nat) (text : List Char) : Option (Nat × List Char) :=
  let digits := (text.take count).takeWhile Char.isDigit
  if digits.length = count then some (valueOf 10 digits, text.drop count) else none

/-- A number with at least `width` digits. -/
def padded (width n : Nat) : String :=
  let digits := Nat.toDigits 10 n
  String.ofList (List.replicate (width - digits.length) '0' ++ digits)

/-- Reads two digits as a number in a range. -/
def pair (low high : Nat) (text : List Char) : Option (Nat × List Char) :=
  match exactly 2 text with
  | some (n, rest) => if low ≤ n && n ≤ high then some (n, rest) else none
  | none => none

/-- Reads one given character. -/
def one (c : Char) : List Char → Option (List Char)
  | x :: rest => if x = c then some rest else none
  | [] => none

/-- The number of days of a month. -/
def daysOf (year month : Nat) : Nat :=
  if month = 2 then
    if year % 4 = 0 && (year % 100 ≠ 0 || year % 400 = 0) then 29 else 28
  else if month = 4 || month = 6 || month = 9 || month = 11 then 30
  else 31

/-- Reads a date. -/
def date (text : List Char) : Attempt String :=
  match exactly 4 text with
  | some (year, '-' :: rest) =>
    let found := do
      let (month, rest) ← pair 1 12 rest
      let rest ← one '-' rest
      let (day, rest) ← pair 1 (daysOf year month) rest
      some (s!"{padded 4 year}-{padded 2 month}-{padded 2 day}", rest)
    match found with
    | some (text, rest) => .found text rest
    | none => .malformed
  | _ => .absent

/-- The text of a fraction of a second: nine digits at most, without zeros at the end. -/
def secondsText (digits : List Char) : String :=
  let shown := ((digits.take 9).reverse.dropWhile (· = '0')).reverse
  if shown.isEmpty then "" else String.ofList ('.' :: shown)

/-- Reads a time of day. -/
def time (text : List Char) : Attempt String :=
  match pair 0 23 text with
  | some (hour, ':' :: rest) =>
    let found := do
      let (minute, rest) ← pair 0 59 rest
      let rest ← one ':' rest
      let (second, rest) ← pair 0 60 rest
      some (s!"{padded 2 hour}:{padded 2 minute}:{padded 2 second}", rest)
    match found with
    | none => .malformed
    | some (text, '.' :: rest) =>
      let digits := rest.takeWhile Char.isDigit
      if digits.isEmpty then .found text ('.' :: rest)
      else .found (text ++ secondsText digits) (rest.dropWhile Char.isDigit)
    | some (text, rest) => .found text rest
  | _ => .absent

/-- Reads the offset of a time zone. -/
def offset (text : List Char) : Attempt String :=
  match text with
  | [] => .absent
  | c :: rest =>
    if c = 'Z' || c = 'z' then .found "Z" rest
    else if c = '+' || c = '-' then
      let found := do
        let (hour, rest) ← pair 0 23 rest
        let rest ← one ':' rest
        let (minute, rest) ← pair 0 59 rest
        some (hour, minute, rest)
      match found with
      | none => .malformed
      | some (hour, minute, rest) =>
        let shown := if hour = 0 && minute = 0 then '+' else c
        .found (String.singleton shown ++ s!"{padded 2 hour}:{padded 2 minute}") rest
    else .absent

/-- Reads a date, a time, or both. -/
def moment (text : List Char) : Attempt String :=
  match date text with
  | .malformed => .malformed
  | .absent => time text
  | .found day rest =>
    match rest with
    | c :: afterMark =>
      if c = 'T' || c = 't' || c = ' ' then
        match time afterMark with
        | .malformed => .malformed
        | .absent => .found day rest
        | .found hour rest =>
          match offset rest with
          | .malformed => .malformed
          | .absent => .found s!"{day}T{hour}" rest
          | .found zone rest => .found s!"{day}T{hour}{zone}" rest
      else .found day rest
    | [] => .found day rest

/-- Reads a value without parts. -/
def scalar (text : List Char) : Option (Scalar × List Char) :=
  match text with
  | 't' :: 'r' :: 'u' :: 'e' :: rest => some (.bool true, rest)
  | 'f' :: 'a' :: 'l' :: 's' :: 'e' :: rest => some (.bool false, rest)
  | c :: _ =>
    if c = '"' || c = '\'' then (quoted text).map fun (value, rest) => (.text value, rest)
    else if c.isDigit || c = '+' || c = '-' then
      match moment text with
      | .found value rest => some (.text value, rest)
      | .malformed => none
      | .absent => number text
    else namedNumber false text
  | [] => none

example : scalar "1979-05-27 07:32:00z".toList =
    some (.text "1979-05-27T07:32:00Z", []) := by decide

example : scalar "1_000 ".toList = some (.integer 1000, [' ']) := by decide

end PeerNet.Config.Toml
