import PeerNet.Endpoint.Basic

/-!
# Option (endpoints × List Char)

A reader takes the characters that are left and gives back a value with the characters after it, or
nothing when the text does not start with such a value. Numbers have no sign; the octets of an IPv4
address have at most three digits and no leading zero, groups of an IPv6 address at most four
digits, ports and scopes any number of digits within their range.
-/

namespace PeerNet.Endpoint

/-- The value of a digit in base 10 or 16. -/
def digitValue? (base : Nat) (c : Char) : Option Nat :=
  let value :=
    if c.isDigit then some (c.toNat - '0'.toNat)
    else if 'a' ≤ c && c ≤ 'f' then some (c.toNat - 'a'.toNat + 10)
    else if 'A' ≤ c && c ≤ 'F' then some (c.toNat - 'A'.toNat + 10)
    else none
  value.filter (· < base)

/-- How many digits a number may have, how large it may be and how it may begin. -/
structure NumberForm where
  /-- The base, 10 or 16. -/
  base : Nat
  /-- The most digits allowed, any number if there is no bound. -/
  maxDigits : Option Nat
  /-- Whether a number of several digits may begin with a zero. -/
  leadingZero : Bool
  /-- The first number that is too large. -/
  bound : Nat

/-- Reads the longest run of digits as a number. -/
def number (form : NumberForm) (text : List Char) : Option (Nat × List Char) :=
  let digits := text.takeWhile fun c => (digitValue? form.base c).isSome
  let value := digits.foldl (fun n c => n * form.base + (digitValue? form.base c).getD 0) 0
  let tooLong := match form.maxDigits with
    | some most => most < digits.length
    | none => false
  let badZero := !form.leadingZero && digits.head? == some '0' && 1 < digits.length
  if digits.isEmpty || tooLong || badZero || form.bound ≤ value then none
  else some (value, text.drop digits.length)

/-- An octet of an IPv4 address. -/
def octetForm : NumberForm := ⟨10, some 3, false, 256⟩

/-- A group of an IPv6 address. -/
def groupForm : NumberForm := ⟨16, some 4, true, 65536⟩

/-- A port. -/
def portForm : NumberForm := ⟨10, none, true, 65536⟩

/-- An interface number. -/
def scopeForm : NumberForm := ⟨10, none, true, UInt32.size⟩

/-- Reads one given character. -/
def char (c : Char) : List Char → Option (Unit × List Char)
  | x :: rest => if x = c then some ((), rest) else none
  | [] => none

/-- Reads four octets in the dotted form. -/
def octets (text : List Char) : Option ((UInt8 × UInt8 × UInt8 × UInt8) × List Char) := do
  let (a, text) ← number octetForm text
  let (_, text) ← char '.' text
  let (b, text) ← number octetForm text
  let (_, text) ← char '.' text
  let (c, text) ← number octetForm text
  let (_, text) ← char '.' text
  let (d, text) ← number octetForm text
  return ((.ofNat a, .ofNat b, .ofNat c, .ofNat d), text)

/-- Reads a colon, except in front of the first item. -/
def separator (first : Bool) (text : List Char) : Option (Unit × List Char) :=
  if first then some ((), text) else char ':' text

/-- The two groups that hold four octets. -/
def groupsOfOctets : UInt8 × UInt8 × UInt8 × UInt8 → List UInt16
  | (a, b, c, d) => [a.toUInt16 <<< 8 ||| b.toUInt16, c.toUInt16 <<< 8 ||| d.toUInt16]

/-- Reads as many groups as there are, at most `room`; four octets may stand for the last two. Gives
the groups and whether they ended in octets. -/
def groups (first : Bool) : (room : Nat) → List Char → (List UInt16 × Bool) × List Char
  | 0, text => (([], false), text)
  | room + 1, text =>
    let embedded := if room = 0 then none else do
      let (_, rest) ← separator first text
      octets rest
    match embedded with
    | some (value, rest) => ((groupsOfOctets value, true), rest)
    | none =>
      let group := do
        let (_, rest) ← separator first text
        number groupForm rest
      match group with
      | none => (([], false), text)
      | some (value, rest) =>
        let ((more, ended), rest) := groups false room rest
        ((.ofNat value :: more, ended), rest)

/-- Reads an IPv6 address: eight groups, or fewer around one pair of colons. -/
def v6Address (text : List Char) : Option (List UInt16 × List Char) := do
  let ((front, ended), text) := groups true 8 text
  if front.length = 8 then return (front, text)
  if ended then none
  let (_, text) ← char ':' text
  let (_, text) ← char ':' text
  let ((back, _), text) := groups true (7 - front.length) text
  return (front ++ List.replicate (8 - front.length - back.length) 0 ++ back, text)

/-- Reads a colon and a port. -/
def portNumber (text : List Char) : Option (UInt16 × List Char) := do
  let (_, text) ← char ':' text
  let (port, text) ← number portForm text
  return (.ofNat port, text)

/-- Reads an IPv4 endpoint. -/
def v4Endpoint (text : List Char) : Option (Endpoint × List Char) := do
  let ((a, b, c, d), text) ← octets text
  let (port, text) ← portNumber text
  return (v4 a b c d port, text)

/-- Reads a percent sign and an interface number, zero when there is none. -/
def scopeNumber (text : List Char) : UInt32 × List Char :=
  match (do let (_, rest) ← char '%' text; number scopeForm rest) with
  | some (scope, rest) => (.ofNat scope, rest)
  | none => (0, text)

/-- Reads an IPv6 endpoint. -/
def v6Endpoint (text : List Char) : Option (Endpoint × List Char) := do
  let (_, text) ← char '[' text
  let (address, text) ← v6Address text
  let (scope, text) := scopeNumber text
  let (_, text) ← char ']' text
  let (port, text) ← portNumber text
  return (v6 address scope port, text)

/-- The endpoint that the whole text spells, if any. -/
def parse? (text : String) : Option Endpoint :=
  match v4Endpoint text.toList with
  | some (endpoint, []) => some endpoint
  | _ =>
    match v6Endpoint text.toList with
    | some (endpoint, []) => some endpoint
    | _ => none

end PeerNet.Endpoint
