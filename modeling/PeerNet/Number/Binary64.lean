/-!
# Binary numbers of double precision

A finite number is a sign, a mantissa of at most 53 bits and a power of two; all arithmetic on it is
exact. Reading a decimal takes the nearest number, the one with an even mantissa of two. Writing
takes the fewest digits that read back, and of these the nearest to the number.
-/

namespace PeerNet

/-- A binary number of double precision. -/
inductive Binary64 where
  /-- `mantissa * 2 ^ exponent`, negative if said so. -/
  | finite (negative : Bool) (mantissa : Nat) (exponent : Int)
  /-- Larger than all finite numbers, or smaller. -/
  | infinite (negative : Bool)
  /-- No number. -/
  | nan
  deriving DecidableEq, Repr

namespace Binary64

/-! ## Reading -/

/-- The quotient rounded to the nearest integer, of two the even one. -/
def roundEven (num den : Nat) : Nat :=
  let quotient := num / den
  let twice := 2 * (num % den)
  if den < twice || (twice = den && quotient % 2 = 1) then quotient + 1 else quotient

/-- `num * 2 ^ shift / den` as a fraction. -/
def scaled (num den : Nat) (shift : Int) : Nat × Nat :=
  if 0 ≤ shift then (num * Nat.pow 2 shift.toNat, den) else (num, den * Nat.pow 2 (-shift).toNat)

/-- The number nearest to `num / den`, neither of them zero. -/
def ofFraction (negative : Bool) (num den : Nat) : Binary64 :=
  let guess : Int := (num.log2 : Int) - den.log2 - 52
  let below := let (n, d) := scaled num den (-guess); n < Nat.pow 2 52 * d
  let exponent := max (if below then guess - 1 else guess) (-1074)
  let (n, d) := scaled num den (-exponent)
  let mantissa := roundEven n d
  let (mantissa, exponent) :=
    if mantissa = Nat.pow 2 53 then (Nat.pow 2 52, exponent + 1) else (mantissa, exponent)
  if 971 < exponent then infinite negative else finite negative mantissa exponent

/-- The number nearest to `digits * 10 ^ exponent`. -/
def ofDecimal (negative : Bool) (digits : Nat) (exponent : Int) : Binary64 :=
  if digits = 0 then finite negative 0 (-1074)
  else
    let magnitude := exponent + (Nat.toDigits 10 digits).length
    if 400 < magnitude then infinite negative
    else if magnitude < -400 then finite negative 0 (-1074)
    else if 0 ≤ exponent then ofFraction negative (digits * Nat.pow 10 exponent.toNat) 1
    else ofFraction negative digits (Nat.pow 10 (-exponent).toNat)

/-! ## Rounding -/

/-- The nearest natural number below `bound`, a half going up; what lies outside becomes the end
that is nearer, and what is no number becomes zero. -/
def toNat (bound : Nat) : Binary64 → Nat
  | nan => 0
  | infinite negative => if negative then 0 else bound - 1
  | finite negative mantissa exponent =>
    if negative then 0
    else if 0 ≤ exponent then min (mantissa * Nat.pow 2 exponent.toNat) (bound - 1)
    else
      let unit := Nat.pow 2 (-exponent).toNat
      min ((2 * mantissa + unit) / (2 * unit)) (bound - 1)

/-! ## Writing -/

/-- A decimal: digits and the power of ten of the last one. -/
abbrev Decimal := Nat × Int

/-- `10 ^ exponent` as a fraction. -/
def powerOfTen (exponent : Int) : Nat × Nat :=
  if 0 ≤ exponent then (Nat.pow 10 exponent.toNat, 1) else (1, Nat.pow 10 (-exponent).toNat)

/-- The decimals with the last digit at `place` on both sides of `num / den` that lie between `low /
den` and `high / den`, the ends allowed if `closed`. The nearer one comes first. -/
def candidates (num den low high : Nat) (closed : Bool) (place : Int) : List Decimal :=
  let (p, q) := powerOfTen place
  let below := num * q / (den * p)
  let inside (n : Nat) : Bool :=
    let value := n * p * den
    let (low, high) := (low * q, high * q)
    if closed then low ≤ value && value ≤ high else low < value && value < high
  let distance (n : Nat) : Int := ((n * p * den : Nat) : Int) - ((num * q : Nat) : Int)
  let order := if (distance (below + 1)).natAbs < (distance below).natAbs
    then [below + 1, below] else [below, below + 1]
  (order.filter fun n => inside n && n ≠ 0).map fun n => (n, place)

/-- The decimal with the fewest digits that reads back as the number, not zero. -/
def shortest (mantissa : Nat) (exponent : Int) : Decimal :=
  -- the number and the ends of what rounds to it, in quarters of its last bit
  let atPower := mantissa = Nat.pow 2 52 && -1074 < exponent
  let (n, d) := scaled 1 1 (exponent - 2)
  let num := 4 * mantissa * n
  let low := (if atPower then 4 * mantissa - 1 else 4 * mantissa - 2) * n
  let high := (4 * mantissa + 2) * n
  let top : Int := ((Nat.toDigits 10 (num / d)).length : Int)
  let places := (List.range 400).map fun (i : Nat) => top - (i : Int)
  let closed := mantissa % 2 = 0
  ((places.findSome? fun place =>
    (candidates num d low high closed place).head?)).getD (0, 0)

/-- Digits with a point in front of the `-place` last ones, without an exponent. -/
def positional (digits : Nat) (place : Int) : String :=
  let text := Nat.toDigits 10 digits
  if 0 ≤ place then String.ofList (text ++ List.replicate place.toNat '0')
  else
    let after := (-place).toNat
    if after < text.length then
      String.ofList (text.take (text.length - after) ++ '.' :: text.drop (text.length - after))
    else String.ofList ('0' :: '.' :: List.replicate (after - text.length) '0' ++ text)

/-- The text of a number. -/
def text : Binary64 → String
  | nan => "NaN"
  | infinite negative => if negative then "-inf" else "inf"
  | finite negative mantissa exponent =>
    let (digits, place) := if mantissa = 0 then (0, 0) else shortest mantissa exponent
    (if negative then "-" else "") ++ positional digits place

end Binary64

end PeerNet
