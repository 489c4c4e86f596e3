/-!
# Endpoints

An endpoint is an internet address with a port. Two endpoints are the same peer exactly when all
their parts agree: an IPv4 address and its embedding into IPv6 are different peers.

The text of an IPv6 address leaves out its longest run of at least two zero groups, the first of
several equally long ones, and shows an embedded IPv4 address in the dotted form.
-/

namespace PeerNet

/-- An internet address with a port. -/
inductive Endpoint where
  /-- An IPv4 address, as its four octets. -/
  | v4 (a b c d : UInt8) (port : UInt16)
  /-- An IPv6 address, as its eight groups, with the number of the interface it is scoped to,
  zero for none. -/
  | v6 (groups : List UInt16) (scope : UInt32) (port : UInt16)
  deriving DecidableEq, Repr

namespace Endpoint

/-- The port. -/
def port : Endpoint → UInt16
  | v4 _ _ _ _ port => port
  | v6 _ _ port => port

/-- The same address with another port. -/
def withPort (endpoint : Endpoint) (port : UInt16) : Endpoint :=
  match endpoint with
  | v4 a b c d _ => v4 a b c d port
  | v6 groups scope _ => v6 groups scope port

/-- Whether the address is of the IPv4 family. -/
def isV4 : Endpoint → Bool
  | v4 .. => true
  | v6 .. => false

/-- Whether the address is the unspecified one, which stands for every address of the host. -/
def isUnspecified : Endpoint → Bool
  | v4 a b c d _ => a == 0 && b == 0 && c == 0 && d == 0
  | v6 groups _ _ => groups.all (· == 0)

/-- Whether the address is one of the host's own loopback addresses. -/
def isLoopback : Endpoint → Bool
  | v4 a _ _ _ _ => a == 127
  | v6 groups _ _ => groups == [0, 0, 0, 0, 0, 0, 0, 1]

/-- Whether two endpoints have the same address, whatever their ports. -/
def sameAddress (x y : Endpoint) : Bool := x.withPort 0 == y.withPort 0

/-- The first IPv4 loopback address. -/
def localhost (port : UInt16) : Endpoint := v4 127 0 0 1 port

/-- The unspecified IPv4 address. -/
def anywhere (port : UInt16) : Endpoint := v4 0 0 0 0 port

/-! ## Text -/

/-- Four octets in the dotted form. -/
def dotted (a b c d : UInt8) : String :=
  s!"{a.toNat}.{b.toNat}.{c.toNat}.{d.toNat}"

/-- A group in hexadecimal without leading zeros. -/
def groupText (g : UInt16) : String := String.ofList (Nat.toDigits 16 g.toNat)

/-- The groups in hexadecimal with colons between them. -/
def groupsText (groups : List UInt16) : String :=
  String.intercalate ":" (groups.map groupText)

/-- The length of the run of zeros at the front. -/
def leadingZeros (groups : List UInt16) : Nat := (groups.takeWhile (· == 0)).length

/-- Start and length of the longest run of zero groups, the first of several. -/
def longestZeroRun (groups : List UInt16) : Nat × Nat :=
  (List.range groups.length).foldl (fun best start =>
    let length := leadingZeros (groups.drop start)
    if best.2 < length then (start, length) else best) (0, 0)

/-- The text of an IPv6 address. -/
def v6Text (groups : List UInt16) : String :=
  match groups with
  | [0, 0, 0, 0, 0, 0xFFFF, hi, lo] =>
    "::ffff:" ++ dotted (hi >>> 8).toUInt8 hi.toUInt8 (lo >>> 8).toUInt8 lo.toUInt8
  | _ =>
    let (start, length) := longestZeroRun groups
    if length < 2 then groupsText groups
    else groupsText (groups.take start) ++ "::" ++ groupsText (groups.drop (start + length))

/-- The text of an endpoint: an IPv6 address stands in brackets, with its scope if it has one. -/
def text : Endpoint → String
  | v4 a b c d port => s!"{dotted a b c d}:{port.toNat}"
  | v6 groups scope port =>
    let scopeText := if scope = 0 then "" else s!"%{scope.toNat}"
    s!"[{v6Text groups}{scopeText}]:{port.toNat}"

instance : ToString Endpoint := ⟨text⟩

end Endpoint

end PeerNet
