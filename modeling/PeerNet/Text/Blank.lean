/-!
# Blank characters

The characters with the property White_Space: those that separate words without being seen.
-/

namespace PeerNet

/-- Whether a character is blank. -/
def isBlank (c : Char) : Bool :=
  ('\t' ≤ c && c ≤ '\r') || c = ' ' || c = '\u0085' || c = '\u00A0' || c = '\u1680'
    || ('\u2000' ≤ c && c ≤ '\u200A') || c = '\u2028' || c = '\u2029' || c = '\u202F'
    || c = '\u205F' || c = '\u3000'

/-- Characters without the blank ones at the front. -/
def skipBlank (text : List Char) : List Char := text.dropWhile isBlank

/-- Characters without the blank ones at the end. -/
def trimBlank (text : List Char) : List Char := (text.reverse.dropWhile isBlank).reverse

end PeerNet
