import PeerNet.Text.Invisible

/-!
# Quoted text

How a text is shown inside a description of a value: between double quotes, with the quote, the
backslash and a few controls written as two characters, and every other character without a shape of
its own written as its code point in hexadecimal.
-/

namespace PeerNet.Quoted

/-- `n` in hexadecimal with lower case letters and no leading zero. -/
def hex (n : Nat) : List Char := Nat.toDigits 16 n

/-- How one character is written between the quotes. -/
def escape (c : Char) : List Char :=
  if c = '"' then ['\\', '"']
  else if c = '\\' then ['\\', '\\']
  else if c = '\n' then ['\\', 'n']
  else if c = '\r' then ['\\', 'r']
  else if c = '\t' then ['\\', 't']
  else if c = '\x00' then ['\\', '0']
  else if Invisible.isInvisible c then ['\\', 'u', '\x7b'] ++ hex c.toNat ++ ['\x7d']
  else [c]

/-- A text between double quotes. -/
def quote (text : String) : String :=
  String.ofList ('"' :: text.toList.flatMap escape ++ ['"'])

example : quote "a\"b" = "\"a\\\"b\"" := by decide

end PeerNet.Quoted
