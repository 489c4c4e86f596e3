/-!
# Texts and keys of the configuration format

A text stands between quotes of one of two kinds: between double quotes the backslash introduces
escapes, between single quotes every character stands for itself. Three quotes of a kind begin a
text over several lines; a first line end is not part of it, and up to two quotes may stand anywhere
inside and before the three that end it.

`scan` reads any of the four kinds as a machine over the characters, with a mode for what it is in
the middle of. Readers give the value with the characters that are left, or nothing if the text does
not follow the format.
-/

namespace PeerNet.Config.Toml

/-- Whether a character may stand in a comment: no control but the tab. -/
def isPrintable (c : Char) : Bool := c = '\t' || (' ' ≤ c && c ≤ '~') || '\x80' ≤ c

/-- Whether a character is a space or a tab. -/
def isBlank (c : Char) : Bool := c = ' ' || c = '\t'

/-- The text after blanks. -/
def skipBlanks (text : List Char) : List Char := text.dropWhile isBlank

/-- The text after blanks, line ends and comments. -/
def skipLines (inComment : Bool) : List Char → List Char
  | [] => []
  | c :: rest =>
    if inComment && isPrintable c then skipLines true rest
    else if isBlank c || c = '\n' then skipLines false rest
    else if c = '\r' then
      match rest with
      | '\n' :: rest' => skipLines false rest'
      | _ => c :: rest
    else if c = '#' then skipLines true rest
    else c :: rest

/-- The text after the rest of a line: blanks, a comment, and the line end unless the text ends. -/
def endLine (text : List Char) : Option (List Char) :=
  let text := skipBlanks text
  let text := match text with
    | '#' :: rest => rest.dropWhile isPrintable
    | _ => text
  match text with
  | [] => some []
  | '\n' :: rest => some rest
  | '\r' :: '\n' :: rest => some rest
  | _ => none

/-! ## Texts -/

/-- The kinds of texts. -/
structure Style where
  /-- The quote. -/
  quote : Char
  /-- Whether the backslash introduces escapes. -/
  escapes : Bool
  /-- Whether the text may have several lines. -/
  lines : Bool
  deriving DecidableEq, Repr

/-- What a reader of a text is in the middle of. -/
inductive Mode where
  /-- Nothing. -/
  | plain
  /-- An escape, after the backslash. -/
  | escape
  /-- An escape by code point: how many digits are missing, and the value so far. -/
  | code (missing value : Nat)
  /-- An escaped line end, before the line end. -/
  | beforeLineEnd
  /-- An escaped line end, after the line end, where blanks and line ends are left out. -/
  | afterLineEnd
  /-- A line end of two characters, after the first. -/
  | lineEnd (next : Mode)
  /-- A run of quotes. -/
  | quotes (count : Nat)
  deriving DecidableEq, Repr

/-- What one character leads to. -/
inductive Move where
  /-- The text goes on; these are its characters so far, the last one first. -/
  | on (mode : Mode) (done : List Char)
  /-- The text ended with this character, or before it. -/
  | stop (before : Bool) (done : List Char)
  /-- The character may not stand here. -/
  | fail

/-- The character of a one letter escape. -/
def escapeOf? (c : Char) : Option Char :=
  if c = 'b' then some '\x08'
  else if c = 't' then some '\t'
  else if c = 'n' then some '\n'
  else if c = 'f' then some '\x0C'
  else if c = 'r' then some '\r'
  else if c = '"' then some '"'
  else if c = '\\' then some '\\'
  else none

/-- The value of a hexadecimal digit. -/
def hexValue? (c : Char) : Option Nat :=
  if c.isDigit then some (c.toNat - '0'.toNat)
  else if 'a' ≤ c && c ≤ 'f' then some (c.toNat - 'a'.toNat + 10)
  else if 'A' ≤ c && c ≤ 'F' then some (c.toNat - 'A'.toNat + 10)
  else none

/-- What a character leads to in the middle of nothing. -/
def plainMove (style : Style) (done : List Char) (c : Char) : Move :=
  if c = style.quote then if style.lines then .on (.quotes 1) done else .stop false done
  else if c = '\\' && style.escapes then .on .escape done
  else if isPrintable c then .on .plain (c :: done)
  else if style.lines && c = '\n' then .on .plain ('\n' :: done)
  else if style.lines && c = '\r' then .on (.lineEnd .plain) ('\n' :: done)
  else .fail

/-- What a character leads to. -/
def move (style : Style) (mode : Mode) (done : List Char) (c : Char) : Move :=
  match mode with
  | .plain => plainMove style done c
  | .escape =>
    match escapeOf? c with
    | some x => .on .plain (x :: done)
    | none =>
      if c = 'u' then .on (.code 4 0) done
      else if c = 'U' then .on (.code 8 0) done
      else if !style.lines then .fail
      else if isBlank c then .on .beforeLineEnd done
      else if c = '\n' then .on .afterLineEnd done
      else if c = '\r' then .on (.lineEnd .afterLineEnd) done
      else .fail
  | .code missing value =>
    match hexValue? c with
    | none => .fail
    | some digit =>
      let value := value * 16 + digit
      if 1 < missing then .on (.code (missing - 1) value) done
      else if value.isValidChar then .on .plain (Char.ofNat value :: done)
      else .fail
  | .beforeLineEnd =>
    if isBlank c then .on .beforeLineEnd done
    else if c = '\n' then .on .afterLineEnd done
    else if c = '\r' then .on (.lineEnd .afterLineEnd) done
    else .fail
  | .afterLineEnd =>
    if isBlank c || c = '\n' then .on .afterLineEnd done
    else if c = '\r' then .on (.lineEnd .afterLineEnd) done
    else plainMove style done c
  | .lineEnd next => if c = '\n' then .on next done else .fail
  | .quotes count =>
    if c = style.quote then
      if count = 4 then .stop false (style.quote :: style.quote :: done)
      else .on (.quotes (count + 1)) done
    else if 3 ≤ count then .stop true (List.replicate (count - 3) style.quote ++ done)
    else plainMove style (List.replicate count style.quote ++ done) c

/-- Reads a text up to its end. -/
def scan (style : Style) (mode : Mode) (done : List Char) : List Char → Option (String × List Char)
  | [] =>
    match mode with
    | .quotes count =>
      if 3 ≤ count then
        some (String.ofList (List.replicate (count - 3) style.quote ++ done).reverse, [])
      else none
    | _ => none
  | c :: rest =>
    match move style mode done c with
    | .on mode done => scan style mode done rest
    | .stop before done =>
      some (String.ofList done.reverse, if before then c :: rest else rest)
    | .fail => none

/-- The text after a line end at the front, if there is one. -/
def skipLineEnd : List Char → List Char
  | '\n' :: rest => rest
  | '\r' :: '\n' :: rest => rest
  | text => text

/-- Reads a text of any kind. -/
def quoted (text : List Char) : Option (String × List Char) :=
  match text with
  | '"' :: '"' :: '"' :: rest => scan ⟨'"', true, true⟩ .plain [] (skipLineEnd rest)
  | '\'' :: '\'' :: '\'' :: rest => scan ⟨'\'', false, true⟩ .plain [] (skipLineEnd rest)
  | '"' :: rest => scan ⟨'"', true, false⟩ .plain [] rest
  | '\'' :: rest => scan ⟨'\'', false, false⟩ .plain [] rest
  | _ => none

/-! ## Keys -/

/-- Whether a character may stand in a key without quotes. -/
def isBare (c : Char) : Bool := c.isAlphanum || c = '_' || c = '-'

/-- Reads one part of a key. -/
def keyPart (text : List Char) : Option (String × List Char) :=
  match text with
  | '"' :: rest => scan ⟨'"', true, false⟩ .plain [] rest
  | '\'' :: rest => scan ⟨'\'', false, false⟩ .plain [] rest
  | _ =>
    let name := text.takeWhile isBare
    if name.isEmpty then none else some (String.ofList name, text.dropWhile isBare)

/-- The number of parts from which on a key is too deep. -/
def depthLimit : Nat := 80

/-- Reads parts of a key with points between them, at most `room`. -/
def keyParts : (room : Nat) → List Char → Option (List String × List Char)
  | 0, _ => none
  | room + 1, text =>
    match keyPart (skipBlanks text) with
    | none => none
    | some (part, rest) =>
      match skipBlanks rest with
      | '.' :: rest =>
        match keyParts room rest with
        | none => none
        | some (parts, rest) => some (part :: parts, rest)
      | rest => some ([part], rest)

/-- Reads a key, with the blanks around it. -/
def key (text : List Char) : Option (List String × List Char) := keyParts (depthLimit - 1) text

example : quoted "\"a\\u00e9\" x".toList = some ("aé", " x".toList) := by decide

example : quoted "'''\na''''' x".toList = some ("a''", " x".toList) := by decide

end PeerNet.Config.Toml
