import PeerNet.Config.Sources
import PeerNet.Text.Blank

/-!
# Environment files

An environment file sets variables that the environment does not have yet, one a line: a name, an
equals sign and a value, with `export` in front if one likes. A value ends at the first blank
outside quotes; only a comment may follow. Outside single quotes a backslash keeps the next
character from being special, and a dollar sign stands in front of the name of a variable whose
value takes its place. Reading ends at the first line that follows no rule.
-/

namespace PeerNet.CommandLine

open Config (Named)

namespace EnvironmentFile

/-- The value of a variable, the empty text if it has none. -/
def valueOf (environment : Named) (name : String) : String := (environment.lookup name).getD ""

/-- What the next character of a value is taken for. -/
inductive Mode where
  /-- It is part of the value, or special. -/
  | plain
  /-- It comes after a backslash. -/
  | escaped
  /-- It may go on with the name of a variable, whose characters so far are in reverse order. -/
  | name (read : List Char)
  /-- It may go on with the name of a variable in braces. -/
  | braced (read : List Char)
  /-- The value has ended. -/
  | ended
  /-- It is part of a comment. -/
  | comment
  deriving DecidableEq, Repr

/-- A value that is being read. -/
structure Value where
  /-- The characters so far, the last one first. -/
  read : List Char
  /-- The quote that is open. -/
  quote : Option Char
  /-- What the next character is taken for. -/
  mode : Mode
  deriving DecidableEq, Repr

namespace Value

/-- The value before its first character. -/
def start : Value := ⟨[], none, .plain⟩

/-- Adds a character. -/
def push (value : Value) (c : Char) : Value :=
  { value with read := c :: value.read, mode := .plain }

/-- Adds the value of a variable, whose name is in reverse order. -/
def expand (value : Value) (environment : Named) (name : List Char) : Value :=
  { value with
    read := (valueOf environment (String.ofList name.reverse)).toList.reverse ++ value.read
    mode := .plain }

/-- The character that a backslash and this one stand for. -/
def unescape (c : Char) : Option Char :=
  if c = 'n' then some '\n'
  else if c = '\\' || c = '\'' || c = '"' || c = '$' || c = ' ' then some c
  else none

/-- A character outside names, escapes and single quotes. -/
def feedPlain (value : Value) (c : Char) : Value :=
  if c = '$' then { value with mode := .name [] }
  else if c = '\\' then { value with mode := .escaped }
  else if value.quote = some '"' then
    if c = '"' then { value with quote := none } else value.push c
  else if c = '\'' || c = '"' then { value with quote := some c }
  else if c = ' ' || c = '\t' then { value with mode := .ended }
  else value.push c

/-- A character of a value, if it may stand there. -/
def feed (environment : Named) (value : Value) (c : Char) : Option Value :=
  match value.mode with
  | .comment => some value
  | .ended =>
    if c = ' ' || c = '\t' then some value
    else if c = '#' then some { value with mode := .comment }
    else none
  | .escaped => (unescape c).map value.push
  | .name read =>
    if c.isAlphanum then some { value with mode := .name (c :: read) }
    else if c = '\x7b' && read.isEmpty then some { value with mode := .braced [] }
    else
      let value := value.expand environment read
      some (if c = '$' then { value with mode := .name [] } else value.push c)
  | .braced read =>
    if c = '\x7d' then some (value.expand environment read)
    else some { value with mode := .braced (c :: read) }
  | .plain =>
    if value.quote = some '\'' then
      some (if c = '\'' then { value with quote := none } else value.push c)
    else some (value.feedPlain c)

/-- The text of a value at the end of its line, if it may end there. -/
def finish (environment : Named) (value : Value) : Option String :=
  match value.quote, value.mode with
  | some _, _ | _, .braced _ => none
  | none, .name name => some (String.ofList (value.expand environment name).read.reverse)
  | none, _ => some (String.ofList value.read.reverse)

end Value

/-- Reads a value. -/
def value (environment : Named) (text : List Char) : Option String :=
  (text.foldlM (Value.feed environment) .start).bind (Value.finish environment)

/-- Whether a character may stand in a name, at its beginning or later. -/
def isNameCharacter (first : Bool) (c : Char) : Bool :=
  if first then c.isAlpha || c = '_' else c.isAlphanum || c = '_' || c = '.'

/-- Reads a name and the blanks after it. -/
def name (text : List Char) : Option (String × List Char) :=
  match text with
  | c :: _ =>
    if isNameCharacter true c then
      some (String.ofList (text.takeWhile (isNameCharacter false)),
        skipBlank (text.dropWhile (isNameCharacter false)))
    else none
  | [] => none

/-- Reads an equals sign, the blanks after it, and a value. -/
def assignment (environment : Named) (key : String) : List Char → Option (String × String)
  | '=' :: rest =>
    match skipBlank rest with
    | [] | '#' :: _ => some (key, "")
    | text => (value environment text).map fun text => (key, text)
  | _ => none

/-- Reads a line: nothing, or a variable with its value. -/
def line (environment : Named) (text : List Char) : Option (Option (String × String)) :=
  match skipBlank (trimBlank text) with
  | [] | '#' :: _ => some none
  | text =>
    match name text with
    | none => none
    | some (key, rest) =>
      if key = "export" && rest.head? ≠ some '=' then
        ((name rest).bind fun (key, rest) => assignment environment key rest).map some
      else (assignment environment key rest).map some

/-- Sets the variables of the lines that the environment does not have. -/
def setAll (environment : Named) : List (List Char) → Named
  | [] => environment
  | text :: rest =>
    match line environment text with
    | none => environment
    | some none => setAll environment rest
    | some (some (key, text)) =>
      if (environment.lookup key).isSome then setAll environment rest
      else setAll (environment ++ [(key, text)]) rest

/-- The environment with the variables of a file. -/
def apply (environment : Named) (text : String) : Named :=
  setAll environment ((text.splitOn "\n").map String.toList)

end EnvironmentFile

end PeerNet.CommandLine
