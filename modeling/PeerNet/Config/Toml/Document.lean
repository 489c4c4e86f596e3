import PeerNet.Config.Toml.Scalar

/-!
# Documents of the configuration format

A document is a table of settings. Lines of the form `key = value` add to the current table, a
header in brackets makes another table the current one, and a header in double brackets adds a table
to a list of tables. Every table is defined once: by a header, by keys with points in them, or
between braces; only a table that so far was there for the sake of its parts can still get a header
of its own.

`Document.parse` gives the settings of a document, or nothing if it does not follow the format.
-/

namespace PeerNet.Config.Toml

/-- How a table came to be. -/
inductive TableKind where
  /-- Between braces; nothing is added to it any more. -/
  | closed
  /-- By a header. -/
  | header
  /-- For the sake of a table inside it. -/
  | implied
  /-- By a key with points. -/
  | dotted
  deriving DecidableEq, Repr

/-- An item of a document. -/
inductive Item where
  /-- A value without parts. -/
  | scalar (value : Scalar)
  /-- A list between brackets. -/
  | list (items : List Item)
  /-- A table. -/
  | table (kind : TableKind) (entries : List (String × Item))
  /-- A list of tables, each with a header of its own, the last one first. -/
  | tables (elements : List (List (String × Item)))
  deriving Repr

/-- The entries of a table. -/
abbrev Entries := List (String × Item)

namespace Entries

/-- The item with this name. -/
def find? (entries : Entries) (name : String) : Option Item := entries.lookup name

/-- The entries with an item for a name, instead of the one it had. -/
def set (entries : Entries) (name : String) (item : Item) : Entries :=
  if (entries.lookup name).isSome then
    entries.map fun entry => if entry.1 = name then (name, item) else entry
  else entries ++ [(name, item)]

/-- The entries without a name. -/
def without (entries : Entries) (name : String) : Entries :=
  entries.filter fun entry => entry.1 ≠ name

/-- Changes the table at the end of a path, and makes the tables on the way that are missing, of
kind `fresh`. A key with points (`fresh` is `dotted`) passes no table with a header. The change is
told whether the table came to be by a key with points, and may give a result. -/
def change {α : Type} (fresh : TableKind) (action : Bool → Entries → Option (α × Entries))
    (isDotted : Bool) (entries : Entries) : List String → Option (α × Entries)
  | [] => action isDotted entries
  | name :: path =>
    match entries.find? name with
    | none =>
      (change fresh action (fresh = .dotted) [] path).map fun (result, inner) =>
        (result, entries.set name (.table fresh inner))
    | some (.table kind inner) =>
      if kind = .closed || (fresh = .dotted && kind = .header) then none
      else
        (change fresh action (kind = .dotted) inner path).map fun (result, inner) =>
          (result, entries.set name (.table kind inner))
    | some (.tables (last :: others)) =>
      (change fresh action false last path).map fun (result, last) =>
        (result, entries.set name (.tables (last :: others)))
    | some _ => none

/-- Adds an item under a key, whose parts but the last name the tables on the way. Refused if there
is one already, or if the key would add to a table by points that came to be without them. -/
def add (entries : Entries) (path : List String) (name : String) (item : Item) : Option Entries :=
  let added := entries.change .dotted (fun isDotted inner =>
    if isDotted = path.isEmpty then none
    else if (inner.find? name).isSome then none
    else some ((), inner ++ [(name, item)])) false path
  added.map Prod.snd

end Entries

/-! ## Values -/

/-- A key, split into the tables on the way and the name. -/
def splitKey (parts : List String) : List String × String := (parts.dropLast, parts.getLastD "")

mutual

/-- Reads a value inside at most `depth` lists and tables; `fuel` bounds the number of steps. -/
def value : (fuel depth : Nat) → List Char → Option (Item × List Char)
  | 0, _, _ => none
  | fuel + 1, depth, text =>
    match text, depth with
    | '[' :: _, 0 => none
    | '\x7b' :: _, 0 => none
    | '[' :: rest, depth + 1 =>
      match items fuel depth rest with
      | some (items, ']' :: rest) => some (.list items, rest)
      | _ => none
    | '\x7b' :: rest, depth + 1 =>
      match skipBlanks rest with
      | '\x7d' :: rest => some (.table .closed [], rest)
      | _ =>
        match pairs fuel depth [] rest with
        | some (entries, '\x7d' :: rest) => some (.table .closed entries, rest)
        | _ => none
    | _, _ => (scalar text).map fun (value, rest) => (.scalar value, rest)

/-- Reads the items of a list up to the closing bracket. -/
def items : (fuel depth : Nat) → List Char → Option (List Item × List Char)
  | 0, _, _ => none
  | fuel + 1, depth, text =>
    match skipLines false text with
    | ']' :: rest => some ([], ']' :: rest)
    | text =>
      match value fuel depth text with
      | none => none
      | some (item, rest) =>
        match skipLines false rest with
        | ',' :: rest => (items fuel depth rest).map fun (more, rest) => (item :: more, rest)
        | rest => some ([item], rest)

/-- Reads the entries of a table between braces up to the closing brace, after those in `done`. -/
def pairs : (fuel depth : Nat) → Entries → List Char → Option (Entries × List Char)
  | 0, _, _, _ => none
  | fuel + 1, depth, done, text =>
    match key text with
    | some (parts, '=' :: rest) =>
      match value fuel depth (skipBlanks rest) with
      | none => none
      | some (item, rest) =>
        let (path, name) := splitKey parts
        match Entries.add done path name item with
        | none => none
        | some done =>
          match skipBlanks rest with
          | ',' :: rest => pairs fuel depth done rest
          | rest => some (done, rest)
    | _ => none

end

/-! ## Documents -/

/-- A document that is being read. -/
structure Document where
  /-- The tables that are complete. -/
  root : Entries
  /-- The path of the current table, empty for the document itself. -/
  path : List String
  /-- Whether the current table is an element of a list of tables. -/
  inList : Bool
  /-- The entries of the current table. -/
  current : Entries

namespace Document

/-- The document before its first line. -/
def start : Document := ⟨[], [], false, []⟩

/-- Puts the current table into its place. -/
def close (document : Document) : Option Entries :=
  if document.path.isEmpty then some document.current
  else
    let (path, name) := splitKey document.path
    let closed := document.root.change .implied (fun _ parent =>
      if document.inList then
        match parent.find? name with
        | none => some ((), parent ++ [(name, .tables [document.current])])
        | some (.tables elements) =>
          some ((), parent.set name (.tables (document.current :: elements)))
        | some _ => none
      else some ((), parent ++ [(name, .table .header document.current)])) false path
    closed.map Prod.snd

/-- Makes the table with a header the current one. It may be there already for the sake of a table
inside it. -/
def openTable (document : Document) (parts : List String) : Option Document := do
  let root ← document.close
  let (path, name) := splitKey parts
  let (current, root) ← root.change .implied (fun _ parent =>
    match parent.find? name with
    | none => some ([], parent)
    | some (.table .implied inner) => some (inner, parent.without name)
    | some _ => none) false path
  some ⟨root, parts, false, current⟩

/-- Begins a new element of a list of tables. -/
def openElement (document : Document) (parts : List String) : Option Document := do
  let root ← document.close
  let (path, name) := splitKey parts
  let (_, root) ← root.change .implied (fun _ parent =>
    match parent.find? name with
    | none => some ((), parent ++ [(name, .tables [])])
    | some (.tables _) => some ((), parent)
    | some _ => none) false path
  some ⟨root, parts, true, []⟩

/-- Reads a header or a setting, up to the end of its line. -/
def line (document : Document) (text : List Char) : Option (Document × List Char) :=
  match text with
  | '[' :: '[' :: rest =>
    match key rest with
    | some (parts, ']' :: ']' :: rest) => do
      let rest ← endLine rest
      let document ← document.openElement parts
      some (document, rest)
    | _ => none
  | '[' :: rest =>
    match key rest with
    | some (parts, ']' :: rest) => do
      let rest ← endLine rest
      let document ← document.openTable parts
      some (document, rest)
    | _ => none
  | _ =>
    match key text with
    | some (parts, '=' :: rest) => do
      let (item, rest) ← value (2 * text.length) depthLimit.pred (skipBlanks rest)
      let rest ← endLine rest
      let (path, name) := splitKey parts
      let current ← document.current.add path name item
      some ({ document with current := current }, rest)
    | _ => none

/-- Reads lines to the end of the text; `fuel` bounds their number. -/
def lines : (fuel : Nat) → Document → List Char → Option Entries
  | 0, _, _ => none
  | fuel + 1, document, text =>
    match skipBlanks text with
    | [] => document.close
    | '\n' :: rest => lines fuel document rest
    | '#' :: rest =>
      match endLine ('#' :: rest) with
      | none => none
      | some rest => lines fuel document rest
    | '\r' :: rest =>
      match rest with
      | '\n' :: rest => lines fuel document rest
      | _ => none
    | text =>
      match document.line text with
      | none => none
      | some (document, rest) => lines fuel document rest

/-- The settings of a document. A byte order mark in front of it is left out. -/
def parse (text : String) : Option Entries :=
  let characters := match text.toList with
    | '\uFEFF' :: rest => rest
    | characters => characters
  lines (characters.length + 1) start characters

end Document

end PeerNet.Config.Toml
