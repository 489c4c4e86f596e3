import PeerNet.Config.Toml.Document

/-!
# Configuration values

Values come from several sources. A value knows where it comes from, if it was taken over as it is;
a table that several sources may add to comes from nowhere. Names in such tables are in lower case.

`Node.insert` adds a value under a name, merging tables, and `Node.put` does so at the end of a
path; what stands in the way is replaced.
-/

namespace PeerNet.Config

/-- A value of a configuration. -/
inductive Value where
  /-- No value. -/
  | null
  /-- A truth value. -/
  | bool (value : Bool)
  /-- An integer. -/
  | integer (value : Int)
  /-- A number with a fraction. -/
  | float (value : Binary64)
  /-- A text. -/
  | text (value : String)
  /-- A list; every item has an origin. -/
  | list (items : List (Option String × Value))
  /-- A table; every entry has an origin. -/
  | table (entries : List (String × Option String × Value))
  deriving Inhabited, Repr

/-- A value with its origin. -/
abbrev Node := Option String × Value

/-- The value of a scalar. -/
def Value.ofScalar : Toml.Scalar → Value
  | .text value => .text value
  | .integer value => .integer value
  | .float value => .float value
  | .bool value => .bool value

mutual

/-- The value of an item of a document, everything inside it coming from `origin`. -/
def Value.ofItem (origin : String) : Toml.Item → Value
  | .scalar value => .ofScalar value
  | .list items => .list (Value.ofItems origin items)
  | .table _ entries => .table (Value.ofEntries origin entries)
  | .tables elements => .list (Value.ofElements origin elements).reverse

/-- The values of a list. -/
def Value.ofItems (origin : String) : List Toml.Item → List Node
  | [] => []
  | item :: rest => (some origin, Value.ofItem origin item) :: Value.ofItems origin rest

/-- The values of a table. -/
def Value.ofEntries (origin : String) :
    List (String × Toml.Item) → List (String × Option String × Value)
  | [] => []
  | (name, item) :: rest =>
    (name, some origin, Value.ofItem origin item) :: Value.ofEntries origin rest

/-- The values of a list of tables. -/
def Value.ofElements (origin : String) : List (List (String × Toml.Item)) → List Node
  | [] => []
  | entries :: rest =>
    (some origin, .table (Value.ofEntries origin entries)) :: Value.ofElements origin rest

end

/-! ## Names and paths -/

/-- A name in lower case. Of the characters outside ASCII only the kelvin sign has a lower case
inside it. -/
def lowerCase (name : String) : String :=
  name.map fun c => if c = '\u212A' then 'k' else c.toLower

/-- A step from a value to one inside it. -/
inductive PathStep where
  /-- To the entry with this name. -/
  | name (name : String)
  /-- To the item with this index, counted from the end if negative. -/
  | index (index : Int)
  deriving DecidableEq, Repr

/-- Whether a character may stand in a step of a path. -/
def isPathCharacter (c : Char) : Bool := c.isAlphanum || c = ' ' || c = '_' || c = '-'

/-- Reads an index up to the closing bracket. -/
def pathIndex (text : List Char) : Option (Int × List Char) :=
  let text := text.dropWhile (· = ' ')
  let (negative, text) := match text with
    | '-' :: rest => (true, rest)
    | '+' :: rest => (false, rest)
    | _ => (false, text)
  let digits := text.takeWhile Char.isDigit
  let n : Int := Toml.valueOf 10 digits
  match (text.dropWhile Char.isDigit).dropWhile (· = ' ') with
  | ']' :: rest => if digits.isEmpty then none else some (if negative then -n else n, rest)
  | _ => none

/-- Reads the steps after the first one; `fuel` bounds their number. -/
def pathSteps : (fuel : Nat) → List Char → Option (List PathStep)
  | _, [] => some []
  | 0, _ => none
  | fuel + 1, '.' :: rest =>
    let name := rest.takeWhile isPathCharacter
    if name.isEmpty then none
    else
      (pathSteps fuel (rest.dropWhile isPathCharacter)).map fun steps =>
        .name (String.ofList name) :: steps
  | fuel + 1, '[' :: rest =>
    match pathIndex rest with
    | some (index, rest) => (pathSteps fuel rest).map fun steps => .index index :: steps
    | none => none
  | _, _ => none

/-- The path that a name spells, with points and brackets. A name that spells none is a path of one
step. -/
def pathOf (name : String) : List PathStep :=
  let text := name.toList
  let first := text.takeWhile isPathCharacter
  let steps :=
    if first.isEmpty then none else pathSteps text.length (text.dropWhile isPathCharacter)
  match steps with
  | some steps => .name (String.ofList first) :: steps
  | none => [.name name]

/-! ## Merging -/

/-- The entries of a table. -/
abbrev Fields := List (String × Option String × Value)

/-- The fields with a value for a name. -/
def Fields.set (fields : Fields) (name : String) (node : Node) : Fields :=
  if (fields.lookup name).isSome then
    fields.map fun field => if field.1 = name then (name, node) else field
  else fields ++ [(name, node)]

namespace Node

/-- A table without entries, from nowhere. -/
def emptyTable : Node := (none, .table [])

/-- The table that a value is, or an empty one in its place. -/
def asTable : Node → Option String × Fields
  | (origin, .table fields) => (origin, fields)
  | _ => (none, [])

/-- The list that a value is, or an empty one in its place. -/
def asList : Node → Option String × List Node
  | (origin, .list items) => (origin, items)
  | _ => (none, [])

mutual

/-- Adds a value from `origin` under a name. The entries of a table are added one by one to the
value that is there. -/
def insert (target : Node) (name : String) (origin : Option String) (value : Value) : Node :=
  let (place, fields) := target.asTable
  let name := lowerCase name
  match value with
  | .table entries =>
    let inner := (fields.lookup name).getD emptyTable
    (place, .table (Fields.set fields name (insertAll inner entries)))
  | _ => (place, .table (Fields.set fields name (origin, value)))

/-- Adds all entries of a table. -/
def insertAll (target : Node) : List (String × Option String × Value) → Node
  | [] => target
  | (name, origin, value) :: rest => insertAll (insert target name origin value) rest

end

/-- The position that an index stands for in a list of this length. -/
def position (index : Int) (length : Nat) : Nat :=
  if 0 ≤ index then index.toNat else length - index.natAbs

/-- A list with the item at a position changed. It is lengthened if need be. -/
def changeAt (items : List Node) (position : Nat) (action : Node → Node) : List Node :=
  let items := items ++ List.replicate (position + 1 - items.length) (none, .null)
  items.modify position action

/-- Changes the value at the end of a path, making tables and lists on the way. -/
def reach (action : Node → Node) : List PathStep → Node → Node
  | [], node => action node
  | .name name :: rest, node =>
    let (place, fields) := node.asTable
    let inner := (fields.lookup name).getD (none, .null)
    (place, .table (Fields.set fields name (reach action rest inner)))
  | .index index :: rest, node =>
    let (place, items) := node.asList
    (place, .list (changeAt items (position index items.length) (reach action rest)))

/-- Adds a value at the end of a path. -/
def put (root : Node) (path : List PathStep) (node : Node) : Node :=
  match path.getLast? with
  | some (.name name) => root.reach (fun parent => parent.insert name node.1 node.2) path.dropLast
  | some (.index index) => root.reach (fun parent =>
      let (place, items) := parent.asList
      (place, .list (changeAt items (position index items.length) fun _ => node))) path.dropLast
  | none => root

end Node

end PeerNet.Config
