import PeerNet.Endpoint.Basic
import PeerNet.Text.Quoted

/-!
# Listings of settings

A listing shows a tree of named settings. On one line, the fields of a record follow its name
between braces; over several lines, every field has a line of its own, indented by four spaces for
each record around it, and ends in a comma.
-/

namespace PeerNet.Config

/-- A tree of named settings. -/
inductive Listing where
  /-- A number. -/
  | number (value : Nat)
  /-- A text. -/
  | text (value : String)
  /-- An endpoint. -/
  | endpoint (value : Endpoint)
  /-- A named record of settings. -/
  | record (name : String) (fields : List (String × Listing))
  deriving Repr

namespace Listing

mutual

/-- A listing on one line. -/
def line : Listing → String
  | number value => toString value
  | text value => Quoted.quote value
  | endpoint value => value.text
  | record name fields => name ++ " \x7b " ++ ", ".intercalate (lineFields fields) ++ " \x7d"

/-- The fields of a record on one line. -/
def lineFields : List (String × Listing) → List String
  | [] => []
  | (name, value) :: rest => (name ++ ": " ++ value.line) :: lineFields rest

end

/-- The indentation inside `depth` records. -/
def indent (depth : Nat) : String := String.ofList (List.replicate (4 * depth) ' ')

mutual

/-- A listing over several lines inside `depth` records. -/
def block (depth : Nat) : Listing → String
  | number value => toString value
  | text value => Quoted.quote value
  | endpoint value => value.text
  | record name fields =>
    name ++ " \x7b\n" ++ String.join (blockFields depth fields) ++ indent depth ++ "\x7d"

/-- The lines of the fields of a record. -/
def blockFields (depth : Nat) : List (String × Listing) → List String
  | [] => []
  | (name, value) :: rest =>
    (indent (depth + 1) ++ name ++ ": " ++ value.block (depth + 1) ++ ",\n")
      :: blockFields depth rest

end

end Listing

end PeerNet.Config
