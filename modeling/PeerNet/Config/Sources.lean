import PeerNet.Config.Extract
import PeerNet.Error
import PeerNet.Text.Utf8

/-!
# Where configurations come from

A configuration is loaded from a file, with settings from the environment over it. A file is found
by its name, or by its name with the extension of a known format; its format follows from its
extension. A variable of the environment counts if its name begins with the prefix of the program;
the rest of its name is a path, with two underscores between the steps.

`load` gives the verified settings, or what went wrong.
-/

namespace PeerNet.Config

/-- Texts by name. -/
abbrev Named := List (String × String)

/-! ## Files -/

/-- The extensions of files that may hold a configuration, the first one being the one that is
read. -/
def knownExtensions : List String := ["toml", "json", "yaml", "yml", "ini", "ron", "json5"]

/-- The parts of a path, without those that lead nowhere. -/
def pathParts (path : String) : List String :=
  (path.splitOn "/").filter fun part => part ≠ "" && part ≠ "."

/-- The path in its simplest form. -/
def simplePath (path : String) : String :=
  (if path.startsWith "/" then "/" else "") ++ "/".intercalate (pathParts path)

/-- The extension of a file: what follows the last point of its name, unless the name begins with
it. -/
def extension? (path : String) : Option String :=
  match (pathParts path).getLast? with
  | none => none
  | some name =>
    match name.splitOn "." with
    | [_] => none
    | [""  , _] => none
    | parts => parts.getLast?

/-- The names under which a configuration is looked for. -/
def fileNames (path : String) : List String :=
  let path := simplePath path
  if path = "" then [] else path :: knownExtensions.map fun extension => s!"{path}.{extension}"

/-- Reads the configuration file that a path stands for, of those that there are. Gives the name of
the file and its settings. -/
def readFile (files : Named) (path : String) : Except Fault (String × Toml.Entries) :=
  let found := (fileNames path).findSome? fun name =>
    (files.lookup name).map fun text => (name, text)
  match found with
  | none => .error .unavailable
  | some (name, text) =>
    match extension? name with
    | none => .error .unavailable
    | some extension =>
      if extension ∉ knownExtensions then .error .unavailable
      else if extension ≠ "toml" then .error .unreadable
      else
        match Toml.Document.parse text with
        | some entries => .ok (name, entries)
        | none => .error .unreadable

/-! ## The environment -/

/-- What the names of variables begin with that are settings. -/
def variablePrefix : String := "ytnet_"

/-- The characters with every two underscores in a row replaced by a point. -/
def pointed : List Char → List Char
  | '_' :: '_' :: rest => '.' :: pointed rest
  | c :: rest => c :: pointed rest
  | [] => []

/-- The path of the setting that a variable is, if it is one. -/
def variablePath? (name : String) : Option (List PathStep) :=
  let lower := (lowerCase name).toList
  let start := variablePrefix.toList
  if start.isPrefixOf lower then some (pathOf (String.ofList (pointed (lower.drop start.length))))
  else none

/-- Puts the settings of the environment over others. -/
def overlayEnvironment (root : Node) (environment : Named) : Node :=
  environment.foldl (fun root (name, text) =>
    match variablePath? name with
    | some path => root.put path (some "the environment", .text text)
    | none => root) root

/-! ## Loading -/

/-- Reads the settings of a service from a file and the environment, and keeps them in their
ranges. -/
def load (default : ServiceSettings) (files environment : Named) (path : String) :
    Except Fault ServiceSettings :=
  match readFile files path with
  | .error fault => .error fault
  | .ok (name, entries) =>
    let root := (Value.ofEntries name entries).foldl (fun root (key, node) =>
      root.put (pathOf key) node) Node.emptyTable
    let root := overlayEnvironment root environment
    (lenient.service default ⟨"", root.1, root.2⟩).map ServiceSettings.verify

/-- Loads from a path that is given by its bytes. -/
def loadBytes (default : ServiceSettings) (files environment : Named) (path : Bytes) :
    Except Error ServiceSettings :=
  match Utf8.decode path with
  | .error _ => .error (.invalidValue s!"config file path: {Utf8.decodeLossy path}")
  | .ok path =>
    match load default files environment path with
    | .ok settings => .ok settings
    | .error fault => .error (.config fault)

end PeerNet.Config
