import PeerNet.CommandLine.Run

/-!
# The program

Reads the files and the environment that a run depends on, and carries its outcome out.
-/

namespace PeerNet.Main

open Config (Named)

/-- The text of a file, if there is one that is text. -/
def readText (name : String) : IO (Option String) := do
  try
    return some (← IO.FS.readFile name)
  catch _ =>
    return none

/-- The texts of those of the files that there are. -/
def readTexts (names : List String) : IO Named := do
  let texts ← names.mapM fun name => do return (name, ← readText name)
  return texts.filterMap fun (name, text) => text.map fun text => (name, text)

/-- The variables of the environment. -/
def environment : IO Named := do
  let text := (← readText "/proc/self/environ").getD ""
  return (text.splitOn "\x00").filterMap fun entry =>
    match entry.splitOn "=" with
    | name :: rest => if rest.isEmpty then none else some (name, "=".intercalate rest)
    | [] => none

/-- The number of processors. -/
def processors : IO Nat := do
  let text := (← readText "/proc/cpuinfo").getD ""
  return max 1 ((text.splitOn "\n").countP fun line => line.startsWith "processor")

/-- The files that a run with these arguments may read. -/
def filesFor (arguments : List String) : List String :=
  let named := match CommandLine.Invocation.read arguments with
    | .ok invocation => (invocation.configuration.map Config.fileNames).getD []
    | .error _ => []
  [CommandLine.environmentFile, CommandLine.usualFile] ++ named

/-- Waits for somebody to end the program. -/
partial def waitForever : IO Unit := do
  IO.sleep 1000
  waitForever

/-- Runs the program. -/
def run (arguments : List String) : IO UInt32 := do
  let files ← readTexts (filesFor arguments)
  let outcome := CommandLine.run (← processors) files (← environment) arguments
  for directory in outcome.directories do
    IO.FS.createDirAll directory
  IO.print outcome.output
  if outcome.waits then waitForever
  unless outcome.complaint.isEmpty do IO.eprintln outcome.complaint
  return .ofNat outcome.code

end PeerNet.Main

/-- The entry point of the program. -/
def main (arguments : List String) : IO UInt32 := PeerNet.Main.run arguments
