import PeerNet.Config.Extract
import PeerNet.Endpoint.Parse

/-!
# Arguments

The arguments of the program are options, then the name of a command, then the options and operands
of the command. An option has a long name after two hyphens, or one letter after one. Several
letters may follow one hyphen; the first that takes a value takes the rest of the argument, or the
next argument. After an argument of two hyphens only operands follow.

A value is looked at when the next option or operand comes, or at the end, so that of two things
that are wrong the first one counts.
-/

namespace PeerNet.CommandLine

/-- The names of the commands. -/
inductive CommandName where
  | printConfig
  | udpEcho
  | udpSend
  | tcpEcho
  deriving DecidableEq, Repr

namespace CommandName

/-- The name as it is given. -/
def text : CommandName → String
  | printConfig => "print-config"
  | udpEcho => "udp-echo"
  | udpSend => "udp-send"
  | tcpEcho => "tcp-echo"

/-- All names. -/
def all : List CommandName := [printConfig, udpEcho, udpSend, tcpEcho]

/-- The command with this name. -/
def ofText? (text : String) : Option CommandName := all.find? fun name => name.text == text

end CommandName

/-- A command. -/
inductive Command where
  /-- Shows the settings. -/
  | printConfig
  /-- Sends every datagram back to where it came from. -/
  | udpEcho
  /-- Sends one datagram and waits for an answer for some milliseconds. -/
  | udpSend (remote : Endpoint) (message : String) (wait : Nat)
  /-- Sends every package back to where it came from. -/
  | tcpEcho
  deriving DecidableEq, Repr

/-- What the program is asked to do. -/
structure Invocation where
  /-- The file with the settings, if one is given. -/
  configuration : Option String
  /-- The directory for the log. -/
  logDirectory : String
  /-- How much is logged. -/
  verbosity : Nat
  /-- The command. -/
  command : Command
  deriving DecidableEq, Repr

/-- Why there is nothing to do. -/
inductive Refusal where
  /-- The usage was asked for. -/
  | help
  /-- The version was asked for. -/
  | version
  /-- The arguments follow no rule. -/
  | misuse
  deriving DecidableEq, Repr

/-- What a value is for. -/
inductive Slot where
  | configuration
  | logDirectory
  | wait
  | remote
  | message
  deriving DecidableEq, Repr

/-- What an option means. -/
inductive Meaning where
  | help
  | version
  | louder
  | value (slot : Slot)
  deriving DecidableEq, Repr

/-- What was read so far of the arguments of the program, or of a command. -/
structure Progress where
  /-- The values, as they are given. -/
  values : List (Slot × String)
  /-- The value that is read but not looked at, or the option that waits for one. -/
  pending : Option (Slot × Option String)
  /-- How often more log was asked for. -/
  verbosity : Nat
  /-- The number of operands. -/
  operands : Nat
  /-- Whether only operands follow. -/
  operandsOnly : Bool
  deriving DecidableEq, Repr

namespace Progress

/-- Before the first argument. -/
def start : Progress := ⟨[], none, 0, 0, false⟩

/-- Whether an option waits for its value. -/
def awaits (progress : Progress) : Bool :=
  match progress.pending with
  | some (_, none) => true
  | _ => false

/-- Whether a text may be the value for a slot. -/
def fits (slot : Slot) (text : String) : Bool :=
  match slot with
  | .remote => (Endpoint.parse? text).isSome
  | .wait => (Config.Placed.numberOfText? text).isSome
  | .configuration | .logDirectory | .message => true

/-- Keeps a value, if it fits and is the first one for its slot. -/
def keep (progress : Progress) (slot : Slot) (text : String) : Except Refusal Progress :=
  if fits slot text && (progress.values.lookup slot).isNone then
    .ok { progress with values := (slot, text) :: progress.values }
  else .error .misuse

/-- Looks at the value that was read. -/
def close (progress : Progress) : Except Refusal Progress :=
  match progress.pending with
  | none => .ok progress
  | some (_, none) => .error .misuse
  | some (slot, some text) => { progress with pending := none }.keep slot text

/-- An option, with the value that is attached to it. -/
def option (progress : Progress) (meaning : Meaning) (attached : Option String) :
    Except Refusal Progress :=
  match meaning, attached with
  | .value slot, some text => do (← progress.close).keep slot text
  | .value slot, none => do return { ← progress.close with pending := some (slot, none) }
  | _, some _ => .error .misuse
  | .louder, none => do
    let progress ← progress.close
    return { progress with verbosity := progress.verbosity + 1 }
  | .help, none => do
    let _ ← progress.close
    .error .help
  | .version, none => do
    let _ ← progress.close
    .error .version

end Progress

/-- The options and operands of the program or of one of its commands. -/
structure Grammar where
  /-- The options by their long names. -/
  long : List (String × Meaning)
  /-- The options by their letters. -/
  short : List (Char × Meaning)
  /-- The operands in order. -/
  operands : List Slot

namespace Grammar

/-- The options of the program. -/
def program : Grammar where
  long := [("conf", .value .configuration), ("log-dir", .value .logDirectory),
    ("verbose", .louder), ("help", .help), ("version", .version)]
  short := [('c', .value .configuration), ('v', .louder), ('h', .help), ('V', .version)]
  operands := []

/-- The options and operands of a command. -/
def command : CommandName → Grammar
  | .udpSend =>
    ⟨[("wait-ms", .value .wait), ("help", .help)], [('h', .help)], [.remote, .message]⟩
  | .printConfig | .udpEcho | .tcpEcho => ⟨[("help", .help)], [('h', .help)], []⟩

/-- An argument with a long name, perhaps with a value after an equals sign. -/
def longOption (grammar : Grammar) (progress : Progress) (text : List Char) :
    Except Refusal Progress :=
  let name := String.ofList (text.takeWhile (· ≠ '='))
  let attached := match text.dropWhile (· ≠ '=') with
    | '=' :: value => some (String.ofList value)
    | _ => none
  match grammar.long.lookup name with
  | none => .error .misuse
  | some meaning => progress.option meaning attached

/-- An argument with letters after one hyphen. -/
def letters (grammar : Grammar) (progress : Progress) : List Char → Except Refusal Progress
  | [] => .ok progress
  | c :: rest =>
    match grammar.short.lookup c, rest with
    | none, _ => .error .misuse
    | some (.value slot), [] => progress.option (.value slot) none
    | some (.value slot), '=' :: value =>
      progress.option (.value slot) (some (String.ofList value))
    | some (.value slot), value => progress.option (.value slot) (some (String.ofList value))
    | some meaning, rest => do grammar.letters (← progress.option meaning none) rest

/-- An operand. -/
def operand (grammar : Grammar) (progress : Progress) (text : String) : Except Refusal Progress :=
  match grammar.operands[progress.operands]? with
  | none => .error .misuse
  | some slot => do
    let progress ← progress.close
    return { progress with pending := some (slot, some text), operands := progress.operands + 1 }

/-- An argument. -/
def argument (grammar : Grammar) (progress : Progress) (text : String) : Except Refusal Progress :=
  if progress.operandsOnly then grammar.operand progress text
  else
    match text.toList with
    | ['-', '-'] => .ok { progress with operandsOnly := true }
    | '-' :: '-' :: long => grammar.longOption progress long
    | '-' :: c :: rest => grammar.letters progress (c :: rest)
    | _ =>
      match progress.pending with
      | some (slot, none) => .ok { progress with pending := some (slot, some text) }
      | _ => grammar.operand progress text

/-- The arguments of a command. -/
def arguments (grammar : Grammar) (texts : List String) : Except Refusal Progress := do
  (← texts.foldlM grammar.argument .start).close

end Grammar

/-- Reads the arguments of a command. -/
def Command.read (name : CommandName) (texts : List String) : Except Refusal Command := do
  let progress ← (Grammar.command name).arguments texts
  match name with
  | .printConfig => return .printConfig
  | .udpEcho => return .udpEcho
  | .tcpEcho => return .tcpEcho
  | .udpSend =>
    let wait := ((progress.values.lookup .wait).bind Config.Placed.numberOfText?).getD 2000
    let remote := (progress.values.lookup .remote).bind Endpoint.parse?
    match remote, progress.values.lookup .message with
    | some remote, some message => return .udpSend remote message wait
    | _, _ => .error .misuse

/-- The directory for the log unless another is given. -/
def defaultLogDirectory : String := "./logs"

/-- What was asked for by the options of the program and a command. -/
def Invocation.of (progress : Progress) (command : Command) : Except Refusal Invocation := do
  let progress ← progress.close
  return {
    configuration := progress.values.lookup .configuration
    logDirectory := (progress.values.lookup .logDirectory).getD defaultLogDirectory
    verbosity := progress.verbosity
    command := command }

/-- Reads the arguments that come after those that were read. -/
def Invocation.readFrom (progress : Progress) : List String → Except Refusal Invocation
  | [] => Invocation.of progress .printConfig
  | text :: rest => do
    if !progress.operandsOnly && !progress.awaits then
      if text = "help" then
        match rest with
        | [] => throw .help
        | [name] =>
          throw (if name = "help" || (CommandName.ofText? name).isSome then .help else .misuse)
        | _ => throw .misuse
      if let some name := CommandName.ofText? text then
        let command ← Command.read name rest
        return ← Invocation.of progress command
    Invocation.readFrom (← Grammar.program.argument progress text) rest

/-- Reads the arguments of the program. Without a command the settings are shown. -/
def Invocation.read (texts : List String) : Except Refusal Invocation :=
  Invocation.readFrom .start texts

end PeerNet.CommandLine
