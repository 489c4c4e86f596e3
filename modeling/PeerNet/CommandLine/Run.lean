import PeerNet.CommandLine.Arguments
import PeerNet.CommandLine.EnvironmentFile
import PeerNet.Tcp.World
import PeerNet.Udp.World

/-!
# Running the program

What the program does with its arguments, the files around it and its environment, on a host that no
route leads from. Before anything else the variables of an environment file are added to the
environment. The settings come from the file that is named, or from the usual one if it is there;
only with a file is the environment looked at.
-/

namespace PeerNet.CommandLine

open Config (Named ServiceSettings)

/-- What comes of running the program. -/
structure Outcome where
  /-- What it tells its caller. -/
  code : Nat
  /-- What it writes. -/
  output : String
  /-- What it complains of. -/
  complaint : String
  /-- The directories inside the one it runs in that it makes, as their paths. -/
  directories : List String
  /-- Whether it waits to be interrupted before it ends. -/
  waits : Bool
  deriving DecidableEq, Repr

/-- The name of the program with its version. -/
def versionText : String := "ytnet 0.1.0\n"

/-- How the program is used. -/
def usage : String :=
  "Usage: ytnet [OPTIONS] [COMMAND]\n\n" ++
  "Commands:\n" ++
  "  print-config  print the effective configuration and exit\n" ++
  "  udp-echo      echo every datagram back to its sender until ctrl-c\n" ++
  "  udp-send      send one datagram and print the reply, if any\n" ++
  "  tcp-echo      echo every framed package back on its connection until ctrl-c\n" ++
  "  help          print this message\n\n" ++
  "Options:\n" ++
  "  -c, --conf <CONF>        path to config file\n" ++
  "      --log-dir <LOG_DIR>  directory of the rolling log files\n" ++
  "  -v, --verbose...         log level (v: info, vv: debug, vvv: trace)\n" ++
  "  -h, --help               print this message\n" ++
  "  -V, --version            print version\n"

/-! ## The log directory -/

/-- The directories that are passed on the way along a path, the parts being in reverse order. -/
def passed (here : List String) : List String → List String
  | [] => []
  | part :: rest =>
    let here := if part = ".." then here.drop 1 else part :: here
    "/".intercalate here.reverse :: passed here rest

/-- The directories that are made so that a path leads somewhere. -/
def madeFor (path : String) : List String :=
  if path.startsWith "/" then [] else passed [] (Config.pathParts path)

/-! ## Settings -/

/-- The file with the settings unless another is named. -/
def usualFile : String := "conf.toml"

/-- The settings of the program. -/
def settings (processors : Nat) (files environment : Named) (configuration : Option String) :
    Except Error ServiceSettings :=
  let default := ServiceSettings.default processors
  let load (path : String) := Config.loadBytes default files environment (Utf8.encode path)
  match configuration with
  | some path => load path
  | none => if (files.lookup usualFile).isSome then load usualFile else .ok default.verify

/-! ## Commands -/

/-- Starts a server that sends everything back. -/
def startUdpEcho (settings : ServiceSettings) : Except Error Unit :=
  let world := Udp.World.empty.add "echo" (.server (.create settings.udpServer true))
  (world.start "echo").2.getD (.ok ())

/-- Starts a pool that sends everything back. -/
def startTcpEcho (settings : ServiceSettings) : Except Error Unit :=
  let world := Tcp.World.empty.add "echo" (.create settings.tcpPool ⟨true, true⟩)
  (world.start "echo").2.getD (.ok ())

/-- Sends one datagram. -/
def sendOne (settings : ServiceSettings) (remote : Endpoint) (message : String) :
    Except Error Unit :=
  let world := Udp.World.empty.add "send" (.client (.create settings.udpClient true))
  let (world, _) := world.start "send"
  (Udp.World.send world "send" remote (Utf8.encode message)).2.getD (.ok ())

/-- The outcome of a program that has come so far as to make the directory of its log. -/
def Outcome.of (invocation : Invocation) (result : Except Error String) (waits : Bool) : Outcome :=
  match result with
  | .ok output => ⟨0, output, "", madeFor invocation.logDirectory, waits⟩
  | .error error => ⟨1, "", error.message, madeFor invocation.logDirectory, false⟩

/-- Does what was asked for. -/
def perform (processors : Nat) (files environment : Named) (invocation : Invocation) : Outcome :=
  match settings processors files environment invocation.configuration with
  | .error error => .of invocation (.error error) false
  | .ok settings =>
    match invocation.command with
    | .printConfig => .of invocation (.ok (settings.listing.block 0 ++ "\n")) false
    | .udpEcho => .of invocation ((startUdpEcho settings).map fun _ => "") true
    | .tcpEcho => .of invocation ((startTcpEcho settings).map fun _ => "") true
    | .udpSend remote message _ =>
      .of invocation ((sendOne settings remote message).map fun _ => "") false

/-- The file that adds to the environment. -/
def environmentFile : String := ".env"

/-- Runs the program on a machine with this number of processors, in a directory with these files.
-/
def run (processors : Nat) (files environment : Named) (arguments : List String) : Outcome :=
  let environment := match files.lookup environmentFile with
    | some text => EnvironmentFile.apply environment text
    | none => environment
  match Invocation.read arguments with
  | .error .help => ⟨0, usage, "", [], false⟩
  | .error .version => ⟨0, versionText, "", [], false⟩
  | .error .misuse => ⟨2, "", usage, [], false⟩
  | .ok invocation => perform processors files environment invocation

end PeerNet.CommandLine
