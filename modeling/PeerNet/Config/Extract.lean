import PeerNet.Config.Fault
import PeerNet.Config.Settings
import PeerNet.Config.Value
import PeerNet.Endpoint.Parse

/-!
# Settings from values

Every section of settings is a record of numbers, texts, endpoints and further records. A record is
read from a table by names, or from a list by positions; what is missing keeps its default, and what
has no place in the record is ignored.

How a number, a text or a record is read from a value is up to a `Conversion`. The strict one takes
values of the right type only. The lenient one also converts between numbers and texts, and says
which setting is at fault.
-/

namespace PeerNet.Config

/-- How values of type `ν` are read, with faults of type `ε`. -/
structure Conversion (ν ε : Type) where
  /-- Reads a number of 64 bits. -/
  number : ν → Except ε Nat
  /-- Reads a text. -/
  text : ν → Except ε String
  /-- Reads an endpoint. -/
  endpoint : ν → Except ε Endpoint
  /-- Reads a record of a section with this name and this number of fields: the value of the field
  with a name and a position. -/
  record : String → Nat → ν → Except ε (String → Nat → Option ν)

namespace Conversion

variable {ν ε α : Type}

/-- Reads a field of a record, if it is there. -/
def field (fields : String → Nat → Option ν) (name : String) (position : Nat)
    (read : ν → Except ε α) (default : α) : Except ε α :=
  match fields name position with
  | some value => read value
  | none => .ok default

/-- Reads the settings of the executor. -/
def executor (c : Conversion ν ε) (default : ExecutorSettings) (value : ν) :
    Except ε ExecutorSettings := do
  let fields ← c.record "ExecutorCfg" 3 value
  return {
    threads := ← field fields "threads_num" 0 c.number default.threads
    threadName := ← field fields "thread_name" 1 c.text default.threadName
    shutdownTimeout := ← field fields "shutdown_timeout_ms" 2 c.number default.shutdownTimeout }

/-- Reads the settings of a session over datagrams. -/
def udpSession (c : Conversion ν ε) (default : UdpSessionSettings) (value : ν) :
    Except ε UdpSessionSettings := do
  let fields ← c.record "UdpSessionCfg" 2 value
  return {
    maxPackageSize := ← field fields "max_package_size" 0 c.number default.maxPackageSize
    maxIdle := ← field fields "max_no_data_duration_ms" 1 c.number default.maxIdle }

/-- Reads the settings of a manager of sessions over datagrams, from a section with this name whose
address and limit have these names. -/
def udpManager (c : Conversion ν ε) (section_ address limit : String) (default : UdpManagerSettings)
    (value : ν) : Except ε UdpManagerSettings := do
  let fields ← c.record section_ 4 value
  return {
    bindTo := ← field fields address 0 c.endpoint default.bindTo
    maxSessions := ← field fields limit 1 c.number default.maxSessions
    sweepPeriod := ← field fields "mgr_timer_dt_ms" 2 c.number default.sweepPeriod
    session := ← field fields "session" 3 (c.udpSession .default) default.session }

/-- Reads the settings of clients over datagrams. -/
def udpClient (c : Conversion ν ε) : UdpManagerSettings → ν → Except ε UdpManagerSettings :=
  c.udpManager "UdpClientCfg" "local_ep" "max_client_num"

/-- Reads the settings of a server over datagrams. -/
def udpServer (c : Conversion ν ε) : UdpManagerSettings → ν → Except ε UdpManagerSettings :=
  c.udpManager "UdpServerCfg" "listen_ep" "max_session_num"

/-- Reads the settings of a pool of connections. -/
def tcpPool (c : Conversion ν ε) (default : TcpSettings) (value : ν) : Except ε TcpSettings := do
  let fields ← c.record "TcpPoolCfg" 6 value
  return {
    listenAt := ← field fields "listen_ep" 0 c.endpoint default.listenAt
    maxConnections := ← field fields "max_conn_num" 1 c.number default.maxConnections
    maxBody := ← field fields "max_body_size" 2 c.number default.maxBody
    sweepPeriod := ← field fields "mgr_timer_dt_ms" 3 c.number default.sweepPeriod
    connectTimeout := ← field fields "connect_timeout_ms" 4 c.number default.connectTimeout
    writeBlock := ← field fields "write_block_size" 5 c.number default.writeBlock }

/-- Reads the settings of buffers. -/
def buffer (c : Conversion ν ε) (default : BufferSettings) (value : ν) :
    Except ε BufferSettings := do
  let fields ← c.record "BufferCfg" 1 value
  return { blockSize := ← field fields "block_size" 0 c.number default.blockSize }

/-- Reads the settings of the whole service. -/
def service (c : Conversion ν ε) (default : ServiceSettings) (value : ν) :
    Except ε ServiceSettings := do
  let fields ← c.record "ServiceConfig" 5 value
  return {
    executor := ← field fields "executor" 0 (c.executor default.executor) default.executor
    udpClient := ← field fields "udp_client" 1 (c.udpClient default.udpClient) default.udpClient
    udpServer := ← field fields "udp_server" 2 (c.udpServer default.udpServer) default.udpServer
    tcpPool := ← field fields "tcp_pool" 3 (c.tcpPool default.tcpPool) default.tcpPool
    buffer := ← field fields "buffer" 4 (c.buffer default.buffer) default.buffer }

end Conversion

/-! ## Strict reading -/

/-- Values of the right type only: numbers of 64 bits without a sign, texts, and lists that are not
longer than the record. -/
def strict : Conversion Value Unit where
  number
    | .integer n => if 0 ≤ n ∧ n < UInt64.size then .ok n.toNat else .error ()
    | _ => .error ()
  text
    | .text s => .ok s
    | _ => .error ()
  endpoint
    | .text s =>
      match Endpoint.parse? s with
      | some endpoint => .ok endpoint
      | none => .error ()
    | _ => .error ()
  record _ size
    | .table entries => .ok fun name _ => (entries.lookup name).map Prod.snd
    | .list items =>
      if size < items.length then .error ()
      else .ok fun _ position => (items[position]?).map Prod.snd
    | _ => .error ()

/-! ## Lenient reading -/

/-- A value at a place of a configuration. -/
structure Placed where
  /-- The path to it. -/
  path : String
  /-- Its origin. -/
  origin : Option String
  /-- The value. -/
  value : Value

/-- How a value is called that stands where it should not. -/
def Value.describe : Value → String
  | .null => "unit value"
  | .bool value => s!"boolean `{value}`"
  | .integer value => s!"64-bit integer `{value}`"
  | .float value => s!"floating point `{value.text}`"
  | .text value => s!"string {Quoted.quote value}"
  | .list _ => "sequence"
  | .table _ => "map"

/-- How a value is called that stands where a record should. -/
def Value.describePlain : Value → String
  | .integer value => s!"integer `{value}`"
  | value => value.describe

namespace Placed

/-- The fault of a value of a wrong type. -/
def wrongType (placed : Placed) (expected : String) : Fault :=
  .wrongType placed.value.describe expected (if placed.path = "" then none else some placed.path)
    placed.origin

/-- The number that a text spells. -/
def numberOfText? (text : String) : Option Nat :=
  let characters := match text.toList with
    | '+' :: rest => rest
    | characters => characters
  if characters.isEmpty || !characters.all Char.isDigit then none
  else
    let n := Toml.valueOf 10 characters
    if n < UInt64.size then some n else none

/-- Reads a number: a truth value is one or zero, a fraction is rounded, and a text may spell a
number or a truth value. -/
def number (placed : Placed) : Except Fault Nat :=
  match placed.value with
  | .integer n =>
    if 0 ≤ n then .ok n.toNat else .error (placed.wrongType "an unsigned 64 bit or less integer")
  | .bool value => .ok value.toNat
  | .float value => .ok (value.toNat UInt64.size)
  | .text value =>
    let word := lowerCase value
    if word ∈ ["true", "on", "yes"] then .ok 1
    else if word ∈ ["false", "off", "no"] then .ok 0
    else
      match numberOfText? value with
      | some n => .ok n
      | none => .error (placed.wrongType "an integer")
  | _ => .error (placed.wrongType "an integer")

/-- Reads a text: numbers and truth values are spelled out. -/
def text (placed : Placed) : Except Fault String :=
  match placed.value with
  | .text value => .ok value
  | .bool value => .ok (toString value)
  | .integer value => .ok (toString value)
  | .float value => .ok value.text
  | _ => .error (placed.wrongType "a string")

/-- Reads an endpoint from a text. -/
def endpoint (placed : Placed) : Except Fault Endpoint :=
  match placed.text with
  | .error fault => .error fault
  | .ok text =>
    match Endpoint.parse? text with
    | some endpoint => .ok endpoint
    | none => .error (.refused "invalid socket address syntax")

/-- The entry of a table with this name. -/
def entry (placed : Placed) (name : String) (node : Node) : Placed :=
  ⟨if placed.path = "" then name else s!"{placed.path}.{name}", node.1, node.2⟩

/-- The item of a list at this position. -/
def item (placed : Placed) (position : Nat) (node : Node) : Placed :=
  ⟨s!"{placed.path}[{position}]", node.1, node.2⟩

/-- Reads the fields of a record. -/
def record (name : String) (placed : Placed) :
    Except Fault (String → Nat → Option Placed) :=
  match placed.value with
  | .table entries => .ok fun name _ => (entries.lookup name).map (placed.entry name)
  | .list items => .ok fun _ position => (items[position]?).map (placed.item position)
  | value => .error (.refused s!"invalid type: {value.describePlain}, expected struct {name}")

end Placed

/-- Values that are converted as far as possible. -/
def lenient : Conversion Placed Fault where
  number := Placed.number
  text := Placed.text
  endpoint := Placed.endpoint
  record name _ := Placed.record name

end PeerNet.Config
