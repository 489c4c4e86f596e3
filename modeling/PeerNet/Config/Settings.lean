import PeerNet.Config.Listing

/-!
# Settings

The settings of every part, with their defaults and the ranges that they are kept in. Settings that
come from outside are clamped by `verify` before they are used: a number outside its range becomes
the end of the range that is nearer. Durations are in milliseconds.
-/

namespace PeerNet.Config

/-- The number in a range that is nearest. -/
def clamp (low high n : Nat) : Nat := min (max n low) high

/-- The largest payload of a datagram. -/
def maxPayload : Nat := 65507

/-- The settings of the executor. -/
structure ExecutorSettings where
  /-- The number of worker threads. -/
  threads : Nat
  /-- The name of the worker threads. -/
  threadName : String
  /-- How long to wait for the work in flight after the services have stopped. -/
  shutdownTimeout : Nat
  deriving DecidableEq, Repr

namespace ExecutorSettings

/-- The name of the worker threads unless another is set. -/
def defaultThreadName : String := "ytnet-worker"

/-- The defaults on a machine with this number of processors. -/
def default (processors : Nat) : ExecutorSettings := ⟨processors, defaultThreadName, 3000⟩

/-- Keeps every setting in its range. -/
def verify (settings : ExecutorSettings) : ExecutorSettings where
  threads := clamp 1 1024 settings.threads
  threadName := if settings.threadName = "" then defaultThreadName else settings.threadName
  shutdownTimeout := clamp 10 60000 settings.shutdownTimeout

/-- The settings as a listing. -/
def listing (settings : ExecutorSettings) : Listing :=
  .record "ExecutorCfg" [("threads_num", .number settings.threads),
    ("thread_name", .text settings.threadName),
    ("shutdown_timeout_ms", .number settings.shutdownTimeout)]

end ExecutorSettings

/-- The settings of a session over datagrams. -/
structure UdpSessionSettings where
  /-- The most bytes of a message. -/
  maxPackageSize : Nat
  /-- How long a session lasts without traffic. -/
  maxIdle : Nat
  deriving DecidableEq, Repr

namespace UdpSessionSettings

/-- The defaults. -/
def default : UdpSessionSettings := ⟨1024, 60000⟩

/-- Keeps every setting in its range. -/
def verify (settings : UdpSessionSettings) : UdpSessionSettings where
  maxPackageSize := clamp 64 maxPayload settings.maxPackageSize
  maxIdle := clamp 10 86400000 settings.maxIdle

/-- The settings as a listing. -/
def listing (settings : UdpSessionSettings) : Listing :=
  .record "UdpSessionCfg" [("max_package_size", .number settings.maxPackageSize),
    ("max_no_data_duration_ms", .number settings.maxIdle)]

end UdpSessionSettings

/-- The settings of a manager of sessions over datagrams: of clients, or of a server. -/
structure UdpManagerSettings where
  /-- The address to bind, port zero for any free one. -/
  bindTo : Endpoint
  /-- The most sessions at a time. -/
  maxSessions : Nat
  /-- How often sessions that have stopped are swept out. -/
  sweepPeriod : Nat
  /-- The settings of each session. -/
  session : UdpSessionSettings
  deriving DecidableEq, Repr

namespace UdpManagerSettings

/-- The defaults of clients. -/
def defaultClient : UdpManagerSettings := ⟨.anywhere 0, 1000, 10000, .default⟩

/-- The defaults of a server. -/
def defaultServer : UdpManagerSettings := ⟨.anywhere 53927, 1000, 10000, .default⟩

/-- Keeps every setting in its range. -/
def verify (settings : UdpManagerSettings) : UdpManagerSettings where
  bindTo := settings.bindTo
  maxSessions := clamp 1 1000000 settings.maxSessions
  sweepPeriod := clamp 10 3600000 settings.sweepPeriod
  session := settings.session.verify

/-- The settings of clients as a listing. -/
def clientListing (settings : UdpManagerSettings) : Listing :=
  .record "UdpClientCfg" [("local_ep", .endpoint settings.bindTo),
    ("max_client_num", .number settings.maxSessions),
    ("mgr_timer_dt_ms", .number settings.sweepPeriod), ("session", settings.session.listing)]

/-- The settings of a server as a listing. -/
def serverListing (settings : UdpManagerSettings) : Listing :=
  .record "UdpServerCfg" [("listen_ep", .endpoint settings.bindTo),
    ("max_session_num", .number settings.maxSessions),
    ("mgr_timer_dt_ms", .number settings.sweepPeriod), ("session", settings.session.listing)]

end UdpManagerSettings

/-- The settings of a pool of connections. -/
structure TcpSettings where
  /-- The address to listen at. -/
  listenAt : Endpoint
  /-- The most connections at a time. -/
  maxConnections : Nat
  /-- The most bytes of the body of a frame. -/
  maxBody : Nat
  /-- How often connections that have stopped are swept out. -/
  sweepPeriod : Nat
  /-- How long to wait for a connection to open. -/
  connectTimeout : Nat
  /-- The size of the blocks that packages are encoded into. -/
  writeBlock : Nat
  deriving DecidableEq, Repr

namespace TcpSettings

/-- The defaults. -/
def default : TcpSettings := ⟨.anywhere 53928, 100, 16777216, 10000, 5000, 4096⟩

/-- Keeps every setting in its range. -/
def verify (settings : TcpSettings) : TcpSettings where
  listenAt := settings.listenAt
  maxConnections := clamp 1 65536 settings.maxConnections
  maxBody := clamp 1024 4294967295 settings.maxBody
  sweepPeriod := clamp 10 3600000 settings.sweepPeriod
  connectTimeout := clamp 10 600000 settings.connectTimeout
  writeBlock := clamp 64 1048576 settings.writeBlock

/-- The settings as a listing. -/
def listing (settings : TcpSettings) : Listing :=
  .record "TcpPoolCfg" [("listen_ep", .endpoint settings.listenAt),
    ("max_conn_num", .number settings.maxConnections), ("max_body_size", .number settings.maxBody),
    ("mgr_timer_dt_ms", .number settings.sweepPeriod),
    ("connect_timeout_ms", .number settings.connectTimeout),
    ("write_block_size", .number settings.writeBlock)]

end TcpSettings

/-- The settings of buffers. -/
structure BufferSettings where
  /-- The size of a block, always enough for the header of a frame. -/
  blockSize : Nat
  deriving DecidableEq, Repr

namespace BufferSettings

/-- The defaults. -/
def default : BufferSettings := ⟨4096⟩

/-- Keeps every setting in its range. -/
def verify (settings : BufferSettings) : BufferSettings where
  blockSize := clamp 16 67108864 settings.blockSize

/-- The settings as a listing. -/
def listing (settings : BufferSettings) : Listing :=
  .record "BufferCfg" [("block_size", .number settings.blockSize)]

end BufferSettings

/-- The settings of the whole service. -/
structure ServiceSettings where
  /-- The executor. -/
  executor : ExecutorSettings
  /-- The clients over datagrams. -/
  udpClient : UdpManagerSettings
  /-- The server over datagrams. -/
  udpServer : UdpManagerSettings
  /-- The pool of connections. -/
  tcpPool : TcpSettings
  /-- The buffers. -/
  buffer : BufferSettings
  deriving DecidableEq, Repr

namespace ServiceSettings

/-- The defaults on a machine with this number of processors. -/
def default (processors : Nat) : ServiceSettings :=
  ⟨.default processors, .defaultClient, .defaultServer, .default, .default⟩

/-- Keeps every setting in its range. -/
def verify (settings : ServiceSettings) : ServiceSettings where
  executor := settings.executor.verify
  udpClient := settings.udpClient.verify
  udpServer := settings.udpServer.verify
  tcpPool := settings.tcpPool.verify
  buffer := settings.buffer.verify

/-- The settings as a listing. -/
def listing (settings : ServiceSettings) : Listing :=
  .record "ServiceConfig" [("executor", settings.executor.listing),
    ("udp_client", settings.udpClient.clientListing),
    ("udp_server", settings.udpServer.serverListing), ("tcp_pool", settings.tcpPool.listing),
    ("buffer", settings.buffer.listing)]

end ServiceSettings

end PeerNet.Config
