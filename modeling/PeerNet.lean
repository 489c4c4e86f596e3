import PeerNet.Buffer.Blocks
import PeerNet.Buffer.Fault
import PeerNet.Buffer.Queue
import PeerNet.Buffer.Reader
import PeerNet.Buffer.Writer
import PeerNet.Bytes
import PeerNet.Clock
import PeerNet.CommandLine.Arguments
import PeerNet.CommandLine.EnvironmentFile
import PeerNet.CommandLine.Run
import PeerNet.Config.Extract
import PeerNet.Config.Fault
import PeerNet.Config.Listing
import PeerNet.Config.Settings
import PeerNet.Config.Sources
import PeerNet.Config.Toml.Document
import PeerNet.Config.Toml.Scalar
import PeerNet.Config.Toml.Text
import PeerNet.Config.Value
import PeerNet.Endpoint.Basic
import PeerNet.Endpoint.Parse
import PeerNet.Error
import PeerNet.Frame.Header
import PeerNet.Frame.Package
import PeerNet.Frame.Reader
import PeerNet.Frame.Tag
import PeerNet.IoFailure
import PeerNet.Log
import PeerNet.Main
import PeerNet.Manager
import PeerNet.Net.Isolated
import PeerNet.Net.Store
import PeerNet.Net.World
import PeerNet.Number.Binary64
import PeerNet.Proofs.Buffer.ReaderArithmetic
import PeerNet.Proofs.Buffer.ReaderCursor
import PeerNet.Proofs.Buffer.ReaderRuns
import PeerNet.Proofs.Buffer.WriterLog
import PeerNet.Proofs.Buffer.WriterRuns
import PeerNet.Proofs.Frame.Acceptance
import PeerNet.Proofs.Frame.Blockwise
import PeerNet.Proofs.Frame.Chunks
import PeerNet.Proofs.Frame.Grammar
import PeerNet.Proofs.Frame.Header
import PeerNet.Proofs.Frame.RoundTrip
import PeerNet.Proofs.Manager.Backends
import PeerNet.Proofs.Manager.Constructions
import PeerNet.Proofs.Manager.SoleSessions
import PeerNet.Proofs.Manager.StopRuns
import PeerNet.Proofs.Session.PoolCapacity
import PeerNet.Proofs.Session.PoolCover
import PeerNet.Proofs.Session.PoolLedger
import PeerNet.Proofs.Session.PoolRuns
import PeerNet.Proofs.Session.PoolTables
import PeerNet.Proofs.Tcp.OutletBytes
import PeerNet.Proofs.Tcp.WireOrder
import PeerNet.Proofs.Text.Utf8
import PeerNet.Service.Executor
import PeerNet.Service.Joining
import PeerNet.Service.Shutdown
import PeerNet.Session.Basic
import PeerNet.Session.Pool
import PeerNet.Strand
import PeerNet.Table
import PeerNet.Tcp.Connection
import PeerNet.Tcp.Outlet
import PeerNet.Tcp.Pool
import PeerNet.Tcp.ReadLoop
import PeerNet.Tcp.World
import PeerNet.Text.Blank
import PeerNet.Text.Invisible
import PeerNet.Text.Quoted
import PeerNet.Text.Utf8
import PeerNet.Udp.Client
import PeerNet.Udp.Server
import PeerNet.Udp.Session
import PeerNet.Udp.Store
import PeerNet.Udp.World
import PeerNet.Proofs.Strand.Sequence
import PeerNet.Proofs.Strand.Serial
import PeerNet.Proofs.Strand.Panics
import PeerNet.Proofs.Session.Lifecycle
import PeerNet.Proofs.Session.Transports
import PeerNet.Tcp.Reading
import PeerNet.Proofs.Tcp.ReadLoops
import PeerNet.Proofs.Manager.Departures
import PeerNet.Proofs.Tcp.Releases
import PeerNet.Proofs.Udp.IdleTimer
import PeerNet.Proofs.Manager.Lookups
import PeerNet.Proofs.Manager.Gates
import PeerNet.Proofs.Udp.Handling
import PeerNet.Proofs.Udp.Demultiplexing
import PeerNet.Proofs.Udp.Deliveries
import PeerNet.Proofs.Udp.Restarts
import PeerNet.Proofs.Service.Starts
import PeerNet.Proofs.Service.Nesting
import PeerNet.Proofs.Service.Coverage
import PeerNet.Proofs.Service.StopRequests
import PeerNet.Proofs.Buffer.QueueParts
import PeerNet.Proofs.Buffer.QueueArithmetic
import PeerNet.Proofs.Buffer.QueueRuns
import PeerNet.Proofs.Buffer.Ranges
import PeerNet.Proofs.Buffer.Extents
import PeerNet.Proofs.Buffer.Layouts
import PeerNet.Proofs.Buffer.StockRuns
