import PeerNet.Clock
import PeerNet.Manager
import PeerNet.Net.Store
import PeerNet.Tcp.Connection
import PeerNet.Tcp.ReadLoop

/-!
# Pools of connections

A pool opens connections to peers that it is asked to talk to, and once it has started it accepts
those that are opened to it. It has at most one live connection to each peer. A pool that was
stopped stays stopped.
-/

namespace PeerNet.Tcp

open Config (TcpSettings)

/-- The connections of a pool. -/
abbrev Store := Net.Store Connection

namespace Store

/-- Whether a connection is running. -/
def isRunning (store : Store) (id : SessionId) : Bool := store.satisfies Connection.isRunning id

/-- Stops a connection. -/
def halt (id : SessionId) (store : Store) : Store :=
  { store with sessions := Table.adjust store.sessions id Connection.stop }

/-- Adds a connection over a stream. `peer` is what the stream says about its other end. -/
def addOver (writeBlock : Nat) (peer : Except Error Endpoint) (id : SessionId) (store : Store) :
    Except Error Card × Store :=
  match peer with
  | .error cause => (.error cause, store)
  | .ok remote =>
    let connection := Connection.spawn ⟨id, remote⟩ writeBlock
    (.ok connection.card, store.insert id connection)

/-- Adds a connection over a stream whose other end is the peer that was asked for. -/
def add (writeBlock : Nat) (id : SessionId) (remote : Endpoint) (store : Store) :
    Except Error Card × Store :=
  store.addOver writeBlock (.ok remote) id

/-- What the socket of a connection does. -/
def acceptance (connection : Connection) : Acceptance :=
  .failed (Net.Isolated.streamFailure connection.card.remote)

/-- Sends a message in blocks on a connection. -/
def send (store : Store) (id : SessionId) (blocks : List Bytes) : Store × Except Error Unit :=
  match Table.get? store.sessions id with
  | none => (store, .error .droppedAnswer)
  | some connection =>
    let (changed, result) := connection.send (acceptance connection) blocks
    (store.insert id changed, result)

/-- Sends a package on a connection. -/
def sendPackage (store : Store) (id : SessionId) (package : Frame.Package) :
    Store × Except Error Unit :=
  match Table.get? store.sessions id with
  | none => (store, .error .droppedAnswer)
  | some connection =>
    match connection.encode package with
    | .ok blocks => store.send id blocks
    | .error error => (store, .error error)

/-- Runs everything that the connections have to do while nobody else does anything. -/
def settle (store : Store) : Store :=
  { store with
    sessions := store.sessions.map fun entry =>
      (entry.1, entry.2.settle (acceptance entry.2)) }

end Store

/-- A pool of connections. -/
structure Pool where
  /-- Its settings. -/
  settings : TcpSettings
  /-- The handlers of its connections. -/
  handlers : Handlers
  /-- The manager of its connections. -/
  manager : Manager
  /-- Whether it was started. -/
  started : Bool
  /-- The address that it has listened at first. -/
  address : Option Endpoint
  /-- The address that it listens at. -/
  listener : Option Endpoint
  /-- The loop that sweeps, if it runs. -/
  reaper : Option Ticker

namespace Pool

/-- The error of a request to a pool that has been stopped. -/
def stopping : Error := .illegalState "tcp pool is stopping"

/-- The kind of manager: the gate is looked at first, and again after a stream was opened. -/
def kind : ManagerKind :=
  ⟨"tcp-pool-mgr", [.gate stopping, .directory, .dial, .gate stopping, .insert],
    [.gate stopping, .insert], true⟩

/-- A pool that has not started. It opens connections all the same. -/
def create (settings : TcpSettings) (handlers : Handlers) : Pool :=
  let settings := settings.verify
  ⟨settings, handlers, .start kind "tcp pool" settings.maxConnections true, false, none, none, none⟩

/-- How the manager uses the connections, if the stream for a session says `peer` about its other
end, which need not be the address that the stream was opened to. -/
def backendOver (pool : Pool) (peer : SessionId → Endpoint → Except Error Endpoint) :
    Backend Store :=
  ⟨Store.isRunning, Net.Store.takeId,
    fun id remote store => store.addOver pool.settings.writeBlock (peer id remote) id, Store.halt⟩

/-- How the manager uses the connections, on a host where every stream leads to the address that it
was opened to. -/
def backend (pool : Pool) : Backend Store :=
  ⟨Store.isRunning, Net.Store.takeId, Store.add pool.settings.writeBlock, Store.halt⟩

/-- Starts to accept connections. -/
def start (pool : Pool) (store : Store) : Pool × Store × Except Error Unit :=
  if !pool.manager.admits then (pool, store, .error (.illegalState "tcp pool is stopped"))
  else if pool.started then (pool, store, .error (.illegalState "tcp pool started twice"))
  else
    match store.host.bind .tcp pool.settings.listenAt with
    | .error failure =>
      (pool, store, .error (.illegalState
        s!"Failed to bind tcp pool to address: {pool.settings.listenAt} - Error: {failure.text}"))
    | .ok (host, endpoint) =>
      ({ pool with
          started := true
          address := some (pool.address.getD endpoint)
          listener := some endpoint
          reaper := some (.start store.now pool.settings.sweepPeriod) },
        { store with host := host }, .ok ())

/-- The address that the pool listens at, or did so. -/
def localAddress (pool : Pool) : Except Error Endpoint :=
  match pool.address with
  | some endpoint => .ok endpoint
  | none => .error (.illegalState "tcp pool is not listening")

/-- Stops accepting. -/
def unlisten (pool : Pool) (store : Store) : Pool × Store :=
  match pool.listener with
  | some endpoint =>
    ({ pool with listener := none, reaper := none },
      { store with host := store.host.release .tcp endpoint })
  | none => (pool, store)

/-- Stops the pool and its connections. -/
def stop (pool : Pool) (store : Store) : Pool × Store :=
  if pool.manager.admits then
    let (manager, store) := pool.manager.stop pool.backend store
    { pool with manager := manager }.unlisten store
  else (pool, store)

/-- Whoever held the pool lets go of it. The loops keep one that listens alive. -/
def drop (pool : Pool) (store : Store) : Pool × Store :=
  if pool.listener.isSome then (pool, store)
  else
    ({ pool with reaper := none },
      (Table.values pool.manager.pool.directory).foldl (fun store card => store.halt card.id) store)

/-- Finds or opens the connection to a peer. `dialed` is what comes of opening a stream. -/
def connect (pool : Pool) (remote : Endpoint) (dialed : Except Error Unit) (store : Store) :
    Pool × Store × Except Error Card :=
  let (manager, store, result) := pool.manager.serve pool.backend dialed remote store
  ({ pool with manager := manager }, store, result)

/-- Sweeps if it is time to. -/
def reap (pool : Pool) (store : Store) : Pool × Store :=
  match pool.reaper with
  | none => (pool, store)
  | some ticker =>
    if ticker.isDue store.now then
      let (manager, store) := pool.manager.sweep pool.backend store
      ({ pool with manager := manager, reaper := some (ticker.take store.now) }, store)
    else (pool, store)

/-- Registers handlers besides those that there are. -/
def register (pool : Pool) (handlers : Handlers) : Pool :=
  { pool with
    handlers :=
      ⟨pool.handlers.message || handlers.message, pool.handlers.error || handlers.error⟩ }

end Pool

end PeerNet.Tcp
