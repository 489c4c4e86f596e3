import PeerNet.Tcp.Pool

/-!
# Pools that read

A pool with the read loops of its connections. Every connection that is built is read from then on,
and a loop that ends reports that to the manager, which takes the connection out of the pool.
-/

namespace PeerNet.Tcp

open Config (TcpSettings)

/-- The connections of a pool with their read loops. -/
abbrev LoopStore := Net.Store ReadLoop

namespace LoopStore

/-- Whether a connection is running. -/
def isRunning (store : LoopStore) (id : SessionId) : Bool :=
  store.satisfies (fun loop => loop.connection.isRunning) id

/-- Something happens to a read loop, if it is there. -/
def change (store : LoopStore) (id : SessionId) (change : ReadLoop → ReadLoop) : LoopStore :=
  { store with sessions := Table.adjust store.sessions id change }

/-- Stops a connection. -/
def halt (id : SessionId) (store : LoopStore) : LoopStore :=
  store.change id fun loop => { loop with connection := loop.connection.stop }

/-- Adds a connection over a stream, and its read loop. `peer` is what the stream says about its
other end. -/
def addOver (settings : TcpSettings) (peer : Except Error Endpoint) (id : SessionId)
    (store : LoopStore) : Except Error Card × LoopStore :=
  match peer with
  | .error cause => (.error cause, store)
  | .ok remote =>
    (.ok ⟨id, remote⟩,
      store.insert id (.start (.spawn ⟨id, remote⟩ settings.writeBlock) settings.maxBody))

end LoopStore

/-- How the manager of a pool uses connections that are read. -/
def readingBackend (settings : TcpSettings)
    (peer : SessionId → Endpoint → Except Error Endpoint) : Backend LoopStore :=
  ⟨LoopStore.isRunning, Net.Store.takeId,
    fun id remote store => store.addOver settings (peer id remote) id, LoopStore.halt⟩

/-- A pool with the read loops of its connections. -/
structure Reading where
  /-- The handlers. -/
  handlers : Handlers
  /-- The manager. -/
  manager : Manager
  /-- The connections with their loops. -/
  store : LoopStore

namespace Reading

/-- A pool that has no connection yet. -/
def start (pool : Pool) (store : LoopStore) : Reading := ⟨pool.handlers, pool.manager, store⟩

/-- What may happen next to a pool. -/
inductive Action where
  /-- The manager does something. The end of a connection is reported by its loop only. -/
  | manage (action : Manager.Action)
  /-- The read loop of a connection does something. -/
  | read (id : SessionId) (action : ReadLoop.Action)
  /-- Handlers are registered besides those that there are. -/
  | register (handlers : Handlers)

/-- The read loop of a connection does something, and what it reports is posted to the manager. -/
def readOn (reading : Reading) (id : SessionId) (action : ReadLoop.Action) : Reading :=
  match Table.get? reading.store.sessions id with
  | none => reading
  | some loop =>
    let after := loop.step reading.handlers action
    { reading with
      store := reading.store.change id fun _ => after
      manager := (loop.reports after).foldl (fun manager id => manager.post (.remove id))
        reading.manager }

/-- One stretch of somebody. -/
def step (backend : Backend LoopStore) (reading : Reading) : Action → Reading
  | .manage (.reportEnd _) => reading
  | .manage action =>
    let (manager, store) := Manager.step backend action reading.manager reading.store
    { reading with manager := manager, store := store }
  | .read id action => reading.readOn id action
  | .register handlers =>
    { reading with
      handlers := ⟨reading.handlers.message || handlers.message,
        reading.handlers.error || handlers.error⟩ }

/-- Runs a schedule. -/
def run (backend : Backend LoopStore) (reading : Reading) (schedule : List Action) : Reading :=
  schedule.foldl (step backend) reading

end Reading

end PeerNet.Tcp
