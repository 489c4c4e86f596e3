import PeerNet.Manager
import PeerNet.Net.Store
import PeerNet.Udp.Session

/-!
# The sessions of a manager

`Store.change` is the only way in which a session changes once it is in a store; it also releases
the socket of a session that has let go of it.

A `Hub` is what managers of clients and of servers have in common: the manager, its settings, and
the loop that has sessions swept out that have stopped.
-/

namespace PeerNet.Udp

open Config (UdpManagerSettings)

/-- The sessions of a manager. -/
abbrev Store := Net.Store Session

namespace Store

/-- Whether a session is running. -/
def isRunning (store : Store) (id : SessionId) : Bool := store.satisfies Session.isRunning id

/-- Changes a session. The socket of one that has let go of it is released, unless it belongs to a
server. -/
def change (store : Store) (id : SessionId) (action : Session → Session) : Store :=
  match Table.get? store.sessions id with
  | none => store
  | some session =>
    let changed := action session
    let released := session.ownsSocket && session.usesSocket && !changed.usesSocket
    { store with
      sessions := Table.adjust store.sessions id action
      host := if released then store.host.release .udp session.origin else store.host }

/-- Stops a session. -/
def halt (id : SessionId) (store : Store) : Store := store.change id Session.stop

/-- Adds a session and starts it. -/
def add (store : Store) (session : Session) : Except Error Card × Store :=
  match session.start store.now with
  | .ok session =>
    (.ok session.card, store.insert session.card.id session)
  | .error error => (.error error, store)

/-- What the socket of a session does with a datagram. -/
def transmit (session : Session) (data : Bytes) : Except IoFailure Nat :=
  .error (Net.Isolated.datagramFailure session.origin session.card.remote data.length)

/-- Sends a datagram on a session. -/
def send (store : Store) (id : SessionId) (data : Bytes) : Store × Except Error Unit :=
  match Table.get? store.sessions id with
  | none => (store, .error .droppedAnswer)
  | some session =>
    let send (session : Session) := session.send (transmit session) data
    (store.change id fun session => (send session).1,
      match (send session).2 with
      | some error => .error error
      | none => .ok ())

/-- Changes all sessions. -/
def changeAll (store : Store) (action : Session → Session) : Store :=
  store.sessions.foldl (fun store entry => store.change entry.1 action) store

/-- Runs everything that the sessions have to do while nobody else does anything. -/
def settle (store : Store) (registered : Bool) : Store :=
  store.changeAll fun session => session.settle registered (transmit session)

/-- Runs the idle timers that are due. -/
def tick (store : Store) (registered : Bool) : Store :=
  store.changeAll fun session => session.tick registered store.now

end Store

/-- A manager of sessions over datagrams. -/
structure Hub where
  /-- Its settings. -/
  settings : UdpManagerSettings
  /-- Whether there is a handler for what is received. -/
  registered : Bool
  /-- The manager. -/
  manager : Manager
  /-- The loop that sweeps, if it runs. -/
  reaper : Option Ticker

namespace Hub

/-- A hub that has not started. -/
def create (kind : ManagerKind) (poolName : String) (settings : UdpManagerSettings)
    (registered : Bool) : Hub :=
  let settings := settings.verify
  ⟨settings, registered, .start kind poolName settings.maxSessions false, none⟩

/-- The description of the handler. -/
def handlerText (hub : Hub) : String := s!"HandlerSlot \x7b registered: {hub.registered} \x7d"

/-- Whether the hub takes requests. -/
def isRunning (hub : Hub) : Bool := hub.manager.admits

/-- Takes requests from now on, and sweeps unless that has been ended for good. -/
def start (hub : Hub) (now : Nat) : Hub :=
  { hub with
    manager := { hub.manager with admits := true }
    reaper := if hub.manager.cancelled then none else some (.start now hub.settings.sweepPeriod) }

/-- Finds or builds the session for a peer. -/
def get (hub : Hub) (backend : Backend Store) (remote : Endpoint) (store : Store) :
    Hub × Store × Except Error Card :=
  let (manager, store, result) := hub.manager.serve backend (.ok ()) remote store
  ({ hub with manager := manager }, store, result)

/-- Stops the hub and its sessions. -/
def stop (hub : Hub) (backend : Backend Store) (store : Store) : Hub × Store :=
  let (manager, store) := hub.manager.stop backend store
  ({ hub with manager := manager, reaper := if manager.cancelled then none else hub.reaper }, store)

/-- Sweeps if it is time to. -/
def reap (hub : Hub) (backend : Backend Store) (store : Store) : Hub × Store :=
  match hub.reaper with
  | none => (hub, store)
  | some ticker =>
    if ticker.isDue store.now then
      let (manager, store) := hub.manager.sweep backend store
      ({ hub with manager := manager, reaper := some (ticker.take store.now) }, store)
    else (hub, store)

/-- Stops the sessions in the directory. -/
def abandon (hub : Hub) (store : Store) : Store :=
  (Table.values hub.manager.pool.directory).foldl (fun store card => store.halt card.id) store

end Hub

end PeerNet.Udp
