import PeerNet.Net.World
import PeerNet.Udp.Client
import PeerNet.Udp.Server

/-!
# Clients and servers on one host

Clients and servers are residents of a host. A client ends when whoever held it lets go of it, but a
server that runs is kept alive by its loops.
-/

namespace PeerNet.Udp

/-- A client or a server. -/
inductive Side where
  /-- A client. -/
  | client (client : Client)
  /-- A server. -/
  | server (server : Server)

namespace Side

/-- The manager and what goes with it. -/
def hub : Side → Hub
  | client c => c.hub
  | server s => s.hub

/-- The side with another manager. -/
def withHub (side : Side) (hub : Hub) : Side :=
  match side with
  | client _ => client ⟨hub⟩
  | server s => server { s with hub := hub }

/-- Registers a handler. -/
def register (side : Side) : Side := side.withHub { side.hub with registered := true }

/-- How the manager uses the sessions. -/
def backend : Side → Backend Store
  | client c => Client.backend c.hub.settings
  | server s => s.backend

/-- Starts the side. -/
def start (side : Side) (store : Store) : Side × Store × Except Error Unit :=
  match side with
  | client c =>
    let (c, result) := c.start store.now
    (client c, store, result)
  | server s =>
    let (s, store, result) := s.start store
    (server s, store, result)

/-- Starts the side. The address that a server has bound cannot be read if there is a failure. -/
def startReading (side : Side) (unreadable : Option IoFailure) (store : Store) :
    Side × Store × Except Error Unit :=
  match side with
  | client _ => side.start store
  | server s =>
    let (s, store, result) := s.startReading unreadable store
    (server s, store, result)

/-- Stops the side and its sessions. -/
def stop (side : Side) (store : Store) : Side × Store :=
  let (hub, store) := side.hub.stop side.backend store
  (side.withHub hub, store)

/-- Whoever held the side lets go of it. -/
def drop (side : Side) (store : Store) : Side × Store :=
  let gone := side.withHub { side.hub with reaper := none }
  match side with
  | client c => (gone, c.hub.abandon store)
  | server s => if s.isKeptAlive then (side, store) else (gone, s.release (s.hub.abandon store))

/-- Finds or builds the session for a peer. -/
def get (side : Side) (remote : Endpoint) (store : Store) : Side × Store × Except Error Card :=
  let (hub, store, result) := side.hub.get side.backend remote store
  (side.withHub hub, store, result)

/-- Sweeps if it is time to. -/
def reap (side : Side) (store : Store) : Side × Store :=
  let (hub, store) := side.hub.reap side.backend store
  (side.withHub hub, store)

/-- The address that a server has bound. -/
def address : Side → Except Error Endpoint
  | client _ => .error (.illegalState "udp client pool is not bound")
  | server s => s.localAddress

instance : Net.Resident Side Session where
  manager side := side.hub.manager
  address := address
  start := start
  stop := stop
  drop := drop
  get := get
  reap := reap
  tick side store := Store.tick store side.hub.registered
  settle side store := Store.settle store side.hub.registered

end Side

/-- Clients and servers on one host. -/
abbrev World := Net.World Side Session

namespace World

/-- A world without clients and servers. -/
def empty : World := Net.World.empty

/-- Sends a datagram on a session. -/
def sendOn (world : World) (id : SessionId) (data : Bytes) : World × Option (Except Error Unit) :=
  world.onSession id fun _ store => Store.send store id data

/-- Sends a datagram on the session for a peer. -/
def send (world : World) (name : String) (remote : Endpoint) (data : Bytes) :
    World × Option (Except Error Unit) :=
  match world.get name remote with
  | (world, some (.ok card)) => sendOn world card.id data
  | (world, some (.error error)) => (world, some (.error error))
  | (world, none) => (world, none)

/-- Stops a session. -/
def stopSession (world : World) (id : SessionId) : World × Option Unit :=
  world.onSession id fun _ store => (Store.halt id store, ())

/-- Starts a session that was built before, which is refused. -/
def startSession (world : World) (id : SessionId) : World × Option (Except Error Unit) :=
  world.onSession id fun _ store =>
    (store, match Table.get? store.sessions id with
      | none => .error .droppedAnswer
      | some session => (session.start store.now).map fun _ => ())

end World

end PeerNet.Udp
