import PeerNet.Udp.Store

/-!
# Servers over datagrams

A server receives the datagrams of all its peers from one socket and gives each of them to the
session of the peer that sent it. The receive loop takes one datagram at a time. Too long ones are
dropped; for the others the session is asked for, and built if there is none. While the pool is full
of live sessions the loop waits with the datagram in hand and asks again.

Every function is one stretch that nobody else can interrupt; `Server.step` chooses among them.
-/

namespace PeerNet.Udp

open Config (UdpManagerSettings)

/-- A datagram that was received. -/
structure Datagram where
  /-- Who sent it. -/
  source : Endpoint
  /-- What it says. -/
  data : Bytes
  deriving DecidableEq, Repr

/-- What the receive loop of a server does. -/
inductive ServerLoop where
  /-- The server has not started. -/
  | off
  /-- It waits for a datagram. -/
  | listening
  /-- It has asked for the session of the peer with a request. -/
  | asking (request : Nat) (datagram : Datagram)
  /-- It waits until there may be room for another session. -/
  | waiting (resume : Nat) (datagram : Datagram)
  /-- It has ended. -/
  | ended
  deriving DecidableEq, Repr

/-- A datagram that was given to a session. -/
structure Handover where
  /-- The datagram. -/
  datagram : Datagram
  /-- The session. -/
  card : Card
  deriving DecidableEq, Repr

/-- A server. -/
structure Server where
  /-- The manager of its sessions. -/
  hub : Hub
  /-- The address that its socket is bound to. -/
  socket : Option Endpoint
  /-- The receive loop. -/
  loop : ServerLoop
  /-- The datagrams that the loop took from the socket, the last one first. -/
  received : List Datagram
  /-- The datagrams that the loop gave to sessions, the last one first. -/
  handed : List Handover

namespace Server

/-- The error of a request while the server is not running. -/
def notRunning : Error := .illegalState "udp server is not running"

/-- The stages of a request by the receive loop. -/
def loopStages : List Stage := [.gate notRunning, .insert]

/-- The kind of manager: the directory is looked at first. -/
def kind : ManagerKind := ⟨"udp-server-mgr", .directory :: loopStages, loopStages, false⟩

/-- A server that has not started. -/
def create (settings : UdpManagerSettings) (registered : Bool) : Server :=
  ⟨.create kind "udp server" settings registered, none, .off, [], []⟩

/-- The error of whatever needs the socket while there is none. -/
def notBound : Error := .illegalState "udp server is not bound"

/-- Builds and starts a session on the socket of the server, if there is one when the job runs. -/
def build (settings : UdpManagerSettings) (socket : Option Endpoint) (id : SessionId)
    (remote : Endpoint) (store : Store) : Except Error Card × Store :=
  match socket with
  | some origin => store.add (.create ⟨id, remote⟩ origin false settings.session)
  | none => (.error notBound, store)

/-- How the manager uses the sessions. -/
def backend (server : Server) : Backend Store :=
  ⟨Store.isRunning, Net.Store.takeId, build server.hub.settings server.socket, Store.halt⟩

/-- Starts the server: binds the socket and lets the loops begin. A server whose socket was bound
before is refused, but takes requests from then on. -/
def start (server : Server) (store : Store) : Server × Store × Except Error Unit :=
  if server.hub.isRunning then
    (server, store, .error (.illegalState "udp server started twice"))
  else
    let settings := server.hub.settings
    match store.host.bind .udp settings.bindTo with
    | .error failure =>
      (server, store, .error (.illegalState
        s!"Failed to bind udp server to address: {settings.bindTo} - Error: {failure.text}"))
    | .ok (host, origin) =>
      match server.socket with
      | some _ =>
        ({ server with hub.manager.admits := true }, store,
          .error (.illegalState "udp server socket already bound"))
      | none =>
        let hub := server.hub.start store.now
        ({ server with hub := hub, socket := some origin, loop := .listening },
          { store with host := host }, .ok ())

/-- Starts the server. The address of the socket that was bound cannot be read if there is a
failure; the server is refused then, but takes requests from then on. -/
def startReading (server : Server) (unreadable : Option IoFailure) (store : Store) :
    Server × Store × Except Error Unit :=
  match unreadable with
  | none => server.start store
  | some failure =>
    if server.hub.isRunning || !(store.host.bind .udp server.hub.settings.bindTo).toBool then
      server.start store
    else ({ server with hub.manager.admits := true }, store, .error (.io failure))

/-- The address that the socket is bound to. -/
def localAddress (server : Server) : Except Error Endpoint :=
  match server.socket with
  | some endpoint => .ok endpoint
  | none => .error notBound

/-- Whether the loops keep the server alive when nobody else does. -/
def isKeptAlive (server : Server) : Bool :=
  server.loop ≠ .off && server.loop ≠ .ended && !server.hub.manager.cancelled

/-- Lets go of the socket. -/
def release (server : Server) (store : Store) : Store :=
  match server.socket with
  | some endpoint => { store with host := store.host.release .udp endpoint }
  | none => store

/-! ## The receive loop -/

/-- The loop asks for the session of the peer. -/
def ask (server : Server) (datagram : Datagram) : Server :=
  let (manager, request) := server.hub.manager.beginInbound datagram.source
  { server with hub.manager := manager, loop := .asking request datagram }

/-- The loop takes a datagram from the socket, if it waits for one. -/
def receive (server : Server) (datagram : Datagram) : Server :=
  match server.loop with
  | .listening =>
    let server := { server with received := datagram :: server.received }
    if server.hub.settings.session.maxPackageSize < datagram.data.length then server
    else server.ask datagram
  | _ => server

/-- The loop ends with an error, and has the server stopped. -/
def fail (server : Server) : Server :=
  { server with loop := .ended, hub.manager := server.hub.manager.lower }

/-- The socket fails while the loop waits for a datagram. -/
def failReceive (server : Server) : Server :=
  match server.loop with
  | .listening => server.fail
  | _ => server

/-- The loop gives a datagram to a session. -/
def hand (server : Server) (store : Store) (datagram : Datagram) (card : Card) : Server × Store :=
  ({ server with loop := .listening, handed := ⟨datagram, card⟩ :: server.handed },
    store.change card.id fun session => session.deliver datagram.data)

/-- The loop goes on, if what it waits for is there. -/
def advanceLoop (server : Server) (store : Store) : Server × Store :=
  match server.loop with
  | .off | .ended => (server, store)
  | .listening =>
    (if server.hub.manager.cancelled then { server with loop := .ended } else server, store)
  | .waiting resume datagram =>
    if server.hub.manager.cancelled then ({ server with loop := .ended }, store)
    else if resume ≤ store.now then (server.ask datagram, store)
    else (server, store)
  | .asking request datagram =>
    match (Table.get? server.hub.manager.requests request).bind Request.answer with
    | none => (server, store)
    | some (.ok card) => server.hand store datagram card
    | some (.error (.capacityExceeded _)) =>
      let wake := store.now + server.hub.settings.sweepPeriod
      ({ server with loop := .waiting wake datagram }, store)
    | some (.error _) => (server.fail, store)

/-- The loop asks again for the datagram in its hand, if it is time to. It may do so though it has
been told to end, when it learns of both at once. -/
def retry (server : Server) (store : Store) : Server :=
  match server.loop with
  | .waiting resume datagram => if resume ≤ store.now then server.ask datagram else server
  | _ => server

/-! ## All stretches -/

/-- What may happen next to a server. -/
inductive ServerAction where
  /-- The manager does something. -/
  | manage (action : Manager.Action)
  /-- A datagram is taken from the socket. -/
  | receive (datagram : Datagram)
  /-- The socket fails. -/
  | failReceive
  /-- The receive loop goes on. -/
  | advanceLoop
  /-- The receive loop asks again. -/
  | retry
  /-- A session does something. -/
  | session (id : SessionId) (action : Session.Action)
  /-- Time goes by. -/
  | elapse (milliseconds : Nat)

/-- Whether an action is one of the receive loop. -/
def ServerAction.isLoop : ServerAction → Bool
  | .receive _ | .failReceive | .advanceLoop | .retry => true
  | .manage _ | .session .. | .elapse _ => false

/-- One stretch of somebody. -/
def step (server : Server) (store : Store) : ServerAction → Server × Store
  | .manage action =>
    let (manager, store) := Manager.step server.backend action server.hub.manager store
    ({ server with hub.manager := manager }, store)
  | .receive datagram => (server.receive datagram, store)
  | .failReceive => (server.failReceive, store)
  | .advanceLoop => server.advanceLoop store
  | .retry => (server.retry store, store)
  | .session id action =>
    (server, store.change id fun session => session.step server.hub.registered action)
  | .elapse milliseconds => (server, { store with now := store.now + milliseconds })

/-- Runs a schedule. -/
def run (server : Server) (store : Store) (schedule : List ServerAction) : Server × Store :=
  schedule.foldl (fun (server, store) action => server.step store action) (server, store)

end Server

end PeerNet.Udp
