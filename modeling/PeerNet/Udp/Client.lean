import PeerNet.Udp.Store

/-!
# Clients over datagrams

A client has a session with a socket of its own for every peer that it was asked to talk to.
-/

namespace PeerNet.Udp

open Config (UdpManagerSettings)

/-- A client. -/
structure Client where
  /-- The manager of its sessions. -/
  hub : Hub

namespace Client

/-- The stages of a request. -/
def stages : List Stage :=
  [.gate (.illegalState "udp client pool is not running"), .directory, .insert]

/-- The kind of manager: the gate is looked at first. -/
def kind : ManagerKind := ⟨"udp-client-pool-mgr", stages, stages, false⟩

/-- A client that has not started. -/
def create (settings : UdpManagerSettings) (registered : Bool) : Client :=
  ⟨.create kind "udp client pool" settings registered⟩

/-- Binds a socket, and builds and starts a session on it. -/
def build (settings : UdpManagerSettings) (id : SessionId) (remote : Endpoint) (store : Store) :
    Except Error Card × Store :=
  match store.host.bind .udp settings.bindTo with
  | .error failure => (.error (.io failure), store)
  | .ok (host, origin) =>
    let store : Store := { store with host := host }
    store.add (.create ⟨id, remote⟩ origin true settings.session)

/-- How the manager uses the sessions. -/
def backend (settings : UdpManagerSettings) : Backend Store :=
  ⟨Store.isRunning, Net.Store.takeId, build settings, Store.halt⟩

/-- Starts the client. -/
def start (client : Client) (now : Nat) : Client × Except Error Unit :=
  if client.hub.isRunning then (client, .error (.illegalState "udp client pool started twice"))
  else (⟨client.hub.start now⟩, .ok ())

end Client

end PeerNet.Udp
