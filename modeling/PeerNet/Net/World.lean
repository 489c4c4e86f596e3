import PeerNet.Manager
import PeerNet.Net.Store

/-!
# Residents of a host

A world holds residents that share a host and a clock. Every resident has sessions of its own, whose
type is `S`. Whoever holds a resident knows it by a name and may let go of it; what becomes of it
then is its own affair.

After every operation everything runs that can run without time going by. Time goes by in steps of
ten milliseconds; in each of them all sweeps that are due come before all timers that are due.
-/

namespace PeerNet.Net

/-- What residents of type `μ`, with sessions of type `S`, can do. -/
class Resident (μ : Type) (S : outParam Type) where
  /-- The manager of the sessions. -/
  manager : μ → Manager
  /-- The address that the resident has bound for its peers. -/
  address : μ → Except Error Endpoint
  /-- Starts. -/
  start : μ → Store S → μ × Store S × Except Error Unit
  /-- Stops with all sessions. -/
  stop : μ → Store S → μ × Store S
  /-- Whoever held the resident lets go of it. -/
  drop : μ → Store S → μ × Store S
  /-- Finds or builds the session for a peer. -/
  get : μ → Endpoint → Store S → μ × Store S × Except Error Card
  /-- Sweeps if it is time to. -/
  reap : μ → Store S → μ × Store S
  /-- Runs the timers that are due. -/
  tick : μ → Store S → Store S
  /-- Runs everything that the sessions have to do without time going by. -/
  settle : μ → Store S → Store S

/-- Residents of one host. -/
structure World (μ S : Type) where
  /-- The host. -/
  host : Isolated
  /-- The time. -/
  now : Nat
  /-- The number of the next session. -/
  nextId : SessionId
  /-- All residents that there ever were, with their sessions. -/
  residents : List (μ × Table SessionId S)
  /-- The positions of those that are held, by name. -/
  names : Table String Nat

namespace World

variable {μ S α : Type}

/-- A world without residents. -/
def empty : World μ S := ⟨.start, 0, ⟨1⟩, [], []⟩

/-- Lets the resident at a position act. -/
def act (world : World μ S) (position : Nat) (action : μ → Store S → μ × Store S × α) :
    World μ S × Option α :=
  match world.residents[position]? with
  | none => (world, none)
  | some (resident, sessions) =>
    let (resident, store, result) :=
      action resident ⟨world.host, world.now, world.nextId, sessions⟩
    ({ world with
        host := store.host
        nextId := store.nextId
        residents := world.residents.set position (resident, store.sessions) },
      some result)

/-- Lets all residents act. -/
def actAll (world : World μ S) (action : μ → Store S → μ × Store S) : World μ S :=
  (List.range world.residents.length).foldl (fun world position =>
    (world.act position fun resident store =>
      let (resident, store) := action resident store
      (resident, store, ())).1) world

/-- The resident with a name. -/
def resident? (world : World μ S) (name : String) : Option μ :=
  ((Table.get? world.names name).bind fun position => world.residents[position]?).map Prod.fst

/-- A session. -/
def session? (world : World μ S) (id : SessionId) : Option S :=
  world.residents.findSome? fun resident => Table.get? resident.2 id

/-! ## Sockets of nobody -/

/-- Binds a socket that belongs to no resident. -/
def openSocket (world : World μ S) (protocol : Protocol) (endpoint : Endpoint) :
    Except IoFailure (World μ S × Endpoint) :=
  (world.host.bind protocol endpoint).map fun (host, endpoint) =>
    ({ world with host := host }, endpoint)

/-- Closes such a socket. -/
def closeSocket (world : World μ S) (protocol : Protocol) (endpoint : Endpoint) : World μ S :=
  { world with host := world.host.release protocol endpoint }

/-- Whether a socket could be bound to an address. -/
def canBind (world : World μ S) (protocol : Protocol) (endpoint : Endpoint) : Bool :=
  (world.openSocket protocol endpoint).toBool

variable [Resident μ S]

/-- Runs everything that can run without time going by. -/
def settle (world : World μ S) : World μ S :=
  world.actAll fun resident store => (resident, Resident.settle resident store)

/-- Lets the resident with a name act, if there is one. -/
def on (world : World μ S) (name : String) (action : μ → Store S → μ × Store S × α) :
    World μ S × Option α :=
  match Table.get? world.names name with
  | none => (world, none)
  | some position =>
    let (world, result) := world.act position action
    (world.settle, result)

/-- Lets the resident act that has built a session. -/
def onSession (world : World μ S) (id : SessionId) (action : μ → Store S → Store S × α) :
    World μ S × Option α :=
  match world.residents.findIdx? fun resident => (Table.get? resident.2 id).isSome with
  | none => (world, none)
  | some position =>
    let (world, result) := world.act position fun resident store =>
      let (store, result) := action resident store
      (resident, store, result)
    (world.settle, result)

/-- Whoever held the resident with a name lets go of it. -/
def drop (world : World μ S) (name : String) : World μ S :=
  let (world, _) := world.on name fun resident store =>
    let (resident, store) := Resident.drop resident store
    (resident, store, ())
  { world with names := Table.erase world.names name }

/-- Adds a resident under a name. -/
def add (world : World μ S) (name : String) (resident : μ) : World μ S :=
  let world := world.drop name
  { world with
    residents := world.residents ++ [(resident, [])]
    names := Table.insert world.names name world.residents.length }

/-- Changes the resident with a name. -/
def modify (world : World μ S) (name : String) (change : μ → μ) : World μ S :=
  (world.on name fun resident store => (change resident, store, ())).1

/-- Starts the resident with a name. -/
def start (world : World μ S) (name : String) : World μ S × Option (Except Error Unit) :=
  world.on name Resident.start

/-- Stops the resident with a name. -/
def stop (world : World μ S) (name : String) : World μ S × Option Unit :=
  world.on name fun resident store =>
    let (resident, store) := Resident.stop resident store
    (resident, store, ())

/-- Finds or builds the session of a resident for a peer. -/
def get (world : World μ S) (name : String) (remote : Endpoint) :
    World μ S × Option (Except Error Card) :=
  world.on name fun resident store => Resident.get resident remote store

/-! ## Time -/

/-- The length of a step of time. -/
def grain : Nat := 10

/-- One step of time goes by. -/
def elapse (world : World μ S) : World μ S :=
  let world := { world with now := world.now + grain }
  let world := world.actAll Resident.reap
  (world.actAll fun resident store => (resident, Resident.tick resident store)).settle

/-- Time goes by. -/
def advance (world : World μ S) (milliseconds : Nat) : World μ S :=
  (List.range (milliseconds / grain)).foldl (fun world _ => world.elapse) world

end World

end PeerNet.Net
