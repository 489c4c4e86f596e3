import PeerNet.Error
import PeerNet.Session.Basic
import PeerNet.Table

/-!
# Pools of sessions

A pool holds a bounded number of sessions and finds them by the endpoint that they were asked for.
Beside the index it keeps a directory for readers who must not wait. Whether a session is alive is
not up to the pool: every operation is told which ones are, and sessions that are not are erased
when they are found. A live session is never evicted to make room.

Building a session may change a state of type `σ`, so that what a refused request leaves undone can
be told from what it does.
-/

namespace PeerNet

/-- A bounded number of sessions. -/
structure Pool where
  /-- The name that refusals carry. -/
  name : String
  /-- The most sessions it holds. -/
  capacity : Nat
  /-- The sessions by number. -/
  slots : Table SessionId Card
  /-- The numbers of the sessions by endpoint. -/
  index : Table Endpoint SessionId
  /-- The sessions by endpoint. -/
  directory : Table Endpoint Card
  deriving DecidableEq, Repr

namespace Pool

/-- The pool without a session. -/
def empty (name : String) (capacity : Nat) : Pool := ⟨name, capacity, [], [], []⟩

/-- The number of sessions. -/
def size (pool : Pool) : Nat := pool.slots.length

/-- Whether there is no session. -/
def isEmpty (pool : Pool) : Bool := pool.slots.isEmpty

/-- Whether there is no room for another session. -/
def isFull (pool : Pool) : Bool := pool.capacity ≤ pool.size

/-- The sessions. -/
def sessions (pool : Pool) : List Card := Table.values pool.slots

/-- Takes a session out. Its endpoint is freed unless another session has it by now. -/
def remove (pool : Pool) (id : SessionId) : Pool × Option Card :=
  match Table.get? pool.slots id with
  | none => (pool, none)
  | some card =>
    let pool := { pool with slots := Table.erase pool.slots id }
    if Table.get? pool.index card.remote = some id then
      ({ pool with
          index := Table.erase pool.index card.remote
          directory := Table.erase pool.directory card.remote },
        some card)
    else (pool, some card)

/-- The live session for an endpoint. One that is not alive is taken out. -/
def getLive (pool : Pool) (alive : SessionId → Bool) (remote : Endpoint) : Pool × Option Card :=
  match Table.get? pool.index remote with
  | none => (pool, none)
  | some id =>
    match Table.get? pool.slots id with
    | some card => if alive id then (pool, some card) else ((pool.remove id).1, none)
    | none => (pool, none)

/-- Takes out every session that is not alive, and says how many they were. -/
def sweep (pool : Pool) (alive : SessionId → Bool) : Pool × Nat :=
  let dead := Table.keys (pool.slots.filter fun slot => !alive slot.1)
  (dead.foldl (fun pool id => (pool.remove id).1) pool, dead.length)

/-- Why a pool takes no further session. -/
inductive Refusal where
  /-- There is a live session for the endpoint. -/
  | taken (pool : String) (remote : Endpoint)
  /-- All sessions are alive, and they are as many as there may be. -/
  | full (pool : String) (capacity : Nat)
  /-- The session could not be built. -/
  | build (cause : Error)
  deriving DecidableEq, Repr

/-- The error that a refusal is reported as. -/
def Refusal.toError : Refusal → Error
  | .taken pool remote => .illegalState s!"{pool} already has a live session to {remote}"
  | .full pool capacity => .capacityExceeded s!"{pool} reached max session num {capacity}"
  | .build cause => cause

/-- What comes of a request for a session. -/
structure Insertion (σ : Type) where
  /-- The pool after the request. -/
  pool : Pool
  /-- The state after the request, changed only by building. -/
  state : σ
  /-- The number that a session was built with, if one was. -/
  built : Option SessionId
  /-- The session, or why there is none. -/
  outcome : Except Refusal Card

/-- Adds a session for an endpoint that has none. `fresh` is the number it gets. When the pool is
full, sessions that are not alive are taken out first. -/
def insertNew {σ : Type} (pool : Pool) (alive : SessionId → Bool) (fresh : SessionId)
    (remote : Endpoint) (build : SessionId → σ → Except Error Card × σ) (state : σ) :
    Insertion σ :=
  match pool.getLive alive remote with
  | (pool, some _) => ⟨pool, state, none, .error (.taken pool.name remote)⟩
  | (pool, none) =>
    let pool := if pool.isFull then (pool.sweep alive).1 else pool
    if pool.isFull then ⟨pool, state, none, .error (.full pool.name pool.capacity)⟩
    else
      match build fresh state with
      | (.error cause, state) => ⟨pool, state, some fresh, .error (.build cause)⟩
      | (.ok card, state) =>
        ⟨{ pool with
            slots := Table.insert pool.slots fresh card
            index := Table.insert pool.index remote fresh
            directory := Table.insert pool.directory remote card },
          state, some fresh, .ok card⟩

/-- The live session for an endpoint, or a new one. -/
def getOrInsert {σ : Type} (pool : Pool) (alive : SessionId → Bool) (fresh : SessionId)
    (remote : Endpoint) (build : SessionId → σ → Except Error Card × σ) (state : σ) :
    Insertion σ :=
  match pool.getLive alive remote with
  | (pool, some card) => ⟨pool, state, none, .ok card⟩
  | (pool, none) => pool.insertNew alive fresh remote build state

/-- Takes all sessions out. -/
def drain (pool : Pool) : Pool × List Card := (empty pool.name pool.capacity, pool.sessions)

end Pool

end PeerNet
