import PeerNet.Net.Isolated
import PeerNet.Session.Basic
import PeerNet.Table

/-!
# The sessions of one owner

A store holds the sessions that one owner has built, with the host whose sockets they use and the
time. `S` is the type of the sessions.
-/

namespace PeerNet.Net

/-- The sessions of an owner, on a host at a time. -/
structure Store (S : Type) where
  /-- The host. -/
  host : Isolated
  /-- The time. -/
  now : Nat
  /-- The number of the next session. -/
  nextId : SessionId
  /-- The sessions that were built. -/
  sessions : Table SessionId S
  deriving DecidableEq, Repr

namespace Store

variable {S : Type}

/-- Whether a session is there and `test` holds of it. -/
def satisfies (test : S → Bool) (store : Store S) (id : SessionId) : Bool :=
  match Table.get? store.sessions id with
  | some session => test session
  | none => false

/-- Takes the number of the next session. -/
def takeId (store : Store S) : SessionId × Store S :=
  (store.nextId, { store with nextId := store.nextId.next })

/-- Adds a session. -/
def insert (store : Store S) (id : SessionId) (session : S) : Store S :=
  { store with sessions := Table.insert store.sessions id session }

end Store

end PeerNet.Net
