import PeerNet.Net.World
import PeerNet.Tcp.Pool

/-!
# Pools of connections on one host

Pools are residents of a host from which no stream can be opened. A pool that listens is kept alive
by its loops when whoever held it lets go of it.
-/

namespace PeerNet.Tcp

/-- What comes of opening a stream to an endpoint. -/
def dial (remote : Endpoint) : Except Error Unit := .error (.io (Net.Isolated.streamFailure remote))

instance : Net.Resident Pool Connection where
  manager pool := pool.manager
  address := Pool.localAddress
  start := Pool.start
  stop := Pool.stop
  drop := Pool.drop
  get pool remote store := pool.connect remote (dial remote) store
  reap := Pool.reap
  tick _ store := store
  settle _ store := Store.settle store

/-- Pools on one host. -/
abbrev World := Net.World Pool Connection

namespace World

/-- A world without pools. -/
def empty : World := Net.World.empty

/-- Sends a package on the connection to a peer. -/
def send (world : World) (name : String) (remote : Endpoint) (package : Frame.Package) :
    World × Option (Except Error Unit) :=
  match world.get name remote with
  | (world, some (.ok card)) => world.onSession card.id fun _ store =>
    Store.sendPackage store card.id package
  | (world, some (.error error)) => (world, some (.error error))
  | (world, none) => (world, none)

end World

end PeerNet.Tcp
