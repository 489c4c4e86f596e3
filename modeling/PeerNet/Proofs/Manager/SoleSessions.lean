import PeerNet.Proofs.Manager.Backends
import PeerNet.Proofs.Manager.Constructions

/-!
# The three managers build a session once

Pools of connections, clients and servers run a session as soon as they have built it, and build the
next one for the same endpoint only when it has ended.

* **The three managers** (`Tcp.Pool.backendOver_prompt`, `Udp.Client.backend_prompt`,
  `Udp.Server.backend_prompt`) build sessions that run.
* **Streams that lead elsewhere** (`Ready.pool`): a connection may report another peer than the
  address that its stream was opened to.
* **One session for every endpoint** (`run_buildsOnce`), whatever is asked of them at once.
-/

namespace PeerNet

/-- A manager whose store takes numbers in order can count on sessions that run once built. -/
theorem Net.Store.prompt {S : Type} {backend : Backend (Net.Store S)}
    (lawful : backend.Lawful Net.Store.issued) (takes : backend.takeId = Net.Store.takeId)
    (runs : ∀ store id remote card, (backend.build id remote store).1 = .ok card →
      backend.alive (backend.build id remote store).2 id = true) :
    backend.Prompt Net.Store.issued where
  toLawful := lawful
  issued_next store := by
    rw [takes]
    exact decide_eq_true (Nat.lt_succ_self _)
  alive_built := runs _ _ _ _

/-- A store has the session that was put in last. -/
theorem Net.Store.satisfies_insert {S : Type} (store : Net.Store S) (test : S → Bool)
    (id : SessionId) (session : S) :
    (store.insert id session).satisfies test id = test session := by
  simp only [satisfies, insert, Table.get?_insert, if_true]

/-! ### The three managers -/

/-- The connections of a pool can be used as soon as they are built, wherever the peers say they
are. -/
theorem Tcp.Pool.backendOver_prompt (pool : Tcp.Pool)
    (peer : SessionId → Endpoint → Except Error Endpoint) :
    (pool.backendOver peer).Prompt Net.Store.issued := by
  apply Net.Store.prompt (pool.backendOver_lawful peer) rfl
  intro store id remote card
  simp only [backendOver, Store.addOver]
  split
  · intro built
    cases built
  · intro _
    exact Net.Store.satisfies_insert ..

/-- A session that was created just now runs once it was added. -/
theorem Udp.Store.isRunning_add (store : Udp.Store) (id : SessionId) (remote origin : Endpoint)
    (ownsSocket : Bool) (settings : Config.UdpSessionSettings) :
    (store.add (.create ⟨id, remote⟩ origin ownsSocket settings)).2.isRunning id = true :=
  Net.Store.satisfies_insert ..

/-- The sessions of a client pool can be used as soon as they are built. -/
theorem Udp.Client.backend_prompt (settings : Config.UdpManagerSettings) :
    (Udp.Client.backend settings).Prompt Net.Store.issued := by
  apply Net.Store.prompt (backend_lawful settings) rfl
  intro store id remote card
  simp only [backend, build]
  split
  · intro built
    cases built
  · intro _
    exact Store.isRunning_add ..

/-- The sessions of a server can be used as soon as they are built. -/
theorem Udp.Server.backend_prompt (server : Udp.Server) :
    server.backend.Prompt Net.Store.issued := by
  apply Net.Store.prompt server.backend_lawful rfl
  intro store id remote card
  simp only [backend, build]
  split
  · intro _
    exact Store.isRunning_add ..
  · intro built
    cases built

/-- The managers that there are, when they take requests and have built no session yet. -/
inductive Ready : {S : Type} → Backend (Net.Store S) → Manager → Net.Store S → Prop where
  /-- One whose sessions report the endpoints that they are built for. -/
  | begins {S : Type} {backend : Backend (Net.Store S)} {manager : Manager} {store : Net.Store S}
      (begins : Begins backend manager store) : Ready backend manager store
  /-- A pool of connections that was created, whose streams lead to any peers, or to none that they
  can tell. -/
  | pool (settings : Config.TcpSettings) (handlers : Tcp.Handlers)
      (peer : SessionId → Endpoint → Except Error Endpoint) (store : Tcp.Store)
      (nothing : store.sessions = []) :
      Ready ((Tcp.Pool.create settings handlers).backendOver peer)
        (Tcp.Pool.create settings handlers).manager store

/-- Whichever of the managers it is, its sessions can be used as soon as they are built. -/
theorem Begins.prompt {S : Type} {backend : Backend (Net.Store S)} {manager : Manager}
    {store : Net.Store S} (begins : Begins backend manager store) :
    backend.Prompt Net.Store.issued := by
  cases begins with
  | pool => exact Tcp.Pool.backendOver_prompt _ fun _ remote => .ok remote
  | client => exact Udp.Client.backend_prompt _
  | server => exact Udp.Server.backend_prompt _

/-- Each of them is a manager as `Manager.start` makes one, over a store whose sessions run once
they are built. -/
theorem Ready.exists_start {S : Type} {backend : Backend (Net.Store S)} {manager : Manager}
    {store : Net.Store S} (ready : Ready backend manager store) :
    backend.Prompt Net.Store.issued ∧ (∀ id, backend.alive store id = false) ∧
      ∃ kind poolName capacity, manager = .start kind poolName capacity true := by
  cases ready with
  | begins begins =>
    obtain ⟨_, nothing, started⟩ := begins.exists_start
    exact ⟨begins.prompt, nothing, started⟩
  | pool settings handlers peer store nothing =>
    exact ⟨Tcp.Pool.backendOver_prompt _ peer, Net.Store.not_satisfies_of_nil nothing _, _, _, _,
      rfl⟩

/-! ### Any schedule -/

/-- **One session for every endpoint**: a pool of connections, a client or a server that nobody
stops builds one session at a time for every endpoint, however the requests, the strand, the sweeps,
the reports of ended connections and the ends of sessions are scheduled. Every request that returns
a session returns one that runs, and all requests for an endpoint return the same one while it does.
-/
theorem run_buildsOnce {S : Type} {backend : Backend (Net.Store S)} {manager : Manager}
    {store : Net.Store S} (ready : Ready backend manager store) (schedule : List Manager.Action)
    (goes_on : .stop ∉ schedule)
    (genuine : Manager.checks backend (Manager.genuine backend Net.Store.issued) manager store
      schedule = true) : Manager.BuildsOnce backend manager store schedule := by
  obtain ⟨prompt, nothing, kind, poolName, capacity, rfl⟩ := ready.exists_start
  exact Manager.run_start_buildsOnce prompt kind poolName capacity nothing goes_on genuine

namespace Tcp.Pool

/-- The first stream leads elsewhere than to the address that it was opened to. -/
def leadElsewhere (id : SessionId) (remote : Endpoint) : Except Error Endpoint :=
  .ok (if id = ⟨1⟩ then .localhost 9001 else remote)

/-- Two requests miss the directory and open streams, and both look for a session on the strand. The
session that was built ends, another request has it replaced, and its end is reported late. One more
request looks into the directory. -/
def raceAndReplace : List Manager.Action :=
  passGates 0 ++ passGates 1 ++ [.advance 0 (.ok ()), .advance 1 (.ok ()), .work, .work] ++
    [.halt ⟨1⟩] ++ passGates 2 ++ [.advance 2 (.ok ()), .work] ++ [.reportEnd ⟨1⟩, .work] ++
    [.request (.localhost 9000), .advance 3 (.ok ()), .advance 3 (.ok ())]

/-- The racing requests return the first session, and the others its replacement. -/
theorem run_buildsOnce_of_race :
    (Manager.constructions (somePool.backendOver leadElsewhere) somePool.manager noConnection
        raceAndReplace).map PeerNet.Pool.Registration.id = [⟨2⟩, ⟨1⟩] ∧
      (List.range 4).map (Manager.run (somePool.backendOver leadElsewhere) somePool.manager
          noConnection raceAndReplace).1.answerOf =
        [some (.ok ⟨⟨1⟩, .localhost 9001⟩), some (.ok ⟨⟨1⟩, .localhost 9001⟩),
          some (.ok ⟨⟨2⟩, .localhost 9000⟩), some (.ok ⟨⟨2⟩, .localhost 9000⟩)] ∧
      Manager.BuildsOnce (somePool.backendOver leadElsewhere) somePool.manager noConnection
        raceAndReplace := by
  have ready : Ready (somePool.backendOver leadElsewhere) somePool.manager noConnection :=
    .pool .default ⟨true, true⟩ leadElsewhere noConnection rfl
  have goes_on : .stop ∉ raceAndReplace := by
    simp [raceAndReplace, passGates]
  have genuine : Manager.checks (somePool.backendOver leadElsewhere)
      (Manager.genuine (somePool.backendOver leadElsewhere) Net.Store.issued) somePool.manager
      noConnection raceAndReplace = true := by
    decide +kernel
  exact ⟨by decide +kernel, by decide +kernel, run_buildsOnce ready _ goes_on genuine⟩

end Tcp.Pool

end PeerNet
