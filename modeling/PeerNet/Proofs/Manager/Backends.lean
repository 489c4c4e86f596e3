import PeerNet.Proofs.Manager.StopRuns
import PeerNet.Tcp.Pool
import PeerNet.Udp.Client
import PeerNet.Udp.Server

/-!
# The three managers leave nothing behind

Pools of connections, clients and servers keep their sessions in stores of their own, and use them
as a manager counts on.

* **Stores** (`Net.Store.lawful`): building adds at most one running session under a number that was
  not given out before, and stopping a session ends it and no other.
* **The three managers** (`Tcp.Pool.backend_lawful`, `Udp.Client.backend_lawful`,
  `Udp.Server.backend_lawful`) use their stores in this way.
* **Nothing outlives a manager** (`run_leavesNothing`): when a stop has returned no session runs
  and the pool is empty.
* **The condition is needed** (`late_insertion_outlives`): a connection whose insertion gets on the
  strand behind the drain runs on in the pool after the stop has returned.
-/

namespace PeerNet

/-! ### Stores -/

namespace Net.Store

variable {S : Type} {store : Store S}

/-- Whether a number was given out. -/
def issued (store : Store S) (id : SessionId) : Bool := id.number < store.nextId.number

/-- What becomes of a store when a session is built: one is added, or none can be. -/
inductive Built (test : S → Bool) (store : Store S) (id : SessionId) :
    Except Error Card × Store S → Prop where
  /-- A session is added. -/
  | added (card : Card) (label : card.id = id) (session : S) (host : Isolated) :
      Built test store id (.ok card, { store.insert id session with host := host })
  /-- No session can be built. -/
  | refused (cause : Error) : Built test store id (.error cause, store)

/-- What becomes of a store when a session is stopped: that one changes, and none other. -/
structure Halted (stop : S → S) (store : Store S) (id : SessionId) (after : Store S) : Prop where
  /-- The same numbers were given out. -/
  nextId : after.nextId = store.nextId
  /-- Only the one session changes. -/
  sessions (other : SessionId) : Table.get? after.sessions other =
    if other = id then (Table.get? store.sessions other).map stop
    else Table.get? store.sessions other

/-- A manager can count on a store whose sessions do not run once they are stopped. -/
theorem lawful (test : S → Bool) (stop : S → S) (stopped : ∀ session, test (stop session) = false)
    (build : SessionId → Endpoint → Store S → Except Error Card × Store S)
    (halt : SessionId → Store S → Store S)
    (builds : ∀ id remote store, Built test store id (build id remote store))
    (halts : ∀ id store, Halted stop store id (halt id store)) :
    Backend.Lawful ⟨satisfies test, takeId, build, halt⟩ (issued (S := S)) where
  fresh store := by simp [issued, takeId]
  issued_takeId {store id} known := by
    have less : id.number < store.nextId.number := of_decide_eq_true known
    exact decide_eq_true (Nat.lt_succ_of_lt less)
  issued_build {store id other remote} known := by
    have built := builds id remote store
    dsimp only
    generalize build id remote store = result at built
    cases built <;> exact known
  issued_halt {store id other} known := by
    have halted := halts id store
    simp only [issued, halted.nextId]
    exact known
  alive_takeId {store id} alive := alive
  alive_build {store id other remote} alive := by
    have built := builds id remote store
    dsimp only at alive
    generalize build id remote store = result at built alive
    cases built with
    | refused => exact .inr alive
    | added card label session host =>
      by_cases new : other = id
      · exact .inl new
      · simp only [satisfies, insert, Table.get?_insert, if_neg new] at alive
        exact .inr alive
  alive_build_error {store id other remote cause} failed alive := by
    have built := builds id remote store
    dsimp only at failed alive
    generalize build id remote store = result at built failed alive
    cases built with
    | refused => exact alive
    | added => cases failed
  card_build {store id remote card} built_card := by
    have built := builds id remote store
    dsimp only at built_card
    generalize build id remote store = result at built built_card
    cases built with
    | refused => cases built_card
    | added added label => exact Except.ok.inj built_card ▸ label
  alive_halt {store id other} alive := by
    have halted := halts id store
    simp only [satisfies, halted.sessions] at alive
    by_cases same : other = id
    · rw [if_pos same] at alive
      cases found : Table.get? store.sessions other with
      | none =>
        rw [found] at alive
        cases alive
      | some session =>
        rw [found] at alive
        exact absurd alive (Bool.eq_false_iff.mp (stopped session))
    · rw [if_neg same] at alive
      exact ⟨same, alive⟩

/-- In a store without sessions no number passes a test. -/
theorem not_satisfies_of_nil (nothing : store.sessions = []) (test : S → Bool) (id : SessionId) :
    store.satisfies test id = false := by
  unfold satisfies
  rw [nothing]
  rfl

end Net.Store

/-! ### The three managers -/

/-- A connection that is stopped does not run. -/
theorem Tcp.Connection.isRunning_stop (connection : Connection) :
    connection.stop.isRunning = false := by
  unfold Connection.stop
  split
  · simp only [Connection.isRunning]
    split <;> rfl
  all_goals next phase => simp [Connection.isRunning, phase]

/-- A manager can count on the connections of a pool, wherever the peers say they are. -/
theorem Tcp.Pool.backendOver_lawful (pool : Tcp.Pool)
    (peer : SessionId → Endpoint → Except Error Endpoint) :
    (pool.backendOver peer).Lawful Net.Store.issued := by
  refine Net.Store.lawful _ Connection.stop Connection.isRunning_stop _ _ ?_ ?_
  · intro id remote store
    unfold Store.addOver
    split
    · exact .refused _
    · next other _ => exact .added ⟨id, other⟩ rfl _ store.host
  · intro id store
    exact ⟨rfl, (Table.get?_adjust store.sessions id · Connection.stop)⟩

/-- A manager can count on the connections of a pool. -/
theorem Tcp.Pool.backend_lawful (pool : Tcp.Pool) : pool.backend.Lawful Net.Store.issued :=
  pool.backendOver_lawful fun _ remote => .ok remote

/-- A session over datagrams that is stopped does not run. -/
theorem Udp.Session.isRunning_stop (session : Session) : session.stop.isRunning = false := by
  unfold Session.stop
  split
  case h_1 | h_2 =>
    simp only [Session.isRunning]
    split <;> rfl
  all_goals next phase => simp [Session.isRunning, phase]

/-- Halting a session over datagrams changes that session and no other. -/
theorem Udp.Store.halt_halted (id : SessionId) (store : Udp.Store) :
    Net.Store.Halted Session.stop store id (Udp.Store.halt id store) := by
  unfold Udp.Store.halt Udp.Store.change
  split
  case h_1 absent =>
    refine ⟨rfl, fun other => ?_⟩
    split
    case isTrue same => rw [same, absent, Option.map_none]
    case isFalse => rfl
  case h_2 => exact ⟨rfl, (Table.get?_adjust store.sessions id · Session.stop)⟩

/-- A session that was created just now is started and added. -/
theorem Udp.Store.add_built (store : Udp.Store) (host : Net.Isolated) (id : SessionId)
    (remote origin : Endpoint) (ownsSocket : Bool) (settings : Config.UdpSessionSettings) :
    Net.Store.Built Session.isRunning store id
      (Udp.Store.add { store with host := host }
        (.create ⟨id, remote⟩ origin ownsSocket settings)) :=
  .added ⟨id, remote⟩ rfl _ host

/-- A manager can count on the sessions of a client pool. -/
theorem Udp.Client.backend_lawful (settings : Config.UdpManagerSettings) :
    (Udp.Client.backend settings).Lawful Net.Store.issued := by
  refine Net.Store.lawful _ Session.stop Session.isRunning_stop _ _ ?_ Store.halt_halted
  intro id remote store
  unfold Client.build
  split
  · exact .refused _
  · exact Store.add_built store _ id remote _ true settings.session

/-- A manager can count on the sessions of a server, whether its socket is bound or not. -/
theorem Udp.Server.backend_lawful (server : Udp.Server) :
    server.backend.Lawful Net.Store.issued := by
  refine Net.Store.lawful _ Session.stop Session.isRunning_stop _ _ ?_ Store.halt_halted
  intro id remote store
  unfold Server.build
  split
  · exact Store.add_built store store.host id remote _ false server.hub.settings.session
  · exact .refused _

/-- The managers that there are, when they take requests and have built no session yet. -/
inductive Begins : {S : Type} → Backend (Net.Store S) → Manager → Net.Store S → Prop where
  /-- A pool of connections that was created. -/
  | pool (settings : Config.TcpSettings) (handlers : Tcp.Handlers) (store : Tcp.Store)
      (nothing : store.sessions = []) :
      Begins (Tcp.Pool.create settings handlers).backend (Tcp.Pool.create settings handlers).manager
        store
  /-- A client that was created and has started. -/
  | client (settings : Config.UdpManagerSettings) (registered : Bool) (store : Udp.Store)
      (nothing : store.sessions = []) (client : Udp.Client)
      (started : (Udp.Client.create settings registered).start store.now = (client, .ok ())) :
      Begins (Udp.Client.backend client.hub.settings) client.hub.manager store
  /-- A server that was created and has started. -/
  | server (settings : Config.UdpManagerSettings) (registered : Bool) (store : Udp.Store)
      (nothing : store.sessions = []) (server : Udp.Server) (bound : Udp.Store)
      (started : (Udp.Server.create settings registered).start store = (server, bound, .ok ())) :
      Begins server.backend server.hub.manager bound

/-- Each of them is a manager as `Manager.start` makes one, over a store that it can count on. -/
theorem Begins.exists_start {S : Type} {backend : Backend (Net.Store S)} {manager : Manager}
    {store : Net.Store S} (begins : Begins backend manager store) :
    backend.Lawful Net.Store.issued ∧ (∀ id, backend.alive store id = false) ∧
      ∃ kind poolName capacity, manager = .start kind poolName capacity true := by
  cases begins with
  | pool settings handlers store nothing =>
    exact ⟨Tcp.Pool.backend_lawful _, Net.Store.not_satisfies_of_nil nothing _, _, _, _, rfl⟩
  | client settings registered store nothing client started =>
    cases started
    exact ⟨Udp.Client.backend_lawful _, Net.Store.not_satisfies_of_nil nothing _, _, _, _, rfl⟩
  | server settings registered first nothing server bound started =>
    unfold Udp.Server.start at started
    split at started
    · cases started
    · dsimp only at started
      split at started
      · cases started
      · cases started
        exact ⟨Udp.Server.backend_lawful _, Net.Store.not_satisfies_of_nil nothing _, _, _, _, rfl⟩

/-- **Nothing outlives a manager that has stopped**, be it a pool of connections, a client or a
server: whatever is asked of it meanwhile, and whatever its sessions do, no session runs and the
pool is empty, if no insertion gets on the strand behind the drain. -/
theorem run_leavesNothing {S : Type} {backend : Backend (Net.Store S)} {manager : Manager}
    {store : Net.Store S} (begins : Begins backend manager store)
    (schedule : List Manager.Action)
    (genuine : Manager.checks backend (Manager.genuine backend Net.Store.issued) manager store
      schedule = true)
    (punctual : Manager.checks backend Manager.punctual manager store schedule = true)
    (finished : (Manager.run backend manager store schedule).1.progress = .finished) :
    (∀ id, backend.alive (Manager.run backend manager store schedule).2 id = false) ∧
      (Manager.run backend manager store schedule).1.pool.Vacant := by
  obtain ⟨lawful, nothing, kind, poolName, capacity, rfl⟩ := begins.exists_start
  exact Manager.run_start_leavesNothing lawful kind poolName capacity nothing genuine punctual
    finished

/-! ### An insertion behind the drain -/

namespace Tcp.Pool

/-- A pool of connections. -/
def somePool : Tcp.Pool := create .default ⟨true, true⟩

/-- No connection. -/
def noConnection : Tcp.Store := ⟨.start, 0, ⟨1⟩, []⟩

/-- A request finds the gate up, opens a stream and finds the gate still up. -/
def passGates (request : Nat) : List Manager.Action :=
  [.request (.localhost 9000), .advance request (.ok ()), .advance request (.ok ()),
    .advance request (.ok ()), .advance request (.ok ())]

/-- The pool is stopped and drained. -/
def drain : List Manager.Action := [.stop, .advanceStop, .work]

/-- The strand is closed, the connections are stopped, and the stop returns. -/
def close : List Manager.Action := [.advanceStop, .advanceStop]

/-- A connection is built before the drain, and does not outlive the pool. -/
theorem run_leavesNothing_of_built :
    (Manager.run somePool.backend somePool.manager noConnection
        (passGates 0 ++ [.advance 0 (.ok ()), .work])).2.isRunning ⟨1⟩ = true ∧
      Manager.checks somePool.backend Manager.punctual somePool.manager noConnection
        (passGates 0 ++ [.advance 0 (.ok ()), .work] ++ drain ++ close) = true ∧
      ∀ id, somePool.backend.alive (Manager.run somePool.backend somePool.manager noConnection
        (passGates 0 ++ [.advance 0 (.ok ()), .work] ++ drain ++ close)).2 id = false := by
  have built : (Manager.run somePool.backend somePool.manager noConnection
      (passGates 0 ++ [.advance 0 (.ok ()), .work])).2.isRunning ⟨1⟩ = true := by
    decide +kernel
  have genuine : Manager.checks somePool.backend
      (Manager.genuine somePool.backend Net.Store.issued) somePool.manager noConnection
      (passGates 0 ++ [.advance 0 (.ok ()), .work] ++ drain ++ close) = true := by
    decide +kernel
  have punctual : Manager.checks somePool.backend Manager.punctual somePool.manager noConnection
      (passGates 0 ++ [.advance 0 (.ok ()), .work] ++ drain ++ close) = true := by
    decide +kernel
  have finished : (Manager.run somePool.backend somePool.manager noConnection
      (passGates 0 ++ [.advance 0 (.ok ()), .work] ++ drain ++ close)).1.progress = .finished := by
    decide +kernel
  have begins : Begins somePool.backend somePool.manager noConnection :=
    .pool .default ⟨true, true⟩ noConnection rfl
  exact ⟨built, punctual, (run_leavesNothing begins _ genuine punctual finished).1⟩

/-- **The condition is needed**: a request that found the gate up puts its insertion on the strand
between the drain and the end of the stop, and its connection outlives the pool. -/
theorem late_insertion_outlives :
    ¬ ∀ schedule : List Manager.Action,
      (Manager.run somePool.backend somePool.manager noConnection schedule).1.progress =
          .finished →
        (Manager.run somePool.backend somePool.manager noConnection schedule).1.queue = [] →
          (∀ id, somePool.backend.alive (Manager.run somePool.backend somePool.manager
            noConnection schedule).2 id = false) ∧
          (Manager.run somePool.backend somePool.manager noConnection schedule).1.pool.Vacant := by
  intro all
  have outlives := all (passGates 0 ++ drain ++ [.advance 0 (.ok ())] ++ close ++ [.work])
    (by decide +kernel) (by decide +kernel)
  have running : somePool.backend.alive (Manager.run somePool.backend somePool.manager
      noConnection (passGates 0 ++ drain ++ [.advance 0 (.ok ())] ++ close ++ [.work])).2 ⟨1⟩ =
        true := by
    decide +kernel
  rw [outlives.1] at running
  cases running

end Tcp.Pool

end PeerNet
