import PeerNet.Proofs.Manager.Backends
import PeerNet.Proofs.Manager.Departures
import PeerNet.Proofs.Tcp.ReadLoops

/-!
# Read loops release their connections

In a pool that reads, every connection has a read loop. A loop that has ended leaves no connection
behind that runs, and the pool drops the connection, whatever the message handler does with the
packages and whoever stops it when. An error handler that panics is the one thing that keeps a loop
from that.

* **One stretch** (`Reading.step_stretch`) of a pool is one of its manager or of a read loop.
* **Loops in a store** (`LoopStore.Orderly`): each keeps to its course. Those that have reported
  their end leave the pool, if no insertion gets on the strand behind the drain (`Reading.Settled`).
* **Any schedule** (`Reading.run_releases`): a loop that has ended, without a panic of the error
  handler, has stopped the connection, has reported its end once, and the pool drops it.
* **The condition is needed** (`Reading.panic_keeps_connection`).
-/

namespace PeerNet

namespace Tcp

open Config (TcpSettings)

/-! ### Loops in a store -/

namespace LoopStore

variable {settings : TcpSettings} {maxBody : Nat} {left fewer : SessionId → Prop}
  {store : LoopStore} {id : SessionId} {loop after : ReadLoop}

/-- Changing one loop leaves the others. -/
theorem get?_change (store : LoopStore) (id other : SessionId) (change : ReadLoop → ReadLoop) :
    Table.get? (store.change id change).sessions other =
      if other = id then (Table.get? store.sessions other).map change
      else Table.get? store.sessions other :=
  Table.get?_adjust store.sessions id other change

/-- Whether a session of the store runs is a matter of the connection under its loop. -/
theorem isRunning_of_get? (found : Table.get? store.sessions id = some loop) :
    store.isRunning id = loop.connection.isRunning := by
  unfold isRunning Net.Store.satisfies
  rw [found]

/-- Changing one loop decides whether its own connection runs, and no other. -/
theorem isRunning_change (found : Table.get? store.sessions id = some loop) (other : SessionId) :
    (store.change id fun _ => after).isRunning other =
      if other = id then after.connection.isRunning else store.isRunning other := by
  unfold isRunning Net.Store.satisfies
  rw [get?_change]
  by_cases same : other = id
  · rw [if_pos same, if_pos same, same, found]
    rfl
  · rw [if_neg same, if_neg same]

/-- A read loop in its place. `left` are those that leave the pool. -/
structure Placed (maxBody : Nat) (left : SessionId → Prop) (store : LoopStore) (id : SessionId)
    (loop : ReadLoop) : Prop where
  /-- Its number was given out. -/
  known : store.issued id = true
  /-- It keeps to its course. -/
  follows : loop.Follows id maxBody
  /-- It leaves the pool if it has reported its end. -/
  leaves : loop.reported ≠ [] → left id

/-- A loop stays in its place while numbers are given out. -/
theorem Placed.of_issued {changed : LoopStore} (placed : Placed maxBody left store id loop)
    (issued : store.issued id = true → changed.issued id = true) :
    Placed maxBody left changed id loop :=
  ⟨issued placed.known, placed.follows, placed.leaves⟩

/-- Whether every read loop is in its place. -/
def Orderly (maxBody : Nat) (left : SessionId → Prop) (store : LoopStore) : Prop :=
  ∀ id loop, Table.get? store.sessions id = some loop → Placed maxBody left store id loop

/-- Loops stay in their places when more of them leave the pool. -/
theorem Orderly.mono (orderly : store.Orderly maxBody fewer)
    (more : ∀ id, store.issued id = true → fewer id → left id) : store.Orderly maxBody left := by
  intro id loop found
  obtain ⟨known, follows, leaves⟩ := orderly id loop found
  exact ⟨known, follows, fun reported => more id known (leaves reported)⟩

/-- A loop goes on. -/
theorem Orderly.change (orderly : store.Orderly maxBody left)
    (found : Table.get? store.sessions id = some loop) (follows : after.Follows id maxBody)
    (leaves : after.reported ≠ [] → left id) :
    (store.change id fun _ => after).Orderly maxBody left := by
  intro other shown
  rw [get?_change]
  split
  case isTrue same =>
    rw [same, found]
    rintro ⟨⟩
    exact ⟨(orderly id loop found).known, follows, leaves⟩
  case isFalse =>
    intro found
    exact (orderly other shown found).of_issued fun known => known

/-- The loops stay in their places when connections are built and stopped. -/
theorem keeps_orderly (settings : TcpSettings)
    (peer : SessionId → Endpoint → Except Error Endpoint) (left : SessionId → Prop) :
    (readingBackend settings peer).Keeps (Orderly settings.maxBody left) where
  build remote {store} orderly := by
    have issued {id : SessionId} (known : store.issued id = true) :
        (Net.Store.takeId store).2.issued id = true :=
      decide_eq_true (Nat.lt_succ_of_lt (of_decide_eq_true known))
    show (addOver settings (peer store.nextId remote) store.nextId
      (Net.Store.takeId store).2).2.Orderly settings.maxBody left
    unfold addOver
    rcases peer store.nextId remote with cause | other
    · intro id loop found
      exact (orderly id loop found).of_issued issued
    · intro id loop
      show Table.get? (Table.insert store.sessions _ _) id = some loop → _
      rw [Table.get?_insert]
      split
      case isTrue new =>
        rintro ⟨⟩
        rw [new]
        refine ⟨decide_eq_true (Nat.lt_succ_self _), ?_, fun reported => absurd rfl reported⟩
        exact ReadLoop.start_follows ⟨store.nextId, other⟩ settings.writeBlock settings.maxBody
      case isFalse =>
        intro found
        exact (orderly id loop found).of_issued issued
  halt id {store} orderly := by
    intro other loop
    show Table.get? (LoopStore.halt id store).sessions other = some loop → _
    rw [halt, get?_change]
    split
    case isTrue same =>
      intro found
      obtain ⟨before, held, rfl⟩ := Option.map_eq_some_iff.mp found
      obtain ⟨known, follows, leaves⟩ := orderly other before held
      -- stopping the connection is a stretch of its own
      exact ⟨known, follows.step ⟨false, false⟩ (.connection .stop), leaves⟩
    case isFalse =>
      intro found
      exact (orderly other loop found).of_issued fun known => known

end LoopStore

/-- A manager can count on connections that are read. -/
theorem readingBackend_lawful (settings : TcpSettings)
    (peer : SessionId → Endpoint → Except Error Endpoint) :
    (readingBackend settings peer).Lawful Net.Store.issued := by
  apply Net.Store.lawful (fun loop : ReadLoop => loop.connection.isRunning)
    (fun loop => { loop with connection := loop.connection.stop })
  · intro loop
    exact loop.connection.isRunning_stop
  · intro id remote store
    unfold LoopStore.addOver
    split
    · exact .refused _
    · next other _ => exact .added ⟨id, other⟩ rfl _ store.host
  · intro id store
    exact ⟨rfl, fun other => LoopStore.get?_change store id other _⟩

/-! ### One stretch -/

namespace Reading

variable {settings : TcpSettings} {peer : SessionId → Endpoint → Except Error Endpoint}
  {backend : Backend LoopStore} {reading after : Reading} {action : Action}

/-- What one stretch does to a pool. -/
inductive Stretch (backend : Backend LoopStore) (reading : Reading) : Action → Reading → Prop where
  /-- The manager and the connections stay as they are. -/
  | aside (action : Action) (handlers : Handlers) :
      Stretch backend reading action { reading with handlers := handlers }
  /-- The manager does something. Nobody tells it of the end of a connection. -/
  | manages (action : Manager.Action) (own : ∀ id, action ≠ .reportEnd id) :
      Stretch backend reading (.manage action)
        { reading with
          manager := (Manager.step backend action reading.manager reading.store).1
          store := (Manager.step backend action reading.manager reading.store).2 }
  /-- A read loop does something, and nothing is reported. -/
  | reads (id : SessionId) (action : ReadLoop.Action) (loop : ReadLoop)
      (found : Table.get? reading.store.sessions id = some loop)
      (quiet : (loop.step reading.handlers action).reported = loop.reported) :
      Stretch backend reading (.read id action)
        { reading with
          store := reading.store.change id fun _ => loop.step reading.handlers action }
  /-- A read loop ends in order, and tells the manager of the end of the connection. -/
  | leaves (id : SessionId) (action : ReadLoop.Action) (loop : ReadLoop)
      (found : Table.get? reading.store.sessions id = some loop)
      (stopped : (loop.step reading.handlers action).connection.isRunning = false) :
      Stretch backend reading (.read id action)
        { reading with
          store := reading.store.change id fun _ => loop.step reading.handlers action
          manager := reading.manager.post (.remove id) }

/-- The stretches of a pool whose loops keep to their course. -/
theorem step_stretch {maxBody : Nat} {left : SessionId → Prop}
    (orderly : reading.store.Orderly maxBody left) (backend : Backend LoopStore) (action : Action) :
    Stretch backend reading action (reading.step backend action) := by
  rcases action with managed | ⟨id, action⟩ | handlers
  case manage =>
    cases managed with
    | reportEnd id => exact .aside _ reading.handlers
    | request | inbound | advance | work | halt | reap | stop | advanceStop =>
      exact .manages _ fun id => Manager.Action.noConfusion
  case read =>
    show Stretch backend reading (.read id action) (reading.readOn id action)
    unfold readOn
    split
    · exact .aside _ reading.handlers
    · next loop found =>
      rcases (orderly id loop found).follows.reports reading.handlers action with
        quiet | ⟨first, reported, stopped⟩
      · have nothing : loop.reports (loop.step reading.handlers action) = [] := by
          unfold ReadLoop.reports
          rw [quiet, Nat.sub_self, List.take_zero]
        dsimp only
        rw [nothing]
        exact .reads id action loop found quiet
      · have own : loop.reports (loop.step reading.handlers action) = [id] := by
          unfold ReadLoop.reports
          rw [first, reported]
          rfl
        dsimp only
        rw [own]
        exact .leaves id action loop found stopped
  case register => exact .aside _ _

/-- Every stretch keeps the loops to their course. -/
theorem orderly_step (orderly : reading.store.Orderly settings.maxBody fun _ => True)
    (action : Action) :
    (reading.step (readingBackend settings peer) action).store.Orderly settings.maxBody
      fun _ => True := by
  have stretch := step_stretch orderly (readingBackend settings peer) action
  generalize reading.step (readingBackend settings peer) action = after at stretch
  rcases stretch with _ | ⟨action⟩ | ⟨id, action, loop, found⟩ | ⟨id, action, loop, found⟩
  · exact orderly
  · exact (LoopStore.keeps_orderly settings peer fun _ => True).step orderly action
  · apply orderly.change found
    · exact (orderly id loop found).follows.step reading.handlers action
    · exact fun _ => trivial
  · apply orderly.change found
    · exact (orderly id loop found).follows.step reading.handlers action
    · exact fun _ => trivial

/-! ### Punctual schedules -/

/-- Whether an action does not put an insertion on the strand behind the drain. -/
def isPunctual (reading : Reading) : Action → Bool
  | .manage action => reading.manager.punctual reading.store action
  | .read _ _ | .register _ => true

/-- Whether no action of a schedule puts an insertion on the strand behind the drain. -/
def punctual (backend : Backend LoopStore) (reading : Reading) : List Action → Bool
  | [] => true
  | action :: rest =>
    reading.isPunctual action && punctual backend (reading.step backend action) rest

/-- The sessions of a pool are accounted for, and who has reported its end leaves. -/
structure Settled (settings : TcpSettings)
    (peer : SessionId → Endpoint → Except Error Endpoint) (reading : Reading) : Prop where
  /-- Every connection that runs is accounted for. -/
  accounted : Manager.Accounted (readingBackend settings peer) Net.Store.issued reading.manager
    reading.store
  /-- The loops keep to their course, and those that have reported their end leave. -/
  orderly : reading.store.Orderly settings.maxBody reading.manager.Leaves

/-- A loop does not bring a connection to life. -/
theorem Settled.change (settled : reading.Settled settings peer) {id : SessionId} {loop : ReadLoop}
    (found : Table.get? reading.store.sessions id = some loop) (action : ReadLoop.Action) :
    Manager.Accounted (readingBackend settings peer) Net.Store.issued reading.manager
      (reading.store.change id fun _ => loop.step reading.handlers action) := by
  apply settled.accounted.fade
  · exact fun _ known => known
  · intro other
    show LoopStore.isRunning _ other = true → LoopStore.isRunning _ other = true
    rw [LoopStore.isRunning_change found]
    split
    case isTrue same =>
      rw [same, LoopStore.isRunning_of_get? found]
      exact (settled.orderly id loop found).follows.isRunning_step
    case isFalse => exact fun running => running

/-- Every stretch keeps the account, if it does not put an insertion on the strand behind the drain.
-/
theorem Settled.step (settled : reading.Settled settings peer)
    (punctual : reading.isPunctual action = true) :
    (reading.step (readingBackend settings peer) action).Settled settings peer := by
  have lawful := readingBackend_lawful settings peer
  have accounted := settled.accounted
  have orderly := settled.orderly
  have stretch := step_stretch orderly (readingBackend settings peer) action
  generalize reading.step (readingBackend settings peer) action = after at stretch
  rcases stretch with _ | ⟨managed, own⟩ | ⟨id, action, loop, found, quiet⟩ |
    ⟨id, action, loop, found, stopped⟩
  case aside => exact ⟨accounted, orderly⟩
  case manages =>
    have genuine : reading.manager.genuine (readingBackend settings peer) Net.Store.issued
        reading.store managed = true := by
      cases managed with
      | reportEnd id => exact absurd rfl (own id)
      | request | inbound | advance | work | halt | reap | stop | advanceStop => rfl
    refine ⟨Manager.accounted_step accounted lawful genuine punctual, ?_⟩
    -- who leaves at this time is fixed, while the sessions change
    have before : reading.store.Orderly settings.maxBody fun id =>
        reading.store.issued id = true ∧ reading.manager.Leaves id :=
      orderly.mono fun id known leaves => ⟨known, leaves⟩
    apply ((LoopStore.keeps_orderly settings peer _).step before managed).mono
    intro id _ leaves
    exact leaves.2.step lawful accounted leaves.1 managed
  case reads =>
    refine ⟨settled.change found action, ?_⟩
    obtain ⟨known, follows, leaves⟩ := orderly id loop found
    apply orderly.change found (follows.step reading.handlers action)
    rw [quiet]
    exact leaves
  case leaves =>
    obtain ⟨known, follows, leaves⟩ := orderly id loop found
    constructor
    · apply (settled.change found action).post ManagerJob.noConfusion fun _ => rfl
      rintro other ⟨⟩
      refine ⟨known, ?_⟩
      show LoopStore.isRunning _ id = false
      rw [LoopStore.isRunning_change found, if_pos rfl]
      exact stopped
    · apply LoopStore.Orderly.change _ found (follows.step reading.handlers action)
      · exact fun _ => Manager.leaves_post accounted id
      · exact orderly.mono fun other _ leaves => leaves.post (.remove id)

/-! ### Any schedule -/

/-- On any schedule the loops keep to their course. -/
theorem orderly_run (orderly : reading.store.Orderly settings.maxBody fun _ => True)
    (schedule : List Action) :
    (reading.run (readingBackend settings peer) schedule).store.Orderly settings.maxBody
      fun _ => True := by
  induction schedule generalizing reading with
  | nil => exact orderly
  | cons action rest ih => exact ih (orderly_step orderly action)

/-- On a schedule without an insertion behind the drain the account is kept to the end. -/
theorem Settled.run (settled : reading.Settled settings peer) {schedule : List Action}
    (punctual : reading.punctual (readingBackend settings peer) schedule = true) :
    (reading.run (readingBackend settings peer) schedule).Settled settings peer := by
  induction schedule generalizing reading with
  | nil => exact settled
  | cons action rest ih =>
    simp only [Reading.punctual, Bool.and_eq_true] at punctual
    exact ih (settled.step punctual.1) punctual.2

/-- In a store without sessions every loop is in its place. -/
theorem orderly_of_nil {store : LoopStore} (nothing : store.sessions = []) (maxBody : Nat)
    (left : SessionId → Prop) : store.Orderly maxBody left := by
  intro id loop found
  rw [nothing] at found
  cases found

/-- A pool that has just been made is settled. -/
theorem start_settled (handlers : Handlers) {store : LoopStore} (nothing : store.sessions = []) :
    (start (.create settings handlers) store).Settled settings.verify peer := by
  refine ⟨?_, orderly_of_nil nothing _ _⟩
  exact Manager.start_accounted _ _ _ true (Net.Store.not_satisfies_of_nil nothing _)

/-- What a read loop has come to. `id` is the number of its connection, and `maxBody` what it takes.
-/
structure Released (id : SessionId) (maxBody : Nat) (loop : ReadLoop) : Prop where
  /-- The error handler was called once at most. -/
  once : loop.notified.length ≤ 1
  /-- The packages that were read are those of the stream, in their order. None is left when the
  loop has ended, unless it has ended because the connection was stopped. -/
  whole : ∃ left, ((Frame.Reader.mk loop.received maxBody).all []).1 = loop.packages ++ left ∧
    (loop.state = .running → left = (loop.reader.all []).1) ∧
    (loop.state ≠ .running → loop.state ≠ .ended none → left = [])
  /-- No end is reported while the loop reads. -/
  quiet : loop.state = .running → loop.reported = []
  /-- Nothing but a panic of the error handler tears the loop down. -/
  torn : loop.state = .torn ↔ ∃ told ∈ loop.notified, told.2 = .panics
  /-- Otherwise the connection does not run when the loop has ended, and its end was reported once.
  -/
  ended : loop.state ≠ .running → (∀ told ∈ loop.notified, told.2 = .returns) →
    loop.connection.isRunning = false ∧ loop.reported = [id]

/-- A loop that keeps to its course has released what it should. -/
theorem released_of_follows {id : SessionId} {maxBody : Nat} {loop : ReadLoop}
    (follows : loop.Follows id maxBody) : Released id maxBody loop := by
  rcases follows.course with ⟨state, silent, quiet, reads⟩ |
    ⟨ending, state, stopped, reported, told, left, all, whole⟩ | ⟨state, quiet, error, told, all⟩
  case reads =>
    refine ⟨?_, ⟨_, reads.so_far, fun _ => rfl, ?_⟩, fun _ => quiet, ?_, ?_⟩
    · simp [silent]
    · exact fun ended => absurd state ended
    · simp [state, silent]
    · exact fun ended => absurd state ended
  case ended =>
    have calm : loop.notified.length ≤ 1 ∧ ¬ ∃ told ∈ loop.notified, told.2 = .panics := by
      rcases told with silent | ⟨error, told⟩
      · simp [silent]
      · simp [told]
    refine ⟨calm.1, ⟨left, all, ?_, ?_⟩, ?_, ?_, ?_⟩
    · simp [state]
    · rintro - stays
      apply whole
      rintro rfl
      exact stays state
    · simp [state]
    · simpa [state] using calm.2
    · exact fun _ _ => ⟨stopped, reported⟩
  case torn =>
    refine ⟨?_, ⟨[], ?_, ?_, ?_⟩, ?_, ?_, ?_⟩
    · simp [told]
    · rw [all, List.append_nil]
    · simp [state]
    · exact fun _ _ => rfl
    · simp [state]
    · simp [state, told]
    · simp [told]

/-- A pool that was created with no connection, after a schedule. -/
def reached (settings : TcpSettings) (handlers : Handlers)
    (peer : SessionId → Endpoint → Except Error Endpoint) (store : LoopStore)
    (schedule : List Action) : Reading :=
  (start (.create settings handlers) store).run (readingBackend settings.verify peer) schedule

/-- **A read loop releases its connection**: whatever is received, whoever stops what when, and
whatever the message handler does, no package that was received whole is lost, and the error handler
is called once at most. When the loop has ended the connection does not run, its end was reported
once, and the pool drops it, if the error handler did not panic. For the pool to do so no insertion
may get on the strand behind the drain. -/
theorem run_releases (settings : TcpSettings) (handlers : Handlers)
    (peer : SessionId → Endpoint → Except Error Endpoint) (store : LoopStore)
    (nothing : store.sessions = []) (schedule : List Action) (id : SessionId) (loop : ReadLoop)
    (found : Table.get? (reached settings handlers peer store schedule).store.sessions id =
      some loop) :
    Released id settings.verify.maxBody loop ∧
      (loop.state ≠ .running → (∀ told ∈ loop.notified, told.2 = .returns) →
        (start (.create settings handlers) store).punctual (readingBackend settings.verify peer)
            schedule = true →
          (reached settings handlers peer store schedule).manager.Leaves id ∧
            ((reached settings handlers peer store schedule).manager.queue = [] →
              Table.get? (reached settings handlers peer store schedule).manager.pool.slots id =
                none)) := by
  have begins : (start (.create settings handlers) store).store.Orderly settings.verify.maxBody
      fun _ => True := orderly_of_nil nothing _ _
  have orderly : (reached settings handlers peer store schedule).store.Orderly
      settings.verify.maxBody fun _ => True := orderly_run begins schedule
  have released := released_of_follows (orderly id loop found).follows
  refine ⟨released, fun ended calm punctual => ?_⟩
  have settled : (reached settings handlers peer store schedule).Settled settings.verify peer :=
    (start_settled handlers nothing).run punctual
  have leaves : (reached settings handlers peer store schedule).manager.Leaves id := by
    apply (settled.orderly id loop found).leaves
    rw [(released.ended ended calm).2]
    exact List.cons_ne_nil id []
  exact ⟨leaves, leaves.gone⟩

/-- No connection. -/
def noLoop : LoopStore := ⟨.start, 0, ⟨1⟩, []⟩

/-- A request finds the gate up, opens a stream, and its connection is built. -/
def connects : List Action :=
  (Pool.passGates 0 ++ [Manager.Action.advance 0 (.ok ()), .work]).map .manage

/-- Bytes that are not the header of a frame. -/
def garbage : Bytes := List.replicate 8 0

/-- Two packages and bytes that are at fault are received. The message handler panics every time,
and the error handler does this. -/
def receives (onError : Handling) : List Action :=
  [.read ⟨1⟩ (.receive ([0x59, 0x54, 0x51, 0x44, 2, 0, 0, 0, 1, 2] ++
      [0x59, 0x54, 0x51, 0x44, 1, 0, 0, 0, 3] ++ garbage)),
    .read ⟨1⟩ (.advance .panics onError), .read ⟨1⟩ (.advance .panics onError),
    .read ⟨1⟩ (.advance .panics onError), .manage .work]

/-- The connection of the pool that has received this. -/
def received (onError : Handling) : Reading :=
  reached .default ⟨true, true⟩ (fun _ remote => .ok remote) noLoop (connects ++ receives onError)

/-- Both packages were read though the message handler has panicked, and the pool has dropped the
connection. -/
theorem run_releases_of_garbage : ∃ loop,
    Table.get? (received .returns).store.sessions ⟨1⟩ = some loop ∧
      loop.packages = [.quick [1, 2], .quick [3]] ∧ loop.connection.isRunning = false ∧
        loop.reported = [⟨1⟩] ∧ Table.get? (received .returns).manager.pool.slots ⟨1⟩ = none := by
  have facts : (Table.get? (received .returns).store.sessions ⟨1⟩).any (fun loop =>
      loop.packages = [.quick [1, 2], .quick [3]] ∧ loop.state ≠ .running ∧
        ∀ told ∈ loop.notified, told.2 = .returns) = true := by
    decide +kernel
  obtain ⟨loop, found, facts⟩ := (Option.any_eq_true _ _).mp facts
  obtain ⟨packages, ended, calm⟩ := of_decide_eq_true facts
  have punctual : (start (.create .default ⟨true, true⟩) noLoop).punctual
      (readingBackend Config.TcpSettings.default.verify fun _ remote => .ok remote)
      (connects ++ receives .returns) = true := by
    decide +kernel
  have idle : (received .returns).manager.queue = [] := by decide +kernel
  obtain ⟨released, drops⟩ := run_releases .default ⟨true, true⟩ (fun _ remote => .ok remote)
    noLoop rfl (connects ++ receives .returns) ⟨1⟩ loop found
  obtain ⟨stopped, reported⟩ := released.ended ended calm
  exact ⟨loop, found, packages, stopped, reported, (drops ended calm punctual).2 idle⟩

/-- **The condition is needed**: an error handler that panics tears the read loop down, and its
connection runs on in the pool with nobody who reads from it. -/
theorem panic_keeps_connection :
    ¬ ∀ (schedule : List Action) (loop : ReadLoop),
      Table.get? (reached .default ⟨true, true⟩ (fun _ remote => .ok remote) noLoop
        schedule).store.sessions ⟨1⟩ = some loop →
        loop.state ≠ .running → loop.connection.isRunning = false ∧ loop.reported = [⟨1⟩] := by
  intro all
  have facts : (Table.get? (received .panics).store.sessions ⟨1⟩).any (fun loop =>
      loop.state ≠ .running ∧ loop.connection.isRunning = true) = true := by
    decide +kernel
  obtain ⟨loop, found, facts⟩ := (Option.any_eq_true _ _).mp facts
  obtain ⟨ended, running⟩ := of_decide_eq_true facts
  have stopped := (all (connects ++ receives .panics) loop found ended).1
  rw [running] at stopped
  cases stopped

end Reading

end Tcp

end PeerNet
