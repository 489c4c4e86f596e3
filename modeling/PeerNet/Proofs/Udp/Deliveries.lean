import PeerNet.Proofs.Manager.Gates
import PeerNet.Proofs.Udp.Demultiplexing

/-!
# What becomes of the datagrams that a server accepts

A datagram that the receive loop has given to a session waits on the strand of the session until
it is handed to the handler. A session may stop between the moment when the loop is told of it and
the moment when it is given the datagram, and its strand takes nothing any more.

* **Deliveries** (`deliveries`): the datagrams that a schedule gives to sessions, and whether they
  came in time.
* **Sessions** (`Store.Kept`): every session holds the datagrams that it was given in time, in
  this order, and no others.
* **Any schedule** (`run_loses_only_late`): the datagrams that were accepted are in the hands of
  the loop or of sessions, but for those that came too late.
* **The condition is needed** (`idle_stop_loses_datagram`): nobody stops a session but its own
  timer.
-/

namespace PeerNet.Udp

/-- A datagram that was given to a session. -/
structure Delivery where
  /-- The datagram and the session. -/
  handover : Handover
  /-- Whether the session ran. -/
  inTime : Bool
  deriving DecidableEq, Repr

/-- What a session was given in time. -/
def takenBy (id : SessionId) (deliveries : List Delivery) : List Bytes :=
  (deliveries.filter fun delivery => delivery.inTime && delivery.handover.card.id = id).map
    fun delivery => delivery.handover.datagram.data

theorem takenBy_append (id : SessionId) (front back : List Delivery) :
    takenBy id (front ++ back) = takenBy id front ++ takenBy id back := by
  simp [takenBy]

/-- What was given to one session was not given to another. -/
theorem takenBy_of_other {id other : SessionId} {deliveries : List Delivery}
    (own : ∀ delivery ∈ deliveries, delivery.handover.card.id = id) (ne : other ≠ id) :
    takenBy other deliveries = [] := by
  have none : (deliveries.filter fun delivery =>
      delivery.inTime && delivery.handover.card.id = other) = [] := by
    apply List.filter_eq_nil_iff.mpr
    intro delivery mem
    have same := own delivery mem
    simp [same, Ne.symm ne]
  rw [takenBy, none, List.map_nil]

/-! ### Sessions -/

/-- Every session holds what it was given in time. -/
structure Store.Kept (deliveries : List Delivery) (store : Store) : Prop where
  /-- The numbers of sessions were given out. -/
  issued : ∀ {id session}, Table.get? store.sessions id = some session →
    Net.Store.issued store id = true
  /-- They hold what they were given in time. -/
  holds : ∀ {id session}, Table.get? store.sessions id = some session →
    session.Fed ∧ session.held = takenBy id deliveries
  /-- What was given was given to sessions that are there. -/
  shows : ∀ delivery ∈ deliveries, store.Shows delivery.handover.card

namespace Store.Kept

variable {store : Store} {deliveries : List Delivery}

/-- A session does something, and may be given something by it. -/
theorem change (kept : store.Kept deliveries) (id : SessionId) {action : Session.Action}
    {given : List Delivery} (own : ∀ delivery ∈ given, delivery.handover.card.id = id)
    (there : ∀ delivery ∈ given, store.Shows delivery.handover.card)
    (gains : ∀ session : Session, Table.get? store.sessions id = some session → session.Fed →
      (session.step true action).held = session.held ++ takenBy id given) :
    Kept (deliveries ++ given) (store.change id fun session => session.step true action) := by
  constructor
  · intro other session found
    rw [get?_change] at found
    have issued : Net.Store.issued store other = true := by
      rcases before : Table.get? store.sessions other with _ | old
      · rw [before] at found
        split at found <;> cases found
      · exact kept.issued before
    simpa only [Net.Store.issued, nextId_change] using issued
  · intro other session found
    rw [get?_change] at found
    rw [takenBy_append]
    split at found
    · next same =>
      obtain ⟨old, before, rfl⟩ := Option.map_eq_some_iff.mp found
      obtain ⟨fed, held⟩ := kept.holds before
      rw [same] at before held ⊢
      exact ⟨fed.step action, (gains old before fed).trans (by rw [held])⟩
    · next ne =>
      rw [takenBy_of_other own ne, List.append_nil]
      exact kept.holds found
  · intro delivery mem
    rcases List.mem_append.mp mem with mem | mem
    · exact (kept.shows delivery mem).change id true action
    · exact (there delivery mem).change id true action

/-- A session does something, and is not given anything. -/
theorem steady (kept : store.Kept deliveries) (id : SessionId) {action : Session.Action}
    (unfed : ∀ data, action ≠ .deliver data) :
    Kept deliveries (store.change id fun session => session.step true action) := by
  rw [← List.append_nil deliveries]
  refine kept.change id nofun nofun ?_
  intro session _ fed
  have steady : Session.Steady true session (session.step true action) :=
    Session.step_steady fed.absent unfed
  rw [steady.held rfl]
  exact (List.append_nil _).symm

/-- A number is given out. -/
theorem takeId (kept : store.Kept deliveries) : Kept deliveries (Net.Store.takeId store).2 :=
  ⟨fun found => decide_eq_true (Nat.lt_succ_of_lt (of_decide_eq_true (kept.issued found))),
    kept.holds, fun delivery mem => (kept.shows delivery mem).takeId⟩

/-- A session is added that holds nothing. -/
theorem insert (kept : store.Kept deliveries) {session : Session} (fed : session.Fed)
    (nothing : session.held = []) :
    Kept deliveries ((Net.Store.takeId store).2.insert store.nextId session) := by
  have found_iff (id : SessionId) :
      Table.get? ((Net.Store.takeId store).2.insert store.nextId session).sessions id
        = if id = store.nextId then some session else Table.get? store.sessions id :=
    Table.get?_insert ..
  constructor
  · intro id other found
    rw [found_iff] at found
    split at found
    · next same =>
      rw [same]
      exact decide_eq_true (Nat.lt_succ_self _)
    · exact decide_eq_true (Nat.lt_succ_of_lt (of_decide_eq_true (kept.issued found)))
  · intro id other found
    rw [found_iff] at found
    split at found
    · next same =>
      obtain rfl : session = other := Option.some.inj found
      refine ⟨fed, nothing.trans ?_⟩
      -- nothing was given to a session with this number
      have none : (deliveries.filter fun delivery =>
          delivery.inTime && delivery.handover.card.id = id) = [] := by
        apply List.filter_eq_nil_iff.mpr
        intro delivery mem
        have less : delivery.handover.card.id.number < store.nextId.number :=
          of_decide_eq_true (kept.shows delivery mem).issued
        have ne : delivery.handover.card.id ≠ id := by
          rintro eq
          rw [eq, same] at less
          exact Nat.lt_irrefl _ less
        simp [ne]
      rw [takenBy, none, List.map_nil]
    · exact kept.holds found
  · intro delivery mem
    exact (kept.shows delivery mem).insert session

/-- What sessions hold is a matter of the sessions and their numbers alone. -/
theorem of_same {changed : Store} (kept : store.Kept deliveries)
    (nextId : changed.nextId = store.nextId) (sessions : changed.sessions = store.sessions) :
    changed.Kept deliveries := by
  constructor
  · intro id session found
    have issued := kept.issued (sessions ▸ found)
    simpa only [Net.Store.issued, nextId] using issued
  · intro id session found
    exact kept.holds (sessions ▸ found)
  · intro delivery mem
    exact (kept.shows delivery mem).of_same nextId sessions

end Store.Kept

namespace Server

variable {server : Server} {store : Store}

/-- The manager of a server loses nothing. -/
theorem backend_keeps (server : Server) (deliveries : List Delivery) :
    server.backend.Keeps fun store => store.Kept deliveries := by
  constructor
  · intro remote store kept
    have builds := server.backend_builds remote store
    show Store.Kept deliveries (Manager.builder server.backend remote store.nextId store).2
    generalize Manager.builder server.backend remote store.nextId store = result at builds
    cases builds with
    | added session _ fed nothing => exact kept.insert fed nothing
    | unbound => exact kept.takeId
  · intro id store kept
    have stopped : ∀ data, Session.Action.stop ≠ .deliver data := nofun
    exact kept.steady id stopped

/-! ### Deliveries -/

/-- The datagram that an action gives to a session, and whether it comes in time. -/
def delivery? (server : Server) (store : Store) (action : ServerAction) : Option Delivery :=
  (server.handover? action).map fun handover => ⟨handover, store.isRunning handover.card.id⟩

/-- The datagrams that a schedule gives to sessions. -/
def deliveries (server : Server) (store : Store) : List ServerAction → List Delivery
  | [] => []
  | action :: rest =>
    (server.delivery? store action).toList
      ++ deliveries (server.step store action).1 (server.step store action).2 rest

/-- What a schedule delivers is what its parts deliver. -/
theorem deliveries_append (server : Server) (store : Store) (front back : List ServerAction) :
    server.deliveries store (front ++ back) = server.deliveries store front
      ++ (server.run store front).1.deliveries (server.run store front).2 back := by
  induction front generalizing server store with
  | nil => rfl
  | cons action rest ih =>
    simp only [List.cons_append, deliveries, ih, List.append_assoc]
    rfl

/-! ### One step -/

/-- Every session goes on to hold what it is given in time. -/
theorem kept_step {deliveries : List Delivery} (kept : store.Kept deliveries)
    (registered : server.hub.registered = true) (action : ServerAction)
    (unfed : ∀ id data, action ≠ .session id (.deliver data))
    (shows : ∀ handover, server.handover? action = some handover → store.Shows handover.card) :
    Store.Kept (deliveries ++ (server.delivery? store action).toList)
      (server.step store action).2 := by
  have unchanged {changed : Store} (kept : changed.Kept deliveries) :
      changed.Kept (deliveries ++ (none : Option Delivery).toList) := by
    rwa [Option.toList_none, List.append_nil]
  rcases action with action | datagram | _ | _ | _ | ⟨id, action⟩ | milliseconds
  case manage => exact unchanged ((server.backend_keeps deliveries).step kept action)
  case session =>
    simp only [step, registered]
    exact unchanged (kept.steady id fun data eq => unfed id data (eq ▸ rfl))
  case elapse => exact unchanged (kept.of_same rfl rfl)
  case advanceLoop =>
    simp only [step, delivery?]
    rcases server.advanceLoop_hands store with ⟨request, datagram, card, -, -, gives, hands⟩ | still
    · rw [gives, hands]
      have there : store.Shows card := shows _ gives
      have given : Store.Kept (deliveries ++ [⟨⟨datagram, card⟩, store.isRunning card.id⟩])
          (store.change card.id fun session => session.step true (.deliver datagram.data)) := by
        refine kept.change card.id ?_ ?_ ?_
        · intro delivery mem
          rw [List.mem_singleton.mp mem]
        · intro delivery mem
          rw [List.mem_singleton.mp mem]
          exact there
        · intro session found fed
          have runs : store.isRunning card.id = session.isRunning := by
            rw [Store.isRunning, Net.Store.satisfies, found]
          show (session.deliver datagram.data).held = _
          rw [fed.held_deliver, runs]
          rcases session.isRunning <;> simp [takenBy]
      exact given
    · obtain ⟨gives, -, same⟩ := still
      rw [gives, same]
      exact unchanged kept
  all_goals exact unchanged kept

/-! ### A server that runs -/

/-- The gate of a server is up until it is stopped, and its loop goes on as long. -/
structure Gated (server : Server) : Prop where
  /-- The gate is up until the loops are told to end. -/
  gate : server.hub.manager.OpenGate
  /-- The loop only ends when it is told to. -/
  goes : server.loop = .ended → server.hub.manager.cancelled = true

/-- Every step keeps the gate up and the loop going until the loops are told to end. -/
theorem Turn.gated {after : Server} {changed : Store} (turn : Turn server store after changed)
    (gated : server.Gated) : after.Gated := by
  obtain ⟨gate, goes⟩ := gated
  rcases turn
  case manages action =>
    refine ⟨gate.step _ action store, fun ended => ?_⟩
    exact Manager.cancelled_step gate _ action store (goes ended)
  case ends told => exact ⟨gate, fun _ => told⟩
  case fails => exact ⟨gate.lower.1, fun _ => gate.lower.2⟩
  case hands => exact ⟨gate, nofun⟩
  case takes => exact ⟨gate, nofun⟩
  case waits => exact ⟨gate, nofun⟩
  case asksAgain => exact ⟨gate, nofun⟩
  all_goals exact ⟨gate, goes⟩

/-- The loop of a server that runs goes on. -/
theorem Gated.loop_ne (gated : server.Gated) (running : server.hub.isRunning = true) :
    server.loop ≠ .ended := by
  intro ended
  have told := gated.goes ended
  have gate : server.hub.isRunning = !server.hub.manager.cancelled := gated.gate
  rw [running, told] at gate
  cases gate

/-! ### Any schedule -/

/-- What a server has logged as handed over is what was delivered, in this order. -/
theorem run_handovers (server : Server) (store : Store) (schedule : List ServerAction) :
    (server.run store schedule).1.handovers
      = server.handovers ++ (server.deliveries store schedule).map Delivery.handover := by
  induction schedule generalizing server store with
  | nil => exact (List.append_nil _).symm
  | cons action rest ih =>
    have after := ih (server.step store action).1 (server.step store action).2
    refine after.trans ?_
    rw [handovers_step, deliveries, List.map_append, List.append_assoc, delivery?]
    rcases server.handover? action <;> rfl

/-- Sessions hold what they were given in time, whatever happens. -/
theorem Fresh.kept {settings : Config.UdpManagerSettings} (fresh : Fresh settings true server)
    (empty : store.sessions = []) (schedule : List ServerAction)
    (unfed : ∀ id data, .session id (.deliver data) ∉ schedule) :
    (server.run store schedule).2.Kept (server.deliveries store schedule) := by
  induction schedule using List.reverseRecOn with
  | nil =>
    refine ⟨?_, ?_, nofun⟩
    all_goals
      intro id session found
      rw [show (server.run store []).2.sessions = [] from empty] at found
      cases found
  | append_singleton schedule action ih =>
    have kept := ih fun id data mem => unfed id data (List.mem_append_left _ mem)
    have registered := (server.run_fixed store schedule).2.trans fresh.registered
    have step := kept_step kept registered action
      (fun id data eq => unfed id data (eq ▸ List.mem_append_right _ List.mem_cons_self))
      (fun handover gives => (fresh.looked_up store schedule gives).2)
    rw [deliveries_append, run_append, deliveries, deliveries, List.append_nil]
    exact step

/-- A server loses no datagram that it has accepted, but for those whose sessions have stopped too
early. -/
structure LosesOnlyLate (server : Server) (store : Store) (schedule : List ServerAction) :
    Prop where
  /-- What was accepted was given to sessions, each datagram once and in the same order, but for the
  one that the loop still has in hand. -/
  accepted : (server.run store schedule).1.accepted
    = ((server.deliveries store schedule).map fun delivery => delivery.handover.datagram)
      ++ (server.run store schedule).1.loop.carried?.toList
  /-- The sessions are there. -/
  there : ∀ delivery ∈ server.deliveries store schedule, ∃ session,
    Table.get? (server.run store schedule).2.sessions delivery.handover.card.id = some session
      ∧ session.card = delivery.handover.card
  /-- They have handed to the handler what they were given in time, each datagram once and in the
  same order, but for what is on their strands. -/
  held : ∀ id session, Table.get? (server.run store schedule).2.sessions id = some session →
    session.delivered.reverse ++ session.queued = takenBy id (server.deliveries store schedule)
  /-- The strands hand the rest to the handler. -/
  handles : ∀ id session, Table.get? (server.run store schedule).2.sessions id = some session →
    (session.workLives true).delivered.reverse = takenBy id (server.deliveries store schedule)
  /-- What came too late is for a session that ran when it was looked up, and that has stopped while
  the loop was told of it. -/
  late : ∀ front action back delivery, schedule = front ++ action :: back →
    (server.run store front).1.delivery? (server.run store front).2 action = some delivery →
    delivery.inTime = false →
      LookedUp server store front delivery.handover ∧ ∃ session,
        Table.get? (server.run store front).2.sessions delivery.handover.card.id = some session
          ∧ session.card = delivery.handover.card ∧ session.isRunning = false

/-- **A server that runs loses no datagram that it has accepted**, whatever else is going on, as
long as the session of the peer does not stop between the moment when it is looked up and the
moment when it is given the datagram. -/
theorem run_loses_only_late {settings : Config.UdpManagerSettings} {first store : Store}
    {server : Server} (started : (create settings true).start first = (server, store, .ok ()))
    (empty : first.sessions = []) (schedule : List ServerAction)
    (unfed : ∀ id data, .session id (.deliver data) ∉ schedule)
    (running : (server.run store schedule).1.hub.isRunning = true) :
    LosesOnlyLate server store schedule := by
  obtain ⟨fresh, sessions, -⟩ := start_fresh started
  have kept := fresh.kept (sessions.trans empty) schedule unfed
  constructor
  case accepted =>
    have gated : server.Gated := by
      refine ⟨?_, fun ended => ?_⟩
      · rw [fresh.manager]
        rfl
      · rw [fresh.loop] at ended
        cases ended
    have goes : (server.run store schedule).1.Gated :=
      run_induction (fun after _ => after.Gated) (fun gated turn => turn.gated gated) gated schedule
    obtain ⟨pending, accepted, -, carried⟩ := inOrder_run fresh.inOrder store schedule
    rw [accepted, carried (goes.loop_ne running), run_handovers]
    simp [handovers, fresh.handed]
  case there =>
    intro delivery mem
    obtain ⟨session, found, label, -⟩ := (kept.shows delivery mem).there
    exact ⟨session, found, label⟩
  case held =>
    intro id session found
    exact (kept.holds found).2
  case handles =>
    intro id session found
    exact session.delivered_workLives.trans (kept.holds found).2
  case late =>
    intro front action back delivery _ gives late
    obtain ⟨handover, given, rfl⟩ := Option.map_eq_some_iff.mp gives
    obtain ⟨looked_up, shows⟩ := fresh.looked_up store front given
    obtain ⟨session, found, label, -⟩ := shows.there
    refine ⟨looked_up, session, found, label, ?_⟩
    have late : (server.run store front).2.isRunning handover.card.id = false := late
    rwa [Store.isRunning, Net.Store.satisfies, found] at late

/-- The first datagram of a peer has a session built, which hands it to the handler. Then the peer
says nothing, and the timer of the session finds it idle. -/
def untilIdle (datagram : Datagram) : List ServerAction :=
  [.receive datagram] ++ lookUp 0 ++
    [.session ⟨1⟩ .workLife, .elapse 60000, .session ⟨1⟩ (.wake 60000), .session ⟨1⟩ .workLife,
      .session ⟨1⟩ .judge, .elapse 60000, .session ⟨1⟩ (.wake 120000), .session ⟨1⟩ .workLife]

/-- A datagram is given to a session that has been found idle, but has not stopped yet. It is in
time. -/
theorem run_loses_only_late_of_idle :
    ∃ server store schedule,
      (create ⟨.anywhere 53927, 1, 10000, .default⟩ true).start ⟨.start, 0, ⟨1⟩, []⟩
        = (server, store, .ok ()) ∧
      (∀ id data, .session id (.deliver data) ∉ schedule) ∧
      (server.run store schedule).1.hub.isRunning = true ∧
      LosesOnlyLate server store schedule ∧
      (server.run store schedule).2.isRunning ⟨1⟩ = false ∧
      takenBy ⟨1⟩ (server.deliveries store schedule) = [[1], [2]] := by
  rcases started : (create ⟨.anywhere 53927, 1, 10000, .default⟩ true).start ⟨.start, 0, ⟨1⟩, []⟩
    with ⟨server, store, result⟩
  have succeeds : ((create ⟨.anywhere 53927, 1, 10000, .default⟩ true).start
      ⟨.start, 0, ⟨1⟩, []⟩).2.2 = .ok () := rfl
  obtain rfl : result = .ok () := by
    rw [started] at succeeds
    exact succeeds
  have unfed : ∀ id data, .session id (.deliver data) ∉
      untilIdle ⟨.localhost 9000, [1]⟩ ++ [.receive ⟨.localhost 9000, [2]⟩] ++ lookUp 1
        ++ [.session ⟨1⟩ .judge] := by
    intro id data mem
    simp [untilIdle, lookUp] at mem
  have running : (server.run store (untilIdle ⟨.localhost 9000, [1]⟩
      ++ [.receive ⟨.localhost 9000, [2]⟩] ++ lookUp 1
      ++ [.session ⟨1⟩ .judge])).1.hub.isRunning = true := by
    cases started
    decide +kernel
  refine ⟨server, store, _, rfl, unfed, running, run_loses_only_late started rfl _ unfed running,
    ?_, ?_⟩
  all_goals
    cases started
    decide +kernel

/-- Somebody stops the server or a session, the socket fails, or a session is fed by somebody else
than the server. -/
def disturbs : ServerAction → Bool
  | .manage .stop | .manage (.halt _) | .failReceive | .session _ .stop
  | .session _ (.deliver _) => true
  | _ => false

/-- **The condition is needed**: nobody stops anything, but the idle timer of a session fires
while the receive loop is told of the session. The datagram is given to it and nobody holds it any
more. -/
theorem idle_stop_loses_datagram :
    ∃ server store schedule,
      (create ⟨.anywhere 53927, 1, 10000, .default⟩ true).start ⟨.start, 0, ⟨1⟩, []⟩
        = (server, store, .ok ()) ∧
      (∀ action ∈ schedule, disturbs action = false) ∧
      (server.run store schedule).1.hub.isRunning = true ∧
      (server.run store schedule).1.loop = .listening ∧
      ⟨.localhost 9000, [2]⟩ ∈ (server.run store schedule).1.accepted ∧
      ∀ entry ∈ (server.run store schedule).2.sessions, [2] ∉ entry.2.held := by
  refine ⟨_, _, untilIdle ⟨.localhost 9000, [1]⟩ ++
    [.receive ⟨.localhost 9000, [2]⟩, .manage (.advance 1 (.ok ())), .manage (.advance 1 (.ok ())),
      .manage .work, .session ⟨1⟩ .judge, .advanceLoop], rfl, ?_⟩
  decide +kernel

end Server

end PeerNet.Udp
