import Mathlib.Data.List.Induction
import PeerNet.Proofs.Manager.Lookups
import PeerNet.Proofs.Manager.SoleSessions
import PeerNet.Proofs.Udp.Handling
import PeerNet.Udp.Server

/-!
# A server gives every datagram to the session of its peer

The receive loop of a server has one datagram in hand at a time. It looks for the session of the
peer that sent it, waits while the pool is full of live sessions, and gives it to the session.

* **One step** (`Turn`): what any stretch does to a server.
* **Order** (`InOrder`): what was accepted are the datagrams that were given to sessions, in the
  same order, and the one in hand. Nothing overtakes it (`handed_of_carried`).
* **Handovers** (`HandsOver`, `step_hands`): the session under the card takes the datagram, no other
  session changes, and else the loop does nothing to any session.
* **Routes** (`LookedUp`): a datagram goes to a session that its lookup returned, which ran at
  that moment and has the sender as its peer.
* **Any schedule** (`run_demultiplexes`), with requests of others, sweeps, sessions that end, a
  socket that fails and a stop.
-/

namespace PeerNet.Udp

/-- The datagram that a receive loop has in hand. -/
def ServerLoop.carried? : ServerLoop → Option Datagram
  | .asking _ datagram | .waiting _ datagram => some datagram
  | .off | .listening | .ended => none

/-! ### Sessions that show their cards -/

namespace Store

variable {store : Store} {card : Card}

/-- Changing a session gives out no number. -/
theorem nextId_change (store : Store) (id : SessionId) (action : Session → Session) :
    (store.change id action).nextId = store.nextId := by
  unfold change
  split <;> rfl

/-- Changing one session leaves the others. -/
theorem get?_change (store : Store) (id other : SessionId) (action : Session → Session) :
    Table.get? (store.change id action).sessions other =
      if other = id then (Table.get? store.sessions other).map action
      else Table.get? store.sessions other := by
  unfold change
  split
  · next absent =>
    split
    · next same => rw [same, absent, Option.map_none]
    · rfl
  · exact Table.get?_adjust ..

/-- A session that was built bears a card, and is fed by its server. -/
structure Shows (store : Store) (card : Card) : Prop where
  /-- Its number was given out. -/
  issued : Net.Store.issued store card.id = true
  /-- It is there. -/
  there : ∃ session, Table.get? store.sessions card.id = some session ∧ session.card = card
    ∧ session.Fed

/-- A session goes on to bear its card when a number is given out. -/
theorem Shows.takeId (shows : store.Shows card) : Shows (Net.Store.takeId store).2 card := by
  obtain ⟨issued, there⟩ := shows
  exact ⟨decide_eq_true (Nat.lt_succ_of_lt (of_decide_eq_true issued)), there⟩

/-- Whether a card is shown is a matter of the sessions and their numbers alone. -/
theorem Shows.of_same {changed : Store} (shows : store.Shows card)
    (nextId : changed.nextId = store.nextId) (sessions : changed.sessions = store.sessions) :
    changed.Shows card := by
  refine ⟨?_, sessions ▸ shows.there⟩
  simpa only [Net.Store.issued, nextId] using shows.issued

/-- Whatever a session does, it goes on to bear its card. -/
theorem Shows.change (shows : store.Shows card) (id : SessionId) (registered : Bool)
    (action : Session.Action) :
    (store.change id fun session => session.step registered action).Shows card := by
  obtain ⟨issued, session, found, label, fed⟩ := shows
  constructor
  · simpa only [Net.Store.issued, nextId_change] using issued
  · rw [get?_change]
    split
    · refine ⟨session.step registered action, by rw [found, Option.map_some], ?_, fed.step action⟩
      rw [Session.card_step fed.absent, label]
    · exact ⟨session, found, label, fed⟩

/-- A session that is added bears its card. -/
theorem shows_insert {session : Session} (store : Store) (label : session.card.id = store.nextId)
    (fed : session.Fed) :
    Shows ((Net.Store.takeId store).2.insert store.nextId session) session.card := by
  constructor
  · rw [label]
    exact decide_eq_true (Nat.lt_succ_self _)
  · refine ⟨session, ?_, rfl, fed⟩
    rw [label]
    exact (Table.get?_insert ..).trans (if_pos rfl)

/-- The others go on to bear theirs: the number of the new one was not given out before. -/
theorem Shows.insert (shows : store.Shows card) (session : Session) :
    Shows ((Net.Store.takeId store).2.insert store.nextId session) card := by
  obtain ⟨issued, other, found, label, fed⟩ := shows
  have less : card.id.number < store.nextId.number := of_decide_eq_true issued
  constructor
  · exact decide_eq_true (Nat.lt_succ_of_lt less)
  · refine ⟨other, ?_, label, fed⟩
    have ne : card.id ≠ store.nextId := by
      intro same
      rw [same] at less
      exact Nat.lt_irrefl _ less
    exact (Table.get?_insert ..).trans ((if_neg ne).trans found)

end Store

namespace Server

variable {server after : Server} {store changed : Store}

/-- The datagrams that the loop took from the socket and did not drop as too long. -/
def accepted (server : Server) : List Datagram :=
  server.received.reverse.filter fun datagram =>
    datagram.data.length ≤ server.hub.settings.session.maxPackageSize

/-- The datagrams that the loop gave to sessions, with the sessions. -/
def handovers (server : Server) : List Handover := server.handed.reverse

/-! ### One step -/

/-- What becomes of a server and its sessions by a step. -/
inductive Turn (server : Server) (store : Store) : Server → Store → Prop where
  /-- Nothing. -/
  | stays : Turn server store server store
  /-- The manager does something. -/
  | manages (action : Manager.Action) :
      Turn server store
        { server with
          hub.manager := (Manager.step server.backend action server.hub.manager store).1 }
        (Manager.step server.backend action server.hub.manager store).2
  /-- The loop takes a datagram and drops it. -/
  | drops (listens : server.loop = .listening) (datagram : Datagram)
      (long : server.hub.settings.session.maxPackageSize < datagram.data.length) :
      Turn server store { server with received := datagram :: server.received } store
  /-- The loop takes a datagram and asks for the session of its peer. -/
  | takes (listens : server.loop = .listening) (datagram : Datagram)
      (fits : datagram.data.length ≤ server.hub.settings.session.maxPackageSize) :
      Turn server store ({ server with received := datagram :: server.received }.ask datagram) store
  /-- The loop gives a datagram to the session that it was told. -/
  | hands (request : Nat) (datagram : Datagram) (card : Card)
      (asks : server.loop = .asking request datagram)
      (told : server.hub.manager.answerOf request = some (.ok card)) :
      Turn server store (server.hand store datagram card).1 (server.hand store datagram card).2
  /-- The loop keeps the datagram in hand, and waits. -/
  | waits (datagram : Datagram) (resume : Nat)
      (carries : server.loop.carried? = some datagram) :
      Turn server store { server with loop := .waiting resume datagram } store
  /-- The loop keeps the datagram in hand, and asks again. -/
  | asksAgain (datagram : Datagram) (carries : server.loop.carried? = some datagram) :
      Turn server store (server.ask datagram) store
  /-- The loop ends, as it was told to. -/
  | ends (told : server.hub.manager.cancelled = true) :
      Turn server store { server with loop := .ended } store
  /-- The loop ends with an error. -/
  | fails : Turn server store server.fail store
  /-- A session does something. -/
  | session (id : SessionId) (action : Session.Action) :
      Turn server store server
        (store.change id fun session => session.step server.hub.registered action)
  /-- Time goes by. -/
  | elapses (milliseconds : Nat) :
      Turn server store server { store with now := store.now + milliseconds }

/-- A stretch of the receive loop is one of the steps that a server takes. -/
theorem advanceLoop_turn (server : Server) (store : Store) :
    Turn server store (server.advanceLoop store).1 (server.advanceLoop store).2 := by
  unfold advanceLoop
  rcases loop : server.loop with _ | _ | ⟨request, datagram⟩ | ⟨resume, datagram⟩ | _
  case off => exact .stays
  case ended => exact .stays
  case listening =>
    dsimp only
    split
    · next told => exact .ends told
    · exact .stays
  case waiting =>
    dsimp only
    split
    · next told => exact .ends told
    · split
      · exact .asksAgain datagram (by rw [loop]; rfl)
      · exact .stays
  case asking =>
    dsimp only
    split
    · exact .stays
    · next card told => exact .hands request datagram card loop told
    · exact .waits datagram _ (by rw [loop]; rfl)
    · exact .fails

/-- Whatever anybody does to a server is one of the steps that it takes. -/
theorem step_turn (server : Server) (store : Store) (action : ServerAction) :
    Turn server store (server.step store action).1 (server.step store action).2 := by
  rcases action with action | datagram | _ | _ | _ | ⟨id, action⟩ | milliseconds
  case manage => exact .manages action
  case receive =>
    simp only [step, receive]
    rcases loop : server.loop
    case listening =>
      dsimp only
      split
      · next long =>
        rw [← loop]
        exact .drops loop datagram long
      · next fits => exact .takes loop datagram (Nat.le_of_not_lt fits)
    all_goals exact .stays
  case failReceive =>
    simp only [step, failReceive]
    split
    · exact .fails
    · exact .stays
  case advanceLoop => exact server.advanceLoop_turn store
  case retry =>
    simp only [step, retry]
    rcases loop : server.loop with _ | _ | _ | ⟨resume, datagram⟩ | _
    case waiting =>
      dsimp only
      split
      · exact .asksAgain datagram (by rw [loop]; rfl)
      · exact .stays
    all_goals exact .stays
  case session => exact .session id action
  case elapse => exact .elapses milliseconds

/-- The settings and the handler of a server stay as they are. -/
theorem Turn.fixed (turn : Turn server store after changed) :
    after.hub.settings = server.hub.settings ∧ after.hub.registered = server.hub.registered := by
  rcases turn <;> exact ⟨rfl, rfl⟩

/-- What was received and what was given to sessions is not forgotten. -/
theorem Turn.grows (turn : Turn server store after changed) :
    (∃ more, after.received = more ++ server.received)
      ∧ ∃ more, after.handed = more ++ server.handed := by
  rcases turn
  case drops datagram _ => exact ⟨⟨[datagram], rfl⟩, [], rfl⟩
  case takes datagram _ => exact ⟨⟨[datagram], rfl⟩, [], rfl⟩
  case hands datagram card _ _ => exact ⟨⟨[], rfl⟩, [⟨datagram, card⟩], rfl⟩
  all_goals exact ⟨⟨[], rfl⟩, [], rfl⟩

/-! ### Order -/

/-- A loop with a datagram in hand has not ended. -/
theorem going_of_carries {datagram : Datagram} (carries : server.loop.carried? = some datagram) :
    server.loop ≠ .ended := by
  intro ended
  rw [ended] at carries
  cases carries

/-- What was accepted are the datagrams that were given to sessions, in this order, and the one in
hand. If the loop has ended it may have left one. -/
structure InOrder (server : Server) (pending : List Datagram) : Prop where
  /-- Nothing else was accepted. -/
  accepted : server.accepted = server.handovers.map Handover.datagram ++ pending
  /-- One datagram is pending at most. -/
  few : pending.length ≤ 1
  /-- It is the one in hand, as long as the loop goes on. -/
  carried : server.loop ≠ .ended → pending = server.loop.carried?.toList

/-- Every step keeps what was accepted in order. -/
theorem Turn.inOrder (turn : Turn server store after changed) {pending : List Datagram}
    (order : server.InOrder pending) : ∃ pending, after.InOrder pending := by
  obtain ⟨accepted, few, carried⟩ := order
  rcases turn with _ | action | ⟨listens, datagram, long⟩ | ⟨listens, datagram, fits⟩
    | ⟨request, datagram, card, asks, told⟩ | ⟨datagram, resume, carries⟩ | ⟨datagram, carries⟩
    | _ | _ | _ | _
  case stays => exact ⟨pending, accepted, few, carried⟩
  case manages => exact ⟨pending, accepted, few, carried⟩
  case drops =>
    have same : ({ server with received := datagram :: server.received } : Server).accepted
        = server.accepted := by
      simp [Server.accepted, List.filter_append, Nat.not_le_of_lt long]
    exact ⟨pending, same.trans accepted, few, carried⟩
  case takes =>
    have nothing : pending = [] := carried (by simp [listens]) |>.trans (by rw [listens]; rfl)
    have one_more : ({ server with received := datagram :: server.received } : Server).accepted
        = server.accepted ++ [datagram] := by
      simp [Server.accepted, List.filter_append, fits]
    refine ⟨[datagram], one_more.trans ?_, Nat.le_refl _, fun _ => rfl⟩
    rw [accepted, nothing, List.append_nil]
    rfl
  case hands =>
    have one : pending = [datagram] := carried (by simp [asks]) |>.trans (by rw [asks]; rfl)
    refine ⟨[], ?_, Nat.zero_le _, fun _ => rfl⟩
    have handed : (server.hand store datagram card).1.handovers.map Handover.datagram
        = server.handovers.map Handover.datagram ++ [datagram] := by
      simp [handovers, hand]
    rw [handed, List.append_nil, ← one]
    exact accepted
  case waits =>
    refine ⟨pending, accepted, few, fun _ => ?_⟩
    rw [carried (going_of_carries carries), carries]
    rfl
  case asksAgain =>
    refine ⟨pending, accepted, few, fun _ => ?_⟩
    rw [carried (going_of_carries carries), carries]
    rfl
  case ends => exact ⟨pending, accepted, few, fun going => absurd rfl going⟩
  case fails => exact ⟨pending, accepted, few, fun going => absurd rfl going⟩
  case session => exact ⟨pending, accepted, few, carried⟩
  case elapses => exact ⟨pending, accepted, few, carried⟩

theorem run_append (server : Server) (store : Store) (front back : List ServerAction) :
    server.run store (front ++ back)
      = (server.run store front).1.run (server.run store front).2 back :=
  List.foldl_append

/-- Whatever a step keeps is kept by a schedule. -/
theorem run_induction (holds : Server → Store → Prop)
    (step : ∀ {server store after changed}, holds server store → Turn server store after changed →
      holds after changed) (held : holds server store) (schedule : List ServerAction) :
    holds (server.run store schedule).1 (server.run store schedule).2 := by
  induction schedule generalizing server store with
  | nil => exact held
  | cons action rest ih => exact ih (step held (server.step_turn store action))

/-- No schedule changes the settings of a server, or whether a handler is registered. -/
theorem run_fixed (server : Server) (store : Store) (schedule : List ServerAction) :
    (server.run store schedule).1.hub.settings = server.hub.settings
      ∧ (server.run store schedule).1.hub.registered = server.hub.registered := by
  refine run_induction (fun after _ => after.hub.settings = server.hub.settings
    ∧ after.hub.registered = server.hub.registered) ?_ ⟨rfl, rfl⟩ schedule
  rintro before store after changed ⟨settings, registered⟩ turn
  exact ⟨turn.fixed.1.trans settings, turn.fixed.2.trans registered⟩

/-- What was received or handed over once remains so. -/
theorem run_grows (server : Server) (store : Store) (schedule : List ServerAction) :
    (∃ more, (server.run store schedule).1.received = more ++ server.received)
      ∧ ∃ more, (server.run store schedule).1.handed = more ++ server.handed := by
  refine run_induction (fun after _ => (∃ more, after.received = more ++ server.received)
    ∧ ∃ more, after.handed = more ++ server.handed) ?_ ⟨⟨[], rfl⟩, [], rfl⟩ schedule
  rintro before store after changed ⟨⟨received, same_received⟩, handed, same_handed⟩ turn
  obtain ⟨⟨more_received, received_eq⟩, more_handed, handed_eq⟩ := turn.grows
  refine ⟨⟨more_received ++ received, ?_⟩, more_handed ++ handed, ?_⟩
  · rw [received_eq, same_received, List.append_assoc]
  · rw [handed_eq, same_handed, List.append_assoc]

/-- Every schedule keeps what was accepted in order. -/
theorem inOrder_run {pending : List Datagram} (order : server.InOrder pending) (store : Store)
    (schedule : List ServerAction) : ∃ pending, (server.run store schedule).1.InOrder pending := by
  refine run_induction (fun after _ => ∃ pending, after.InOrder pending) ?_ ⟨pending, order⟩
    schedule
  rintro before store after changed ⟨pending, order⟩ turn
  exact turn.inOrder order

/-- The datagram that an action gives to a session, if it does. -/
def handover? (server : Server) : ServerAction → Option Handover
  | .advanceLoop =>
    match server.loop with
    | .asking request datagram =>
      match server.hub.manager.answerOf request with
      | some (.ok card) => some ⟨datagram, card⟩
      | _ => none
    | _ => none
  | _ => none

/-- The loop gives a datagram to the session that it was told, or touches no session. -/
theorem advanceLoop_hands (server : Server) (store : Store) :
    (∃ request datagram card, server.loop = .asking request datagram
        ∧ server.hub.manager.answerOf request = some (.ok card)
        ∧ server.handover? .advanceLoop = some ⟨datagram, card⟩
        ∧ server.advanceLoop store = server.hand store datagram card)
      ∨ server.handover? .advanceLoop = none
        ∧ (server.advanceLoop store).1.handed = server.handed
        ∧ (server.advanceLoop store).2 = store := by
  rcases loop : server.loop with _ | _ | ⟨request, datagram⟩ | ⟨resume, datagram⟩ | _
  case asking =>
    rcases told : server.hub.manager.answerOf request with _ | failure | card
    case some.ok =>
      left
      refine ⟨request, datagram, card, rfl, told, ?_, ?_⟩
      · simp [handover?, loop, told]
      · have told : (Table.get? server.hub.manager.requests request).bind Request.answer
            = some (.ok card) := told
        simp [advanceLoop, loop, told]
    all_goals
      right
      refine ⟨by simp [handover?, loop, told], ?_⟩
      simp only [advanceLoop, loop]
      split
      · exact ⟨rfl, rfl⟩
      · next given =>
        cases told.symm.trans given
      · exact ⟨rfl, rfl⟩
      · exact ⟨rfl, rfl⟩
  case off | ended =>
    right
    exact ⟨by simp only [handover?, loop], by simp only [advanceLoop, loop, and_self]⟩
  case listening =>
    right
    refine ⟨by simp only [handover?, loop], ?_⟩
    unfold advanceLoop
    rw [loop]
    dsimp only
    split <;> exact ⟨rfl, rfl⟩
  case waiting =>
    right
    refine ⟨by simp only [handover?, loop], ?_⟩
    unfold advanceLoop
    rw [loop]
    dsimp only
    split
    · exact ⟨rfl, rfl⟩
    · split <;> exact ⟨rfl, rfl⟩

/-- What an action gives to a session is what the log of the server shows. -/
theorem handovers_step (server : Server) (store : Store) (action : ServerAction) :
    (server.step store action).1.handovers
      = server.handovers ++ (server.handover? action).toList := by
  have unchanged {after : Server} (same : after.handed = server.handed) :
      after.handovers = server.handovers ++ (none : Option Handover).toList := by
    rw [handovers, same]
    exact (List.append_nil _).symm
  rcases action with action | datagram | _ | _ | _ | ⟨id, action⟩ | milliseconds
  case receive =>
    apply unchanged
    simp only [step, receive, ask]
    split
    · split <;> rfl
    · rfl
  case failReceive =>
    apply unchanged
    simp only [step, failReceive, fail]
    split <;> rfl
  case retry =>
    apply unchanged
    simp only [step, retry, ask]
    split
    · split <;> rfl
    · rfl
  case advanceLoop =>
    simp only [step]
    rcases server.advanceLoop_hands store with ⟨request, datagram, card, -, -, gives, hands⟩ | still
    · rw [gives, hands]
      simp [handovers, hand]
    · obtain ⟨gives, handed, -⟩ := still
      rw [gives]
      exact unchanged handed
  all_goals exact unchanged rfl

/-- A datagram is given to a session, which takes it; no other session changes. -/
structure HandsOver (before after : Server × Store) (handover : Handover) : Prop where
  /-- The loop has had the datagram in hand. -/
  carried : before.1.loop.carried? = some handover.datagram
  /-- It is logged. -/
  logged : after.1.handovers = before.1.handovers ++ [handover]
  /-- The session with this card takes it. As long as that runs it holds the bytes of the datagram,
  unchanged, behind what it has held. -/
  taken : ∃ session, Table.get? before.2.sessions handover.card.id = some session
    ∧ session.card = handover.card
    ∧ Table.get? after.2.sessions handover.card.id
      = some (session.deliver handover.datagram.data)
    ∧ (session.deliver handover.datagram.data).held
      = session.held ++ if session.isRunning then [handover.datagram.data] else []
  /-- The others are as they were. -/
  others : ∀ id, id ≠ handover.card.id →
    Table.get? after.2.sessions id = Table.get? before.2.sessions id

/-- What the loop gives to a session that bears the card is taken by it. -/
theorem hand_handsOver {datagram : Datagram} {card : Card}
    (carries : server.loop.carried? = some datagram) (shows : store.Shows card) :
    HandsOver (server, store) (server.hand store datagram card) ⟨datagram, card⟩ := by
  obtain ⟨-, session, found, label, fed⟩ := shows
  constructor
  case carried => exact carries
  case logged => exact List.reverse_cons
  case taken =>
    refine ⟨session, found, label, ?_, fed.held_deliver datagram.data⟩
    refine (Store.get?_change ..).trans ?_
    rw [if_pos rfl, found, Option.map_some]
  case others =>
    intro id other
    exact (Store.get?_change ..).trans (if_neg other)

/-- An action gives a datagram to the session that the loop was told, or gives none; and then the
loop does nothing to any session. -/
theorem step_hands (server : Server) (store : Store) (action : ServerAction) :
    (∃ request datagram card, server.loop = .asking request datagram
        ∧ server.handover? action = some ⟨datagram, card⟩
        ∧ server.step store action = server.hand store datagram card)
      ∨ server.handover? action = none
        ∧ (action.isLoop = true → (server.step store action).2 = store) := by
  cases action with
  | advanceLoop =>
    rcases server.advanceLoop_hands store with
      ⟨request, datagram, card, asks, -, gives, hands⟩ | ⟨gives, -, same⟩
    · exact .inl ⟨request, datagram, card, asks, gives, hands⟩
    · exact .inr ⟨gives, fun _ => same⟩
  | manage | session | elapse => exact .inr ⟨rfl, nofun⟩
  | receive | failReceive | retry => exact .inr ⟨rfl, fun _ => rfl⟩

/-! ### Routes -/

/-- A datagram is given to a session that has its sender as its peer, and that ran when the request
for it returned, while the loop was waiting for the answer. -/
structure LookedUp (server : Server) (store : Store) (schedule : List ServerAction)
    (handover : Handover) : Prop where
  /-- The peer of the session sent the datagram. -/
  peer : handover.card.remote = handover.datagram.source
  /-- The session ran when the request returned it. -/
  ran : ∃ front action back request, schedule = front ++ action :: back
    ∧ (server.run store front).1.loop = .asking request handover.datagram
    ∧ Manager.Returned (server.run store front).1.hub.manager
        (server.run store (front ++ [action])).1.hub.manager request handover.datagram.source
        handover.card
    ∧ ∃ session,
        Table.get? (server.run store (front ++ [action])).2.sessions handover.card.id = some session
          ∧ session.card = handover.card ∧ session.isRunning = true

/-- A session that was looked up in a schedule was looked up in a longer one. -/
theorem LookedUp.mono {schedule : List ServerAction} {handover : Handover}
    (looked_up : LookedUp server store schedule handover) (action : ServerAction) :
    LookedUp server store (schedule ++ [action]) handover := by
  obtain ⟨peer, front, last, back, request, rfl, ran⟩ := looked_up
  exact ⟨peer, front, last, back ++ [action], request, by simp, ran⟩

/-- What becomes of a store when a server builds a session, which it gives the next number. -/
inductive Builds (store : Store) (remote : Endpoint) : Except Error Card × Store → Prop where
  /-- A session is added that has started, is fed by the server and holds nothing. -/
  | added (session : Session) (label : session.card = ⟨store.nextId, remote⟩) (fed : session.Fed)
      (nothing : session.held = []) :
      Builds store remote
        (.ok ⟨store.nextId, remote⟩, (Net.Store.takeId store).2.insert store.nextId session)
  /-- A server without a socket builds none. -/
  | unbound : Builds store remote (.error notBound, (Net.Store.takeId store).2)

/-- A session is built on the socket of the server, if there is one. -/
theorem backend_builds (server : Server) (remote : Endpoint) (store : Store) :
    Builds store remote (Manager.builder server.backend remote store.nextId store) := by
  rcases socket : server.socket with _ | origin
  · have refused : Manager.builder server.backend remote store.nextId store
        = (.error notBound, (Net.Store.takeId store).2) := by
      simp only [Manager.builder, backend, build, socket]
    rw [refused]
    exact .unbound
  · have added : Manager.builder server.backend remote store.nextId store
        = Store.add (Net.Store.takeId store).2
          (.create ⟨store.nextId, remote⟩ origin false server.hub.settings.session) := by
      simp only [Manager.builder, backend, build, socket]
    rw [added]
    refine .added _ rfl ?_ rfl
    exact ⟨fun created => Phase.noConfusion created, rfl, .live .running false (.inr rfl)⟩

/-- The sessions of a server bear the cards that its manager hands out. -/
theorem backend_shows (server : Server) :
    server.backend.Shows Net.Store.issued Store.Shows where
  labels {store id remote card} built := by
    change (build server.hub.settings server.socket id remote store).1 = .ok card at built
    unfold build at built
    split at built
    · exact (Except.ok.inj built).symm
    · cases built
  built {store remote card} built := by
    have builds := server.backend_builds remote store
    change (Manager.builder server.backend remote store.nextId store).1 = .ok card at built
    show Store.Shows (Manager.builder server.backend remote store.nextId store).2 card
    generalize Manager.builder server.backend remote store.nextId store = result at builds built
    cases builds with
    | added session label fed =>
      obtain rfl : ⟨store.nextId, remote⟩ = card := Except.ok.inj built
      rw [← label]
      exact Store.shows_insert store (congrArg Card.id label) fed
    | unbound => cases built
  keeps card := by
    constructor
    · intro remote store shows
      have builds := server.backend_builds remote store
      show Store.Shows (Manager.builder server.backend remote store.nextId store).2 card
      generalize Manager.builder server.backend remote store.nextId store = result at builds
      cases builds with
      | added session => exact shows.insert session
      | unbound => exact shows.takeId
    · intro id store shows
      exact shows.change id true .stop
  known shows := shows.issued

/-- The manager of a server is accounted for, with the sessions in the store. -/
def IsHoused (server : Server) (store : Store) : Prop :=
  ∃ ledger, Manager.Housed Store.Shows server.hub.settings.maxSessions server.hub.manager store
    ledger

/-- A session that bears a card goes on to do so. -/
theorem Turn.shows {card : Card} (turn : Turn server store after changed)
    (shows : store.Shows card) : changed.Shows card := by
  rcases turn
  case manages action => exact (server.backend_shows.keeps card).step shows action
  case hands request datagram other _ _ =>
    exact shows.change other.id true (.deliver datagram.data)
  case session id action => exact shows.change id _ action
  case elapses => exact shows.of_same rfl rfl
  all_goals exact shows

/-- Every step keeps the manager of the server accounted for. -/
theorem Turn.housed (turn : Turn server store after changed) (housed : server.IsHoused store) :
    after.IsHoused changed := by
  have still : ∀ card, store.Shows card → changed.Shows card := fun _ => turn.shows
  obtain ⟨ledger, housed⟩ := housed
  have of_manager (action : Manager.Action) : ∃ ledger,
      Manager.Housed Store.Shows server.hub.settings.maxSessions
        (Manager.step server.backend action server.hub.manager store).1
        (Manager.step server.backend action server.hub.manager store).2 ledger :=
    housed.step server.backend_prompt server.backend_shows action
  rcases turn
  case manages action => exact of_manager action
  case takes _ datagram _ => exact of_manager (.inbound datagram.source)
  case asksAgain datagram _ => exact of_manager (.inbound datagram.source)
  case fails => exact of_manager .stop
  all_goals exact ⟨ledger, housed.of_same housed.filed rfl still⟩

/-- What is known of the datagrams that a schedule has given to sessions, and of the one that it is
looking a session up for. -/
structure Routed (server : Server) (store : Store) (schedule : List ServerAction)
    (after : Server) (changed : Store) : Prop where
  /-- The manager is accounted for. -/
  housed : after.IsHoused changed
  /-- The request is for the sender. What it returned was looked up, and bears the card. -/
  asking : ∀ request datagram, after.loop = .asking request datagram →
    after.hub.manager.peerOf request = some datagram.source
      ∧ ∀ card, after.hub.manager.answerOf request = some (.ok card) →
          LookedUp server store schedule ⟨datagram, card⟩ ∧ changed.Shows card
  /-- What was given to sessions was looked up. -/
  handed : ∀ handover ∈ after.handed, LookedUp server store schedule handover

/-- A request that has just begun is for the sender, and has returned nothing. -/
theorem asking_ask (server : Server) (datagram : Datagram) {request : Nat} {other : Datagram}
    (asks : (server.ask datagram).loop = .asking request other) :
    (server.ask datagram).hub.manager.peerOf request = some other.source
      ∧ ∀ card, (server.ask datagram).hub.manager.answerOf request ≠ some (.ok card) := by
  obtain ⟨rfl, rfl⟩ : server.hub.manager.nextRequest = request ∧ datagram = other :=
    ServerLoop.asking.inj asks
  constructor
  · exact (Manager.peerOf_beginWith ..).trans (if_pos rfl)
  · intro card
    rw [show (server.ask datagram).hub.manager.answerOf server.hub.manager.nextRequest = none from
      (Manager.answerOf_beginWith ..).trans (if_pos rfl)]
    exact nofun

/-- What the manager does while the loop waits for an answer: a session that it returns was looked
up. -/
theorem Routed.asking_manage {schedule : List ServerAction} {action : ServerAction}
    {before : Server} {held : Store} (routed : Routed server store schedule before held)
    (now : server.run store schedule = (before, held)) (manages : Manager.Action)
    (becomes : server.run store (schedule ++ [action])
      = ({ before with
          hub.manager := (Manager.step before.backend manages before.hub.manager held).1 },
        (Manager.step before.backend manages before.hub.manager held).2))
    {request : Nat} {datagram : Datagram} (asks : before.loop = .asking request datagram) :
    (Manager.step before.backend manages before.hub.manager held).1.peerOf request
        = some datagram.source
      ∧ ∀ card, (Manager.step before.backend manages before.hub.manager held).1.answerOf request
            = some (.ok card) →
          LookedUp server store (schedule ++ [action]) ⟨datagram, card⟩
            ∧ Store.Shows (Manager.step before.backend manages before.hub.manager held).2 card := by
  obtain ⟨ledger, housed⟩ := routed.housed
  obtain ⟨asked, known⟩ := routed.asking request datagram asks
  have still : (Manager.step before.backend manages before.hub.manager held).1.peerOf request
      = some datagram.source := housed.filed.peerOf_step asked manages
  refine ⟨still, ?_⟩
  intro card told
  by_cases old : before.hub.manager.answerOf request = some (.ok card)
  · obtain ⟨looked_up, shows⟩ := known card old
    exact ⟨looked_up.mono action, (before.backend_shows.keeps card).step shows manages⟩
  have returned : Manager.Returned before.hub.manager
      (Manager.step before.backend manages before.hub.manager held).1 request datagram.source
      card := ⟨still, told, old⟩
  obtain ⟨peer, live, shows⟩ :=
    housed.good_of_returned before.backend_prompt before.backend_shows returned
  obtain ⟨session, found, label, -⟩ := shows.there
  have runs : session.isRunning = true := by
    have live : Net.Store.satisfies Session.isRunning _ card.id = true := live
    rwa [Net.Store.satisfies, found] at live
  refine ⟨⟨peer, schedule, action, [], request, rfl, ?_, ?_, session, ?_, label, runs⟩, shows⟩
  · rw [now]
    exact asks
  · rw [now, becomes]
    exact returned
  · rw [becomes]
    exact found

/-- Every step keeps what is known. -/
theorem Routed.step {schedule : List ServerAction} {before : Server} {held : Store}
    (routed : Routed server store schedule before held)
    (now : server.run store schedule = (before, held)) {action : ServerAction}
    (becomes : server.run store (schedule ++ [action]) = (after, changed))
    (turn : Turn before held after changed) :
    Routed server store (schedule ++ [action]) after changed := by
  have asking {request : Nat} {datagram : Datagram}
      (asks : before.loop = .asking request datagram) :
      before.hub.manager.peerOf request = some datagram.source
        ∧ ∀ card, before.hub.manager.answerOf request = some (.ok card) →
            LookedUp server store (schedule ++ [action]) ⟨datagram, card⟩ ∧ changed.Shows card := by
    obtain ⟨asked, known⟩ := routed.asking request datagram asks
    refine ⟨asked, fun card told => ?_⟩
    obtain ⟨looked_up, shows⟩ := known card told
    exact ⟨looked_up.mono action, turn.shows shows⟩
  have handed : ∀ handover ∈ before.handed, LookedUp server store (schedule ++ [action]) handover :=
    fun handover mem => (routed.handed handover mem).mono action
  refine ⟨turn.housed routed.housed, ?_, ?_⟩
  · intro request other asks
    rcases turn with _ | manages | _ | ⟨_, datagram, _⟩ | _ | _ | ⟨datagram, _⟩ | _ | _ | _ | _
    case stays => exact asking asks
    case manages => exact routed.asking_manage now manages becomes asks
    case drops => exact asking asks
    case takes =>
      obtain ⟨asked, nothing⟩ := asking_ask _ datagram asks
      exact ⟨asked, fun card told => absurd told (nothing card)⟩
    case hands => cases asks
    case waits => cases asks
    case asksAgain =>
      obtain ⟨asked, nothing⟩ := asking_ask _ datagram asks
      exact ⟨asked, fun card told => absurd told (nothing card)⟩
    case ends => cases asks
    case fails => cases asks
    case session => exact asking asks
    case elapses => exact asking asks
  · intro handover mem
    rcases turn
    case hands request datagram card asks told =>
      rcases List.mem_cons.mp mem with rfl | mem
      · exact ((asking asks).2 card told).1
      · exact handed handover mem
    all_goals exact handed handover mem

/-- A server that was created, and has started. -/
structure Fresh (settings : Config.UdpManagerSettings) (registered : Bool) (server : Server) :
    Prop where
  /-- Its settings are in range. -/
  configured : server.hub.settings = settings.verify
  /-- It has a handler, or none. -/
  registered : server.hub.registered = registered
  /-- Its manager takes requests. -/
  manager : server.hub.manager = .start kind "udp server" settings.verify.maxSessions true
  /-- It waits for datagrams. -/
  loop : server.loop = .listening
  /-- It has received none. -/
  received : server.received = []
  /-- It has given none to sessions. -/
  handed : server.handed = []

/-- A server that has started is fresh, and its start builds no session. -/
theorem start_fresh {settings : Config.UdpManagerSettings} {registered : Bool} {first : Store}
    (started : (create settings registered).start first = (server, store, .ok ())) :
    Fresh settings registered server ∧ store.sessions = first.sessions
      ∧ store.nextId = first.nextId := by
  unfold start at started
  split at started
  · cases started
  dsimp only at started
  split at started
  · cases started
  · cases started
    exact ⟨⟨rfl, rfl, rfl, rfl, rfl, rfl⟩, rfl, rfl⟩

/-- A schedule routes what it gives to sessions. -/
theorem Fresh.routed {settings : Config.UdpManagerSettings} {registered : Bool}
    (fresh : Fresh settings registered server) (store : Store) (schedule : List ServerAction) :
    Routed server store schedule (server.run store schedule).1 (server.run store schedule).2 := by
  have housed : server.IsHoused store := by
    refine ⟨[], ?_⟩
    rw [fresh.manager, fresh.configured]
    exact Manager.start_housed ..
  induction schedule using List.reverseRecOn with
  | nil =>
    refine ⟨housed, ?_, ?_⟩
    · intro request datagram asks
      rw [show (server.run store []).1.loop = .listening from fresh.loop] at asks
      cases asks
    · intro handover mem
      rw [show (server.run store []).1.handed = [] from fresh.handed] at mem
      cases mem
  | append_singleton schedule action ih =>
    have turn := (server.run store schedule).1.step_turn (server.run store schedule).2 action
    rw [show ((server.run store schedule).1.step (server.run store schedule).2 action)
      = server.run store (schedule ++ [action]) from
        (run_append server store schedule [action]).symm] at turn
    exact ih.step rfl rfl turn

/-- A session that is given something was looked up before. -/
theorem Fresh.looked_up {settings : Config.UdpManagerSettings} {registered : Bool}
    (fresh : Fresh settings registered server) (store : Store) (schedule : List ServerAction)
    {action : ServerAction} {handover : Handover}
    (gives : (server.run store schedule).1.handover? action = some handover) :
    LookedUp server store schedule handover
      ∧ (server.run store schedule).2.Shows handover.card := by
  have routed := fresh.routed store schedule
  generalize (server.run store schedule).1 = before at gives routed
  unfold handover? at gives
  split at gives
  · split at gives
    · next request datagram asks =>
      split at gives
      · next card told =>
        obtain rfl : Handover.mk datagram card = handover := Option.some.inj gives
        exact (routed.asking request datagram asks).2 card told
      · cases gives
    · cases gives
  · cases gives

/-- Every step of a schedule gives a datagram to the session that takes it, or gives none. -/
theorem Fresh.gives {settings : Config.UdpManagerSettings} {registered : Bool}
    (fresh : Fresh settings registered server) (store : Store) (schedule : List ServerAction)
    (action : ServerAction) :
    (∃ handover, HandsOver (server.run store schedule) (server.run store (schedule ++ [action]))
        handover)
      ∨ (server.run store (schedule ++ [action])).1.handovers
          = (server.run store schedule).1.handovers
        ∧ (action.isLoop = true →
          (server.run store (schedule ++ [action])).2 = (server.run store schedule).2) := by
  have becomes : server.run store (schedule ++ [action])
      = (server.run store schedule).1.step (server.run store schedule).2 action :=
    run_append server store schedule [action]
  rw [becomes]
  rcases step_hands (server.run store schedule).1 (server.run store schedule).2 action with
    ⟨request, datagram, card, asks, gives, hands⟩ | ⟨gives, still⟩
  · left
    have carries : (server.run store schedule).1.loop.carried? = some datagram := by
      rw [asks]
      rfl
    refine ⟨⟨datagram, card⟩, ?_⟩
    rw [hands]
    exact hand_handsOver carries (fresh.looked_up store schedule gives).2
  · right
    refine ⟨?_, still⟩
    rw [handovers_step, gives]
    exact List.append_nil _

/-- A fresh server has accepted nothing. -/
theorem Fresh.inOrder {settings : Config.UdpManagerSettings} {registered : Bool}
    (fresh : Fresh settings registered server) : server.InOrder [] := by
  refine ⟨?_, Nat.zero_le _, fun _ => ?_⟩
  · simp [accepted, handovers, fresh.received, fresh.handed]
  · rw [fresh.loop]
    rfl

/-- The request of the loop finds the gate up, and the strand looks for the session. -/
def lookUp (request : Nat) : List ServerAction :=
  [.manage (.advance request (.ok ())), .manage (.advance request (.ok ())), .manage .work,
    .advanceLoop]

end Server

end PeerNet.Udp
