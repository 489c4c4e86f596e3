import PeerNet.Proofs.Manager.Gates
import PeerNet.Udp.World

/-!
# Whether clients and servers run when they say so

A client or a server that says that it runs has its strand open and its loops going, as long as
nobody starts it again after a stop: then the gate goes up, but the strand stays closed. A server
is refused in this case if its socket can be bound at all, and says that it runs all the same.

* **Calls** (`Side.perform`): starts, stops, and what else happens between them.
* **Slips** (`Side.slips`): the starts that get through though they should not.
* **One call** (`Side.Sound.perform`): every other call keeps what is said true.
* **Any calls** (`run_truthful_iff`): what is said is true exactly if no start slips through.
* **A restart** (`restart_misleads`) slips through.
-/

namespace PeerNet.Udp

open Config (UdpManagerSettings)

/-- Clients and servers. -/
inductive Role where
  /-- A client. -/
  | client
  /-- A server. -/
  | server
  deriving DecidableEq, Repr

/-- A client or a server that has not started. -/
def Role.create (role : Role) (settings : UdpManagerSettings) (registered : Bool) : Side :=
  match role with
  | client => .client (.create settings registered)
  | server => .server (.create settings registered)

/-- What happens to a side. -/
inductive Call where
  /-- Somebody starts it. The address that a server has bound may not be readable. -/
  | start (unreadable : Option IoFailure)
  /-- Somebody stops it. -/
  | stop
  /-- The manager does something else. -/
  | manage (action : Manager.Action) (starts : action ≠ .stop) (goes : action ≠ .advanceStop)
  /-- Sessions do something, time goes by, sockets are bound and released. -/
  | elsewhere (store : Store)

namespace Side

variable {side after : Side} {store changed : Store} {unreadable : Option IoFailure}

/-! ### Calls -/

/-- Something happens, and whoever has called gets the answer. -/
def perform (side : Side) (store : Store) : Call → Side × Store
  | .start unreadable =>
    let (side, store, _) := side.startReading unreadable store
    (side, store)
  | .stop => side.stop store
  | .manage action _ _ =>
    let (manager, store) := Manager.step side.backend action side.hub.manager store
    (side.withHub { side.hub with manager := manager }, store)
  | .elsewhere store => (side, store)

/-- Many things happen. -/
def performAll (side : Side) (store : Store) (calls : List Call) : Side × Store :=
  calls.foldl (fun (side, store) call => side.perform store call) (side, store)

/-- A start gets through to where the side takes requests, though its loops have been told to end
for good or the address of its socket cannot be read. A server that cannot bind a socket does not
get there. -/
def slips (side : Side) (store : Store) (unreadable : Option IoFailure) : Prop :=
  side.hub.isRunning = false ∧
    match side with
    | client c => c.hub.manager.cancelled = true
    | server s =>
      (store.host.bind .udp s.hub.settings.bindTo).toBool = true
        ∧ (s.hub.manager.cancelled = true ∨ unreadable.isSome = true)

/-- What a side says of itself is true: if it says that it runs it does. -/
structure Honest (side : Side) (store : Store) : Prop where
  /-- Its strand takes jobs. -/
  opened : side.hub.isRunning = true → side.hub.manager.closed = false
  /-- Its loops go on. -/
  going : side.hub.isRunning = true → side.hub.manager.cancelled = false
  /-- A server has a socket. -/
  bound : side.hub.isRunning = true → ∀ server, side = .server server → server.socket.isSome = true
  /-- A request gets what the directory shows or the pool has for it. -/
  answers : side.hub.isRunning = true → ∀ remote,
    (side.get remote store).2.2 = side.hub.manager.pooled side.backend remote store
  /-- It is not told that the strand is closed. -/
  heard : side.hub.isRunning = true → ∀ remote text,
    (side.get remote store).2.2 ≠ .error (.channelSend text)

/-- Whatever is called, a side says the truth of itself. -/
structure Truthful (side : Side) (store : Store) (calls : List Call) : Prop where
  /-- A start that is refused makes no difference to whether the side runs. -/
  refused : ∀ front unreadable back error, calls = front ++ .start unreadable :: back →
    ((side.performAll store front).1.startReading unreadable (side.performAll store front).2).2.2
      = .error error →
    (side.performAll store (front ++ [.start unreadable])).1.hub.isRunning
      = (side.performAll store front).1.hub.isRunning
  /-- It says the truth after every call. -/
  honest : ∀ front back, calls = front ++ back →
    (side.performAll store front).1.Honest (side.performAll store front).2

/-! ### One call -/

/-- What is true of a side as long as no start slips through. -/
structure Sound (side : Side) : Prop where
  /-- The stages of its requests. -/
  kind : side.hub.manager.kind = match side with
    | client _ => Client.kind
    | server _ => Server.kind
  /-- The jobs on its strand are in line with the requests. -/
  filed : side.hub.manager.Filed
  /-- While the gate is up the loops go on. -/
  going : side.hub.manager.admits = true → side.hub.manager.cancelled = false
  /-- Until they are told to end the strand takes jobs. -/
  opened : side.hub.manager.cancelled = false → side.hub.manager.closed = false
  /-- A server has a socket once it has started. -/
  bound : ∀ server, side = .server server →
    server.socket.isSome = (server.hub.manager.admits || server.hub.manager.cancelled)

/-- A side that was just created has neither started nor been told to end. -/
theorem create_sound (role : Role) (settings : UdpManagerSettings) (registered : Bool) :
    (role.create settings registered).Sound := by
  rcases role
  case client =>
    refine ⟨rfl, Manager.start_filed .., fun _ => rfl, fun _ => rfl, ?_⟩
    rintro server eq
    exact Side.noConfusion eq
  case server =>
    refine ⟨rfl, Manager.start_filed .., fun _ => rfl, fun _ => rfl, ?_⟩
    rintro server eq
    obtain rfl := Side.server.inj eq
    rfl

/-- A start that slips through leaves a side that says that it runs, though it was refused or its
loops have ended. -/
theorem running_of_slips (slips : side.slips store unreadable) :
    (side.startReading unreadable store).1.hub.isRunning = true
      ∧ ((side.startReading unreadable store).1.hub.manager.cancelled = true
        ∨ ∃ error, (side.startReading unreadable store).2.2 = .error error) := by
  obtain ⟨down, slips⟩ := slips
  rcases side with c | s
  · have down : c.hub.isRunning = false := down
    have started : c.start store.now = (⟨c.hub.start store.now⟩, .ok ()) := by
      rw [Client.start, if_neg (by simp [down])]
    simp only [startReading, start, started]
    exact ⟨rfl, .inl slips⟩
  · have down : s.hub.isRunning = false := down
    obtain ⟨binds, slips⟩ := slips
    rcases bound : store.host.bind .udp s.hub.settings.bindTo with failure | ⟨host, origin⟩
    · rw [bound] at binds
      cases binds
    rcases unreadable with _ | failure
    · have told : s.hub.manager.cancelled = true := by simpa using slips
      simp only [startReading, Server.startReading, Server.start, down, bound]
      rcases s.socket with _ | endpoint
      · exact ⟨rfl, .inl told⟩
      · exact ⟨rfl, .inr ⟨_, rfl⟩⟩
    · simp only [startReading, Server.startReading, down, bound]
      exact ⟨rfl, .inr ⟨_, rfl⟩⟩

/-- A side that runs is not started again. -/
theorem startReading_of_running (running : side.hub.isRunning = true)
    (unreadable : Option IoFailure) (store : Store) :
    ∃ error, side.startReading unreadable store = (side, store, .error error) := by
  rcases side with c | s
  · have running : c.hub.isRunning = true := running
    simp only [startReading, start, Client.start, running]
    exact ⟨_, rfl⟩
  · have running : s.hub.isRunning = true := running
    have twice : s.start store = (s, store, .error (.illegalState "udp server started twice")) := by
      rw [Server.start, if_pos running]
    rcases unreadable with _ | failure
    · simp only [startReading, Server.startReading, twice]
      exact ⟨_, rfl⟩
    · simp only [startReading, Server.startReading, running, Bool.true_or, if_true, twice]
      exact ⟨_, rfl⟩

/-- A client gets going if it has not been stopped. -/
theorem Sound.start_client {c : Client} (sound : (client c).Sound)
    (going : c.hub.manager.cancelled = false) (now : Nat) :
    (client ⟨c.hub.start now⟩).Sound := by
  refine ⟨sound.kind, ⟨sound.filed.unused, sound.filed.asked⟩, fun _ => going, sound.opened, ?_⟩
  rintro server eq
  exact Side.noConfusion eq

/-- A server that can bind a socket gets going if it has not been stopped. -/
theorem Sound.start_server {s : Server} (sound : (server s).Sound)
    (down : s.hub.isRunning = false) (going : s.hub.manager.cancelled = false)
    {host : Net.Isolated} {origin : Endpoint}
    (binds : store.host.bind .udp s.hub.settings.bindTo = .ok (host, origin)) :
    ∃ started, s.start store = (started, { store with host := host }, .ok ())
      ∧ (server started).Sound := by
  have bound := sound.bound s rfl
  have unbound : s.socket = none := by
    rw [show s.hub.manager.admits = false from down, going] at bound
    exact Option.not_isSome_iff_eq_none.mp (Bool.eq_false_iff.mp bound)
  refine ⟨{ s with hub := s.hub.start store.now, socket := some origin, loop := .listening },
    ?_, ?_⟩
  · rw [Server.start, if_neg (by simp [down])]
    simp only [binds, unbound]
  · refine ⟨sound.kind, ⟨sound.filed.unused, sound.filed.asked⟩, fun _ => going, sound.opened, ?_⟩
    rintro other eq
    obtain rfl := Side.server.inj eq
    rfl

/-- A start that does not slip through is refused and changes nothing, or gets the side going. -/
theorem Sound.startReading (sound : side.Sound) (fine : ¬ side.slips store unreadable) :
    (∃ error, side.startReading unreadable store = (side, store, .error error))
      ∨ (side.startReading unreadable store).1.Sound
        ∧ (side.startReading unreadable store).2.2 = .ok () := by
  by_cases running : side.hub.isRunning = true
  · exact .inl (startReading_of_running running unreadable store)
  have down : side.hub.isRunning = false := Bool.eq_false_iff.mpr running
  rcases side with c | s
  · right
    have down : c.hub.isRunning = false := down
    have going : c.hub.manager.cancelled = false :=
      Bool.eq_false_iff.mpr fun told => fine ⟨down, told⟩
    simp only [Side.startReading, start, Client.start, down]
    exact ⟨sound.start_client going store.now, rfl⟩
  · have down : s.hub.isRunning = false := down
    rcases binds : store.host.bind .udp s.hub.settings.bindTo with failure | ⟨host, origin⟩
    · left
      rcases unreadable with _ | unread <;>
        simp only [Side.startReading, Server.startReading, Server.start, down, binds] <;>
        exact ⟨_, rfl⟩
    · right
      have bindable : (store.host.bind .udp s.hub.settings.bindTo).toBool = true := by
        rw [binds]
        rfl
      have going : s.hub.manager.cancelled = false :=
        Bool.eq_false_iff.mpr fun told => fine ⟨down, bindable, .inl told⟩
      obtain rfl : unreadable = none := by
        rcases unreadable with _ | unread
        · rfl
        · exact absurd ⟨down, bindable, .inr rfl⟩ fine
      obtain ⟨started, starts, sound⟩ := sound.start_server down going binds
      simp only [Side.startReading, Server.startReading, starts]
      exact ⟨sound, trivial⟩

/-- A side with another manager. -/
theorem Sound.withManager (sound : side.Sound) (manager : Manager) (reaper : Option Ticker)
    (kind : manager.kind = side.hub.manager.kind) (filed : manager.Filed)
    (going : manager.admits = true → manager.cancelled = false)
    (opened : manager.cancelled = false → manager.closed = false)
    (bound : (manager.admits || manager.cancelled)
      = (side.hub.manager.admits || side.hub.manager.cancelled)) :
    (side.withHub { side.hub with manager := manager, reaper := reaper }).Sound := by
  rcases side with c | s
  · refine ⟨kind.trans sound.kind, filed, going, opened, ?_⟩
    rintro server eq
    exact Side.noConfusion eq
  · refine ⟨kind.trans sound.kind, filed, going, opened, ?_⟩
    rintro other eq
    obtain rfl := Side.server.inj eq
    exact (sound.bound s rfl).trans bound.symm

/-- A stop ends the loops for good, if the side runs. -/
theorem Sound.stop (sound : side.Sound) (store : Store) : (side.stop store).1.Sound := by
  by_cases up : side.hub.manager.admits = true
  · obtain ⟨kind, down, told⟩ : _ ∧ _ ∧ _ := Manager.gate_stop side.backend store up
    have filed := sound.filed.stop side.backend store up
    refine sound.withManager (side.hub.manager.stop side.backend store).1 _ kind filed ?_ ?_ ?_
    · intro admits
      rw [down] at admits
      cases admits
    · intro going
      rw [told] at going
      cases going
    · rw [told, up, Bool.or_true, Bool.true_or]
  · have same : side.hub.manager.stop side.backend store = (side.hub.manager, store) := by
      rw [Manager.stop, if_neg up]
    refine sound.withManager (side.hub.manager.stop side.backend store).1 _ ?_ ?_ ?_ ?_ ?_
    all_goals rw [same]
    · exact sound.filed
    · exact sound.going
    · exact sound.opened

/-- Every call but a start that slips through leaves a side sound. -/
theorem Sound.perform (sound : side.Sound) (call : Call)
    (fine : ∀ unreadable, call = .start unreadable → ¬ side.slips store unreadable) :
    (side.perform store call).1.Sound := by
  rcases call with unreadable | _ | ⟨action, starts, goes⟩ | other
  case start =>
    rcases sound.startReading (fine unreadable rfl) with ⟨error, refused⟩ | ⟨going, -⟩
    · simp only [Side.perform, refused]
      exact sound
    · exact going
  case stop => exact sound.stop store
  case manage =>
    obtain ⟨kind, admits, cancelled, closed⟩ :=
      side.hub.manager.gate_step side.backend store starts
    have filed := sound.filed.step side.backend action store
    refine sound.withManager (Manager.step side.backend action side.hub.manager store).1
      side.hub.reaper kind filed ?_ ?_ ?_
    · rw [admits, cancelled]
      exact sound.going
    · rw [cancelled, closed goes]
      exact sound.opened
    · rw [admits, cancelled]
  case elsewhere => exact sound

/-- The sessions of a side fail to be built for other reasons than a closed strand. -/
theorem build_ne_closed (side : Side) (id : SessionId) (remote : Endpoint) (store : Store)
    (text : String) : (side.backend.build id remote store).1 ≠ .error (.channelSend text) := by
  rcases side with c | s
  · show (Client.build c.hub.settings id remote store).1 ≠ _
    unfold Client.build
    rcases store.host.bind .udp c.hub.settings.bindTo with failure | ⟨host, origin⟩ <;> exact nofun
  · show (Server.build s.hub.settings s.socket id remote store).1 ≠ _
    unfold Server.build
    rcases s.socket with _ | origin <;> exact nofun

/-- A sound side says the truth of itself. -/
theorem Sound.honest (sound : side.Sound) (store : Store) : side.Honest store := by
  have answers (up : side.hub.isRunning = true) (remote : Endpoint) :
      (side.get remote store).2.2 = side.hub.manager.pooled side.backend remote store := by
    have opened := sound.opened (sound.going up)
    -- a client looks at the gate first, a server into the directory
    rcases side with c | s
    · have order : c.hub.manager.kind.stages = Client.stages :=
        congrArg ManagerKind.stages sound.kind
      exact Manager.serve_answers _ store sound.filed up opened (.inl order)
    · have order : s.hub.manager.kind.stages = Server.kind.stages :=
        congrArg ManagerKind.stages sound.kind
      exact Manager.serve_answers _ store sound.filed up opened (.inr order)
  constructor
  case opened => exact fun up => sound.opened (sound.going up)
  case going => exact sound.going
  case bound =>
    rintro up server rfl
    have up : server.hub.manager.admits = true := up
    rw [sound.bound server rfl, up, Bool.true_or]
  case answers => exact answers
  case heard =>
    intro up remote text
    rw [answers up remote]
    exact Manager.pooled_ne_closed side.build_ne_closed text

/-! ### Any calls -/

/-- A row of calls may be cut anywhere. -/
theorem performAll_append (side : Side) (store : Store) (front back : List Call) :
    side.performAll store (front ++ back)
      = (side.performAll store front).1.performAll (side.performAll store front).2 back :=
  List.foldl_append

/-- A row of calls that ends with a start is the start after the others. -/
theorem performAll_start (side : Side) (store : Store) (front : List Call)
    (unreadable : Option IoFailure) :
    (side.performAll store (front ++ [.start unreadable])).1
      = ((side.performAll store front).1.startReading unreadable
        (side.performAll store front).2).1 := by
  rw [performAll_append]
  rfl

/-- Calls none of which slips through leave a side sound. -/
theorem Sound.performAll (sound : side.Sound) {calls : List Call}
    (fine : ∀ front unreadable back, calls = front ++ .start unreadable :: back →
      ¬ (side.performAll store front).1.slips (side.performAll store front).2 unreadable) :
    (side.performAll store calls).1.Sound := by
  induction calls generalizing side store with
  | nil => exact sound
  | cons call rest ih =>
    have first : (side.perform store call).1.Sound := by
      apply sound.perform
      rintro unreadable rfl
      exact fine [] unreadable rest rfl
    apply ih first
    rintro front unreadable back rfl
    exact fine (call :: front) unreadable back rfl

/-- **A client or a server runs exactly when it says so if no start slips through**, that is, if
nobody starts it again after it was stopped, a server that finds its address taken apart, and the
address of its socket can be read. Each start that slips through makes it say the wrong thing. -/
theorem run_truthful_iff (role : Role) (settings : UdpManagerSettings) (registered : Bool)
    (store : Store) (calls : List Call) :
    (role.create settings registered).Truthful store calls ↔
      ∀ front unreadable back, calls = front ++ .start unreadable :: back →
        ¬ ((role.create settings registered).performAll store front).1.slips
          ((role.create settings registered).performAll store front).2 unreadable := by
  have sound := create_sound role settings registered
  generalize role.create settings registered = side at sound
  constructor
  · rintro ⟨refused, honest⟩ front unreadable back eq slips
    have started := performAll_start side store front unreadable
    obtain ⟨running, told | ⟨error, failed⟩⟩ := running_of_slips slips
    · have next : calls = (front ++ [.start unreadable]) ++ back := by
        rw [eq, List.append_assoc]
        rfl
      have going := (honest _ back next).going
      rw [started] at going
      exact Bool.eq_false_iff.mp (going running) told
    · have still := refused front unreadable back error eq failed
      rw [started, running, slips.1] at still
      cases still
  · intro fine
    have sounds {front back : List Call} (eq : calls = front ++ back) :
        (side.performAll store front).1.Sound := by
      apply sound.performAll
      rintro ahead unreadable behind rfl
      exact fine ahead unreadable (behind ++ back) (by rw [eq, List.append_assoc]; rfl)
    constructor
    · intro front unreadable back error eq failed
      rw [performAll_start]
      rcases (sounds eq).startReading (fine front unreadable back eq) with ⟨_, same⟩ | ⟨-, starts⟩
      · rw [same]
      · cases starts.symm.trans failed
    · intro front back eq
      exact (sounds eq).honest _

/-- A client or a server that has not started, for sockets with any port of this host. -/
def anyPort (role : Role) : Side := role.create ⟨.localhost 0, 1, 10000, .default⟩ true

/-- No sessions, on a host on which nothing is bound. -/
def noSession : Store := ⟨.start, 0, ⟨1⟩, []⟩

/-- **A restart misleads**: a server that is stopped and started again is refused, and a client is
not, but both of them say that they run from then on, while their strands are closed. So does a
server that cannot read the address of its socket, though it was refused. -/
theorem restart_misleads :
    (let (stopped, store) := (anyPort .server).performAll noSession [.start none, .stop]
      let (restarted, store, result) := stopped.startReading none store
      stopped.hub.isRunning = false ∧
      result = .error (.illegalState "udp server socket already bound") ∧
      restarted.hub.isRunning = true ∧
      (restarted.get (.localhost 9000) store).2.2
        = .error (.channelSend "strand udp-server-mgr is closed")) ∧
    (let (stopped, store) := (anyPort .client).performAll noSession [.start none, .stop]
      let (restarted, store, result) := stopped.startReading none store
      stopped.hub.isRunning = false ∧
      result = .ok () ∧
      restarted.hub.isRunning = true ∧
      (restarted.get (.localhost 9000) store).2.2
        = .error (.channelSend "strand udp-client-pool-mgr is closed")) ∧
    (let unread := (anyPort .server).startReading (some .invalidArgument) noSession;
      unread.2.2 = .error (.io .invalidArgument) ∧ unread.1.hub.isRunning = true) := by
  decide +kernel

end Side

end PeerNet.Udp
