import PeerNet.Proofs.Session.Lifecycle
import PeerNet.Tcp.Connection
import PeerNet.Udp.Session

/-!
# Datagram sessions and connections keep to the lifecycle

Both kinds of sessions have a strand that holds the socket, or the writing side of it, and is asked
to let go of it when the session is stopped. Whoever stops a session, and whatever its callers, its
timer, its loops and its strands do meanwhile, it goes through its phases in order.

* **Datagrams** (`Udp.Session.protocol_lawful`) and **connections**
  (`Tcp.Connection.protocol_lawful`) only do what the lifecycle allows.
* **Both keep to the lifecycle** (`run_keepsLifecycle`).
-/

namespace PeerNet

open Protocol

/-! ### Sessions over datagrams -/

namespace Udp.Session

variable {session after : Session}

/-- How far a session has got. A datagram is sent in one stretch. -/
def lifecycle (session : Session) : Lifecycle :=
  ⟨session.phase, session.closed, session.holdsSocket, false, session.sends.count .close⟩

/-- A stop puts one teardown on the strand, if this takes jobs. -/
theorem count_close_stop (session : Session) :
    (if session.closed then session.sends else session.sends ++ [.close]).count .close =
      if session.closed then session.sends.count .close else session.sends.count .close + 1 := by
  split
  · rfl
  · rw [List.count_append]
    rfl

/-- What becomes of a session by a step of its lifecycle. -/
abbrev Goes (session after : Session) : Prop :=
  Lifecycle.Moves session.lifecycle after.lifecycle session.transmitted after.transmitted

/-- To stop a session is a step of its lifecycle that sends nothing. -/
theorem stop_goes (session : Session) : session.Goes session.stop := by
  have stopped (live : session.phase = .created ∨ session.phase = .running) :
      session.lifecycle.Step ({ session with
        phase := if session.closed then .stopped else .stopping
        sends := if session.closed then session.sends else session.sends ++ [.close]
        closed := true } : Session).lifecycle := by
    simp only [lifecycle, count_close_stop]
    exact .stop live
  unfold stop
  split
  · next phase => exact (stopped (.inl phase)).quiet
  · next phase => exact (stopped (.inr phase)).quiet
  · exact .stay
  · exact .stay

/-- What a caller makes of the outcome of a send may only stop the session. -/
theorem conclude_goes (session : Session) (result : Sent) :
    session.Goes (session.conclude result) := by
  rcases result with _ | error
  · exact .stay
  · show session.Goes (if error.isSessionFatal then session.stop else session)
    split
    · exact session.stop_goes
    · exact .stay

/-- Only a session that was created starts, and then it runs. -/
theorem start_ok {now : Nat} (started : session.start now = .ok after) :
    session.phase = .created ∧ after.phase = .running ∧ session.Goes after := by
  unfold start at started
  split at started
  · next created =>
    cases started
    exact ⟨created, rfl, (Lifecycle.Step.start created).quiet⟩
  · cases started

/-- A datagram that is queued has not been sent, and leaves the lifecycle as it is. -/
theorem submit_ok {data : Bytes} {caller : Nat}
    (queued : session.submit data = .ok (after, caller)) :
    after.lifecycle = session.lifecycle ∧ after.transmitted = session.transmitted := by
  unfold submit at queued
  split at queued
  · cases queued
  · cases queued
    simp [lifecycle, List.count_append]

/-- What cannot be queued came too late for the strand. -/
theorem submit_error {data : Bytes} {error : Error} (refused : session.submit data = .error error) :
    error = session.closedError := by
  unfold submit at refused
  split at refused
  · cases refused
    rfl
  · cases refused

/-- The strand that sends only does what the lifecycle allows. -/
theorem workSend_goes (session : Session) (transmit : Bytes → Except IoFailure Nat) :
    session.Goes (session.workSend transmit) := by
  unfold workSend
  split
  · exact .stay
  · next caller data rest sends =>
    constructor
    · have same : session.lifecycle.teardowns = rest.count .close := by simp [lifecycle, sends]
      simp only [lifecycle, sends] at same ⊢
      rw [same]
      exact .stay
    · intro free _
      exact if_neg (Bool.eq_false_iff.mp free)
  · next rest sends =>
    apply Lifecycle.Step.quiet
    apply Lifecycle.Step.tear rfl
    simp [lifecycle, sends]

/-- Whatever a session does is a step, and sends nothing without the socket. -/
theorem step_goes (session : Session) (registered : Bool) (action : Action) :
    session.Goes (session.step registered action) := by
  cases action with
  | start now =>
    simp only [step]
    split
    · next started => exact (start_ok started).2.2
    · exact .stay
  | submit data =>
    simp only [step]
    split
    · exact .stay
    · split
      · next queued =>
        obtain ⟨same, silent⟩ := submit_ok queued
        rw [Goes, same, silent]
        exact .stay
      · exact .stay
  | workSend outcome => exact session.workSend_goes _
  | take caller =>
    simp only [step, take]
    split
    · exact .stay
    · next result _ => exact conclude_goes { session with sent := session.sent.filter _ } result
  | deliver data => exact .stay
  | receive source data =>
    simp only [step, receive]
    split <;> exact .stay
  | failReceive =>
    simp only [step, failReceive]
    split
    · exact session.stop_goes
    · exact .stay
  | workLife =>
    simp only [step, workLife]
    split <;> exact .stay
  | wake now =>
    simp only [step, wake]
    split
    · split
      · split <;> exact .stay
      · exact .stay
    · exact .stay
  | judge =>
    simp only [step, judge]
    split
    · exact .stay
    · exact session.stop_goes
    · exact .stay
  | heed =>
    simp only [step, heed]
    split <;> exact .stay
  | stop => exact session.stop_goes

/-- A session over datagrams that is stopped is past running. -/
theorem stopping_le_stop (session : Session) :
    Phase.stopping.code ≤ session.stop.phase.code := by
  unfold stop
  split
  · dsimp only
    split <;> decide
  · dsimp only
    split <;> decide
  · next phase => exact Nat.le_of_eq (congrArg Phase.code phase.symm)
  · next phase =>
    rw [phase]
    decide

/-- A caller who is told that a message is too large, or came too late for the strand, leaves the
session as it is. -/
theorem told_keeps {registered : Bool} {action : Action} {text : String} {error : Error}
    (told : session.told action = some error)
    (kind : error = .messageTooLarge text ∨ error = .channelSend text) :
    (session.step registered action).lifecycle = session.lifecycle := by
  have harmless : error.isSessionFatal = false := by rcases kind with rfl | rfl <;> rfl
  cases action with
  | start now =>
    rcases started : session.start now with cause | after
    · simp only [step, started]
    · simp only [Session.told, started, reduceCtorEq] at told
  | submit data =>
    rcases refused : session.refusal? data with _ | cause
    · rcases submitted : session.submit data with cause | ⟨after, caller⟩
      · simp only [step, refused, submitted]
      · simp only [Session.told, refused, submitted, reduceCtorEq] at told
    · simp only [step, refused]
  | take caller =>
    simp only [Session.told] at told
    simp only [step, take]
    split
    · rfl
    · next result found =>
      rw [found] at told
      cases told
      show (if error.isSessionFatal then _ else _ : Session).lifecycle = _
      rw [harmless]
      rfl
  | workSend | deliver | receive | failReceive | workLife | wake | judge | heed | stop => cases told

/-- A session over datagrams does what the lifecycle allows. -/
theorem protocol_lawful (registered : Bool) :
    (protocol registered).Lawful lifecycle transmitted .created where
  phase session := rfl
  moves session action := session.step_goes registered action
  enqueue {session after data} queued := by
    rcases submitted : session.submit data with error | ⟨next, caller⟩
    · simp only [protocol, submitted] at queued
      cases queued
    · simp only [protocol, submitted] at queued
      cases queued
      exact submit_ok submitted
  giveUp {session data error} refused := by
    rcases submitted : session.submit data with cause | ⟨next, caller⟩
    · simp only [protocol, submitted] at refused
      cases refused
      rw [submit_error submitted]
      rfl
    · simp only [protocol, submitted] at refused
      cases refused
  stop {session} _ := session.stopping_le_stop
  starts {session action} starts := by
    cases action with
    | start now =>
      rcases started : session.start now with error | after
      · simp only [protocol, started] at starts
        cases starts
      · obtain ⟨created, running, _⟩ := start_ok started
        refine ⟨created, ?_⟩
        simp only [protocol, step, started]
        exact running
    | _ => cases starts
  told told kind := told_keeps told kind

end Udp.Session

/-! ### Connections -/

namespace Tcp.Connection

variable {connection after : Connection}

/-- How far a connection has got. -/
def lifecycle (connection : Connection) : Lifecycle :=
  ⟨connection.phase, connection.closed, connection.holdsWriter, connection.work ≠ .idle,
    connection.jobs.count .shutdown⟩

/-- What becomes of a connection by a step of its lifecycle. -/
abbrev Goes (connection after : Connection) : Prop :=
  Lifecycle.Moves connection.lifecycle after.lifecycle connection.wire after.wire

/-- A stop puts one teardown on the strand, if this takes jobs. -/
theorem count_shutdown_stop (connection : Connection) :
    (if connection.closed then connection.jobs
      else connection.jobs ++ [.shutdown]).count .shutdown =
      if connection.closed then connection.jobs.count .shutdown
      else connection.jobs.count .shutdown + 1 := by
  split
  · rfl
  · rw [List.count_append]
    rfl

/-- To stop a connection is a step of its lifecycle that sends nothing. -/
theorem stop_goes (connection : Connection) : connection.Goes connection.stop := by
  unfold stop
  split
  · next phase =>
    apply Lifecycle.Step.quiet
    simp only [lifecycle, count_shutdown_stop]
    exact .stop (.inr phase)
  all_goals exact .stay

/-- A message that is queued is not on the wire, and leaves the lifecycle as it is. -/
theorem enqueue_ok {blocks : List Bytes} (queued : connection.enqueue blocks = .ok after) :
    after.lifecycle = connection.lifecycle ∧ after.wire = connection.wire := by
  unfold enqueue at queued
  split at queued
  · cases queued
  · cases queued
    simp [lifecycle, wire, List.count_append]

/-- Queueing for a caller at once is finding the connection running, and then queueing. -/
theorem submit_map_fst (connection : Connection) (blocks : List Bytes) :
    (connection.submit blocks).map Prod.fst =
      if connection.isRunning then connection.enqueue blocks
      else .error connection.stoppedError := by
  unfold submit enqueue
  rcases connection.isRunning with _ | _
  · rfl
  · rcases connection.closed with _ | _ <;> rfl

/-- A message that a caller submits is not on the wire, and leaves the lifecycle as it is. -/
theorem submit_ok {blocks : List Bytes} {caller : Nat}
    (queued : connection.submit blocks = .ok (after, caller)) :
    after.lifecycle = connection.lifecycle ∧ after.wire = connection.wire := by
  have submitted := connection.submit_map_fst blocks
  rw [queued] at submitted
  split at submitted
  · exact enqueue_ok submitted.symm
  · cases submitted

/-- The worker that has finished rests. -/
theorem finish_goes (connection : Connection) (caller : Nat) (result : Option Error) :
    connection.Goes (connection.finish caller result) :=
  Lifecycle.Step.rest.quiet

/-- The worker that begins a job only does what the lifecycle allows. -/
theorem begin_goes (connection : Connection) : connection.Goes connection.begin := by
  unfold begin
  split
  · next caller blocks rest idle jobs =>
    have same :
        ({ connection with jobs := rest } : Connection).lifecycle = connection.lifecycle := by
      simp [lifecycle, jobs]
    dsimp only
    split
    · next holds =>
      apply Lifecycle.Step.quiet
      rw [← same]
      exact .send holds
    · rw [Goes, ← same]
      exact finish_goes { connection with jobs := rest } caller _
  · next rest idle jobs =>
    apply Lifecycle.Step.quiet
    have resting : connection.lifecycle.busy = false := by simp [lifecycle, idle]
    have waits : connection.lifecycle.teardowns = rest.count .shutdown + 1 := by
      simp [lifecycle, jobs]
    have tears := Lifecycle.Step.tear resting _ waits
    simpa [lifecycle, idle] using tears
  · exact .stay

/-- A stretch of writing only does what the lifecycle allows, and writes to the socket it holds. -/
theorem write_goes (connection : Connection) (acceptance : Acceptance) :
    connection.Goes (connection.write acceptance) := by
  unfold write
  split
  · exact .stay
  · next caller blocks _ work =>
    have busy : connection.lifecycle.busy = true := by simp [lifecycle, work]
    -- a connection that is sending may send
    have loud {after : Connection} (step : connection.lifecycle.Step after.lifecycle) :
        connection.Goes after :=
      ⟨step, fun _ idle => by rw [busy] at idle; cases idle⟩
    split
    · next outlet left _ =>
      apply loud
      have same : ({ connection with outlet := outlet, work := .writing caller left false } :
          Connection).lifecycle = connection.lifecycle := by
        simp [lifecycle, work]
      rw [same]
      exact .stay
    · exact loud .rest
    · exact loud .rest

/-- A caller that takes the outcome of a send may only stop the connection. -/
theorem take_goes (connection : Connection) (caller : Nat) :
    connection.Goes (connection.take caller) := by
  unfold take
  split
  · exact .stay
  · dsimp only
    split
    · split
      · exact stop_goes { connection with sent := connection.sent.filter _ }
      · exact .stay
    · exact .stay

/-- Whatever a connection does is a step, and sends nothing without the writing side. -/
theorem step_goes (connection : Connection) (action : Action) :
    connection.Goes (connection.step action) := by
  cases action with
  | submit blocks =>
    rcases submitted : connection.submit blocks with error | ⟨after, caller⟩
    · simp only [step, submitted]
      exact .stay
    · obtain ⟨same, silent⟩ := submit_ok submitted
      simp only [step, submitted]
      rw [Goes, same, silent]
      exact .stay
  | begin => exact connection.begin_goes
  | write acceptance => exact connection.write_goes acceptance
  | giveUp =>
    simp only [step, giveUp]
    split
    · split
      · exact connection.finish_goes _ _
      · exact .stay
    · exact .stay
  | take caller => exact connection.take_goes caller
  | stop => exact connection.stop_goes

/-- A connection that is stopped is past running, once it was started. -/
theorem stopping_le_stop (connection : Connection) (begun : connection.phase ≠ .created) :
    Phase.stopping.code ≤ connection.stop.phase.code := by
  unfold stop
  split
  · dsimp only
    split <;> decide
  · next phase => exact absurd phase begun
  · next phase => exact Nat.le_of_eq (congrArg Phase.code phase.symm)
  · next phase =>
    rw [phase]
    decide

/-- A caller who is told that a message is too large, or came too late for the strand, leaves the
connection as it is. -/
theorem told_keeps {action : Action} {text : String} {error : Error}
    (told : connection.told action = some error)
    (kind : error = .messageTooLarge text ∨ error = .channelSend text) :
    (connection.step action).lifecycle = connection.lifecycle := by
  have harmless : error.isSessionFatal = false := by rcases kind with rfl | rfl <;> rfl
  cases action with
  | submit blocks =>
    rcases submitted : connection.submit blocks with cause | ⟨after, caller⟩
    · simp only [step, submitted]
    · simp only [Connection.told, submitted, reduceCtorEq] at told
  | take caller =>
    simp only [Connection.told] at told
    simp only [step, take]
    split
    · rfl
    · next result found =>
      rw [found] at told
      cases told
      show (if error.isSessionFatal then _ else _ : Connection).lifecycle = _
      rw [harmless]
      rfl
  | begin | write | giveUp | stop => cases told

/-- A connection does what the lifecycle allows. -/
theorem protocol_lawful : protocol.Lawful lifecycle wire .running where
  phase connection := rfl
  moves connection action := connection.step_goes action
  enqueue queued := enqueue_ok queued
  giveUp {connection blocks error} refused := by
    have late : error = connection.closedError := by
      simp only [protocol, enqueue] at refused
      split at refused
      · cases refused
        rfl
      · cases refused
    rw [late]
    rfl
  stop {connection} begun := by
    apply connection.stopping_le_stop
    intro created
    rw [show connection.lifecycle.phase = .created from created] at begun
    exact absurd begun (by decide)
  starts starts := by cases starts
  told told kind := told_keeps told kind

end Tcp.Connection

/-! ### Both keep to the lifecycle -/

/-- Sessions over datagrams and connections go through their phases in order, whoever sends through
them or stops them, and whatever their timers, their loops and their strands do meanwhile: they are
torn down once, let go of the socket by that, and send nothing afterwards; a message that comes
after a stop is refused; a session is started once, and not after a stop; and a message that is too
large, or too late for the strand, changes nothing. -/
theorem run_keepsLifecycle :
    (∀ registered card origin ownsSocket settings,
      (Udp.Session.protocol registered).KeepsLifecycle Udp.Session.lifecycle
        Udp.Session.transmitted (.create card origin ownsSocket settings)) ∧
    ∀ card writeBlock, Tcp.Connection.protocol.KeepsLifecycle Tcp.Connection.lifecycle
      Tcp.Connection.wire (.spawn card writeBlock) := by
  constructor
  · intro registered card origin ownsSocket settings
    exact (Udp.Session.protocol_lawful registered).keepsLifecycle (.inl rfl) rfl
  · intro card writeBlock
    exact Tcp.Connection.protocol_lawful.keepsLifecycle (.inr rfl) rfl

/-- A message that was let through before a stop comes too late for the strand. -/
example : Tcp.Connection.protocol.reply?
    (Tcp.Connection.protocol.run ⟨.spawn ⟨⟨1⟩, .localhost 9000⟩ 1024, []⟩
      [.ask (.blocks [[0]]), .act .stop]) (.queue 0) =
      some (.channelSend "strand tcp-conn-#1-io is closed") := by
  rfl

end PeerNet
