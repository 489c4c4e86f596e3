import PeerNet.Session.Conversation

/-!
# The lifecycle of a session

A session is created, runs, is being torn down and is gone, and never goes back. Callers, its timers
and loops, sends that fail and the teardown itself all have a hand in it, in any order. What they
may do is said once, in terms of what matters: the phase, whether the strand takes further jobs,
whether it holds the socket, whether it is sending, and how many teardowns are on it.

* **Steps** (`Lifecycle.Step`) are what anybody may do, and **sound** lifecycles (`Lifecycle.Sound`)
  are those that come of it (`Step.sound`).
* **Turns** (`Lifecycle.Turn`): from a sound lifecycle a step leaves the phase alone, or starts the
  session, or begins to stop it with one teardown on the strand, or tears it down.
* **Lawful protocols** (`Protocol.Lawful`): every action is a step, and what is on the strand sends
  only as long as it holds the socket.
* **Keeping to the lifecycle** (`KeepsLifecycle`, `Lawful.keepsLifecycle`): what holds of every
  conversation through such a session.
-/

namespace PeerNet

/-- How far a session has got. -/
structure Lifecycle where
  /-- Its phase. -/
  phase : Phase
  /-- Whether the strand takes no further job. -/
  closed : Bool
  /-- Whether the strand holds the socket. -/
  holds : Bool
  /-- Whether the strand is sending. -/
  busy : Bool
  /-- How many teardowns wait on the strand. -/
  teardowns : Nat
  deriving DecidableEq, Repr

namespace Lifecycle

variable {before after : Lifecycle}

/-! ### Steps -/

/-- What anybody may do to a session. -/
inductive Step (before : Lifecycle) : Lifecycle → Prop where
  /-- Nothing that matters here. -/
  | stay : Step before before
  /-- It is started, if it has not been started. -/
  | start (created : before.phase = .created) : Step before { before with phase := .running }
  /-- It is stopped, if it has not been stopped. The teardown is queued, unless the strand takes no
  further job. -/
  | stop (live : before.phase = .created ∨ before.phase = .running) :
      Step before { before with
        phase := if before.closed then .stopped else .stopping
        closed := true
        teardowns := if before.closed then before.teardowns else before.teardowns + 1 }
  /-- The strand begins to send, which takes the socket. -/
  | send (holds : before.holds = true) : Step before { before with busy := true }
  /-- The strand has sent, or has given up. -/
  | rest : Step before { before with busy := false }
  /-- The strand runs a teardown. -/
  | tear (idle : before.busy = false) (left : Nat) (waits : before.teardowns = left + 1) :
      Step before { before with phase := .stopped, holds := false, teardowns := left }

/-- The lifecycles that sessions go through. -/
inductive Sound : Lifecycle → Prop where
  /-- It has not been stopped. -/
  | live (phase : Phase) (busy : Bool) (live : phase = .created ∨ phase = .running) :
      Sound ⟨phase, false, true, busy, 0⟩
  /-- It has been stopped, and the teardown waits. -/
  | stopping (busy : Bool) : Sound ⟨.stopping, true, true, busy, 1⟩
  /-- It is gone. -/
  | stopped : Sound ⟨.stopped, true, false, false, 0⟩

/-- A step from a sound lifecycle leads to a sound one. -/
theorem Step.sound (step : Step before after) (sound : Sound before) : Sound after := by
  rcases sound with ⟨phase, busy, live⟩ | ⟨busy⟩ | _
  · rcases step with _ | created | _ | _ | _ | ⟨_, left, waits⟩
    · exact .live phase busy live
    · exact .live .running busy (.inr rfl)
    · exact .stopping busy
    · exact .live phase true live
    · exact .live phase false live
    · cases waits
  · rcases step with _ | created | live | _ | _ | ⟨idle, left, waits⟩
    · exact .stopping busy
    · cases created
    · rcases live with created | running
      · cases created
      · cases running
    · exact .stopping true
    · exact .stopping false
    · cases idle
      cases waits
      exact .stopped
  · rcases step with _ | created | live | holds | _ | ⟨_, left, waits⟩
    · exact .stopped
    · cases created
    · rcases live with created | running
      · cases created
      · cases running
    · cases holds
    · exact .stopped
    · cases waits

/-! ### Turns -/

/-- What a step comes to. -/
inductive Turn (before after : Lifecycle) : Prop where
  /-- The phase is the same. -/
  | same (phase : after.phase = before.phase) (holds : after.holds = before.holds)
      (teardowns : after.teardowns = before.teardowns)
  /-- The session starts. -/
  | starts (created : before.phase = .created) (running : after.phase = .running)
      (holds : after.holds = before.holds) (teardowns : after.teardowns = before.teardowns)
  /-- The session begins to stop, with one teardown on the strand. -/
  | stops (live : before.phase = .created ∨ before.phase = .running)
      (stopping : after.phase = .stopping) (holds : after.holds = before.holds)
      (none : before.teardowns = 0) (one : after.teardowns = 1)
  /-- The teardown lets go of the socket. -/
  | tears (stopping : before.phase = .stopping) (stopped : after.phase = .stopped)
      (held : before.holds = true) (released : after.holds = false)
      (one : before.teardowns = 1) (none : after.teardowns = 0)

/-- A step of a sound lifecycle leaves the phase, or takes it on by one turn. -/
theorem Step.turn (step : Step before after) (sound : Sound before) : Turn before after := by
  rcases step with _ | created | live | _ | _ | ⟨_, left, waits⟩
  · exact .same rfl rfl rfl
  · exact .starts created rfl rfl rfl
  · rcases sound with ⟨phase, busy, _⟩ | ⟨busy⟩ | _
    · exact .stops live rfl rfl rfl rfl
    · rcases live with created | running
      · cases created
      · cases running
    · rcases live with created | running
      · cases created
      · cases running
  · exact .same rfl rfl rfl
  · exact .same rfl rfl rfl
  · rcases sound with ⟨phase, busy, _⟩ | ⟨busy⟩ | _
    · cases waits
    · cases waits
      exact .tears rfl rfl rfl rfl rfl rfl
    · cases waits

/-- The phase only goes forward. -/
theorem Turn.forward (turn : Turn before after) : before.phase.code ≤ after.phase.code := by
  rcases turn with ⟨phase, _, _⟩ | ⟨created, running, _, _⟩ | ⟨live, stopping, _, _, _⟩ |
    ⟨stopping, stopped, _, _, _, _⟩
  · exact Nat.le_of_eq (congrArg Phase.code phase.symm)
  · rw [created, running]
    decide
  · rcases live with created | running
    · rw [created, stopping]
      decide
    · rw [running, stopping]
      decide
  · rw [stopping, stopped]
    decide

/-- A session is gone only after it was being torn down. -/
theorem Turn.stopping_of_stopped (turn : Turn before after) (gone : after.phase = .stopped) :
    before.phase = .stopping ∨ before.phase = .stopped := by
  rcases turn with ⟨phase, _, _⟩ | ⟨_, running, _, _⟩ | ⟨_, stopping, _, _, _⟩ |
    ⟨stopping, _, _, _, _, _⟩
  · exact .inr (phase ▸ gone)
  · cases running.symm.trans gone
  · cases stopping.symm.trans gone
  · exact .inl stopping

/-- What is gone holds nothing, and sends nothing. -/
theorem Sound.released (sound : Sound before) (gone : before.phase = .stopped) :
    before.holds = false ∧ before.busy = false := by
  rcases sound with ⟨phase, busy, live⟩ | ⟨busy⟩ | _
  · rcases live with rfl | rfl <;> cases gone
  · cases gone
  · exact ⟨rfl, rfl⟩

/-- Only what has been created, or runs already, runs after a step. -/
theorem Step.live_of_running (step : Step before after) (running : after.phase = .running) :
    before.phase = .created ∨ before.phase = .running := by
  rcases step with _ | created | _ | _ | _ | _
  · exact .inr running
  · exact .inl created
  · simp only at running
    split at running <;> cases running
  · exact .inr running
  · exact .inr running
  · cases running

/-- Nothing is created by a step. -/
theorem Step.created_of_created (step : Step before after) (created : after.phase = .created) :
    before.phase = .created := by
  rcases step with _ | _ | _ | _ | _ | _
  · exact created
  · cases created
  · simp only at created
    split at created <;> cases created
  · exact created
  · exact created
  · cases created

/-- A step, and what has been sent before and after it: nothing new without the socket. -/
structure Moves {O : Type} (before after : Lifecycle) (sent later : O) : Prop where
  /-- It is a step. -/
  step : Step before after
  /-- Nothing is sent without the socket. -/
  silent : before.holds = false → before.busy = false → later = sent

theorem Moves.stay {O : Type} {sent : O} : Moves before before sent sent := ⟨.stay, fun _ _ => rfl⟩

/-- A step by which nothing is sent. -/
theorem Step.quiet {O : Type} {sent : O} (step : Step before after) :
    Moves before after sent sent :=
  ⟨step, fun _ _ => rfl⟩

/-- While a session is being torn down one teardown waits, and the socket is held. -/
theorem Sound.waits (sound : Sound before) (stopping : before.phase = .stopping) :
    before.teardowns = 1 ∧ before.holds = true := by
  rcases sound with ⟨phase, busy, live⟩ | ⟨busy⟩ | _
  · rcases live with rfl | rfl <;> cases stopping
  · exact ⟨rfl, rfl⟩
  · cases stopping

end Lifecycle

/-! ### Lawful protocols -/

namespace Protocol

variable {S A M J O : Type} {protocol : Protocol S A M J} {view : S → Lifecycle} {output : S → O}
  {first : Phase} {session : S} {conversation : Conversation S J}

/-- What is counted on when callers talk through a session that begins in the phase `first`. -/
structure Lawful (protocol : Protocol S A M J) (view : S → Lifecycle) (output : S → O)
    (first : Phase) : Prop where
  /-- The phase that callers see is that of the lifecycle. -/
  phase (session : S) : protocol.phase session = (view session).phase
  /-- Whatever the session does is a step, and sends nothing without the socket. -/
  moves (session : S) (action : A) : Lifecycle.Moves (view session)
    (view (protocol.step session action)) (output session) (output (protocol.step session action))
  /-- What is queued has not been sent, and does not matter to the lifecycle. -/
  enqueue {session after : S} {job : J} : protocol.enqueue session job = .ok after →
    view after = view session ∧ output after = output session
  /-- What cannot be queued is given up, and the session is as it was. -/
  giveUp {session : S} {job : J} {error : Error} : protocol.enqueue session job = .error error →
    protocol.giveUp session error = session
  /-- After it was stopped a session is no longer live. -/
  stop {session : S} : first.code ≤ (view session).phase.code →
    Phase.stopping.code ≤ (view (protocol.step session protocol.stop)).phase.code
  /-- Only a session that was created is started. -/
  starts {session : S} {action : A} : protocol.starts session action = true →
    (view session).phase = .created ∧ (view (protocol.step session action)).phase = .running
  /-- A caller who is told that a message is too large, or came too late for the strand, changes
  nothing by it. -/
  told {session : S} {action : A} {text : String} {error : Error} :
    protocol.told session action = some error →
      error = .messageTooLarge text ∨ error = .channelSend text →
        view (protocol.step session action) = view session

/-- What becomes of the session by a stretch: it does something itself, or a message is queued, or
nothing happens to it. -/
inductive Stretch (protocol : Protocol S A M J) (conversation : Conversation S J) :
    Action A M → S → Prop where
  /-- Nothing happens. -/
  | nothing (action : Action A M) : Stretch protocol conversation action conversation.session
  /-- A message is queued. -/
  | queued (index : Nat) (job : J) (after : S)
      (enqueued : protocol.enqueue conversation.session job = .ok after) :
      Stretch protocol conversation (.queue index) after
  /-- The session does something. -/
  | acts (action : A) :
      Stretch protocol conversation (.act action) (protocol.step conversation.session action)

/-- By a stretch the session does something itself, or a message is queued, or nothing happens. -/
theorem Lawful.stretch (lawful : protocol.Lawful view output first)
    (conversation : Conversation S J) (action : Action A M) :
    Stretch protocol conversation action (protocol.converse conversation action).session := by
  cases action with
  | act action => exact .acts action
  | ask message =>
    have same : (protocol.converse conversation (.ask message)).session = conversation.session := by
      simp only [converse]
      split
      · rfl
      · split <;> rfl
    rw [same]
    exact .nothing _
  | queue index =>
    simp only [converse]
    split
    · exact .nothing _
    · next job _ =>
      rcases enqueued : protocol.enqueue conversation.session job with error | after
      · simp only [lawful.giveUp enqueued]
        exact .nothing _
      · exact .queued index job after enqueued

/-- Every stretch of a conversation is a step, and sends nothing without the socket. -/
theorem Lawful.moves_converse (lawful : protocol.Lawful view output first) (action : Action A M) :
    Lifecycle.Moves (view conversation.session)
      (view (protocol.converse conversation action).session) (output conversation.session)
      (output (protocol.converse conversation action).session) := by
  have stretch := lawful.stretch conversation action
  generalize (protocol.converse conversation action).session = after at stretch ⊢
  rcases stretch with _ | ⟨_, job, _, enqueued⟩ | ⟨action⟩
  · exact .stay
  · obtain ⟨same, silent⟩ := lawful.enqueue enqueued
    rw [same, silent]
    exact .stay
  · exact lawful.moves _ action

/-- Every stretch of a conversation is a step of its lifecycle. -/
theorem Lawful.step_converse (lawful : protocol.Lawful view output first) (action : Action A M) :
    Lifecycle.Step (view conversation.session)
      (view (protocol.converse conversation action).session) :=
  (lawful.moves_converse action).step

/-! ### Conversations -/

/-- A conversation may be cut anywhere. -/
theorem run_append (protocol : Protocol S A M J) (conversation : Conversation S J)
    (front back : List (Action A M)) :
    protocol.run conversation (front ++ back) =
      protocol.run (protocol.run conversation front) back :=
  List.foldl_append

/-- How often something happens in the course of a schedule. -/
def count (protocol : Protocol S A M J) (event : Conversation S J → Action A M → Bool)
    (conversation : Conversation S J) : List (Action A M) → Nat
  | [] => 0
  | action :: rest =>
    (event conversation action).toNat +
      protocol.count event (protocol.converse conversation action) rest

/-- Whether a teardown is put on the strand. -/
def queuesTeardown (protocol : Protocol S A M J) (view : S → Lifecycle)
    (conversation : Conversation S J) (action : Action A M) : Bool :=
  (view conversation.session).teardowns <
    (view (protocol.converse conversation action).session).teardowns

/-- Whether a teardown is run. -/
def runsTeardown (protocol : Protocol S A M J) (view : S → Lifecycle)
    (conversation : Conversation S J) (action : Action A M) : Bool :=
  (view (protocol.converse conversation action).session).teardowns <
    (view conversation.session).teardowns

/-- Whether the socket is let go of. -/
def releases (protocol : Protocol S A M J) (view : S → Lifecycle)
    (conversation : Conversation S J) (action : Action A M) : Bool :=
  (view conversation.session).holds &&
    !(view (protocol.converse conversation action).session).holds

/-- Whether the session is started. -/
def begins (protocol : Protocol S A M J) (conversation : Conversation S J) :
    Action A M → Bool
  | .act action => protocol.starts conversation.session action
  | .ask _ | .queue _ => false

/-- What holds of every conversation through a session, from the time when it is there. -/
structure KeepsLifecycle (protocol : Protocol S A M J) (view : S → Lifecycle) (output : S → O)
    (session : S) : Prop where
  /-- The phase only goes forward, and the session is gone only after it was being torn down. -/
  forward (schedule : List (Action A M)) (action : Action A M) :
    (protocol.phase (protocol.run ⟨session, []⟩ schedule).session).code ≤
        (protocol.phase (protocol.run ⟨session, []⟩ (schedule ++ [action])).session).code ∧
      (protocol.phase (protocol.run ⟨session, []⟩ (schedule ++ [action])).session = .stopped →
        protocol.phase (protocol.run ⟨session, []⟩ schedule).session = .stopping ∨
          protocol.phase (protocol.run ⟨session, []⟩ schedule).session = .stopped)
  /-- The teardown is queued at most once. -/
  queued (schedule : List (Action A M)) :
    protocol.count (protocol.queuesTeardown view) ⟨session, []⟩ schedule ≤ 1
  /-- It is run, and the socket let go of, once if the session is gone and else not at all. -/
  released (schedule : List (Action A M)) :
    protocol.count (protocol.runsTeardown view) ⟨session, []⟩ schedule =
        (if protocol.phase (protocol.run ⟨session, []⟩ schedule).session = .stopped then 1 else 0) ∧
      protocol.count (protocol.releases view) ⟨session, []⟩ schedule =
        if protocol.phase (protocol.run ⟨session, []⟩ schedule).session = .stopped then 1 else 0
  /-- While the session is being torn down one teardown waits, and the strand holds the socket. -/
  waits (schedule : List (Action A M)) :
    protocol.phase (protocol.run ⟨session, []⟩ schedule).session = .stopping →
      (view (protocol.run ⟨session, []⟩ schedule).session).teardowns = 1 ∧
      (view (protocol.run ⟨session, []⟩ schedule).session).holds = true
  /-- When the session is gone the strand does not hold the socket, and nothing is sent any more. -/
  silent (schedule : List (Action A M)) :
    protocol.phase (protocol.run ⟨session, []⟩ schedule).session = .stopped →
      (view (protocol.run ⟨session, []⟩ schedule).session).holds = false ∧
      ∀ more, output (protocol.run ⟨session, []⟩ (schedule ++ more)).session =
        output (protocol.run ⟨session, []⟩ schedule).session
  /-- A message that comes after a stop, and is fit to be sent, is refused and changes nothing. -/
  refuses (before after : List (Action A M)) (message : M) (job : J) :
    protocol.prepare
        (protocol.run ⟨session, []⟩ (before ++ .act protocol.stop :: after)).session message =
      .ok job →
    protocol.reply? (protocol.run ⟨session, []⟩ (before ++ .act protocol.stop :: after))
        (.ask message) =
      some (.sessionStopped (protocol.remote
        (protocol.run ⟨session, []⟩ (before ++ .act protocol.stop :: after)).session)) ∧
    protocol.converse (protocol.run ⟨session, []⟩ (before ++ .act protocol.stop :: after))
        (.ask message) =
      protocol.run ⟨session, []⟩ (before ++ .act protocol.stop :: after)
  /-- The session is started at most once, and never after a stop. -/
  started : (∀ schedule, protocol.count protocol.begins ⟨session, []⟩ schedule ≤ 1) ∧
    ∀ before after action, protocol.starts
      (protocol.run ⟨session, []⟩ (before ++ .act protocol.stop :: after)).session action = false
  /-- Who is told that a message is too large, or came too late for the strand, changes nothing. -/
  replies (schedule : List (Action A M)) (action : Action A M) (text : String) (error : Error) :
    protocol.reply? (protocol.run ⟨session, []⟩ schedule) action = some error →
      error = .messageTooLarge text ∨ error = .channelSend text →
        view (protocol.run ⟨session, []⟩ (schedule ++ [action])).session =
          view (protocol.run ⟨session, []⟩ schedule).session

/-! ### Any schedule -/

section run

variable {event : Conversation S J → Action A M → Bool}

/-- Whatever is said, the lifecycle stays one that sessions go through. -/
theorem Lawful.sound_run (lawful : protocol.Lawful view output first)
    (sound : (view conversation.session).Sound) (schedule : List (Action A M)) :
    (view (protocol.run conversation schedule).session).Sound := by
  induction schedule generalizing conversation with
  | nil => exact sound
  | cons action rest ih => exact ih ((lawful.step_converse action).sound sound)

/-- Every stretch leaves the phase, or takes it on by one turn. -/
theorem Lawful.turn (lawful : protocol.Lawful view output first)
    (sound : (view conversation.session).Sound) (action : Action A M) :
    Lifecycle.Turn (view conversation.session)
      (view (protocol.converse conversation action).session) :=
  (lawful.step_converse action).turn sound

/-- The phase never goes back. -/
theorem Lawful.forward_run (lawful : protocol.Lawful view output first)
    (sound : (view conversation.session).Sound) (schedule : List (Action A M)) :
    (view conversation.session).phase.code ≤
      (view (protocol.run conversation schedule).session).phase.code := by
  induction schedule generalizing conversation with
  | nil => exact Nat.le_refl _
  | cons action rest ih =>
    apply Nat.le_trans (lawful.turn sound action).forward
    exact ih ((lawful.step_converse action).sound sound)

/-- What is weighed by a number that rises by one whenever something happens, and never else,
happens as often as the number says. -/
theorem Lawful.add_count (lawful : protocol.Lawful view output first) (weight : Lifecycle → Nat)
    (rises : ∀ conversation action, (view conversation.session).Sound →
      weight (view conversation.session) + (event conversation action).toNat =
        weight (view (protocol.converse conversation action).session))
    (sound : (view conversation.session).Sound) (schedule : List (Action A M)) :
    weight (view conversation.session) + protocol.count event conversation schedule =
      weight (view (protocol.run conversation schedule).session) := by
  induction schedule generalizing conversation with
  | nil => rfl
  | cons action rest ih =>
    rw [count, ← Nat.add_assoc, rises conversation action sound]
    exact ih ((lawful.step_converse action).sound sound)

/-- If every event adds to a weight, there are no more of them than the weight has grown by. -/
theorem Lawful.add_count_le (lawful : protocol.Lawful view output first) (weight : Lifecycle → Nat)
    (rises : ∀ conversation action, (view conversation.session).Sound →
      weight (view conversation.session) + (event conversation action).toNat ≤
        weight (view (protocol.converse conversation action).session))
    (sound : (view conversation.session).Sound) (schedule : List (Action A M)) :
    weight (view conversation.session) + protocol.count event conversation schedule ≤
      weight (view (protocol.run conversation schedule).session) := by
  induction schedule generalizing conversation with
  | nil => exact Nat.le_refl _
  | cons action rest ih =>
    rw [count, ← Nat.add_assoc]
    apply Nat.le_trans (Nat.add_le_add_right (rises conversation action sound) _)
    exact ih ((lawful.step_converse action).sound sound)

/-- Whether a session was stopped. -/
def wasStopped (view : Lifecycle) : Nat := if Phase.stopping.code ≤ view.phase.code then 1 else 0

/-- That a session was stopped counts for one at most. -/
theorem wasStopped_le (view : Lifecycle) : wasStopped view ≤ 1 := by
  unfold wasStopped
  split <;> decide

/-- Whether a session is gone. -/
def isGone (view : Lifecycle) : Nat := if view.phase = .stopped then 1 else 0

/-- Whether a session is past its start. -/
def isPastStart (view : Lifecycle) : Nat := if view.phase = .created then 0 else 1

/-- That a session is past its start counts for one at most. -/
theorem isPastStart_le (view : Lifecycle) : isPastStart view ≤ 1 := by
  unfold isPastStart
  split <;> decide

/-- A teardown is put on the strand exactly when the session begins to stop. -/
theorem Lawful.queuesTeardown_rises (lawful : protocol.Lawful view output first)
    (conversation : Conversation S J) (action : Action A M)
    (sound : (view conversation.session).Sound) :
    wasStopped (view conversation.session) +
        (protocol.queuesTeardown view conversation action).toNat =
      wasStopped (view (protocol.converse conversation action).session) := by
  have turn := lawful.turn sound action
  unfold queuesTeardown wasStopped
  rcases turn with ⟨phase, _, teardowns⟩ | ⟨created, running, _, teardowns⟩ |
    ⟨live, stopping, _, none, one⟩ | ⟨stopping, stopped, _, _, one, none⟩
  · simp [phase, teardowns]
  · simp [created, running, teardowns, Phase.code]
  · rcases live with created | running
    · simp [created, stopping, none, one, Phase.code]
    · simp [running, stopping, none, one, Phase.code]
  · simp [stopping, stopped, none, one, Phase.code]

/-- The teardown is run exactly when the session is gone after it. -/
theorem Lawful.runsTeardown_rises (lawful : protocol.Lawful view output first)
    (conversation : Conversation S J) (action : Action A M)
    (sound : (view conversation.session).Sound) :
    isGone (view conversation.session) +
        (protocol.runsTeardown view conversation action).toNat =
      isGone (view (protocol.converse conversation action).session) := by
  have turn := lawful.turn sound action
  unfold runsTeardown isGone
  rcases turn with ⟨phase, _, teardowns⟩ | ⟨created, running, _, teardowns⟩ |
    ⟨live, stopping, _, none, one⟩ | ⟨stopping, stopped, _, _, one, none⟩
  · simp [phase, teardowns]
  · simp [created, running, teardowns]
  · rcases live with created | running
    · simp [created, stopping, none, one]
    · simp [running, stopping, none, one]
  · simp [stopping, stopped, none, one]

/-- The socket is let go of exactly when the session is gone after it. -/
theorem Lawful.releases_rises (lawful : protocol.Lawful view output first)
    (conversation : Conversation S J) (action : Action A M)
    (sound : (view conversation.session).Sound) :
    isGone (view conversation.session) + (protocol.releases view conversation action).toNat =
      isGone (view (protocol.converse conversation action).session) := by
  have turn := lawful.turn sound action
  unfold releases isGone
  rcases turn with ⟨phase, holds, _⟩ | ⟨created, running, holds, _⟩ |
    ⟨live, stopping, holds, _, _⟩ | ⟨stopping, stopped, held, free, _, _⟩
  · simp [phase, holds]
  · simp [created, running, holds]
  · rcases live with created | running
    · simp [created, stopping, holds]
    · simp [running, stopping, holds]
  · simp [stopping, stopped, held, free]

/-- A start that goes through takes the session past its start. -/
theorem Lawful.begins_rises (lawful : protocol.Lawful view output first)
    (conversation : Conversation S J) (action : Action A M)
    (sound : (view conversation.session).Sound) :
    isPastStart (view conversation.session) + (protocol.begins conversation action).toNat ≤
      isPastStart (view (protocol.converse conversation action).session) := by
  rcases started : protocol.begins conversation action with _ | _
  · -- a session that is past its start stays so
    have forward := (lawful.turn sound action).forward
    unfold isPastStart
    by_cases fresh : (view (protocol.converse conversation action).session).phase = .created
    · rw [fresh] at forward
      have created : (view conversation.session).phase = .created := by
        cases phase : (view conversation.session).phase with
        | created => rfl
        | running | stopping | stopped =>
          rw [phase] at forward
          exact absurd forward (by decide)
      simp [fresh, created]
    · simp only [if_neg fresh, Bool.toNat_false, Nat.add_zero]
      split <;> decide
  · cases action with
    | ask | queue => cases started
    | act action =>
      obtain ⟨created, running⟩ := lawful.starts started
      have runs : (view (protocol.converse conversation (.act action)).session).phase = .running :=
        running
      simp [isPastStart, created, runs]

end run

/-! ### Keeping to the lifecycle -/

/-- A session that was stopped is never live again. -/
theorem Lawful.stopped_run (lawful : protocol.Lawful view output first)
    (sound : (view conversation.session).Sound)
    (begun : first.code ≤ (view conversation.session).phase.code)
    (before after : List (Action A M)) :
    Phase.stopping.code ≤
      (view
        (protocol.run conversation
          (before ++ .act protocol.stop :: after)).session).phase.code := by
  rw [run_append]
  have running := lawful.sound_run sound before
  have ends := (lawful.step_converse (.act protocol.stop)).sound running
  apply Nat.le_trans (lawful.stop (Nat.le_trans begun (lawful.forward_run sound before)))
  exact lawful.forward_run ends after

/-- When a session is gone nothing is sent any more. -/
theorem Lawful.output_run (lawful : protocol.Lawful view output first)
    (sound : (view conversation.session).Sound)
    (gone : (view conversation.session).phase = .stopped) (more : List (Action A M)) :
    output (protocol.run conversation more).session = output conversation.session := by
  induction more generalizing conversation with
  | nil => rfl
  | cons action rest ih =>
    obtain ⟨free, idle⟩ := sound.released gone
    have forward := (lawful.turn sound action).forward
    rw [gone] at forward
    have stays : (view (protocol.converse conversation action).session).phase = .stopped := by
      cases phase : (view (protocol.converse conversation action).session).phase with
      | stopped => rfl
      | created | running | stopping =>
        rw [phase] at forward
        exact absurd forward (by decide)
    have same := ih ((lawful.step_converse action).sound sound) stays
    exact same.trans ((lawful.moves_converse action).silent free idle)

/-- What is fit to be sent is refused by a session that was stopped, and changes nothing. -/
theorem Lawful.refuses (lawful : protocol.Lawful view output first)
    (stopped : Phase.stopping.code ≤ (view conversation.session).phase.code) {message : M} {job : J}
    (fit : protocol.prepare conversation.session message = .ok job) :
    protocol.reply? conversation (.ask message) =
        some (.sessionStopped (protocol.remote conversation.session)) ∧
      protocol.converse conversation (.ask message) = conversation := by
  have idle : protocol.phase conversation.session ≠ .running := by
    rw [lawful.phase]
    intro running
    rw [running] at stopped
    exact absurd stopped (by decide)
  constructor
  · simp only [reply?, refusal?, fit, if_neg idle]
  · simp only [converse, fit, if_neg idle]

/-- A session that was stopped does not start. -/
theorem Lawful.not_starts (lawful : protocol.Lawful view output first)
    (stopped : Phase.stopping.code ≤ (view session).phase.code) (action : A) :
    protocol.starts session action = false := by
  apply Bool.eq_false_iff.mpr
  intro starts
  rw [(lawful.starts starts).1] at stopped
  exact absurd stopped (by decide)

/-- Who is told that a message is too large, or came too late for the strand, changes nothing. -/
theorem Lawful.told_converse (lawful : protocol.Lawful view output first) {action : Action A M}
    {text : String} {error : Error} (told : protocol.reply? conversation action = some error)
    (kind : error = .messageTooLarge text ∨ error = .channelSend text) :
    view (protocol.converse conversation action).session = view conversation.session := by
  have stretch := lawful.stretch conversation action
  generalize (protocol.converse conversation action).session = after at stretch ⊢
  rcases stretch with _ | ⟨_, job, _, enqueued⟩ | ⟨action⟩
  · rfl
  · exact (lawful.enqueue enqueued).1
  · exact lawful.told told kind

/-- A session that keeps the laws keeps to the lifecycle, from when it is there. -/
theorem Lawful.keepsLifecycle (lawful : protocol.Lawful view output first)
    (live : first = .created ∨ first = .running)
    (fresh : view session = ⟨first, false, true, false, 0⟩) :
    protocol.KeepsLifecycle view output session := by
  have sound : (view (Conversation.mk session ([] : List J)).session).Sound := by
    show (view session).Sound
    rw [fresh]
    exact .live first false live
  have begun : first.code ≤ (view (Conversation.mk session ([] : List J)).session).phase.code := by
    show first.code ≤ (view session).phase.code
    exact Nat.le_of_eq (congrArg (fun view => view.phase.code) fresh.symm)
  have unstopped : wasStopped (view session) = 0 := by
    rw [fresh]
    rcases live with rfl | rfl <;> rfl
  have there : isGone (view session) = 0 := by
    rw [fresh]
    rcases live with rfl | rfl <;> rfl
  constructor
  case forward =>
    intro schedule action
    rw [run_append, lawful.phase, lawful.phase]
    have turn := lawful.turn (lawful.sound_run sound schedule) action
    exact ⟨turn.forward, turn.stopping_of_stopped⟩
  case queued =>
    intro schedule
    have times := lawful.add_count wasStopped lawful.queuesTeardown_rises sound schedule
    rw [unstopped, Nat.zero_add] at times
    rw [times]
    exact wasStopped_le _
  case released =>
    intro schedule
    rw [lawful.phase]
    have torn := lawful.add_count isGone lawful.runsTeardown_rises sound schedule
    have free := lawful.add_count isGone lawful.releases_rises sound schedule
    rw [there, Nat.zero_add] at torn free
    exact ⟨torn, free⟩
  case waits =>
    intro schedule stopping
    rw [lawful.phase] at stopping
    exact (lawful.sound_run sound schedule).waits stopping
  case silent =>
    intro schedule gone
    rw [lawful.phase] at gone
    have now := lawful.sound_run sound schedule
    refine ⟨(now.released gone).1, ?_⟩
    intro more
    rw [run_append]
    exact lawful.output_run now gone more
  case refuses =>
    intro before after message job fit
    exact lawful.refuses (lawful.stopped_run sound begun before after) fit
  case started =>
    constructor
    · intro schedule
      have times := lawful.add_count_le isPastStart lawful.begins_rises sound schedule
      exact Nat.le_trans (Nat.le_add_left _ _) (Nat.le_trans times (isPastStart_le _))
    · intro before after action
      exact lawful.not_starts (lawful.stopped_run sound begun before after) action
  case replies =>
    intro schedule action text error told kind
    rw [run_append]
    exact lawful.told_converse told kind

end Protocol

end PeerNet
