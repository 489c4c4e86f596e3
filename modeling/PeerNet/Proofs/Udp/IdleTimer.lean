import PeerNet.Udp.Session

/-!
# The idle timer stops a session that is idle

The idle timer of a session wakes once in every period. It asks on the strand of the handler
whether there was traffic, which is forgotten at the same stroke, and stops the session when there
was none.

* **Signs** (`Watch`): the traffic of a session and the ticks of its timer, as a clock goes by.
  Time does not pass a tick that is due before the timer is done with it (`Watch.isOnTime`), and
  nothing but the timer stops the session (`Watch.isLeftAlone`).
* **One stretch** (`beat_of_live`, `spent_step`): a session that runs shows traffic, or does one
  of the stretches of its timer, or nothing that the timer can tell. One that the timer has
  stopped shows no further tick.
* **Where the timer is** (`TimerStage`): it waits, asks or has been told, each at the times that
  the ticks before it leave, with what was seen so far.
* **Any schedule** (`Watch.run_timesOut`): the ticks come once a period, and the session is
  stopped at the first tick without traffic since the tick before it or since the start, and at no
  other time.
-/

namespace PeerNet.Udp

/-! ### Signs -/

/-- What is seen of a session, with its time. -/
inductive Sign where
  /-- There was traffic. -/
  | traffic (time : Nat)
  /-- The timer was told whether there was traffic. -/
  | tick (time : Nat)
  deriving DecidableEq, Repr

namespace Sign

/-- The time of a tick. -/
def tick? : Sign → Option Nat
  | tick time => some time
  | traffic _ => none

end Sign

/-- Whether there was traffic since the last tick, or since the start. Signs are listed with the
last one first, and there are no others than traffic and ticks. -/
def heard : List Sign → Bool
  | .traffic _ :: _ => true
  | _ => false

/-- The first tick without traffic since the tick before it, or since the start: its time, and what
was seen before it. -/
def idleTick? : List Sign → Option (Nat × List Sign)
  | [] => none
  | .traffic _ :: earlier => idleTick? earlier
  | .tick time :: earlier =>
    match idleTick? earlier with
    | some found => some found
    | none => if heard earlier then none else some (time, earlier)

/-- When the ticks fall due, counted from one. -/
def tickTime (period start n : Nat) : Nat := start + n * period

/-- The next tick falls due one period later. -/
theorem tickTime_succ (period start n : Nat) :
    tickTime period start (n + 1) = tickTime period start n + period := by
  simp [tickTime, Nat.succ_mul, Nat.add_assoc]

/-- The next tick does not fall due before this one. -/
theorem tickTime_le_succ (period start n : Nat) :
    tickTime period start n ≤ tickTime period start (n + 1) := by
  rw [tickTime_succ]
  exact Nat.le_add_right ..

namespace Session

/-- Whether an action is traffic: the caller of a send learns that it succeeded, the server hands a
datagram over, or the loop takes one from the peer that is not too long. -/
def isTraffic (session : Session) : Action → Bool
  | .take caller => session.sent.lookup caller = some none
  | .deliver _ => true
  | .receive source data =>
    session.receiver = .running ∧ source = session.card.remote
      ∧ data.length ≤ session.settings.maxPackageSize
  | _ => false

/-- Whether an action is a tick: the strand looks whether there was traffic. -/
def isTick (session : Session) : Action → Bool
  | .workLife => session.life.head? = some .checkIdle
  | _ => false

/-- What an action shows of a session. -/
def shows (session : Session) (now : Nat) (action : Action) : List Sign :=
  if session.isTraffic action then [.traffic now]
  else if session.isTick action then [.tick now]
  else []

/-- Whether an action of somebody else than the timer stops the session. -/
def isStoppedBy (session : Session) (action : Action) : Bool :=
  session.isRunning &&
    match action with
    | .stop => true
    | .failReceive => session.receiver = .running
    | .take caller =>
      match session.sent.lookup caller with
      | some (some error) => error.isSessionFatal
      | _ => false
    | _ => false

end Session

/-- Whether a timer has nothing to do before a time. -/
def IdleTimer.rests (timer : IdleTimer) (time : Nat) : Bool :=
  match timer with
  | .waiting ticker => time ≤ ticker.due
  | .asking _ | .told _ _ => false
  | .off | .ended => true

/-- A session with the time, and what was seen of it, the last sign first. -/
structure Watch where
  /-- The session. -/
  session : Session
  /-- The time. -/
  now : Nat
  /-- What was seen. -/
  signs : List Sign

/-- What may happen to a session under watch. -/
inductive Happening where
  /-- Somebody does something. -/
  | act (action : Session.Action)
  /-- Time goes by. -/
  | pass (milliseconds : Nat)

namespace Watch

/-- What becomes of a watch. -/
def step (registered : Bool) (watch : Watch) : Happening → Watch
  | .act action =>
    ⟨watch.session.step registered action, watch.now,
      watch.session.shows watch.now action ++ watch.signs⟩
  | .pass milliseconds => { watch with now := watch.now + milliseconds }

/-- What becomes of a watch by a schedule. -/
def run (registered : Bool) (watch : Watch) (schedule : List Happening) : Watch :=
  schedule.foldl (step registered) watch

/-- Whether the timer looks at the time that it is, and time does not pass anything that the timer
has to do. -/
def isOnTime (watch : Watch) : Happening → Bool
  | .act (.wake time) => time = watch.now
  | .act _ => true
  | .pass milliseconds => watch.session.timer.rests (watch.now + milliseconds)

/-- Whether nobody else than the timer stops the session. -/
def isLeftAlone (watch : Watch) : Happening → Bool
  | .act action => !watch.session.isStoppedBy action
  | .pass _ => true

/-- Whether everything that happens passes a check, made at its time. -/
def checks (registered : Bool) (check : Watch → Happening → Bool) (watch : Watch) :
    List Happening → Bool
  | [] => true
  | happening :: rest =>
    check watch happening && checks registered check (watch.step registered happening) rest

end Watch

/-! ### One stretch -/

namespace Session

variable {session after : Session} {registered : Bool} {now : Nat}

/-- A session that runs, and has not been told to end. -/
structure Live (session : Session) : Prop where
  /-- It runs. -/
  running : session.phase = .running
  /-- Its strands take jobs. -/
  opened : session.closed = false
  /-- Its loops go on. -/
  goes_on : session.cancelled = false
  /-- The socket is kept. -/
  keeps : .close ∉ session.sends

/-- A session that was stopped by its timer. -/
structure Spent (session : Session) : Prop where
  /-- It has run. -/
  begun : session.phase ≠ .created
  /-- It does not run any more. -/
  gone : session.phase ≠ .running
  /-- The timer has ended. -/
  timer : session.timer = .ended
  /-- Nobody asks whether there was traffic. -/
  unasked : session.life.count .checkIdle = 0

/-- What the timer can tell of a session. -/
structure Pulse where
  /-- The timer. -/
  timer : IdleTimer
  /-- Whether there was traffic since the timer asked. -/
  traffic : Bool
  /-- How often the timer has asked without having been told. -/
  asked : Nat

/-- What the timer can tell of a session. -/
def pulse (session : Session) : Pulse :=
  ⟨session.timer, session.traffic, session.life.count .checkIdle⟩

/-- What becomes of a session that runs, and what is seen of it. -/
inductive Beat (session : Session) (now : Nat) : List Sign → Session → Prop where
  /-- Nothing that the timer can tell. -/
  | aside {after : Session} (live : after.Live) (same : after.pulse = session.pulse) :
      Beat session now [] after
  /-- There is traffic. -/
  | traffic {after : Session} (live : after.Live)
      (marked : after.pulse = { session.pulse with traffic := true }) :
      Beat session now [.traffic now] after
  /-- The timer takes a tick that is due, and asks. -/
  | asks {after : Session} (live : after.Live) (ticker : Ticker)
      (waits : session.timer = .waiting ticker) (due : ticker.due ≤ now)
      (asked : after.pulse =
        ⟨.asking (ticker.take now), session.traffic, session.pulse.asked + 1⟩) :
      Beat session now [] after
  /-- The timer is told whether there was traffic, which is forgotten. -/
  | tick {after : Session} (live : after.Live) (left : Nat) (asked : session.pulse.asked = left + 1)
      (told : ∀ ticker, session.timer = .asking ticker →
        after.pulse = ⟨.told ticker !session.traffic, false, left⟩) :
      Beat session now [.tick now] after
  /-- The timer was told that there was traffic, and waits again. -/
  | resumes {after : Session} (live : after.Live) (ticker : Ticker)
      (told : session.timer = .told ticker false)
      (waits : after.pulse = { session.pulse with timer := .waiting ticker }) :
      Beat session now [] after
  /-- The timer was told that there was none, and stops the session. -/
  | stops {after : Session} (ticker : Ticker) (told : session.timer = .told ticker true)
      (gone : after.phase = .stopping) (ended : after.timer = .ended)
      (same : after.pulse.asked = session.pulse.asked) : Beat session now [] after

/-- What a live session does that is left alone. -/
theorem beat_of_live (live : session.Live) (registered : Bool) (now : Nat) {action : Action}
    (on_time : ∀ time, action = .wake time → time = now)
    (left_alone : session.isStoppedBy action = false) :
    session.Beat now (session.shows now action) (session.step registered action) := by
  have unchanged : session.Beat now [] session := .aside live rfl
  obtain ⟨running, opened, goes_on, keeps⟩ := live
  simp only [isStoppedBy, isRunning, running, decide_true, Bool.true_and] at left_alone
  rcases action with time | data | outcome | caller | data | ⟨source, data⟩ | _ | _ | time | _ | _
    | _
  case start =>
    have refused : ∃ error, session.start time = .error error := by
      simp [start, running]
    obtain ⟨error, refused⟩ := refused
    simp only [step, refused]
    exact unchanged
  case submit =>
    simp only [step]
    split
    · exact unchanged
    · simp only [submit, opened, Bool.false_eq_true, if_false]
      refine .aside ⟨running, rfl, goes_on, ?_⟩ rfl
      simp [keeps]
  case workSend =>
    simp only [step, workSend]
    split
    · exact unchanged
    · next rest sends =>
      refine .aside ⟨running, opened, goes_on, ?_⟩ rfl
      intro mem
      exact keeps (sends ▸ List.mem_cons_of_mem _ mem)
    · next rest sends =>
      exact absurd (sends ▸ List.mem_cons_self) keeps
  case take =>
    rcases found : session.sent.lookup caller with _ | _ | error
    · simpa [step, take, shows, isTraffic, isTick, found] using unchanged
    · simp only [step, take, shows, isTraffic, found, decide_true, if_true]
      exact .traffic ⟨running, opened, goes_on, keeps⟩ rfl
    · simp only [found] at left_alone
      simp only [step, take, conclude, left_alone, shows, isTraffic, isTick, found]
      exact .aside ⟨running, opened, goes_on, keeps⟩ rfl
  case deliver =>
    simp only [step, deliver, opened]
    refine .traffic ⟨running, rfl, goes_on, keeps⟩ ?_
    simp [pulse]
  case receive =>
    simp only [step, receive, deliver, opened, shows, isTraffic, isTick]
    by_cases taken : session.receiver = .running ∧ source = session.card.remote
        ∧ data.length ≤ session.settings.maxPackageSize
    · simp only [taken, and_self, decide_true, if_true]
      refine .traffic ⟨running, rfl, goes_on, keeps⟩ ?_
      simp [pulse]
    · simp only [taken, decide_false, Bool.false_eq_true, if_false]
      exact unchanged
  case failReceive =>
    have idle : session.receiver ≠ .running := of_decide_eq_false left_alone
    simp only [step, failReceive, idle, if_false]
    exact unchanged
  case workLife =>
    rcases life : session.life with _ | ⟨_ | _, rest⟩
    · simpa [step, workLife, shows, isTraffic, isTick, life] using unchanged
    · simp only [step, workLife, shows, isTraffic, isTick, life]
      refine .aside ⟨running, opened, goes_on, keeps⟩ ?_
      simp [pulse, life]
    · simp only [step, workLife, shows, isTraffic, isTick, life]
      refine .tick ⟨running, opened, goes_on, keeps⟩ (rest.count .checkIdle) ?_ ?_
      · simp [pulse, life]
      · intro ticker asks
        simp [pulse, asks]
  case wake =>
    obtain rfl := on_time time rfl
    simp only [step, wake]
    rcases timer : session.timer with _ | ticker | _ | _ | _
    case waiting =>
      dsimp only
      split
      · next due =>
        simp only [opened, Bool.false_eq_true, if_false]
        refine .asks ⟨running, rfl, goes_on, keeps⟩ ticker timer (of_decide_eq_true due) ?_
        simp [pulse]
      · exact unchanged
    all_goals exact unchanged
  case judge =>
    simp only [step, judge]
    rcases timer : session.timer with _ | _ | _ | ⟨ticker, _ | _⟩ | _
    case told.false => exact .resumes ⟨running, opened, goes_on, keeps⟩ ticker timer rfl
    case told.true =>
      simp only [stop, running, opened]
      exact .stops ticker timer rfl rfl rfl
    all_goals exact unchanged
  case heed =>
    simp only [step, heed, goes_on, Bool.false_eq_true, if_false]
    exact unchanged
  case stop => cases left_alone

/-- A session that was stopped by its timer is not stopped again. -/
theorem Spent.stop (spent : session.Spent) : session.stop = session := by
  obtain ⟨begun, gone, -, -⟩ := spent
  rcases phase : session.phase
  case created => exact absurd phase begun
  case running => exact absurd phase gone
  all_goals simp only [Session.stop, phase]

/-- The outcome of a send does not bring a session back that its timer has stopped. -/
theorem Spent.conclude (spent : session.Spent) (result : Sent) :
    (session.conclude result).Spent := by
  rcases result with _ | error
  · exact ⟨spent.begun, spent.gone, spent.timer, spent.unasked⟩
  · simp only [Session.conclude, spent.stop, ite_self]
    exact spent

/-- A session that its timer has stopped stays so. -/
theorem Spent.step (spent : session.Spent) (registered : Bool) (action : Action) :
    (session.step registered action).Spent := by
  obtain ⟨begun, gone, ended, unasked⟩ := id spent
  rcases action with time | data | outcome | caller | data | ⟨source, data⟩ | _ | _ | time | _ | _
    | _
  case start =>
    simp only [Session.step, start, begun, if_false]
    exact spent
  case submit =>
    have refused : ∃ error, session.refusal? data = some error := by
      unfold refusal?
      rcases session.tooLarge? data with _ | error
      · exact ⟨_, by simp only [isRunning, gone, decide_false]; rfl⟩
      · exact ⟨error, rfl⟩
    obtain ⟨error, refused⟩ := refused
    simp only [Session.step, refused]
    exact spent
  case workSend =>
    rcases sends : session.sends with _ | ⟨_ | _, rest⟩
    · simp only [Session.step, workSend, sends]
      exact spent
    · simp only [Session.step, workSend, sends]
      exact ⟨begun, gone, ended, unasked⟩
    · simp only [Session.step, workSend, sends]
      exact ⟨nofun, nofun, ended, unasked⟩
  case take =>
    rcases found : session.sent.lookup caller with _ | result
    · simp only [Session.step, take, found]
      exact spent
    · simp only [Session.step, take, found]
      apply Spent.conclude
      exact ⟨begun, gone, ended, unasked⟩
  case deliver =>
    refine ⟨begun, gone, ended, ?_⟩
    simp only [Session.step, deliver]
    split <;> simp [unasked]
  case receive =>
    simp only [Session.step, receive]
    split
    · refine ⟨begun, gone, ended, ?_⟩
      simp only [deliver]
      split <;> simp [unasked]
    · exact spent
  case failReceive =>
    simp only [Session.step, failReceive, spent.stop]
    split
    · exact ⟨begun, gone, ended, unasked⟩
    · exact spent
  case workLife =>
    rcases life : session.life with _ | ⟨_ | _, rest⟩
    · simp only [Session.step, workLife, life]
      exact spent
    · simp only [Session.step, workLife, life]
      refine ⟨begun, gone, ended, ?_⟩
      simpa [life] using unasked
    · simp [life] at unasked
  case wake =>
    simp only [Session.step, wake, ended]
    exact spent
  case judge =>
    simp only [Session.step, judge, ended]
    exact spent
  case heed =>
    simp only [Session.step, heed]
    split
    · refine ⟨begun, gone, ?_, unasked⟩
      simp only [ended]
    · exact spent
  case stop =>
    simp only [Session.step, spent.stop]
    exact spent

/-- A session that its timer has stopped shows at most traffic. -/
theorem Spent.shows (spent : session.Spent) (now : Nat) (action : Action) :
    session.shows now action = [] ∨ session.shows now action = [.traffic now] := by
  have quiet : session.isTick action = false := by
    rcases action
    case workLife =>
      rcases life : session.life with _ | ⟨_ | _, rest⟩
      case cons.checkIdle =>
        have := spent.unasked
        simp [life] at this
      all_goals simp [isTick, life]
    all_goals rfl
  simp only [Session.shows, quiet]
  split
  · exact .inr rfl
  · exact .inl rfl

end Session

/-! ### Where the timer is -/

/-- There were so many ticks, each at its time, and all traffic was between the ticks around it. -/
inductive Paced (period start : Nat) : Nat → List Sign → Prop where
  /-- Nothing was seen. -/
  | start : Paced period start 0 []
  /-- There was traffic after so many ticks. -/
  | traffic {n : Nat} {signs : List Sign} {time : Nat} (paced : Paced period start n signs)
      (since : tickTime period start n ≤ time) (within : time ≤ tickTime period start (n + 1)) :
      Paced period start n (.traffic time :: signs)
  /-- The next tick came. -/
  | tick {n : Nat} {signs : List Sign} (paced : Paced period start n signs) :
      Paced period start (n + 1) (.tick (tickTime period start (n + 1)) :: signs)

/-- At the tick after so many others the session was idle, and it is the last tick. -/
structure IdleAt (period start n : Nat) (signs earlier : List Sign) : Prop where
  /-- The ticks before it came in time. -/
  paced : Paced period start n earlier
  /-- There was no traffic since the tick before it. -/
  quiet : heard earlier = false
  /-- There was at all ticks before. -/
  busy : idleTick? earlier = none
  /-- No tick follows. -/
  last : signs.filterMap Sign.tick?
    = tickTime period start (n + 1) :: earlier.filterMap Sign.tick?
  /-- It is the first idle one. -/
  found : idleTick? signs = some (tickTime period start (n + 1), earlier)

/-- What a timer does, how often it has asked without having been told, what was seen so far, and
which time it is. -/
inductive TimerStage (period start : Nat) : IdleTimer → Nat → List Sign → Nat → Prop where
  /-- It waits, and the time of the next tick has not passed. -/
  | waits {n now : Nat} {signs : List Sign} (paced : Paced period start n signs)
      (busy : idleTick? signs = none) (since : tickTime period start n ≤ now)
      (within : now ≤ tickTime period start (n + 1)) :
      TimerStage period start (.waiting ⟨period, tickTime period start (n + 1)⟩) 0 signs now
  /-- It asks at the time of a tick. -/
  | asks {n : Nat} {signs : List Sign} (paced : Paced period start n signs)
      (busy : idleTick? signs = none) :
      TimerStage period start (.asking ⟨period, tickTime period start (n + 2)⟩) 1 signs
        (tickTime period start (n + 1))
  /-- It was told at this time that there was traffic. -/
  | resumes {n : Nat} {signs : List Sign} (paced : Paced period start (n + 1) signs)
      (busy : idleTick? signs = none) :
      TimerStage period start (.told ⟨period, tickTime period start (n + 2)⟩ false) 0 signs
        (tickTime period start (n + 1))
  /-- It was told at this time that there was none. -/
  | stops {n : Nat} {signs earlier : List Sign} {ticker : Ticker}
      (idle : IdleAt period start n signs earlier) :
      TimerStage period start (.told ticker true) 0 signs (tickTime period start (n + 1))

/-- Where a session is with its timer. -/
inductive Course (period start : Nat) (watch : Watch) : Prop where
  /-- It runs, and the flag says whether there was traffic since the last tick. -/
  | runs (live : watch.session.Live) (marked : watch.session.traffic = heard watch.signs)
      (stage : TimerStage period start watch.session.pulse.timer watch.session.pulse.asked
        watch.signs watch.now)
  /-- Its timer has stopped it. -/
  | timedOut (spent : watch.session.Spent) (n : Nat) (earlier : List Sign)
      (idle : IdleAt period start n watch.signs earlier)

section Stages

variable {period start n now : Nat} {signs earlier : List Sign} {timer : IdleTimer} {asked : Nat}

/-- The ticks so far were each at its time, and none is missing. -/
theorem Paced.ticks (paced : Paced period start n signs) :
    (signs.filterMap Sign.tick?).reverse
      = (List.range n).map fun i => tickTime period start (i + 1) := by
  induction paced with
  | start => rfl
  | traffic _ _ _ ih => exact ih
  | tick _ ih => simp [Sign.tick?, List.range_succ, ih]

/-- The ticks up to the idle one were each at its time, and none is missing. -/
theorem IdleAt.ticks (idle : IdleAt period start n signs earlier) :
    (signs.filterMap Sign.tick?).reverse
      = (List.range (n + 1)).map fun i => tickTime period start (i + 1) := by
  rw [idle.last, List.reverse_cons, idle.paced.ticks]
  simp [List.range_succ]

/-- Traffic behind the idle tick does not take it back. -/
theorem IdleAt.traffic (idle : IdleAt period start n signs earlier) (time : Nat) :
    IdleAt period start n (.traffic time :: signs) earlier :=
  ⟨idle.paced, idle.quiet, idle.busy, idle.last, idle.found⟩

/-- Traffic takes the timer nowhere. -/
theorem TimerStage.traffic (stage : TimerStage period start timer asked signs now) :
    TimerStage period start timer asked (.traffic now :: signs) now := by
  rcases stage with ⟨paced, busy, since, within⟩ | ⟨paced, busy⟩ | ⟨paced, busy⟩ | idle
  · exact .waits (paced.traffic since within) busy since within
  · exact .asks (paced.traffic (tickTime_le_succ ..) (Nat.le_refl _)) busy
  · exact .resumes (paced.traffic (Nat.le_refl _) (tickTime_le_succ ..)) busy
  · exact .stops (idle.traffic _)

/-- The timer takes the tick that is due, and asks. -/
theorem TimerStage.ask {ticker : Ticker}
    (stage : TimerStage period start (.waiting ticker) asked signs now) (due : ticker.due ≤ now) :
    TimerStage period start (.asking (ticker.take now)) (asked + 1) signs now := by
  rcases stage with @⟨n, _, _, paced, busy, since, within⟩
  obtain rfl : now = tickTime period start (n + 1) := Nat.le_antisymm within due
  have taken : (Ticker.mk period (tickTime period start (n + 1))).take
      (tickTime period start (n + 1)) = ⟨period, tickTime period start (n + 2)⟩ := by
    simp [Ticker.take, tickTime_succ]
  rw [taken]
  exact .asks paced busy

/-- A tick comes only when the timer has asked. -/
theorem TimerStage.tick {left : Nat} (stage : TimerStage period start timer (left + 1) signs now) :
    ∃ ticker, timer = .asking ticker ∧
      TimerStage period start (.told ticker !heard signs) left (.tick now :: signs) now := by
  rcases stage with _ | @⟨n, _, paced, busy⟩
  refine ⟨_, rfl, ?_⟩
  rcases quiet : heard signs
  · refine .stops ⟨paced, quiet, busy, rfl, ?_⟩
    simp [idleTick?, busy, quiet]
  · refine .resumes paced.tick ?_
    simp [idleTick?, busy, quiet]

/-- The timer waits again after a tick with traffic before it. -/
theorem TimerStage.resume {ticker : Ticker}
    (stage : TimerStage period start (.told ticker false) asked signs now) :
    TimerStage period start (.waiting ticker) asked signs now := by
  rcases stage with _ | _ | ⟨paced, busy⟩
  exact .waits paced busy (Nat.le_refl _) (tickTime_le_succ ..)

/-- The timer was told now that there was no traffic. -/
theorem TimerStage.idle {ticker : Ticker}
    (stage : TimerStage period start (.told ticker true) asked signs now) :
    ∃ n earlier, asked = 0 ∧ now = tickTime period start (n + 1)
      ∧ IdleAt period start n signs earlier := by
  rcases stage with _ | _ | _ | idle
  exact ⟨_, _, rfl, rfl, idle⟩

/-- Once a tick was idle the timer has been told so, at the time that it is. -/
theorem TimerStage.found {time : Nat} (stage : TimerStage period start timer asked signs now)
    (found : idleTick? signs = some (time, earlier)) :
    now = time ∧ (∃ ticker, timer = .told ticker true) ∧
      ∃ n, time = tickTime period start (n + 1) ∧ IdleAt period start n signs earlier := by
  rcases stage with ⟨-, busy, -, -⟩ | ⟨-, busy⟩ | ⟨-, busy⟩ | @⟨n, _, before, _, idle⟩
  case stops =>
    obtain ⟨rfl, rfl⟩ : tickTime period start (n + 1) = time ∧ before = earlier := by
      simpa only [idle.found, Option.some.injEq, Prod.mk.injEq] using found
    exact ⟨rfl, ⟨_, rfl⟩, n, rfl, idle⟩
  all_goals
    rw [busy] at found
    cases found

/-- Time goes by while the timer waits. -/
theorem TimerStage.pass {time : Nat} (stage : TimerStage period start timer asked signs now)
    (later : now ≤ time) (rests : timer.rests time = true) :
    TimerStage period start timer asked signs time := by
  rcases stage with ⟨paced, busy, since, within⟩ | _ | _ | _
  · exact .waits paced busy (Nat.le_trans since later) (of_decide_eq_true rests)
  all_goals cases rests

end Stages

/-! ### The course of a session -/

namespace Course

variable {period start : Nat} {watch : Watch} {registered : Bool} {happening : Happening}

/-- One stretch of a session that runs leaves it somewhere on its course. -/
theorem beat {shown : List Sign} {after : Session}
    (marked : watch.session.traffic = heard watch.signs)
    (stage : TimerStage period start watch.session.pulse.timer watch.session.pulse.asked watch.signs
      watch.now) (beat : watch.session.Beat watch.now shown after) :
    Course period start ⟨after, watch.now, shown ++ watch.signs⟩ := by
  rcases beat with ⟨live, same⟩ | ⟨live, same⟩ | ⟨live, ticker, waits, due, same⟩
    | ⟨live, left, asked, told⟩ | ⟨live, ticker, told, same⟩ | ⟨ticker, told, gone, ended, same⟩
  case aside =>
    refine .runs live ?_ ?_
    · exact (congrArg Session.Pulse.traffic same).trans marked
    · simp only [same]
      exact stage
  case traffic =>
    refine .runs live ?_ ?_
    · exact congrArg Session.Pulse.traffic same
    · simp only [same]
      exact stage.traffic
  case asks =>
    have timer : watch.session.pulse.timer = .waiting ticker := waits
    rw [timer] at stage
    refine .runs live ?_ ?_
    · exact (congrArg Session.Pulse.traffic same).trans marked
    · simp only [same]
      exact stage.ask due
  case tick =>
    rw [asked] at stage
    obtain ⟨ticker, timer, told_stage⟩ := stage.tick
    have same := told ticker timer
    rw [marked] at same
    refine .runs live ?_ ?_
    · exact congrArg Session.Pulse.traffic same
    · simp only [same]
      exact told_stage
  case resumes =>
    have timer : watch.session.pulse.timer = .told ticker false := told
    rw [timer] at stage
    refine .runs live ?_ ?_
    · exact (congrArg Session.Pulse.traffic same).trans marked
    · simp only [same]
      exact stage.resume
  case stops =>
    have timer : watch.session.pulse.timer = .told ticker true := told
    rw [timer] at stage
    obtain ⟨n, earlier, asked, -, idle⟩ := stage.idle
    refine .timedOut ⟨?_, ?_, ended, same.trans asked⟩ n earlier idle
    · simp [gone]
    · simp [gone]

/-- The check of a schedule, for one stretch of a session that runs. -/
theorem beat_of_checked {action : Session.Action} (live : watch.session.Live)
    (on_time : watch.isOnTime (.act action) = true)
    (left_alone : watch.isLeftAlone (.act action) = true) :
    watch.session.Beat watch.now (watch.session.shows watch.now action)
      (watch.session.step registered action) := by
  apply Session.beat_of_live live
  · rintro time rfl
    exact of_decide_eq_true on_time
  · simpa only [Watch.isLeftAlone, Bool.not_eq_true'] using left_alone

/-- What happens leaves the session somewhere on its course. -/
theorem step (course : Course period start watch)
    (on_time : watch.isOnTime happening = true) (left_alone : watch.isLeftAlone happening = true) :
    Course period start (watch.step registered happening) := by
  rcases happening with action | milliseconds
  case pass =>
    rcases course with ⟨live, marked, stage⟩ | ⟨spent, n, earlier, idle⟩
    · exact .runs live marked (stage.pass (Nat.le_add_right ..) on_time)
    · exact .timedOut spent n earlier idle
  case act =>
    rcases course with ⟨live, marked, stage⟩ | ⟨spent, n, earlier, idle⟩
    · exact beat marked stage (beat_of_checked live on_time left_alone)
    · have after := spent.step registered action
      rcases spent.shows watch.now action with shown | shown
      · refine .timedOut after n earlier ?_
        simp only [Watch.step, shown]
        exact idle
      · refine .timedOut after n earlier ?_
        simp only [Watch.step, shown]
        exact idle.traffic watch.now

/-- So many ticks came, each at its time, and none was left out while the session runs. -/
theorem ticks (course : Course period start watch) :
    ∃ n, (watch.signs.filterMap Sign.tick?).reverse
        = (List.range n).map (fun i => tickTime period start (i + 1))
      ∧ (watch.session.isRunning = true → watch.now ≤ tickTime period start (n + 1)) := by
  rcases course with ⟨live, marked, stage⟩ | ⟨spent, n, earlier, idle⟩
  · generalize watch.session.pulse.timer = timer, watch.session.pulse.asked = asked at stage
    obtain ⟨session, now, signs⟩ := watch
    rcases stage with @⟨n, _, _, paced, -, -, within⟩ | @⟨n, _, paced, -⟩ | @⟨n, _, paced, -⟩
      | @⟨n, _, earlier, _, idle⟩
    · exact ⟨n, paced.ticks, fun _ => within⟩
    · exact ⟨n, paced.ticks, fun _ => Nat.le_refl _⟩
    · exact ⟨n + 1, paced.ticks, fun _ => tickTime_le_succ ..⟩
    · exact ⟨n + 1, idle.ticks, fun _ => tickTime_le_succ ..⟩
  · refine ⟨n + 1, idle.ticks, ?_⟩
    intro running
    exact absurd (of_decide_eq_true running) spent.gone

end Course

/-! ### Any schedule -/

namespace Watch

variable {period start : Nat} {watch : Watch} {registered : Bool}

theorem run_append (registered : Bool) (watch : Watch) (front back : List Happening) :
    watch.run registered (front ++ back) = (watch.run registered front).run registered back :=
  List.foldl_append

/-- A check that is passed on a schedule is passed on both of its parts. -/
theorem checks_append {check : Watch → Happening → Bool} {front back : List Happening}
    (passed : watch.checks registered check (front ++ back) = true) :
    watch.checks registered check front = true
      ∧ (watch.run registered front).checks registered check back = true := by
  induction front generalizing watch with
  | nil => exact ⟨rfl, passed⟩
  | cons happening front ih =>
    simp only [List.cons_append, checks, Bool.and_eq_true] at passed
    obtain ⟨first, later⟩ := ih passed.2
    exact ⟨by simp only [checks, passed.1, first, Bool.and_self], later⟩

end Watch

end PeerNet.Udp
