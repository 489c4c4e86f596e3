import PeerNet.Proofs.Service.Starts
import PeerNet.Service.Joining

/-!
# No request to stop is lost

Whoever joins an executor looks at the flag and then waits for the value; whoever requests a stop
raises the flag and then sends the value. However these four stretches are mixed, the one who waits
is told.

* **A receiver** (`Shutdown.Since`): it is told of a request if it was told before, if a value was
  sent since it was there, or if the sender is gone, and of nothing else.
* **Calls of the owner** (`Executor.Quiet`): a request that nobody interferes with raises the flag
  and sends the value.
* **Joining** (`Joint.Sound`): as long as somebody waits, the value is there, or about to be sent,
  or nobody has requested a stop. So joining comes to an end (`Joint.Ends`).
* **Any schedule** (`run_losesNoStop`).
-/

namespace PeerNet.Service

/-! ### A receiver -/

/-- A receiver finds something on a channel from which it has not taken all values, and nothing
becomes of any other channel. -/
theorem Broadcast.poll_cases (channel : Broadcast) :
    (channel.seen < channel.sent ∧ ∃ taken found, found ≠ .pending ∧
      channel.poll = ({ channel with seen := taken }, found)) ∨
    (¬ channel.seen < channel.sent ∧
      channel.poll = (channel, if channel.senderGone then .closed else .pending)) := by
  unfold poll
  by_cases lagging : channel.capacity < channel.sent - channel.seen
  · rw [if_pos lagging]
    exact .inl ⟨by omega, _, _, Received.noConfusion, rfl⟩
  rw [if_neg lagging]
  by_cases fresh : 0 < channel.sent - channel.seen
  · rw [if_pos fresh]
    exact .inl ⟨by omega, _, _, Received.noConfusion, rfl⟩
  · rw [if_neg fresh]
    exact .inr ⟨by omega, rfl⟩

namespace Shutdown

/-- What may happen to a receiver and its channel. -/
inductive Motion where
  /-- A value is sent, if there is a sender. -/
  | send
  /-- The sender goes away. -/
  | dropSender
  /-- The receiver looks for a request. -/
  | poll
  deriving DecidableEq, Repr

/-- The receiver after a motion. -/
def perform (shutdown : Shutdown) : Motion → Shutdown
  | .send => { shutdown with channel := shutdown.channel.send }
  | .dropSender => { shutdown with channel := shutdown.channel.dropSender }
  | .poll => shutdown.poll.1

/-- The receiver after several motions. -/
def run (shutdown : Shutdown) (motions : List Motion) : Shutdown := motions.foldl perform shutdown

/-- A receiver that looks for a request is told that there is one. -/
def Ready (shutdown : Shutdown) : Prop := shutdown.poll.2 = true

/-- A receiver was there when so many values had been sent. -/
structure Since (origin : Nat) (shutdown : Shutdown) : Prop where
  /-- No value was unsent. -/
  sent : origin ≤ shutdown.channel.sent
  /-- It has seen a request only if there was one. -/
  seen : shutdown.seen = true → origin < shutdown.channel.sent ∨ shutdown.channel.senderGone = true
  /-- As long as it has seen none it has taken no value. -/
  unseen : shutdown.seen = false → shutdown.channel.seen = origin

section receiver

variable {shutdown : Shutdown} {origin : Nat}

/-- A receiver is told of a request that it has seen, of a value that it has not taken, and of the
end of the sender; then it has seen it. Otherwise it stays as it is. -/
theorem poll_cases (shutdown : Shutdown) :
    ((shutdown.seen = true ∨ shutdown.channel.seen < shutdown.channel.sent ∨
        shutdown.channel.senderGone = true) ∧
      ∃ taken, shutdown.poll = (⟨{ shutdown.channel with seen := taken }, true⟩, true)) ∨
    (¬ (shutdown.seen = true ∨ shutdown.channel.seen < shutdown.channel.sent ∨
        shutdown.channel.senderGone = true) ∧ shutdown.poll = (shutdown, false)) := by
  obtain ⟨channel, seen⟩ := shutdown
  cases seen with
  | true => exact .inl ⟨.inl rfl, channel.seen, rfl⟩
  | false =>
    simp only [poll, Bool.false_eq_true, if_false, false_or]
    rcases channel.poll_cases with ⟨fewer, taken, found, some, polled⟩ | ⟨all, polled⟩
    · rw [polled]
      refine .inl ⟨.inl fewer, taken, ?_⟩
      cases found with
      | pending => exact absurd rfl some
      | value | lagged | closed => rfl
    · rw [polled]
      by_cases gone : channel.senderGone = true
      · rw [if_pos gone]
        exact .inl ⟨.inr gone, channel.seen, rfl⟩
      · rw [if_neg gone]
        exact .inr ⟨fun told => told.elim all gone, rfl⟩

/-- A receiver is told of a stop if it was told before, if a value is new to it, or if the sender is
gone. -/
theorem ready_iff (shutdown : Shutdown) :
    shutdown.Ready ↔ shutdown.seen = true ∨ shutdown.channel.seen < shutdown.channel.sent ∨
      shutdown.channel.senderGone = true := by
  rcases shutdown.poll_cases with ⟨told, taken, polled⟩ | ⟨untold, polled⟩
  · exact ⟨fun _ => told, fun _ => congrArg Prod.snd polled⟩
  · exact ⟨fun ready => Bool.noConfusion ((congrArg Prod.snd polled).symm.trans ready),
      fun told => absurd told untold⟩

/-- A receiver is told of a request if a value was sent since it was there, or if the sender is
gone. -/
theorem Since.ready_iff (since : shutdown.Since origin) :
    shutdown.Ready ↔ origin < shutdown.channel.sent ∨ shutdown.channel.senderGone = true := by
  obtain ⟨-, seen, unseen⟩ := since
  rw [shutdown.ready_iff]
  cases known : shutdown.seen with
  | true => exact ⟨fun _ => seen known, fun _ => .inl rfl⟩
  | false =>
    rw [unseen known]
    exact or_iff_right Bool.noConfusion

/-- What was sent stays so, and the sender does not come back. -/
theorem perform_later (shutdown : Shutdown) (motion : Motion) :
    shutdown.channel.sent ≤ (shutdown.perform motion).channel.sent ∧
      (shutdown.channel.senderGone = true →
        (shutdown.perform motion).channel.senderGone = true) := by
  cases motion with
  | send =>
    cases gone : shutdown.channel.senderGone <;> simp [perform, Broadcast.send, gone]
  | dropSender => exact ⟨Nat.le_refl _, fun _ => rfl⟩
  | poll =>
    rw [perform]
    rcases shutdown.poll_cases with ⟨-, taken, polled⟩ | ⟨-, polled⟩
    · rw [polled]
      exact ⟨Nat.le_refl _, id⟩
    · rw [polled]
      exact ⟨Nat.le_refl _, id⟩

/-- Values that were sent, and the end of the sender, are not taken back. -/
theorem run_later (shutdown : Shutdown) (motions : List Motion) :
    shutdown.channel.sent ≤ (shutdown.run motions).channel.sent ∧
      (shutdown.channel.senderGone = true →
        (shutdown.run motions).channel.senderGone = true) := by
  induction motions generalizing shutdown with
  | nil => exact ⟨Nat.le_refl _, id⟩
  | cons motion rest ih =>
    obtain ⟨sent, gone⟩ := shutdown.perform_later motion
    obtain ⟨sentAll, goneAll⟩ := ih (shutdown.perform motion)
    exact ⟨Nat.le_trans sent sentAll, fun now => goneAll (gone now)⟩

/-- A receiver counts from where it began, whatever it does. -/
theorem Since.perform (since : shutdown.Since origin) (motion : Motion) :
    (shutdown.perform motion).Since origin := by
  obtain ⟨later, goneLater⟩ := shutdown.perform_later motion
  have asked := since.ready_iff
  obtain ⟨sent, seen, unseen⟩ := since
  refine ⟨Nat.le_trans sent later, fun known => ?_, fun unknown => ?_⟩
  · have told : origin < shutdown.channel.sent ∨ shutdown.channel.senderGone = true := by
      cases motion with
      | send | dropSender => exact seen known
      | poll =>
        rcases shutdown.poll_cases with ⟨told, -⟩ | ⟨-, polled⟩
        · exact asked.mp (shutdown.ready_iff.mpr told)
        · rw [Shutdown.perform, polled] at known
          exact seen known
    exact told.imp (fun fewer => Nat.lt_of_lt_of_le fewer later) goneLater
  · cases motion with
    | send =>
      rw [← unseen unknown, Shutdown.perform, Broadcast.send]
      cases shutdown.channel.senderGone <;> rfl
    | dropSender => exact unseen unknown
    | poll =>
      rw [Shutdown.perform] at unknown ⊢
      rcases shutdown.poll_cases with ⟨-, taken, polled⟩ | ⟨-, polled⟩
      · rw [polled] at unknown
        exact Bool.noConfusion unknown
      · rw [polled] at unknown ⊢
        exact unseen unknown

/-- A receiver counts from where it began, after any motions. -/
theorem Since.run (since : shutdown.Since origin) (motions : List Motion) :
    (shutdown.run motions).Since origin := by
  induction motions generalizing shutdown with
  | nil => exact since
  | cons motion rest ih => exact ih (since.perform motion)

/-- **A receiver** is told of a request if it was told before, if a value was sent since it was
there, or if the sender is gone, and of nothing else. -/
theorem Since.ready_run_iff (since : shutdown.Since origin) (motions : List Motion) :
    (shutdown.run motions).Ready ↔
      (∃ front back, motions = front ++ .poll :: back ∧ (shutdown.run front).Ready) ∨
        origin < (shutdown.run motions).channel.sent ∨
        (shutdown.run motions).channel.senderGone = true := by
  rw [(since.run motions).ready_iff]
  refine ⟨.inr, fun told => told.elim ?_ id⟩
  rintro ⟨front, back, rfl, ready⟩
  obtain ⟨sent, gone⟩ := (shutdown.run front).run_later (.poll :: back)
  rw [Shutdown.run, List.foldl_append]
  exact ((since.run front).ready_iff.mp ready).imp (fun fewer => Nat.lt_of_lt_of_le fewer sent) gone

end receiver

end Shutdown

/-! ### Calls of the owner -/

namespace Executor

/-- Nobody is in the middle of a request, and nobody has looked for the value. -/
structure Quiet (executor : Executor) : Prop where
  /-- There is a sender. -/
  sender : executor.signal.shutdown.channel.senderGone = false
  /-- The value is sent if the flag is up. -/
  sent : executor.signal.shutdown.channel.sent = executor.signal.raised.toNat
  /-- No request was seen. -/
  unseen : executor.signal.shutdown.seen = false
  /-- The value was not taken. -/
  untaken : executor.signal.shutdown.channel.seen = 0

section quiet

variable {executor after : Executor}

/-- Nobody has requested a stop of a new executor. -/
theorem new_quiet (settings : Config.ExecutorSettings) : (new settings).Quiet :=
  ⟨rfl, rfl, rfl, rfl⟩

/-- Whether an executor is quiet is a matter of its signal alone. -/
theorem Quiet.of_signal (quiet : executor.Quiet) (same : after.signal = executor.signal) :
    after.Quiet := by
  obtain ⟨sender, sent, unseen, untaken⟩ := quiet
  rw [← same] at sender sent unseen untaken
  exact ⟨sender, sent, unseen, untaken⟩

/-- Raising the flag does nothing else to the signal, and tells whether it was down. -/
theorem raiseStop_signal (executor : Executor) :
    executor.raiseStop.2 = !executor.signal.raised ∧
      executor.raiseStop.1.signal = { executor.signal with raised := true } := by
  unfold raiseStop StopSignal.raise
  cases executor.signal.raised <;> exact ⟨rfl, rfl⟩

/-- A request that runs undisturbed leaves nobody in the middle of one. -/
theorem Quiet.requestStop (quiet : executor.Quiet) : executor.requestStop.Quiet := by
  obtain ⟨sender, sent, unseen, untaken⟩ := quiet
  obtain ⟨first, signal⟩ := executor.raiseStop_signal
  unfold Executor.requestStop
  generalize executor.raiseStop = raised at first signal ⊢
  obtain ⟨next, isFirst⟩ := raised
  simp only at first signal
  cases up : executor.signal.raised with
  | true =>
    rw [up] at first sent
    subst first
    have same : next.signal = executor.signal := by rw [signal, ← up]
    exact Quiet.of_signal ⟨sender, by rw [up, sent], unseen, untaken⟩ same
  | false =>
    rw [up] at first sent
    subst first
    constructor <;>
      simp [announceStop, StopSignal.announce, Broadcast.send, signal, sender, sent, unseen,
        untaken]

/-- Starting a service leaves an executor quiet. -/
theorem Quiet.startService (quiet : executor.Quiet) (index : Nat) (service : Registration) :
    (executor.startService index service).1.Quiet := by
  have tried : (executor.tryService index service).Quiet := by
    unfold tryService
    cases service.requestsStop with
    | false => exact quiet.of_signal rfl
    | true => exact Quiet.requestStop (quiet.of_signal rfl)
  unfold Executor.startService
  cases service.refusal with
  | none => exact tried.of_signal rfl
  | some error => exact tried.of_signal rfl

/-- Starting any number of services leaves an executor quiet. -/
theorem Quiet.startAll (quiet : executor.Quiet) (index : Nat) (services : List Registration) :
    (executor.startAll index services).1.Quiet := by
  induction services generalizing executor index with
  | nil => exact quiet
  | cons service rest ih =>
    have next := quiet.startService index service
    unfold Executor.startAll
    generalize executor.startService index service = result at next ⊢
    obtain ⟨started, outcome⟩ := result
    cases outcome with
    | ok => exact ih next (index + 1)
    | error error => exact next

/-- **A call of the owner** leaves nobody in the middle of a request. -/
theorem Quiet.perform (quiet : executor.Quiet) (call : Call) : (executor.perform call).Quiet := by
  cases call with
  | register entry => exact quiet.of_signal rfl
  | start onWorker =>
    cases onWorker with
    | true => exact quiet
    | false =>
      have emptied : Quiet { executor with pending := [] } := quiet.of_signal rfl
      have all := emptied.startAll 0 executor.pending
      simp only [Executor.perform, Executor.start, Bool.false_eq_true, if_false]
      generalize Executor.startAll { executor with pending := [] } 0 executor.pending = result
        at all ⊢
      obtain ⟨started, outcome⟩ := result
      cases outcome with
      | ok => exact all.of_signal rfl
      | error error => exact all
  | stop => exact quiet.requestStop

/-- Whatever the owner calls, nobody is left in the middle of a request. -/
theorem Quiet.run (quiet : executor.Quiet) (calls : List Call) : (executor.run calls).Quiet := by
  induction calls generalizing executor with
  | nil => exact quiet
  | cons call rest ih => exact ih (quiet.perform call)

end quiet

end Executor

/-! ### Joining -/

/-- Whether one who joins and has come this far may still wait. -/
def Stage.listens : Stage → Bool
  | .entering | .waiting _ => true
  | _ => false

/-- How many values one who joins and has come this far is about to send. -/
def Stage.unsent : Stage → Nat
  | .raised first => first.toNat
  | _ => 0

namespace Joint

/-- How many values are about to be sent by those who found the flag down. -/
def unsent (requests : List Request) (stage : Stage) : Nat :=
  requests.count (.raised true) + stage.unsent

/-- The flag, the value and the requests are in line. -/
structure Sound (joint : Joint) : Prop where
  /-- There is a sender. -/
  sender : joint.executor.signal.shutdown.channel.senderGone = false
  /-- Once the flag is up the value is sent, or about to be. -/
  balance : joint.executor.signal.shutdown.channel.sent + unsent joint.requests joint.stage =
    joint.executor.signal.raised.toNat
  /-- Whoever found the flag down has sent the value when it returns. -/
  returned : .returned true ∈ joint.requests → 0 < joint.executor.signal.shutdown.channel.sent
  /-- The flag is up once somebody has requested a stop. -/
  requested : joint.requests ≠ [] → joint.executor.signal.raised = true
  /-- Who may still wait has not taken the value. -/
  untaken : joint.stage.listens = true →
    joint.executor.signal.shutdown.seen = false ∧ joint.executor.signal.shutdown.channel.seen = 0

section sound

variable {joint : Joint} {executor : Executor} {requests : List Request} {stage : Stage}

/-- A request that found the flag down is about to send the value. -/
theorem unsent_raise (requests : List Request) (stage : Stage) (first : Bool) :
    unsent (requests ++ [.raised first]) stage = unsent requests stage + first.toNat := by
  rw [unsent, unsent, List.count_append, Nat.add_right_comm]
  cases first <;> rfl

/-- It is no more when it has returned. -/
theorem unsent_answer {index : Nat} {first : Bool}
    (answers : requests[index]? = some (.raised first)) :
    unsent (requests.set index (.returned first)) stage + first.toNat = unsent requests stage := by
  obtain ⟨inside, there⟩ := List.getElem?_eq_some_iff.mp answers
  have member : requests[index] ∈ requests := List.getElem_mem inside
  rw [there] at member
  rw [unsent, unsent, List.count_set inside, there]
  have other : (Request.returned first == .raised true) = false := rfl
  rw [other, if_neg Bool.false_ne_true]
  cases first with
  | false => rfl
  | true =>
    have some : 0 < requests.count (.raised true) := List.count_pos_iff.mpr member
    rw [beq_self_eq_true, if_pos rfl, Bool.toNat_true]
    omega

/-- A request that returns sends the value if it found the flag down. -/
theorem finish_signal (executor : Executor) (first : Bool)
    (sender : executor.signal.shutdown.channel.senderGone = false) :
    (finish executor first).signal = { executor.signal with
      shutdown.channel.sent := executor.signal.shutdown.channel.sent + first.toNat } := by
  cases first with
  | false => rfl
  | true => simp [finish, Executor.announceStop, StopSignal.announce, Broadcast.send, sender]

/-- What leaves the signal and the requests as they are. -/
theorem Sound.of_signal (sound : joint.Sound) (same : executor.signal = joint.executor.signal)
    (unsent : stage.unsent = joint.stage.unsent)
    (listens : stage.listens = true → joint.stage.listens = true) :
    Sound ⟨executor, joint.requests, stage⟩ := by
  obtain ⟨sender, balance, returned, requested, untaken⟩ := sound
  rw [← same] at sender balance returned requested untaken
  refine ⟨sender, ?_, returned, requested, fun now => untaken (listens now)⟩
  rw [Joint.unsent] at balance ⊢
  rwa [unsent]

/-- Raising the flag, whoever does it. -/
theorem Sound.raise (sound : joint.Sound)
    (unsent : unsent requests stage =
      Joint.unsent joint.requests joint.stage + joint.executor.raiseStop.2.toNat)
    (returned : .returned true ∈ requests → .returned true ∈ joint.requests)
    (listens : stage.listens = true → joint.stage.listens = true) :
    Sound ⟨joint.executor.raiseStop.1, requests, stage⟩ := by
  obtain ⟨first, signal⟩ := joint.executor.raiseStop_signal
  rw [first] at unsent
  constructor
  case sender =>
    rw [signal]
    exact sound.sender
  case balance =>
    have balance := sound.balance
    rw [unsent, signal, ← Nat.add_assoc, balance]
    cases joint.executor.signal.raised <;> rfl
  case returned =>
    rw [signal]
    exact fun inside => sound.returned (returned inside)
  case requested =>
    rw [signal]
    exact fun _ => rfl
  case untaken =>
    rw [signal]
    exact fun now => sound.untaken (listens now)

/-- Sending the value, whoever does it. -/
theorem Sound.finish (sound : joint.Sound) (first : Bool)
    (unsent : unsent requests stage + first.toNat = Joint.unsent joint.requests joint.stage)
    (returned : .returned true ∈ requests → first = true ∨ .returned true ∈ joint.requests)
    (requested : requests ≠ [] → joint.requests ≠ [])
    (listens : stage.listens = true → joint.stage.listens = true) :
    Sound ⟨Joint.finish joint.executor first, requests, stage⟩ := by
  have signal := finish_signal joint.executor first sound.sender
  constructor
  case sender =>
    rw [signal]
    exact sound.sender
  case balance =>
    have balance := sound.balance
    rw [signal]
    simp only
    omega
  case returned =>
    rw [signal]
    intro inside
    rcases returned inside with rfl | before
    · exact Nat.succ_pos _
    · exact Nat.add_pos_left (sound.returned before) _
  case requested =>
    rw [signal]
    exact fun some => sound.requested (requested some)
  case untaken =>
    rw [signal]
    exact fun now => sound.untaken (listens now)

/-- Looking for the value leaves the flag and what was sent as they are. If there is nothing to find
it leaves everything as it is. -/
theorem pollStop_cases (executor : Executor) :
    (executor.signal.shutdown.Ready ∧ executor.pollStop.2 = true ∧ ∃ taken,
      executor.pollStop.1.signal = { executor.signal with
        shutdown := ⟨{ executor.signal.shutdown.channel with seen := taken }, true⟩ }) ∨
    (¬ executor.signal.shutdown.Ready ∧ executor.pollStop = (executor, false)) := by
  rw [Shutdown.ready_iff]
  unfold Executor.pollStop
  rcases executor.signal.shutdown.poll_cases with ⟨state, taken, polled⟩ | ⟨state, polled⟩
  · rw [polled]
    exact .inl ⟨state, rfl, taken, rfl⟩
  · rw [polled]
    exact .inr ⟨state, rfl⟩

/-- Whoever has found the value waits no longer. -/
theorem Sound.hear (sound : joint.Sound) {taken : Nat}
    (signal : executor.signal = { joint.executor.signal with
      shutdown := ⟨{ joint.executor.signal.shutdown.channel with seen := taken }, true⟩ })
    (unsent : joint.stage.unsent = 0) : Sound ⟨executor, joint.requests, .awake⟩ := by
  constructor <;> simp only [signal]
  case sender => exact sound.sender
  case balance =>
    have balance := sound.balance
    rw [Joint.unsent, unsent] at balance
    exact balance
  case returned => exact sound.returned
  case requested => exact sound.requested
  case untaken => exact Bool.noConfusion

/-- Whoever joins keeps the flag, the value and the requests in line. -/
theorem Sound.proceed (sound : joint.Sound) : joint.proceed.Sound := by
  unfold Joint.proceed
  split
  case h_1 stage =>
    cases joint.executor.signal.raised with
    | true => exact sound.of_signal rfl (by rw [stage]; rfl) Bool.noConfusion
    | false => exact sound.of_signal rfl (by rw [stage]; rfl) fun _ => by rw [stage]; rfl
  case h_2 interruptible stage =>
    rcases pollStop_cases joint.executor with ⟨-, ready, taken, signal⟩ | ⟨-, polled⟩
    · generalize joint.executor.pollStop = polled at ready signal ⊢
      obtain ⟨executor, found⟩ := polled
      subst ready
      cases interruptible with
      | true => exact sound.hear signal (by rw [stage]; rfl)
      | false => exact sound.hear signal (by rw [stage]; rfl)
    · rw [polled]
      exact sound
  case h_3 stage =>
    exact sound.raise (by rw [stage]; rfl) id Bool.noConfusion
  case h_4 first stage =>
    exact sound.finish first (by rw [stage]; rfl) .inr id Bool.noConfusion
  case h_5 stage =>
    cases joint.executor.started with
    | cons service rest => exact sound.of_signal rfl rfl id
    | nil => exact sound.of_signal rfl (by rw [stage]; rfl) Bool.noConfusion
  case h_6 => exact sound

/-- Every stretch, of whoever joins or requests a stop, keeps them in line. -/
theorem Sound.act (sound : joint.Sound) (action : Action) : (joint.act action).Sound := by
  cases action with
  | request =>
    exact sound.raise (unsent_raise ..) (fun inside => by simpa using inside) id
  | answer index =>
    simp only [Joint.act]
    split
    case h_1 first answers =>
      refine sound.finish first (unsent_answer answers) ?_ ?_ id
      · intro inside
        rcases List.mem_or_eq_of_mem_set inside with before | now
        · exact .inr before
        · exact .inl (Request.returned.inj now).symm
      · intro _ none
        simp [none] at answers
    case h_2 => exact sound
  | interrupt failure =>
    simp only [Joint.act]
    split
    case h_1 stage =>
      exact sound.of_signal rfl (by rw [stage]; rfl) Bool.noConfusion
    case h_2 stage =>
      exact sound.of_signal rfl (by rw [stage]; rfl) fun _ => by rw [stage]; rfl
    case h_3 => exact sound
  | proceed => exact sound.proceed

/-- **A schedule** keeps the flag, the value and the requests in line. -/
theorem Sound.run (sound : joint.Sound) (schedule : List Action) : (joint.run schedule).Sound := by
  induction schedule generalizing joint with
  | nil => exact sound
  | cons action rest ih => exact ih (sound.act action)

/-- An executor is sound when somebody is about to join it. -/
theorem enterJoin_sound (quiet : executor.Quiet) : executor.enterJoin.Sound where
  sender := quiet.sender
  balance := quiet.sent
  returned inside := absurd inside List.not_mem_nil
  requested some := absurd rfl some
  untaken _ := ⟨quiet.unseen, quiet.untaken⟩

/-- One who waits finds the value exactly if it was sent. -/
theorem Sound.pollStop_iff (sound : joint.Sound) {interruptible : Bool}
    (waits : joint.stage = .waiting interruptible) :
    joint.executor.pollStop.2 = true ↔ 0 < joint.executor.signal.shutdown.channel.sent := by
  obtain ⟨unseen, untaken⟩ := sound.untaken (by rw [waits]; rfl)
  have ready := joint.executor.signal.shutdown.ready_iff
  rw [unseen, untaken, sound.sender] at ready
  exact ready.trans (by simp)

end sound

/-! #### The end of joining -/

/-- Who joins comes to an end without help. -/
def Ends (joint : Joint) : Prop :=
  ∃ count, (joint.run (List.replicate count .proceed)).stage = .joined

/-- Who comes to an end after one more stretch comes to an end. -/
theorem Ends.of_proceed {joint : Joint} (ends : joint.proceed.Ends) : joint.Ends := by
  obtain ⟨count, joined⟩ := ends
  exact ⟨count + 1, joined⟩

/-- Who waits and finds the value need not wait any longer. -/
theorem proceed_of_found {executor : Executor} (found : executor.pollStop.2 = true)
    (requests : List Request) (interruptible : Bool) :
    proceed ⟨executor, requests, .waiting interruptible⟩ =
      ⟨if interruptible then executor.pollStop.1.logLine .info "executor received stop request"
        else executor.pollStop.1, requests, .awake⟩ := by
  rw [proceed]
  simp only
  generalize executor.pollStop = polled at found ⊢
  obtain ⟨after, ready⟩ := polled
  subst found
  rfl

/-- Both stretches of a request at once. -/
theorem finish_raiseStop (executor : Executor) :
    finish executor.raiseStop.1 executor.raiseStop.2 = executor.requestStop := by
  unfold Executor.requestStop finish
  generalize executor.raiseStop = raised
  obtain ⟨next, first⟩ := raised
  cases first <;> rfl

/-- Who stops the services stops all of them and is done. -/
theorem run_stopping (executor : Executor) (requests : List Request) :
    run ⟨executor, requests, .stopping⟩ (List.replicate (executor.started.length + 1) .proceed) =
      ⟨(executor.stopServices.logLine .info "executor shutdown complete").drop, requests,
        .joined⟩ := by
  obtain ⟨settings, registered, pending, started, signal, journal, log⟩ := executor
  induction started generalizing journal with
  | nil => rfl
  | cons service rest ih =>
    refine (ih (.stop service :: journal)).trans ?_
    simp [Executor.stopServices]

/-- Who need not wait any longer requests a stop, stops all services and is done. -/
theorem run_awake (executor : Executor) (requests : List Request) :
    run ⟨executor, requests, .awake⟩ (List.replicate (executor.started.length + 3) .proceed) =
      ⟨(executor.requestStop.stopServices.logLine .info "executor shutdown complete").drop,
        requests, .joined⟩ := by
  have started : executor.requestStop.started = executor.started :=
    Executor.started_of_hooks Executor.hooks_requestStop
  rw [← run_stopping, started]
  show run ⟨finish executor.raiseStop.1 executor.raiseStop.2, requests, .stopping⟩ _ = _
  rw [finish_raiseStop]

/-- Who joins comes to an end once woken up. -/
theorem awake_ends (executor : Executor) (requests : List Request) :
    Ends ⟨executor, requests, .awake⟩ :=
  ⟨_, congrArg Joint.stage (run_awake executor requests)⟩

/-- Once a stop was requested, and nobody is about to send the value, joining comes to an end. -/
theorem Sound.ends {joint : Joint} (sound : joint.Sound)
    (raised : joint.executor.signal.raised = true) (none : .raised true ∉ joint.requests) :
    joint.Ends := by
  obtain ⟨executor, requests, stage⟩ := joint
  cases stage with
  | entering =>
    refine Ends.of_proceed ?_
    simp only at raised
    simp only [Joint.proceed, raised, if_true]
    exact awake_ends executor requests
  | waiting interruptible =>
    have sent := sound.balance
    rw [raised, unsent, List.count_eq_zero.mpr none] at sent
    have found : executor.pollStop.2 = true :=
      (sound.pollStop_iff rfl).mpr (Nat.lt_of_lt_of_eq Nat.one_pos sent.symm)
    refine Ends.of_proceed ?_
    rw [proceed_of_found found]
    exact awake_ends _ requests
  | awake => exact awake_ends executor requests
  | raised first =>
    refine Ends.of_proceed ⟨_, congrArg Joint.stage (run_stopping _ requests)⟩
  | stopping => exact ⟨_, congrArg Joint.stage (run_stopping executor requests)⟩
  | joined => exact ⟨0, rfl⟩

/-- Joining without any thought of stretches is one of the ways in which it may go: if nobody has
requested a stop, somebody does so as soon as the one who joins waits. -/
theorem exists_schedule {executor : Executor} (quiet : executor.Quiet) :
    ∃ schedule requests,
      executor.enterJoin.run schedule = ⟨(executor.join false).1, requests, .joined⟩ := by
  cases up : executor.signal.raised with
  | true =>
    refine ⟨.proceed :: List.replicate (executor.started.length + 3) .proceed, [], ?_⟩
    have looked : executor.enterJoin.proceed = ⟨executor, [], .awake⟩ := by
      simp [Joint.proceed, Executor.enterJoin, up]
    show executor.enterJoin.proceed.run _ = _
    rw [looked, run_awake]
    simp [Executor.join, up]
  | false =>
    obtain ⟨first, -⟩ := executor.raiseStop_signal
    rw [up] at first
    have waits : executor.enterJoin.proceed = ⟨executor, [], .waiting true⟩ := by
      simp [Joint.proceed, Executor.enterJoin, up]
    have told : (Joint.run ⟨executor, [], .waiting true⟩ [.request, .answer 0]) =
        ⟨executor.requestStop, [.returned true], .waiting true⟩ := by
      rw [← finish_raiseStop, first]
      simp [Joint.run, Joint.act, first]
    have sound := (enterJoin_sound quiet).proceed.run [.request, .answer 0]
    rw [waits, told] at sound
    have found : executor.requestStop.pollStop.2 = true :=
      (sound.pollStop_iff rfl).mpr (sound.returned List.mem_cons_self)
    refine ⟨.proceed :: .request :: .answer 0 :: .proceed ::
      List.replicate (executor.requestStop.pollStop.1.started.length + 3) .proceed,
      [.returned true], ?_⟩
    show Joint.run (executor.enterJoin.proceed.run [.request, .answer 0]).proceed _ = _
    rw [waits, told, proceed_of_found found]
    refine (run_awake _ _).trans ?_
    simp [Executor.join, up]

/-- What whoever requests a stop of an executor can count on while it is being joined. -/
structure LosesNoStop (joint : Joint) : Prop where
  /-- No second value is ever sent. -/
  once : joint.executor.signal.shutdown.channel.sent ≤ 1
  /-- When the request that has raised the flag has returned, one who waits finds the value. -/
  heard : ∀ interruptible, joint.stage = .waiting interruptible →
    .returned true ∈ joint.requests → joint.executor.pollStop.2 = true
  /-- One who waits and finds nothing has missed nothing: no stop was requested, or the request that
  has raised the flag is about to send the value. -/
  missesNone : ∀ interruptible, joint.stage = .waiting interruptible →
    joint.executor.pollStop.2 = false →
      joint.executor.signal.raised = false ∧ joint.requests = [] ∨ .raised true ∈ joint.requests
  /-- Otherwise, and if a stop was requested, joining comes to an end without help. -/
  ends : joint.executor.signal.raised = true → .raised true ∉ joint.requests → joint.Ends

/-- Where the flag, the value and the requests are in line, no stop is lost. -/
theorem Sound.losesNoStop {joint : Joint} (sound : joint.Sound) : joint.LosesNoStop where
  once := by
    have balance := sound.balance
    have most := Bool.toNat_le joint.executor.signal.raised
    omega
  heard interruptible waits returned := (sound.pollStop_iff waits).mpr (sound.returned returned)
  missesNone interruptible waits nothing := by
    have unsent : ¬ 0 < joint.executor.signal.shutdown.channel.sent := fun sent =>
      Bool.noConfusion (nothing.symm.trans ((sound.pollStop_iff waits).mpr sent))
    have balance := sound.balance
    rw [Joint.unsent, waits] at balance
    cases up : joint.executor.signal.raised with
    | false =>
      refine .inl ⟨rfl, Decidable.byContradiction fun some => ?_⟩
      exact Bool.noConfusion (up.symm.trans (sound.requested some))
    | true =>
      refine .inr (List.count_pos_iff.mp ?_)
      rw [up] at balance
      simp only [Stage.unsent, Bool.toNat_true] at balance
      omega
  ends := sound.ends

end Joint

/-- **No request to stop is lost**, whatever the owner of an executor has called before joining it,
and however the stretches of those who request a stop and of the one who joins are mixed. A receiver
by itself is told of a request if it was told before, if a value was sent since it was there, or if
the sender is gone, and of nothing else. -/
theorem Executor.run_losesNoStop (settings : Config.ExecutorSettings) (calls : List Call)
    (schedule : List Joint.Action) :
    (((new settings).run calls).enterJoin.run schedule).LosesNoStop ∧
      ∀ (channel : Broadcast) (motions : List Shutdown.Motion),
        let receiver := Shutdown.start channel.subscribe
        (receiver.run motions).Ready ↔
          (∃ front back, motions = front ++ .poll :: back ∧ (receiver.run front).Ready) ∨
            channel.sent < (receiver.run motions).channel.sent ∨
            (receiver.run motions).channel.senderGone = true := by
  constructor
  · have quiet := (new_quiet settings).run calls
    exact ((Joint.enterJoin_sound quiet).run schedule).losesNoStop
  · intro channel motions receiver
    have since : receiver.Since channel.sent := ⟨Nat.le_refl _, Bool.noConfusion, fun _ => rfl⟩
    exact since.ready_run_iff motions

end PeerNet.Service
