import PeerNet.Proofs.Session.Transports

/-!
# What a session hands to its handler

A session that has no socket of its own is fed by its server. What it is fed with while it runs it
hands to the handler, in the same order, unless it has been handed over already.

* **What waits** (`queued`) for the handler, behind what was handed to it (`held`).
* **One action** (`Fed.step`, `step_steady`): whatever happens to the session, nothing that it holds
  is lost; it takes what it is fed with while it runs (`held_deliver`).
* **In the end** (`delivered_workLives`) the handler gets everything.
-/

namespace PeerNet.Udp

/-- The datagram that a job hands to the handler. -/
def LifeJob.data? : LifeJob → Option Bytes
  | .deliver data => some data
  | .checkIdle => none

namespace Session

variable {session : Session} {registered : Bool}

/-- The datagrams that wait for the handler. -/
def queued (session : Session) : List Bytes := session.life.filterMap LifeJob.data?

/-- The datagrams that were handed to the handler, and those that wait for it. -/
def held (session : Session) : List Bytes := session.delivered.reverse ++ session.queued

/-- A session that has started, and is fed by somebody else. -/
structure Fed (session : Session) : Prop where
  /-- It has started. -/
  begun : session.phase ≠ .created
  /-- It has no loop that receives. -/
  absent : session.receiver = .absent
  /-- It has kept to the lifecycle. -/
  sound : session.lifecycle.Sound

/-- It takes jobs as long as it runs. -/
theorem Fed.closed_eq (fed : session.Fed) : session.closed = !session.isRunning := by
  have sound := fed.sound
  have begun := fed.begun
  generalize lifecycle_eq : session.lifecycle = lifecycle at sound
  have phase : session.phase = lifecycle.phase := congrArg Lifecycle.phase lifecycle_eq
  have closed : session.closed = lifecycle.closed := congrArg Lifecycle.closed lifecycle_eq
  rw [closed, isRunning, phase]
  rcases sound with ⟨other, busy, rfl | rfl⟩ | _ | _
  · exact absurd phase begun
  all_goals rfl

/-! ### One action -/

/-- A session is as it was, as far as its peer and what it is fed with are concerned. Without a
handler datagrams may be dropped. -/
structure Steady (registered : Bool) (session after : Session) : Prop where
  /-- It has the same card. -/
  card : after.card = session.card
  /-- It has no loop that receives, if it had none. -/
  absent : session.receiver = .absent → after.receiver = .absent
  /-- It holds the same datagrams. -/
  held : registered = true → after.held = session.held

theorem Steady.refl (session : Session) : Steady registered session session :=
  ⟨rfl, fun absent => absent, fun _ => rfl⟩

/-- A stop takes no datagram from the handler. -/
theorem stop_steady (session : Session) : Steady registered session session.stop := by
  unfold stop
  split
  case h_1 | h_2 =>
    refine ⟨rfl, fun absent => ?_, fun _ => rfl⟩
    simp [absent]
  all_goals exact .refl session

/-- What a caller makes of the outcome of a send takes no datagram from the handler. -/
theorem conclude_steady (session : Session) (result : Sent) :
    Steady registered session (session.conclude result) := by
  rcases result with _ | error
  · exact ⟨rfl, fun absent => absent, fun _ => rfl⟩
  · simp only [conclude]
    split
    · exact session.stop_steady
    · exact .refl session

/-- The strand hands a datagram to the handler, if it is its turn. -/
theorem workLife_steady (session : Session) :
    Steady registered session (session.workLife registered) := by
  refine ⟨?_, ?_, ?_⟩
  · unfold workLife
    split <;> rfl
  · intro absent
    unfold workLife
    split <;> exact absent
  · rintro rfl
    rcases life : session.life with _ | ⟨_ | _, rest⟩
    all_goals simp [workLife, held, queued, life, LifeJob.data?, List.filterMap_cons]

/-- A start takes no datagram from the handler. -/
theorem start_steady {now : Nat} {after : Session} (started : session.start now = .ok after) :
    Steady registered session after := by
  unfold start at started
  split at started
  · cases started
    refine ⟨rfl, fun absent => ?_, fun _ => rfl⟩
    simp [absent]
  · cases started

/-- Nothing that a session holds is lost, whatever happens to it. -/
theorem step_steady (absent : session.receiver = .absent) {action : Action}
    (unfed : ∀ data, action ≠ .deliver data) :
    Steady registered session (session.step registered action) := by
  rcases action with now | data | outcome | caller | data | ⟨source, data⟩ | _ | _ | now | _ | _ | _
  case start =>
    simp only [step]
    split
    · next started => exact start_steady started
    · exact .refl session
  case submit =>
    simp only [step]
    split
    · exact .refl session
    · simp only [submit]
      split
      · next queued =>
        split at queued
        · cases queued
        · cases queued
          exact ⟨rfl, fun absent => absent, fun _ => rfl⟩
      · exact .refl session
  case workSend =>
    simp only [step, workSend]
    split <;> exact ⟨rfl, fun absent => absent, fun _ => rfl⟩
  case take =>
    simp only [step, take]
    split
    · exact .refl session
    · next result _ =>
      obtain ⟨card, absent, held⟩ : Steady registered _ _ := conclude_steady
        { session with sent := session.sent.filter fun entry => entry.1 ≠ caller } result
      exact ⟨card, absent, held⟩
  case deliver => exact absurd rfl (unfed data)
  case receive =>
    simp only [step, receive, absent]
    exact .refl session
  case failReceive =>
    simp only [step, failReceive, absent]
    exact .refl session
  case workLife => exact session.workLife_steady
  case wake =>
    simp only [step, wake]
    split
    · split
      · split
        · exact ⟨rfl, fun absent => absent, fun _ => rfl⟩
        · refine ⟨rfl, fun absent => absent, fun _ => ?_⟩
          simp [held, queued, LifeJob.data?]
      · exact .refl session
    · exact .refl session
  case judge =>
    simp only [step, judge]
    split
    · exact ⟨rfl, fun absent => absent, fun _ => rfl⟩
    · obtain ⟨card, absent, held⟩ : Steady registered _ _ := session.stop_steady
      exact ⟨card, absent, held⟩
    · exact .refl session
  case heed =>
    simp only [step, heed]
    split
    · refine ⟨rfl, fun absent => ?_, fun _ => rfl⟩
      simp [absent]
    · exact .refl session
  case stop => exact session.stop_steady

/-- A session takes what it is fed with while it runs, and drops what comes later. -/
theorem Fed.held_deliver (fed : session.Fed) (data : Bytes) :
    (session.deliver data).held = session.held ++ if session.isRunning then [data] else [] := by
  have closed := fed.closed_eq
  rcases running : session.isRunning
  · simp [deliver, held, queued, closed, running]
  · simp [deliver, held, queued, closed, running, LifeJob.data?]

/-- A session without a receiving loop never gets one. -/
theorem absent_step (absent : session.receiver = .absent) (action : Action) :
    (session.step registered action).receiver = .absent := by
  by_cases feeds : ∃ data, action = .deliver data
  · obtain ⟨data, rfl⟩ := feeds
    exact absent
  · have steady : Steady registered session (session.step registered action) :=
      step_steady absent fun data eq => feeds ⟨data, eq⟩
    exact steady.absent absent

/-- A session without a receiving loop keeps its card. -/
theorem card_step (absent : session.receiver = .absent) (action : Action) :
    (session.step registered action).card = session.card := by
  by_cases feeds : ∃ data, action = .deliver data
  · obtain ⟨data, rfl⟩ := feeds
    rfl
  · have steady : Steady registered session (session.step registered action) :=
      step_steady absent fun data eq => feeds ⟨data, eq⟩
    exact steady.card

/-- It is fed whatever happens to it. -/
theorem Fed.step (fed : session.Fed) (action : Action) : (session.step registered action).Fed := by
  have goes := (session.step_goes registered action).step
  refine ⟨?_, ?_, goes.sound fed.sound⟩
  · intro created
    exact fed.begun (goes.created_of_created created)
  · exact absent_step fed.absent action

/-! ### In the end -/

/-- The strand of the handler takes its jobs from the front, one in each round. -/
theorem life_workLife (session : Session) :
    (session.workLife registered).life = session.life.tail := by
  rcases life : session.life with _ | ⟨_ | _, rest⟩ <;> simp [workLife, life]

/-- When its strand has run all its jobs the handler has got everything. -/
theorem delivered_workLives (session : Session) :
    (session.workLives true).delivered.reverse = session.held := by
  -- as many rounds as there are jobs
  have worked (jobs : List LifeJob) : ∀ session : Session, session.life.length ≤ jobs.length →
      (jobs.foldl (fun session _ => session.workLife true) session).delivered.reverse
        = session.held := by
    induction jobs with
    | nil =>
      intro session few
      have nothing : session.life = [] := List.length_eq_zero_iff.mp (Nat.le_zero.mp few)
      simp [held, queued, nothing]
    | cons job jobs ih =>
      intro session few
      have fewer : (session.workLife true).life.length ≤ jobs.length := by
        rw [life_workLife, List.length_tail]
        exact Nat.sub_le_of_le_add few
      rw [List.foldl_cons, ih _ fewer]
      exact session.workLife_steady.held rfl
  exact worked session.life session (Nat.le_refl _)

end Session

end PeerNet.Udp
