import PeerNet.Proofs.Manager.StopRuns

/-!
# Sessions that leave a manager

A session that has reported its end is taken out of the pool by a job on the strand, and does not
come back: no number is given out twice. A report that comes too late for the strand finds the pool
empty.

* **What a manager does to its sessions** (`Backend.Keeps.step`): it builds and stops them.
* **Leaving** (`Leaves`): a session has no slot, or a job on the strand will take it out.
* **Reports** (`leaves_post`): who has reported its end leaves.
* **Steps** (`Leaves.step`): who leaves goes on leaving, and is gone when no job is left
  (`Leaves.gone`).
-/

namespace PeerNet

/-! ### What a manager does to its sessions -/

section keeps

variable {σ : Type} {backend : Backend σ} {holds : σ → Prop} {manager : Manager} {state : σ}

/-- What holds of the sessions of a manager goes on to hold when one is built or stopped. -/
structure Backend.Keeps (backend : Backend σ) (holds : σ → Prop) : Prop where
  /-- A session is built, or cannot be. -/
  build (remote : Endpoint) {state : σ} : holds state →
    holds (Manager.builder backend remote (backend.takeId state).1 state).2
  /-- A session is stopped. -/
  halt (id : SessionId) {state : σ} : holds state → holds (backend.halt id state)

namespace Backend.Keeps

/-- Stopping any number of sessions keeps what each stop keeps. -/
theorem haltAll (keeps : backend.Keeps holds) (sessions : List Card) (held : holds state) :
    holds (Manager.haltAll backend sessions state) := by
  unfold Manager.haltAll
  induction sessions generalizing state with
  | nil => exact held
  | cons card rest ih => exact ih (keeps.halt card.id held)

/-- A job on the pool builds sessions and stops them, and so keeps what these keep. -/
theorem handled (keeps : backend.Keeps holds) {before : Pool} {result : Pool × σ}
    (handled : Manager.HandledBy backend before state result) (held : holds state) :
    holds result.2 := by
  obtain ⟨remote, handled⟩ := handled
  have built := keeps.build remote held
  rcases handled with _ | ⟨_, asked⟩ | ⟨_, _, asked, _⟩
  · exact held
  · rw [asked] at built
    exact built
  · rw [asked] at built
    exact built

/-- The worker of the strand keeps what building and stopping keep. -/
theorem work (keeps : backend.Keeps holds) (held : holds state) :
    holds (manager.work backend state).2 := by
  unfold Manager.work
  split
  · exact held
  · next job _ _ =>
    rcases job with ⟨request, remote⟩ | _ | _ | _ | _
    case insert => exact keeps.handled ⟨remote, Pool.getOrInsert_handled remote⟩ held
    all_goals exact held

/-- A stop of the manager keeps what building and stopping keep. -/
theorem advanceStop (keeps : backend.Keeps holds) (held : holds state) :
    holds (manager.advanceStop backend state).2 := by
  unfold Manager.advanceStop
  rcases manager.progress with _ | _ | _ | sessions | _ | sessions | _
  case lowered =>
    dsimp only
    split <;> exact held
  case drained =>
    dsimp only
    split
    · exact held
    · exact keeps.haltAll sessions held
  case halting => exact keeps.haltAll sessions held
  all_goals exact held

/-- Nothing else happens to the sessions by what a manager does. -/
theorem step (keeps : backend.Keeps holds) (held : holds state) (action : Manager.Action) :
    holds (Manager.step backend action manager state).2 := by
  cases action with
  | work => exact keeps.work held
  | halt id => exact keeps.halt id held
  | advanceStop => exact keeps.advanceStop held
  | request | inbound | advance | reportEnd | reap | stop => exact held

end Backend.Keeps

end keeps

namespace Manager

variable {σ : Type} {backend : Backend σ} {issued : σ → SessionId → Bool} {manager after : Manager}
  {state : σ} {id : SessionId}

/-! ### Who leaves -/

/-- Whether a session has no slot, or a job on the strand will take it out. -/
def Leaves (manager : Manager) (id : SessionId) : Prop :=
  .remove id ∈ manager.queue ∨ ∀ card, (id, card) ∉ manager.pool.slots

/-- When no job is left, who leaves is gone. -/
theorem Leaves.gone (leaves : manager.Leaves id) (done : manager.queue = []) :
    Table.get? manager.pool.slots id = none := by
  rcases leaves with mem | absent
  · rw [done] at mem
    cases mem
  · rcases found : Table.get? manager.pool.slots id with _ | card
    · rfl
    · exact absurd (Table.mem_of_get? found) (absent card)

/-- The pool is the same, and no job is lost. -/
theorem Leaves.of_sub (leaves : manager.Leaves id) (pool : after.pool = manager.pool)
    (queue : ∀ job ∈ manager.queue, job ∈ after.queue) : after.Leaves id := by
  rcases leaves with mem | absent
  · exact .inl (queue _ mem)
  · exact .inr fun card => pool ▸ absent card

/-- Who leaves goes on to leave when another job is posted. -/
theorem Leaves.post (leaves : manager.Leaves id) (job : ManagerJob) :
    (manager.post job).Leaves id := by
  unfold Manager.post
  split
  · exact leaves
  · exact leaves.of_sub rfl fun _ mem => List.mem_append_left _ mem

/-- Who has reported its end leaves: when the strand is closed the pool is empty. -/
theorem leaves_post (accounted : Accounted backend issued manager state) (id : SessionId) :
    (manager.post (.remove id)).Leaves id := by
  unfold Manager.post
  split
  · next closed =>
    right
    intro card mem
    have strand := accounted.closed.symm.trans closed
    have order := accounted.order
    cases progress : manager.progress with
    | halting | finished =>
      rw [progress] at order
      rw [order.1.slots] at mem
      cases mem
    | idle | lowered | draining | drained | closing =>
      rw [progress] at strand
      cases strand
  · exact .inl (List.mem_append_right _ List.mem_cons_self)

/-! ### Jobs -/

/-- A job does not bring back a session without a slot: no number is given out twice. -/
theorem HandledBy.absent {before : Pool} {result : Pool × σ}
    (handled : HandledBy backend before state result) (lawful : backend.Lawful issued)
    (known : issued state id = true) (absent : ∀ card, (id, card) ∉ before.slots) (card : Card) :
    (id, card) ∉ result.1.slots := by
  intro mem
  obtain ⟨remote, handled⟩ := handled
  rcases handled with purges | ⟨purges, _⟩ | ⟨rest, purges, _, slots⟩
  · exact absent card (purges.sub _ mem)
  · exact absent card (purges.sub _ mem)
  · rw [slots] at mem
    rcases Table.mem_insert.mp mem with new | ⟨old, _⟩
    · have fresh : id = (backend.takeId state).1 := congrArg Prod.fst new
      rw [fresh, lawful.fresh] at known
      cases known
    · exact absent card (purges.sub _ old)

/-- A job on the strand does not bring a session back that leaves: only new numbers get a slot. -/
theorem Leaves.work (leaves : manager.Leaves id) (lawful : backend.Lawful issued)
    (accounted : Accounted backend issued manager state) (known : issued state id = true) :
    (manager.work backend state).1.Leaves id := by
  rcases queue : manager.queue with _ | ⟨job, rest⟩
  · have same : manager.work backend state = (manager, state) := by
      unfold Manager.work
      rw [queue]
    rw [same]
    exact leaves
  · by_cases drain : job = .drain
    · unfold Manager.work
      rw [queue, drain]
      exact .inr fun card => List.not_mem_nil
    by_cases own : job = .remove id
    · -- the job takes the session out
      unfold Manager.work
      rw [queue, own]
      refine .inr fun card mem => ?_
      rw [Pool.slots_remove] at mem
      exact (Table.mem_erase.mp mem).2 rfl
    · have worked := work_worked queue drain fun other eq =>
        (accounted.ended other (queue ▸ eq ▸ List.mem_cons_self)).2
      generalize manager.work backend state = result at worked
      obtain ⟨pool, requests, changed, handled, _⟩ := worked
      rcases leaves with mem | absent
      · rw [queue] at mem
        rcases List.mem_cons.mp mem with first | mem
        · exact absurd first.symm own
        · exact .inl mem
      · exact .inr fun card => handled.absent lawful known absent card

/-! ### Steps -/

/-- A stop of the manager does not bring a session back that leaves. -/
theorem Leaves.advanceStop (leaves : manager.Leaves id) (backend : Backend σ) (state : σ) :
    (manager.advanceStop backend state).1.Leaves id := by
  unfold Manager.advanceStop
  split
  · exact leaves
  · exact leaves
  · exact leaves
  · split
    · exact leaves
    · exact leaves.post .drain
  · split <;> exact leaves
  · exact leaves
  · exact leaves

/-- Who leaves goes on leaving, whatever the manager does. -/
theorem Leaves.step (leaves : manager.Leaves id) (lawful : backend.Lawful issued)
    (accounted : Accounted backend issued manager state) (known : issued state id = true)
    (action : Action) : (Manager.step backend action manager state).1.Leaves id := by
  cases action with
  | request remote => exact leaves
  | inbound remote => exact leaves
  | advance request dialed =>
    have advanced := advance_advanced manager (backend.alive state) dialed request
    simp only [Manager.step]
    generalize manager.advance (backend.alive state) dialed request = after at advanced ⊢
    rcases advanced with ⟨requests⟩ | ⟨requests, job, _, _, _⟩
    · exact leaves
    · exact leaves.post job
  | work => exact leaves.work lawful accounted known
  | halt other => exact leaves
  | reportEnd other => exact leaves.post (.remove other)
  | reap =>
    simp only [Manager.step]
    split
    · exact leaves
    · exact leaves.post .sweep
  | stop =>
    simp only [Manager.step, lower]
    split <;> exact leaves
  | advanceStop => exact leaves.advanceStop backend state

end Manager

end PeerNet
