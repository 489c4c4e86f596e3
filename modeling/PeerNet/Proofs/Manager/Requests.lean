import PeerNet.Manager

/-!
# The requests of a manager

A request keeps the peer that it asks for, and gets an answer when one of its stages or a job on the
strand comes to one.

* **Requests** (`peerOf`, `answerOf`): what a manager knows of a request, and what each change of
  the requests does to it.
* **Answers** (`Returned`): a request returns a session when its answer becomes that session.
* **One stage** (`advance_staged`): the request goes on, or is answered with an error or a live
  session from the directory, or puts a job on the strand that looks for its peer.
* **The jobs on the strand** (`Filed.step`) look for the peers of the requests that they are for.
* **Before a stop** (`step_idle`): only `stop` begins a stop.
-/

namespace PeerNet

/-- The request that a job is for, and the peer that it looks for. -/
def ManagerJob.serves? : ManagerJob → Option (Nat × Endpoint)
  | .insert request remote | .recheck request remote _ => some (request, remote)
  | .remove _ | .sweep | .drain => none

/-- Whether a job neither builds a session nor takes all sessions out. -/
def ManagerJob.isHarmless : ManagerJob → Bool
  | .recheck .. | .remove _ | .sweep => true
  | .insert .. | .drain => false

namespace Manager

variable {σ : Type} {backend : Backend σ} {state : σ} {manager before after : Manager}

/-! ### Requests -/

/-- The peer that a request asks for. -/
def peerOf (manager : Manager) (request : Nat) : Option Endpoint :=
  (Table.get? manager.requests request).map Request.remote

/-- The answer of a request, if it has one. -/
def answerOf (manager : Manager) (request : Nat) : Option (Except Error Card) :=
  (Table.get? manager.requests request).bind Request.answer

/-- The stage that a request goes through next. -/
def nextStage (manager : Manager) (request : Nat) : Option Stage :=
  (Table.get? manager.requests request).bind fun r => r.todo.head?

/-- An answer leaves the peers of all requests as they are. -/
@[simp] theorem peerOf_answer (manager : Manager) (request other : Nat)
    (result : Except Error Card) :
    (manager.answer request result).peerOf other = manager.peerOf other := by
  simp only [peerOf, answer, Table.get?_adjust]
  split
  · rw [Option.map_map]
    rfl
  · rfl

@[simp] theorem peerOf_proceed (manager : Manager) (request other : Nat) (todo : List Stage) :
    (manager.proceed request todo).peerOf other = manager.peerOf other := by
  simp only [peerOf, proceed, Table.get?_adjust]
  split
  · rw [Option.map_map]
    rfl
  · rfl

@[simp] theorem answerOf_proceed (manager : Manager) (request other : Nat) (todo : List Stage) :
    (manager.proceed request todo).answerOf other = manager.answerOf other := by
  simp only [answerOf, proceed, Table.get?_adjust]
  split
  · cases Table.get? manager.requests other <;> rfl
  · rfl

/-- An answer is that of its own request, if this one was made, and of no other. -/
theorem answerOf_answer (manager : Manager) (request other : Nat) (result : Except Error Card) :
    (manager.answer request result).answerOf other =
      if other = request then (manager.peerOf request).map fun _ => result
      else manager.answerOf other := by
  simp only [answerOf, answer, peerOf, Table.get?_adjust]
  split
  · next same =>
    rw [same]
    cases Table.get? manager.requests request <;> rfl
  · rfl

/-- A request that begins is for its peer; the earlier ones keep theirs. -/
theorem peerOf_beginWith (manager : Manager) (stages : List Stage) (remote : Endpoint)
    (other : Nat) : (manager.beginWith stages remote).1.peerOf other =
      if other = manager.nextRequest then some remote else manager.peerOf other := by
  simp only [peerOf, beginWith, Table.get?_insert]
  split <;> rfl

/-- A request that begins has no answer yet; the earlier ones keep theirs. -/
theorem answerOf_beginWith (manager : Manager) (stages : List Stage) (remote : Endpoint)
    (other : Nat) : (manager.beginWith stages remote).1.answerOf other =
      if other = manager.nextRequest then none else manager.answerOf other := by
  simp only [answerOf, beginWith, Table.get?_insert]
  split <;> rfl

/-! ### Answers -/

/-- A request for an endpoint gets a session as its answer, which it has not had before. -/
structure Returned (before after : Manager) (request : Nat) (key : Endpoint) (card : Card) :
    Prop where
  /-- It asks for the endpoint. -/
  asked : after.peerOf request = some key
  /-- Its answer is the session. -/
  given : after.answerOf request = some (.ok card)
  /-- It was not before. -/
  new : before.answerOf request ≠ some (.ok card)

section returned

variable {request other : Nat} {key : Endpoint} {card : Card}

/-- Nothing is returned while no answer changes. -/
theorem not_returned (same : after.answerOf request = before.answerOf request) :
    ¬ Returned before after request key card := by
  intro returned
  exact returned.new (same ▸ returned.given)

/-- A request that has begun just now returns nothing. -/
theorem not_returned_beginWith (stages : List Stage) (remote : Endpoint) :
    ¬ Returned manager (manager.beginWith stages remote).1 request key card := by
  intro returned
  have given := returned.given
  rw [answerOf_beginWith] at given
  split at given
  · cases given
  · exact returned.new given

/-- When one request is answered, no other returns, and it returns what it is answered with. -/
theorem returned_answer {result : Except Error Card}
    (returned : Returned before (manager.answer request result) other key card)
    (same : manager.answerOf other = before.answerOf other) :
    other = request ∧ result = .ok card ∧ manager.peerOf request = some key := by
  have asked := returned.asked
  have given := returned.given
  rw [peerOf_answer] at asked
  rw [answerOf_answer] at given
  split at given
  · next eq =>
    rw [eq] at asked
    rw [asked] at given
    exact ⟨eq, Option.some.inj given, asked⟩
  · exact absurd (same ▸ given) returned.new

end returned

/-! ### One stage -/

/-- What becomes of a manager when a request goes through its next stage. -/
inductive Staged (manager : Manager) (alive : SessionId → Bool) (request : Nat) :
    Manager → Prop where
  /-- Nothing changes. -/
  | same : Staged manager alive request manager
  /-- The request goes on. -/
  | proceeds (todo : List Stage) : Staged manager alive request (manager.proceed request todo)
  /-- The request is answered with an error. -/
  | refused (cause : Error) : Staged manager alive request (manager.answer request (.error cause))
  /-- The request is answered with a session that the directory shows for its peer, and that is
  alive. -/
  | found (remote : Endpoint) (card : Card) (asked : manager.peerOf request = some remote)
      (shown : Table.get? manager.pool.directory remote = some card)
      (live : alive card.id = true) :
      Staged manager alive request (manager.answer request (.ok card))
  /-- The request waits for a job on the strand that looks for its peer, and that builds a session
  only if it is its time. -/
  | waits (job : ManagerJob) (remote : Endpoint) (asked : manager.peerOf request = some remote)
      (serves : job.serves? = some (request, remote))
      (due : job.isHarmless = false → manager.nextStage request = some .insert) :
      Staged manager alive request ((manager.post job).proceed request [])

/-- A request that goes through its next stage goes on, is answered, or waits for a job. -/
theorem advance_staged (manager : Manager) (alive : SessionId → Bool)
    (dialed : Except Error Unit) (request : Nat) :
    Staged manager alive request (manager.advance alive dialed request) := by
  unfold advance
  cases found : Table.get? manager.requests request with
  | none => exact .same
  | some r =>
    have asked : manager.peerOf request = some r.remote := by
      unfold peerOf
      rw [found, Option.map_some]
    have awaits {job : ManagerJob} (serves : job.serves? = some (request, r.remote))
        (due : job.isHarmless = false → manager.nextStage request = some .insert) :
        Staged manager alive request (manager.await request job) := by
      unfold Manager.await
      split
      · exact .refused _
      · exact .waits job r.remote asked serves due
    dsimp only
    split
    case h_1 => exact .same
    case h_2 =>
      split
      · exact .proceeds _
      · exact .refused _
    case h_3 =>
      cases shown : Table.get? manager.pool.directory r.remote with
      | none => exact .proceeds _
      | some card =>
        dsimp only
        split
        · next live => exact .found r.remote card asked shown live
        · exact .proceeds _
    case h_4 =>
      split
      · exact .proceeds _
      · exact .proceeds _
    case h_5 rest todo =>
      refine awaits rfl fun _ => ?_
      simp [nextStage, found, todo]
    case h_6 => exact awaits rfl Bool.noConfusion

/-! ### The jobs on the strand -/

/-- The jobs on the strand look for the peers of the requests that they are for. -/
structure Filed (manager : Manager) : Prop where
  /-- A request that has not begun has no peer. -/
  unused (request : Nat) : manager.nextRequest ≤ request → manager.peerOf request = none
  /-- A job looks for the peer of the request that it is for. -/
  asked : ∀ job ∈ manager.queue, ∀ request remote, job.serves? = some (request, remote) →
    manager.peerOf request = some remote

/-- A manager that has just been made has no jobs on the strand. -/
theorem start_filed (kind : ManagerKind) (poolName : String) (capacity : Nat) (admits : Bool) :
    (start kind poolName capacity admits).Filed where
  unused := fun _ _ => rfl
  asked := nofun

/-- Requests that have begun keep their peers, and nothing is put on the strand. -/
theorem Filed.of_peers (filed : manager.Filed) (peers : ∀ n, after.peerOf n = manager.peerOf n)
    (next : after.nextRequest = manager.nextRequest) (queue : after.queue ⊆ manager.queue) :
    after.Filed where
  unused request le := by
    rw [peers]
    exact filed.unused request (next ▸ le)
  asked job mem request remote serves := by
    rw [peers]
    exact filed.asked job (queue mem) request remote serves

/-- A request that begins gets a number that no job is for. -/
theorem Filed.beginWith (filed : manager.Filed) (stages : List Stage) (remote : Endpoint) :
    (manager.beginWith stages remote).1.Filed := by
  constructor
  · intro request le
    have lt : manager.nextRequest < request := le
    rw [peerOf_beginWith, if_neg (Nat.ne_of_gt lt)]
    exact filed.unused request (Nat.le_of_lt lt)
  · intro job mem request other serves
    have asked := filed.asked job mem request other serves
    have ne : request ≠ manager.nextRequest := by
      rintro rfl
      rw [filed.unused _ (Nat.le_refl _)] at asked
      cases asked
    rw [peerOf_beginWith, if_neg ne, asked]

/-- A job may be posted if it looks for the peer of the request that it is for. -/
theorem Filed.post (filed : manager.Filed) {job : ManagerJob}
    (asked : ∀ request remote, job.serves? = some (request, remote) →
      manager.peerOf request = some remote) : (manager.post job).Filed := by
  unfold Manager.post
  split
  · exact filed
  · refine ⟨filed.unused, fun other mem => ?_⟩
    rcases List.mem_append.mp mem with mem | mem
    · exact filed.asked other mem
    · rw [List.mem_singleton.mp mem]
      exact asked

/-- A request that goes through its next stage posts jobs for its own peer only. -/
theorem Filed.advance (filed : manager.Filed) (alive : SessionId → Bool)
    (dialed : Except Error Unit) (request : Nat) :
    (manager.advance alive dialed request).Filed := by
  have staged := advance_staged manager alive dialed request
  generalize manager.advance alive dialed request = after at staged ⊢
  cases staged with
  | same => exact filed
  | proceeds | refused | found => exact filed.of_peers (by simp) rfl (List.Subset.refl _)
  | waits job remote asked serves =>
    have posted : (manager.post job).Filed := by
      apply filed.post
      intro other peer eq
      cases serves.symm.trans eq
      exact asked
    exact posted.of_peers (by simp) rfl (List.Subset.refl _)

/-- A job takes itself off the strand, and leaves the peers of all requests alone. -/
theorem work_frame (manager : Manager) (backend : Backend σ) (state : σ) :
    (∀ n, (manager.work backend state).1.peerOf n = manager.peerOf n) ∧
      (manager.work backend state).1.nextRequest = manager.nextRequest ∧
      (manager.work backend state).1.queue = manager.queue.tail := by
  unfold work
  cases queue : manager.queue with
  | nil => simp [queue]
  | cons job rest =>
    cases job with
    | insert | recheck => exact ⟨fun n => peerOf_answer _ _ n _, rfl, rfl⟩
    | remove | sweep | drain => exact ⟨fun _ => rfl, rfl, rfl⟩

/-- Working off a job leaves the others in line with their requests. -/
theorem Filed.work (filed : manager.Filed) (backend : Backend σ) (state : σ) :
    (manager.work backend state).1.Filed := by
  obtain ⟨peers, next, queue⟩ := work_frame manager backend state
  apply filed.of_peers peers next
  rw [queue]
  exact (List.tail_sublist _).subset

/-- Every step keeps the jobs in line with the requests. -/
theorem Filed.step (filed : manager.Filed) (backend : Backend σ) (action : Action) (state : σ) :
    (Manager.step backend action manager state).1.Filed := by
  have serves_none {manager : Manager} (filed : manager.Filed) {job : ManagerJob}
      (none : job.serves? = none) : (manager.post job).Filed := by
    apply filed.post
    intro request remote serves
    cases none.symm.trans serves
  cases action with
  | request remote => exact filed.beginWith _ remote
  | inbound remote => exact filed.beginWith _ remote
  | advance request dialed => exact filed.advance _ dialed request
  | work => exact filed.work backend state
  | halt id => exact filed
  | reportEnd id => exact serves_none filed rfl
  | reap =>
    simp only [Manager.step]
    split
    · exact filed
    · exact serves_none filed rfl
  | stop =>
    simp only [Manager.step, lower]
    split
    · exact ⟨filed.unused, filed.asked⟩
    · exact filed
  | advanceStop =>
    simp only [Manager.step, advanceStop]
    split
    case h_4 =>
      split
      · exact ⟨filed.unused, filed.asked⟩
      · have posted : (manager.post .drain).Filed := serves_none filed rfl
        exact ⟨posted.unused, posted.asked⟩
    case h_5 =>
      split
      · exact ⟨filed.unused, filed.asked⟩
      · exact ⟨filed.unused, filed.asked⟩
    all_goals exact ⟨filed.unused, filed.asked⟩

/-! ### Before a stop -/

/-- A stage begins no stop. -/
theorem Staged.progress {alive : SessionId → Bool} {request : Nat}
    (staged : Staged manager alive request after) : after.progress = manager.progress := by
  cases staged with
  | same | proceeds | refused | found => rfl
  | waits =>
    simp only [proceed, post]
    split <;> rfl

theorem progress_post (manager : Manager) (job : ManagerJob) :
    (manager.post job).progress = manager.progress := by
  unfold post
  split <;> rfl

/-- A stop begins with `stop`, and with nothing else. -/
theorem step_idle (idle : manager.progress = .idle) (no_drain : .drain ∉ manager.queue)
    {action : Action} (goes_on : action ≠ .stop) :
    (Manager.step backend action manager state).1.progress = .idle := by
  cases action with
  | request | inbound | halt => exact idle
  | advance request dialed => exact (advance_staged manager _ dialed request).progress.trans idle
  | work =>
    simp only [Manager.step, work]
    cases queue : manager.queue with
    | nil => exact idle
    | cons job rest =>
      cases job with
      | drain =>
        rw [queue] at no_drain
        exact absurd List.mem_cons_self no_drain
      | insert | recheck | remove | sweep => exact idle
  | reportEnd id => exact (progress_post manager _).trans idle
  | reap =>
    simp only [Manager.step]
    split
    · exact idle
    · exact (progress_post manager _).trans idle
  | stop => exact absurd rfl goes_on
  | advanceStop =>
    simp only [Manager.step, advanceStop, idle]

end Manager

end PeerNet
