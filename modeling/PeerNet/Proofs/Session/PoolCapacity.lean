import PeerNet.Proofs.Session.PoolRuns

/-!
# Requests at the capacity of a pool

A pool that is asked for the session for an endpoint answers by the sessions that run, whatever else
it holds.

* **What a request may expect** (`Insertion.Fair`): it is refused if and only if the sessions that
  run are as many as there may be, the builder is asked once for a session with a new number if and
  only if there is no live session and no refusal, and nothing that runs is lost.
* **Both ways to ask** (`Reply.fair`) give what may be expected.
* **Every pool** (`run_fair`) does so after any run, and never holds more than its capacity.
-/

namespace PeerNet.Pool

variable {σ : Type} {pool : Pool} {alive : SessionId → Bool} {fresh : SessionId}
  {remote : Endpoint} {build : SessionId → σ → Except Error Card × σ} {state : σ}

/-- What a request for the session for an endpoint may expect of a pool. -/
structure Insertion.Fair (pool : Pool) (alive : SessionId → Bool) (fresh : SessionId)
    (remote : Endpoint) (build : SessionId → σ → Except Error Card × σ) (state : σ)
    (insertion : Insertion σ) : Prop where
  /-- Without a live session for the endpoint it is refused if and only if the sessions that run are
  as many as there may be. -/
  refused : pool.live? alive remote = none →
    (insertion.outcome = .error (.full pool.name pool.capacity) ↔
      pool.capacity ≤ (pool.running alive).length)
  /-- The builder is asked for a session with the next number if and only if there is no live
  session for the endpoint and the request is not refused. -/
  asks : insertion.built = some fresh ↔
    pool.live? alive remote = none ∧ insertion.outcome ≠ .error (.full pool.name pool.capacity)
  /-- The builder is asked at most once, and what it says is the outcome. -/
  once : insertion.built = none ∧ insertion.state = state ∨
    insertion.built = some fresh ∧ insertion.state = (build fresh state).2 ∧
      insertion.outcome = (build fresh state).1.mapError Refusal.build
  /-- If nothing new is put in the same sessions run as before, and are found as before. -/
  keeps : (∀ card, insertion.outcome = .ok card → insertion.built = none) →
    insertion.pool.running alive = pool.running alive ∧
      ∀ other, insertion.pool.live? alive other = pool.live? alive other
  /-- No session that runs is taken out to make room. -/
  evictsNone : ∀ slot ∈ pool.running alive, slot ∈ insertion.pool.running alive

/-- With a live session for the endpoint nothing is done. -/
theorem fair_of_live {card : Card} (live : pool.live? alive remote = some card)
    {outcome : Except Refusal Card} :
    Insertion.Fair pool alive fresh remote build state ⟨pool, state, none, outcome⟩ where
  refused none_live := by
    rw [live] at none_live
    cases none_live
  asks := by
    constructor
    · intro asked
      cases asked
    · rintro ⟨none_live, _⟩
      rw [live] at none_live
      cases none_live
  once := .inl ⟨rfl, rfl⟩
  keeps := fun _ => ⟨rfl, fun _ => rfl⟩
  evictsNone := fun _ mem => mem

/-- What is put in under a new number takes the slot of no other session. -/
theorem running_register_of_new (new : ∀ slot ∈ pool.slots, slot.1 ≠ fresh) (card : Card)
    {slot : SessionId × Card} (mem : slot ∈ pool.running alive) :
    slot ∈ (pool.register remote fresh card).running alive := by
  obtain ⟨held, live⟩ := List.mem_filter.mp mem
  apply List.mem_filter.mpr
  exact ⟨Table.mem_insert.mpr (.inr ⟨held, new slot held⟩), live⟩

/-- Without a live session for the endpoint a request is admitted as it may expect. -/
theorem Admission.fair {insertion : Insertion σ}
    (admission : Admission alive fresh remote build pool state insertion)
    (none_live : pool.live? alive remote = none) (new : ∀ slot ∈ pool.slots, slot.1 ≠ fresh) :
    insertion.Fair pool alive fresh remote build state := by
  cases admission with
  | full cleared crowded =>
    constructor
    case refused => exact fun _ => ⟨fun _ => crowded, fun _ => rfl⟩
    case asks =>
      constructor
      · intro asked
        cases asked
      · rintro ⟨_, not_refused⟩
        exact absurd rfl not_refused
    case once => exact .inl ⟨rfl, rfl⟩
    case keeps => exact fun _ => ⟨cleared.running_eq, cleared.live?_eq⟩
    case evictsNone => exact fun slot mem => cleared.running_eq ▸ mem
  | failed cleared room asked =>
    constructor
    case refused =>
      intro _
      constructor
      · intro refused
        cases refused
      · intro crowded
        omega
    case asks => exact ⟨fun _ => ⟨none_live, nofun⟩, fun _ => rfl⟩
    case once =>
      rw [asked]
      exact .inr ⟨rfl, rfl, rfl⟩
    case keeps => exact fun _ => ⟨cleared.running_eq, cleared.live?_eq⟩
    case evictsNone => exact fun slot mem => cleared.running_eq ▸ mem
  | @built after card changed cleared room fits vacates asked =>
    constructor
    case refused =>
      intro _
      constructor
      · intro refused
        cases refused
      · intro crowded
        omega
    case asks => exact ⟨fun _ => ⟨none_live, nofun⟩, fun _ => rfl⟩
    case once =>
      rw [asked]
      exact .inr ⟨rfl, rfl, rfl⟩
    case keeps =>
      intro nothing
      cases nothing card rfl
    case evictsNone =>
      intro slot mem
      rw [← cleared.running_eq] at mem
      apply running_register_of_new _ card mem
      intro other held
      obtain ⟨kept, _, slots⟩ := cleared.exists_filter
      exact new other (List.mem_filter.mp (slots ▸ held)).1

/-- A request is answered as it may expect. -/
theorem Reply.fair {insertion : Insertion σ}
    (reply : Reply alive fresh remote build pool state insertion)
    (new : ∀ slot ∈ pool.slots, slot.1 ≠ fresh) :
    insertion.Fair pool alive fresh remote build state := by
  cases reply with
  | live found => exact fair_of_live found
  | admitted none_live admission => exact admission.fair none_live new

namespace History

/-- **A pool keeps to its capacity and evicts nothing that runs**: after every run, whatever peers
the sessions report, it holds no more sessions than it may, the next number has not been given out,
and whoever asks for the session for an endpoint, in either way, gets what may be expected. With a
live session for the endpoint the one way finds it and the other is refused for it. -/
theorem run_fair (name : String) (capacity : Nat) (events : List Event)
    (alive : SessionId → Bool) (remote : Endpoint) {σ : Type}
    (build : SessionId → σ → Except Error Card × σ) (state : σ) :
    let history := (start name capacity).run events
    let found := history.pool.getOrInsert alive history.next remote build state
    let added := history.pool.insertNew alive history.next remote build state
    history.pool.capacity = capacity ∧ history.pool.size ≤ capacity ∧
      history.next ∉ history.taken ∧
      found.Fair history.pool alive history.next remote build state ∧
      added.Fair history.pool alive history.next remote build state ∧
      ∀ card, history.pool.live? alive remote = some card →
        found.outcome = .ok card ∧ added.outcome = .error (.taken history.pool.name remote) := by
  intro history found added
  have sound : Sound name capacity history := run_sound name capacity events
  have new : ∀ slot ∈ history.pool.slots, slot.1 ≠ history.next := by
    intro slot mem eq
    exact sound.next_not_mem (eq ▸ sound.mem_taken mem)
  refine ⟨sound.capacity, sound.capacity ▸ sound.fits, sound.next_not_mem, ?_, ?_, ?_⟩
  · exact (getOrInsert_reply history.pool remote).fair new
  · exact (insertNew_reply history.pool remote).fair new
  · intro card live
    show (history.pool.getOrInsert alive history.next remote build state).outcome = .ok card ∧
      (history.pool.insertNew alive history.next remote build state).outcome = _
    rw [getOrInsert_of_live live, insertNew_of_live live]
    exact ⟨rfl, rfl⟩

end History

end PeerNet.Pool
