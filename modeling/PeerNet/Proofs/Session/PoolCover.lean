import PeerNet.Proofs.Session.PoolTables

/-!
# A pool loses no live session

Whoever takes all sessions out of a pool has all that are alive, if every session that was built got
a slot and no operation takes out one that is alive.

* **Purges** (`Cleared.purges`): looking for a live session and sweeping take out sessions that are
  not alive, and nothing else.
* **Requests** (`getOrInsert_handled`): a request purges the pool, and then either builds nothing,
  fails to build, or builds one session and gives it a slot of its own.
* **A pool without sessions** (`Vacant`) stays as it is.
-/

namespace PeerNet.Pool

variable {pool before after : Pool} {alive : SessionId → Bool} {id : SessionId}

/-! ### Purges -/

/-- `after` is `before` without some sessions that are not alive. -/
structure Purges (alive : SessionId → Bool) (before after : Pool) : Prop where
  /-- Nothing is added. -/
  sub : ∀ entry ∈ after.slots, entry ∈ before.slots
  /-- What is alive is kept. -/
  keeps : ∀ entry ∈ before.slots, alive entry.1 = true → entry ∈ after.slots

/-- Clearing a pool is a purge. -/
theorem Cleared.purges (cleared : Cleared alive before after) : Purges alive before after := by
  obtain ⟨kept, keeps, slots⟩ := cleared.exists_filter
  constructor
  · intro entry mem
    exact (List.mem_filter.mp (slots ▸ mem)).1
  · intro entry mem live
    rw [slots]
    exact List.mem_filter.mpr ⟨mem, keeps entry.1 live⟩

/-- To take out a session that is not alive is a purge. -/
theorem remove_purges (dead : alive id = false) : Purges alive pool (pool.remove id).1 :=
  (Cleared.one dead).purges

/-- A sweep is a purge. -/
theorem sweep_purges : Purges alive pool (pool.sweep alive).1 := (sweep_cleared pool alive).purges

/-- Looking for a live session is a purge: it takes out what it finds dead. -/
theorem getLive_purges (pool : Pool) (alive : SessionId → Bool) (remote : Endpoint) :
    Purges alive pool (pool.getLive alive remote).1 :=
  (getLive_cleared pool alive remote).purges

/-! ### Requests -/

/-- What becomes of a pool and of the state on a request, `fresh` being the next number. -/
inductive Handled {σ : Type} (alive : SessionId → Bool) (fresh : SessionId)
    (build : SessionId → σ → Except Error Card × σ) (before : Pool) (state : σ) :
    Pool × σ → Prop where
  /-- Nothing is built. -/
  | purged {after : Pool} (purges : Purges alive before after) :
      Handled alive fresh build before state (after, state)
  /-- A session cannot be built. -/
  | failed {after : Pool} {cause : Error} {changed : σ} (purges : Purges alive before after)
      (built : build fresh state = (.error cause, changed)) :
      Handled alive fresh build before state (after, changed)
  /-- A session is built, and gets a slot of its own. -/
  | built {after : Pool} {card : Card} {changed : σ} (rest : Pool)
      (purges : Purges alive before rest) (built : build fresh state = (.ok card, changed))
      (slots : after.slots = Table.insert rest.slots fresh card) :
      Handled alive fresh build before state (after, changed)

/-- A request purges the pool, and then builds nothing, fails to build, or fills a slot of its own.
-/
theorem getOrInsert_handled {σ : Type} {fresh : SessionId}
    {build : SessionId → σ → Except Error Card × σ} {state : σ} (remote : Endpoint) :
    Handled alive fresh build pool state
      ((pool.getOrInsert alive fresh remote build state).pool,
        (pool.getOrInsert alive fresh remote build state).state) := by
  have reply : Reply alive fresh remote build pool state _ := getOrInsert_reply pool remote
  generalize pool.getOrInsert alive fresh remote build state = insertion at reply
  cases reply with
  | live => exact .purged (Cleared.refl pool).purges
  | admitted _ admission =>
    cases admission with
    | full cleared => exact .purged cleared.purges
    | failed cleared _ asked => exact .failed cleared.purges asked
    | @built rest _ _ cleared _ _ _ asked => exact .built rest cleared.purges asked rfl

/-! ### Pools without sessions -/

/-- A pool that holds no session and finds none. -/
structure Vacant (pool : Pool) : Prop where
  /-- There is no slot. -/
  slots : pool.slots = []
  /-- The index is empty. -/
  index : pool.index = []
  /-- The directory is empty. -/
  directory : pool.directory = []

/-- A pool that has just been made holds no session. -/
theorem empty_vacant (name : String) (capacity : Nat) : (empty name capacity).Vacant :=
  ⟨rfl, rfl, rfl⟩

/-- From a pool without sessions nothing can be taken. -/
theorem Vacant.remove (vacant : pool.Vacant) (id : SessionId) : (pool.remove id).1 = pool := by
  unfold Pool.remove
  rw [vacant.slots]
  rfl

/-- In a pool without sessions there is nothing to sweep. -/
theorem Vacant.sweep (vacant : pool.Vacant) (alive : SessionId → Bool) :
    (pool.sweep alive).1 = pool := by
  unfold Pool.sweep
  rw [vacant.slots]
  rfl

/-- In a pool without sessions nothing is found, and nothing taken out. -/
theorem Vacant.getLive (vacant : pool.Vacant) (alive : SessionId → Bool) (remote : Endpoint) :
    (pool.getLive alive remote).1 = pool := by
  unfold Pool.getLive
  rw [vacant.index]
  rfl

/-! ### What is needed to stop all sessions -/

/-- A pool in which the card in a slot bears the number of the slot. -/
def Labelled (pool : Pool) : Prop := ∀ entry ∈ pool.slots, entry.2.id = entry.1

/-- A pool in which every session that is alive has a slot. -/
def Covers (pool : Pool) (alive : SessionId → Bool) : Prop :=
  ∀ id, alive id = true → ∃ card, (id, card) ∈ pool.slots

/-- A purge leaves the cards under their own numbers. -/
theorem Labelled.purges (labelled : before.Labelled) (purges : Purges alive before after) :
    after.Labelled :=
  fun entry mem => labelled entry (purges.sub entry mem)

/-- A purge leaves every session that is alive its slot. -/
theorem Covers.purges (covers : before.Covers alive) (purges : Purges alive before after) :
    after.Covers alive := by
  intro id live
  obtain ⟨card, mem⟩ := covers id live
  exact ⟨card, purges.keeps _ mem live⟩

/-- The sessions that are taken out of a pool are all that are alive. -/
theorem Covers.mem_sessions (covers : pool.Covers alive) (labelled : pool.Labelled)
    (live : alive id = true) : ∃ card ∈ pool.sessions, card.id = id := by
  obtain ⟨card, mem⟩ := covers id live
  exact ⟨card, List.mem_map.mpr ⟨_, mem, rfl⟩, labelled _ mem⟩

end PeerNet.Pool
