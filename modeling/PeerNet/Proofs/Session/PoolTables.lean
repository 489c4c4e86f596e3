import PeerNet.Session.Pool

/-!
# What operations do to the tables of a pool

Every operation of a pool takes some sessions out, one after the other, and a request for a session
may then put one in. What holds of all operations is proved for these two moves.

* **Taking a session out** (`slots_remove`, `remove_of_frees`, `remove_of_not_frees`): its slot is
  emptied, and the endpoint that it reports is freed if the index leads from there to the session.
* **Clearing** (`Cleared`): sessions are taken out, none of which is alive. That is all that looking
  for a live session and sweeping do (`getLive_cleared`, `sweep_cleared`).
* **Requests** (`getOrInsert_reply`, `insertNew_reply`): nothing is done if there is a live session
  for the endpoint. Otherwise the pool is cleared; then either the sessions that run are as many as
  there may be, or the builder is asked once, and what it builds is put in.
-/

namespace PeerNet.Pool

variable {pool before after : Pool} {alive : SessionId → Bool} {id : SessionId}
  {remote key : Endpoint}

/-! ### Taking a session out -/

/-- Whether an endpoint is freed when a session is taken out: the index leads from the endpoint to
the session, and the session reports the endpoint as its peer. -/
def Frees (pool : Pool) (id : SessionId) (key : Endpoint) : Prop :=
  Table.get? pool.index key = some id ∧
    ∃ card, Table.get? pool.slots id = some card ∧ card.remote = key

/-- Who has no slot cannot be taken out, and nothing changes. -/
theorem remove_of_absent (absent : Table.get? pool.slots id = none) :
    pool.remove id = (pool, none) := by
  unfold remove
  rw [absent]

/-- Taking a session out empties its slot and no other. -/
theorem slots_remove (pool : Pool) (id : SessionId) :
    (pool.remove id).1.slots = Table.erase pool.slots id := by
  cases held : Table.get? pool.slots id with
  | none => rw [remove_of_absent held, Table.erase_of_get?_eq_none held]
  | some card =>
    unfold remove
    rw [held]
    dsimp only
    split <;> rfl

/-- An endpoint that is freed leads nowhere afterwards. -/
theorem remove_of_frees (frees : pool.Frees id key) :
    Table.get? (pool.remove id).1.index key = none ∧
      Table.get? (pool.remove id).1.directory key = none := by
  obtain ⟨led, card, held, rfl⟩ := frees
  unfold remove
  rw [held]
  dsimp only
  rw [if_pos led]
  simp [Table.get?_erase]

/-- An endpoint that is not freed leads where it did. -/
theorem remove_of_not_frees (kept : ¬ pool.Frees id key) :
    Table.get? (pool.remove id).1.index key = Table.get? pool.index key ∧
      Table.get? (pool.remove id).1.directory key = Table.get? pool.directory key := by
  cases held : Table.get? pool.slots id with
  | none =>
    rw [remove_of_absent held]
    exact ⟨rfl, rfl⟩
  | some card =>
    unfold remove
    rw [held]
    dsimp only
    split
    case isTrue led =>
      have ne : key ≠ card.remote := by
        rintro rfl
        exact kept ⟨led, card, held, rfl⟩
      simp [Table.get?_erase, ne]
    case isFalse => exact ⟨rfl, rfl⟩

/-- Taking a session out leaves the name and the capacity of the pool. -/
theorem remove_settings (pool : Pool) (id : SessionId) :
    (pool.remove id).1.name = pool.name ∧ (pool.remove id).1.capacity = pool.capacity := by
  unfold remove
  split
  · exact ⟨rfl, rfl⟩
  · dsimp only
    split <;> exact ⟨rfl, rfl⟩

/-! ### Clearing -/

/-- `after` is what is left of `before` when some sessions are taken out, none of them alive. -/
inductive Cleared (alive : SessionId → Bool) : Pool → Pool → Prop where
  /-- Nothing is taken out. -/
  | refl (pool : Pool) : Cleared alive pool pool
  /-- A session is taken out first. -/
  | remove {before after : Pool} {id : SessionId} (dead : alive id = false)
      (rest : Cleared alive (before.remove id).1 after) : Cleared alive before after

/-- To take out one session that is not alive is to clear. -/
theorem Cleared.one (dead : alive id = false) : Cleared alive pool (pool.remove id).1 :=
  .remove dead (.refl _)

/-- To clear twice is to clear. -/
theorem Cleared.trans {middle : Pool} (first : Cleared alive before middle)
    (second : Cleared alive middle after) : Cleared alive before after := by
  induction first with
  | refl => exact second
  | remove dead _ ih => exact .remove dead (ih second)

/-- To take out several sessions, none of which is alive, is to clear. -/
theorem foldl_remove_cleared (ids : List SessionId) (dead : ∀ id ∈ ids, alive id = false) :
    Cleared alive pool (ids.foldl (fun pool id => (pool.remove id).1) pool) := by
  induction ids generalizing pool with
  | nil => exact .refl pool
  | cons id rest ih =>
    apply Cleared.remove (dead id List.mem_cons_self)
    exact ih fun other mem => dead other (List.mem_cons_of_mem _ mem)

/-- A sweep clears the pool. -/
theorem sweep_cleared (pool : Pool) (alive : SessionId → Bool) :
    Cleared alive pool (pool.sweep alive).1 := by
  apply foldl_remove_cleared
  intro id mem
  obtain ⟨slot, swept, rfl⟩ := List.mem_map.mp mem
  simpa using (List.mem_filter.mp swept).2

/-- Clearing leaves the name and the capacity of the pool. -/
theorem Cleared.settings (cleared : Cleared alive before after) :
    after.name = before.name ∧ after.capacity = before.capacity := by
  induction cleared with
  | refl => exact ⟨rfl, rfl⟩
  | @remove before after id _ _ ih =>
    obtain ⟨name, capacity⟩ := remove_settings before id
    exact ⟨ih.1.trans name, ih.2.trans capacity⟩

/-- The slots that are left are chosen by their numbers, and those that are alive are among them. -/
theorem Cleared.exists_filter (cleared : Cleared alive before after) :
    ∃ kept : SessionId → Bool, (∀ id, alive id = true → kept id = true) ∧
      after.slots = before.slots.filter fun slot => kept slot.1 := by
  induction cleared with
  | refl pool =>
    exact ⟨fun _ => true, fun _ _ => rfl, (List.filter_eq_self.mpr fun _ _ => rfl).symm⟩
  | @remove before after id dead _ ih =>
    obtain ⟨kept, keeps, slots⟩ := ih
    refine ⟨fun other => kept other && decide (other ≠ id), ?_, ?_⟩
    · intro other live
      have ne : other ≠ id := by
        rintro rfl
        rw [dead] at live
        cases live
      simp [keeps other live, ne]
    · rw [slots, slots_remove, Table.erase, List.filter_filter]

/-! ### Sessions that are alive -/

/-- The slots of the sessions that are alive. -/
def running (pool : Pool) (alive : SessionId → Bool) : Table SessionId Card :=
  pool.slots.filter fun slot => alive slot.1

/-- The live session for an endpoint: the index leads to its number, and it has a slot. -/
def live? (pool : Pool) (alive : SessionId → Bool) (remote : Endpoint) : Option Card :=
  match Table.get? pool.index remote with
  | none => none
  | some id => if alive id then Table.get? pool.slots id else none

/-- No more sessions run than there are slots. -/
theorem length_running_le (pool : Pool) (alive : SessionId → Bool) :
    (pool.running alive).length ≤ pool.size :=
  List.length_filter_le _ _

/-- Clearing takes out no session that is alive. -/
theorem Cleared.running_eq (cleared : Cleared alive before after) :
    after.running alive = before.running alive := by
  obtain ⟨kept, keeps, slots⟩ := cleared.exists_filter
  unfold running
  rw [slots, List.filter_filter]
  apply List.filter_congr
  intro slot _
  cases live : alive slot.1 with
  | false => rfl
  | true => rw [keeps slot.1 live, Bool.and_self]

/-- Taking a session out leaves the slots of the others. -/
theorem get?_slots_remove_of_ne {other : SessionId} (ne : other ≠ id) :
    Table.get? (pool.remove id).1.slots other = Table.get? pool.slots other := by
  rw [slots_remove, Table.get?_erase, if_neg ne]

/-- Taking out a session that is not alive does not change which live session an endpoint leads to.
-/
theorem live?_remove (dead : alive id = false) :
    (pool.remove id).1.live? alive remote = pool.live? alive remote := by
  unfold live?
  by_cases frees : pool.Frees id remote
  · rw [(remove_of_frees frees).1, frees.1]
    simp [dead]
  · rw [(remove_of_not_frees frees).1]
    cases led : Table.get? pool.index remote with
    | none => rfl
    | some other =>
      dsimp only
      split
      case isTrue live =>
        apply get?_slots_remove_of_ne
        rintro rfl
        rw [dead] at live
        cases live
      case isFalse => rfl

/-- Clearing hides no session that is alive, and shows none. -/
theorem Cleared.live?_eq (cleared : Cleared alive before after) (remote : Endpoint) :
    after.live? alive remote = before.live? alive remote := by
  induction cleared with
  | refl => rfl
  | remove dead _ ih => exact ih.trans (live?_remove dead)

/-- Taking several sessions out empties their slots and no others. -/
theorem slots_foldl_remove (ids : List SessionId) (pool : Pool) :
    (ids.foldl (fun pool id => (pool.remove id).1) pool).slots =
      pool.slots.filter fun slot => decide (slot.1 ∉ ids) := by
  induction ids generalizing pool with
  | nil => simp [List.filter_eq_self.mpr]
  | cons id rest ih =>
    rw [List.foldl_cons, ih, slots_remove, Table.erase, List.filter_filter]
    apply List.filter_congr
    intro slot _
    simp [Bool.and_comm]

/-- What a sweep leaves are the sessions that are alive. -/
theorem slots_sweep (pool : Pool) (alive : SessionId → Bool) :
    (pool.sweep alive).1.slots = pool.running alive := by
  unfold sweep running
  dsimp only
  rw [slots_foldl_remove]
  apply List.filter_congr
  intro slot mem
  cases live : alive slot.1 with
  | true =>
    apply decide_eq_true
    intro swept
    obtain ⟨other, dead, eq⟩ := List.mem_map.mp swept
    simp [eq, live] at dead
  | false =>
    apply decide_eq_false
    intro kept
    exact kept (List.mem_map.mpr ⟨slot, List.mem_filter.mpr ⟨mem, by simp [live]⟩, rfl⟩)

/-- After a sweep the pool holds as many sessions as run. -/
theorem size_sweep (pool : Pool) (alive : SessionId → Bool) :
    (pool.sweep alive).1.size = (pool.running alive).length := by
  unfold size
  rw [slots_sweep]

/-! ### Looking for a live session -/

/-- A pool in which an endpoint does not lead to a slot. -/
def Vacates (pool : Pool) (remote : Endpoint) : Prop :=
  ∀ id, Table.get? pool.index remote = some id → Table.get? pool.slots id = none

/-- An endpoint that leads to no slot leads to none when a session is taken out. -/
theorem Vacates.remove (vacates : pool.Vacates remote) (id : SessionId) :
    (pool.remove id).1.Vacates remote := by
  intro other led
  have before : Table.get? pool.index remote = some other := by
    by_cases frees : pool.Frees id remote
    · rw [(remove_of_frees frees).1] at led
      cases led
    · rwa [(remove_of_not_frees frees).1] at led
  rw [slots_remove, Table.get?_erase, vacates other before, ite_self]

/-- An endpoint that leads to no slot leads to none when the pool is cleared. -/
theorem Vacates.cleared (vacates : before.Vacates remote) (cleared : Cleared alive before after) :
    after.Vacates remote := by
  induction cleared with
  | refl => exact vacates
  | remove _ _ ih => exact ih (vacates.remove _)

/-- Looking for a live session does no more than to clear the pool. -/
theorem getLive_cleared (pool : Pool) (alive : SessionId → Bool) (remote : Endpoint) :
    Cleared alive pool (pool.getLive alive remote).1 := by
  unfold getLive
  split
  · exact .refl pool
  · split
    · split
      · exact .refl pool
      · next dead => exact .one (Bool.eq_false_iff.mpr dead)
    · exact .refl pool

/-- A live session that the endpoint leads to is found, and nothing changes. -/
theorem getLive_of_live {card : Card} (live : pool.live? alive remote = some card) :
    pool.getLive alive remote = (pool, some card) := by
  unfold live? at live
  cases led : Table.get? pool.index remote with
  | none =>
    rw [led] at live
    cases live
  | some id =>
    rw [led] at live
    dsimp only at live
    split at live
    case isFalse => cases live
    case isTrue running =>
      unfold getLive
      rw [led]
      dsimp only
      rw [live]
      dsimp only
      rw [if_pos running]

/-- If the endpoint leads to no live session none is found, and it leads to no slot afterwards. -/
theorem getLive_of_not_live (none_live : pool.live? alive remote = none) :
    (pool.getLive alive remote).2 = none ∧ (pool.getLive alive remote).1.Vacates remote := by
  unfold live? at none_live
  cases led : Table.get? pool.index remote with
  | none =>
    have same : pool.getLive alive remote = (pool, none) := by
      unfold getLive
      rw [led]
    rw [same]
    refine ⟨rfl, fun id now => ?_⟩
    rw [led] at now
    cases now
  | some id =>
    rw [led] at none_live
    cases held : Table.get? pool.slots id with
    | none =>
      have same : pool.getLive alive remote = (pool, none) := by
        unfold getLive
        rw [led]
        dsimp only
        rw [held]
      rw [same]
      refine ⟨rfl, fun other now => ?_⟩
      rw [led] at now
      rw [← Option.some.inj now, held]
    | some card =>
      have dead : ¬ alive id = true := by
        intro live
        simp [live, held] at none_live
      have same : pool.getLive alive remote = ((pool.remove id).1, none) := by
        unfold getLive
        rw [led]
        dsimp only
        rw [held]
        simp [dead]
      rw [same]
      refine ⟨rfl, fun other now => ?_⟩
      have same_id : other = id := by
        by_cases frees : pool.Frees id remote
        · rw [(remove_of_frees frees).1] at now
          cases now
        · rw [(remove_of_not_frees frees).1, led] at now
          exact (Option.some.inj now).symm
      rw [slots_remove, Table.get?_erase, if_pos same_id]

/-! ### Requests -/

/-- Puts a session in under an endpoint. -/
def register (pool : Pool) (key : Endpoint) (id : SessionId) (card : Card) : Pool :=
  { pool with
    slots := Table.insert pool.slots id card
    index := Table.insert pool.index key id
    directory := Table.insert pool.directory key card }

/-- What comes of a request for an endpoint without a live session. -/
inductive Admission {σ : Type} (alive : SessionId → Bool) (fresh : SessionId) (remote : Endpoint)
    (build : SessionId → σ → Except Error Card × σ) (before : Pool) (state : σ) :
    Insertion σ → Prop where
  /-- The sessions that run are as many as there may be. -/
  | full {after : Pool} (cleared : Cleared alive before after)
      (crowded : before.capacity ≤ (before.running alive).length) :
      Admission alive fresh remote build before state
        ⟨after, state, none, .error (.full before.name before.capacity)⟩
  /-- There is room, but the session cannot be built. -/
  | failed {after : Pool} {cause : Error} {changed : σ} (cleared : Cleared alive before after)
      (room : (before.running alive).length < before.capacity)
      (asked : build fresh state = (.error cause, changed)) :
      Admission alive fresh remote build before state
        ⟨after, changed, some fresh, .error (.build cause)⟩
  /-- There is room, and the session that is built is put in. -/
  | built {after : Pool} {card : Card} {changed : σ} (cleared : Cleared alive before after)
      (room : (before.running alive).length < before.capacity) (fits : after.size < after.capacity)
      (vacates : after.Vacates remote) (asked : build fresh state = (.ok card, changed)) :
      Admission alive fresh remote build before state
        ⟨after.register remote fresh card, changed, some fresh, .ok card⟩

/-- What comes of a request for an endpoint, in whichever way the session is asked for. -/
inductive Reply {σ : Type} (alive : SessionId → Bool) (fresh : SessionId) (remote : Endpoint)
    (build : SessionId → σ → Except Error Card × σ) (before : Pool) (state : σ) :
    Insertion σ → Prop where
  /-- There is a live session for the endpoint, and nothing is done. -/
  | live {card : Card} {outcome : Except Refusal Card}
      (found : before.live? alive remote = some card) :
      Reply alive fresh remote build before state ⟨before, state, none, outcome⟩
  /-- There is none. -/
  | admitted {insertion : Insertion σ} (none_live : before.live? alive remote = none)
      (admission : Admission alive fresh remote build before state insertion) :
      Reply alive fresh remote build before state insertion

section requests

variable {σ : Type} {fresh : SessionId} {build : SessionId → σ → Except Error Card × σ} {state : σ}

/-- A pool may be cleared before it is asked. -/
theorem Admission.of_cleared {result : Insertion σ} (cleared : Cleared alive before after)
    (admission : Admission alive fresh remote build after state result) :
    Admission alive fresh remote build before state result := by
  have running := cleared.running_eq
  obtain ⟨name, capacity⟩ := cleared.settings
  cases admission with
  | full more crowded =>
    rw [running, capacity] at crowded
    rw [name, capacity]
    exact .full (cleared.trans more) crowded
  | failed more room asked =>
    rw [running, capacity] at room
    exact .failed (cleared.trans more) room asked
  | built more room fits vacates asked =>
    rw [running, capacity] at room
    exact .built (cleared.trans more) room fits vacates asked

/-- What is done once there is no live session for the endpoint: a full pool is swept, and asked
again whether it is full. -/
theorem admission_of_vacates (vacates : pool.Vacates remote) {swept : Pool}
    (eq : swept = if pool.isFull then (pool.sweep alive).1 else pool) :
    Admission alive fresh remote build pool state
      (if swept.isFull then ⟨swept, state, none, .error (.full swept.name swept.capacity)⟩
      else
        match build fresh state with
        | (.error cause, state) => ⟨swept, state, some fresh, .error (.build cause)⟩
        | (.ok card, state) =>
          ⟨swept.register remote fresh card, state, some fresh, .ok card⟩) := by
  have cleared : Cleared alive pool swept := by
    rw [eq]
    split
    · exact sweep_cleared pool alive
    · exact .refl pool
  obtain ⟨name, capacity⟩ := cleared.settings
  split
  case isTrue full =>
    -- the pool was full before, so all that is left runs
    have crowded : pool.capacity ≤ (pool.running alive).length := by
      unfold isFull at full eq
      rw [capacity] at full
      split at eq
      · rw [eq, size_sweep] at full
        exact of_decide_eq_true full
      · next room =>
        rw [eq] at full
        exact absurd full room
    rw [name, capacity]
    exact .full cleared crowded
  case isFalse not_full =>
    have fits : swept.size < swept.capacity := by
      unfold isFull at not_full
      simpa using not_full
    have room : (pool.running alive).length < pool.capacity := by
      rw [← cleared.running_eq, ← capacity]
      exact Nat.lt_of_le_of_lt (length_running_le swept alive) fits
    split
    · next asked => exact .failed cleared room asked
    · next asked => exact .built cleared room fits (vacates.cleared cleared) asked

/-- A new session is refused while a live one has the endpoint. -/
theorem insertNew_of_live {card : Card} (live : pool.live? alive remote = some card) :
    pool.insertNew alive fresh remote build state =
      ⟨pool, state, none, .error (.taken pool.name remote)⟩ := by
  unfold insertNew
  rw [getLive_of_live live]

/-- A new session for an endpoint without a live one goes through admission. -/
theorem insertNew_admission (none_live : pool.live? alive remote = none) :
    Admission alive fresh remote build pool state
      (pool.insertNew alive fresh remote build state) := by
  have cleared := getLive_cleared pool alive remote
  have looked := getLive_of_not_live none_live
  unfold insertNew
  generalize pool.getLive alive remote = result at cleared looked
  obtain ⟨found, card⟩ := result
  obtain ⟨rfl, vacates⟩ := looked
  exact (admission_of_vacates vacates rfl).of_cleared cleared

/-- A live session of the endpoint is handed out, and none is built. -/
theorem getOrInsert_of_live {card : Card} (live : pool.live? alive remote = some card) :
    pool.getOrInsert alive fresh remote build state = ⟨pool, state, none, .ok card⟩ := by
  unfold getOrInsert
  rw [getLive_of_live live]

/-- A request for an endpoint without a live session goes through admission. -/
theorem getOrInsert_admission (none_live : pool.live? alive remote = none) :
    Admission alive fresh remote build pool state
      (pool.getOrInsert alive fresh remote build state) := by
  have cleared := getLive_cleared pool alive remote
  have looked := (getLive_of_not_live none_live).1
  unfold getOrInsert
  generalize pool.getLive alive remote = result at cleared looked
  obtain ⟨found, card⟩ := result
  obtain rfl : card = none := looked
  have still : found.live? alive remote = none := (cleared.live?_eq remote).trans none_live
  exact (insertNew_admission still).of_cleared cleared

/-- To insert a new session is refused for a live one, or goes through admission. -/
theorem insertNew_reply (pool : Pool) (remote : Endpoint) :
    Reply alive fresh remote build pool state (pool.insertNew alive fresh remote build state) := by
  cases live : pool.live? alive remote with
  | some card =>
    rw [insertNew_of_live live]
    exact .live live
  | none => exact .admitted live (insertNew_admission live)

/-- A request is answered with the live session, or goes through admission. -/
theorem getOrInsert_reply (pool : Pool) (remote : Endpoint) :
    Reply alive fresh remote build pool state
      (pool.getOrInsert alive fresh remote build state) := by
  cases live : pool.live? alive remote with
  | some card =>
    rw [getOrInsert_of_live live]
    exact .live live
  | none => exact .admitted live (getOrInsert_admission live)

end requests

end PeerNet.Pool
