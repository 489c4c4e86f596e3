import Mathlib.Data.List.Nodup
import PeerNet.Proofs.Session.PoolTables

/-!
# The ledger of a pool

A ledger lists the sessions that were ever put into a pool, each with the endpoint that it was put
in under. The three tables of a pool can be told from its ledger and from which sessions are still
in: that is what every operation keeps, whatever peers the sessions report.

* **The account of the tables** (`Registers`): a session in a slot is indexed under the endpoint it
  was put in under; index and directory agree on every endpoint. An endpoint may lead to a session
  that was taken out, but only if that session reports another peer (`Registers.stale`).
* **Every move keeps the account** (`Registers.remove`, `Registers.register`), so that clearing does
  (`Registers.cleared`).
* **Tables in step** (`Registers.inStep`): if every session reports the endpoint that it was put in
  under, index and slots are in bijection and the directory mirrors them.
-/

namespace PeerNet.Pool

/-- A session that was put into a pool. -/
structure Registration where
  /-- The endpoint that it was put in under. -/
  key : Endpoint
  /-- Its number. -/
  id : SessionId
  /-- The session. -/
  card : Card
  deriving DecidableEq, Repr

/-- The slot of a session that was put into a pool. -/
def Registration.slot (registration : Registration) : SessionId × Card :=
  (registration.id, registration.card)

/-- The session that a request has put in, if it has. -/
def Insertion.registration? {σ : Type} (insertion : Insertion σ) (key : Endpoint) :
    Option Registration :=
  match insertion.built, insertion.outcome with
  | some id, .ok card => some ⟨key, id, card⟩
  | _, _ => none

variable {pool before after : Pool} {alive : SessionId → Bool} {id : SessionId} {key : Endpoint}
  {card : Card} {ledger : List Registration}

/-! ### The account of the tables -/

/-- The tables of a pool are accounted for by a ledger. -/
structure Registers (pool : Pool) (ledger : List Registration) : Prop where
  /-- No number was given to two sessions. -/
  distinct : (ledger.map Registration.id).Nodup
  /-- A session in a slot is indexed under the endpoint that it was put in under. -/
  slot {id : SessionId} {card : Card} : Table.get? pool.slots id = some card →
    ∃ key, Table.get? pool.index key = some id ∧ ⟨key, id, card⟩ ∈ ledger
  /-- An endpoint in the index leads to a session that was put in under it, and the directory shows
  that session. -/
  index {key : Endpoint} {id : SessionId} : Table.get? pool.index key = some id →
    ∃ card, Table.get? pool.directory key = some card ∧ ⟨key, id, card⟩ ∈ ledger
  /-- An endpoint in the directory is in the index. -/
  directory {key : Endpoint} {card : Card} : Table.get? pool.directory key = some card →
    ∃ id, Table.get? pool.index key = some id
  /-- An endpoint that leads to a session without a slot is not the one that the session reports. -/
  stale {key : Endpoint} {id : SessionId} {card : Card} : Table.get? pool.index key = some id →
    Table.get? pool.slots id = none → ⟨key, id, card⟩ ∈ ledger → card.remote ≠ key

/-- A pool that has just been made tells that no session was put in. -/
theorem empty_registers (name : String) (capacity : Nat) : Registers (empty name capacity) [] where
  distinct := List.nodup_nil
  slot held := nomatch held
  index led := nomatch led
  directory shown := nomatch shown
  stale led := nomatch led

/-- A number stands for one session, which was put in under one endpoint. -/
theorem Registers.same (registers : pool.Registers ledger) {other : Endpoint} {other_card : Card}
    (mem : ⟨key, id, card⟩ ∈ ledger) (mem_other : ⟨other, id, other_card⟩ ∈ ledger) :
    key = other ∧ card = other_card := by
  have same := List.inj_on_of_nodup_map registers.distinct mem mem_other rfl
  exact ⟨congrArg Registration.key same, congrArg Registration.card same⟩

/-- A number is indexed under one endpoint. -/
theorem Registers.key_unique (registers : pool.Registers ledger) {other : Endpoint}
    (led : Table.get? pool.index key = some id)
    (led_other : Table.get? pool.index other = some id) :
    other = key := by
  obtain ⟨_, _, mem⟩ := registers.index led
  obtain ⟨_, _, mem_other⟩ := registers.index led_other
  exact (registers.same mem_other mem).1

/-- The directory shows the session in the slot that the index leads to. -/
theorem Registers.shows (registers : pool.Registers ledger)
    (led : Table.get? pool.index key = some id) (held : Table.get? pool.slots id = some card) :
    Table.get? pool.directory key = some card := by
  obtain ⟨shown, directory, mem_shown⟩ := registers.index led
  obtain ⟨_, _, mem⟩ := registers.slot held
  rw [directory, (registers.same mem_shown mem).2]

/-! ### Every move keeps the account -/

/-- A session is taken out. -/
theorem Registers.remove (registers : pool.Registers ledger) (id : SessionId) :
    (pool.remove id).1.Registers ledger := by
  -- what an endpoint leads to afterwards is what it led to before
  have led_before {key : Endpoint} {other : SessionId}
      (led : Table.get? (pool.remove id).1.index key = some other) :
      ¬ pool.Frees id key ∧ Table.get? pool.index key = some other := by
    by_cases frees : pool.Frees id key
    · rw [(remove_of_frees frees).1] at led
      cases led
    · exact ⟨frees, (remove_of_not_frees frees).1 ▸ led⟩
  constructor
  case distinct => exact registers.distinct
  case slot =>
    intro other card held
    rw [slots_remove, Table.get?_erase] at held
    split at held
    · cases held
    · next ne =>
      obtain ⟨key, led, mem⟩ := registers.slot held
      refine ⟨key, ?_, mem⟩
      have kept : ¬ pool.Frees id key := by
        intro frees
        rw [frees.1] at led
        exact ne (Option.some.inj led).symm
      rw [(remove_of_not_frees kept).1, led]
  case index =>
    intro key other led
    obtain ⟨kept, led⟩ := led_before led
    rw [(remove_of_not_frees kept).2]
    exact registers.index led
  case directory =>
    intro key card shown
    by_cases frees : pool.Frees id key
    · rw [(remove_of_frees frees).2] at shown
      cases shown
    · rw [(remove_of_not_frees frees).2] at shown
      rw [(remove_of_not_frees frees).1]
      exact registers.directory shown
  case stale =>
    intro key other card led gone mem
    obtain ⟨kept, led⟩ := led_before led
    rw [slots_remove, Table.get?_erase] at gone
    cases held : Table.get? pool.slots other with
    | none => exact registers.stale led held mem
    | some held_card =>
      -- the session that was taken out just now: its endpoint would have been freed
      have same_id : other = id := by
        by_contra ne
        rw [if_neg ne, held] at gone
        cases gone
      obtain ⟨_, _, mem_held⟩ := registers.slot held
      obtain ⟨rfl, rfl⟩ := registers.same mem mem_held
      intro reports
      exact kept ⟨same_id ▸ led, card, same_id ▸ held, reports⟩

/-- Clearing a pool keeps the account, as every session that is taken out does. -/
theorem Registers.cleared (registers : before.Registers ledger)
    (cleared : Cleared alive before after) : after.Registers ledger := by
  induction cleared with
  | refl => exact registers
  | remove _ _ ih => exact ih (registers.remove _)

/-- A session is put in, under a number that no other has had and an endpoint without a slot. -/
theorem Registers.register (registers : pool.Registers ledger)
    (fresh : id ∉ ledger.map Registration.id) (vacates : pool.Vacates key) (card : Card) :
    (pool.register key id card).Registers (⟨key, id, card⟩ :: ledger) := by
  have not_led {other : Endpoint} (led : Table.get? pool.index other = some id) : False := by
    obtain ⟨_, _, mem⟩ := registers.index led
    exact fresh (List.mem_map.mpr ⟨_, mem, rfl⟩)
  constructor
  case distinct => exact List.nodup_cons.mpr ⟨fresh, registers.distinct⟩
  case slot =>
    intro other other_card held
    simp only [Pool.register, Table.get?_insert] at held ⊢
    split at held
    · next same =>
      cases held
      exact ⟨key, by rw [if_pos rfl, same], by rw [same]; exact List.mem_cons_self⟩
    · obtain ⟨other_key, led, mem⟩ := registers.slot held
      have ne : other_key ≠ key := by
        rintro rfl
        rw [vacates other led] at held
        cases held
      exact ⟨other_key, by rw [if_neg ne, led], List.mem_cons_of_mem _ mem⟩
  case index =>
    intro other other_id led
    simp only [Pool.register, Table.get?_insert] at led ⊢
    split at led
    · next same =>
      cases led
      exact ⟨card, by rw [if_pos same], by rw [same]; exact List.mem_cons_self⟩
    · next ne =>
      obtain ⟨shown, directory, mem⟩ := registers.index led
      exact ⟨shown, by rw [if_neg ne, directory], List.mem_cons_of_mem _ mem⟩
  case directory =>
    intro other shown directory
    simp only [Pool.register, Table.get?_insert] at directory ⊢
    split at directory
    · next same => exact ⟨id, by rw [if_pos same]⟩
    · next ne =>
      rw [if_neg ne]
      exact registers.directory directory
  case stale =>
    intro other other_id other_card led gone mem
    simp only [Pool.register, Table.get?_insert] at led gone
    split at led
    · cases led
      rw [if_pos rfl] at gone
      cases gone
    · have ne : other_id ≠ id := by
        rintro rfl
        exact not_led led
      rw [if_neg ne] at gone
      rcases List.mem_cons.mp mem with same | mem
      · exact absurd (congrArg Registration.id same) ne
      · exact registers.stale led gone mem

/-! ### Tables in step -/

/-- The three tables of a pool are in step. -/
structure InStep (pool : Pool) : Prop where
  /-- An endpoint in the index leads to a slot, whose session has it as its peer. -/
  leads {key : Endpoint} {id : SessionId} : Table.get? pool.index key = some id →
    ∃ card, Table.get? pool.slots id = some card ∧ card.remote = key
  /-- A number is indexed under one endpoint only. -/
  injective {key other : Endpoint} {id : SessionId} : Table.get? pool.index key = some id →
    Table.get? pool.index other = some id → other = key
  /-- A session in a slot is indexed under its peer. -/
  covers {id : SessionId} {card : Card} : Table.get? pool.slots id = some card →
    Table.get? pool.index card.remote = some id
  /-- The directory has the endpoints of the index, and shows the session in the slot of each. -/
  mirrors (key : Endpoint) : Table.get? pool.directory key =
    (Table.get? pool.index key).bind fun id => Table.get? pool.slots id

/-- If every session reports the endpoint that it was put in under, the tables are in step. -/
theorem Registers.inStep (registers : pool.Registers ledger)
    (own : ∀ registration ∈ ledger, registration.card.remote = registration.key) : pool.InStep := by
  have leads {key : Endpoint} {id : SessionId} (led : Table.get? pool.index key = some id) :
      ∃ card, Table.get? pool.slots id = some card ∧ card.remote = key := by
    obtain ⟨_, _, mem⟩ := registers.index led
    cases held : Table.get? pool.slots id with
    | none => exact absurd (own _ mem) (registers.stale led held mem)
    | some card =>
      obtain ⟨_, _, mem_held⟩ := registers.slot held
      obtain ⟨rfl, rfl⟩ := registers.same mem_held mem
      exact ⟨card, rfl, own _ mem⟩
  constructor
  case leads => exact leads
  case injective => exact fun led led_other => registers.key_unique led led_other
  case covers =>
    intro id card held
    obtain ⟨key, led, mem⟩ := registers.slot held
    exact own _ mem ▸ led
  case mirrors =>
    intro key
    cases led : Table.get? pool.index key with
    | some id =>
      obtain ⟨card, held, _⟩ := leads led
      rw [registers.shows led held, Option.bind_some, held]
    | none =>
      cases shown : Table.get? pool.directory key with
      | none => rfl
      | some card =>
        obtain ⟨id, now⟩ := registers.directory shown
        rw [led] at now
        cases now

end PeerNet.Pool
