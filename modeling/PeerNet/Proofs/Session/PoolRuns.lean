import PeerNet.Proofs.Session.PoolLedger

/-!
# Pools over their whole lives

A pool is asked for sessions, swept, drained, and told to take sessions out, in any order, while its
sessions end whenever they like. A history is a pool with what became of it so far.

* **One operation** (`Sound.perform`) keeps the account: the tables are told by the ledger, the pool
  holds no more than its capacity, and every session that was put in is in a slot or was taken out.
* **Any run** (`run_sound`) does.
* **Tables in step** (`run_inOrder`): if every session reports the endpoint that it is put in under,
  index and slots are in bijection, the directory mirrors them, and no session is lost or taken out
  twice.
* **The directory in general** (`run_shows`): whatever the sessions report, an entry of the
  directory is a session that still has a slot, or one that reports another peer than the endpoint
  that it was put in under. Such an entry outlives its session (`removed_session_shown`).
-/

namespace PeerNet.Pool

/-! ### Operations -/

/-- An operation on a pool. A builder is told the number of the session that it builds. -/
inductive Operation where
  /-- Looks for the live session for an endpoint. -/
  | getLive (remote : Endpoint)
  /-- Finds or builds the live session for an endpoint. -/
  | getOrInsert (remote : Endpoint) (build : SessionId → Except Error Card)
  /-- Builds the session for an endpoint that has no live one. -/
  | insertNew (remote : Endpoint) (build : SessionId → Except Error Card)
  /-- Takes out the sessions that are not alive. -/
  | sweep
  /-- Takes out a session, if it is there. -/
  | remove (id : SessionId)
  /-- Takes out all sessions. -/
  | drain
  /-- A number is given to a session that has nothing to do with the pool. -/
  | takeElsewhere

/-- An operation, with the sessions that are alive while it is done. -/
structure Event where
  /-- Whether a session is alive. -/
  alive : SessionId → Bool
  /-- The operation. -/
  operation : Operation

/-- Whether the sessions that an operation builds report the endpoint that they are put in under. -/
def Operation.BuildsOwn : Operation → Prop
  | .getOrInsert remote build | .insertNew remote build =>
    ∀ id card, build id = .ok card → card.remote = remote
  | .getLive _ | .sweep | .remove _ | .drain | .takeElsewhere => True

/-! ### Histories -/

/-- A pool with what became of it so far. -/
structure History where
  /-- The pool. -/
  pool : Pool
  /-- The numbers that were given out, the last one first. -/
  taken : List SessionId
  /-- The sessions that were put in, the last one first. -/
  ledger : List Registration
  /-- The slots that were emptied, those of the last operation first. -/
  released : List (SessionId × Card)

namespace History

/-- A pool without a session, to which nothing has been done. -/
def start (name : String) (capacity : Nat) : History := ⟨.empty name capacity, [], [], []⟩

/-- The number of the next session. -/
def next (history : History) : SessionId := ⟨history.taken.length + 1⟩

/-- The pool has become `pool`; the slots that it lacks were emptied. -/
def become (history : History) (pool : Pool) : History :=
  { history with
    pool := pool
    released := history.pool.slots.filter (fun slot => slot ∉ pool.slots) ++ history.released }

/-- A number is given out. -/
def take (history : History) : History :=
  { history with taken := history.next :: history.taken }

/-- A request for an endpoint has been answered. -/
def record {σ : Type} (history : History) (key : Endpoint) (insertion : Insertion σ) : History :=
  { history.become insertion.pool with
    taken := insertion.built.toList ++ history.taken
    ledger := (insertion.registration? key).toList ++ history.ledger }

/-- Does an operation. -/
def perform (history : History) (alive : SessionId → Bool) : Operation → History
  | .getLive remote => history.become (history.pool.getLive alive remote).1
  | .getOrInsert remote build =>
    history.record remote
      (history.pool.getOrInsert alive history.next remote (fun id state => (build id, state)) ())
  | .insertNew remote build =>
    history.record remote
      (history.pool.insertNew alive history.next remote (fun id state => (build id, state)) ())
  | .sweep => history.become (history.pool.sweep alive).1
  | .remove id => history.become (history.pool.remove id).1
  | .drain => history.become history.pool.drain.1
  | .takeElsewhere => history.take

/-- Does one operation after the other. -/
def run (history : History) (events : List Event) : History :=
  events.foldl (fun history event => history.perform event.alive event.operation) history

/-! ### The account of a history -/

/-- A history in which everything is accounted for. -/
structure Sound (name : String) (capacity : Nat) (history : History) : Prop where
  /-- The ledger tells the tables. -/
  registers : history.pool.Registers history.ledger
  /-- The sessions that were put in have numbers that were given out. -/
  known : ∀ registration ∈ history.ledger, registration.id ∈ history.taken
  /-- No number past their count was given out. -/
  counted : ∀ id ∈ history.taken, id.number ≤ history.taken.length
  /-- The pool has its name. -/
  name : history.pool.name = name
  /-- The pool has its capacity. -/
  capacity : history.pool.capacity = capacity
  /-- The pool holds no more sessions than it may. -/
  fits : history.pool.size ≤ history.pool.capacity
  /-- Every session that was put in is in its slot, or its slot was emptied. -/
  account : (history.ledger.map Registration.slot).Perm (history.pool.slots ++ history.released)

variable {name : String} {capacity : Nat} {history : History} {alive : SessionId → Bool}

/-- A history that has just begun has nothing to account for. -/
theorem start_sound (name : String) (capacity : Nat) :
    Sound name capacity (start name capacity) where
  registers := empty_registers name capacity
  known := nofun
  counted := nofun
  name := rfl
  capacity := rfl
  fits := Nat.zero_le _
  account := List.Perm.refl []

/-- The next number has not been given out. -/
theorem Sound.next_not_mem (sound : Sound name capacity history) :
    history.next ∉ history.taken := by
  intro mem
  have le := sound.counted _ mem
  simp only [next] at le
  omega

/-- A number is given out. -/
theorem Sound.take (sound : Sound name capacity history) : Sound name capacity history.take where
  registers := sound.registers
  known := fun registration mem => List.mem_cons_of_mem _ (sound.known registration mem)
  counted := by
    intro id mem
    rcases List.mem_cons.mp mem with rfl | mem
    · simp [History.take, next]
    · have le := sound.counted id mem
      simp only [History.take, List.length_cons]
      omega
  name := sound.name
  capacity := sound.capacity
  fits := sound.fits
  account := sound.account

/-- A session in a slot has a number that was given out. -/
theorem Sound.mem_taken (sound : Sound name capacity history) {slot : SessionId × Card}
    (mem : slot ∈ history.pool.slots) : slot.1 ∈ history.taken := by
  have put_in := sound.account.mem_iff.mpr (List.mem_append_left history.released mem)
  obtain ⟨registration, in_ledger, rfl⟩ := List.mem_map.mp put_in
  exact sound.known registration in_ledger

/-- No session in a slot has the next number. -/
theorem Sound.next_not_held (sound : Sound name capacity history) :
    Table.get? history.pool.slots history.next = none := by
  cases held : Table.get? history.pool.slots history.next with
  | none => rfl
  | some card => exact absurd (sound.mem_taken (Table.mem_of_get? held)) sound.next_not_mem

/-- Slots that are chosen from others, and those that are not chosen, make up the others. -/
theorem perm_of_filter {slots left : List (SessionId × Card)} {kept : SessionId × Card → Bool}
    (eq : left = slots.filter kept) :
    slots.Perm (left ++ slots.filter fun slot => slot ∉ left) := by
  have rest : slots.filter (fun slot => decide (slot ∉ left)) =
      slots.filter fun slot => !kept slot := by
    apply List.filter_congr
    intro slot mem
    simp [eq, mem]
  rw [rest, eq]
  exact (List.filter_append_perm kept slots).symm

/-- Sessions are taken out. -/
theorem Sound.cleared (sound : Sound name capacity history) {pool : Pool}
    (cleared : Cleared alive history.pool pool) : Sound name capacity (history.become pool) := by
  obtain ⟨same_name, same_capacity⟩ := cleared.settings
  obtain ⟨kept, _, slots⟩ := cleared.exists_filter
  constructor
  case registers => exact sound.registers.cleared cleared
  case known => exact sound.known
  case counted => exact sound.counted
  case name => exact same_name.trans sound.name
  case capacity => exact same_capacity.trans sound.capacity
  case fits =>
    show pool.size ≤ pool.capacity
    have fewer : pool.size ≤ history.pool.size := by
      unfold size
      rw [slots]
      exact List.length_filter_le _ _
    rw [same_capacity]
    exact Nat.le_trans fewer sound.fits
  case account =>
    show (history.ledger.map Registration.slot).Perm
      (pool.slots ++
        (history.pool.slots.filter (fun slot => slot ∉ pool.slots) ++ history.released))
    rw [← List.append_assoc]
    exact sound.account.trans ((perm_of_filter slots).append_right history.released)

/-- All sessions are taken out. -/
theorem Sound.drained (sound : Sound name capacity history) :
    Sound name capacity (history.become history.pool.drain.1) where
  registers := by
    refine ⟨sound.registers.distinct, ?_, ?_, ?_, ?_⟩ <;> exact fun found => nomatch found
  known := sound.known
  counted := sound.counted
  name := sound.name
  capacity := sound.capacity
  fits := Nat.zero_le _
  account := by
    simpa [become, drain, empty, List.filter_eq_self.mpr] using sound.account

/-- A session is put in, under the next number and an endpoint without a slot. -/
theorem Sound.registered (sound : Sound name capacity history) {pool : Pool}
    (cleared : Cleared alive history.pool pool) {key : Endpoint} (fits : pool.size < pool.capacity)
    (vacates : pool.Vacates key) (card : Card) :
    Sound name capacity
      { (history.take.become (pool.register key history.next card)) with
        ledger := ⟨key, history.next, card⟩ :: history.ledger } := by
  have after := (sound.cleared cleared).take
  have fresh : history.next ∉ history.ledger.map Registration.id := by
    intro mem
    obtain ⟨registration, mem, eq⟩ := List.mem_map.mp mem
    exact sound.next_not_mem (eq ▸ sound.known registration mem)
  have put : (pool.register key history.next card).slots = (history.next, card) :: pool.slots := by
    have absent : Table.get? pool.slots history.next = none :=
      (sound.cleared cleared).next_not_held
    simp only [register, Table.insert, Table.erase_of_get?_eq_none absent]
  constructor
  case registers => exact after.registers.register fresh vacates card
  case known =>
    intro registration mem
    rcases List.mem_cons.mp mem with rfl | mem
    · exact List.mem_cons_self
    · exact after.known registration mem
  case counted => exact after.counted
  case name => exact after.name
  case capacity => exact after.capacity
  case fits =>
    show (pool.register key history.next card).slots.length ≤ pool.capacity
    rw [put]
    exact fits
  case account =>
    have same : (history.pool.slots.filter fun slot =>
        decide (slot ∉ (pool.register key history.next card).slots)) =
          history.pool.slots.filter fun slot => decide (slot ∉ pool.slots) := by
      apply List.filter_congr
      intro slot mem
      have ne : slot ≠ (history.next, card) := by
        rintro rfl
        exact sound.next_not_mem (sound.mem_taken mem)
      simp [put, ne]
    show (⟨key, history.next, card⟩ :: history.ledger).map Registration.slot |>.Perm
      ((pool.register key history.next card).slots ++
        (history.pool.slots.filter (fun slot =>
          decide (slot ∉ (pool.register key history.next card).slots)) ++ history.released))
    rw [same, put]
    exact after.account.cons _

/-! ### One operation -/

/-- A request is answered. -/
theorem Sound.record (sound : Sound name capacity history) {σ : Type} {remote : Endpoint}
    {build : SessionId → σ → Except Error Card × σ} {state : σ} {insertion : Insertion σ}
    (reply : Reply alive history.next remote build history.pool state insertion) :
    Sound name capacity (history.record remote insertion) := by
  cases reply with
  | live =>
    have unchanged : Cleared alive history.pool history.pool := .refl history.pool
    exact sound.cleared unchanged
  | admitted _ admission =>
    cases admission with
    | full cleared => exact sound.cleared cleared
    | failed cleared => exact (sound.cleared cleared).take
    | built cleared _ fits vacates => exact sound.registered cleared fits vacates _

/-- One operation keeps the account. -/
theorem Sound.perform (sound : Sound name capacity history) (alive : SessionId → Bool)
    (operation : Operation) : Sound name capacity (history.perform alive operation) := by
  cases operation with
  | getLive remote => exact sound.cleared (getLive_cleared history.pool alive remote)
  | getOrInsert remote build => exact sound.record (getOrInsert_reply history.pool remote)
  | insertNew remote build => exact sound.record (insertNew_reply history.pool remote)
  | sweep => exact sound.cleared (sweep_cleared history.pool alive)
  | remove id =>
    -- taken out, whether it is alive or not
    have taken : Cleared (fun _ => false) history.pool (history.pool.remove id).1 := .one rfl
    exact sound.cleared taken
  | drain => exact sound.drained
  | takeElsewhere => exact sound.take

/-- Every run keeps the account. -/
theorem Sound.run (sound : Sound name capacity history) (events : List Event) :
    Sound name capacity (history.run events) := by
  unfold History.run
  induction events generalizing history with
  | nil => exact sound
  | cons event rest ih =>
    rw [List.foldl_cons]
    exact ih (sound.perform event.alive event.operation)

/-- Whatever is asked of a pool, everything in its history is accounted for. -/
theorem run_sound (name : String) (capacity : Nat) (events : List Event) :
    Sound name capacity ((start name capacity).run events) :=
  (start_sound name capacity).run events

/-! ### Sessions that report the endpoint that they are put in under -/

/-- A history in which no session is lost. -/
structure InOrder (history : History) : Prop where
  /-- The tables are in step. -/
  inStep : history.pool.InStep
  /-- Nothing changes when a session is to be taken out that has no slot. -/
  late (id : SessionId) : Table.get? history.pool.slots id = none →
    history.pool.remove id = (history.pool, none)
  /-- A sweep leaves the sessions that are alive, and says how many the others were. -/
  sweeps (alive : SessionId → Bool) :
    (history.pool.sweep alive).1.slots = (history.pool.slots.filter fun slot => alive slot.1) ∧
      (history.pool.sweep alive).2 = (history.pool.slots.filter fun slot => !alive slot.1).length
  /-- No number was given to two sessions that were put in. -/
  distinct : (history.ledger.map Registration.id).Nodup
  /-- Every session that was put in is in its slot, or its slot was emptied once. -/
  account : (history.ledger.map Registration.slot).Perm (history.pool.slots ++ history.released)

/-- The sessions in a ledger report the endpoints that they were put in under. -/
def Own (history : History) : Prop :=
  ∀ registration ∈ history.ledger, registration.card.remote = registration.key

/-- A request that builds a session for the endpoint that it reports keeps the ledger so. -/
theorem Own.record (own : history.Own) {remote : Endpoint}
    {build : SessionId → Except Error Card} (builds : ∀ id card, build id = .ok card →
      card.remote = remote) {insertion : Insertion Unit}
    (reply : Reply alive history.next remote (fun id state => (build id, state))
      history.pool () insertion) : (history.record remote insertion).Own := by
  cases reply with
  | live => exact own
  | admitted _ admission =>
    cases admission with
    | full => exact own
    | failed => exact own
    | built _ _ _ _ asked =>
      intro registration mem
      rcases List.mem_cons.mp mem with rfl | mem
      · exact builds _ _ (congrArg Prod.fst asked)
      · exact own registration mem

/-- An operation whose sessions report their endpoints keeps the ledger so. -/
theorem Own.perform (own : history.Own) (alive : SessionId → Bool) {operation : Operation}
    (builds : operation.BuildsOwn) : (history.perform alive operation).Own := by
  cases operation with
  | getOrInsert remote build => exact own.record builds (getOrInsert_reply history.pool remote)
  | insertNew remote build => exact own.record builds (insertNew_reply history.pool remote)
  | getLive | sweep | remove | drain | takeElsewhere => exact own

/-- If all sessions that are built report their endpoints, those in the ledger do. -/
theorem Own.run (own : history.Own) {events : List Event}
    (builds : ∀ event ∈ events, event.operation.BuildsOwn) : (history.run events).Own := by
  unfold History.run
  induction events generalizing history with
  | nil => exact own
  | cons event rest ih =>
    rw [List.foldl_cons]
    apply ih (own.perform event.alive (builds event List.mem_cons_self))
    exact fun other mem => builds other (List.mem_cons_of_mem _ mem)

/-- **The tables of a pool stay in step** through every run, if every session reports the endpoint
that it is put in under: index and slots are in bijection, the directory mirrors them, a session
that is taken out late takes nothing with it, and every session that was put in has its slot or was
taken out once. -/
theorem run_inOrder (name : String) (capacity : Nat) (events : List Event)
    (builds : ∀ event ∈ events, event.operation.BuildsOwn) :
    ((start name capacity).run events).InOrder := by
  have sound := run_sound name capacity events
  have own : ((start name capacity).run events).Own := by
    apply Own.run _ builds
    exact fun registration mem => nomatch mem
  constructor
  case inStep => exact sound.registers.inStep own
  case late => exact fun id absent => remove_of_absent absent
  case sweeps => exact fun alive => ⟨slots_sweep _ alive, List.length_map _⟩
  case distinct => exact sound.registers.distinct
  case account => exact sound.account

/-- Builds a session that reports a peer. -/
def buildReporting (remote : Endpoint) (id : SessionId) : Except Error Card := .ok ⟨id, remote⟩

/-- A session ends and is replaced, and is taken out late; another one is swept. -/
def replaceAndSweep : List Event :=
  [⟨fun _ => true, .getOrInsert (.localhost 1) (buildReporting (.localhost 1))⟩,
    ⟨fun _ => true, .insertNew (.localhost 2) (buildReporting (.localhost 2))⟩,
    ⟨fun id => id ≠ ⟨1⟩, .getOrInsert (.localhost 1) (buildReporting (.localhost 1))⟩,
    ⟨fun id => id ≠ ⟨1⟩, .remove ⟨1⟩⟩,
    ⟨fun id => id = ⟨3⟩, .sweep⟩]

/-- The session that replaced another one is left, and the others were taken out once each. -/
theorem run_inOrder_of_replaced :
    (∀ event ∈ replaceAndSweep, event.operation.BuildsOwn) ∧
      ((start "pool" 2).run replaceAndSweep).pool.slots = [(⟨3⟩, ⟨⟨3⟩, .localhost 1⟩)] ∧
      ((start "pool" 2).run replaceAndSweep).released.map Prod.fst = [⟨2⟩, ⟨1⟩] ∧
      ((start "pool" 2).run replaceAndSweep).InOrder := by
  have builds : ∀ event ∈ replaceAndSweep, event.operation.BuildsOwn := by
    intro event mem
    simp only [replaceAndSweep, List.mem_cons, List.not_mem_nil, or_false] at mem
    rcases mem with rfl | rfl | rfl | rfl | rfl
    case inr.inr.inr.inl | inr.inr.inr.inr => exact trivial
    all_goals
      intro id card built
      cases built
      rfl
  exact ⟨builds, by decide +kernel, by decide +kernel, run_inOrder "pool" 2 replaceAndSweep builds⟩

/-! ### The directory, whatever the sessions report -/

/-- The endpoints of a pool that outlive their sessions are those that the sessions do not report.
-/
structure Shows (pool : Pool) : Prop where
  /-- The directory shows a session that the index leads to: one that has its slot, or one that has
  lost it and reports another endpoint. -/
  directory {key : Endpoint} {card : Card} : Table.get? pool.directory key = some card →
    ∃ id, Table.get? pool.index key = some id ∧
      (Table.get? pool.slots id = some card ∨
        Table.get? pool.slots id = none ∧ card.remote ≠ key)
  /-- The index leads to a session that has its slot, or to one that has lost it and reports another
  endpoint. -/
  index {key : Endpoint} {id : SessionId} : Table.get? pool.index key = some id →
    ∃ card, Table.get? pool.directory key = some card ∧
      (Table.get? pool.slots id = some card ∨
        Table.get? pool.slots id = none ∧ card.remote ≠ key)
  /-- When a session is taken out the directory ceases to show it, if and only if the session
  reports the endpoint. -/
  drops {key : Endpoint} {id : SessionId} {card : Card} : Table.get? pool.index key = some id →
    Table.get? pool.slots id = some card →
      (Table.get? (pool.remove id).1.directory key = none ↔ card.remote = key)

/-- An endpoint that leads to a session is dropped with it if the session reports the endpoint. -/
theorem directory_remove_iff {pool : Pool} {ledger : List Registration}
    (registers : pool.Registers ledger) {key : Endpoint} {id : SessionId} {card : Card}
    (led : Table.get? pool.index key = some id) (held : Table.get? pool.slots id = some card) :
    Table.get? (pool.remove id).1.directory key = none ↔ card.remote = key := by
  constructor
  · intro dropped
    by_contra reports
    have kept : ¬ pool.Frees id key := by
      rintro ⟨_, other, held_other, eq⟩
      rw [held] at held_other
      cases held_other
      exact reports eq
    rw [(remove_of_not_frees kept).2, registers.shows led held] at dropped
    cases dropped
  · intro reports
    exact (remove_of_frees ⟨led, card, held, reports⟩).2

/-- **What the directory shows**: after every run, whatever the sessions report, it shows a session
that the index leads to and that has its slot, or one that has lost its slot and reports another
endpoint than the one that it was put in under. -/
theorem run_shows (name : String) (capacity : Nat) (events : List Event) :
    Shows ((start name capacity).run events).pool := by
  have registers := (run_sound name capacity events).registers
  generalize ((start name capacity).run events).pool = pool at registers
  have index {key : Endpoint} {id : SessionId} (led : Table.get? pool.index key = some id) :
      ∃ card, Table.get? pool.directory key = some card ∧
        (Table.get? pool.slots id = some card ∨
          Table.get? pool.slots id = none ∧ card.remote ≠ key) := by
    obtain ⟨card, shown, mem⟩ := registers.index led
    refine ⟨card, shown, ?_⟩
    cases held : Table.get? pool.slots id with
    | none => exact .inr ⟨rfl, registers.stale led held mem⟩
    | some other =>
      obtain ⟨_, _, mem_other⟩ := registers.slot held
      rw [(registers.same mem_other mem).2]
      exact .inl rfl
  constructor
  case index => exact index
  case drops => exact fun led held => directory_remove_iff registers led held
  case directory =>
    intro key card shown
    obtain ⟨id, led⟩ := registers.directory shown
    obtain ⟨other, shown_other, kept⟩ := index led
    rw [shown] at shown_other
    cases shown_other
    exact ⟨id, led, kept⟩

/-- A session is put in under one endpoint, reports another one, and is taken out. -/
def putInAndTakeOut : List Event :=
  [⟨fun _ => true, .getOrInsert (.localhost 1) (buildReporting (.localhost 2))⟩,
    ⟨fun _ => true, .remove ⟨1⟩⟩]

/-- **The directory may show a session that was taken out**: one that reports another peer than the
endpoint that it was put in under. -/
theorem removed_session_shown :
    ¬ ∀ (name : String) (capacity : Nat) (events : List Event) (key : Endpoint) (card : Card),
      Table.get? ((start name capacity).run events).pool.directory key = some card →
        ∃ id, Table.get? ((start name capacity).run events).pool.index key = some id ∧
          Table.get? ((start name capacity).run events).pool.slots id = some card := by
  intro all
  have shown : Table.get? ((start "pool" 2).run putInAndTakeOut).pool.directory (.localhost 1) =
      some ⟨⟨1⟩, .localhost 2⟩ := by
    decide +kernel
  have empty : ((start "pool" 2).run putInAndTakeOut).pool.slots = [] := by
    decide +kernel
  obtain ⟨id, _, held⟩ := all "pool" 2 putInAndTakeOut (.localhost 1) _ shown
  rw [empty] at held
  cases held

end History

end PeerNet.Pool
