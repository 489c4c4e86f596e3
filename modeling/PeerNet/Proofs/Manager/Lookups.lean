import PeerNet.Proofs.Manager.Constructions
import PeerNet.Proofs.Manager.Departures

/-!
# What a manager returns

A manager whose sessions have the endpoints as their peers that they are built for returns no
others, and never holds more than it may, whatever happens to it: a stop, or reports about
sessions that have not ended, make no difference.

* **The account** (`Housed`): the sessions that were built tell the tables of the pool, which
  holds no more of them than it may.
* **One step** (`Housed.step`) keeps the account.
* **What is returned** (`Housed.good_of_returned`) is the card of a session that is alive at that
  moment, shows this card, and has the endpoint as its peer that the request asks for.
-/

namespace PeerNet

variable {σ : Type}

/-- What a manager counts on when it hands cards out. `shown` says which sessions show which
cards. -/
structure Backend.Shows (backend : Backend σ) (issued : σ → SessionId → Bool)
    (shown : σ → Card → Prop) : Prop where
  /-- A card bears the number and the endpoint that its session is built for. -/
  labels {state : σ} {id : SessionId} {remote : Endpoint} {card : Card} :
    (backend.build id remote state).1 = .ok card → card = ⟨id, remote⟩
  /-- The session shows its card once it is built. -/
  built {state : σ} {remote : Endpoint} {card : Card} :
    (Manager.builder backend remote (backend.takeId state).1 state).1 = .ok card →
      shown (Manager.builder backend remote (backend.takeId state).1 state).2 card
  /-- It goes on to do so. -/
  keeps (card : Card) : backend.Keeps fun state => shown state card
  /-- Only cards of sessions that were built are shown. -/
  known {state : σ} {card : Card} : shown state card → issued state card.id = true

/-! ### Pools -/

namespace Pool

variable {pool : Pool} {alive : SessionId → Bool} {key : Endpoint} {id : SessionId} {card : Card}
  {ledger : List Registration}

/-- All sessions are taken out. -/
theorem Registers.drain (registers : pool.Registers ledger) : pool.drain.1.Registers ledger := by
  refine ⟨registers.distinct, ?_, ?_, ?_, ?_⟩ <;> exact fun found => nomatch found

/-- Taking sessions out does not make a pool larger. -/
theorem Cleared.size_le {after : Pool} (cleared : Cleared alive pool after) :
    after.size ≤ pool.size := by
  obtain ⟨kept, -, slots⟩ := cleared.exists_filter
  unfold size
  rw [slots]
  exact List.length_filter_le _ _

/-- A registration makes a pool larger by one session at most. -/
theorem size_register_le (pool : Pool) (key : Endpoint) (id : SessionId) (card : Card) :
    (pool.register key id card).size ≤ pool.size + 1 := by
  simp only [size, register, Table.insert, List.length_cons]
  exact Nat.succ_le_succ (List.length_filter_le _ _)

/-- The live session for an endpoint was put in under the endpoint. -/
theorem Registers.mem_of_live? (registers : pool.Registers ledger)
    (found : pool.live? alive key = some card) :
    ∃ id, alive id = true ∧ ⟨key, id, card⟩ ∈ ledger := by
  unfold live? at found
  rcases led : Table.get? pool.index key with _ | id
  · rw [led] at found
    cases found
  rw [led] at found
  dsimp only at found
  split at found
  case isFalse => cases found
  case isTrue live =>
    obtain ⟨_, _, built⟩ := registers.index led
    obtain ⟨_, _, built_held⟩ := registers.slot found
    obtain ⟨rfl, rfl⟩ := registers.same built_held built
    exact ⟨id, live, built⟩

/-- What the directory shows for an endpoint was put in under the endpoint. -/
theorem Registers.mem_of_shown (registers : pool.Registers ledger)
    (shown : Table.get? pool.directory key = some card) : ∃ id, ⟨key, id, card⟩ ∈ ledger := by
  obtain ⟨id, led⟩ := registers.directory shown
  obtain ⟨other, same, built⟩ := registers.index led
  obtain rfl : card = other := Option.some.inj (shown.symm.trans same)
  exact ⟨id, built⟩

end Pool

namespace Manager

variable {backend : Backend σ} {issued : σ → SessionId → Bool} {shown : σ → Card → Prop}
  {manager after : Manager} {state changed : σ} {ledger : List Pool.Registration} {room : Nat}

/-! ### The account -/

/-- The sessions that a manager has built are accounted for, and show the cards that it hands out.
-/
structure Housed (shown : σ → Card → Prop) (room : Nat) (manager : Manager) (state : σ)
    (ledger : List Pool.Registration) : Prop where
  /-- The jobs on the strand are in line with the requests. -/
  filed : manager.Filed
  /-- The sessions that were built tell the tables of the pool. -/
  registers : manager.pool.Registers ledger
  /-- Their cards bear the numbers and the endpoints that they were built for. -/
  own : ∀ registration ∈ ledger, registration.card = ⟨registration.id, registration.key⟩
  /-- They show them. -/
  shows : ∀ registration ∈ ledger, shown state registration.card
  /-- The pool has room for so many sessions. -/
  capacity : manager.pool.capacity = room
  /-- It holds no more. -/
  fits : manager.pool.size ≤ room

/-- A manager that has just been made has nothing to account for. -/
theorem start_housed (kind : ManagerKind) (poolName : String) (capacity : Nat) (admits : Bool)
    (state : σ) : Housed shown capacity (start kind poolName capacity admits) state [] where
  filed := start_filed kind poolName capacity admits
  registers := Pool.empty_registers poolName capacity
  own := nofun
  shows := nofun
  capacity := rfl
  fits := Nat.zero_le _

/-- Cards are shown as before, and the pool stays as it is. -/
theorem Housed.of_same (housed : Housed shown room manager state ledger)
    (filed : after.Filed) (pool : after.pool = manager.pool)
    (still : ∀ card, shown state card → shown changed card) :
    Housed shown room after changed ledger where
  filed := filed
  registers := pool ▸ housed.registers
  own := housed.own
  shows := fun registration mem => still _ (housed.shows registration mem)
  capacity := pool ▸ housed.capacity
  fits := pool ▸ housed.fits

/-- Sessions are taken out. -/
theorem Housed.of_cleared {alive : SessionId → Bool}
    (housed : Housed shown room manager state ledger) (filed : after.Filed)
    (cleared : Pool.Cleared alive manager.pool after.pool)
    (still : ∀ card, shown state card → shown changed card) :
    Housed shown room after changed ledger where
  filed := filed
  registers := housed.registers.cleared cleared
  own := housed.own
  shows := fun registration mem => still _ (housed.shows registration mem)
  capacity := cleared.settings.2.trans housed.capacity
  fits := Nat.le_trans cleared.size_le housed.fits

/-- A session is put in, under a new number. -/
theorem Housed.built (housed : Housed shown room manager state ledger)
    (prompt : backend.Prompt issued) (shows : backend.Shows issued shown) {alive : SessionId → Bool}
    {rest : Pool} {key : Endpoint} {card : Card} (filed : after.Filed)
    (cleared : Pool.Cleared alive manager.pool rest) (fits : rest.size < rest.capacity)
    (vacates : rest.Vacates key)
    (asked : builder backend key (backend.takeId state).1 state = (.ok card, changed))
    (put : after.pool = rest.register key (backend.takeId state).1 card)
    (still : ∀ card, shown state card → shown changed card) :
    Housed shown room after changed (⟨key, (backend.takeId state).1, card⟩ :: ledger) := by
  have fresh : (backend.takeId state).1 ∉ ledger.map Pool.Registration.id := by
    intro mem
    obtain ⟨registration, mem, eq⟩ := List.mem_map.mp mem
    have known := shows.known (housed.shows registration mem)
    rw [housed.own registration mem, eq, prompt.fresh] at known
    cases known
  have capacity : rest.capacity = room := cleared.settings.2.trans housed.capacity
  constructor
  case filed => exact filed
  case registers =>
    rw [put]
    exact (housed.registers.cleared cleared).register fresh vacates card
  case own =>
    intro registration mem
    rcases List.mem_cons.mp mem with rfl | mem
    · exact shows.labels (congrArg Prod.fst asked)
    · exact housed.own registration mem
  case shows =>
    intro registration mem
    rcases List.mem_cons.mp mem with rfl | mem
    · have made : (builder backend key (backend.takeId state).1 state).2 = changed :=
        congrArg Prod.snd asked
      rw [← made]
      exact shows.built (congrArg Prod.fst asked)
    · exact still _ (housed.shows registration mem)
  case capacity => exact put ▸ capacity
  case fits =>
    rw [put, ← capacity]
    exact Nat.le_trans (Pool.size_register_le ..) fits

/-! ### One step -/

theorem pool_post (manager : Manager) (job : ManagerJob) :
    (manager.post job).pool = manager.pool := by
  unfold post
  split <;> rfl

theorem requests_post (manager : Manager) (job : ManagerJob) :
    (manager.post job).requests = manager.requests := by
  unfold post
  split <;> rfl

/-- Nobody but the strand changes the pool. -/
theorem pool_step {action : Action} (waits : action ≠ .work) :
    (Manager.step backend action manager state).1.pool = manager.pool := by
  cases action with
  | work => exact absurd rfl waits
  | request | inbound | halt => rfl
  | advance request dialed =>
    have advanced := advance_advanced manager (backend.alive state) dialed request
    simp only [Manager.step]
    generalize manager.advance (backend.alive state) dialed request = after at advanced ⊢
    rcases advanced with _ | ⟨_, job, _, _, _⟩
    · rfl
    · exact pool_post manager job
  | reportEnd id => exact pool_post manager _
  | reap =>
    simp only [Manager.step]
    split
    · rfl
    · exact pool_post manager _
  | stop =>
    simp only [Manager.step, lower]
    split <;> rfl
  | advanceStop =>
    simp only [Manager.step, advanceStop]
    rcases manager.progress with _ | _ | _ | sessions | _ | sessions | _
    case lowered =>
      dsimp only
      split
      · rfl
      · exact pool_post manager _
    case drained =>
      dsimp only
      split <;> rfl
    all_goals rfl

/-- A job on the strand. -/
theorem Housed.work (housed : Housed shown room manager state ledger)
    (prompt : backend.Prompt issued) (shows : backend.Shows issued shown) :
    ∃ ledger, Housed shown room (manager.work backend state).1 (manager.work backend state).2
      ledger := by
  have filed := housed.filed.work backend state
  have still : ∀ card, shown state card → shown (manager.work backend state).2 card :=
    fun card held => (shows.keeps card).work held
  rcases queue : manager.queue with _ | ⟨job, rest⟩
  · refine ⟨ledger, housed.of_same filed ?_ still⟩
    unfold Manager.work
    rw [queue]
  rcases job with ⟨request, remote⟩ | ⟨request, remote, failure⟩ | id | _ | _
  case insert =>
    have reply : Pool.Reply (backend.alive state) (backend.takeId state).1 remote
        (builder backend remote) manager.pool state (insertion backend manager remote state) :=
      Pool.getOrInsert_reply manager.pool remote
    rw [work_insert queue] at filed still ⊢
    generalize insertion backend manager remote state = inserted at reply filed still ⊢
    rcases reply with ⟨found⟩ | ⟨none_live, admission⟩
    · exact ⟨ledger, housed.of_same filed rfl still⟩
    rcases admission with ⟨cleared, _⟩ | ⟨cleared, _, _⟩ | ⟨cleared, _, fits, vacates, asked⟩
    · exact ⟨ledger, housed.of_cleared filed cleared still⟩
    · exact ⟨ledger, housed.of_cleared filed cleared still⟩
    · exact ⟨_, housed.built prompt shows filed cleared fits vacates asked rfl still⟩
  case recheck =>
    have cleared : Pool.Cleared (backend.alive state) manager.pool
        (manager.work backend state).1.pool := by
      unfold Manager.work
      rw [queue]
      exact Pool.getLive_cleared manager.pool (backend.alive state) remote
    exact ⟨ledger, housed.of_cleared filed cleared still⟩
  case remove =>
    -- taken out, whether it is alive or not
    have cleared : Pool.Cleared (fun _ => false) manager.pool
        (manager.work backend state).1.pool := by
      unfold Manager.work
      rw [queue]
      exact .one rfl
    exact ⟨ledger, housed.of_cleared filed cleared still⟩
  case sweep =>
    have cleared : Pool.Cleared (backend.alive state) manager.pool
        (manager.work backend state).1.pool := by
      unfold Manager.work
      rw [queue]
      exact Pool.sweep_cleared manager.pool (backend.alive state)
    exact ⟨ledger, housed.of_cleared filed cleared still⟩
  case drain =>
    have drained : (manager.work backend state).1.pool = manager.pool.drain.1 := by
      unfold Manager.work
      rw [queue]
    refine ⟨ledger, filed, drained ▸ housed.registers.drain, housed.own, ?_, ?_, ?_⟩
    · exact fun registration mem => still _ (housed.shows registration mem)
    · exact drained ▸ housed.capacity
    · exact drained ▸ Nat.zero_le _

/-- Every step keeps the account. -/
theorem Housed.step (housed : Housed shown room manager state ledger)
    (prompt : backend.Prompt issued) (shows : backend.Shows issued shown) (action : Action) :
    ∃ ledger, Housed shown room (Manager.step backend action manager state).1
      (Manager.step backend action manager state).2 ledger := by
  by_cases works : action = .work
  · rw [works]
    exact housed.work prompt shows
  · refine ⟨ledger, housed.of_same (housed.filed.step backend action state) (pool_step works) ?_⟩
    exact fun card held => (shows.keeps card).step held action

/-! ### What is returned -/

/-- A stop answers no request. -/
theorem requests_advanceStop (manager : Manager) (backend : Backend σ) (state : σ) :
    (manager.advanceStop backend state).1.requests = manager.requests := by
  unfold advanceStop
  rcases manager.progress with _ | _ | _ | sessions | _ | sessions | _
  case lowered =>
    dsimp only
    split
    · rfl
    · exact requests_post manager _
  case drained =>
    dsimp only
    split <;> rfl
  all_goals rfl

/-- A request keeps asking for the same endpoint. -/
theorem Filed.peerOf_step (filed : manager.Filed) {request : Nat} {key : Endpoint}
    (asked : manager.peerOf request = some key) (action : Action) :
    (Manager.step backend action manager state).1.peerOf request = some key := by
  have begun (stages : List Stage) (remote : Endpoint) :
      (manager.beginWith stages remote).1.peerOf request = some key := by
    have ne : request ≠ manager.nextRequest := by
      rintro rfl
      rw [filed.unused _ (Nat.le_refl _)] at asked
      cases asked
    rw [peerOf_beginWith, if_neg ne, asked]
  have of_requests {after : Manager} (same : after.requests = manager.requests) :
      after.peerOf request = some key := by
    rw [← asked]
    simp only [peerOf, same]
  cases action with
  | request remote => exact begun _ remote
  | inbound remote => exact begun _ remote
  | advance asker dialed =>
    have staged := advance_staged manager (backend.alive state) dialed asker
    simp only [Manager.step]
    generalize manager.advance (backend.alive state) dialed asker = after at staged ⊢
    rcases staged with _ | _ | _ | _ | ⟨job, _, _, _, _⟩
    case waits =>
      rw [peerOf_proceed]
      exact of_requests (requests_post ..)
    all_goals simpa using asked
  | work => exact ((work_frame manager backend state).1 request).trans asked
  | halt => exact asked
  | reportEnd id => exact of_requests (requests_post ..)
  | reap =>
    simp only [Manager.step]
    split
    · exact asked
    · exact of_requests (requests_post ..)
  | stop =>
    simp only [Manager.step, lower]
    split <;> exact asked
  | advanceStop => exact of_requests (requests_advanceStop ..)

/-- Nothing is returned while the requests stay as they are. -/
theorem not_returned_of_requests {before : Manager} {request : Nat} {key : Endpoint} {card : Card}
    (same : after.requests = before.requests) : ¬ Returned before after request key card := by
  apply not_returned
  simp only [answerOf, same]

/-- A card is good for an endpoint: its session is alive, shows it, and has the endpoint as its
peer. -/
structure Good (backend : Backend σ) (shown : σ → Card → Prop) (key : Endpoint) (card : Card)
    (state : σ) : Prop where
  /-- It has the endpoint as its peer. -/
  peer : card.remote = key
  /-- It is alive. -/
  live : backend.alive state card.id = true
  /-- It shows the card. -/
  shows : shown state card

section returned

variable {request : Nat} {key : Endpoint} {card : Card}

/-- The card of a session that was built is good as long as the session lives. -/
theorem Housed.good_of_mem (housed : Housed shown room manager state ledger) {id : SessionId}
    (mem : ⟨key, id, card⟩ ∈ ledger) (live : backend.alive state id = true) :
    Good backend shown key card state := by
  have own : card = ⟨id, key⟩ := housed.own _ mem
  refine ⟨congrArg Card.remote own, ?_, housed.shows _ mem⟩
  rw [own]
  exact live

/-- The card that a lookup finds is good. -/
theorem Housed.good_of_live? (housed : Housed shown room manager state ledger)
    (found : manager.pool.live? (backend.alive state) key = some card) :
    Good backend shown key card state := by
  obtain ⟨id, live, mem⟩ := housed.registers.mem_of_live? found
  exact housed.good_of_mem mem live

/-- A stage of a request returns what the directory shows, if it is alive. -/
theorem Housed.good_of_advance (housed : Housed shown room manager state ledger) {asker : Nat}
    {dialed : Except Error Unit}
    (returned : Returned manager (manager.advance (backend.alive state) dialed asker) request key
      card) : Good backend shown key card state := by
  have staged := advance_staged manager (backend.alive state) dialed asker
  generalize manager.advance (backend.alive state) dialed asker = after at staged returned
  rcases staged with _ | todo | cause | ⟨remote, found, asked, shown, live⟩ | ⟨job, remote, _, _, _⟩
  case same => exact absurd returned (not_returned rfl)
  case proceeds => exact absurd returned (not_returned (answerOf_proceed ..))
  case refused =>
    obtain ⟨_, given, _⟩ := returned_answer returned rfl
    cases given
  case found =>
    obtain ⟨_, given, asked_key⟩ := returned_answer returned rfl
    obtain rfl : found = card := Except.ok.inj given
    obtain rfl : key = remote := Option.some.inj (asked_key.symm.trans asked)
    obtain ⟨id, mem⟩ := housed.registers.mem_of_shown shown
    have own : found = ⟨id, key⟩ := housed.own _ mem
    rw [own] at live
    exact housed.good_of_mem mem live
  case waits =>
    apply absurd returned
    apply not_returned
    rw [answerOf_proceed]
    simp only [answerOf, requests_post]

/-- A job on the strand returns the live session for its endpoint, or the one that it builds. -/
theorem Housed.good_of_work (housed : Housed shown room manager state ledger)
    (prompt : backend.Prompt issued) (shows : backend.Shows issued shown)
    (returned : Returned manager (manager.work backend state).1 request key card) :
    Good backend shown key card (manager.work backend state).2 := by
  rcases queue : manager.queue with _ | ⟨job, rest⟩
  · unfold Manager.work at returned
    rw [queue] at returned
    exact absurd returned (not_returned rfl)
  have here : job ∈ manager.queue := queue ▸ List.mem_cons_self
  rcases job with ⟨asker, remote⟩ | ⟨asker, remote, failure⟩ | id | _ | _
  case insert =>
    have asked := housed.filed.asked _ here asker remote rfl
    rw [work_insert queue] at returned ⊢
    obtain ⟨_, given, asked_key⟩ := returned_answer returned rfl
    obtain rfl : key = remote := Option.some.inj (asked_key.symm.trans asked)
    rcases found : manager.pool.live? (backend.alive state) key with _ | shown
    · have admission : Pool.Admission (backend.alive state) (backend.takeId state).1 key
          (builder backend key) manager.pool state (insertion backend manager key state) :=
        Pool.getOrInsert_admission found
      generalize insertion backend manager key state = inserted at admission given ⊢
      rcases admission with _ | _ | @⟨_, built, changed, _, _, _, _, made⟩
      · cases given
      · cases given
      · obtain rfl : built = card := Except.ok.inj given
        have same : (builder backend key (backend.takeId state).1 state).2 = changed :=
          congrArg Prod.snd made
        have own : built = ⟨(backend.takeId state).1, key⟩ := shows.labels (congrArg Prod.fst made)
        have live := prompt.alive_built (congrArg Prod.fst made)
        refine ⟨congrArg Card.remote own, ?_, same ▸ shows.built (congrArg Prod.fst made)⟩
        rw [own, ← same]
        exact live
    · have eq : insertion backend manager key state = ⟨manager.pool, state, none, .ok shown⟩ :=
        Pool.getOrInsert_of_live found
      rw [eq] at given ⊢
      obtain rfl : shown = card := Except.ok.inj given
      exact housed.good_of_live? found
  case recheck =>
    have asked := housed.filed.asked _ here asker remote rfl
    unfold Manager.work at returned ⊢
    rw [queue] at returned ⊢
    obtain ⟨_, given, asked_key⟩ := returned_answer returned rfl
    obtain rfl : key = remote := Option.some.inj (asked_key.symm.trans asked)
    rcases found : manager.pool.live? (backend.alive state) key with _ | shown
    · rw [(Pool.getLive_of_not_live found).1] at given
      cases given
    · rw [Pool.getLive_of_live found] at given
      obtain rfl : shown = card := Except.ok.inj given
      exact housed.good_of_live? found
  all_goals
    unfold Manager.work at returned
    rw [queue] at returned
    exact absurd returned (not_returned rfl)

/-- What a request returns is good for the endpoint that it asks for. -/
theorem Housed.good_of_returned (housed : Housed shown room manager state ledger)
    (prompt : backend.Prompt issued) (shows : backend.Shows issued shown) {action : Action}
    (returned : Returned manager (Manager.step backend action manager state).1 request key card) :
    Good backend shown key card (Manager.step backend action manager state).2 := by
  cases action with
  | request | inbound => exact absurd returned (not_returned_beginWith _ _)
  | advance asker dialed => exact housed.good_of_advance returned
  | work => exact housed.good_of_work prompt shows returned
  | halt => exact absurd returned (not_returned rfl)
  | reportEnd id => exact absurd returned (not_returned_of_requests (requests_post ..))
  | reap =>
    simp only [Manager.step] at returned
    split at returned
    · exact absurd returned (not_returned rfl)
    · exact absurd returned (not_returned_of_requests (requests_post ..))
  | stop =>
    simp only [Manager.step, lower] at returned
    split at returned <;> exact absurd returned (not_returned rfl)
  | advanceStop =>
    exact absurd returned (not_returned_of_requests (requests_advanceStop ..))

end returned

end Manager

end PeerNet
