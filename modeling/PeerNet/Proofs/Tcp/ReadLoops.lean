import PeerNet.Proofs.Frame.Chunks
import PeerNet.Proofs.Manager.Backends
import PeerNet.Proofs.Session.Transports
import PeerNet.Tcp.Reading

/-!
# One read loop

A read loop reads the packages of what it receives, in their order, whatever its handlers do with
them. When it ends in order the connection is stopped and its end reported once. Only an error
handler that panics keeps it from doing so.

* **Reading** (`Reads`): the packages of all that was received are those that were read, and then
  those of what is not used yet.
* **The course of a loop** (`ReadLoop.Course`): it reads, has ended in order, or was torn down.
* **One stretch** (`Follows.step`) keeps to the course, and reports an end only of a connection that
  does not run.
-/

namespace PeerNet.Tcp

open PeerNet.Frame (Package Ending)

/-! ### Connections under a loop -/

namespace Connection

variable {connection : Connection}

/-- A stop leaves the card of the connection. -/
theorem card_stop (connection : Connection) : connection.stop.card = connection.card := by
  unfold stop
  split <;> rfl

/-- Nothing changes the card of a connection. -/
theorem card_step (connection : Connection) (action : Action) :
    (connection.step action).card = connection.card := by
  cases action with
  | submit blocks =>
    simp only [step, submit]
    split
    · next queued =>
      split at queued
      · cases queued
      · split at queued
        · cases queued
        · cases queued
          rfl
    · rfl
  | begin =>
    simp only [step, begin]
    split
    · split <;> rfl
    · rfl
    · rfl
  | write acceptance =>
    simp only [step, write]
    split
    · rfl
    · split <;> rfl
  | giveUp =>
    simp only [step, giveUp]
    split
    · split <;> rfl
    · rfl
  | take caller =>
    simp only [step, take]
    split
    · rfl
    · split
      · split
        · exact card_stop _
        · rfl
      · rfl
  | stop => exact connection.card_stop

/-- A connection that has begun, and does not run, never runs again. -/
theorem isRunning_step (begun : connection.phase ≠ .created) {action : Action}
    (running : (connection.step action).isRunning = true) : connection.isRunning = true := by
  have step := (connection.step_goes action).step
  rcases step.live_of_running (of_decide_eq_true running) with created | running
  · exact absurd created begun
  · exact decide_eq_true running

/-- A connection that has begun does not go back to before its start. -/
theorem begun_step (begun : connection.phase ≠ .created) (action : Action) :
    (connection.step action).phase ≠ .created := by
  intro created
  exact begun ((connection.step_goes action).step.created_of_created created)

end Connection

/-! ### Reading -/

/-- The packages of all that was received are these, and then those of what is not used yet,
whatever is received later. -/
def Reads (maxBody : Nat) (received : Bytes) (packages : List Package) (reader : Frame.Reader) :
    Prop :=
  ∀ later, (Frame.Reader.mk (received ++ later) maxBody).all [] =
    (packages ++ ((reader.receive later).all []).1, ((reader.receive later).all []).2)

section reads

variable {maxBody : Nat} {received : Bytes} {packages : List Package} {reader after : Frame.Reader}
  {package : Package} {fault : Frame.Fault}

/-- A reader that has received nothing has given out nothing. -/
theorem start_reads (maxBody : Nat) : Reads maxBody [] [] (.start maxBody) := fun _ => rfl

/-- A package is taken off. -/
theorem Reads.take (reads : Reads maxBody received packages reader)
    (taken : reader.take = (after, .ok (some package))) :
    Reads maxBody received (packages ++ [package]) after := by
  intro later
  have next := Frame.Reader.next_of_take_some (Frame.Reader.take_receive_some taken later) []
  rw [reads later, Frame.Reader.all_of_next_ok next]
  simp

/-- A chunk is received. -/
theorem Reads.receive (reads : Reads maxBody received packages reader) (chunk : Bytes) :
    Reads maxBody (received ++ chunk) packages (reader.receive chunk) := by
  intro later
  have all := reads (chunk ++ later)
  simpa [Frame.Reader.receive] using all

/-- So far these are the packages, and then those of what is not used yet. -/
theorem Reads.so_far (reads : Reads maxBody received packages reader) :
    ((Frame.Reader.mk received maxBody).all []).1 = packages ++ (reader.all []).1 := by
  have all := reads []
  simp only [Frame.Reader.receive, List.append_nil] at all
  rw [all]

/-- A reader that runs into a fault gives out no further package. -/
theorem all_of_fault (taken : reader.take = (after, .error fault)) : (reader.all []).1 = [] := by
  rw [Frame.Reader.all_of_next_error (Frame.Reader.next_of_take_error taken [])]

/-- A reader that has to wait for more gives out no further package. -/
theorem all_of_none (taken : reader.take = (after, .ok none)) : (reader.all []).1 = [] := by
  rw [Frame.Reader.all_of_next_error (Frame.Reader.next_of_take_none taken)]

end reads

/-! ### The course of a loop -/

namespace ReadLoop

variable {loop : ReadLoop} {id : SessionId} {maxBody : Nat} {handlers : Handlers}

/-- The packages that were read, the first one first. -/
def packages (loop : ReadLoop) : List Package := (loop.read.map Prod.fst).reverse

/-- How far a loop has got. -/
inductive Course (id : SessionId) (maxBody : Nat) (loop : ReadLoop) : Prop where
  /-- It reads. -/
  | reads (state : loop.state = .running) (silent : loop.notified = []) (quiet : loop.reported = [])
      (reads : Reads maxBody loop.received loop.packages loop.reader)
  /-- It has ended in order. Unless the connection was stopped, all packages were read. -/
  | ended (ending : Option Ending) (state : loop.state = .ended ending)
      (stopped : loop.connection.isRunning = false) (reported : loop.reported = [id])
      (told : loop.notified = [] ∨ ∃ error, loop.notified = [(error, .returns)])
      (left : List Package)
      (all : ((Frame.Reader.mk loop.received maxBody).all []).1 = loop.packages ++ left)
      (whole : ending ≠ none → left = [])
  /-- The error handler has torn it down. All packages were read. -/
  | torn (state : loop.state = .torn) (quiet : loop.reported = []) (error : Error)
      (told : loop.notified = [(error, .panics)])
      (all : ((Frame.Reader.mk loop.received maxBody).all []).1 = loop.packages)

/-- A loop that reads for the connection with this number. -/
structure Follows (id : SessionId) (maxBody : Nat) (loop : ReadLoop) : Prop where
  /-- The connection bears the number. -/
  card : loop.connection.card.id = id
  /-- The connection has begun. -/
  begun : loop.connection.phase ≠ .created
  /-- The loop keeps to its course. -/
  course : Course id maxBody loop

/-- A loop that has just been made is at the beginning of its course. -/
theorem start_follows (card : Card) (writeBlock maxBody : Nat) :
    Follows card.id maxBody (start (.spawn card writeBlock) maxBody) :=
  ⟨rfl, nofun, .reads rfl rfl rfl (start_reads maxBody)⟩

/-! ### One stretch -/

/-- The connection of a loop stays as it is or makes a step of its own. -/
theorem connection_step (loop : ReadLoop) (handlers : Handlers) (action : Action) :
    (loop.step handlers action).connection = loop.connection ∨
      ∃ own, (loop.step handlers action).connection = loop.connection.step own := by
  have left (loop : ReadLoop) (ending : Option Ending) :
      ∃ own, (loop.leave ending).connection = loop.connection.step own := ⟨.stop, rfl⟩
  have failed (loop : ReadLoop) (error : Error) (onError : Handling) :
      (loop.fail handlers error onError).connection = loop.connection ∨
        ∃ own, (loop.fail handlers error onError).connection = loop.connection.step own := by
    unfold fail
    split
    · rcases onError with _ | _
      · exact .inr ⟨.stop, rfl⟩
      · exact .inl rfl
    · exact .inr ⟨.stop, rfl⟩
  rcases action with ⟨onMessage, onError⟩ | chunk | onError | ⟨failure, onError⟩ | _ | own
  case connection => exact .inr ⟨own, rfl⟩
  all_goals rcases state : loop.state with _ | ending | _ <;> simp only [step, state]
  case advance.running =>
    unfold advance
    split
    · exact .inl rfl
    · exact .inl rfl
    · next reader fault _ => exact failed { loop with reader := reader } fault.toError onError
  case receive.running =>
    split <;> exact .inl rfl
  case finish.running =>
    split
    · unfold finish
      split
      · exact .inr (left loop _)
      · exact failed loop _ onError
    · exact .inl rfl
  case fail.running =>
    split
    · exact failed loop _ onError
    · exact .inl rfl
  case heed.running =>
    split
    · exact .inr (left loop none)
    · exact .inl rfl
  all_goals exact .inl trivial

/-- A loop does not bring its connection to life. -/
theorem Follows.isRunning_step (follows : loop.Follows id maxBody) {action : Action}
    (running : (loop.step handlers action).connection.isRunning = true) :
    loop.connection.isRunning = true := by
  rcases loop.connection_step handlers action with same | ⟨own, steps⟩
  · rwa [same] at running
  · rw [steps] at running
    exact Connection.isRunning_step follows.begun running

/-- A loop that reads leaves, and no package is left unless the connection was stopped. -/
theorem leave_follows (card : loop.connection.card.id = id)
    (begun : loop.connection.phase ≠ .created) (quiet : loop.reported = [])
    (told : loop.notified = [] ∨ ∃ error, loop.notified = [(error, .returns)])
    {ending : Option Ending} {left : List Package}
    (all : ((Frame.Reader.mk loop.received maxBody).all []).1 = loop.packages ++ left)
    (whole : ending ≠ none → left = []) : (loop.leave ending).Follows id maxBody := by
  refine ⟨?_, ?_, ?_⟩
  · exact (congrArg Card.id loop.connection.card_stop).trans card
  · exact Connection.begun_step begun .stop
  · apply Course.ended ending rfl loop.connection.isRunning_stop
    · show loop.connection.card.id :: loop.reported = [id]
      rw [quiet, card]
    · exact told
    · exact all
    · exact whole

/-- A loop that has read all packages ends because of an error. -/
theorem fail_follows (card : loop.connection.card.id = id)
    (begun : loop.connection.phase ≠ .created) (silent : loop.notified = [])
    (quiet : loop.reported = [])
    (all : ((Frame.Reader.mk loop.received maxBody).all []).1 = loop.packages)
    (error : Error) (onError : Handling) :
    (loop.fail handlers error onError).Follows id maxBody := by
  have whole : ((Frame.Reader.mk loop.received maxBody).all []).1 = loop.packages ++ [] := by
    rw [List.append_nil]
    exact all
  unfold fail
  split
  · have told : (error, onError) :: loop.notified = [(error, onError)] := by rw [silent]
    rcases onError with _ | _
    · have noted : ({ loop with notified := (error, .returns) :: loop.notified } :
          ReadLoop).connection.card.id = id := card
      exact leave_follows noted begun quiet (.inr ⟨error, told⟩) whole fun _ => rfl
    · exact ⟨card, begun, .torn rfl quiet error told all⟩
  · apply leave_follows card begun quiet (.inl silent) whole
    exact fun _ => rfl

/-- A loop that waits has read all packages. -/
theorem all_of_waits (waits : loop.waits = true) : (loop.reader.all []).1 = [] := by
  unfold ReadLoop.waits at waits
  rcases taken : loop.reader.take with ⟨after, fault | _ | package⟩
  · rw [taken] at waits
    cases waits
  · exact all_of_none taken
  · rw [taken] at waits
    cases waits

/-- Every stretch keeps to the course. -/
theorem Follows.step (follows : loop.Follows id maxBody) (handlers : Handlers) (action : Action) :
    (loop.step handlers action).Follows id maxBody := by
  obtain ⟨card, begun, course⟩ := follows
  -- what the connection does by itself leaves the loop alone
  have aside (own : Connection.Action) :
      ({ loop with connection := loop.connection.step own } : ReadLoop).Follows id maxBody := by
    refine ⟨?_, Connection.begun_step begun own, ?_⟩
    · exact (congrArg Card.id (loop.connection.card_step own)).trans card
    · rcases course with ⟨state, silent, quiet, reads⟩ |
        ⟨ending, state, stopped, reported, told, left, all, whole⟩ |
        ⟨state, quiet, error, told, all⟩
      · exact .reads state silent quiet reads
      · refine .ended ending state ?_ reported told left all whole
        apply Bool.eq_false_iff.mpr
        intro running
        rw [Connection.isRunning_step begun running] at stopped
        cases stopped
      · exact .torn state quiet error told all
  have unmoved : loop.Follows id maxBody := ⟨card, begun, course⟩
  rcases course with ⟨state, silent, quiet, reads⟩ | ⟨ending, state, _⟩ | ⟨state, _⟩
  case ended | torn =>
    rcases action with ⟨onMessage, onError⟩ | chunk | onError | ⟨failure, onError⟩ | _ | own
    case connection => exact aside own
    all_goals
      simp only [ReadLoop.step, state]
      exact unmoved
  case reads =>
    have so_far := reads.so_far
    rcases action with ⟨onMessage, onError⟩ | chunk | onError | ⟨failure, onError⟩ | _ | own
    case connection => exact aside own
    case advance =>
      simp only [ReadLoop.step, state]
      unfold advance
      split
      · next reader package taken =>
        refine ⟨card, begun, .reads state silent quiet ?_⟩
        have packages : (loop.dispatch handlers package onMessage).packages =
            loop.packages ++ [package] := by
          simp [ReadLoop.packages, dispatch]
        exact packages ▸ reads.take taken
      · next reader taken =>
        rw [Frame.Reader.eq_of_take_none taken]
        exact unmoved
      · next reader fault taken =>
        rw [all_of_fault taken, List.append_nil] at so_far
        have failing : ({ loop with reader := reader } : ReadLoop).connection.card.id = id := card
        exact fail_follows failing begun silent quiet so_far fault.toError onError
    case receive =>
      simp only [ReadLoop.step, state]
      split
      · exact ⟨card, begun, .reads rfl silent quiet (reads.receive chunk)⟩
      · exact unmoved
    case finish =>
      simp only [ReadLoop.step, state]
      split
      · next waits =>
        rw [all_of_waits waits, List.append_nil] at so_far
        unfold finish
        split
        · apply leave_follows card begun quiet (.inl silent)
          · exact so_far.trans (List.append_nil _).symm
          · exact fun _ => rfl
        · next error _ => exact fail_follows card begun silent quiet so_far error onError
      · exact unmoved
    case fail =>
      simp only [ReadLoop.step, state]
      split
      · next waits =>
        rw [all_of_waits waits, List.append_nil] at so_far
        exact fail_follows card begun silent quiet so_far (.io failure) onError
      · exact unmoved
    case heed =>
      simp only [ReadLoop.step, state]
      split
      · apply leave_follows card begun quiet (.inl silent) so_far
        exact fun stopped => absurd rfl stopped
      · exact unmoved

/-- What becomes of the reports: nothing is reported, or the end of a connection that does not run.
-/
inductive Reports (id : SessionId) (before after : ReadLoop) : Prop where
  /-- Nothing is reported. -/
  | nothing (same : after.reported = before.reported)
  /-- The end of the connection is reported. -/
  | leaves (first : before.reported = []) (reported : after.reported = [id])
      (stopped : after.connection.isRunning = false)

/-- A stretch reports nothing, or the end of a connection that does not run, and this once. -/
theorem Follows.reports (follows : loop.Follows id maxBody) (handlers : Handlers)
    (action : Action) :
    Reports id loop (loop.step handlers action) := by
  rcases follows.course with ⟨state, silent, quiet, reads⟩ | ⟨ending, state, _⟩ | ⟨state, _⟩
  case reads =>
    -- a loop that reads has reported nothing, and reports its end when it ends in order
    rcases (follows.step handlers action).course with ⟨_, _, still, _⟩ |
      ⟨_, _, stopped, reported, _, _, _, _⟩ | ⟨_, still, _⟩
    · exact .nothing (still.trans quiet.symm)
    · exact .leaves quiet reported stopped
    · exact .nothing (still.trans quiet.symm)
  all_goals
    apply Reports.nothing
    cases action <;> simp only [ReadLoop.step, state]

end ReadLoop

end PeerNet.Tcp
