import PeerNet.Proofs.Frame.Blockwise
import PeerNet.Proofs.Tcp.OutletBytes
import PeerNet.Tcp.Connection

/-!
# Messages do not mix on the wire

Callers queue messages on the strand of a connection, and its worker writes one after the other
through a buffer. A write may be cut short: the socket may fail, or the connection be stopped and
the write given up. Then a part of the message may be on the wire, and a part may be in the buffer.

* **Messages** (`bytes_of_prepare`, `queued_run`): the message of a package is its frame, and what
  is queued are the messages that were submitted and not refused, in the order in which they were.
* **The stages of a worker** (`Stage`): between two messages everything written is on the wire;
  within a message what the wire lacks of it is held in the buffer or left; and after a write was
  cut short the wire is settled.
* **One step** (`stage_step`) leads from stage to stage, and from a settled wire nowhere else
  (`Halted.step`), provided that a job that begins after the stop does not write.
* **Any schedule** (`run_wholeThenPart`): what is on the wire are whole messages in the order in
  which they were queued, and then at most the beginning of one more; and what a write that was cut
  short has left there stays the last thing on the wire.
* **The condition is needed** (`late_write_mixes`): a job that begins after the stop and writes
  before it notices the stop puts its message behind the beginning of another one.
-/

namespace PeerNet.Tcp

/-- The message that a job writes, with the caller that it is written for. -/
def WriteJob.message? : WriteJob → Option (Nat × Bytes)
  | .write caller blocks => some (caller, blocks.flatten)
  | .shutdown => none

namespace Connection

/-! ### Messages and the wire -/

/-- The message that a package is sent as is its frame. -/
theorem encode_flatten {connection : Connection} {package : Frame.Package} {blocks : List Bytes}
    (encoded : connection.encode package = .ok blocks) : package.toFrame = .ok blocks.flatten := by
  unfold encode at encoded
  by_cases framed : ∃ frame, package.toFrame = .ok frame
  · obtain ⟨frame, framed⟩ := framed
    obtain ⟨after, written, contents, _⟩ :=
      Frame.Package.writeFrame_of_toFrame framed .empty connection.writeBlock
    rw [written] at encoded
    cases encoded
    rw [framed]
    exact congrArg Except.ok contents.symm
  · obtain ⟨after, error, written, _⟩ :=
      Frame.Package.writeFrame_of_no_frame framed .empty connection.writeBlock
    rw [written] at encoded
    cases encoded

/-- The bytes of what a caller sends: the frame of a package, or blocks one after the other. -/
def Message.bytes : Message → Except Frame.Fault Bytes
  | .package sent => sent.toFrame
  | .blocks given => .ok given.flatten

/-- **What is written for a caller are the bytes of what the caller sends.** -/
theorem bytes_of_prepare {connection : Connection} {message : Message} {blocks : List Bytes}
    (prepared : connection.prepare message = .ok blocks) : message.bytes = .ok blocks.flatten := by
  cases message with
  | package package => exact encode_flatten prepared
  | blocks given =>
    cases prepared
    rfl

/-- Messages one after the other. -/
def contents (messages : List (Nat × Bytes)) : Bytes := (messages.map Prod.snd).flatten

@[simp] theorem contents_nil : contents [] = [] := rfl

/-- The bytes of one message more come last. -/
theorem contents_concat (messages : List (Nat × Bytes)) (message : Nat × Bytes) :
    contents (messages ++ [message]) = contents messages ++ message.2 := by
  simp [contents]

/-- A wire that holds whole messages of a queue in its order, and then at most a proper beginning of
one that comes later in it. -/
def WholeThenPart (queue : List (Nat × Bytes)) (wire : Bytes) : Prop :=
  ∃ whole part, wire = contents whole ++ part ∧
    (part = [] ∧ whole.Sublist queue ∨
      ∃ message, (whole ++ [message]).Sublist queue ∧ part ≠ [] ∧ part <+: message.2 ∧
        part ≠ message.2)

/-- The beginning of a message may be nothing of it, or all of it. -/
theorem wholeThenPart_of_prefix {queue whole : List (Nat × Bytes)} {message : Nat × Bytes}
    {part : Bytes} (order : (whole ++ [message]).Sublist queue) (begins : part <+: message.2) :
    WholeThenPart queue (contents whole ++ part) := by
  by_cases nothing : part = []
  · exact ⟨whole, part, rfl, .inl ⟨nothing, (List.sublist_append_left _ _).trans order⟩⟩
  · by_cases all : part = message.2
    · exact ⟨whole ++ [message], [], by rw [contents_concat, all, List.append_nil],
        .inl ⟨rfl, order⟩⟩
    · exact ⟨whole, part, rfl, .inr ⟨message, order, nothing, begins, all⟩⟩

/-- All messages that were queued, the first one first. -/
def queued (connection : Connection) : List (Nat × Bytes) := connection.messages.reverse

/-- The message that an action queues, with the number of its caller, if it does. -/
def submission? (connection : Connection) : Action → Option (Nat × Bytes)
  | .submit blocks =>
    match connection.submit blocks with
    | .ok (_, caller) => some (caller, blocks.flatten)
    | .error _ => none
  | .begin | .write _ | .giveUp | .take _ | .stop => none

/-- The messages that a schedule queues, the first one first. -/
def submissions (connection : Connection) : List Action → List (Nat × Bytes)
  | [] => []
  | action :: rest =>
    (connection.submission? action).toList ++ (connection.step action).submissions rest

/-- The messages that wait on the strand, the next one first. -/
def waiting (connection : Connection) : List (Nat × Bytes) :=
  connection.jobs.filterMap WriteJob.message?

/-! ### Jobs that begin after the stop -/

/-- Whether an action is to submit a message. -/
def Action.isSubmit : Action → Bool
  | .submit _ => true
  | _ => false

/-- Whether an action is one stretch of a write. -/
def Action.isWrite : Action → Bool
  | .write _ => true
  | _ => false

variable (connection : Connection) (late : Bool)

/-- Whether the job that was taken last began after the connection was stopped, once an action is
done; `late` says it of the moment before. -/
def lateAfter : Action → Bool
  | .begin => if connection.work = .idle then connection.cancelled else late
  | _ => late

/-- Whether an action is not a stretch of a write that began after the stop. -/
def heeds (action : Action) : Bool := !(late && action.isWrite && connection.work ≠ .idle)

/-- Whether no job of a schedule that begins after the stop writes: it finds itself given up
first. -/
def heedsAll (connection : Connection) (late : Bool) : List Action → Bool
  | [] => true
  | action :: rest =>
    connection.heeds late action &&
      (connection.step action).heedsAll (connection.lateAfter late action) rest

/-- Whether the job that was taken last began after the stop, once a schedule is done. -/
def lateAfterAll (connection : Connection) (late : Bool) : List Action → Bool
  | [] => late
  | action :: rest => (connection.step action).lateAfterAll (connection.lateAfter late action) rest

variable {connection late}

theorem run_append (before after : List Action) :
    connection.run (before ++ after) = (connection.run before).run after :=
  List.foldl_append

/-- No late job of a schedule writes exactly if none does in either of its parts. -/
theorem heedsAll_append (before after : List Action) :
    connection.heedsAll late (before ++ after) =
      (connection.heedsAll late before &&
        (connection.run before).heedsAll (connection.lateAfterAll late before) after) := by
  induction before generalizing connection late with
  | nil => simp [heedsAll, lateAfterAll, run]
  | cons action rest ih =>
    simp only [List.cons_append, heedsAll, lateAfterAll, ih, Bool.and_assoc]
    rfl

/-! ### What single actions do -/

/-- A change that concerns the wire only in that these messages are queued. -/
structure Joins (before after : Connection) (new : List (Nat × Bytes)) : Prop where
  /-- The outlet is the same. -/
  outlet : after.outlet = before.outlet
  /-- The worker does the same. -/
  work : after.work = before.work
  /-- The messages were queued. -/
  queued : after.queued = before.queued ++ new
  /-- They wait. -/
  waiting : after.waiting = before.waiting ++ new
  /-- A connection that was stopped remains so. -/
  cancelled : before.cancelled = true → after.cancelled = true

theorem Joins.refl (connection : Connection) : Joins connection connection [] :=
  ⟨rfl, rfl, (List.append_nil _).symm, (List.append_nil _).symm, id⟩

/-- A stop queues no message and leaves the wire alone. -/
theorem stop_joins (connection : Connection) : Joins connection connection.stop [] := by
  unfold stop
  split
  · refine ⟨rfl, rfl, (List.append_nil _).symm, ?_, fun _ => rfl⟩
    rw [List.append_nil]
    unfold waiting
    dsimp only
    split
    · rfl
    · rw [List.filterMap_append]
      exact List.append_nil _
  all_goals exact Joins.refl connection

/-- A caller that takes its outcome queues no message and leaves the wire alone. -/
theorem take_joins (connection : Connection) (caller : Nat) :
    Joins connection (connection.take caller) [] := by
  unfold take
  split
  · exact Joins.refl connection
  · have asked : Joins connection { connection with
        sent := connection.sent.filter fun entry => entry.1 ≠ caller } [] :=
      ⟨rfl, rfl, (List.append_nil _).symm, (List.append_nil _).symm, id⟩
    dsimp only
    split
    · split
      · have stopped := stop_joins { connection with
          sent := connection.sent.filter fun entry => entry.1 ≠ caller }
        exact ⟨stopped.outlet, stopped.work, stopped.queued, stopped.waiting, stopped.cancelled⟩
      · exact asked
    · exact asked

/-- A message that is submitted is queued, unless it is refused. -/
theorem submit_joins (connection : Connection) (blocks : List Bytes) :
    Joins connection (connection.step (.submit blocks))
      (connection.submission? (.submit blocks)).toList := by
  simp only [step, submission?]
  cases submitted : connection.submit blocks with
  | error error => exact Joins.refl connection
  | ok sent =>
    unfold submit at submitted
    split at submitted
    · cases submitted
    · split at submitted
      · cases submitted
      · cases submitted
        exact ⟨rfl, rfl, List.reverse_cons, List.filterMap_append, id⟩

/-- What becomes of a worker that waits for a job when it may take one. -/
inductive Begun (before : Connection) : Connection → Prop where
  /-- It takes up a message. -/
  | message {after : Connection} (caller : Nat) (blocks : List Bytes)
      (work : after.work = .writing caller blocks true) (outlet : after.outlet = before.outlet)
      (queued : after.queued = before.queued)
      (waiting : before.waiting = (caller, blocks.flatten) :: after.waiting) : Begun before after
  /-- It has nothing to write: there is no job, or no message, or it cannot be written any more. -/
  | nothing {after : Connection} (work : after.work = .idle)
      (outlet : after.outlet = before.outlet) (queued : after.queued = before.queued)
      (waiting : after.waiting.Sublist before.waiting) : Begun before after

/-- A worker that may take a job takes up a message, or has nothing to write. -/
theorem begin_begun (idle : connection.work = .idle) : Begun connection connection.begin := by
  unfold begin
  rw [idle]
  split
  case h_1 caller blocks rest _ jobs =>
    have next : connection.waiting =
        (caller, blocks.flatten) :: rest.filterMap WriteJob.message? := by
      rw [waiting, jobs]
      rfl
    dsimp only
    split
    · exact .message caller blocks rfl rfl rfl next
    · refine .nothing rfl rfl rfl ?_
      rw [next]
      exact List.sublist_cons_self _ _
  case h_2 rest _ jobs =>
    have next : connection.waiting = rest.filterMap WriteJob.message? := by
      rw [waiting, jobs]
      rfl
    refine .nothing rfl rfl rfl ?_
    rw [next]
    exact List.Sublist.refl _
  case h_3 => exact .nothing idle rfl rfl (List.Sublist.refl _)

/-- A worker that writes does not take another job. -/
theorem begin_of_writing {caller : Nat} {blocks : List Bytes} {fresh : Bool}
    (work : connection.work = .writing caller blocks fresh) : connection.begin = connection := by
  unfold begin
  rw [work]

/-- To take a job does not stop the connection. -/
theorem begin_cancelled : connection.begin.cancelled = connection.cancelled := by
  unfold begin
  split
  · dsimp only
    split <;> rfl
  · rfl
  · rfl

/-- A worker without a job does not write. -/
theorem write_of_idle (idle : connection.work = .idle) (acceptance : Acceptance) :
    connection.write acceptance = connection := by
  unfold write
  rw [idle]

/-- A worker without a job has nothing to give up. -/
theorem giveUp_of_idle (idle : connection.work = .idle) : connection.giveUp = connection := by
  unfold giveUp
  rw [idle]

/-- What becomes of a write in one stretch over a socket that works. -/
inductive Written (before : Connection) (caller : Nat) (blocks : List Bytes) :
    Connection → Prop where
  /-- Some bytes are moved on, and the write goes on. -/
  | moved {after : Connection} (left : List Bytes) (taken : Bytes)
      (work : after.work = .writing caller left false) (sound : after.outlet.Sound)
      (wire : after.outlet.wire = before.outlet.wire ++ taken)
      (account : taken ++ (after.outlet.held ++ left.flatten) =
        before.outlet.held ++ blocks.flatten)
      (waiting : after.waiting = before.waiting) : Written before caller blocks after
  /-- All is on the wire. -/
  | done {after : Connection} (work : after.work = .idle) (outlet : after.outlet = before.outlet)
      (held : before.outlet.buffer = []) (left : blocks = [])
      (sent : after.sent = (caller, none) :: before.sent)
      (waiting : after.waiting = before.waiting) : Written before caller blocks after
  /-- The socket fails. -/
  | failed {after : Connection} (wire : after.outlet.wire = before.outlet.wire)
      (broken : after.outlet.broken ≠ none) : Written before caller blocks after

/-- A stretch of a write over a socket that works brings bytes on, ends the write, or fails. -/
theorem write_written {caller : Nat} {blocks : List Bytes} {fresh : Bool}
    (sound : connection.outlet.Sound) (work : connection.work = .writing caller blocks fresh)
    (acceptance : Acceptance) :
    Written connection caller blocks (connection.write acceptance) := by
  have stretch := Outlet.step_account sound acceptance blocks
  unfold write
  rw [work]
  dsimp only
  generalize connection.outlet.step acceptance blocks = result at stretch
  cases stretch with
  | moved taken sound wire account => exact .moved _ taken rfl sound wire account rfl
  | done held left => exact .done rfl rfl held left rfl rfl
  | failed wire broken => exact .failed wire (Option.ne_none_iff_exists'.mpr ⟨_, broken⟩)

/-- Writing queues nothing. -/
theorem write_queued (connection : Connection) (acceptance : Acceptance) :
    (connection.write acceptance).queued = connection.queued := by
  unfold write
  split
  · rfl
  · split <;> rfl

/-- Only callers who submit a message change what was queued. -/
theorem queued_step_of_not_submit (connection : Connection) {action : Action}
    (other : action.isSubmit = false) :
    (connection.step action).queued = connection.queued := by
  have kept {after : Connection} (joins : Joins connection after []) :
      after.queued = connection.queued := joins.queued.trans (List.append_nil _)
  cases action with
  | submit blocks => cases other
  | begin =>
    cases work : connection.work with
    | idle => cases begin_begun work <;> assumption
    | writing => exact congrArg queued (begin_of_writing work)
  | write acceptance => exact write_queued connection acceptance
  | giveUp =>
    simp only [step, giveUp]
    split
    · split <;> rfl
    · rfl
  | take caller => exact kept (take_joins connection caller)
  | stop => exact kept (stop_joins connection)

/-- An action queues the message that is submitted, if it is one and is not refused. -/
theorem queued_step (connection : Connection) (action : Action) :
    (connection.step action).queued =
      connection.queued ++ (connection.submission? action).toList := by
  cases action with
  | submit blocks => exact (submit_joins connection blocks).queued
  | _ =>
    rw [queued_step_of_not_submit connection rfl]
    exact (List.append_nil _).symm

/-- **What is queued are the messages that were submitted** and not refused, in their order. -/
theorem queued_run (connection : Connection) (schedule : List Action) :
    (connection.run schedule).queued = connection.queued ++ connection.submissions schedule := by
  induction schedule generalizing connection with
  | nil => exact (List.append_nil _).symm
  | cons action rest ih =>
    refine (ih (connection.step action)).trans ?_
    rw [queued_step, submissions, List.append_assoc]

/-- No message is ever taken off the record. -/
theorem queued_sublist_step (connection : Connection) (action : Action) :
    connection.queued.Sublist (connection.step action).queued := by
  rw [queued_step]
  exact List.sublist_append_left _ _

/-- Nothing is queued where nobody submits. -/
theorem queued_run_of_not_submit (connection : Connection) {schedule : List Action}
    (others : ∀ action ∈ schedule, action.isSubmit = false) :
    (connection.run schedule).queued = connection.queued := by
  induction schedule generalizing connection with
  | nil => rfl
  | cons action rest ih =>
    have after := ih (connection.step action)
      fun other mem => others other (List.mem_cons_of_mem _ mem)
    exact after.trans
      (queued_step_of_not_submit connection (others action List.mem_cons_self))

/-! ### The wire after a write was cut short -/

/-- A connection that puts nothing on the wire any more: its socket has failed, or it was stopped
and the job in progress, if there is one, began after that. -/
def Halted (connection : Connection) (late : Bool) : Prop :=
  connection.outlet.broken ≠ none ∨
    connection.cancelled = true ∧ (connection.work = .idle ∨ late = true)

/-- A write over a broken socket leaves the wire alone. -/
theorem write_of_broken (broken : connection.outlet.broken ≠ none) (acceptance : Acceptance) :
    (connection.write acceptance).outlet.wire = connection.outlet.wire ∧
      (connection.write acceptance).outlet.broken ≠ none := by
  obtain ⟨failure, broken⟩ := Option.ne_none_iff_exists'.mp broken
  rw [Option.ne_none_iff_exists']
  unfold write
  split
  · exact ⟨rfl, failure, broken⟩
  · next caller blocks _ _ =>
    have after := Outlet.step_of_broken broken acceptance blocks
    split <;> next eq =>
      rw [eq] at after
      exact ⟨after.1, failure, after.2⟩

/-- A connection that puts nothing on the wire stays so whatever is queued. -/
theorem Joins.halted {after : Connection} {new : List (Nat × Bytes)}
    (joins : Joins connection after new) (halted : Halted connection late) :
    Halted after late := by
  rcases halted with broken | ⟨cancelled, quiet⟩
  · exact .inl (joins.outlet ▸ broken)
  · exact .inr ⟨joins.cancelled cancelled, joins.work ▸ quiet⟩

/-- A connection that puts nothing on the wire keeps to it. -/
theorem Halted.step (halted : Halted connection late) {action : Action}
    (heeds : connection.heeds late action = true) :
    Halted (connection.step action) (connection.lateAfter late action) ∧
      (connection.step action).outlet.wire = connection.outlet.wire := by
  cases action with
  | submit blocks =>
    have joins := submit_joins connection blocks
    exact ⟨joins.halted halted, congrArg Outlet.wire joins.outlet⟩
  | begin =>
    have outlet : connection.begin.outlet = connection.outlet := by
      cases work : connection.work with
      | idle => cases begin_begun work <;> assumption
      | writing => rw [begin_of_writing work]
    refine ⟨?_, congrArg Outlet.wire outlet⟩
    rcases halted with broken | ⟨cancelled, quiet⟩
    · exact .inl (outlet ▸ broken)
    · -- whatever is taken up now began after the stop
      refine .inr ⟨begin_cancelled.trans cancelled, .inr ?_⟩
      simp only [lateAfter]
      split
      case isTrue => exact cancelled
      case isFalse busy => exact quiet.resolve_left busy
  | write acceptance =>
    rcases halted with broken | ⟨cancelled, quiet⟩
    · have after := write_of_broken broken acceptance
      exact ⟨.inl after.2, after.1⟩
    · have idle : connection.work = .idle := by
        refine quiet.elim id fun late => ?_
        simpa [Connection.heeds, late, Action.isWrite] using heeds
      have same : connection.step (.write acceptance) = connection := write_of_idle idle acceptance
      exact same.symm ▸ ⟨.inr ⟨cancelled, quiet⟩, rfl⟩
  | giveUp =>
    simp only [Connection.step, giveUp, lateAfter]
    split
    · split
      · refine ⟨?_, rfl⟩
        rcases halted with broken | ⟨cancelled, _⟩
        · exact .inl broken
        · exact .inr ⟨cancelled, .inl rfl⟩
      · exact ⟨halted, rfl⟩
    · exact ⟨halted, rfl⟩
  | take caller =>
    have joins := take_joins connection caller
    exact ⟨joins.halted halted, congrArg Outlet.wire joins.outlet⟩
  | stop =>
    have joins := stop_joins connection
    exact ⟨joins.halted halted, congrArg Outlet.wire joins.outlet⟩

/-- Nothing reaches a settled wire. -/
theorem Halted.run {schedule : List Action} (halted : Halted connection late)
    (heeds : connection.heedsAll late schedule = true) :
    (connection.run schedule).outlet.wire = connection.outlet.wire := by
  induction schedule generalizing connection late with
  | nil => rfl
  | cons action rest ih =>
    simp only [heedsAll, Bool.and_eq_true] at heeds
    have after := halted.step heeds.1
    exact (ih after.1 heeds.2).trans after.2

/-! ### Stages -/

/-- Between two messages. -/
structure Between (connection : Connection) (whole : List (Nat × Bytes)) : Prop where
  /-- The worker waits for a job. -/
  idle : connection.work = .idle
  /-- The socket works. -/
  sound : connection.outlet.Sound
  /-- Nothing is held. -/
  empty : connection.outlet.buffer = []
  /-- What was written is on the wire. -/
  wire : connection.outlet.wire = contents whole
  /-- What was written and what waits was queued in this order. -/
  order : (whole ++ connection.waiting).Sublist connection.queued

/-- Within a message, a part of which is on the wire. -/
structure Within (connection : Connection) (whole : List (Nat × Bytes)) (caller : Nat)
    (message part : Bytes) (blocks : List Bytes) : Prop where
  /-- The worker writes for the caller. -/
  work : ∃ fresh, connection.work = .writing caller blocks fresh
  /-- The socket works. -/
  sound : connection.outlet.Sound
  /-- The part is on the wire, behind what was written before. -/
  wire : connection.outlet.wire = contents whole ++ part
  /-- The rest of the message is held or left. -/
  account : part ++ (connection.outlet.held ++ blocks.flatten) = message
  /-- What was written, the message and what waits was queued in this order. -/
  order : (whole ++ (caller, message) :: connection.waiting).Sublist connection.queued

/-- After a write was cut short. -/
structure Settled (connection : Connection) (whole : List (Nat × Bytes)) (message : Nat × Bytes)
    (part : Bytes) : Prop where
  /-- A part of the message is on the wire, behind what was written before. -/
  wire : connection.outlet.wire = contents whole ++ part
  /-- It is the beginning of the message. -/
  begins : part <+: message.2
  /-- What was written and the message was queued in this order. -/
  order : (whole ++ [message]).Sublist connection.queued

/-- How far the worker of a connection is. -/
inductive Stage (connection : Connection) (late : Bool) : Prop where
  /-- It is between two messages. -/
  | between (whole : List (Nat × Bytes)) (between : Between connection whole)
  /-- It is within a message. -/
  | within (whole : List (Nat × Bytes)) (caller : Nat) (message part : Bytes)
      (blocks : List Bytes) (within : Within connection whole caller message part blocks)
  /-- A write was cut short, and the wire is settled. -/
  | settled (whole : List (Nat × Bytes)) (message : Nat × Bytes) (part : Bytes)
      (halted : Halted connection late) (settled : Settled connection whole message part)

/-- A new connection is between two messages, of which there are none yet. -/
theorem spawn_between (card : Card) (writeBlock : Nat) : Between (spawn card writeBlock) [] :=
  ⟨rfl, Outlet.start_sound, rfl, rfl, List.Sublist.refl []⟩

/-- The message in progress was queued behind those that were written. -/
theorem Within.order_head {whole : List (Nat × Bytes)} {caller : Nat} {message part : Bytes}
    {blocks : List Bytes} (within : Within connection whole caller message part blocks) :
    (whole ++ [(caller, message)]).Sublist connection.queued := by
  have order := within.order
  rw [List.append_cons] at order
  exact (List.sublist_append_left _ _).trans order

/-- In every stage the wire holds whole messages and then at most the beginning of one more. -/
theorem Stage.wholeThenPart (stage : Stage connection late) :
    WholeThenPart connection.queued connection.wire := by
  unfold Connection.wire
  cases stage with
  | between whole between =>
    refine ⟨whole, [], by rw [between.wire, List.append_nil], .inl ⟨rfl, ?_⟩⟩
    exact (List.sublist_append_left _ _).trans between.order
  | within _ _ _ _ _ within =>
    exact within.wire ▸ wholeThenPart_of_prefix within.order_head ⟨_, within.account⟩
  | settled _ _ _ _ settled =>
    exact settled.wire ▸ wholeThenPart_of_prefix settled.order settled.begins

/-! ### One step -/

section step

variable {after : Connection} {whole : List (Nat × Bytes)} {caller : Nat} {message part : Bytes}
  {blocks : List Bytes} {new : List (Nat × Bytes)}

/-- Between two messages any number may be queued. -/
theorem Between.joins (between : Between connection whole) (joins : Joins connection after new) :
    Between after whole := by
  refine ⟨joins.work.trans between.idle, joins.outlet ▸ between.sound,
    joins.outlet ▸ between.empty, joins.outlet ▸ between.wire, ?_⟩
  rw [joins.waiting, joins.queued, ← List.append_assoc]
  exact between.order.append (List.Sublist.refl new)

/-- Within a message any number may be queued. -/
theorem Within.joins (within : Within connection whole caller message part blocks)
    (joins : Joins connection after new) : Within after whole caller message part blocks := by
  refine ⟨joins.work ▸ within.work, joins.outlet ▸ within.sound,
    joins.outlet ▸ within.wire, joins.outlet ▸ within.account, ?_⟩
  rw [joins.waiting, joins.queued, ← List.cons_append, ← List.append_assoc]
  exact within.order.append (List.Sublist.refl new)

/-- A worker between two messages takes up the next one, if there is one. -/
theorem Between.begin (between : Between connection whole) : Stage connection.begin late := by
  have nothing : connection.outlet.held = [] := Outlet.held_of_buffer_eq_nil between.empty
  cases begin_begun between.idle with
  | message caller blocks work outlet queued waiting =>
    refine .within whole caller blocks.flatten [] blocks
      ⟨⟨true, work⟩, outlet ▸ between.sound, ?_, ?_, ?_⟩
    · rw [outlet, between.wire, List.append_nil]
    · rw [outlet, nothing, List.nil_append, List.nil_append]
    · rw [← waiting, queued]
      exact between.order
  | nothing work outlet queued waiting =>
    refine .between whole ⟨work, outlet ▸ between.sound, outlet ▸ between.empty,
      outlet ▸ between.wire, ?_⟩
    rw [queued]
    exact ((List.Sublist.refl whole).append waiting).trans between.order

/-- A worker between two messages stays there while it takes up nothing. -/
theorem Between.step (between : Between connection whole) (action : Action) :
    Stage (connection.step action) (connection.lateAfter late action) := by
  cases action with
  | submit blocks =>
    exact .between whole (between.joins (submit_joins connection blocks))
  | begin => exact between.begin
  | write acceptance =>
    have same : connection.step (.write acceptance) = connection :=
      write_of_idle between.idle acceptance
    exact .between whole (same.symm ▸ between)
  | giveUp =>
    have same : connection.step .giveUp = connection := giveUp_of_idle between.idle
    exact .between whole (same.symm ▸ between)
  | take caller => exact .between whole (between.joins (take_joins connection caller))
  | stop => exact .between whole (between.joins (stop_joins connection))

/-- A write that is cut short leaves on the wire what it has put there. -/
theorem Within.settled (within : Within connection whole caller message part blocks)
    (wire : after.outlet.wire = connection.outlet.wire)
    (queued : connection.queued.Sublist after.queued) :
    Settled after whole (caller, message) part :=
  ⟨wire.trans within.wire, ⟨_, within.account⟩, within.order_head.trans queued⟩

/-- One stretch of a write. -/
theorem Within.write (within : Within connection whole caller message part blocks)
    (acceptance : Acceptance) : Stage (connection.write acceptance) late := by
  have queued := write_queued connection acceptance
  obtain ⟨_, writing⟩ := within.work
  cases write_written within.sound writing acceptance with
  | moved left taken work sound wire account waiting =>
    refine .within whole caller message (part ++ taken) left ⟨⟨false, work⟩, sound, ?_, ?_, ?_⟩
    · rw [wire, within.wire, List.append_assoc]
    · rw [List.append_assoc, account, within.account]
    · rw [waiting, queued]
      exact within.order
  | done work outlet held left sent waiting =>
    -- nothing is held or left: the part is the message
    have all : part = message := by
      have account := within.account
      rw [Outlet.held_of_buffer_eq_nil held, left] at account
      simpa using account
    refine .between (whole ++ [(caller, message)])
      ⟨work, outlet ▸ within.sound, outlet ▸ held, ?_, ?_⟩
    · rw [outlet, within.wire, all, contents_concat]
    · rw [waiting, queued, ← List.append_cons]
      exact within.order
  | failed wire broken =>
    exact .settled whole (caller, message) part (.inl broken)
      (within.settled wire (queued ▸ List.Sublist.refl _))

/-- A worker that is stopped within a message may give it up. -/
theorem Within.giveUp (within : Within connection whole caller message part blocks) :
    Stage connection.giveUp late := by
  obtain ⟨_, writing⟩ := within.work
  unfold Connection.giveUp
  rw [writing]
  dsimp only
  split
  case isTrue heard =>
    have cancelled := (Bool.and_eq_true_iff.mp heard).1
    exact .settled whole (caller, message) part (.inr ⟨cancelled, .inl rfl⟩)
      (within.settled rfl (List.Sublist.refl _))
  case isFalse => exact .within whole caller message part blocks within

/-- A worker within a message goes on with it, or leaves a settled wire. -/
theorem Within.step (within : Within connection whole caller message part blocks)
    (action : Action) : Stage (connection.step action) (connection.lateAfter late action) := by
  cases action with
  | submit added =>
    exact .within whole caller message part blocks (within.joins (submit_joins connection added))
  | begin =>
    obtain ⟨_, writing⟩ := within.work
    have same : connection.step .begin = connection := begin_of_writing writing
    exact .within whole caller message part blocks (same.symm ▸ within)
  | write acceptance => exact within.write acceptance
  | giveUp => exact within.giveUp
  | take asker =>
    exact .within whole caller message part blocks (within.joins (take_joins connection asker))
  | stop => exact .within whole caller message part blocks (within.joins (stop_joins connection))

end step

/-- Every step leads from stage to stage, if no job that began after the stop writes. -/
theorem stage_step (stage : Stage connection late) {action : Action}
    (heeds : connection.heeds late action = true) :
    Stage (connection.step action) (connection.lateAfter late action) := by
  cases stage with
  | between _ between => exact between.step action
  | within _ _ _ _ _ within => exact within.step action
  | settled whole message part halted settled =>
    have after := halted.step heeds
    exact .settled whole message part after.1
      ⟨after.2.trans settled.wire, settled.begins,
        settled.order.trans (queued_sublist_step connection action)⟩

/-! ### Schedules -/

/-- Every schedule leads from stage to stage, if no job that begins after the stop writes. -/
theorem stage_run {schedule : List Action} (stage : Stage connection late)
    (heeds : connection.heedsAll late schedule = true) :
    Stage (connection.run schedule) (connection.lateAfterAll late schedule) := by
  induction schedule generalizing connection late with
  | nil => exact stage
  | cons action rest ih =>
    simp only [heedsAll, Bool.and_eq_true] at heeds
    exact ih (stage_step stage heeds.1) heeds.2

/-- Whether a step ends the write in progress before all of the message is on the wire, and its
caller is told so: it was given up, or the socket has failed. -/
def cutsShort (connection : Connection) (action : Action) : Bool :=
  connection.work ≠ .idle && (connection.step action).work = .idle &&
    (connection.step action).sent.head?.any fun entry => entry.2.isSome

/-- A step that cuts a write short leaves the wire alone, and settles it. -/
theorem Stage.halted_of_cutsShort {action : Action} (stage : Stage connection late)
    (heeds : connection.heeds late action = true) (cut : connection.cutsShort action = true) :
    Halted (connection.step action) (connection.lateAfter late action) ∧
      (connection.step action).outlet.wire = connection.outlet.wire := by
  simp only [cutsShort, ne_eq, decide_not, Bool.and_eq_true, Bool.not_eq_true',
    decide_eq_false_iff_not, decide_eq_true_eq] at cut
  obtain ⟨⟨busy, idle⟩, told⟩ := cut
  cases stage with
  | between _ between => exact absurd between.idle busy
  | settled _ _ _ halted _ => exact halted.step heeds
  | within _ _ _ _ _ within =>
    obtain ⟨_, writing⟩ := within.work
    -- whatever leaves the worker at its message does not end the write
    have ends (same : (connection.step action).work = connection.work) : False :=
      busy (same.symm.trans idle)
    cases action with
    | submit blocks => exact (ends (submit_joins connection blocks).work).elim
    | begin => exact (ends (congrArg Connection.work (begin_of_writing writing))).elim
    | write acceptance =>
      cases write_written within.sound writing acceptance with
      | moved left taken continues => cases continues.symm.trans idle
      | done _ _ _ _ sent =>
        have none : (connection.step (.write acceptance)).sent = _ := sent
        rw [none] at told
        cases told
      | failed wire broken => exact ⟨.inl broken, wire⟩
    | giveUp =>
      simp only [Connection.step, Connection.giveUp, writing] at idle ⊢
      split at idle
      case isTrue heard =>
        rw [if_pos heard]
        exact ⟨.inr ⟨(Bool.and_eq_true_iff.mp heard).1, .inl rfl⟩, rfl⟩
      case isFalse => exact absurd idle busy
    | take caller => exact (ends (take_joins connection caller).work).elim
    | stop => exact (ends (stop_joins connection).work).elim

/-- **Messages do not mix on the wire**, if no job that begins after the stop writes. Whatever
callers, the socket and the one who stops the connection do, the wire holds whole messages in the
order in which they were queued, and then at most the beginning of one more; and what is on the wire
when a write is cut short is all that ever gets there. What is queued are the messages that were
submitted, and each of them has the bytes of what its caller sends. -/
theorem run_wholeThenPart (card : Card) (writeBlock : Nat) (schedule : List Action)
    (heeds : (spawn card writeBlock).heedsAll false schedule = true) :
    WholeThenPart ((spawn card writeBlock).run schedule).queued
        ((spawn card writeBlock).run schedule).wire ∧
      (∀ before action after, schedule = before ++ action :: after →
        ((spawn card writeBlock).run before).cutsShort action = true →
          ((spawn card writeBlock).run schedule).wire =
            ((spawn card writeBlock).run before).wire) ∧
      ((spawn card writeBlock).run schedule).queued =
        (spawn card writeBlock).submissions schedule ∧
      ∀ message blocks, ((spawn card writeBlock).run schedule).prepare message = .ok blocks →
        message.bytes = .ok blocks.flatten := by
  have start : Stage (spawn card writeBlock) false :=
    .between [] (spawn_between card writeBlock)
  refine ⟨(stage_run start heeds).wholeThenPart, ?_, queued_run _ schedule,
    fun message blocks => bytes_of_prepare⟩
  intro before action after split cut
  subst split
  rw [heedsAll_append, Bool.and_eq_true] at heeds
  have rest := heeds.2
  simp only [heedsAll, Bool.and_eq_true] at rest
  obtain ⟨halted, wire⟩ := (stage_run start heeds.1).halted_of_cutsShort rest.1 cut
  rw [run_append]
  exact (halted.run rest.2).trans wire

/-! ### A job that begins after the stop and writes -/

/-- Some peer. -/
def somePeer : Card := ⟨⟨1⟩, .localhost 9000⟩

/-- Two callers submit a message of one block each. -/
def submitTwo (first second : Bytes) : List Action := [.submit [first], .submit [second]]

/-- The socket takes one byte of the first message before the connection is stopped. -/
def writeOne : List Action := [.begin, .write (.took 1), .stop]

/-- A block that goes past the buffer. When the socket has taken one byte, what is left of it still
does, so that the write waits for the socket. -/
def largeBlock : Bytes := List.replicate (Outlet.capacity + 1) 0

/-- What two callers submit is queued under their numbers, in this order. -/
theorem queued_submitTwo (first second : Bytes) {rest : List Action}
    (others : ∀ action ∈ rest, action.isSubmit = false) :
    ((spawn somePeer 4096).run (submitTwo first second ++ rest)).queued =
      [(0, first), (1, second)] := by
  rw [run_append, queued_run_of_not_submit _ others]
  simp [submitTwo, somePeer, spawn, run, step, submit, queued, isRunning]

/-- Both messages are given up after the first byte, which stays alone on the wire. -/
theorem run_wholeThenPart_of_cut :
    (spawn somePeer 4096).heedsAll false
        (submitTwo largeBlock [1] ++ writeOne ++ [.giveUp, .begin, .giveUp, .begin]) = true ∧
      ((spawn somePeer 4096).run (submitTwo largeBlock [1] ++ writeOne)).cutsShort .giveUp =
        true ∧
      WholeThenPart [(0, largeBlock), (1, [1])] [0] := by
  have heeds : (spawn somePeer 4096).heedsAll false
      (submitTwo largeBlock [1] ++ writeOne ++ [.giveUp, .begin, .giveUp, .begin]) = true := by
    decide +kernel
  have cut : ((spawn somePeer 4096).run
      (submitTwo largeBlock [1] ++ writeOne)).cutsShort .giveUp = true := by
    decide +kernel
  have wire : ((spawn somePeer 4096).run (submitTwo largeBlock [1] ++ writeOne)).wire = [0] := by
    decide +kernel
  obtain ⟨whole, settled, -, -⟩ := run_wholeThenPart somePeer 4096 _ heeds
  rw [settled _ _ _ rfl cut, wire, List.append_assoc,
    queued_submitTwo largeBlock [1] (by decide)] at whole
  exact ⟨heeds, cut, whole⟩

/-- One byte of a long message and a whole short one are no messages in order. -/
theorem not_wholeThenPart_mixed :
    ¬ WholeThenPart [(0, largeBlock), (1, [1])] [0, 1] := by
  rintro ⟨whole, part, bytes, ends⟩
  have order : whole.Sublist [(0, largeBlock), (1, [1])] := by
    rcases ends with ⟨_, order⟩ | ⟨_, order, _⟩
    · exact order
    · exact (List.sublist_append_left _ _).trans order
  -- the first message is too long to be among the whole ones
  have long : largeBlock.length = Outlet.capacity + 1 := List.length_replicate
  have short : (0, largeBlock) ∉ whole := by
    intro mem
    have sub : largeBlock.Sublist (contents whole) :=
      List.sublist_flatten_of_mem (List.mem_map_of_mem mem)
    have total : 2 = (contents whole).length + part.length :=
      (congrArg List.length bytes).trans List.length_append
    have := sub.length_le
    rw [long] at this
    unfold Outlet.capacity at this
    omega
  rcases List.sublist_cons_iff.mp order with order | ⟨_, rfl, _⟩
  · rcases List.sublist_cons_iff.mp order with order | ⟨rest, rfl, _⟩
    · -- none is whole: the bytes are the beginning of one message
      rw [List.sublist_nil.mp order] at bytes ends
      rcases ends with ⟨nothing, _⟩ | ⟨message, order, _, begins, _⟩
      · rw [nothing] at bytes
        cases bytes
      · rw [contents_nil, List.nil_append] at bytes
        rw [← bytes] at begins
        have mem : message ∈ [(0, largeBlock), (1, [1])] := order.subset List.mem_cons_self
        rcases List.mem_cons.mp mem with rfl | mem
        · have one : (1 : UInt8) ∈ largeBlock :=
            begins.subset (List.mem_cons_of_mem _ List.mem_cons_self)
          exact absurd (List.eq_of_mem_replicate one) (by decide)
        · rw [List.mem_singleton.mp mem] at begins
          exact absurd begins.length_le (by decide)
    · -- the second one is whole: it would come first
      have first := congrArg List.head? bytes
      exact absurd (Option.some.inj first) (by decide)
  · exact short List.mem_cons_self

/-- **The condition is needed**: if the first message is given up after its first byte and the
second job writes before it notices the stop, its message follows that byte. -/
theorem late_write_mixes :
    ¬ ∀ (card : Card) (writeBlock : Nat) (schedule : List Action),
      WholeThenPart ((spawn card writeBlock).run schedule).queued
        ((spawn card writeBlock).run schedule).wire := by
  intro all
  have mixed := all somePeer 4096 (submitTwo largeBlock [1] ++
    (writeOne ++ [.giveUp, .begin, .write (.took 1), .write (.took 1)]))
  have wire : ((spawn somePeer 4096).run (submitTwo largeBlock [1] ++
      (writeOne ++ [.giveUp, .begin, .write (.took 1), .write (.took 1)]))).wire = [0, 1] := by
    decide +kernel
  rw [wire, queued_submitTwo largeBlock [1] (by decide)] at mixed
  exact not_wholeThenPart_mixed mixed

end Connection

end PeerNet.Tcp
