import PeerNet.Tcp.Outlet

/-!
# Where the bytes of a write are

The bytes that a writer is given go to the socket through the buffer or past it, and at any time
some of them are on the wire, some are held in the buffer, and some are left to the writer.

* **One offer** (`offer_took`, `offer_failed`): what the socket takes goes to the end of the wire.
* **Emptying the buffer** (`drain_account`): what is held goes to the wire from its front on.
* **One stretch** (`step_account`): the bytes that were held and those that were left go, in this
  order, to the wire, into the buffer, and to the next stretch. Nothing is lost, doubled or moved
  past something else, and a write is done only when nothing is held or left.
* **A broken socket** (`step_of_broken`): nothing reaches the wire any more.
-/

namespace PeerNet.Tcp.Outlet

/-- The bytes in the buffer that the socket has not taken. -/
def held (outlet : Outlet) : Bytes := outlet.buffer.drop outlet.flushed

/-- An outlet over a socket that works. -/
structure Sound (outlet : Outlet) : Prop where
  /-- The socket has not failed. -/
  works : outlet.broken = none
  /-- No more was taken from the buffer than is in it. -/
  flushed_le : outlet.flushed ≤ outlet.buffer.length

/-- The outlet of a new connection is over a socket that works. -/
theorem start_sound : start.Sound := ⟨rfl, Nat.le_refl 0⟩

variable {outlet : Outlet} {bytes : Bytes} {blocks : List Bytes} {failure : IoFailure}

/-- An empty buffer holds nothing. -/
theorem held_of_buffer_eq_nil (empty : outlet.buffer = []) : outlet.held = [] := by
  simp [held, empty]

/-! ### Offers -/

/-- What the socket takes of an offer goes to the end of the wire, and it takes no more than there
is. -/
theorem offer_took (works : outlet.broken = none) (count : Nat) :
    outlet.offer bytes (.took count) =
      ({ outlet with wire := outlet.wire ++ bytes.take count }, .ok (min count bytes.length)) := by
  simp [offer, works]

/-- When the socket fails nothing of the offer reaches the wire. -/
theorem offer_failed (works : outlet.broken = none) :
    outlet.offer bytes (.failed failure) =
      ({ outlet with broken := some failure }, .error failure) := by
  simp [offer, works]

/-- A socket that has failed takes nothing any more. -/
theorem offer_of_broken (broken : outlet.broken = some failure) (acceptance : Acceptance) :
    outlet.offer bytes acceptance = (outlet, .error failure) := by
  simp [offer, broken]

/-- What becomes of the bytes that are held when the buffer is emptied as far as the socket lets
it. -/
inductive Drained (before : Outlet) : Outlet × Except IoFailure Unit → Prop where
  /-- The socket takes some of them from the front on. -/
  | moved {after : Outlet} (taken : Bytes) (sound : after.Sound)
      (wire : after.wire = before.wire ++ taken) (account : taken ++ after.held = before.held) :
      Drained before (after, .ok ())
  /-- The socket fails. -/
  | failed {after : Outlet} {failure : IoFailure} (wire : after.wire = before.wire)
      (broken : after.broken = some failure) : Drained before (after, .error failure)

/-- Emptying the buffer brings what is held to the wire, from its front on. -/
theorem drain_account (sound : outlet.Sound) (acceptance : Acceptance) :
    Drained outlet (outlet.drain acceptance) := by
  cases acceptance with
  | failed failure =>
    simp only [drain, offer_failed sound.works]
    exact .failed rfl rfl
  | took count =>
    simp only [drain, offer_took sound.works]
    have whole := sound.flushed_le
    have offered : (outlet.buffer.drop outlet.flushed).length =
        outlet.buffer.length - outlet.flushed := List.length_drop
    split
    case isTrue full =>
      -- the socket took all that was held
      have all : outlet.held.take count = outlet.held := by
        apply List.take_of_length_le
        simp only [held, offered] at full ⊢
        omega
      refine .moved outlet.held ⟨sound.works, Nat.le_refl 0⟩ ?_ (List.append_nil _)
      exact congrArg (outlet.wire ++ ·) all
    case isFalse short =>
      have count_lt : min count (outlet.buffer.drop outlet.flushed).length = count := by
        rw [offered] at short ⊢
        omega
      rw [count_lt] at short ⊢
      have flushed_le : outlet.flushed + count ≤ outlet.buffer.length := by omega
      refine .moved (outlet.held.take count) ⟨sound.works, flushed_le⟩ rfl ?_
      simp only [held, ← List.drop_drop]
      exact List.take_append_drop count _

/-! ### One stretch -/

/-- What becomes of the bytes that are held and those that are left in one stretch of a writer. -/
inductive Stretch (before : Outlet) (blocks : List Bytes) : Outlet × Progress → Prop where
  /-- Some of them are taken from the front on, and the write goes on. -/
  | moved {after : Outlet} {left : List Bytes} (taken : Bytes) (sound : after.Sound)
      (wire : after.wire = before.wire ++ taken)
      (account : taken ++ (after.held ++ left.flatten) = before.held ++ blocks.flatten) :
      Stretch before blocks (after, .writing left)
  /-- There were none, and the write is done. -/
  | done (held : before.buffer = []) (left : blocks = []) : Stretch before blocks (before, .done)
  /-- The socket fails. -/
  | failed {after : Outlet} {failure : IoFailure} (wire : after.wire = before.wire)
      (broken : after.broken = some failure) : Stretch before blocks (after, .failed failure)

/-- A stretch that only empties the buffer leaves the blocks as they are. -/
theorem drain_stretch (sound : outlet.Sound) (acceptance : Acceptance) (blocks : List Bytes) :
    Stretch outlet blocks
      (match outlet.drain acceptance with
        | (after, .error failure) => (after, .failed failure)
        | (after, .ok ()) => (after, .writing blocks)) := by
  have drained := drain_account sound acceptance
  generalize outlet.drain acceptance = result at drained ⊢
  cases drained with
  | moved taken sound wire account =>
    exact .moved taken sound wire (by rw [← List.append_assoc, account])
  | failed wire broken => exact .failed wire broken

/-- A block that goes past the buffer goes behind an empty one. -/
theorem offer_stretch (sound : outlet.Sound) (empty : outlet.buffer = []) (block : Bytes)
    (rest : List Bytes) (acceptance : Acceptance) :
    Stretch outlet (block :: rest)
      (match outlet.offer block acceptance with
        | (after, .error failure) => (after, .failed failure)
        | (after, .ok count) => (after, .writing (block.drop count :: rest))) := by
  cases acceptance with
  | failed failure =>
    rw [offer_failed sound.works]
    exact .failed rfl rfl
  | took count =>
    rw [offer_took sound.works]
    have left : block.drop (min count block.length) = block.drop count := by
      rcases Nat.le_total count block.length with short | long
      · rw [Nat.min_eq_left short]
      · rw [Nat.min_eq_right long, List.drop_length, List.drop_eq_nil_of_le long]
    refine .moved (block.take count) ⟨sound.works, sound.flushed_le⟩ rfl ?_
    have nothing : outlet.held = [] := held_of_buffer_eq_nil empty
    have unchanged :
        ({ outlet with wire := outlet.wire ++ block.take count } : Outlet).held = outlet.held := rfl
    rw [unchanged, nothing, List.nil_append, List.nil_append, List.flatten_cons, List.flatten_cons,
      left, ← List.append_assoc, List.take_append_drop]

/-- One stretch takes bytes from the front of what is held and left, or finds none, or fails. -/
theorem step_account (sound : outlet.Sound) (acceptance : Acceptance) (blocks : List Bytes) :
    Stretch outlet blocks (outlet.step acceptance blocks) := by
  cases blocks with
  | nil =>
    simp only [step]
    split
    case isTrue empty => exact .done (List.isEmpty_iff.mp empty) rfl
    case isFalse => exact drain_stretch sound acceptance []
  | cons block rest =>
    simp only [step]
    split
    case isTrue none =>
      -- an empty block
      have none : block = [] := List.isEmpty_iff.mp none
      exact .moved [] sound (List.append_nil _).symm (by simp [none])
    case isFalse =>
      split
      case isTrue => exact drain_stretch sound acceptance (block :: rest)
      case isFalse fits =>
        split
        case isTrue large =>
          -- whoever goes past the buffer has found it empty, or it would have been emptied first
          have empty : outlet.buffer = [] := by
            simp only [Bool.and_eq_true, Bool.not_eq_true', decide_eq_true_eq, not_and,
              Bool.eq_false_iff, ne_eq, List.isEmpty_iff] at fits
            refine Decidable.byContradiction fun nonempty => fits nonempty ?_
            have := List.length_pos_iff.mpr nonempty
            omega
          exact offer_stretch sound empty block rest acceptance
        case isFalse =>
          have whole := sound.flushed_le
          refine .moved [] ⟨sound.works, ?_⟩ (List.append_nil _).symm ?_
          · simp only [List.length_append]
            omega
          · simp only [held, List.drop_append_of_le_length whole, List.nil_append,
              List.append_assoc, List.flatten_cons]

/-! ### A broken socket -/

/-- Over a broken socket the buffer cannot be emptied. -/
theorem drain_of_broken (broken : outlet.broken = some failure) (acceptance : Acceptance) :
    outlet.drain acceptance = (outlet, .error failure) := by
  simp [drain, offer_of_broken broken]

/-- Over a broken socket a stretch puts nothing on the wire. -/
theorem step_of_broken (broken : outlet.broken = some failure) (acceptance : Acceptance)
    (blocks : List Bytes) :
    (outlet.step acceptance blocks).1.wire = outlet.wire ∧
      (outlet.step acceptance blocks).1.broken = some failure := by
  cases blocks with
  | nil =>
    simp only [step, drain_of_broken broken]
    split <;> exact ⟨rfl, broken⟩
  | cons block rest =>
    simp only [step, drain_of_broken broken, offer_of_broken broken]
    split
    · exact ⟨rfl, broken⟩
    · split
      · exact ⟨rfl, broken⟩
      · split <;> exact ⟨rfl, broken⟩

end PeerNet.Tcp.Outlet
