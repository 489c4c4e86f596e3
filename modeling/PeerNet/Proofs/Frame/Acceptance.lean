import PeerNet.Proofs.Frame.Grammar

/-!
# The parser accepts exactly the grammar

What a parse does is one of four things, and the buffer alone decides which (`parse_outcome`): it
waits for more bytes, takes off a package, refuses a header, or takes off a frame with a body that
is no package.

* **Acceptance** (`parse_classifies`): the parser gives a package iff the buffer begins with a well
  formed frame, which is then the frame of the package; it waits iff bytes are missing; and
  otherwise the frame is malformed.
-/

namespace PeerNet.Frame

/-- What a parse may do with a buffer: what it leaves and what it gives. -/
inductive Outcome (maxBody : Nat) : Bytes → Bytes × Except Fault (Option Package) → Prop where
  /-- Bytes are missing, and all stay. -/
  | waits {buffer : Bytes} (h : Incomplete maxBody buffer) :
      Outcome maxBody buffer (buffer, .ok none)
  /-- A well formed frame is taken off, and its package given. -/
  | gives {frame : Bytes} {package : Package} (h : WellFormed maxBody frame)
      (hframe : package.toFrame = .ok frame) (rest : Bytes) :
      Outcome maxBody (frame ++ rest) (rest, .ok (some package))
  /-- The header is at fault, and all bytes stay. -/
  | badHeader {buffer : Bytes} {fault : Fault} (hlength : headerLength ≤ buffer.length)
      (h : ∀ tag length, ¬Announces maxBody buffer tag length)
      (hfault : fault.toError = .malformedProtocol fault.message) :
      Outcome maxBody buffer (buffer, .error fault)
  /-- The body is at fault, and the frame is taken off. -/
  | badBody {frame : Bytes} {tag : Tag} {length : Nat} {fault : Fault}
      (h : Announces maxBody frame tag length) (hlength : frame.length = headerLength + length)
      (hbody : ¬BodyOf tag (frame.drop headerLength))
      (hfault : fault.toError = .malformedProtocol fault.message) (rest : Bytes) :
      Outcome maxBody (frame ++ rest) (rest, .error fault)

/-- **A parse does one of the four things.** -/
theorem parse_outcome (maxBody : Nat) (buffer : Bytes) :
    Outcome maxBody buffer (Package.parse buffer maxBody) := by
  cases Header.front maxBody buffer with
  | short h =>
    rw [Package.parse_short maxBody h]
    exact .waits (.inl h)
  | @cut header hallowed after h =>
    rw [Package.parse_cut hallowed h]
    refine .waits (.inr ⟨header.tag, header.bodyLength.toNat,
      announces_iff.2 ⟨header, after, hallowed, rfl, rfl, rfl⟩, ?_⟩)
    rw [List.length_append, header.length_toBytes]
    exact Nat.add_lt_add_left h _
  | @whole header hallowed body h rest =>
    rw [Package.parse_whole hallowed h, ← List.append_assoc]
    have hbare := hallowed.body_eq_nil h
    cases hbody : Package.ofBody header.tag body with
    | ok package =>
      refine .gives ?_ (Package.toFrame_of_ofBody hallowed h hbody).1 rest
      exact (wellFormed_append_iff hallowed h).2 ((exists_ofBody_iff hbare).1 ⟨package, hbody⟩)
    | error fault =>
      refine .badBody (announces_iff.2 ⟨header, body, hallowed, rfl, rfl, rfl⟩) ?_ ?_
        (toError_of_ofBody_eq_error hbody) rest
      · rw [List.length_append, header.length_toBytes, h]
      · rw [List.drop_left' header.length_toBytes, ← exists_ofBody_iff hbare, hbody]
        rintro ⟨package, hpackage⟩
        cases hpackage
  | refused h =>
    rw [Package.parse_refuses h]
    exact .badHeader h.headerLength_le (not_announces_of_refuses h) h.malformed

/-- **The parser accepts exactly the grammar, and the encoding is canonical.** A package is given
iff the buffer begins with a well formed frame, which is then taken off and is the frame of the
package byte for byte. The parser waits, and leaves the buffer as it is, iff bytes are missing.
Otherwise the frame is malformed; a buffer with a fault in the header stays, and of one with a fault
in the body exactly the frame is taken off. -/
theorem parse_classifies (maxBody : Nat) (buffer : Bytes) :
    ((∃ package, (Package.parse buffer maxBody).2 = .ok (some package)) ↔
      ∃ frame, frame <+: buffer ∧ WellFormed maxBody frame) ∧
    (∀ package, (Package.parse buffer maxBody).2 = .ok (some package) →
      ∃ frame, WellFormed maxBody frame ∧ package.toFrame = .ok frame ∧
        buffer = frame ++ (Package.parse buffer maxBody).1) ∧
    ((Package.parse buffer maxBody).2 = .ok none ↔ Incomplete maxBody buffer) ∧
    (Incomplete maxBody buffer → (Package.parse buffer maxBody).1 = buffer) ∧
    (Malformed maxBody buffer →
      ∃ fault, (Package.parse buffer maxBody).2 = .error fault ∧
        fault.toError = .malformedProtocol fault.message ∧
        ((∀ tag length, ¬Announces maxBody buffer tag length) →
          (Package.parse buffer maxBody).1 = buffer) ∧
        ∀ tag length, Announces maxBody buffer tag length →
          ∃ frame, frame.length = headerLength + length ∧
            buffer = frame ++ (Package.parse buffer maxBody).1) := by
  have houtcome := parse_outcome maxBody buffer
  generalize Package.parse buffer maxBody = out at houtcome
  cases houtcome with
  | waits h =>
    have hno : ¬∃ frame, frame <+: buffer ∧ WellFormed maxBody frame := by
      rintro ⟨frame, ⟨rest, rfl⟩, hframe⟩
      exact hframe.not_incomplete rest h
    refine ⟨?_, ?_, ?_, fun _ => rfl, fun hbad => absurd h hbad.1⟩
    · exact ⟨fun hpackage => by simp at hpackage, fun hframe => absurd hframe hno⟩
    · intro package hpackage
      cases hpackage
    · exact ⟨fun _ => h, fun _ => rfl⟩
  | @gives frame package h hframe rest =>
    have hcomplete := h.not_incomplete rest
    have hyes : ∃ front, front <+: frame ++ rest ∧ WellFormed maxBody front :=
      ⟨frame, ⟨rest, rfl⟩, h⟩
    refine ⟨⟨fun _ => hyes, fun _ => ⟨package, rfl⟩⟩, ?_, ?_, fun h => absurd h hcomplete,
      fun hbad => absurd hyes hbad.2⟩
    · rintro package' hpackage
      cases hpackage
      exact ⟨frame, h, hframe, rfl⟩
    · exact ⟨fun hnone => (by simp at hnone), fun h => absurd h hcomplete⟩
  | @badHeader _ fault hlength h hfault =>
    obtain ⟨hcomplete, hno⟩ := malformed_of_not_announces hlength h
    refine ⟨⟨fun hpackage => (by simp at hpackage), fun hyes => absurd hyes hno⟩, ?_, ?_,
      fun _ => rfl, fun _ => ⟨fault, rfl, hfault, fun _ => rfl, ?_⟩⟩
    · intro package hpackage
      cases hpackage
    · exact ⟨fun hnone => (by simp at hnone), fun h => absurd h hcomplete⟩
    · exact fun tag length hannounces => absurd hannounces (h tag length)
  | @badBody frame tag length fault h hlength hbody hfault rest =>
    obtain ⟨hcomplete, hno⟩ := malformed_of_not_bodyOf h hlength hbody rest
    refine ⟨⟨fun hpackage => (by simp at hpackage), fun hyes => absurd hyes hno⟩, ?_, ?_,
      fun h => absurd h hcomplete, fun _ => ⟨fault, rfl, hfault, fun hnone => ?_, ?_⟩⟩
    · intro package hpackage
      cases hpackage
    · exact ⟨fun hnone => (by simp at hnone), fun h => absurd h hcomplete⟩
    · exact absurd (h.append rest) (hnone tag length)
    · intro tag' length' hannounces
      obtain ⟨-, rfl⟩ := (h.append rest).unique hannounces
      exact ⟨frame, hlength, rfl⟩

end PeerNet.Frame
