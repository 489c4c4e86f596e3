import PeerNet.Frame.Reader
import PeerNet.Proofs.Frame.Acceptance

/-!
# A stream is read the same however it is cut

The bytes behind a package or a fault do not change what a parse gives. So a reader gives the same
whether a chunk has arrived already or arrives later, and reading any chunks is reading all of them
at once.

* **More bytes** (`Package.parse_append_some`, `Package.parse_append_error`): a package or a fault
  that is found in a buffer is found in every longer one.
* **Chunks** (`next_gather`, `all_gather`): reading commutes with the arrival of all chunks.
* **Endings** (`exists_endsAs`, `flatten_append_inj`): a stream is a row of well formed frames and a
  rest that begins with none, in one way only, and the rest tells how reading ends (`EndsAs`).
* **Cutting** (`all_chunks`): the packages and the ending depend on the stream only.
-/

namespace PeerNet.Frame

/-! ### Parsing with more bytes -/

/-- A package that is parsed is parsed all the same when more bytes have arrived. -/
theorem Package.parse_append_some {buffer rest : Bytes} {maxBody : Nat} {package : Package}
    (h : parse buffer maxBody = (rest, .ok (some package))) (tail : Bytes) :
    parse (buffer ++ tail) maxBody = (rest ++ tail, .ok (some package)) := by
  obtain ⟨frame, hframe, hfits, rfl⟩ := parse_eq_some_iff.1 h
  exact parse_eq_some_iff.2 ⟨frame, hframe, hfits, List.append_assoc _ _ _⟩

/-- A fault that is found is found all the same when more bytes have arrived. -/
theorem Package.parse_append_error {buffer rest : Bytes} {maxBody : Nat} {fault : Fault}
    (h : parse buffer maxBody = (rest, .error fault)) (tail : Bytes) :
    parse (buffer ++ tail) maxBody = (rest ++ tail, .error fault) := by
  cases Header.front maxBody buffer with
  | short hshort =>
    rw [parse_short maxBody hshort] at h
    cases h
  | cut hallowed hcut =>
    rw [parse_cut hallowed hcut] at h
    cases h
  | whole hallowed hbody after =>
    rw [parse_whole hallowed hbody] at h
    obtain ⟨rfl, hread⟩ := Prod.mk.inj h
    rw [List.append_assoc, List.append_assoc, parse_whole hallowed hbody, hread]
  | refused hrefuses =>
    rw [parse_refuses hrefuses] at h
    cases h
    rw [parse_refuses (hrefuses.append tail)]

namespace Reader

/-! ### The next package -/

section next

variable {reader after : Reader} {package : Package} {fault : Fault}

/-- A package that was received as a whole is taken off, also if more has arrived. -/
theorem take_receive_some (h : reader.take = (after, .ok (some package))) (tail : Bytes) :
    (reader.receive tail).take = (after.receive tail, .ok (some package)) := by
  obtain ⟨hparse, hmax⟩ := take_eq_iff.1 h
  exact take_eq_iff.2 ⟨Package.parse_append_some hparse tail, hmax⟩

/-- A fault in what was received is found, also if more has arrived. -/
theorem take_receive_error (h : reader.take = (after, .error fault)) (tail : Bytes) :
    (reader.receive tail).take = (after.receive tail, .error fault) := by
  obtain ⟨hparse, hmax⟩ := take_eq_iff.1 h
  exact take_eq_iff.2 ⟨Package.parse_append_error hparse tail, hmax⟩

/-- A reader that waits uses nothing up. -/
theorem eq_of_take_none (h : reader.take = (after, .ok none)) : after = reader := by
  obtain ⟨hparse, hmax⟩ := take_eq_iff.1 h
  cases after
  rw [Reader.mk.injEq]
  exact ⟨Package.eq_of_parse_none hparse, hmax⟩

/-- The next package is the one that was received. -/
theorem next_of_take_some (h : reader.take = (after, .ok (some package))) (chunks : List Bytes) :
    reader.next chunks = (after, chunks, .ok package) := by
  unfold next
  rw [h]

/-- The next package is a fault in what was received. -/
theorem next_of_take_error (h : reader.take = (after, .error fault)) (chunks : List Bytes) :
    reader.next chunks = (after, chunks, .error (.failed fault.toError)) := by
  unfold next
  rw [h]

/-- At the end of the stream there is no next package. -/
theorem next_of_take_none (h : reader.take = (after, .ok none)) :
    reader.next [] = (after, [], .error after.atEnd) := by
  unfold next
  rw [h]

end next

/-- The reader after all chunks have arrived. -/
def gather (reader : Reader) (chunks : List Bytes) : Reader := reader.receive chunks.flatten

/-- A chunk that has arrived is one of all chunks. -/
theorem gather_cons (reader : Reader) (chunk : Bytes) (chunks : List Bytes) :
    reader.gather (chunk :: chunks) = (reader.receive chunk).gather chunks := by
  simp only [gather, receive, List.flatten_cons, List.append_assoc]

/-- **Reading a package commutes with the arrival of all chunks.** What is given is the same, and
what is left is the same once the unused chunks have arrived as well. -/
theorem next_gather (reader : Reader) (chunks : List Bytes) :
    (reader.gather chunks).next [] =
      ((reader.next chunks).1.gather (reader.next chunks).2.1, [], (reader.next chunks).2.2) := by
  fun_induction next reader chunks with
  | case1 chunks reader taken found htake =>
    exact next_of_take_some (take_receive_some htake chunks.flatten) []
  | case2 chunks reader taken fault htake =>
    exact next_of_take_error (take_receive_error htake chunks.flatten) []
  | case3 reader taken htake =>
    have hsame := eq_of_take_none htake
    subst hsame
    simp only [gather, receive, List.flatten_nil, List.append_nil]
    exact next_of_take_none htake
  | case4 reader taken htake chunk rest ih =>
    -- a reader that waits has used nothing up, so that the chunk could have been there before
    have hsame := eq_of_take_none htake
    subst hsame
    rw [gather_cons]
    exact ih

/-! ### All packages -/

/-- Reading stops with the first result that is no package. -/
theorem all_of_next_error {reader after : Reader} {chunks left : List Bytes} {ending : Ending}
    (h : reader.next chunks = (after, left, .error ending)) : reader.all chunks = ([], ending) := by
  rw [all]
  split
  · next h' =>
    rw [h] at h'
    cases h'
    rfl
  · next h' =>
    rw [h] at h'
    cases h'

/-- Reading goes on after a package. -/
theorem all_of_next_ok {reader after : Reader} {chunks left : List Bytes} {package : Package}
    (h : reader.next chunks = (after, left, .ok package)) :
    reader.all chunks = (package :: (after.all left).1, (after.all left).2) := by
  rw [all]
  split
  · next h' =>
    rw [h] at h'
    cases h'
  · next h' =>
    rw [h] at h'
    cases h'
    rfl

/-- **Reading all packages commutes with the arrival of all chunks.** -/
theorem all_gather (reader : Reader) (chunks : List Bytes) :
    (reader.gather chunks).all [] = reader.all chunks := by
  fun_induction all reader chunks with
  | case1 reader chunks after left ending h =>
    have hnext := next_gather reader chunks
    rw [h] at hnext
    exact all_of_next_error hnext
  | case2 reader chunks after left package h packages ending hrest ih =>
    have hnext := next_gather reader chunks
    rw [h] at hnext
    rw [all_of_next_ok hnext, ih, hrest]

/-! ### How a stream ends -/

/-- How reading ends, by what is left behind the last whole frame. -/
inductive EndsAs (maxBody : Nat) : Bytes → Ending → Prop where
  /-- Nothing is left. -/
  | complete : EndsAs maxBody [] .complete
  /-- What is left is no beginning of a frame. -/
  | malformed {rest : Bytes} (h : Malformed maxBody rest) (text : String) :
      EndsAs maxBody rest (.failed (.malformedProtocol text))
  /-- What is left is a frame that lacks bytes. -/
  | cutShort {rest : Bytes} (hne : rest ≠ []) (h : Incomplete maxBody rest) :
      EndsAs maxBody rest (.failed cutShort)

/-- What is left does not begin with a whole frame. -/
theorem EndsAs.not_wellFormed {maxBody : Nat} {rest : Bytes} {ending : Ending}
    (h : EndsAs maxBody rest ending) : ¬∃ frame, frame <+: rest ∧ WellFormed maxBody frame := by
  cases h with
  | complete =>
    rintro ⟨frame, hprefix, hframe⟩
    obtain rfl := List.prefix_nil.1 hprefix
    exact hframe.not_incomplete [] (.inl (by simp [headerLength]))
  | malformed h => exact h.2
  | cutShort _ h =>
    rintro ⟨frame, ⟨after, rfl⟩, hframe⟩
    exact hframe.not_incomplete after h

/-- Nothing of a frame is left iff the stream is complete. -/
theorem EndsAs.eq_complete_iff {maxBody : Nat} {rest : Bytes} {ending : Ending}
    (h : EndsAs maxBody rest ending) : ending = .complete ↔ rest = [] := by
  cases h with
  | complete => exact ⟨fun _ => rfl, fun _ => rfl⟩
  | malformed h =>
    refine ⟨fun hending => (by cases hending), ?_⟩
    rintro rfl
    exact absurd (.inl (by decide)) h.1
  | cutShort hne => exact ⟨fun hending => (by cases hending), fun hrest => absurd hrest hne⟩

/-- What is left is malformed iff the stream ends with this error. -/
theorem EndsAs.exists_malformedProtocol_iff {maxBody : Nat} {rest : Bytes} {ending : Ending}
    (h : EndsAs maxBody rest ending) :
    (∃ text, ending = .failed (.malformedProtocol text)) ↔ Malformed maxBody rest := by
  cases h with
  | complete =>
    refine ⟨?_, fun hbad => absurd (.inl (by decide)) hbad.1⟩
    rintro ⟨text, hending⟩
    cases hending
  | malformed h text => exact ⟨fun _ => h, fun _ => ⟨text, rfl⟩⟩
  | cutShort _ h =>
    refine ⟨?_, fun hbad => absurd h hbad.1⟩
    rintro ⟨text, hending⟩
    cases hending

/-- A frame that lacks bytes is left iff the stream was cut short. -/
theorem EndsAs.eq_cutShort_iff {maxBody : Nat} {rest : Bytes} {ending : Ending}
    (h : EndsAs maxBody rest ending) :
    ending = .failed Reader.cutShort ↔ rest ≠ [] ∧ Incomplete maxBody rest := by
  cases h with
  | complete => exact ⟨fun hending => (by cases hending), fun hleft => absurd rfl hleft.1⟩
  | malformed h => exact ⟨fun hending => (by cases hending), fun hleft => absurd hleft.2 h.1⟩
  | cutShort hne h => exact ⟨fun _ => ⟨hne, h⟩, fun _ => rfl⟩

/-- A stream that has arrived as a whole is read frame by frame, up to what is no whole frame. -/
theorem exists_endsAs (maxBody : Nat) (stream : Bytes) :
    ∃ (frames : List Bytes) (rest : Bytes) (packages : List Package) (ending : Ending),
      stream = frames.flatten ++ rest ∧ (∀ frame ∈ frames, WellFormed maxBody frame) ∧
        packages.map Package.toFrame = frames.map .ok ∧
        (Reader.mk stream maxBody).all [] = (packages, ending) ∧ EndsAs maxBody rest ending := by
  have houtcome := parse_outcome maxBody stream
  generalize hparse : Package.parse stream maxBody = out at houtcome
  cases houtcome with
  | waits h =>
    have htake : (Reader.mk stream maxBody).take = (⟨stream, maxBody⟩, .ok none) :=
      take_eq_iff.2 ⟨hparse, rfl⟩
    refine ⟨[], stream, [], _, rfl, by simp, rfl, all_of_next_error (next_of_take_none htake), ?_⟩
    by_cases hempty : stream = []
    · subst hempty
      exact .complete
    · have hfalse : stream.isEmpty = false := by simpa using hempty
      rw [atEnd, hfalse]
      exact .cutShort hempty h
  | @gives frame package h hframe rest =>
    -- what is left is shorter by the frame, and is read in the same way
    have htake : (Reader.mk (frame ++ rest) maxBody).take =
        (⟨rest, maxBody⟩, .ok (some package)) := take_eq_iff.2 ⟨hparse, rfl⟩
    have hless : rest.length < (frame ++ rest).length := Package.length_lt_of_parse hparse
    obtain ⟨frames, left, packages, ending, rfl, hframes, hpackages, hall, hending⟩ :=
      exists_endsAs maxBody rest
    refine ⟨frame :: frames, left, package :: packages, ending, ?_, ?_, ?_, ?_, hending⟩
    · rw [List.flatten_cons, List.append_assoc]
    · rintro other (_ | ⟨_, hother⟩)
      · exact h
      · exact hframes other hother
    · rw [List.map_cons, List.map_cons, hframe, hpackages]
    · rw [all_of_next_ok (next_of_take_some htake []), hall]
  | @badHeader _ fault hlength h hfault =>
    have htake : (Reader.mk stream maxBody).take = (⟨stream, maxBody⟩, .error fault) :=
      take_eq_iff.2 ⟨hparse, rfl⟩
    have hall := all_of_next_error (next_of_take_error htake [])
    rw [hfault] at hall
    exact ⟨[], stream, [], _, rfl, by simp, rfl, hall,
      .malformed (malformed_of_not_announces hlength h) _⟩
  | @badBody frame _ _ fault h hlength hbody hfault rest =>
    have htake : (Reader.mk (frame ++ rest) maxBody).take = (⟨rest, maxBody⟩, .error fault) :=
      take_eq_iff.2 ⟨hparse, rfl⟩
    have hall := all_of_next_error (next_of_take_error htake [])
    rw [hfault] at hall
    exact ⟨[], frame ++ rest, [], _, rfl, by simp, rfl, hall,
      .malformed (malformed_of_not_bodyOf h hlength hbody rest) _⟩
termination_by stream.length
decreasing_by exact hless

/-- A stream is cut into whole frames and a rest that begins with none in at most one way. -/
theorem flatten_append_inj {maxBody : Nat} {frames frames' : List Bytes} {rest rest' : Bytes}
    (hframes : ∀ frame ∈ frames, WellFormed maxBody frame)
    (hframes' : ∀ frame ∈ frames', WellFormed maxBody frame)
    (hrest : ¬∃ frame, frame <+: rest ∧ WellFormed maxBody frame)
    (hrest' : ¬∃ frame, frame <+: rest' ∧ WellFormed maxBody frame)
    (h : frames.flatten ++ rest = frames'.flatten ++ rest') : frames = frames' ∧ rest = rest' := by
  induction frames generalizing frames' with
  | nil =>
    cases frames' with
    | nil => exact ⟨rfl, h⟩
    | cons frame' frames' =>
      rw [List.flatten_nil, List.nil_append, List.flatten_cons, List.append_assoc] at h
      exact absurd ⟨frame', ⟨_, h.symm⟩, hframes' frame' List.mem_cons_self⟩ hrest
  | cons frame frames ih =>
    have hframe := hframes frame List.mem_cons_self
    rw [List.flatten_cons, List.append_assoc] at h
    cases frames' with
    | nil =>
      rw [List.flatten_nil, List.nil_append] at h
      exact absurd ⟨frame, ⟨_, h⟩, hframe⟩ hrest'
    | cons frame' frames' =>
      rw [List.flatten_cons, List.append_assoc] at h
      obtain ⟨rfl, htail⟩ := hframe.append_inj (hframes' frame' List.mem_cons_self) h
      obtain ⟨rfl, rfl⟩ := ih (fun other hother => hframes other (List.mem_cons_of_mem _ hother))
        (fun other hother => hframes' other (List.mem_cons_of_mem _ hother)) htail
      exact ⟨rfl, rfl⟩

/-- **A stream is read the same however it is cut into chunks.** It is a row of well formed frames
and a rest that begins with none, and every way to cut it gives the packages of these frames, all of
them, and the same ending. The ending is that of a complete stream iff the stream is a row of well
formed frames; it is a malformed frame iff the rest is malformed; and it is a stream cut short iff
the rest is a frame that lacks bytes. -/
theorem all_chunks (maxBody : Nat) (stream : Bytes) :
    ∃ (frames : List Bytes) (rest : Bytes) (packages : List Package) (ending : Ending),
      stream = frames.flatten ++ rest ∧ (∀ frame ∈ frames, WellFormed maxBody frame) ∧
        (¬∃ frame, frame <+: rest ∧ WellFormed maxBody frame) ∧
        packages.map Package.toFrame = frames.map .ok ∧
        (∀ chunks : List Bytes, chunks.flatten = stream →
          (start maxBody).all chunks = (packages, ending)) ∧
        (ending = .complete ↔
          ∃ whole : List Bytes, (∀ frame ∈ whole, WellFormed maxBody frame) ∧
            stream = whole.flatten) ∧
        ((∃ text, ending = .failed (.malformedProtocol text)) ↔ Malformed maxBody rest) ∧
        (ending = .failed (.io ⟨.connectionReset, "connection reset by peer"⟩) ↔
          rest ≠ [] ∧ Incomplete maxBody rest) := by
  obtain ⟨frames, rest, packages, ending, hstream, hframes, hpackages, hall, hending⟩ :=
    exists_endsAs maxBody stream
  refine ⟨frames, rest, packages, ending, hstream, hframes, hending.not_wellFormed, hpackages,
    ?_, ?_, ?_, ?_⟩
  · intro chunks hchunks
    rw [← all_gather, gather, receive, hchunks]
    exact hall
  · -- another row of frames would be the same row, with nothing behind it
    have hempty : (∃ whole : List Bytes, (∀ frame ∈ whole, WellFormed maxBody frame) ∧
        stream = whole.flatten) ↔ rest = [] := by
      constructor
      · rintro ⟨whole, hwhole, hstream'⟩
        rw [hstream, ← List.append_nil whole.flatten] at hstream'
        exact (flatten_append_inj hframes hwhole hending.not_wellFormed
          (EndsAs.not_wellFormed .complete) hstream').2
      · rintro rfl
        rw [List.append_nil] at hstream
        exact ⟨frames, hframes, hstream⟩
    rw [hempty]
    exact hending.eq_complete_iff
  · exact hending.exists_malformedProtocol_iff
  · exact hending.eq_cutShort_iff

end Reader

end PeerNet.Frame
