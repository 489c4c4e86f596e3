import PeerNet.Frame.Package

/-!
# Packages from a stream

A stream comes in chunks, cut anywhere. A reader keeps the bytes that are not a whole frame yet, and
takes the next chunk only when no whole frame is there. A stream that ends between two frames is
complete; one that ends inside a frame was cut short.
-/

namespace PeerNet.Frame

/-- Reads packages from a stream. -/
structure Reader where
  /-- The bytes that were received but not used. -/
  buffer : Bytes
  /-- The most bytes of the body of a frame. -/
  maxBody : Nat
  deriving DecidableEq, Repr

/-- Why no further package is read from a stream. -/
inductive Ending where
  /-- The stream has ended between two frames. -/
  | complete
  /-- Something is wrong with the stream. -/
  | failed (error : Error)
  deriving DecidableEq, Repr

namespace Reader

/-- A reader that has received nothing. -/
def start (maxBody : Nat) : Reader := ⟨[], maxBody⟩

/-- Takes a package off what was received. -/
def take (reader : Reader) : Reader × Except Fault (Option Package) :=
  let (rest, result) := Package.parse reader.buffer reader.maxBody
  ({ reader with buffer := rest }, result)

/-- Taking a package is parsing the buffer; the limit stays. -/
theorem take_eq_iff {reader after : Reader} {result : Except Fault (Option Package)} :
    reader.take = (after, result) ↔
      Package.parse reader.buffer reader.maxBody = (after.buffer, result) ∧
        after.maxBody = reader.maxBody := by
  unfold take
  obtain ⟨rest, found⟩ := Package.parse reader.buffer reader.maxBody
  obtain ⟨buffer, maxBody⟩ := after
  simp only [Prod.mk.injEq, mk.injEq]
  exact ⟨fun ⟨⟨hrest, hmax⟩, hfound⟩ => ⟨⟨hrest, hfound⟩, hmax.symm⟩,
    fun ⟨⟨hrest, hfound⟩, hmax⟩ => ⟨⟨hrest, hmax.symm⟩, hfound⟩⟩

/-- Receives a chunk. -/
def receive (reader : Reader) (chunk : Bytes) : Reader :=
  { reader with buffer := reader.buffer ++ chunk }

/-- The error of a stream that ends inside a frame. -/
def cutShort : Error := .io ⟨.connectionReset, "connection reset by peer"⟩

/-- What the end of the stream means. -/
def atEnd (reader : Reader) : Ending :=
  if reader.buffer.isEmpty then .complete else .failed cutShort

/-- Reads the next package from the rest of a stream, given by its chunks. Gives the chunks that
were not used. -/
def next (reader : Reader) (chunks : List Bytes) :
    Reader × List Bytes × Except Ending Package :=
  match reader.take with
  | (reader, .ok (some package)) => (reader, chunks, .ok package)
  | (reader, .error fault) => (reader, chunks, .error (.failed fault.toError))
  | (reader, .ok none) =>
    match chunks with
    | [] => (reader, [], .error reader.atEnd)
    | chunk :: rest => (reader.receive chunk).next rest

/-- The number of bytes that are not used yet. -/
def pending (reader : Reader) (chunks : List Bytes) : Nat :=
  reader.buffer.length + chunks.flatten.length

/-- Every package uses bytes up. -/
theorem pending_lt_of_next {reader after : Reader} {chunks left : List Bytes} {package : Package}
    (h : reader.next chunks = (after, left, .ok package)) :
    after.pending left < reader.pending chunks := by
  fun_induction next reader chunks with
  | case1 chunks reader taken found htake =>
    cases h
    have hless := Package.length_lt_of_parse (take_eq_iff.1 htake).1
    simp only [pending]
    omega
  | case2 => cases h
  | case3 => cases h
  | case4 reader taken htake chunk rest ih =>
    have hsame := Package.eq_of_parse_none (take_eq_iff.1 htake).1
    have hless := ih h
    simp only [pending, receive, hsame, List.length_append, List.flatten_cons] at hless ⊢
    omega

/-- Reads packages until there is no further one. -/
def all (reader : Reader) (chunks : List Bytes) : List Package × Ending :=
  match _h : reader.next chunks with
  | (_, _, .error ending) => ([], ending)
  | (after, left, .ok package) =>
    let (packages, ending) := after.all left
    (package :: packages, ending)
termination_by reader.pending chunks
decreasing_by exact pending_lt_of_next _h

end Reader

end PeerNet.Frame
