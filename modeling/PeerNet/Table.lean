/-!
# Finite tables

A table maps finitely many keys to values. It is a list of pairs in which a key is looked up from
the front; inserting drops the older entry of the key, so that every key has one entry.

## Main statements

* `Table.get?_insert`, `Table.get?_erase`, `Table.get?_adjust`: what a look-up gives after a change.
* `Table.mem_erase`, `Table.mem_insert`: the entries after a change.
-/

namespace PeerNet

/-- A map from finitely many keys to values. -/
abbrev Table (κ ν : Type) := List (κ × ν)

namespace Table

variable {κ ν : Type} [DecidableEq κ]

/-- The value of a key. -/
def get? (table : Table κ ν) (key : κ) : Option ν :=
  match table with
  | [] => none
  | (k, v) :: rest => if k = key then some v else get? rest key

/-- The table without a key. -/
def erase (table : Table κ ν) (key : κ) : Table κ ν :=
  table.filter fun entry => entry.1 ≠ key

/-- The table with a value for a key, instead of the one it had. -/
def insert (table : Table κ ν) (key : κ) (value : ν) : Table κ ν :=
  (key, value) :: erase table key

/-- The table with the value of a key changed, if it has one. -/
def adjust (table : Table κ ν) (key : κ) (change : ν → ν) : Table κ ν :=
  table.map fun entry => if entry.1 = key then (entry.1, change entry.2) else entry

/-- The keys. -/
def keys (table : Table κ ν) : List κ := table.map Prod.fst

/-- The values. -/
def values (table : Table κ ν) : List ν := table.map Prod.snd

@[simp] theorem get?_nil (key : κ) : get? ([] : Table κ ν) key = none := rfl

/-- After erasing a key nothing is under it, and all else is as before. -/
theorem get?_erase (table : Table κ ν) (key other : κ) :
    get? (erase table key) other = if other = key then none else get? table other := by
  induction table with
  | nil => simp [erase]
  | cons entry rest ih =>
    obtain ⟨k, v⟩ := entry
    simp only [erase] at ih ⊢
    by_cases hk : k = key
    · subst hk
      simp only [List.filter_cons, ne_eq, not_true_eq_false, decide_false, Bool.false_eq_true,
        if_false, ih, get?]
      by_cases ho : other = k
      · simp [ho]
      · simp [ho, Ne.symm ho]
    · simp only [List.filter_cons, ne_eq, hk, not_false_eq_true, decide_true, if_true, get?, ih]
      by_cases ho : other = key
      · subst ho; simp [hk]
      · simp [ho]

/-- After inserting under a key the new value is under it, and all else is as before. -/
theorem get?_insert (table : Table κ ν) (key other : κ) (value : ν) :
    get? (insert table key value) other = if other = key then some value else get? table other := by
  by_cases ho : other = key
  · simp [insert, get?, ho]
  · simp [insert, get?, get?_erase, ho, Ne.symm ho]

/-- What is found under a key is an entry of the table. -/
theorem mem_of_get? {table : Table κ ν} {key : κ} {value : ν} (h : get? table key = some value) :
    (key, value) ∈ table := by
  induction table with
  | nil => simp at h
  | cons entry rest ih =>
    obtain ⟨k, v⟩ := entry
    simp only [get?] at h
    split at h
    · simp_all
    · exact List.mem_cons_of_mem _ (ih h)

/-- A key under which nothing is found is not among the keys. -/
theorem not_mem_keys_of_get?_eq_none {table : Table κ ν} {key : κ} (h : get? table key = none) :
    key ∉ keys table := by
  induction table with
  | nil => exact List.not_mem_nil
  | cons entry rest ih =>
    obtain ⟨k, v⟩ := entry
    simp only [get?] at h
    split at h
    · cases h
    · next ne => exact fun mem => (List.mem_cons.mp mem).elim (fun eq => ne eq.symm) (ih h)

/-- Under the key of an entry something is found, though not always that entry. -/
theorem exists_get?_of_mem {table : Table κ ν} {entry : κ × ν} (mem : entry ∈ table) :
    ∃ value, get? table entry.1 = some value := by
  cases found : get? table entry.1 with
  | none =>
    have absent := not_mem_keys_of_get?_eq_none found
    exact absurd (List.mem_map.mpr ⟨entry, mem, rfl⟩) absent
  | some value => exact ⟨value, rfl⟩

/-- Erasing a key that is not there changes nothing. -/
theorem erase_of_get?_eq_none {table : Table κ ν} {key : κ} (h : get? table key = none) :
    erase table key = table := by
  apply List.filter_eq_self.mpr
  intro entry mem
  have absent := not_mem_keys_of_get?_eq_none h
  simp only [ne_eq, decide_eq_true_eq]
  rintro rfl
  exact absent (List.mem_map.mpr ⟨entry, mem, rfl⟩)

/-- The entries left after erasing a key are those under other keys. -/
theorem mem_erase {table : Table κ ν} {key : κ} {entry : κ × ν} :
    entry ∈ erase table key ↔ entry ∈ table ∧ entry.1 ≠ key := by
  simp [erase, List.mem_filter]

/-- The entries after an insertion are the new one and those under other keys. -/
theorem mem_insert {table : Table κ ν} {key : κ} {value : ν} {entry : κ × ν} :
    entry ∈ insert table key value ↔
      entry = (key, value) ∨ entry ∈ table ∧ entry.1 ≠ key := by
  rw [insert, List.mem_cons, mem_erase]

/-- Adjusting a key changes what is under it, if anything is, and nothing else. -/
theorem get?_adjust (table : Table κ ν) (key other : κ) (change : ν → ν) :
    get? (adjust table key change) other =
      if other = key then (get? table other).map change else get? table other := by
  induction table with
  | nil => simp [adjust]
  | cons entry rest ih =>
    obtain ⟨k, v⟩ := entry
    rw [adjust, List.map_cons, ← adjust]
    by_cases hk : k = other
    · by_cases ho : other = key <;> simp [get?, hk, ho]
    · have head : (if k = key then (k, change v) else (k, v)).1 = k := by split <;> rfl
      simp only [get?, head, if_neg hk, ih]

end Table

end PeerNet
