import Mathlib.Data.List.Nodup
import Mathlib.Logic.Equiv.Basic

/-!
# Things at places

Things stand in a row at every place, and whole rows are moved. When the things are numbered in the
order in which they were put anywhere, nothing is lost and nothing is there twice exactly if every
number so far is at one place, and there once (`Complete`).

* **New things** (`Complete.put`) go behind the others at a place.
* **Rows** are moved behind others (`Complete.move`) or exchanged (`Complete.exchange`).
-/

namespace PeerNet.Buffer

/-- What is at every place. -/
abbrev Layout (Place α : Type) := Place → List α

namespace Layout

variable {Place α : Type} [DecidableEq Place]

/-- Puts something behind what is at a place. -/
def put (layout : Layout Place α) (place : Place) (item : α) : Layout Place α :=
  Function.update layout place (layout place ++ [item])

/-- Moves everything at one place behind what is at another. -/
def move (layout : Layout Place α) (source target : Place) : Layout Place α :=
  Function.update (Function.update layout source []) target (layout target ++ layout source)

/-- Exchanges what is at two places. -/
def exchange (layout : Layout Place α) (first second : Place) : Layout Place α :=
  Function.update (Function.update layout second (layout first)) first (layout second)

/-- What is at every place, each thing replaced by something of its own. -/
def map {β : Type} (change : α → β) (layout : Layout Place α) : Layout Place β := fun place =>
  (layout place).map change

section moves

variable (layout : Layout Place α)

/-- At a place is what was there before, and the new thing where it was put. -/
theorem mem_put {place other : Place} {item new : α} :
    item ∈ layout.put place new other ↔ item ∈ layout other ∨ other = place ∧ item = new := by
  by_cases here : other = place
  · subst here
    rw [put, Function.update_self, List.mem_append, List.mem_singleton, and_iff_right rfl]
  · rw [put, Function.update_of_ne here, or_iff_left fun both => here both.1]

/-- A move leaves nothing at its source and takes all of it to its target. -/
theorem mem_move {source target other : Place} (distinct : source ≠ target) {item : α} :
    item ∈ layout.move source target other ↔
      other ≠ source ∧ (item ∈ layout other ∨ other = target ∧ item ∈ layout source) := by
  by_cases here : other = target
  · subst here
    rw [move, Function.update_self, List.mem_append, and_iff_right distinct.symm,
      and_iff_right rfl]
  · rw [move, Function.update_of_ne here, or_iff_left fun both => here both.1]
    by_cases there : other = source
    · subst there
      rw [Function.update_self]
      exact iff_of_false List.not_mem_nil fun both => both.1 rfl
    · rw [Function.update_of_ne there, and_iff_right there]

/-- What is somewhere after a move was somewhere before. -/
theorem exists_of_mem_move {source target other : Place} {item : α}
    (present : item ∈ layout.move source target other) : ∃ before, item ∈ layout before := by
  by_cases here : other = target
  · subst here
    rw [move, Function.update_self, List.mem_append] at present
    rcases present with old | moved
    · exact ⟨_, old⟩
    · exact ⟨_, moved⟩
  · rw [move, Function.update_of_ne here] at present
    by_cases there : other = source
    · subst there
      rw [Function.update_self] at present
      exact absurd present List.not_mem_nil
    · rw [Function.update_of_ne there] at present
      exact ⟨_, present⟩

/-- Exchanging two places is looking at the other place. -/
theorem exchange_eq_comp (first second : Place) :
    layout.exchange first second = layout ∘ Equiv.swap first second := by
  funext other
  rw [Function.comp, Equiv.swap_apply_def, exchange]
  by_cases here : other = first
  · subst here
    rw [Function.update_self, if_pos rfl]
  · rw [Function.update_of_ne here, if_neg here]
    by_cases there : other = second
    · subst there
      rw [Function.update_self, if_pos rfl]
    · rw [Function.update_of_ne there, if_neg there]

variable {β : Type} (change : α → β)

/-- A change of every thing commutes with other things at one place, changed likewise. -/
theorem map_update (place : Place) (row : List α) :
    map change (Function.update layout place row) =
      Function.update (layout.map change) place (row.map change) := by
  funext other
  exact Function.apply_update (fun _ => List.map change) layout place row other

/-- A change of every thing commutes with a put. -/
theorem map_put (place : Place) (item : α) :
    (layout.put place item).map change = (layout.map change).put place (change item) := by
  rw [put, map_update, List.map_append]
  rfl

/-- A change of every thing commutes with a move. -/
theorem map_move (source target : Place) :
    (layout.move source target).map change = (layout.map change).move source target := by
  rw [move, map_update, map_update, List.map_append]
  rfl

/-- A change of every thing commutes with an exchange. -/
theorem map_exchange (first second : Place) :
    (layout.exchange first second).map change = (layout.map change).exchange first second := by
  rw [exchange, map_update, map_update]
  rfl

end moves

/-! ### Numbered things -/

/-- Every number below `made` is at one place, and there once. -/
structure Complete (layout : Layout Place Nat) (made : Nat) : Prop where
  /-- None is at a place twice. -/
  nodup : ∀ place, (layout place).Nodup
  /-- None is at two places. -/
  unique : ∀ {number place other}, number ∈ layout place → number ∈ layout other → place = other
  /-- All of them are somewhere, and no others. -/
  made_iff : ∀ number, (∃ place, number ∈ layout place) ↔ number < made

variable {layout : Layout Place Nat} {made : Nat}

/-- A new number is put behind the others. -/
theorem Complete.put (complete : layout.Complete made) (place : Place) :
    (layout.put place made).Complete (made + 1) := by
  -- only smaller numbers are anywhere
  have fresh (other : Place) : made ∉ layout other := fun inside =>
    Nat.lt_irrefl made ((complete.made_iff made).mp ⟨other, inside⟩)
  constructor
  case nodup =>
    intro other
    by_cases here : other = place
    · subst here
      rw [Layout.put, Function.update_self, ← List.concat_eq_append]
      exact (complete.nodup other).concat (fresh other)
    · rw [Layout.put, Function.update_of_ne here]
      exact complete.nodup other
  case unique =>
    intro number first second inFirst inSecond
    rw [mem_put] at inFirst inSecond
    rcases inFirst with old | ⟨rfl, rfl⟩
    · rcases inSecond with old' | ⟨-, rfl⟩
      · exact complete.unique old old'
      · exact absurd old (fresh first)
    · rcases inSecond with old' | ⟨rfl, -⟩
      · exact absurd old' (fresh second)
      · rfl
  case made_iff =>
    intro number
    rw [Nat.lt_succ_iff_lt_or_eq, ← complete.made_iff]
    constructor
    · rintro ⟨other, inside⟩
      exact (layout.mem_put.mp inside).imp (fun old => ⟨other, old⟩) And.right
    · rintro (⟨other, old⟩ | rfl)
      · exact ⟨other, layout.mem_put.mpr (.inl old)⟩
      · exact ⟨place, layout.mem_put.mpr (.inr ⟨rfl, rfl⟩)⟩

/-- Numbers are moved to another place. -/
theorem Complete.move (complete : layout.Complete made) {source target : Place}
    (distinct : source ≠ target) : (layout.move source target).Complete made := by
  constructor
  case nodup =>
    intro other
    by_cases here : other = target
    · subst here
      rw [Layout.move, Function.update_self]
      refine (complete.nodup other).append (complete.nodup source) ?_
      exact fun number old moved => distinct (complete.unique moved old)
    · rw [Layout.move, Function.update_of_ne here]
      by_cases there : other = source
      · subst there
        rw [Function.update_self]
        exact List.nodup_nil
      · rw [Function.update_of_ne there]
        exact complete.nodup other
  case unique =>
    intro number first second inFirst inSecond
    obtain ⟨left, comes⟩ := (layout.mem_move distinct).mp inFirst
    obtain ⟨left', comes'⟩ := (layout.mem_move distinct).mp inSecond
    rcases comes with old | ⟨rfl, moved⟩
    · rcases comes' with old' | ⟨rfl, moved'⟩
      · exact complete.unique old old'
      · exact absurd (complete.unique old moved') left
    · rcases comes' with old' | ⟨rfl, -⟩
      · exact absurd (complete.unique old' moved) left'
      · rfl
  case made_iff =>
    intro number
    rw [← complete.made_iff]
    constructor
    · rintro ⟨other, inside⟩
      exact layout.exists_of_mem_move inside
    · rintro ⟨other, old⟩
      by_cases here : other = source
      · subst here
        exact ⟨target, (layout.mem_move distinct).mpr ⟨distinct.symm, .inr ⟨rfl, old⟩⟩⟩
      · exact ⟨other, (layout.mem_move distinct).mpr ⟨here, .inl old⟩⟩

/-- The numbers at two places are exchanged. -/
theorem Complete.exchange (complete : layout.Complete made) (first second : Place) :
    (layout.exchange first second).Complete made := by
  rw [exchange_eq_comp]
  constructor
  case nodup => exact fun place => complete.nodup _
  case unique =>
    intro number place other here there
    exact (Equiv.swap first second).injective (complete.unique here there)
  case made_iff =>
    intro number
    rw [← complete.made_iff]
    constructor
    · rintro ⟨place, inside⟩
      exact ⟨_, inside⟩
    · rintro ⟨place, inside⟩
      refine ⟨(Equiv.swap first second).symm place, ?_⟩
      rwa [Function.comp, Equiv.apply_symm_apply]

end Layout

end PeerNet.Buffer
