import PeerNet.Proofs.Buffer.Extents
import PeerNet.Proofs.Buffer.Layouts

/-!
# Any number of messages

A program has messages under names. It works on one at a time, makes one of given bytes, joins two,
exchanges two, or takes one out of its blocks. Behind the messages stands an `Inventory`: every
block that was ever made, with its hidden bytes, at the place where it is now.

* **One operation** (`Inventory.perform_stock`): the messages are what the inventory shows.
* **Blocks** (`Inventory.Complete.perform`, `Inventory.Complete.keeps`): an operation loses no block
  and puts none in two places, and a block keeps its bytes unless they are written over.
* **Any operations** (`Inventory.run_stock`, `Inventory.Complete.run`,
  `Inventory.Complete.storage_run`, `Stock.reachable_run`): by induction on the operations.
* **Conservation** (`Stock.run_keepsBytes`): what a program can count on after any operations.
-/

namespace PeerNet.Buffer

open Blocks (Answer)

/-- Two different names. -/
structure Pair (Name : Type) where
  /-- One name. -/
  first : Name
  /-- The other name. -/
  second : Name
  /-- They are different. -/
  distinct : first ≠ second

/-- The messages of a program. -/
abbrev Stock (Name : Type) := Name → Blocks

namespace Stock

/-- What a program does with its messages. -/
inductive Operation (Name : Type) where
  /-- An operation on the message with this name. -/
  | on (name : Name) (operation : Blocks.Operation)
  /-- To have a message of these bytes under this name. -/
  | ofBytes (name : Name) (slice : Slice)
  /-- To move the blocks of the second message behind those of the first. -/
  | merge (pair : Pair Name)
  /-- To exchange two messages. -/
  | swap (pair : Pair Name)
  /-- To take the message out of its blocks. -/
  | intoBytes (name : Name)

variable {Name : Type} [DecidableEq Name]

/-- No message has a block. -/
def empty : Stock Name := fun _ => .empty

/-- One operation. -/
def perform (stock : Stock Name) : Operation Name → Stock Name × Answer
  | .on name operation =>
    (Function.update stock name ((stock name).perform operation).1,
      ((stock name).perform operation).2)
  | .ofBytes name slice => (Function.update stock name (.ofBytes slice.bytes), .done)
  | .merge pair =>
    let both := (stock pair.first).merge (stock pair.second)
    (Function.update (Function.update stock pair.second both.2) pair.first both.1, .done)
  | .swap pair =>
    let both := (stock pair.first).swap (stock pair.second)
    (Function.update (Function.update stock pair.second both.2) pair.first both.1, .done)
  | .intoBytes name => (Function.update stock name .empty, .gives (stock name).intoBytes)

/-- Operations one after the other, with their answers. -/
def run (stock : Stock Name) : List (Operation Name) → Stock Name × List Answer
  | [] => (stock, [])
  | operation :: rest =>
    (((stock.perform operation).1.run rest).1,
      (stock.perform operation).2 :: ((stock.perform operation).1.run rest).2)

end Stock

/-! ### Messages and their blocks -/

namespace Layout

variable {Name : Type} [DecidableEq Name] (layout : Layout (Option Name) Extent)

/-- The messages of the blocks that are at names. -/
def messages : Stock Name := fun name => Shelf.blocks (layout (some name))

/-- Where other blocks are at a name, there is another message. -/
@[simp] theorem messages_update (name : Name) (shelf : Shelf) :
    messages (Function.update layout (some name) shelf) =
      Function.update layout.messages name shelf.blocks := by
  funext other
  by_cases here : other = name
  · subst here
    rw [messages, Function.update_self, Function.update_self]
  · have there : some other ≠ some name := fun same => here (Option.some.inj same)
    rw [messages, Function.update_of_ne here, Function.update_of_ne there, messages]

/-- Blocks that are at no name are in no message. -/
@[simp] theorem messages_update_none (shelf : Shelf) :
    messages (Function.update layout none shelf) = layout.messages := by
  funext name
  rw [messages, Function.update_of_ne (Option.some_ne_none name), messages]

/-- Moving all extents of one message behind those of another is a merge of the two. -/
theorem messages_move (source target : Name) :
    (layout.move (some source) (some target)).messages =
      Function.update (Function.update layout.messages source .empty) target
        ((layout.messages target).merge (layout.messages source)).1 := by
  rw [move, messages_update, messages_update, Shelf.blocks_append]
  rfl

/-- Moving all extents of a message out of the stock leaves it empty. -/
theorem messages_move_none (source : Name) :
    (layout.move (some source) none).messages =
      Function.update layout.messages source .empty := by
  rw [move, messages_update_none, messages_update]
  rfl

/-- Exchanging the extents of two messages is a swap. -/
theorem messages_exchange (first second : Name) :
    (layout.exchange (some first) (some second)).messages =
      Function.update (Function.update layout.messages second (layout.messages first)) first
        (layout.messages second) := by
  rw [exchange, messages_update, messages_update]
  rfl

/-- A block that is put where none is makes a message of its own. -/
theorem messages_put (name : Name) (extent : Extent) (nothing : layout (some name) = []) :
    (layout.put (some name) extent).messages =
      Function.update layout.messages name (Shelf.blocks [extent]) := by
  rw [put, messages_update, nothing, List.nil_append]

end Layout

/-- Every block that was made. -/
structure Inventory (Name : Type) where
  /-- How many blocks were made. Each has the number of blocks that were made before. -/
  made : Nat
  /-- The blocks of the message with a name, and without a name those that are in none any more. -/
  shelf : Layout (Option Name) Extent

namespace Inventory

open Stock (Operation)

variable {Name : Type}

/-- No block was made. -/
def empty : Inventory Name := ⟨0, fun _ => []⟩

/-- The messages. -/
def stock (inventory : Inventory Name) : Stock Name := inventory.shelf.messages

/-- Every block that was made is in one place, and there once. -/
def Complete (inventory : Inventory Name) : Prop :=
  (inventory.shelf.map Extent.serial).Complete inventory.made

/-- Before any block is made, all blocks are accounted for. -/
theorem complete_empty : Complete (empty : Inventory Name) where
  nodup _ := List.nodup_nil
  unique inside := absurd inside List.not_mem_nil
  made_iff _ := iff_of_false (fun ⟨_, inside⟩ => List.not_mem_nil inside) (Nat.not_lt_zero _)

/-- A block has one place and one content. -/
theorem Complete.eq_of_serial {inventory : Inventory Name} (complete : inventory.Complete)
    {place other : Option Name} {extent same : Extent} (here : extent ∈ inventory.shelf place)
    (there : same ∈ inventory.shelf other) (serial : extent.serial = same.serial) :
    extent = same := by
  have inside : extent.serial ∈ (inventory.shelf.map Extent.serial) place :=
    List.mem_map_of_mem here
  have inside' : extent.serial ∈ (inventory.shelf.map Extent.serial) other :=
    serial ▸ List.mem_map_of_mem there
  obtain rfl := complete.unique inside inside'
  exact List.inj_on_of_nodup_map (complete.nodup place) here there serial

variable [DecidableEq Name]

/-- One operation. -/
def perform (inventory : Inventory Name) : Operation Name → Inventory Name × Answer
  | .on name operation =>
    let after := Shelf.perform (inventory.shelf (some name)) inventory.made operation
    (⟨if operation.grows then inventory.made + 1 else inventory.made,
      Function.update inventory.shelf (some name) after.1⟩, after.2)
  | .ofBytes name slice =>
    (⟨inventory.made + 1,
      (inventory.shelf.move (some name) none).put (some name) ⟨inventory.made, slice.bytes, []⟩⟩,
      .done)
  | .merge pair =>
    (⟨inventory.made, inventory.shelf.move (some pair.second) (some pair.first)⟩, .done)
  | .swap pair =>
    (⟨inventory.made, inventory.shelf.exchange (some pair.first) (some pair.second)⟩, .done)
  | .intoBytes name =>
    (⟨inventory.made, inventory.shelf.move (some name) none⟩,
      .gives (Shelf.shown (inventory.shelf (some name))))

/-- Operations one after the other, with their answers. -/
def run (inventory : Inventory Name) : List (Operation Name) → Inventory Name × List Answer
  | [] => (inventory, [])
  | operation :: rest =>
    (((inventory.perform operation).1.run rest).1,
      (inventory.perform operation).2 :: ((inventory.perform operation).1.run rest).2)

/-! ### One operation -/

variable (inventory : Inventory Name)

/-- **Whatever is asked, the messages and the answers are what the inventory says.** -/
theorem perform_stock (operation : Operation Name) :
    inventory.stock.perform operation =
      ((inventory.perform operation).1.stock, (inventory.perform operation).2) := by
  cases operation with
  | on name operation =>
    have done := Shelf.perform_blocks (inventory.shelf (some name)) inventory.made operation
    simp only [Stock.perform, perform, stock, Layout.messages_update]
    rw [Layout.messages, done]
  | ofBytes name slice =>
    -- the old message has left the name when the new block comes
    have nothing : inventory.shelf.move (some name) none (some name) = [] := by
      rw [Layout.move, Function.update_of_ne (Option.some_ne_none name), Function.update_self]
    simp only [Stock.perform, perform, stock, Layout.messages_put _ _ _ nothing,
      Layout.messages_move_none, Function.update_idem, Shelf.blocks_singleton]
  | merge pair =>
    simp only [Stock.perform, perform, stock, Layout.messages_move]
    rfl
  | swap pair =>
    simp only [Stock.perform, perform, stock, Layout.messages_exchange]
    rfl
  | intoBytes name =>
    simp only [Stock.perform, perform, stock, Layout.messages_move_none]
    rw [Blocks.intoBytes_eq_contents, Layout.messages, Shelf.contents_blocks]

/-! ### No block is lost -/

variable {inventory}

/-- **An operation loses no block, and puts none in two places.** -/
theorem Complete.perform (complete : inventory.Complete) (operation : Operation Name) :
    (inventory.perform operation).1.Complete := by
  cases operation with
  | on name operation =>
    have serials := Shelf.serials_perform (inventory.shelf (some name)) inventory.made operation
    rw [Complete, Inventory.perform]
    simp only [Layout.map_update]
    rw [← Shelf.serials, serials]
    cases operation.grows with
    | true => exact Layout.Complete.put complete (some name)
    | false =>
      have same : Function.update (inventory.shelf.map Extent.serial) (some name)
          (Shelf.serials (inventory.shelf (some name))) = inventory.shelf.map Extent.serial :=
        Function.update_eq_self _ _
      simp only [Bool.false_eq_true, if_false, same]
      exact complete
  | ofBytes name slice =>
    have moved := Layout.Complete.move complete (Option.some_ne_none name)
    rw [Complete, Inventory.perform, Layout.map_put, Layout.map_move]
    exact moved.put (some name)
  | merge pair =>
    rw [Complete, Inventory.perform, Layout.map_move]
    exact Layout.Complete.move complete fun same => pair.distinct (Option.some.inj same).symm
  | swap pair =>
    rw [Complete, Inventory.perform, Layout.map_exchange]
    exact Layout.Complete.exchange complete _ _
  | intoBytes name =>
    rw [Complete, Inventory.perform, Layout.map_move]
    exact Layout.Complete.move complete (Option.some_ne_none name)

/-- The number of the block that an operation writes over. -/
def target (inventory : Inventory Name) : Operation Name → Option Nat
  | .on name operation => Shelf.target (inventory.shelf (some name)) operation
  | .ofBytes _ _ | .merge _ | .swap _ | .intoBytes _ => none

/-- **A block behind an operation is the new one or stems from one before.** -/
theorem perform_stems {operation : Operation Name} {place : Option Name} {later : Extent}
    (present : later ∈ (inventory.perform operation).1.shelf place) :
    later.serial = inventory.made ∨
      ∃ before, Shelf.Stems (inventory.shelf before) (inventory.target operation) later := by
  have stays {before : Option Name} (old : later ∈ inventory.shelf before) :
      ∃ before, Shelf.Stems (inventory.shelf before) (inventory.target operation) later :=
    ⟨before, Shelf.stems_of_mem old _⟩
  cases operation with
  | on name operation =>
    by_cases here : place = some name
    · subst here
      simp only [perform, Function.update_self] at present
      exact (Shelf.perform_stems present).imp_right fun stems => ⟨some name, stems⟩
    · simp only [perform, Function.update_of_ne here] at present
      exact .inr (stays present)
  | ofBytes name slice =>
    simp only [perform, Layout.mem_put] at present
    rcases present with here | ⟨-, rfl⟩
    · obtain ⟨_, old⟩ := Layout.exists_of_mem_move _ here
      exact .inr (stays old)
    · exact .inl rfl
  | merge | intoBytes =>
    obtain ⟨_, old⟩ := Layout.exists_of_mem_move _ present
    exact .inr (stays old)
  | swap pair =>
    simp only [perform, Layout.exchange_eq_comp] at present
    exact .inr (stays present)

/-- No operation forgets that a block was made. -/
theorem made_le_perform (operation : Operation Name) :
    inventory.made ≤ (inventory.perform operation).1.made := by
  cases operation with
  | on name operation =>
    simp only [perform]
    split
    · exact Nat.le_succ _
    · exact Nat.le_refl _
  | ofBytes name slice => exact Nat.le_succ _
  | merge | swap | intoBytes => exact Nat.le_refl _

/-- **A block keeps its bytes unless they are written over**, wherever it is moved. -/
theorem Complete.keeps (complete : inventory.Complete) {operation : Operation Name}
    {place : Option Name} {extent : Extent} (here : extent ∈ inventory.shelf place)
    (spared : inventory.target operation ≠ some extent.serial) :
    ∃ after, ∃ later ∈ (inventory.perform operation).1.shelf after,
      later.serial = extent.serial ∧ later.storage = extent.storage := by
  have made : extent.serial < inventory.made :=
    (complete.made_iff _).mp ⟨place, List.mem_map_of_mem here⟩
  obtain ⟨after, inside⟩ := ((complete.perform operation).made_iff extent.serial).mpr
    (Nat.lt_of_lt_of_le made (made_le_perform operation))
  obtain ⟨later, present, serial⟩ := List.mem_map.mp inside
  refine ⟨after, later, present, serial, ?_⟩
  -- the number leads back to a block before the operation, and no other block has it
  rcases perform_stems present with new | ⟨before, stem, old, same, kept⟩
  · exact absurd (new ▸ serial ▸ made) (Nat.lt_irrefl _)
  · obtain rfl := complete.eq_of_serial here old (serial.symm.trans same.symm)
    exact (kept spared).symm

/-! ### Any operations -/

/-- Any operations on the inventory are the operations on the messages, with the same answers. -/
theorem run_stock (inventory : Inventory Name) (operations : List (Operation Name)) :
    inventory.stock.run operations =
      ((inventory.run operations).1.stock, (inventory.run operations).2) := by
  induction operations generalizing inventory with
  | nil => rfl
  | cons operation rest ih => simp only [Stock.run, run, perform_stock, ih]

/-- Through any operations each block that was made is in exactly one place. -/
theorem Complete.run (complete : inventory.Complete) (operations : List (Operation Name)) :
    (inventory.run operations).1.Complete := by
  induction operations generalizing inventory with
  | nil => exact complete
  | cons operation rest ih => exact ih (complete.perform operation)

/-- None of the operations writes over the block with this number. -/
def Spares (inventory : Inventory Name) (serial : Nat) : List (Operation Name) → Prop
  | [] => True
  | operation :: rest =>
    inventory.target operation ≠ some serial ∧ (inventory.perform operation).1.Spares serial rest

/-- **A block keeps its bytes as long as nothing is written over it.** -/
theorem Complete.storage_run (complete : inventory.Complete) {operations : List (Operation Name)}
    {place after : Option Name} {extent later : Extent} (here : extent ∈ inventory.shelf place)
    (spares : inventory.Spares extent.serial operations)
    (there : later ∈ (inventory.run operations).1.shelf after)
    (serial : later.serial = extent.serial) : later.storage = extent.storage := by
  induction operations generalizing inventory place extent with
  | nil => exact congrArg Extent.storage (complete.eq_of_serial there here serial)
  | cons operation rest ih =>
    obtain ⟨spared, spares⟩ := spares
    -- whatever the place is where the operation leaves the block, the rest finds it there
    obtain ⟨_, next, present, same, kept⟩ := complete.keeps here spared
    rw [← same] at spares serial
    rw [← kept]
    exact ih (complete.perform operation) present spares there serial

end Inventory

/-! ### What a program can count on -/

namespace Blocks

/-- A merge puts the bytes of the other message behind. -/
theorem contents_merge (blocks other : Blocks) :
    (blocks.merge other).1.contents = blocks.contents ++ other.contents := by
  simp only [contents, pieces, toList_merge, List.map_append, List.flatten_append]

/-- A merge into the empty message gives the other one. -/
theorem empty_merge (blocks : Blocks) : (empty.merge blocks).1 = blocks := by
  apply ext_toList
  rw [toList_merge, toList_empty, List.nil_append]

/-- What is written to the last block stands in front of the bytes that are left of it. -/
theorem perform_writeLast {blocks : Blocks} {block : Block} {bytes : Bytes}
    (last : blocks.last? = some block) (wellFormed : block.WellFormed)
    (fits : bytes.length ≤ block.length) :
    blocks.perform (.writeLast bytes) =
      (blocks.setLast { block with storage := bytes ++ block.storage.drop bytes.length },
        .gives block.contents) := by
  have room : 0 + bytes.length ≤ block.capacity := by
    rw [Nat.zero_add]
    exact Nat.le_trans fits wellFormed
  simp only [perform, writeLast, last, List.take_of_length_le fits, Block.write_eq room,
    List.take_zero, List.nil_append, Nat.zero_add]

/-- After another length of the last block, the old one brings the message back, also behind other
blocks. -/
theorem perform_commit_regrows {blocks : Blocks} {block : Block}
    (last : blocks.last? = some block) (wellFormed : block.WellFormed) (size : Nat)
    (front : Blocks) :
    (front.merge (blocks.setLast { block with length := size })).1.perform (.commit block.length) =
      ((front.merge blocks).1, .done) := by
  have ends := last
  rw [last?_eq_getLast?, List.getLast?_eq_some_iff] at ends
  obtain ⟨rest, list⟩ := ends
  have moved : (front.merge (blocks.setLast { block with length := size })).1.last? =
      some { block with length := size } := by
    rw [last?_eq_getLast?, toList_merge, toList_setLast, ← List.append_assoc, List.getLast?_concat]
  rw [perform_commit_fits moved wellFormed]
  refine Prod.ext (ext_toList ?_) rfl
  rw [toList_setLast, toList_merge, toList_merge, toList_setLast, list, List.dropLast_concat,
    ← List.append_assoc, List.dropLast_concat, List.append_assoc]

end Blocks

namespace Stock

variable {Name : Type} [DecidableEq Name]

/-- The messages of a program keep to the inventory of its blocks. -/
structure KeepsBytes (stock : Stock Name) (inventory : Inventory Name) : Prop where
  /-- No block declares more than its storage. -/
  wellFormed : ∀ name, (stock name).WellFormed
  /-- The blocks of a message are those that the inventory has under its name. -/
  toList_eq : ∀ name, (stock name).toList = (inventory.shelf (some name)).map Extent.block
  /-- A message is taken out as its pieces one behind the other, in either way. -/
  intoBytes_eq : ∀ name, (stock name).intoBytes = (stock name).pieces.flatten
  /-- The length of a message is the number of these bytes. -/
  length_eq : ∀ name, (stock name).length = (stock name).intoBytes.length
  /-- Merging puts the bytes of one message behind those of the other, and leaves it no block. -/
  merges : ∀ pair : Pair Name, ∃ after, stock.perform (.merge pair) = (after, .done) ∧
    (after pair.first).contents =
      (stock pair.first).contents ++ (stock pair.second).contents ∧
    after pair.second = .empty ∧
    ∀ other, other ≠ pair.first → other ≠ pair.second → after other = stock other
  /-- Swapping exchanges two messages. -/
  swaps : ∀ pair : Pair Name, ∃ after, stock.perform (.swap pair) = (after, .done) ∧
    after pair.first = stock pair.second ∧ after pair.second = stock pair.first ∧
    ∀ other, other ≠ pair.first → other ≠ pair.second → after other = stock other
  /-- What is written to the last block stands in front of the bytes that are left of it, and
  nothing else changes. -/
  writes : ∀ name bytes block, (stock name).last? = some block → bytes.length ≤ block.length →
    ∃ after front, stock.perform (.on name (.writeLast bytes)) = (after, .gives block.contents) ∧
      (stock name).toList = front ++ [block] ∧
      (after name).toList =
        front ++ [{ block with storage := bytes ++ block.storage.drop bytes.length }] ∧
      ∀ other, other ≠ name → after other = stock other
  /-- A range is given if the message holds it, and what is written over it stands in its place. -/
  ranges : ∀ name range, (stock name).GivesRange range
  /-- A length is refused exactly where there is no block, or one that is too small. Then nothing
  changes. -/
  refused_iff : ∀ name size,
    (∃ fault, stock.perform (.on name (.commit size)) = (stock, .refused fault)) ↔
      (stock name).toList = [] ∨ ∃ block, (stock name).last? = some block ∧ block.capacity < size
  /-- Else it is declared for the last block, and nothing else changes. -/
  commits : ∀ name size block, (stock name).last? = some block → size ≤ block.capacity →
    ∃ after front, stock.perform (.on name (.commit size)) = (after, .done) ∧
      (stock name).toList = front ++ [block] ∧
      (after name).toList = front ++ [{ block with length := size }] ∧
      ∀ other, other ≠ name → after other = stock other
  /-- After another length, the old one brings the message back, also behind other blocks. -/
  regrows : ∀ name size block, (stock name).last? = some block → size ≤ block.capacity →
    ∃ shortened, (stock name).perform (.commit size) = (shortened, .done) ∧
      shortened.perform (.commit block.length) = (stock name, .done) ∧
      ∀ front : Blocks, (front.merge shortened).1.perform (.commit block.length) =
        ((front.merge (stock name)).1, .done)
  /-- No block is lost, and none is in two places. -/
  complete : inventory.Complete
  /-- Where a block is the last one of a message, whatever was done to it short of writing over it,
  a length brings back as many of its first bytes. -/
  returns : ∀ place extent, extent ∈ inventory.shelf place →
    ∀ operations, inventory.Spares extent.serial operations →
      ∀ name last, ((inventory.run operations).1.shelf (some name)).getLast? = some last →
        last.serial = extent.serial → ∀ size ≤ extent.storage.length,
          ∃ after, ((stock.run operations).1 name).perform (.commit size) = (after, .done) ∧
            after.pieces.getLast? = some (extent.storage.take size)

section perform

variable (stock : Stock Name)

/-- Two messages are replaced, and the others stay. -/
theorem update_pair (pair : Pair Name) (first second : Blocks) :
    ∃ after : Stock Name,
      after = Function.update (Function.update stock pair.second second) pair.first first ∧
      after pair.first = first ∧ after pair.second = second ∧
      ∀ other, other ≠ pair.first → other ≠ pair.second → after other = stock other := by
  refine ⟨_, rfl, Function.update_self .., ?_, ?_⟩
  · rw [Function.update_of_ne pair.distinct.symm, Function.update_self]
  · intro other notFirst notSecond
    rw [Function.update_of_ne notFirst, Function.update_of_ne notSecond]

/-- A merge appends the second message to the first, empties the second, and leaves all others
alone. -/
theorem perform_merge (pair : Pair Name) : ∃ after, stock.perform (.merge pair) = (after, .done) ∧
    (after pair.first).contents = (stock pair.first).contents ++ (stock pair.second).contents ∧
    after pair.second = .empty ∧
    ∀ other, other ≠ pair.first → other ≠ pair.second → after other = stock other := by
  have both := stock.update_pair pair ((stock pair.first).merge (stock pair.second)).1 .empty
  obtain ⟨after, replaced, first, second, others⟩ := both
  refine ⟨after, replaced ▸ rfl, ?_, second, others⟩
  rw [first, Blocks.contents_merge]

/-- A swap exchanges two messages and leaves all others alone. -/
theorem perform_swap (pair : Pair Name) : ∃ after, stock.perform (.swap pair) = (after, .done) ∧
    after pair.first = stock pair.second ∧ after pair.second = stock pair.first ∧
    ∀ other, other ≠ pair.first → other ≠ pair.second → after other = stock other := by
  have both := stock.update_pair pair (stock pair.second) (stock pair.first)
  obtain ⟨after, replaced, first, second, others⟩ := both
  exact ⟨after, replaced ▸ rfl, first, second, others⟩

variable {stock} {name : Name} {size : Nat}

/-- An operation that replaces the last block of a message leaves the others. -/
theorem perform_setLast {operation : Blocks.Operation} {block new : Block} {answer : Answer}
    (last : (stock name).last? = some block)
    (performs : (stock name).perform operation = ((stock name).setLast new, answer)) :
    ∃ after front, stock.perform (.on name operation) = (after, answer) ∧
      (stock name).toList = front ++ [block] ∧ (after name).toList = front ++ [new] ∧
      ∀ other, other ≠ name → after other = stock other := by
  rw [Blocks.last?_eq_getLast?, List.getLast?_eq_some_iff] at last
  obtain ⟨front, list⟩ := last
  refine ⟨Function.update stock name ((stock name).setLast new), front, ?_, list, ?_, ?_⟩
  · rw [perform, performs]
  · rw [Function.update_self, Blocks.toList_setLast, list, List.dropLast_concat]
  · exact fun other different => Function.update_of_ne different _ _

/-- A commit up to the capacity of the last block is done. -/
theorem perform_commit_fits {block : Block} (last : (stock name).last? = some block)
    (fits : size ≤ block.capacity) :
    stock.perform (.on name (.commit size)) =
      (Function.update stock name ((stock name).setLast { block with length := size }),
        .done) := by
  rw [perform, Blocks.perform_commit_fits last fits]

/-- A length that is refused changes nothing. -/
theorem perform_commit_refused {fault : Fault}
    (refuses : (stock name).perform (.commit size) = (stock name, .refused fault)) :
    stock.perform (.on name (.commit size)) = (stock, .refused fault) := by
  rw [perform, refuses, Function.update_eq_self]

/-- A commit is refused exactly if there is no block or the last one is too small. -/
theorem perform_commit_refused_iff :
    (∃ fault, stock.perform (.on name (.commit size)) = (stock, .refused fault)) ↔
      (stock name).toList = [] ∨
        ∃ block, (stock name).last? = some block ∧ block.capacity < size := by
  cases last : (stock name).last? with
  | none =>
    have nothing := last
    rw [Blocks.last?_eq_getLast?, List.getLast?_eq_none_iff] at nothing
    have refuses := perform_commit_refused (Blocks.perform_commit_none size last)
    exact iff_of_true ⟨_, refuses⟩ (.inl nothing)
  | some block =>
    have something : (stock name).toList ≠ [] := by
      intro nothing
      rw [Blocks.last?_eq_getLast?, nothing] at last
      cases last
    by_cases fits : size ≤ block.capacity
    · refine iff_of_false ?_ ?_
      · rintro ⟨fault, refuses⟩
        rw [perform_commit_fits last fits] at refuses
        cases congrArg Prod.snd refuses
      · rintro (nothing | ⟨other, same, long⟩)
        · exact something nothing
        · obtain rfl := Option.some.inj same
          exact Nat.not_lt.mpr fits long
    · have long := Nat.lt_of_not_le fits
      have refuses := perform_commit_refused (Blocks.perform_commit_long last long)
      exact iff_of_true ⟨_, refuses⟩ (.inr ⟨block, rfl, long⟩)

end perform

end Stock

/-! ### Reachable messages -/

section reachable

variable {Name : Type} [DecidableEq Name] {stock : Stock Name}

/-- An operation makes messages of a program from such. -/
theorem Stock.reachable_perform (reached : ∀ name, Reachable (stock name))
    (operation : Operation Name) (name : Name) :
    Reachable ((stock.perform operation).1 name) := by
  have replaced {other : Name} {message : Blocks} (first : Reachable message) :
      Reachable (Function.update stock other message name) :=
    (Function.forall_update_iff stock fun _ => Reachable).mpr ⟨first, fun rest _ => reached rest⟩
      name
  have both {pair : Pair Name} {first second : Blocks} (one : Reachable first)
      (two : Reachable second) :
      Reachable (Function.update (Function.update stock pair.second second) pair.first first
        name) := by
    refine (Function.forall_update_iff _ fun _ => Reachable).mpr ⟨one, fun rest _ => ?_⟩ name
    exact (Function.forall_update_iff stock fun _ => Reachable).mpr
      ⟨two, fun rest _ => reached rest⟩ rest
  cases operation with
  | on other operation => exact replaced ((reached other).perform operation)
  | ofBytes other slice => exact replaced (.ofBytes slice)
  | merge pair => exact both ((reached pair.first).merge (reached pair.second)) .empty
  | swap pair => exact both (reached pair.second) (reached pair.first)
  | intoBytes other => exact replaced .empty

/-- Operations one after the other make messages of a program. -/
theorem Stock.reachable_run (reached : ∀ name, Reachable (stock name))
    (operations : List (Operation Name)) (name : Name) :
    Reachable ((stock.run operations).1 name) := by
  induction operations generalizing stock with
  | nil => exact reached name
  | cons operation rest ih => exact ih (reachable_perform reached operation)

end reachable

/-! ### Conservation -/

/-- Messages that an inventory shows keep to it. -/
theorem Inventory.Complete.keepsBytes {Name : Type} [DecidableEq Name]
    {inventory : Inventory Name} (complete : inventory.Complete)
    (sound : ∀ name, (inventory.stock name).Sound) :
    inventory.stock.KeepsBytes inventory := by
  have wellFormed (name : Name) : (inventory.stock name).WellFormed := fun block inside =>
    (sound name block inside).wellFormed
  constructor
  case wellFormed => exact wellFormed
  case toList_eq => exact fun name => rfl
  case intoBytes_eq => exact fun name => Blocks.intoBytes_eq_contents _
  case length_eq =>
    intro name
    rw [Blocks.intoBytes_eq_contents, (wellFormed name).length_eq]
  case merges => exact inventory.stock.perform_merge
  case swaps => exact inventory.stock.perform_swap
  case writes =>
    intro name bytes block last fits
    have fine := ((sound name).of_last? last).wellFormed
    exact Stock.perform_setLast last (Blocks.perform_writeLast last fine fits)
  case ranges => exact fun name range => (sound name).givesRange range
  case refused_iff => exact fun name size => Stock.perform_commit_refused_iff
  case commits =>
    intro name size block last fits
    exact Stock.perform_setLast last (Blocks.perform_commit_fits last fits)
  case regrows =>
    intro name size block last fits
    have regrows := Blocks.perform_commit_regrows last ((sound name).of_last? last).wellFormed size
    refine ⟨_, Blocks.perform_commit_fits last fits, ?_, regrows⟩
    have alone := regrows .empty
    rwa [Blocks.empty_merge, Blocks.empty_merge] at alone
  case complete => exact complete
  case returns =>
    intro place extent here operations spares name last ends serial size fits
    have present := List.mem_of_getLast? ends
    have storage := complete.storage_run here spares present serial
    have ended : ((inventory.run operations).1.stock name).last? = some last.block := by
      rw [Inventory.stock, Layout.messages, Shelf.last?_blocks, ends, Option.map_some]
    rw [← storage] at fits
    rw [Inventory.run_stock, Blocks.perform_commit_fits ended fits]
    refine ⟨_, rfl, ?_⟩
    rw [Blocks.pieces, Blocks.toList_setLast, List.map_append, List.map_singleton,
      List.getLast?_concat, Block.contents, ← storage]
    rfl

/-- **The messages of a program keep to the inventory of its blocks**, whatever is done with them:
no byte is lost, and none is there twice. -/
theorem Stock.run_keepsBytes {Name : Type} [DecidableEq Name] (operations : List (Operation Name)) :
    (empty.run operations).2 = (Inventory.empty.run operations).2 ∧
      KeepsBytes (empty.run operations).1 (Inventory.empty.run operations).1 := by
  have nothing (name : Name) : Reachable (empty name) := .empty
  have reached := reachable_run nothing operations
  have runs := Inventory.empty.run_stock operations
  have start : (Inventory.empty : Inventory Name).stock = empty := rfl
  rw [start] at runs
  rw [runs] at reached ⊢
  exact ⟨rfl, (Inventory.complete_empty.run operations).keepsBytes fun name =>
    (reached name).sound⟩

/-- A block that was shortened and moved behind another one has all its bytes again. -/
example :
    (Stock.empty.run [.ofBytes false ⟨[1, 2], by decide⟩, .ofBytes true ⟨[3, 4, 5], by decide⟩,
      .on true (.commit 1), .merge ⟨false, true, by decide⟩, .on false (.commit 3),
      .intoBytes false]).2 = [.done, .done, .done, .done, .done, .gives [1, 2, 3, 4, 5]] := by
  decide

end PeerNet.Buffer
