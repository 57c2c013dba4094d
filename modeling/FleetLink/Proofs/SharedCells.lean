import FleetLink.Proofs.InPlaceWriting

/-! Cells and the values that are read from them. Where every number stands for a cell, a
new cell stands nowhere but where it was put, and writing at a path is putting a cell into
one dictionary, once the way to it is open. -/

namespace FleetLink

namespace Shared

/-- The value that is read at a place. Nothing deeper than the given depth is looked at. -/
def valueAt (shared : Shared) : Nat → Nat → Value
  | 0, place => (shared.cell place).surface
  | depth + 1, place => match shared.cell place with
    | .leaf value => value
    | .list items => .list (items.map (shared.valueAt depth))
    | .dict entries => .dict (entries.map fun entry => (entry.1, shared.valueAt depth entry.2))

theorem value_eq {shared : Shared} {depth : Nat} {values : Array Value}
    (each : ∀ place, values.getD place .null = shared.valueAt depth place) (place : Nat) :
    (shared.cell place).value values = shared.valueAt (depth + 1) place := by
  rw [valueAt]
  cases shared.cell place with
  | leaf => rfl
  | list items => simp only [Cell.value, each]
  | dict entries => simp only [Cell.value, each]

theorem values_getD (shared : Shared) (depth place : Nat) :
    (values shared.cells depth).getD place .null = shared.valueAt depth place := by
  induction depth generalizing place with
  | zero =>
    rw [values, valueAt, cell, Array.getD_eq_getD_getElem?, Array.getElem?_map, Array.getD_eq_getD_getElem?]
    cases shared.cells[place]? <;> rfl
  | succ depth ih =>
    rw [values, ← value_eq ih, cell, Array.getD_eq_getD_getElem?, Array.getElem?_map, Array.getD_eq_getD_getElem?]
    cases shared.cells[place]? <;> rfl

theorem unfold_eq (shared : Shared) (depth : Nat) : shared.unfold depth = shared.valueAt (depth + 1) shared.root :=
  value_eq (values_getD shared depth) shared.root

theorem cell_put (key : String) (cell : Cell) (place other : Nat) (shared : Shared) :
    (shared.put key cell place).cell other = if other = shared.cells.size then cell
      else if other = place ∧ place < shared.cells.size then
        .dict ((shared.entries place).put (.text key) shared.cells.size)
      else shared.cell other := by
  by_cases new : other = shared.cells.size
  · rw [if_pos new, new, cell_put_new]
  rw [if_neg new]
  by_cases here : other = place ∧ place < shared.cells.size
  · rw [if_pos here, here.1, cell_put_self key cell here.2]
  rw [if_neg here]
  by_cases inside : other < shared.cells.size
  · exact cell_put_other key cell inside fun same => here ⟨same.symm, same ▸ inside⟩
  · have outside : (shared.put key cell place).cells.size ≤ other := by
      rw [size_put]
      omega
    simp only [Shared.cell, Array.getD_eq_getD_getElem?, Array.getElem?_eq_none outside,
      Array.getElem?_eq_none (Nat.le_of_not_lt inside)]

end Shared

/-- The places of the parts of a cell. -/
def Cell.parts : Cell → List Nat
  | .leaf _ => []
  | .list items => items
  | .dict entries => entries.map Prod.snd

namespace Shared

/-- Every number stands for a cell. -/
structure Whole (shared : Shared) : Prop where
  root : shared.root < shared.cells.size
  parts : ∀ place, ∀ part ∈ (shared.cell place).parts, part < shared.cells.size

theorem Whole.entries {shared : Shared} (whole : shared.Whole) {place : Nat} {entry : Value × Nat}
    (member : entry ∈ shared.entries place) : entry.2 < shared.cells.size := by
  apply whole.parts place
  unfold Shared.entries at member
  split at member
  next held =>
    rw [held]
    exact List.mem_map_of_mem member
  next => cases member

theorem Whole.put {shared : Shared} (whole : shared.Whole) (key : String) {cell : Cell} (bare : cell.parts = [])
    (place : Nat) : (shared.put key cell place).Whole := by
  have size := size_put key cell place shared
  constructor
  · have root := whole.root
    change shared.root < _
    omega
  · intro other part member
    rw [size]
    rw [cell_put] at member
    split at member
    · rw [bare] at member
      cases member
    split at member
    · obtain ⟨entry, inside, rfl⟩ := List.mem_map.mp member
      rcases Dict.mem_put inside with ⟨_, new⟩ | old
      · rw [new]
        exact Nat.lt_succ_self _
      · exact Nat.lt_succ_of_lt (whole.entries old)
    · exact Nat.lt_succ_of_lt (whole.parts other part member)

/-- The dictionary that holds what a path leads to, with the way there opened: what is
missing on it, or is no dictionary, gives way to an empty one. -/
def opened : List String → Nat → Shared → Nat × Shared
  | [], place, shared | [_], place, shared => (place, shared)
  | key :: rest, place, shared =>
      match shared.inner? place key with
      | some inner => opened rest inner shared
      | none => opened rest shared.cells.size (shared.put key (.dict []) place)

theorem inner?_lt {shared : Shared} {place inner : Nat} {key : String} (found : shared.inner? place key = some inner) :
    inner < shared.cells.size := by
  unfold inner? at found
  split at found
  next =>
    split at found
    next held =>
      cases found
      exact inside_of_cell held
    next => cases found
  next => cases found

/-- Opening the way keeps the cells whole, and the dictionary that it leads to is one of them. -/
theorem opened_whole (path : List String) {shared : Shared} (whole : shared.Whole) {place : Nat}
    (inside : place < shared.cells.size) :
    (opened path place shared).2.Whole ∧ (opened path place shared).2.root = shared.root ∧
      (opened path place shared).1 < (opened path place shared).2.cells.size := by
  fun_induction opened path place shared with
  | case1 => exact ⟨whole, rfl, inside⟩
  | case2 => exact ⟨whole, rfl, inside⟩
  | case3 key rest place shared further inner found ih => exact ih whole (inner?_lt found)
  | case4 key rest place shared further nowhere ih =>
    obtain ⟨kept, root, last⟩ := ih (whole.put key rfl place) (by rw [size_put]; omega)
    exact ⟨kept, root, last⟩

/-- Writing at a path puts one cell into the dictionary that the open way leads to. -/
theorem putPath_eq (value : Value) {path : List String} {leaf : String} (last : path.getLast? = some leaf)
    (place : Nat) (shared : Shared) :
    shared.putPath value path place = (opened path place shared).2.put leaf (.leaf value) (opened path place shared).1 := by
  fun_induction opened path place shared with
  | case1 => cases last
  | case2 key place shared =>
    obtain rfl : key = leaf := by simpa using last
    rfl
  | case3 key rest place shared further inner found ih =>
    obtain ⟨next, more, rfl⟩ := List.exists_cons_of_ne_nil fun empty => further (empty ▸ rfl)
    rw [List.getLast?_cons_cons] at last
    simp only [putPath, found]
    exact ih last
  | case4 key rest place shared further nowhere ih =>
    obtain ⟨next, more, rfl⟩ := List.exists_cons_of_ne_nil fun empty => further (empty ▸ rfl)
    rw [List.getLast?_cons_cons] at last
    simp only [putPath, nowhere]
    exact ih last

/-- What is put does not tell in any other cell. -/
theorem cell_put_eq (key : String) (cell other : Cell) (seat : Nat) {shared : Shared} {place : Nat}
    (old : place ≠ shared.cells.size) : (shared.put key cell seat).cell place = (shared.put key other seat).cell place := by
  rw [cell_put, cell_put, if_neg old, if_neg old]

theorem valueAt_new (key : String) (value : Value) (seat : Nat) (shared : Shared) (depth : Nat) :
    (shared.put key (.leaf value) seat).valueAt depth shared.cells.size = value := by
  cases depth <;> rw [valueAt, cell_put_new]
  rfl

section
variable {shared : Shared} (whole : shared.Whole) {key : String} {cell : Cell} {seat place : Nat}
  (old : place ≠ shared.cells.size)
include whole old

theorem item_put_ne {items : List Nat} (held : (shared.put key cell seat).cell place = .list items) {item : Nat}
    (member : item ∈ items) : item ≠ shared.cells.size := by
  rw [cell_put, if_neg old] at held
  split at held
  · cases held
  · have below := whole.parts place item (by rw [held]; exact member)
    exact Nat.ne_of_lt below

/-- The new cell stands in one dictionary only, and there under its key. -/
theorem entry_put_new {entries : Dict Nat} (held : (shared.put key cell seat).cell place = .dict entries)
    {entry : Value × Nat} (member : entry ∈ entries) (new : entry.2 = shared.cells.size) :
    place = seat ∧ entry.1.text? = some key := by
  rw [cell_put, if_neg old] at held
  split at held
  next here =>
    cases held
    rcases Dict.mem_put member with ⟨named, _⟩ | listed
    · exact ⟨here.1, named⟩
    · exact absurd new (Nat.ne_of_lt (whole.entries listed))
  next =>
    have below := whole.parts place entry.2 (by rw [held]; exact List.mem_map_of_mem member)
    exact absurd new (Nat.ne_of_lt below)

/-- What stands under another key is no new cell. -/
theorem part_put_ne {entries : Dict Nat} (held : (shared.put key cell seat).cell place = .dict entries)
    {name : String} (other : key ≠ name) {part : Nat} (found : entries.getText? name = some part) :
    part ≠ shared.cells.size := by
  obtain ⟨spelling, named, member⟩ := Dict.mem_of_getText? found
  intro new
  have leads := (entry_put_new whole old held member new).2
  exact other (Option.some.inj (leads.symm.trans named))

omit whole in
/-- A dictionary keeps what stands under other keys. -/
theorem entries_put_getText? {entries : Dict Nat} (held : (shared.put key cell seat).cell place = .dict entries)
    {name : String} (other : key ≠ name) : (shared.entries place).getText? name = entries.getText? name := by
  rw [cell_put, if_neg old] at held
  split at held
  next here =>
    cases held
    rw [here.1, Dict.getText?_put, if_neg other]
  next => rw [Shared.entries, held]

omit whole in
theorem mem_entries_of_put {entries : Dict Nat} (held : (shared.put key cell seat).cell place = .dict entries)
    {entry : Value × Nat} (member : entry ∈ entries) (settled : entry.2 ≠ shared.cells.size) :
    entry ∈ shared.entries place := by
  rw [cell_put, if_neg old] at held
  split at held
  next here =>
    cases held
    rcases Dict.mem_put member with ⟨_, new⟩ | listed
    · exact absurd new settled
    · rwa [here.1]
  next => rwa [Shared.entries, held]

end

end Shared

end FleetLink
