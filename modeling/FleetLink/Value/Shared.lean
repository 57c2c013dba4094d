import FleetLink.Value.Dict

/-! Values that may stand in several places at once, and even inside themselves. Each
one is a cell with a number, and lists and dictionaries hold the numbers of what is in
them, so that writing into a dictionary shows wherever it stands. -/

namespace FleetLink

inductive Cell where
  | leaf (value : Value)
  | list (items : List Nat)
  | dict (entries : Dict Nat)
deriving Inhabited

/-- The value of a cell when the values of all cells are known. -/
def Cell.value (values : Array Value) : Cell → Value
  | .leaf value => value
  | .list items => .list (items.map fun item => values.getD item .null)
  | .dict entries => .dict (entries.map fun (key, item) => (key, values.getD item .null))

/-- The value of a cell from which nothing else is looked at. -/
def Cell.surface : Cell → Value
  | .leaf value => value
  | .list _ => .list []
  | .dict _ => .dict []

/-- Cells and the number of the one that is meant. -/
structure Shared where
  cells : Array Cell
  root : Nat

namespace Shared

def ofValue (value : Value) : Shared := ⟨#[.leaf value], 0⟩

def cell (shared : Shared) (place : Nat) : Cell := shared.cells.getD place (.leaf .null)

def entries (shared : Shared) (place : Nat) : Dict Nat :=
  match shared.cell place with
  | .dict entries => entries
  | _ => []

/-- Puts a new cell into the dictionary at a place. -/
def put (key : String) (cell : Cell) (place : Nat) (shared : Shared) : Shared :=
  let entries := (shared.entries place).put (.text key) shared.cells.size
  { shared with cells := (shared.cells.setIfInBounds place (.dict entries)).push cell }

/-- Where the dictionary under a key stands, if there is one. -/
def inner? (shared : Shared) (place : Nat) (key : String) : Option Nat :=
  match (shared.entries place).getText? key with
  | some found => match shared.cell found with
    | .dict _ => some found
    | _ => none
  | none => none

/-- Puts a value at a path of keys below the dictionary at a place; without a path nothing
is put. What stands in the way and is no dictionary is replaced by a new one. -/
def putPath (value : Value) : List String → Nat → Shared → Shared
  | [], _, shared => shared
  | [key], place, shared => shared.put key (.leaf value) place
  | key :: rest, place, shared =>
      match shared.inner? place key with
      | some inner => putPath value rest inner shared
      | none => putPath value rest shared.cells.size (shared.put key (.dict []) place)

/-- The values of all cells. Lists and dictionaries deeper than the given depth appear
empty, since some may never end. -/
def values (cells : Array Cell) : Nat → Array Value
  | 0 => cells.map Cell.surface
  | depth + 1 =>
      let inner := values cells depth
      cells.map (Cell.value inner)

def unfold (depth : Nat) (shared : Shared) : Value :=
  (shared.cell shared.root).value (values shared.cells depth)

theorem cell_put_new (key : String) (cell : Cell) (place : Nat) (shared : Shared) :
    (shared.put key cell place).cell shared.cells.size = cell := by
  simp only [Shared.cell, put, Array.getD_eq_getD_getElem?]
  rw [Array.getElem?_push, Array.size_setIfInBounds, if_pos rfl, Option.getD_some]

theorem size_put (key : String) (cell : Cell) (place : Nat) (shared : Shared) :
    (shared.put key cell place).cells.size = shared.cells.size + 1 := by
  simp [put]

theorem cell_put_self (key : String) (cell : Cell) {place : Nat} {shared : Shared} (inside : place < shared.cells.size) :
    (shared.put key cell place).cell place = .dict ((shared.entries place).put (.text key) shared.cells.size) := by
  have old : place ≠ shared.cells.size := by omega
  simp [Shared.cell, put, Array.getD_eq_getD_getElem?, Array.getElem?_push, old, inside]

theorem cell_put_other (key : String) (cell : Cell) {place other : Nat} {shared : Shared}
    (inside : other < shared.cells.size) (apart : place ≠ other) :
    (shared.put key cell place).cell other = shared.cell other := by
  have old : other ≠ shared.cells.size := by omega
  simp [Shared.cell, put, Array.getD_eq_getD_getElem?, Array.getElem?_push, old, apart]

theorem getText?_put (key : String) (cell : Cell) {place : Nat} {shared : Shared}
    (inside : place < shared.cells.size) :
    ((shared.put key cell place).entries place).getText? key = some shared.cells.size := by
  rw [entries, cell_put_self key cell inside]
  exact Dict.get?_put_self _ (by simp [Value.sameKey, Value.text?])

end Shared

end FleetLink
