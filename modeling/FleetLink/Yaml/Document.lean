import FleetLink.Value.Shared
import FleetLink.Yaml.Merge

/-! Settings files in YAML as values. Values are made level by level: when the parts of
one list or dictionary are made, the lists and dictionaries among them are put off until
all that were met before are done. The first part that cannot be made decides. -/

namespace FleetLink.Yaml

/-- The nodes, the cells made from them so far, and the lists and dictionaries in the
order in which they were met. -/
structure Building where
  nodes : Array Node
  cells : Array (Option Cell)
  met : Array Nat

abbrev Builder := StateT Building (Except ReadError)

namespace Builder

def node (place : Nat) : Builder Node := do return (← get).nodes.getD place .empty

/-- The text of a node that is said to be a scalar. A dictionary may have one under an
equals sign. -/
def scalarText : Nat → Nat → Builder String
  | 0, _ => throw .malformed
  | fuel + 1, place => do
      match (← node place).shape with
      | .scalar text => return text
      | .list _ => throw .malformed
      | .dict entries =>
          let nodes := (← get).nodes
          match entries.find? fun (key, _) => (nodes.getD key .empty).kind = .default with
          | some (_, value) => scalarText fuel value
          | none => throw .malformed

def scalarValue (place : Nat) (kind : Kind) : Builder Value := do
  let text ← scalarText ((← get).nodes.size + 1) place
  match kind.value? text with
  | some (.ok value) => return value
  | some (.error error) => throw (.scalar error)
  | none => throw .malformed

def setCell (place : Nat) (cell : Cell) : Builder Unit :=
  modify fun state => { state with cells := state.cells.setIfInBounds place (some cell) }

/-- Puts a list or dictionary off; it stands in its place already, but empty. -/
def putOff (place : Nat) (cell : Cell) : Builder Unit := do
  setCell place cell
  modify fun state => { state with met := state.met.push place }

/-- Makes the cell of a node, once. -/
def reach (place : Nat) : Builder Unit := do
  if ((← get).cells.getD place none).isNone then
    match (← node place).kind with
    | .list => putOff place (.list [])
    | .dict => putOff place (.dict [])
    | kind => setCell place (.leaf (← scalarValue place kind))

/-- The value of a key, which must not be a list or dictionary. -/
def key (place : Nat) : Builder Value := do
  reach place
  match (← get).cells.getD place none with
  | some (.leaf value) => return value
  | _ => throw .malformed

def merge (steps place : Nat) : Builder Unit := do
  let state ← get
  let (_, nodes) ← (Merger.flatten steps place []).run state.nodes
  set { state with nodes := nodes }

/-- Makes the parts of a list or dictionary, the key of an entry before its value. -/
def complete (steps place : Nat) : Builder Unit := do
  let ⟨shape, kind⟩ ← node place
  match shape with
  | .list items =>
      if kind != .list then throw .malformed
      items.forM reach
      setCell place (.list items)
  | .dict _ =>
      if kind != .dict then throw .malformed
      merge steps place
      match (← node place).shape with
      | .dict entries =>
          let made ← entries.mapM fun (keyPlace, value) => do
            let key ← key keyPlace
            reach value
            return (key, value)
          setCell place (.dict (Dict.ofList made))
      | _ => throw .malformed
  | .scalar _ => throw .malformed

/-- Completes what was met, from the one with the given number on. -/
def completeFrom (steps : Nat) : Nat → Nat → Builder Unit
  | 0, _ => return
  | fuel + 1, number => do
      match (← get).met[number]? with
      | none => return
      | some place =>
          complete steps place
          completeFrom steps fuel (number + 1)

end Builder

/-- Each list or dictionary is met once, so their number bounds the work. -/
def Composed.values (composed : Composed) : Except ReadError Shared := do
  let nodes := composed.nodes
  let entryCount := nodes.foldl (fun count node => count + match node.shape with
    | .dict entries => entries.length
    | _ => 0) 0
  let build : Builder Unit := do
    Builder.reach composed.root
    Builder.completeFrom (2 * entryCount + 2) nodes.size 0
  let (_, state) ← build.run ⟨nodes, nodes.map fun _ => none, #[]⟩
  return ⟨state.cells.map fun cell => cell.getD (.leaf .null), composed.root⟩

/-- The values of a file; that of an empty one is null. -/
def read (source : Source) : Except ReadError Shared := do
  match ← Composed.ofLexed? (.ofSource source) with
  | none => return .ofValue .null
  | some composed => composed.values

end FleetLink.Yaml
