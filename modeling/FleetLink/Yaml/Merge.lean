import FleetLink.Yaml.Node

/-! Merge keys. A dictionary takes over the entries of the dictionaries that it merges,
in front of its own. The dictionaries taken from have their own merges carried out first,
and all of them keep what they have become. -/

namespace FleetLink.Yaml

/-- A lone equals sign stands for nothing, but as a key it is a text. -/
def Node.settled (node : Node) : Node :=
  if node.kind = .default then { node with kind := .text } else node

abbrev Merger := StateT (Array Node) (Except ReadError)

namespace Merger

def node (place : Nat) : Merger Node := do return (← get).getD place .empty

def entries (place : Nat) : Merger (List (Nat × Nat)) := do
  match (← node place).shape with
  | .dict entries => return entries
  | _ => throw .malformed

def setEntries (place : Nat) (entries : List (Nat × Nat)) : Merger Unit :=
  modify (·.modify place ({ · with shape := .dict entries }))

def settleKeys (entries : List (Nat × Nat)) : Merger Unit :=
  modify fun nodes => entries.foldl (fun nodes (key, _) => nodes.modify key Node.settled) nodes

/-- The first node that is to be merged, and the entries without its merge key. -/
def takeSource? (nodes : Array Node) : List (Nat × Nat) → Option (Nat × List (Nat × Nat))
  | [] => none
  | (key, value) :: rest =>
      if (nodes.getD key .empty).kind = .merge then some (value, rest)
      else (takeSource? nodes rest).map fun (source, others) => (source, (key, value) :: others)

/-- Carries out the merges of a dictionary. Those that a list merges count the more the
further in front they stand. Every step takes away a merge key, so a text has steps
enough for twice its entries. -/
def flatten : Nat → Nat → List (Nat × Nat) → Merger Unit
  | 0, _, _ => throw .malformed
  | fuel + 1, place, merged => do
      let own ← entries place
      match takeSource? (← get) own with
      | none =>
          setEntries place (merged ++ own)
          settleKeys own
      | some (source, others) =>
          setEntries place others
          let lend (place : Nat) : Merger (List (Nat × Nat)) := do
            flatten fuel place []
            entries place
          let lent ← match (← node source).shape with
            | .list items => (·.reverse.flatten) <$> items.mapM lend
            | _ => lend source
          flatten fuel place (merged ++ lent)

end Merger

end FleetLink.Yaml
