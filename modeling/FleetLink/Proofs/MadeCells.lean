import FleetLink.Proofs.ComposedNodes
import FleetLink.Proofs.SharedCells
import FleetLink.Proofs.LoadFailure

/-! The cells that are made from nodes. Merging takes no parts but those that there are, so
every number in a cell stands for a cell. -/

namespace FleetLink.Yaml

variable {count : Nat}

theorem within_getD {nodes : Array Node} (within : NodesWithin count nodes) (place : Nat) :
    (nodes.getD place .empty).shape.Within count := by
  rw [Array.getD_eq_getD_getElem?]
  cases held : nodes[place]? with
  | none => trivial
  | some node => exact within place node held

namespace Merger

theorem ensures_node (place : Nat) :
    Ensures (NodesWithin count) (node place) fun node nodes => NodesWithin count nodes ∧ node.shape.Within count :=
  .look fun _ seen => .pure fun _ within => ⟨within, within_getD seen place⟩

theorem ensures_entries (place : Nat) :
    Ensures (NodesWithin count) (entries place) fun entries nodes =>
      NodesWithin count nodes ∧ (Shape.dict entries).Within count := by
  refine (ensures_node place).bind fun node => ?_
  split
  next entries held => exact .pure fun _ ⟨within, parts⟩ => ⟨within, held ▸ parts⟩
  next => exact .throw

theorem ensures_setEntries (place : Nat) {entries : List (Nat × Nat)} (parts : (Shape.dict entries).Within count) :
    Ensures (NodesWithin count) (setEntries place entries) fun _ => NodesWithin count :=
  .modify fun _ within => within.modify (fun _ _ => parts) place

theorem within_settled (node : Node) (within : node.shape.Within count) : node.settled.shape.Within count := by
  unfold Node.settled
  split <;> exact within

theorem ensures_settleKeys (entries : List (Nat × Nat)) :
    Ensures (NodesWithin count) (settleKeys entries) fun _ => NodesWithin count := by
  refine .modify fun nodes within => ?_
  induction entries generalizing nodes with
  | nil => exact within
  | cons entry rest ih => exact ih _ (within.modify within_settled entry.1)

theorem takeSource?_subset {nodes : Array Node} {own others : List (Nat × Nat)} {source : Nat}
    (taken : takeSource? nodes own = some (source, others)) : others ⊆ own := by
  induction own generalizing others with
  | nil => cases taken
  | cons entry rest ih =>
    rw [takeSource?] at taken
    split at taken
    · cases taken
      exact List.subset_cons_self _ _
    · obtain ⟨⟨found, left⟩, later, same⟩ := Option.map_eq_some_iff.mp taken
      cases same
      exact List.cons_subset_cons _ (ih later)

theorem ensures_flatten (fuel place : Nat) {merged : List (Nat × Nat)} (parts : (Shape.dict merged).Within count) :
    Ensures (NodesWithin count) (flatten fuel place merged) fun _ => NodesWithin count := by
  induction fuel generalizing place merged with
  | zero => exact .throw
  | succ fuel ih =>
    rw [flatten]
    refine (ensures_entries place).bind fun own => .given fun held => ?_
    refine .look fun nodes _ => ?_
    split
    next =>
      refine (ensures_setEntries place ?_).bind fun _ => ensures_settleKeys own
      exact List.forall_mem_append.mpr ⟨parts, held⟩
    next source others taken =>
      have lend (lender : Nat) : Ensures (NodesWithin count) (do flatten fuel lender []; entries lender) fun lent nodes =>
          NodesWithin count nodes ∧ (Shape.dict lent).Within count :=
        (ih lender (List.forall_mem_nil _)).bind fun _ => ensures_entries lender
      have left : (Shape.dict others).Within count := fun entry member => held entry (takeSource?_subset taken member)
      refine (ensures_setEntries place left).bind fun _ => ?_
      refine (ensures_node source).bind fun node => .given fun _ => ?_
      have finish (lent : List (Nat × Nat)) :
          Ensures (fun nodes => NodesWithin count nodes ∧ (Shape.dict lent).Within count)
            (flatten fuel place (merged ++ lent)) fun _ => NodesWithin count :=
        .given fun given => ih place (List.forall_mem_append.mpr ⟨parts, given⟩)
      dsimp only
      split
      next items _ =>
        refine Ensures.bind ?_ finish
        refine (Ensures.mapM fun item _ => lend item).map fun values nodes ⟨within, each⟩ => ⟨within, ?_⟩
        intro entry member
        obtain ⟨some, listed, inside⟩ := List.mem_flatten.mp member
        exact each some (List.mem_reverse.mp listed) entry inside
      next => exact (lend source).bind finish

end Merger

/-- Nodes and cells in which every number is one of so many. -/
structure Building.Sound (count : Nat) (state : Building) : Prop where
  nodes : NodesWithin count state.nodes
  size : state.cells.size = count
  cells : ∀ (place : Nat) (cell : Cell), state.cells[place]? = some (some cell) → ∀ part ∈ cell.parts, part < count

namespace Builder

/-- Work that keeps the numbers right. -/
def Keeps (count : Nat) (work : Builder α) : Prop :=
  Ensures (Building.Sound count) work fun _ => Building.Sound count

theorem ensures_node (place : Nat) :
    Ensures (Building.Sound count) (node place) fun node state => state.Sound count ∧ node.shape.Within count :=
  .look fun _ seen => .pure fun _ sound => ⟨sound, within_getD seen.nodes place⟩

theorem keeps_scalarText (fuel place : Nat) : Keeps count (scalarText fuel place) := by
  induction fuel generalizing place with
  | zero => exact .throw
  | succ fuel ih =>
    rw [scalarText]
    refine (ensures_node place).bind fun node => .given fun _ => ?_
    split
    · exact .pure fun _ => id
    · exact .throw
    · refine .look fun state _ => ?_
      dsimp only
      split
      · exact ih _
      · exact .throw

theorem keeps_scalarValue (place : Nat) (kind : Kind) : Keeps count (scalarValue place kind) := by
  refine .look fun state _ => (keeps_scalarText _ place).bind fun text => ?_
  split
  · exact .pure fun _ => id
  · exact .throw
  · exact .throw

theorem keeps_setCell (place : Nat) {cell : Cell} (parts : ∀ part ∈ cell.parts, part < count) :
    Keeps count (setCell place cell) := by
  refine .modify fun state sound => ⟨sound.nodes, ?_, fun other found held => ?_⟩
  · simpa using sound.size
  · rw [Array.getElem?_setIfInBounds] at held
    split at held
    · split at held
      · cases held
        exact parts
      · cases held
    · exact sound.cells other found held

theorem keeps_putOff (place : Nat) {cell : Cell} (bare : cell.parts = []) : Keeps count (putOff place cell) := by
  refine (keeps_setCell place (by simp [bare])).bind fun _ => .modify fun state sound => ?_
  exact ⟨sound.nodes, sound.size, sound.cells⟩

theorem keeps_reach (place : Nat) : Keeps count (reach place) := by
  refine .look fun state _ => ?_
  split
  · refine (ensures_node place).bind fun node => .given fun _ => ?_
    split
    · exact keeps_putOff place rfl
    · exact keeps_putOff place rfl
    · exact (keeps_scalarValue place _).bind fun value => keeps_setCell place (List.forall_mem_nil _)
  · exact .pure fun _ => id

theorem keeps_key (place : Nat) : Keeps count (key place) := by
  refine (keeps_reach place).bind fun _ => .look fun state _ => ?_
  split
  · exact .pure fun _ => id
  · exact .throw

theorem keeps_merge (steps place : Nat) : Keeps count (merge steps place) := by
  refine .look fun seen sound => ?_
  have flattened (done : Unit × Array Node) (merged : (Merger.flatten steps place []).run seen.nodes = .ok done) :
      NodesWithin count done.2 :=
    Merger.ensures_flatten steps place (List.forall_mem_nil _) seen.nodes done.1 done.2 sound.nodes merged
  refine (Ensures.lift flattened).bind fun done => .given fun nodes => .set fun _ _ => ?_
  exact ⟨nodes, sound.size, sound.cells⟩

theorem parts_ofList {made : List (Value × Nat)} (inside : ∀ entry ∈ made, entry.2 < count) :
    ∀ part ∈ (Cell.dict (Dict.ofList made)).parts, part < count := by
  intro part member
  obtain ⟨entry, listed, rfl⟩ := List.mem_map.mp member
  suffices each : ∀ entry ∈ Dict.ofList made, entry.2 < count from each entry listed
  clear listed member
  induction made using List.reverseRecOn with
  | nil => exact nofun
  | append_singleton rest last ih =>
    intro entry member
    rw [Dict.ofList, List.foldl_append] at member
    rcases Dict.mem_put_key member with ⟨_, same⟩ | earlier
    · exact same ▸ inside last (by simp)
    · exact ih (fun entry member => inside entry (List.mem_append_left _ member)) entry earlier

theorem keeps_complete (steps place : Nat) : Keeps count (complete steps place) := by
  refine (ensures_node place).bind fun node => .given fun within => ?_
  obtain ⟨shape, kind⟩ := node
  dsimp only
  split
  next items =>
    split
    · exact .fails
    · exact (Ensures.forM fun item _ => keeps_reach item).bind fun _ => keeps_setCell place within
  next =>
    split
    · exact .fails
    · refine (keeps_merge steps place).bind fun _ => (ensures_node place).bind fun node => .given fun within => ?_
      split
      next entries held =>
        rw [held] at within
        refine (Ensures.mapM fun entry member => ?_).bind fun made => .given fun inside => keeps_setCell place (parts_ofList inside)
        refine (keeps_key entry.1).bind fun key => (keeps_reach entry.2).bind fun _ => ?_
        exact .pure fun _ sound => ⟨sound, (within entry member).2⟩
      next => exact .throw
  next => exact .throw

theorem keeps_completeFrom (steps fuel number : Nat) : Keeps count (completeFrom steps fuel number) := by
  induction fuel generalizing number with
  | zero => exact .pure fun _ => id
  | succ fuel ih =>
    refine .look fun state _ => ?_
    split
    · exact .pure fun _ => id
    · exact (keeps_complete steps _).bind fun _ => ih (number + 1)

end Builder

/-- The cells of nodes whose parts are among themselves have theirs among themselves. -/
theorem whole_of_values {composed : Composed} (within : NodesWithin composed.nodes.size composed.nodes)
    (inside : composed.root < composed.nodes.size) {shared : Shared} (made : composed.values = .ok shared) :
    shared.Whole := by
  simp only [Composed.values, bind, Except.bind] at made
  split at made
  · cases made
  next done built =>
    cases made
    have start : Building.Sound composed.nodes.size ⟨composed.nodes, composed.nodes.map fun _ => none, #[]⟩ := by
      refine ⟨within, Array.size_map, fun place cell held => ?_⟩
      simp at held
    have sound : done.2.Sound composed.nodes.size :=
      (Builder.keeps_reach composed.root).bind (fun _ => Builder.keeps_completeFrom _ _ _) _ done.1 done.2 start built
    constructor
    · simpa [sound.size] using inside
    · intro place part member
      rw [Array.size_map, sound.size]
      rw [Shared.cell, Array.getD_eq_getD_getElem?, Array.getElem?_map] at member
      cases held : done.2.cells[place]? with
      | none =>
        rw [held] at member
        cases member
      | some made =>
        rw [held] at member
        cases made with
        | none => cases member
        | some cell => exact sound.cells place cell held part member

theorem whole_of_read {source : Source} {shared : Shared} (parsed : read source = .ok shared) : shared.Whole := by
  simp only [read, bind, Except.bind] at parsed
  split at parsed
  · cases parsed
  next found composed =>
    split at parsed
    · cases parsed
      refine ⟨Nat.zero_lt_one, fun place part member => ?_⟩
      cases place <;> cases member
    · obtain ⟨within, inside⟩ := Composed.within_of_lexed composed
      exact whole_of_values within inside parsed

end FleetLink.Yaml

namespace FleetLink.Settings

/-- A document in whose cells every number stands for a cell. -/
inductive Document.Whole : Document → Prop where
  | tree (entries : Entries) : Whole (.tree entries)
  | shared {values : Shared} (whole : values.Whole) : Whole (.shared values)

theorem whole_of_ofValue? {value : Value} {document : Document} (made : Document.ofValue? value = some document) :
    document.Whole := by
  obtain ⟨entries, rfl⟩ := tree_of_ofValue? made
  exact .tree entries

theorem whole_of_readContent {content : Content} {document : Document}
    (parsed : readContent content = .ok (some document)) : document.Whole := by
  cases content with
  | document value => exact whole_of_ofValue? (Except.ok.inj parsed)
  | bytes bytes =>
    simp only [readContent, bind, Except.bind] at parsed
    split at parsed
    · cases parsed
    next values outcome =>
      have whole : values.Whole := by
        cases parsed : Yaml.read (.ofBytes bytes) with
        | error =>
          rw [parsed] at outcome
          cases outcome
        | ok values =>
          rw [parsed] at outcome
          cases outcome
          exact Yaml.whole_of_read parsed
      have made := Except.ok.inj parsed
      unfold Document.ofShared? at made
      split at made
      next held =>
        cases made
        exact .shared whole
      next => exact whole_of_ofValue? made

/-- What is read from a file is whole. -/
theorem whole_of_readFile {folder : Folder} {path : String} {document : Document}
    (held : readFile folder path = .ok document) : document.Whole := by
  unfold readFile at held
  split at held
  · cases held
  · cases held
  · cases held
  next content _ =>
    simp only [bind, Except.bind] at held
    split at held
    · cases held
    next found parsed =>
      split at held
      · cases held
        exact whole_of_readContent parsed
      · cases held

end FleetLink.Settings
