import FleetLink.Proofs.Contracts
import FleetLink.Yaml.Node

/-! The numbers of nodes while they are read from tokens. A node's parts and whatever has a
name are nodes themselves, and numbers stay good since nodes only get more. -/

namespace FleetLink.Yaml

/-- Every part is among so many nodes. -/
def Shape.Within (count : Nat) : Shape → Prop
  | .scalar _ => True
  | .list items => ∀ item ∈ items, item < count
  | .dict entries => ∀ entry ∈ entries, entry.1 < count ∧ entry.2 < count

theorem Shape.Within.mono {shape : Shape} {low high : Nat} (within : shape.Within low) (grown : low ≤ high) :
    shape.Within high := by
  cases shape with
  | scalar => trivial
  | list items => exact fun item member => Nat.lt_of_lt_of_le (within item member) grown
  | dict entries =>
    intro entry member
    obtain ⟨key, value⟩ := within entry member
    exact ⟨Nat.lt_of_lt_of_le key grown, Nat.lt_of_lt_of_le value grown⟩

def NodesWithin (count : Nat) (nodes : Array Node) : Prop :=
  ∀ (place : Nat) (node : Node), nodes[place]? = some node → node.shape.Within count

theorem NodesWithin.push {nodes : Array Node} (within : NodesWithin nodes.size nodes) {node : Node}
    (bare : node.shape.Within nodes.size) : NodesWithin (nodes.push node).size (nodes.push node) := by
  intro place other found
  have grown : nodes.size ≤ (nodes.push node).size := by simp
  rw [Array.getElem?_push] at found
  split at found
  · cases found
    exact bare.mono grown
  · exact (within place other found).mono grown

theorem NodesWithin.modify {count : Nat} {nodes : Array Node} (within : NodesWithin count nodes) {change : Node → Node}
    (kept : ∀ node : Node, node.shape.Within count → (change node).shape.Within count) (place : Nat) :
    NodesWithin count (nodes.modify place change) := by
  intro other node found
  rw [Array.getElem?_modify] at found
  split at found
  · obtain ⟨old, held, rfl⟩ := Option.map_eq_some_iff.mp found
    exact kept old (within other old held)
  · exact within other node found

structure Composition.Sound (state : Composition) : Prop where
  nodes : NodesWithin state.nodes.size state.nodes
  named : ∀ entry ∈ state.named, entry.2 < state.nodes.size

namespace Composer

/-- From so many nodes on, reading goes on soundly and comes to a value that is good among
the nodes that there are then. -/
def Keeps (low : Nat) (work : Composer α) (good : Nat → α → Prop) : Prop :=
  Ensures (fun state => state.Sound ∧ low ≤ state.nodes.size) work
    fun value state => state.Sound ∧ low ≤ state.nodes.size ∧ good state.nodes.size value

def anything (_ : Nat) (_ : α) : Prop := True

variable {low : Nat} {good : Nat → α → Prop}

theorem Keeps.bind {work : Composer α} (first : Keeps low work good) {next : α → Composer β} {last : Nat → β → Prop}
    (later : ∀ value high, low ≤ high → good high value → Keeps high (next value) last) :
    Keeps low (work >>= next) last := by
  refine Ensures.bind first fun value state result after ⟨sound, grown, holds⟩ run => ?_
  obtain ⟨kept, more, fine⟩ := later value state.nodes.size grown holds state result after ⟨sound, Nat.le_refl _⟩ run
  exact ⟨kept, Nat.le_trans grown more, fine⟩

theorem Keeps.pure {value : α} (holds : ∀ high, low ≤ high → good high value) : Keeps low (pure value) good :=
  Ensures.pure fun _ ⟨sound, grown⟩ => ⟨sound, grown, holds _ grown⟩

theorem Keeps.done {value : α} : Keeps low (Pure.pure value) anything := .pure fun _ _ => trivial

theorem Keeps.throw {error : ReadError} : Keeps low (throw error) good := Ensures.throw

theorem Keeps.fails {error : ReadError} {next : α → Composer β} {last : Nat → β → Prop} :
    Keeps low (MonadExcept.throw error >>= next) last := Ensures.fails

/-- The state that is seen tells how many nodes there are. -/
theorem Keeps.look {next : Composition → Composer α}
    (later : ∀ seen : Composition, seen.Sound → low ≤ seen.nodes.size → Keeps seen.nodes.size (next seen) good) :
    Keeps low (MonadState.get >>= next) good := by
  intro state value after ⟨sound, grown⟩ run
  obtain ⟨kept, more, fine⟩ := later state sound grown state value after ⟨sound, Nat.le_refl _⟩ run
  exact ⟨kept, Nat.le_trans grown more, fine⟩

theorem Keeps.set {next : Composition} (sound : next.Sound) (grown : low ≤ next.nodes.size) :
    Keeps low (set next) fun count _ => count = next.nodes.size :=
  Ensures.set fun _ _ => ⟨sound, grown, rfl⟩

theorem Keeps.modify {change : Composition → Composition}
    (kept : ∀ state : Composition, state.Sound → low ≤ state.nodes.size →
      (change state).Sound ∧ (change state).nodes.size = state.nodes.size) :
    Keeps low (modify change) anything := by
  refine Ensures.modify fun state ⟨sound, grown⟩ => ?_
  obtain ⟨still, same⟩ := kept state sound grown
  exact ⟨still, same ▸ grown, trivial⟩

theorem keeps_next? : Keeps low next? anything := by
  refine .look fun state _ _ => ?_
  dsimp only
  split
  · exact .done
  · exact .throw
  · exact .done

theorem keeps_skip : Keeps low skip anything := Keeps.modify fun _ sound _ => ⟨⟨sound.nodes, sound.named⟩, rfl⟩

theorem keeps_isAt (tokens : List Token) : Keeps low (isAt tokens) anything := by
  refine keeps_next?.bind fun token high _ _ => ?_
  split
  · exact .done
  · exact .done

def below (count place : Nat) : Prop := place < count

def bothBelow (count : Nat) (entry : Nat × Nat) : Prop := entry.1 < count ∧ entry.2 < count

def each (good : Nat → α → Prop) (count : Nat) (values : List α) : Prop := ∀ value ∈ values, good count value

/-- What is good among some nodes is good among more. -/
def Lasting (good : Nat → α → Prop) : Prop := ∀ value low high, low ≤ high → good low value → good high value

theorem lasting_below : Lasting below := fun _ _ _ grown inside => Nat.lt_of_lt_of_le inside grown

theorem lasting_bothBelow : Lasting bothBelow := fun entry low high grown inside =>
  ⟨lasting_below entry.1 low high grown inside.1, lasting_below entry.2 low high grown inside.2⟩

theorem Keeps.returned (lasting : Lasting good) {value : α} (holds : good low value) : Keeps low (Pure.pure value) good :=
  .pure fun high grown => lasting value low high grown holds

/-- One value in front of others. -/
theorem Keeps.cons (lasting : Lasting good) {value : α} (first : good low value) {values : Composer (List α)}
    (rest : Keeps low values (each good)) : Keeps low (do return value :: (← values)) (each good) := by
  refine rest.bind fun values high grown others => .pure fun higher more => ?_
  intro other member
  rcases List.mem_cons.mp member with rfl | member
  · exact lasting other low higher (Nat.le_trans grown more) first
  · exact lasting other high higher more (others other member)

theorem Keeps.pair {key value : Composer Nat} (first : Keeps low key below) (second : ∀ low, Keeps low value below)
    {next : Nat → Nat → Composer α} (later : ∀ key value high, bothBelow high (key, value) → Keeps high (next key value) good) :
    Keeps low (do let key ← key; let value ← value; next key value) good := by
  refine first.bind fun key high _ inside => (second high).bind fun value higher grown held => ?_
  exact later key value higher ⟨lasting_below key high higher grown inside, held⟩

theorem keeps_end : Keeps low (do skip; return []) (each good) :=
  keeps_skip.bind fun _ _ _ _ => .pure fun _ _ => List.forall_mem_nil _

theorem keeps_create (name : Option String) {node : Node} (within : node.shape.Within low) :
    Keeps low (create name node) below := by
  refine .look fun state sound grown => ?_
  have made {named : List (String × Nat)} (settled : ∀ entry ∈ named, entry.2 < state.nodes.size + 1) :
      Keeps state.nodes.size
        (do set { state with named := named, nodes := state.nodes.push node }; return state.nodes.size) below := by
    have size : (state.nodes.push node).size = state.nodes.size + 1 := Array.size_push _
    have nodes := sound.nodes.push (within.mono grown)
    refine (Keeps.set ⟨nodes, by rwa [size]⟩ (by rw [size]; exact Nat.le_succ _)).bind fun _ high _ same => ?_
    rw [size] at same
    exact .returned lasting_below (same ▸ Nat.lt_succ_self _)
  have old : ∀ entry ∈ state.named, entry.2 < state.nodes.size + 1 :=
    fun entry member => Nat.lt_succ_of_lt (sound.named entry member)
  dsimp only
  split
  · exact made old
  · split
    · exact .fails
    · exact made (List.forall_mem_cons.mpr ⟨Nat.lt_succ_self _, old⟩)

theorem keeps_fill (place : Nat) {shape : Shape} (within : shape.Within low) : Keeps low (fill place shape) anything := by
  refine .modify fun state sound grown => ?_
  have size : (state.nodes.modify place ({ · with shape := shape })).size = state.nodes.size := Array.size_modify
  refine ⟨⟨?_, ?_⟩, size⟩
  · exact size ▸ sound.nodes.modify (fun _ _ => within.mono grown) place
  · exact size ▸ sound.named

theorem keeps_kindOf (tag : Tag) : Keeps low (kindOf tag) anything := by
  unfold kindOf
  split
  · exact .done
  · refine .look fun state _ _ => ?_
    split
    · exact .done
    · exact .throw

theorem keeps_name? : Keeps low name? anything := by
  refine keeps_next?.bind fun token high _ _ => ?_
  split
  · exact keeps_skip.bind fun _ _ _ _ => .done
  · exact .done

theorem keeps_tag? : Keeps low tag? anything := by
  refine keeps_next?.bind fun token high _ _ => ?_
  split
  · exact keeps_skip.bind fun _ _ _ _ => .done
  · exact .done

theorem keeps_properties : Keeps low properties anything := by
  have kinds (tag : Option Tag) (high : Nat) : Keeps high (tag.mapM kindOf) anything := by
    cases tag with
    | none => exact .done
    | some tag => exact (keeps_kindOf tag).bind fun _ _ _ _ => .done
  refine keeps_tag?.bind fun before high _ _ => keeps_name?.bind fun name high _ _ => ?_
  dsimp only
  split
  · exact (kinds before high).bind fun _ _ _ _ => .done
  · refine keeps_tag?.bind fun tag high _ _ => ?_
    exact (kinds tag high).bind fun _ _ _ _ => .done

section
variable (properties : Properties)

theorem keeps_scalar (text : String) (plain : Bool) : Keeps low (scalar properties text plain) below :=
  keeps_create _ trivial

/-- A node that is there while its parts are read. -/
theorem keeps_filled (name : Option String) {bare : Shape} (kind : Kind) (empty : ∀ count, bare.Within count)
    {parts : Composer α} {shape : α → Shape}
    (kept : ∀ low, Keeps low parts fun count parts => (shape parts).Within count) :
    Keeps low (do let place ← create name ⟨bare, kind⟩; fill place (shape (← parts)); return place) below := by
  refine (keeps_create name (by exact empty low)).bind fun place high _ inside => ?_
  refine (kept high).bind fun parts higher grown within => (keeps_fill place within).bind fun _ highest more _ => ?_
  exact .returned lasting_below (lasting_below place high highest (Nat.le_trans grown more) inside)

theorem keeps_list {items : Composer (List Nat)} (kept : ∀ low, Keeps low items (each below)) :
    Keeps low (list properties items) below :=
  keeps_filled _ _ (fun count => show (Shape.list []).Within count from nofun) kept

theorem keeps_dict {entries : Composer (List (Nat × Nat))} (kept : ∀ low, Keeps low entries (each bothBelow)) :
    Keeps low (dict properties entries) below :=
  keeps_filled _ _ (fun count => show (Shape.dict []).Within count from nofun) kept

end

/-- What the readers keep with so much fuel. -/
structure Reading (fuel : Nat) : Prop where
  node : ∀ low style, Keeps low (read fuel style) below
  content : ∀ low style before, Keeps low (readContent fuel style before) below
  stopped : ∀ low stops style, Keeps low (readUnless fuel stops style) below
  items : ∀ low, Keeps low (readItems fuel) (each below)
  indentless : ∀ low, Keeps low (readIndentless fuel) (each below)
  value : ∀ low stops style, Keeps low (readValue fuel stops style) below
  entries : ∀ low, Keeps low (readEntries fuel) (each bothBelow)
  flowItem : ∀ low, Keeps low (readFlowItem fuel) below
  flowItems : ∀ low first, Keeps low (readFlowItems fuel first) (each below)
  flowEntry : ∀ low, Keeps low (readFlowEntry fuel) bothBelow
  flowEntries : ∀ low first, Keeps low (readFlowEntries fuel first) (each bothBelow)

theorem reading_zero : Reading 0 := by
  constructor <;> intros <;> exact .throw

section
variable {fuel : Nat} (reading : Reading fuel)
include reading

theorem Reading.node_succ (style : Style) : Keeps low (read (fuel + 1) style) below := by
  rw [read]
  refine keeps_next?.bind fun token high _ _ => ?_
  split
  · refine keeps_skip.bind fun _ _ _ _ => .look fun state sound _ => ?_
    split
    next place found =>
      obtain ⟨before, behind, split, _⟩ := List.lookup_eq_some_iff.mp found
      have inside := sound.named (_, place) (split ▸ List.mem_append_right before List.mem_cons_self)
      exact .returned lasting_below inside
    next => exact .throw
  · exact keeps_properties.bind fun before high _ _ => reading.content high style before

theorem Reading.content_succ (style : Style) (before : Properties) :
    Keeps low (readContent (fuel + 1) style before) below := by
  have absent (low : Nat) :
      Keeps low (if before.suffice then scalar before "" true else throw .malformed) below := by
    split
    · exact keeps_scalar before "" true
    · exact .throw
  rw [readContent]
  refine keeps_next?.bind fun token high _ _ => ?_
  split
  · split
    · exact keeps_list before reading.indentless
    · exact absent high
  · refine (keeps_scalar before _ _).bind fun place high _ inside => ?_
    exact keeps_skip.bind fun _ higher grown _ => .returned lasting_below (lasting_below place high higher grown inside)
  · exact keeps_list before fun low => keeps_skip.bind fun _ high _ _ => reading.flowItems high true
  · exact keeps_dict before fun low => keeps_skip.bind fun _ high _ _ => reading.flowEntries high true
  · split
    · exact keeps_list before fun low => keeps_skip.bind fun _ high _ _ => reading.items high
    · exact absent high
  · split
    · exact keeps_dict before fun low => keeps_skip.bind fun _ high _ _ => reading.entries high
    · exact absent high
  · exact absent high

theorem Reading.stopped_succ (stops : List Token) (style : Style) : Keeps low (readUnless (fuel + 1) stops style) below := by
  rw [readUnless]
  refine (keeps_isAt stops).bind fun stopped high _ _ => ?_
  split
  · exact keeps_create none trivial
  · exact reading.node high style

theorem Reading.value_succ (stops : List Token) (style : Style) : Keeps low (readValue (fuel + 1) stops style) below := by
  rw [readValue]
  refine (keeps_isAt _).bind fun marked high _ _ => ?_
  split
  · exact keeps_skip.bind fun _ high _ _ => reading.stopped high stops style
  · exact keeps_create none trivial

theorem Reading.items_succ : Keeps low (readItems (fuel + 1)) (each below) := by
  rw [readItems]
  refine keeps_next?.bind fun token high _ _ => ?_
  split
  · refine keeps_skip.bind fun _ high _ _ => (reading.stopped high _ _).bind fun item high _ inside => ?_
    exact .cons lasting_below inside (reading.items high)
  · exact keeps_end
  · exact .throw

theorem Reading.indentless_succ : Keeps low (readIndentless (fuel + 1)) (each below) := by
  rw [readIndentless]
  refine keeps_next?.bind fun token high _ _ => ?_
  split
  · refine keeps_skip.bind fun _ high _ _ => (reading.stopped high _ _).bind fun item high _ inside => ?_
    exact .cons lasting_below inside (reading.indentless high)
  · exact .pure fun _ _ => List.forall_mem_nil _

theorem Reading.entries_succ : Keeps low (readEntries (fuel + 1)) (each bothBelow) := by
  rw [readEntries]
  refine keeps_next?.bind fun token high _ _ => ?_
  split
  · refine keeps_skip.bind fun _ high _ _ => ?_
    refine .pair (reading.stopped high _ _) (reading.value · _ _) fun key value high inside => ?_
    exact .cons lasting_bothBelow inside (reading.entries high)
  · exact keeps_end
  · exact .throw

theorem Reading.flowItem_succ : Keeps low (readFlowItem (fuel + 1)) below := by
  rw [readFlowItem]
  refine (keeps_isAt _).bind fun marked high _ _ => ?_
  split
  · refine keeps_dict _ fun low => keeps_skip.bind fun _ high _ _ => ?_
    refine .pair (reading.stopped high _ _) (reading.value · _ _) fun key value high inside => ?_
    exact .cons lasting_bothBelow inside (.pure fun _ _ => List.forall_mem_nil _)
  · exact reading.node high flowStyle

theorem Reading.flowEntry_succ : Keeps low (readFlowEntry (fuel + 1)) bothBelow := by
  rw [readFlowEntry]
  refine (keeps_isAt _).bind fun marked high _ _ => ?_
  split
  · refine keeps_skip.bind fun _ high _ _ => ?_
    refine .pair (reading.stopped high _ _) (reading.value · _ _) fun key value high inside => ?_
    exact .returned lasting_bothBelow inside
  · refine .pair (reading.node high _) (fun _ => keeps_create none (by exact trivial)) fun key value high inside => ?_
    exact .returned lasting_bothBelow inside

end

/-- What stands in brackets or braces, with commas between. -/
theorem keeps_parted (lasting : Lasting good) (stop : Token) {part : Composer α} {rest : Composer (List α)}
    (one : ∀ low, Keeps low part good) (others : ∀ low, Keeps low rest (each good)) (first : Bool) :
    Keeps low (do
      if ← isAt [stop] then
        skip
        return []
      if !first then
        if !(← isAt [.flowEntry]) then throw .malformed
        skip
      if ← isAt [stop] then
        skip
        return []
      let value ← part
      return value :: (← rest)) (each good) := by
  have further (low : Nat) : Keeps low (do
      if ← isAt [stop] then
        skip
        return []
      let value ← part
      return value :: (← rest)) (each good) := by
    refine (keeps_isAt _).bind fun done high _ _ => ?_
    split
    · exact keeps_end
    · exact (one high).bind fun value high _ holds => .cons lasting holds (others high)
  refine (keeps_isAt _).bind fun done high _ _ => ?_
  split
  · exact keeps_end
  · dsimp only
    split
    · refine (keeps_isAt _).bind fun parted high _ _ => ?_
      split
      · exact .fails
      · exact keeps_skip.bind fun _ high _ _ => further high
    · exact further high

theorem Reading.succ {fuel : Nat} (reading : Reading fuel) : Reading (fuel + 1) where
  node _ := reading.node_succ
  content _ := reading.content_succ
  stopped _ := reading.stopped_succ
  items _ := reading.items_succ
  indentless _ := reading.indentless_succ
  value _ := reading.value_succ
  entries _ := reading.entries_succ
  flowItem _ := reading.flowItem_succ
  flowItems _ first := by
    rw [readFlowItems]
    exact keeps_parted lasting_below .flowListEnd reading.flowItem (reading.flowItems · false) first
  flowEntry _ := reading.flowEntry_succ
  flowEntries _ first := by
    rw [readFlowEntries]
    exact keeps_parted lasting_bothBelow .flowDictEnd reading.flowEntry (reading.flowEntries · false) first

theorem reading (fuel : Nat) : Reading fuel := by
  -- The readers call one another with less fuel, so all of them go through one induction.
  induction fuel with
  | zero => exact reading_zero
  | succ fuel ih => exact ih.succ

theorem keeps_skipEnds (fuel : Nat) : Keeps low (skipEnds fuel) anything := by
  induction fuel generalizing low with
  | zero => exact .done
  | succ fuel ih =>
    refine (keeps_isAt _).bind fun marked high _ _ => ?_
    split
    · exact keeps_skip.bind fun _ high _ _ => ih
    · exact .done

theorem keeps_directives (fuel : Nat) (versioned : Bool) : Keeps low (directives fuel versioned) anything := by
  induction fuel generalizing low versioned with
  | zero => exact .done
  | succ fuel ih =>
    rw [directives]
    refine keeps_next?.bind fun token high _ _ => ?_
    split
    · refine keeps_skip.bind fun _ high _ _ => ?_
      split
      · dsimp only
        split
        · exact .fails
        · exact ih true
      · refine .look fun state sound _ => ?_
        dsimp only
        split
        · exact .fails
        · refine Keeps.bind (Keeps.set ?_ ?_) fun _ _ _ _ => ih versioned
          · exact ⟨sound.nodes, sound.named⟩
          · exact Nat.le_refl _
      · exact ih versioned
    · exact .done

theorem keeps_documentStart (fuel : Nat) : Keeps low (documentStart fuel) anything := by
  refine (Keeps.modify ?_).bind fun _ high _ _ => ?_
  · exact fun state sound _ => ⟨⟨sound.nodes, sound.named⟩, rfl⟩
  refine (keeps_directives fuel false).bind fun _ high _ _ => (keeps_isAt _).bind fun marked high _ _ => ?_
  dsimp only
  split
  · exact .fails
  · exact keeps_skip

theorem keeps_documentContent (fuel : Nat) : Keeps low (documentContent fuel) below := by
  refine keeps_next?.bind fun token high _ _ => ?_
  split
  · exact keeps_create none trivial
  · exact keeps_create none trivial
  · exact keeps_create none trivial
  · exact keeps_create none trivial
  · exact (reading fuel).node high blockStyle

theorem keeps_document? (fuel : Nat) : Keeps low (document? fuel) fun count root? => ∀ root ∈ root?, below count root := by
  have behind {root high : Nat} (inside : below high root) : Keeps high (do
      skipEnds fuel
      if (← next?).isSome then
        documentStart fuel
        throw .malformed
      return some root) fun count root? => ∀ root ∈ root?, below count root := by
    refine (keeps_skipEnds fuel).bind fun _ higher grown _ => keeps_next?.bind fun token highest more _ => ?_
    dsimp only
    split
    · exact (keeps_documentStart fuel).bind fun _ _ _ _ => .fails
    · refine .pure fun _ beyond root member => ?_
      cases member
      exact lasting_below root high _ (Nat.le_trans (Nat.le_trans grown more) beyond) inside
  refine keeps_next?.bind fun token high _ _ => ?_
  dsimp only
  split
  · exact .pure fun _ _ => nofun
  · refine (keeps_documentStart fuel).bind fun _ high _ _ => (keeps_documentContent fuel).bind fun root high _ inside => ?_
    exact behind inside
  · refine (keeps_documentStart fuel).bind fun _ high _ _ => (keeps_documentContent fuel).bind fun root high _ inside => ?_
    exact behind inside
  · exact ((reading fuel).node high blockStyle).bind fun root high _ inside => behind inside

end Composer

/-- The nodes of a text have their parts among themselves. -/
theorem Composed.within_of_lexed {lexed : Lexed} {composed : Composed} (found : ofLexed? lexed = .ok (some composed)) :
    NodesWithin composed.nodes.size composed.nodes ∧ composed.root < composed.nodes.size := by
  unfold ofLexed? at found
  cases run : (Composer.document? (4 * lexed.tokens.length + 4)).run ⟨lexed, [], [], #[]⟩ with
  | error =>
    rw [run] at found
    cases found
  | ok done =>
    obtain ⟨root?, state⟩ := done
    rw [run] at found
    have start : (⟨lexed, [], [], #[]⟩ : Composition).Sound := ⟨nofun, nofun⟩
    obtain ⟨sound, _, inside⟩ := Composer.keeps_document? _ _ _ _ ⟨start, Nat.zero_le _⟩ run
    cases root? with
    | none => cases found
    | some root =>
      cases found
      exact ⟨sound.nodes, inside root rfl⟩

end FleetLink.Yaml
