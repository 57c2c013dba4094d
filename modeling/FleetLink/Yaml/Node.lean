import FleetLink.Yaml.Kind
import FleetLink.Yaml.Tokens

/-! The nodes that tokens describe. Each has a number, and lists and dictionaries hold
the numbers of their parts, for a name given to a node lets it stand in several places.
A name must be given before it is used, and only once; a list or dictionary has its name
while its parts are read, so it may be a part of itself. -/

namespace FleetLink.Yaml

inductive Shape where
  | scalar (text : String)
  | list (items : List Nat)
  | dict (entries : List (Nat × Nat))

structure Node where
  shape : Shape
  kind : Kind

/-- What is written where nothing is written. -/
def Node.empty : Node := ⟨.scalar "", .look⟩

instance : Inhabited Node := ⟨.empty⟩

/-- The tokens still to be read and what is wrong behind them, the handles that tags may
begin with, the names given so far, and the nodes by number. -/
structure Composition where
  lexed : Lexed
  handles : List (String × String)
  named : List (String × Nat)
  nodes : Array Node

/-- The handles that need not be given. -/
def commonHandles : List (String × String) := [("!", "!"), ("!!", Kind.opening)]

abbrev Composer := StateT Composition (Except ReadError)

namespace Composer

/-- The next token; none at the end of the text. Asking for one where the text is faulty
fails. -/
def next? : Composer (Option Token) := do
  let lexed := (← get).lexed
  match lexed.tokens, lexed.fault with
  | token :: _, _ => return some token
  | [], some error => throw error
  | [], none => return none

def skip : Composer Unit :=
  modify fun state => { state with lexed := { state.lexed with tokens := state.lexed.tokens.drop 1 } }

def isAt (tokens : List Token) : Composer Bool := do
  match ← next? with
  | some token => return tokens.contains token
  | none => return false

/-- A new node, with the name that it may be given. -/
def create (name : Option String) (node : Node) : Composer Nat := do
  let state ← get
  let place := state.nodes.size
  let named ← match name with
    | none => pure state.named
    | some name =>
        if (state.named.lookup name).isSome then throw .malformed
        pure ((name, place) :: state.named)
  set { state with named := named, nodes := state.nodes.push node }
  return place

def fill (place : Nat) (shape : Shape) : Composer Unit :=
  modify fun state => { state with nodes := state.nodes.modify place ({ · with shape := shape }) }

/-- The kind that a tag stands for. -/
def kindOf (tag : Tag) : Composer Kind := do
  match tag.handle with
  | none => return .ofTag tag.suffix
  | some handle =>
      match ((← get).handles ++ commonHandles).lookup handle with
      | some opening => return .ofTag (opening ++ tag.suffix)
      | none => throw .malformed

/-- What may stand in front of a node: its name, and its kind if a tag says so. -/
structure Properties where
  name : Option String
  kind : Option Kind

/-- Whether nothing need follow. -/
def Properties.suffice (properties : Properties) : Bool :=
  properties.name.isSome || properties.kind.isSome

/-- A kind that a node has by itself, unless a tag says otherwise. -/
def Properties.kindOr (properties : Properties) (kind : Kind) : Kind :=
  match properties.kind with
  | none | some .look => kind
  | some said => said

def name? : Composer (Option String) := do
  match ← next? with
  | some (.anchor name) =>
      skip
      return some name
  | _ => return none

def tag? : Composer (Option Tag) := do
  match ← next? with
  | some (.tag tag) =>
      skip
      return some tag
  | _ => return none

/-- Reads the name and the tag of a node, in either order. -/
def properties : Composer Properties := do
  let before ← tag?
  let name ← name?
  let tag ← if before.isSome || name.isNone then pure before else tag?
  return ⟨name, ← tag.mapM kindOf⟩

/-- How a node may be written: blocks are allowed or not, and so are entries of a list
at the indentation of the key before it. -/
structure Style where
  block : Bool
  indentless : Bool

def blockStyle : Style := ⟨true, false⟩
def valueStyle : Style := ⟨true, true⟩
def flowStyle : Style := ⟨false, false⟩

/-- The node of a scalar. With an exclamation mark alone even one in quotes is what it
looks like. -/
def scalar (properties : Properties) (text : String) (plain : Bool) : Composer Nat :=
  let kind := match properties.kind with
    | none => if plain then .ofLook text else .text
    | some .look => .ofLook text
    | some said => said
  create properties.name ⟨.scalar text, kind⟩

/-- Reads a list whose items are read as given. -/
def list (properties : Properties) (items : Composer (List Nat)) : Composer Nat := do
  let place ← create properties.name ⟨.list [], properties.kindOr .list⟩
  fill place (.list (← items))
  return place

/-- Reads a dictionary whose entries are read as given. -/
def dict (properties : Properties) (entries : Composer (List (Nat × Nat))) : Composer Nat := do
  let place ← create properties.name ⟨.dict [], properties.kindOr .dict⟩
  fill place (.dict (← entries))
  return place

mutual

/-- Reads a node with what may stand in front of it. -/
def read : Nat → Style → Composer Nat
  | 0, _ => throw .malformed
  | fuel + 1, style => do
      match ← next? with
      | some (.reference name) =>
          skip
          match (← get).named.lookup name with
          | some place => return place
          | none => throw .malformed
      | _ => readContent fuel style (← properties)

/-- Reads a node after what stands in front of it; that may be all there is of it. -/
def readContent : Nat → Style → Properties → Composer Nat
  | 0, _, _ => throw .malformed
  | fuel + 1, style, before => do
      let absent : Composer Nat := if before.suffice then scalar before "" true else throw .malformed
      match ← next? with
      | some .blockEntry => if style.indentless then list before (readIndentless fuel) else absent
      | some (.scalar text plain) =>
          let place ← scalar before text plain
          skip
          return place
      | some .flowListStart => list before (do skip; readFlowItems fuel true)
      | some .flowDictStart => dict before (do skip; readFlowEntries fuel true)
      | some .blockList => if style.block then list before (do skip; readItems fuel) else absent
      | some .blockDict => if style.block then dict before (do skip; readEntries fuel) else absent
      | _ => absent

/-- A node, unless one of the given tokens follows at once. -/
def readUnless : Nat → List Token → Style → Composer Nat
  | 0, _, _ => throw .malformed
  | fuel + 1, stops, style => do
      if ← isAt stops then create none .empty else read fuel style

/-- Items of a block list up to its end. -/
def readItems : Nat → Composer (List Nat)
  | 0 => throw .malformed
  | fuel + 1 => do
      match ← next? with
      | some .blockEntry =>
          skip
          let item ← readUnless fuel [.blockEntry, .blockEnd] blockStyle
          return item :: (← readItems fuel)
      | some .blockEnd =>
          skip
          return []
      | _ => throw .malformed

/-- Items of a list that is not indented; anything else ends it. -/
def readIndentless : Nat → Composer (List Nat)
  | 0 => throw .malformed
  | fuel + 1 => do
      match ← next? with
      | some .blockEntry =>
          skip
          let item ← readUnless fuel [.blockEntry, .key, .value, .blockEnd] blockStyle
          return item :: (← readIndentless fuel)
      | _ => return []

/-- The value of an entry after its key, if there is one. -/
def readValue : Nat → List Token → Style → Composer Nat
  | 0, _, _ => throw .malformed
  | fuel + 1, stops, style => do
      if ← isAt [.value] then
        skip
        readUnless fuel stops style
      else create none .empty

/-- Entries of a block dictionary up to its end. -/
def readEntries : Nat → Composer (List (Nat × Nat))
  | 0 => throw .malformed
  | fuel + 1 => do
      match ← next? with
      | some .key =>
          skip
          let key ← readUnless fuel [.key, .value, .blockEnd] valueStyle
          let value ← readValue fuel [.key, .value, .blockEnd] valueStyle
          return (key, value) :: (← readEntries fuel)
      | some .blockEnd =>
          skip
          return []
      | _ => throw .malformed

/-- An item in brackets, which may be a single entry. -/
def readFlowItem : Nat → Composer Nat
  | 0 => throw .malformed
  | fuel + 1 => do
      if ← isAt [.key] then
        dict ⟨none, none⟩ do
          skip
          let key ← readUnless fuel [.value, .flowEntry, .flowListEnd] flowStyle
          let value ← readValue fuel [.flowEntry, .flowListEnd] flowStyle
          return [(key, value)]
      else read fuel flowStyle

/-- Items in brackets with commas between them; one may stand at the end. -/
def readFlowItems : Nat → Bool → Composer (List Nat)
  | 0, _ => throw .malformed
  | fuel + 1, first => do
      if ← isAt [.flowListEnd] then
        skip
        return []
      if !first then
        if !(← isAt [.flowEntry]) then throw .malformed
        skip
      if ← isAt [.flowListEnd] then
        skip
        return []
      let item ← readFlowItem fuel
      return item :: (← readFlowItems fuel false)

/-- An entry in braces; a node that is not marked as a key has no value. -/
def readFlowEntry : Nat → Composer (Nat × Nat)
  | 0 => throw .malformed
  | fuel + 1 => do
      if ← isAt [.key] then
        skip
        let key ← readUnless fuel [.value, .flowEntry, .flowDictEnd] flowStyle
        let value ← readValue fuel [.flowEntry, .flowDictEnd] flowStyle
        return (key, value)
      else
        let key ← read fuel flowStyle
        return (key, ← create none .empty)

/-- Entries in braces with commas between them; one may stand at the end. -/
def readFlowEntries : Nat → Bool → Composer (List (Nat × Nat))
  | 0, _ => throw .malformed
  | fuel + 1, first => do
      if ← isAt [.flowDictEnd] then
        skip
        return []
      if !first then
        if !(← isAt [.flowEntry]) then throw .malformed
        skip
      if ← isAt [.flowDictEnd] then
        skip
        return []
      let entry ← readFlowEntry fuel
      return entry :: (← readFlowEntries fuel false)

end

/-- Skips marks that end a document; a text has fewer than `fuel` of them. -/
def skipEnds : Nat → Composer Unit
  | 0 => return
  | fuel + 1 => do
      if ← isAt [.documentEnd] then
        skip
        skipEnds fuel

/-- Directives of one document. The version is told once and is one point anything, and
every handle is given once. -/
def directives : Nat → Bool → Composer Unit
  | 0, _ => return
  | fuel + 1, versioned => do
      match ← next? with
      | some (.directive directive) =>
          skip
          match directive with
          | .version major =>
              if versioned || major != 1 then throw .malformed
              directives fuel true
          | .handle name opening =>
              let state ← get
              if (state.handles.lookup name).isSome then throw .malformed
              set { state with handles := (name, opening) :: state.handles }
              directives fuel versioned
          | .other => directives fuel versioned
      | _ => return

/-- The mark that begins a document, with directives in front of it. -/
def documentStart (fuel : Nat) : Composer Unit := do
  modify fun state => { state with handles := [] }
  directives fuel false
  if !(← isAt [.documentStart]) then throw .malformed
  skip

/-- A document after the mark that begins it, which may be empty. -/
def documentContent (fuel : Nat) : Composer Nat := do
  match ← next? with
  | none | some (.directive _) | some .documentStart | some .documentEnd => create none .empty
  | some _ => read fuel blockStyle

/-- The only document of a file. An empty file has none. -/
def document? (fuel : Nat) : Composer (Option Nat) := do
  let root ← match ← next? with
    | none => return none
    | some .documentStart | some (.directive _) => do
        documentStart fuel
        documentContent fuel
    | some _ => read fuel blockStyle
  skipEnds fuel
  if (← next?).isSome then
    documentStart fuel
    throw .malformed
  return some root

end Composer

/-- The nodes of a text and the number of the outermost one. -/
structure Composed where
  nodes : Array Node
  root : Nat

/-- The nodes of a text, or nothing for an empty one. -/
def Composed.ofLexed? (lexed : Lexed) : Except ReadError (Option Composed) := do
  let (root, state) ← (Composer.document? (4 * lexed.tokens.length + 4)).run ⟨lexed, [], [], #[]⟩
  return root.map fun root => ⟨state.nodes, root⟩

end FleetLink.Yaml
