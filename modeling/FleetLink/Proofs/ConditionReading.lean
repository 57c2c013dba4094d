import Mathlib.Data.List.Basic

/-! Conditions as a database reads them. The words `and` and `or` connect what stands
between them, unless they stand in quotes, in a comment, in brackets or in a range, and
`and` binds tighter than `or`. Whatever is whole before a blank is read on its own. -/

namespace FleetLink.Query.Condition

inductive Token where
  | word (letters : List Char)
  | mark (c : Char)
  | quoted (quote : Char) (inside : List Char)
deriving DecidableEq, Repr

/-- Where the reading of a text has come to. A sign is the first half of what may open a
comment, and a starred comment may be about to close. -/
inductive Place where
  | between
  | word (letters : List Char)
  | quoted (quote : Char) (inside : List Char)
  | sign (c : Char)
  | line
  | comment (starred : Bool)

def isNameChar (c : Char) : Bool :=
  c.isAlphanum || c == '_' || c == '$' || c == '.' || 128 ≤ c.toNat

/-- Reads a character that belongs to nothing before it. -/
def begins (c : Char) : List Token × Place :=
  if isNameChar c then ([], .word [c])
  else if c = '\'' || c = '"' then ([], .quoted c [])
  else if c = '-' || c = '/' then ([], .sign c)
  else if c.isWhitespace then ([], .between)
  else ([.mark c], .between)

def Place.step : Place → Char → List Token × Place
  | .between, c => begins c
  | .word letters, c =>
      if isNameChar c then ([], .word (letters ++ [c])) else (.word letters :: (begins c).1, (begins c).2)
  | .quoted quote inside, c =>
      if c = quote then ([.quoted quote inside], .between) else ([], .quoted quote (inside ++ [c]))
  | .sign opening, c =>
      if opening = '-' && c = '-' then ([], .line)
      else if opening = '/' && c = '*' then ([], .comment false)
      else (.mark opening :: (begins c).1, (begins c).2)
  | .line, c => ([], if c = '\n' then .between else .line)
  | .comment starred, c => ([], if starred && c = '/' then .between else .comment (c = '*'))

/-- What is read last when the text ends here. It cannot end in quotes or in a comment. -/
def Place.last? : Place → Option (List Token)
  | .between => some []
  | .word letters => some [.word letters]
  | .sign c => some [.mark c]
  | .quoted .. | .line | .comment _ => none

def tokensFrom (place : Place) : List Char → Option (List Token)
  | [] => place.last?
  | c :: rest => (tokensFrom (place.step c).2 rest).map ((place.step c).1 ++ ·)

def Token.isWord (name : String) : Token → Bool
  | .word letters => letters.map Char.toLower == name.toList
  | _ => false

def Token.opens (token : Token) : Bool :=
  token == .mark '(' || token == .mark '[' || token.isWord "case"

def Token.closes (token : Token) : Bool :=
  token == .mark ')' || token == .mark ']' || token.isWord "end"

/-- A condition is a row of pieces with connectives among them. -/
inductive Part where
  | piece (token : Token)
  | conjunction
  | disjunction

/-- The brackets that are open, and outside of them the ranges `between` whose `and` is
still to come. -/
structure Nesting where
  depth : Nat := 0
  ranges : Nat := 0
deriving DecidableEq

/-- Settles what a token is. A bracket that was never opened and an `or` in a range are
none of a condition. -/
def Nesting.step (nesting : Nesting) (token : Token) : Option (Part × Nesting) :=
  if token.opens then some (.piece token, { nesting with depth := nesting.depth + 1 })
  else if token.closes then
    if nesting.depth = 0 then none else some (.piece token, { nesting with depth := nesting.depth - 1 })
  else if nesting.depth ≠ 0 then some (.piece token, nesting)
  else if token.isWord "between" then some (.piece token, { nesting with ranges := nesting.ranges + 1 })
  else if token.isWord "and" then
    if nesting.ranges = 0 then some (.conjunction, nesting)
    else some (.piece token, { nesting with ranges := nesting.ranges - 1 })
  else if token.isWord "or" then
    if nesting.ranges = 0 then some (.disjunction, nesting) else none
  else some (.piece token, nesting)

def partsFrom (nesting : Nesting) : List Token → Option (List Part)
  | [] => if nesting = {} then some [] else none
  | token :: rest => (nesting.step token).bind fun settled => (partsFrom settled.2 rest).map (settled.1 :: ·)

/-- The parts of a text that is whole: every quote, comment, bracket and range ends in it. -/
def parts? (chars : List Char) : Option (List Part) :=
  (tokensFrom .between chars).bind (partsFrom {})

/-- A factor is true or false of a row as a whole; brackets and negations are within it. -/
abbrev Factor := List Token

/-- The alternatives of a condition, each with the factors that it requires. -/
abbrev Reading := List (List Factor)

/-- An `or` parts alternatives, and an `and` parts factors of one alternative. -/
def grouped : List Part → Reading
  | [] => [[[]]]
  | .piece token :: rest => (grouped rest).modifyHead fun factors => factors.modifyHead (token :: ·)
  | .conjunction :: rest => (grouped rest).modifyHead ([] :: ·)
  | .disjunction :: rest => [[]] :: grouped rest

def read? (condition : String) : Option Reading := (parts? condition.toList).map grouped

/-- An alternative holds when all its factors are true. Truth is given to the factors by
their places in the condition, so that two of the same text need not agree; what is
unknown counts as not true. -/
def HoldsFrom (truth : Nat → Prop) : Nat → Reading → Prop
  | _, [] => False
  | place, alternative :: others =>
      (∀ i < alternative.length, truth (place + i)) ∨ HoldsFrom truth (place + alternative.length) others

def Holds (truth : Nat → Prop) (reading : Reading) : Prop := HoldsFrom truth 0 reading

theorem begins_blank : begins ' ' = ([], .between) := rfl

theorem step_blank {place : Place} {tokens : List Token} (whole : place.last? = some tokens) :
    place.step ' ' = (tokens, .between) := by
  have apart : isNameChar ' ' = false := rfl
  cases place <;> cases whole <;> simp [Place.step, begins_blank, apart]

theorem tokensFrom_blank {chars : List Char} {place : Place} {tokens : List Token}
    (read : tokensFrom place chars = some tokens) (rest : List Char) :
    tokensFrom place (chars ++ ' ' :: rest) = (tokensFrom .between rest).map (tokens ++ ·) := by
  induction chars generalizing place tokens with
  | nil => rw [List.nil_append, tokensFrom, step_blank read]
  | cons c chars ih =>
    obtain ⟨later, found, rfl⟩ := Option.map_eq_some_iff.mp read
    rw [List.cons_append, tokensFrom, ih found, Option.map_map]
    simp only [Function.comp_def, List.append_assoc]

theorem partsFrom_append {tokens : List Token} {nesting : Nesting} {parts : List Part}
    (read : partsFrom nesting tokens = some parts) (more : List Token) :
    partsFrom nesting (tokens ++ more) = (partsFrom {} more).map (parts ++ ·) := by
  induction tokens generalizing nesting parts with
  | nil =>
    rw [partsFrom] at read
    split at read
    next level =>
      cases read
      simp [level]
    next => cases read
  | cons token tokens ih =>
    obtain ⟨settled, step, later⟩ := Option.bind_eq_some_iff.mp read
    obtain ⟨parts, found, rfl⟩ := Option.map_eq_some_iff.mp later
    rw [List.cons_append, partsFrom, step, Option.bind_some, ih found, Option.map_map]
    rfl

/-- What is whole before a blank is read on its own, and so is the rest. -/
theorem parts?_blank {chars : List Char} {parts : List Part} (read : parts? chars = some parts) (rest : List Char) :
    parts? (chars ++ ' ' :: rest) = (parts? rest).map (parts ++ ·) := by
  obtain ⟨tokens, scanned, settled⟩ := Option.bind_eq_some_iff.mp read
  rw [parts?, parts?, tokensFrom_blank scanned]
  cases tokensFrom .between rest with
  | none => rfl
  | some more => exact partsFrom_append settled more

/-- Every condition has an alternative, and that has a factor. -/
theorem exists_grouped (parts : List Part) : ∃ first factors others, grouped parts = (first :: factors) :: others := by
  induction parts with
  | nil => exact ⟨_, _, _, rfl⟩
  | cons part parts ih =>
    obtain ⟨first, factors, others, same⟩ := ih
    cases part with
    | piece token => exact ⟨token :: first, factors, others, by rw [grouped, same]; rfl⟩
    | conjunction => exact ⟨[], first :: factors, others, by rw [grouped, same]; rfl⟩
    | disjunction => exact ⟨[], [], grouped parts, rfl⟩

theorem ne_nil_of_mem_grouped {parts : List Part} : ∀ alternative ∈ grouped parts, alternative ≠ [] := by
  induction parts with
  | nil => exact List.forall_mem_singleton.mpr (List.cons_ne_nil _ _)
  | cons part parts ih =>
    obtain ⟨first, factors, others, same⟩ := exists_grouped parts
    rw [same, List.forall_mem_cons] at ih
    cases part with
    | piece token =>
      rw [grouped, same]
      exact List.forall_mem_cons.mpr ⟨List.cons_ne_nil _ _, ih.2⟩
    | conjunction =>
      rw [grouped, same]
      exact List.forall_mem_cons.mpr ⟨List.cons_ne_nil _ _, ih.2⟩
    | disjunction =>
      rw [grouped, same]
      exact List.forall_mem_cons.mpr ⟨List.cons_ne_nil _ _, List.forall_mem_cons.mpr ih⟩

/-- A condition and what an `and` adds to it: the last alternative of the one goes on with
the first of the other. -/
def conjoined : Reading → Reading → Reading
  | [], later => later
  | [last], [] => [last]
  | [last], first :: others => (last ++ first) :: others
  | alternative :: next :: more, later => alternative :: conjoined (next :: more) later

theorem conjoined_concat (before : Reading) (last first : List Factor) (others : Reading) :
    conjoined (before ++ [last]) (first :: others) = before ++ (last ++ first) :: others := by
  induction before with
  | nil => rfl
  | cons alternative before ih =>
    cases before with
    | nil => rfl
    | cons next more => exact congrArg (alternative :: ·) ih

theorem grouped_conjunction (before after : List Part) :
    grouped (before ++ .conjunction :: after) = conjoined (grouped before) (grouped after) := by
  induction before with
  | nil =>
    obtain ⟨first, factors, others, same⟩ := exists_grouped after
    simp [grouped, same, conjoined]
  | cons part before ih =>
    obtain ⟨first, factors, others, same⟩ := exists_grouped before
    obtain ⟨next, further, rest, later⟩ := exists_grouped after
    rw [same, later] at ih
    cases part <;> cases others <;> simp [grouped, same, ih, later, conjoined]

theorem grouped_disjunction (before after : List Part) :
    grouped (before ++ .disjunction :: after) = grouped before ++ grouped after := by
  induction before with
  | nil => rfl
  | cons part before ih =>
    obtain ⟨first, factors, others, same⟩ := exists_grouped before
    rw [same] at ih
    cases part <;> simp [grouped, same, ih]

theorem grouped_pieces (tokens : List Token) : grouped (tokens.map .piece) = [[tokens]] := by
  induction tokens with
  | nil => rfl
  | cons token tokens ih => simp [grouped, ih]

/-- A condition of one factor is made of pieces alone. -/
theorem grouped_eq_single {parts : List Part} {tokens : List Token} (single : grouped parts = [[tokens]]) :
    parts = tokens.map .piece := by
  induction parts generalizing tokens with
  | nil =>
    cases single
    rfl
  | cons part parts ih =>
    obtain ⟨first, factors, others, same⟩ := exists_grouped parts
    cases part with
    | piece token =>
      simp only [grouped, same, List.modifyHead_cons, List.cons.injEq] at single
      obtain ⟨⟨rfl, rfl⟩, rfl⟩ := single
      rw [List.map_cons, ih same]
    | conjunction => simp [grouped, same] at single
    | disjunction => simp [grouped, same] at single

end FleetLink.Query.Condition
