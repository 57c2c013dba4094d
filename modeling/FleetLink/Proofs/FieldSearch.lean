import Mathlib.Data.List.Lex
import FleetLink.Value.Search
import FleetLink.Proofs.Dictionary

/-! Where a field stands in a document. A search comes to the value at the first place that
no dictionary with the field lies above, leaving out those that hold null. -/

namespace FleetLink.Value

/-- What a value is made of, in its order. The keys of a dictionary are no parts of it. -/
def parts : Value → List Value
  | .list items => items
  | .dict entries => entries.map Prod.snd
  | _ => []

theorem sizeOf_lt_of_mem_parts {document part : Value} (member : part ∈ document.parts) :
    sizeOf part < sizeOf document := by
  unfold parts at member
  split at member
  next items =>
    have inside := List.sizeOf_lt_of_mem member
    simp only [list.sizeOf_spec]
    omega
  next entries =>
    obtain ⟨entry, listed, rfl⟩ := List.mem_map.mp member
    have inside := List.sizeOf_lt_of_mem listed
    have pair : sizeOf entry = 1 + sizeOf entry.1 + sizeOf entry.2 := rfl
    simp only [dict.sizeOf_spec]
    omega
  next => cases member

/-- What holds of a value whenever it holds of its parts holds of all values. -/
theorem parts_induction {motive : Value → Prop}
    (step : ∀ document, (∀ part ∈ document.parts, motive part) → motive document) (document : Value) :
    motive document :=
  step document fun part member =>
    have := sizeOf_lt_of_mem_parts member
    parts_induction step part
termination_by sizeOf document

/-- What is found under a field of the value itself. -/
def held? (field : String) : Value → Option Value
  | .dict entries => Dict.getText? field entries
  | _ => none

/-- What is found under a field at a place, which is the way down to it: the number of a part,
of a part of that part, and so on. -/
def stored? (field : String) : List Nat → Value → Option Value
  | [], document => document.held? field
  | number :: rest, document => document.parts[number]?.bind (stored? field rest)

/-- The field stands at a place, and at none that leads there. -/
structure Occurs (field : String) (document : Value) (place : List Nat) (value : Value) : Prop where
  stored : document.stored? field place = some value
  clear : ∀ above, above <+: place → above ≠ place → document.stored? field above = none

/-- The first place with a value. Places come in the order of the text: what lies above
before what lies below it, and of two parts first all that lies in the earlier one. -/
structure First (field : String) (document : Value) (place : List Nat) (value : Value) : Prop where
  occurs : Occurs field document place value
  present : value ≠ .null
  earlier : ∀ other found, List.Lex (· < ·) other place → Occurs field document other found → found = .null

section
variable {field : String} {document : Value}

theorem occurs_nil_iff {value : Value} : Occurs field document [] value ↔ document.held? field = some value := by
  constructor
  · exact Occurs.stored
  · intro held
    refine ⟨held, fun above leads apart => ?_⟩
    exact absurd (List.prefix_nil.mp leads) apart

theorem occurs_cons_iff {number : Nat} {rest : List Nat} {value : Value} :
    Occurs field document (number :: rest) value ↔
      document.held? field = none ∧ ∃ part, document.parts[number]? = some part ∧ Occurs field part rest value := by
  constructor
  · rintro ⟨stored, clear⟩
    obtain ⟨part, listed, found⟩ := Option.bind_eq_some_iff.mp stored
    refine ⟨clear [] List.nil_prefix nofun, part, listed, found, fun above leads apart => ?_⟩
    have higher := clear (number :: above) ((List.prefix_cons_inj number).mpr leads) (by simpa using apart)
    simpa only [stored?, listed, Option.bind_some] using higher
  · rintro ⟨absent, part, listed, found, clear⟩
    refine ⟨Option.bind_eq_some_iff.mpr ⟨part, listed, found⟩, fun above leads apart => ?_⟩
    cases above with
    | nil => exact absent
    | cons head above =>
      obtain ⟨rfl, deeper⟩ := List.cons_prefix_cons.mp leads
      rw [stored?, listed, Option.bind_some]
      exact clear above deeper fun same => apart (same ▸ rfl)

/-- Below a dictionary with the field, the field does not count. -/
theorem Occurs.eq_nil {place : List Nat} {value found : Value} (held : document.held? field = some found)
    (occurs : Occurs field document place value) : place = [] ∧ value = found := by
  cases place with
  | nil => exact ⟨rfl, Option.some.inj ((occurs_nil_iff.mp occurs).symm.trans held)⟩
  | cons number rest =>
    have absent := (occurs_cons_iff.mp occurs).1
    rw [held] at absent
    cases absent

theorem search?_of_null (held : document.held? field = some .null) : document.search? field = none := by
  cases document with
  | dict entries =>
    change Dict.getText? field entries = some .null at held
    rw [search?, held]
  | _ => cases held

theorem search?_of_value {value : Value} (held : document.held? field = some value) (present : value ≠ .null) :
    document.search? field = some value := by
  cases document with
  | dict entries =>
    change Dict.getText? field entries = some value at held
    rw [search?, held]
    split
    next null => exact absurd (Option.some.inj null) present
    next found _ same => exact same.symm
    next absent => cases absent
  | _ => cases held

theorem searchItems?_eq (field : String) (items : List Value) :
    searchItems? field items = items.findSome? (search? field) := by
  induction items with
  | nil => rfl
  | cons item rest ih =>
    rw [searchItems?, List.findSome?_cons, ih]
    cases search? field item <;> rfl

theorem searchEntries?_eq (field : String) (entries : Entries) :
    searchEntries? field entries = (entries.map Prod.snd).findSome? (search? field) := by
  induction entries with
  | nil => rfl
  | cons entry rest ih =>
    obtain ⟨key, value⟩ := entry
    rw [searchEntries?, List.map_cons, List.findSome?_cons, ih]
    cases search? field value <;> rfl

/-- Where the value itself has no such field, its parts are searched one after another. -/
theorem search?_of_absent (absent : document.held? field = none) :
    document.search? field = document.parts.findSome? (search? field) := by
  cases document with
  | dict entries =>
    change Dict.getText? field entries = none at absent
    rw [search?, absent]
    exact searchEntries?_eq field entries
  | list items =>
    rw [search?]
    exact searchItems?_eq field items
  | _ => rfl

theorem First.here {value : Value} (held : document.held? field = some value) (present : value ≠ .null) :
    First field document [] value :=
  ⟨occurs_nil_iff.mpr held, present, fun _ _ before => nomatch before⟩

/-- The first place within a part is the first of all, where neither the value itself nor a
part before holds anything under the field. -/
theorem First.within {before after : List Value} {part value : Value} {rest : List Nat}
    (absent : document.held? field = none) (split : document.parts = before ++ part :: after)
    (nothing : ∀ sibling ∈ before, ∀ place found, Occurs field sibling place found → found = .null)
    (first : First field part rest value) : First field document (before.length :: rest) value := by
  refine ⟨occurs_cons_iff.mpr ⟨absent, part, by simp [split], first.occurs⟩, first.present, ?_⟩
  intro other found lower occurs
  cases lower with
  | nil =>
    have held := occurs_nil_iff.mp occurs
    rw [absent] at held
    cases held
  | rel less =>
    obtain ⟨_, sibling, listed, deeper⟩ := occurs_cons_iff.mp occurs
    rw [split, List.getElem?_append_left less] at listed
    exact nothing sibling (List.mem_of_getElem? listed) _ found deeper
  | cons lower =>
    obtain ⟨_, same, listed, deeper⟩ := occurs_cons_iff.mp occurs
    obtain rfl : part = same := by simpa [split] using listed
    exact first.earlier _ found lower deeper

theorem First.unique {place other : List Nat} {value found : Value} (first : First field document place value)
    (second : First field document other found) : value = found := by
  rcases trichotomous_of (List.Lex (· < ·)) place other with before | rfl | after
  · exact absurd (second.earlier place value before first.occurs) first.present
  · exact Option.some.inj (first.occurs.stored.symm.trans second.occurs.stored)
  · exact absurd (first.earlier other found after second.occurs) second.present

end

/-- What a search that comes to some outcome has to have gone past. -/
inductive Settles (field : String) (document : Value) : Option Value → Prop where
  | found {place : List Nat} {value : Value} (first : First field document place value) :
      Settles field document (some value)
  | nothing (null : ∀ place value, Occurs field document place value → value = .null) : Settles field document none

theorem search?_settles (field : String) (document : Value) : Settles field document (document.search? field) := by
  induction document using parts_induction with
  | step document ih =>
    cases held : document.held? field with
    | some value =>
      by_cases null : value = .null
      · subst null
        rw [search?_of_null held]
        exact .nothing fun place found occurs => (occurs.eq_nil held).2
      · rw [search?_of_value held null]
        exact .found (.here held null)
    | none =>
      rw [search?_of_absent held]
      cases searched : document.parts.findSome? (search? field) with
      | none =>
        refine .nothing fun place found occurs => ?_
        cases place with
        | nil =>
          have here := occurs_nil_iff.mp occurs
          rw [held] at here
          cases here
        | cons number rest =>
          obtain ⟨_, part, listed, deeper⟩ := occurs_cons_iff.mp occurs
          have member := List.mem_of_getElem? listed
          have settles := ih part member
          rw [List.findSome?_eq_none_iff.mp searched part member] at settles
          cases settles with
          | nothing null => exact null rest found deeper
      | some value =>
        obtain ⟨before, part, after, split, found, clear⟩ := List.findSome?_eq_some_iff.mp searched
        have settles := ih part (by simp [split])
        rw [found] at settles
        cases settles with
        | found first =>
          refine .found (.within held split (fun earlier member => ?_) first)
          have settles := ih earlier (by simp [split, member])
          rw [clear earlier member] at settles
          cases settles with
          | nothing null => exact null

/-- A search finds the value at the first place where the field stands with one, and nothing
exactly when the field stands nowhere with a value. -/
theorem search?_outcome (field : String) (document : Value) :
    (∀ value, document.search? field = some value ↔ ∃ place, First field document place value) ∧
      (document.search? field = none ↔ ∀ place value, Occurs field document place value → value = .null) := by
  have settles := search?_settles field document
  generalize document.search? field = outcome at settles
  cases settles with
  | @found place value first =>
    constructor
    · intro other
      constructor
      · rintro ⟨⟩
        exact ⟨place, first⟩
      · rintro ⟨place, second⟩
        rw [first.unique second]
    · refine iff_of_false nofun fun null => ?_
      exact first.present (null place value first.occurs)
  | nothing null =>
    constructor
    · intro value
      refine iff_of_false nofun ?_
      rintro ⟨place, first⟩
      exact first.present (null place value first.occurs)
    · exact iff_of_true rfl null

end FleetLink.Value
