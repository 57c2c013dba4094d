import Mathlib.Data.List.Forall2
import FleetLink.Query.Lookup
import FleetLink.Proofs.QuerySession

/-! The text of a filter. It is built exactly when nothing is empty and every key names an
attribute, and it is made of the references of the attributes alone. What the attributes
are compared with shows nowhere but among the parameters. A key that names none is blamed,
if it can be written. -/

namespace FleetLink.Query

/-- A key names an attribute by being it, or by being its name letter for letter. -/
inductive Names : Value → Attribute → Prop where
  | itself (a : Attribute) : Names (.deviceAttribute a) a
  | name (a : Attribute) : Names (.text a.name) a

def AllName : Entries → List Attribute → Prop :=
  List.Forall₂ fun entry a => Names entry.1 a

theorem ofName?_eq_some_iff (text : String) (a : Attribute) : Attribute.ofName? text = some a ↔ text = a.name := by
  constructor
  · intro found
    have named := List.find?_some found
    exact (beq_iff_eq.mp named).symm
  · rintro rfl
    exact Attribute.ofName?_name a

/-- The event of a status is a text as well, but no attribute's name. -/
theorem eventName_ne_name (status : AssociationStatus) (a : Attribute) : status.eventName ≠ a.name := by
  cases status <;> cases a <;> decide

theorem attribute?_eq_some_iff (key : Value) (a : Attribute) : attribute? key = some a ↔ Names key a := by
  constructor
  · intro found
    cases key with
    | deviceAttribute b =>
      cases found
      exact .itself a
    | text name =>
      obtain rfl := (ofName?_eq_some_iff name a).mp found
      exact .name a
    | status status => exact absurd ((ofName?_eq_some_iff _ a).mp found) (eventName_ne_name status a)
    | _ => cases found
  · intro names
    cases names with
    | itself => rfl
    | name => exact Attribute.ofName?_name a

theorem resolve_eq_ok_iff (key : Value) (a : Attribute) : resolve key = .ok a ↔ Names key a := by
  rw [← attribute?_eq_some_iff, resolve]
  cases attribute? key <;> simp

theorem attributes_eq_ok_iff (conditions : Entries) (found : List Attribute) :
    attributes conditions = .ok found ↔ AllName conditions found := by
  induction conditions generalizing found with
  | nil => simp [attributes, AllName, eq_comm]
  | cons entry rest ih =>
    obtain ⟨key, value⟩ := entry
    simp only [AllName, List.forall₂_cons_left_iff, ← resolve_eq_ok_iff] at ih ⊢
    simp only [← ih, attributes]
    cases resolve key with
    | error error => simp [bind, Except.bind]
    | ok a => cases attributes rest <;> simp [bind, Except.bind, pure, Except.pure, eq_comm]

/-- A text to begin with, a text to join with, and something to be joined. -/
structure Complete (opening operator : String) (conditions : Entries) : Prop where
  opening : opening ≠ ""
  operator : operator ≠ ""
  conditions : conditions ≠ []

def statementOf (opening operator placeholder : String) (conditions : Entries) (found : List Attribute) : Statement where
  sql := opening ++ operator.intercalate (found.map fun a => a.reference ++ " = " ++ placeholder)
  params := conditions.map Prod.snd

section
variable {opening operator placeholder : String} {conditions : Entries}

theorem complete_or (opening operator : String) (conditions : Entries) :
    (opening = "" ∨ operator = "") ∨ (opening ≠ "" ∧ operator ≠ "" ∧ conditions = []) ∨
      Complete opening operator conditions := by
  by_cases opens : opening = ""
  · exact .inl (.inl opens)
  by_cases joins : operator = ""
  · exact .inl (.inr joins)
  by_cases filled : conditions = []
  · exact .inr (.inl ⟨opens, joins, filled⟩)
  · exact .inr (.inr ⟨opens, joins, filled⟩)

theorem filtered_of_empty (empty : opening = "" ∨ operator = "") :
    filtered opening operator placeholder conditions = .error .emptyArgument := by
  rcases empty with rfl | rfl <;> simp [filtered]

theorem filtered_of_noConditions (opens : opening ≠ "") (joins : operator ≠ "") :
    filtered opening operator placeholder [] = .error .noConditions := by
  simp [filtered, opens, joins]

theorem filtered_of_complete (complete : Complete opening operator conditions) :
    filtered opening operator placeholder conditions =
      (attributes conditions).map (statementOf opening operator placeholder conditions) := by
  have given : (opening.isEmpty || operator.isEmpty) = false := by simp [complete.opening, complete.operator]
  have filled : conditions.isEmpty = false := by simp [complete.conditions]
  simp only [filtered, given, filled]
  cases attributes conditions <;> rfl

theorem filtered_eq_ok_iff (statement : Statement) :
    filtered opening operator placeholder conditions = .ok statement ↔
      Complete opening operator conditions ∧
        ∃ found, AllName conditions found ∧ statement = statementOf opening operator placeholder conditions found := by
  rcases complete_or opening operator conditions with empty | ⟨opens, joins, rfl⟩ | complete
  · rw [filtered_of_empty empty]
    refine iff_of_false (by simp) ?_
    rintro ⟨complete, _⟩
    exact empty.elim complete.opening complete.operator
  · rw [filtered_of_noConditions opens joins]
    exact iff_of_false (by simp) fun ⟨complete, _⟩ => complete.conditions rfl
  · simp only [filtered_of_complete complete, complete, true_and, ← attributes_eq_ok_iff]
    cases attributes conditions <;> simp [Except.map, eq_comm]

end

theorem buildFilter_run (opening operator placeholder : String) (conditions : Entries) (session : Session) :
    buildFilter opening operator placeholder conditions session =
      match filtered opening operator placeholder conditions with
      | .ok statement => (.ok statement, { session with events := session.events ++ [statement.prepared] })
      | .error error => (.error (.filter error), session) := by
  unfold buildFilter
  cases filtered opening operator placeholder conditions <;> rfl

end FleetLink.Query
