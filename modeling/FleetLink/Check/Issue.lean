import FleetLink.Value.Spelling

/-! What a check finds wrong with a document, and where. A check goes on after a fault
in one part, so that the faults of all parts are reported together. -/

namespace FleetLink.Check

inductive Step where
  | key (name : String)
  | index (place : Nat)
  | number (n : Int)
deriving DecidableEq, Repr

inductive Problem where
  | missing
  | intType
  | intParsing
  | intParsingSize
  | intFromFloat
  | finiteNumber
  | floatType
  | floatParsing
  | boolType
  | boolParsing
  | stringType
  | stringUnicode
  | listType
  | dictType
  | modelType
  | enumMember
  | datetimeType
  | datetimeParsing
  | datetimeOfDate
  | jsonInvalid
  | rule (text : String)
deriving DecidableEq, Repr

def Problem.code : Problem → String
  | .missing => "missing"
  | .intType => "int_type"
  | .intParsing => "int_parsing"
  | .intParsingSize => "int_parsing_size"
  | .intFromFloat => "int_from_float"
  | .finiteNumber => "finite_number"
  | .floatType => "float_type"
  | .floatParsing => "float_parsing"
  | .boolType => "bool_type"
  | .boolParsing => "bool_parsing"
  | .stringType => "string_type"
  | .stringUnicode => "string_unicode"
  | .listType => "list_type"
  | .dictType => "dict_type"
  | .modelType => "model_type"
  | .enumMember => "enum"
  | .datetimeType => "datetime_type"
  | .datetimeParsing => "datetime_parsing"
  | .datetimeOfDate => "datetime_from_date_parsing"
  | .jsonInvalid => "json_invalid"
  | .rule _ => "value_error"

/-- Only the rules of this library carry a text. -/
def Problem.text? : Problem → Option String
  | .rule text => some ("Value error, " ++ text)
  | _ => none

structure Issue where
  path : List Step
  problem : Problem
deriving DecidableEq, Repr

end FleetLink.Check

namespace FleetLink

/-- A checked value, or everything that is wrong with it. -/
inductive Checked (α : Type) where
  | ok (value : α)
  | failed (issues : List Check.Issue)
deriving Repr

namespace Checked

open Check

def map (f : α → β) : Checked α → Checked β
  | .ok value => .ok (f value)
  | .failed issues => .failed issues

/-- Both parts are checked even when the first one fails. -/
def seq (f : Checked (α → β)) (x : Unit → Checked α) : Checked β :=
  match f, x () with
  | .ok f, .ok value => .ok (f value)
  | .ok _, .failed issues => .failed issues
  | .failed issues, .ok _ => .failed issues
  | .failed first, .failed second => .failed (first ++ second)

instance : Applicative Checked where
  pure := .ok
  map := map
  seq := seq

def fail (problem : Problem) : Checked α := .failed [⟨[], problem⟩]

/-- Moves the issues of a part to its place in the whole. -/
def within (step : Step) : Checked α → Checked α
  | .ok value => .ok value
  | .failed issues => .failed (issues.map fun issue => ⟨step :: issue.path, issue.problem⟩)

/-- A further rule on a value that is sound so far. -/
def andThen (x : Checked α) (rule : α → Checked β) : Checked β :=
  match x with
  | .ok value => rule value
  | .failed issues => .failed issues

def ofOption (problem : Problem) : Option α → Checked α
  | some value => .ok value
  | none => fail problem

def toExcept : Checked α → Except (List Issue) α
  | .ok value => .ok value
  | .failed issues => .error issues

theorem map_eq_ok_iff {f : α → β} {x : Checked α} {result : β} :
    f <$> x = .ok result ↔ ∃ value, x = .ok value ∧ f value = result := by
  change x.map f = .ok result ↔ _
  cases x <;> simp [map]

theorem seq_eq_ok_iff {f : Checked (α → β)} {x : Checked α} {result : β} :
    f <*> x = .ok result ↔ ∃ g value, f = .ok g ∧ x = .ok value ∧ g value = result := by
  change f.seq (fun _ => x) = .ok result ↔ _
  cases f <;> cases x <;> simp [seq]

theorem within_eq_ok_iff {step : Check.Step} {x : Checked α} {result : α} :
    x.within step = .ok result ↔ x = .ok result := by
  cases x <;> simp [within]

theorem andThen_eq_ok_iff {x : Checked α} {rule : α → Checked β} {result : β} :
    x.andThen rule = .ok result ↔ ∃ value, x = .ok value ∧ rule value = .ok result := by
  cases x <;> simp [andThen]

end Checked

end FleetLink
