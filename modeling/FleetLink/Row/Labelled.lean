import FleetLink.Text.Case
import FleetLink.Value.Spelling

/-! A result row whose values are read by column label, in any letter case. A label
that stands over several columns is ambiguous, and reading it fails rather than
picking one of them. -/

namespace FleetLink.Row

open Text

/-- What a column is called by: a text, a member that stands for one, or bytes, as some
drivers deliver them. -/
inductive Label where
  | text (name : String)
  | attribute (a : Attribute)
  | status (s : AssociationStatus)
  | bytes (name : List UInt8)
deriving DecidableEq, Repr

namespace Label

def ofValue? : Value → Option Label
  | .text name => some (.text name)
  | .deviceAttribute a => some (.attribute a)
  | .status s => some (.status s)
  | .bytes name => some (.bytes name)
  | _ => none

def value : Label → Value
  | .text name => .text name
  | .attribute a => .deviceAttribute a
  | .status s => .status s
  | .bytes name => .bytes name

/-- The label in lower case, as a text or as bytes. -/
def folded : Label → String ⊕ List UInt8
  | .text name => .inl (lower name)
  | .attribute a => .inl (lower a.reference)
  | .status s => .inl (lower s.eventName)
  | .bytes name => .inr (name.map lowerByte)

/-- Whether two labels are one up to letter case. A text never agrees with bytes. -/
def agrees (a b : Label) : Bool := a.folded == b.folded

end Label

structure LabelledRow where
  labels : List Label
  values : List Value
  same_length : labels.length = values.length

inductive RowError where
  | lengths (values columns : Nat)
  | label (found : Value)

def RowError.message : RowError → String
  | .lengths values columns =>
      "Row has " ++ toString values ++ " values but projection has " ++ toString columns ++ " columns"
  | .label found => lacksOperation found "lower"

inductive LookupError where
  | ambiguous (column : Label)
  | absent (column : Label) (labels : List String)
  | unlisted (place : Nat)
deriving DecidableEq, Repr

def LookupError.reason : LookupError → String
  | .ambiguous column =>
      "Column '" ++ column.value.plain ++ "' is ambiguous: it appears more than once in the projection"
  | .absent column labels =>
      "Column '" ++ column.value.plain ++ "' not in projection: " ++ ", ".intercalate labels
  | .unlisted place =>
      "sequence item " ++ toString place ++ ": expected str instance, bytes found"

def LookupError.message : LookupError → String
  | .unlisted place => (LookupError.unlisted place).reason
  | error => quoted error.reason

namespace LabelledRow

def ofLabels (labels : List Label) (values : List Value) : Except RowError LabelledRow :=
  if same : labels.length = values.length then .ok ⟨labels, values, same⟩
  else .error (.lengths values.length labels.length)

/-- The labels among some values, or the first value that is none. -/
def readLabels : List Value → Except Value (List Label)
  | [] => .ok []
  | value :: rest => match Label.ofValue? value with
    | some label => (label :: ·) <$> readLabels rest
    | none => .error value

/-- A row under labels of any kind. Its length is looked at before its labels. -/
def ofColumns (columns values : List Value) : Except RowError LabelledRow :=
  if columns.length ≠ values.length then .error (.lengths values.length columns.length)
  else match readLabels columns with
    | .ok labels => ofLabels labels values
    | .error found => .error (.label found)

/-- The values under all labels that agree with a column. -/
def matching (row : LabelledRow) (column : Label) : List Value :=
  (row.labels.zip row.values).filterMap fun (label, value) =>
    if label.agrees column then some value else none

def has (row : LabelledRow) (column : Label) : Bool := !(row.matching column).isEmpty

/-- The labels as texts; bytes among them cannot be listed, and the place of the first
ones is given then. -/
def listed (place : Nat) : List Label → Except Nat (List String)
  | [] => .ok []
  | label :: rest => match label.value.text? with
    | some text => (text :: ·) <$> listed (place + 1) rest
    | none => .error place

def absent (row : LabelledRow) (column : Label) : LookupError :=
  match listed 0 row.labels with
  | .ok labels => .absent column labels
  | .error place => .unlisted place

def get (row : LabelledRow) (column : Label) : Except LookupError Value :=
  match row.matching column with
  | [] => .error (row.absent column)
  | [value] => .ok value
  | _ => .error (.ambiguous column)

end LabelledRow

end FleetLink.Row
