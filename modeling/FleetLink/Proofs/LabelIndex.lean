import FleetLink.Proofs.RowLabels

/-! Reading a row through an index of its labels. The index is filled in one pass: it keeps
a place for each label in lower case, and sets apart the labels that come again. Reading
through it is reading the row, and only the lengths can keep a row of texts from being made. -/

namespace FleetLink.Row

structure LabelIndex where
  places : List ((String ⊕ List UInt8) × Nat) := []
  repeated : List (String ⊕ List UInt8) := []

namespace LabelIndex

def place? (index : LabelIndex) (name : String ⊕ List UInt8) : Option Nat :=
  (index.places.find? fun entry => decide (entry.1 = name)).map (·.2)

/-- Takes in the label at the next place. -/
def add (index : LabelIndex) (label : Label) (place : Nat) : LabelIndex :=
  match index.place? label.folded with
  | some _ => { index with repeated := label.folded :: index.repeated }
  | none => { index with places := (label.folded, place) :: index.places }

/-- Takes in labels from the given place on. -/
def addFrom (index : LabelIndex) (place : Nat) : List Label → LabelIndex
  | [] => index
  | label :: rest => (index.add label place).addFrom (place + 1) rest

def ofLabels (labels : List Label) : LabelIndex := addFrom {} 0 labels

def repeats (index : LabelIndex) (name : String ⊕ List UInt8) : Bool := index.repeated.any fun other => decide (other = name)

def has (index : LabelIndex) (column : Label) : Bool := (index.place? column.folded).isSome

def get (index : LabelIndex) (row : LabelledRow) (column : Label) : Except LookupError Value :=
  if index.repeats column.folded then .error (.ambiguous column)
  else match index.place? column.folded with
    | some place => .ok (row.values.getD place .null)
    | none => .error (row.absent column)

/-- A label at this place is the name in lower case. -/
def NamedAt (labels : List Label) (name : String ⊕ List UInt8) (place : Nat) : Prop :=
  ∃ label, labels[place]? = some label ∧ label.folded = name

theorem namedAt_concat_iff (labels : List Label) (last : Label) (name : String ⊕ List UInt8) (place : Nat) :
    NamedAt (labels ++ [last]) name place ↔ NamedAt labels name place ∨ (place = labels.length ∧ last.folded = name) := by
  rcases Nat.lt_trichotomy place labels.length with before | rfl | after
  · have apart : place ≠ labels.length := Nat.ne_of_lt before
    simp only [NamedAt, List.getElem?_append_left before, apart, false_and, or_false]
  · simp [NamedAt]
  · have apart : place ≠ labels.length := Nat.ne_of_gt after
    have beyond : (labels ++ [last])[place]? = none := List.getElem?_eq_none (by simp; omega)
    simp [NamedAt, beyond, apart, List.getElem?_eq_none (Nat.le_of_lt after)]

theorem NamedAt.inside {labels : List Label} {name : String ⊕ List UInt8} {place : Nat} (named : NamedAt labels name place) :
    place < labels.length := by
  obtain ⟨_, found, _⟩ := named
  exact (List.getElem?_eq_some_iff.mp found).1

/-- What an index knows after taking in some labels. -/
structure Knows (index : LabelIndex) (labels : List Label) : Prop where
  placed : ∀ name place, index.place? name = some place → NamedAt labels name place
  unplaced : ∀ name, index.place? name = none → ∀ place, ¬NamedAt labels name place
  repeated : ∀ name, index.repeats name = true ↔ ∃ place later, place < later ∧ NamedAt labels name place ∧ NamedAt labels name later

theorem knows_nothing : Knows {} [] where
  placed := nofun
  unplaced _ _ place := by simp [NamedAt]
  repeated name := by simp [NamedAt, repeats]

theorem place?_cons (entry : (String ⊕ List UInt8) × Nat) (index : LabelIndex) (name : String ⊕ List UInt8) :
    place? { index with places := entry :: index.places } name = if entry.1 = name then some entry.2 else index.place? name := by
  unfold place?
  by_cases same : entry.1 = name <;> simp [same]

/-- Another label makes a name stand twice exactly when the name stood there already. -/
theorem twice_concat_iff (labels : List Label) (last : Label) (name : String ⊕ List UInt8) :
    (∃ place later, place < later ∧ NamedAt (labels ++ [last]) name place ∧ NamedAt (labels ++ [last]) name later) ↔
      (∃ place later, place < later ∧ NamedAt labels name place ∧ NamedAt labels name later) ∨
        (last.folded = name ∧ ∃ place, NamedAt labels name place) := by
  simp only [namedAt_concat_iff]
  constructor
  · rintro ⟨place, later, less, first | ⟨rfl, _⟩, second | ⟨rfl, own⟩⟩
    · exact .inl ⟨place, later, less, first, second⟩
    · exact .inr ⟨own, place, first⟩
    · exact absurd second.inside (Nat.not_lt.mpr (Nat.le_of_lt less))
    · exact absurd less (Nat.lt_irrefl _)
  · rintro (⟨place, later, less, first, second⟩ | ⟨own, place, first⟩)
    · exact ⟨place, later, less, .inl first, .inl second⟩
    · exact ⟨place, labels.length, first.inside, .inl first, .inr ⟨rfl, own⟩⟩

theorem repeats_cons (other : String ⊕ List UInt8) (index : LabelIndex) (name : String ⊕ List UInt8) :
    repeats { index with repeated := other :: index.repeated } name = true ↔ other = name ∨ index.repeats name = true := by
  simp [repeats]

theorem Knows.add {index : LabelIndex} {labels : List Label} (knows : Knows index labels) (label : Label) :
    Knows (index.add label labels.length) (labels ++ [label]) := by
  cases known : index.place? label.folded with
  | some place =>
    have added : index.add label labels.length = { index with repeated := label.folded :: index.repeated } := by
      simp only [LabelIndex.add, known]
    have stands := knows.placed label.folded place known
    rw [added]
    refine ⟨?_, ?_, ?_⟩
    · intro name other found
      exact (namedAt_concat_iff labels label name other).mpr (.inl (knows.placed name other found))
    · intro name missing other named
      rcases (namedAt_concat_iff labels label name other).mp named with before | ⟨_, rfl⟩
      · exact knows.unplaced name missing other before
      · cases known.symm.trans missing
    · intro name
      rw [twice_concat_iff, repeats_cons, knows.repeated, or_comm]
      refine or_congr_right (and_iff_left_of_imp ?_).symm
      rintro rfl
      exact ⟨place, stands⟩
  | none =>
    have added : index.add label labels.length = { index with places := (label.folded, labels.length) :: index.places } := by
      simp only [LabelIndex.add, known]
    have absent := knows.unplaced label.folded known
    rw [added]
    refine ⟨?_, ?_, ?_⟩
    · intro name other found
      rw [namedAt_concat_iff]
      rw [place?_cons] at found
      split at found
      next own =>
        cases found
        exact .inr ⟨rfl, own⟩
      next => exact .inl (knows.placed name other found)
    · intro name missing other named
      rw [place?_cons] at missing
      split at missing
      next => cases missing
      next foreign =>
        rcases (namedAt_concat_iff labels label name other).mp named with before | ⟨_, own⟩
        · exact knows.unplaced name missing other before
        · exact foreign own
    · intro name
      rw [twice_concat_iff, ← knows.repeated]
      refine (or_iff_left ?_).symm
      rintro ⟨rfl, place, stands⟩
      exact absent place stands

theorem Knows.addFrom {index : LabelIndex} {labels : List Label} (knows : Knows index labels) (rest : List Label) :
    Knows (index.addFrom labels.length rest) (labels ++ rest) := by
  induction rest generalizing index labels with
  | nil => rwa [List.append_nil]
  | cons label rest ih =>
    have further := ih (knows.add label)
    rwa [List.length_append, List.length_singleton, List.append_assoc, List.singleton_append] at further

/-- The index of some labels knows all of them. -/
theorem ofLabels_knows (labels : List Label) : Knows (ofLabels labels) labels := knows_nothing.addFrom labels

end LabelIndex

namespace LabelledRow
variable {row : LabelledRow} {column : Label}

/-- The column is called for by labels at several places. -/
def Repeats (row : LabelledRow) (column : Label) : Prop :=
  ∃ place later, place < later ∧ row.CalledAt column place ∧ row.CalledAt column later

theorem OnlyAt.not_repeats {place : Nat} (only : row.OnlyAt column place) : ¬row.Repeats column := by
  rintro ⟨first, second, less, here, there⟩
  have := (only first).mp here
  have := (only second).mp there
  omega

theorem onlyAt_of_not_repeats {place : Nat} (called : row.CalledAt column place) (single : ¬row.Repeats column) :
    row.OnlyAt column place := by
  intro other
  constructor
  · intro again
    rcases Nat.lt_trichotomy other place with before | same | after
    · exact absurd ⟨other, place, before, again, called⟩ single
    · exact same
    · exact absurd ⟨place, other, after, called, again⟩ single
  · rintro rfl
    exact called

theorem CalledAt.value {place : Nat} (called : row.CalledAt column place) : row.values[place]? = some (row.values.getD place .null) := by
  have inside : place < row.values.length := row.same_length ▸ LabelIndex.NamedAt.inside called
  rw [List.getD_eq_getElem?_getD, List.getElem?_eq_getElem inside, Option.getD_some]

theorem get_of_called {place : Nat} (called : row.CalledAt column place) (single : ¬row.Repeats column) :
    row.get column = .ok (row.values.getD place .null) :=
  (get_eq_ok_iff row column _).mpr ⟨place, onlyAt_of_not_repeats called single, called.value⟩

theorem get_of_lacks (lacks : row.Lacks column) : row.get column = .error (row.absent column) := by
  rw [get, (matching_eq_nil_iff row column).mpr lacks]

theorem get_of_repeats (repeats : row.Repeats column) : row.get column = .error (.ambiguous column) := by
  have several : ¬row.Lacks column := by
    obtain ⟨place, _, _, called, _⟩ := repeats
    exact fun lacks => lacks place called
  rw [← matching_eq_nil_iff] at several
  unfold get
  split
  next none => exact absurd none several
  next value single =>
    obtain ⟨place, only, _⟩ := (matching_eq_singleton_iff row column value).mp single
    exact absurd repeats only.not_repeats
  next => rfl

def index (row : LabelledRow) : LabelIndex := .ofLabels row.labels

theorem index_knows (row : LabelledRow) : row.index.Knows row.labels := LabelIndex.ofLabels_knows row.labels

/-- Reading through the index of the labels is reading the row. -/
theorem index_get (row : LabelledRow) (column : Label) : row.index.get row column = row.get column := by
  have knows := row.index_knows
  unfold LabelIndex.get
  split
  next several => exact (get_of_repeats ((knows.repeated _).mp several)).symm
  next single =>
    split
    next place found => exact (get_of_called (knows.placed _ place found) (mt (knows.repeated _).mpr single)).symm
    next missing => exact (get_of_lacks (knows.unplaced _ missing)).symm

theorem has_iff (row : LabelledRow) (column : Label) : row.has column = true ↔ ∃ place, row.CalledAt column place := by
  rw [← Bool.not_eq_false, has_eq_false_iff, Lacks, Classical.not_forall_not]

theorem index_has (row : LabelledRow) (column : Label) : row.index.has column = row.has column := by
  have knows := row.index_knows
  rw [Bool.eq_iff_iff, has_iff, LabelIndex.has]
  cases found : row.index.place? column.folded with
  | some place => exact iff_of_true rfl ⟨place, knows.placed _ place found⟩
  | none => exact iff_of_false Bool.false_ne_true (not_exists.mpr (knows.unplaced _ found))

theorem listed_of_texts {labels : List Label} {names : List String} (texts : labels.map (·.value.text?) = names.map some)
    (place : Nat) : listed place labels = .ok names := by
  induction labels generalizing names place with
  | nil =>
    cases names with
    | nil => rfl
    | cons => cases texts
  | cons label rest ih =>
    cases names with
    | nil => cases texts
    | cons name names =>
      obtain ⟨first, others⟩ := List.cons.inj texts
      simp only [listed, first, ih others]
      rfl

theorem ofValue?_of_text {value : Value} {name : String} (text : value.text? = some name) :
    ∃ label, Label.ofValue? value = some label ∧ label.value = value := by
  cases value with
  | text => exact ⟨_, rfl, rfl⟩
  | deviceAttribute => exact ⟨_, rfl, rfl⟩
  | status => exact ⟨_, rfl, rfl⟩
  | _ => cases text

theorem readLabels_of_texts {columns : List Value} {names : List String} (texts : columns.map Value.text? = names.map some) :
    ∃ labels, readLabels columns = .ok labels ∧ labels.map Label.value = columns := by
  induction columns generalizing names with
  | nil => exact ⟨[], rfl, rfl⟩
  | cons column rest ih =>
    cases names with
    | nil => cases texts
    | cons name names =>
      obtain ⟨first, others⟩ := List.cons.inj texts
      obtain ⟨label, read, same⟩ := ofValue?_of_text first
      obtain ⟨labels, readRest, sameRest⟩ := ih others
      refine ⟨label :: labels, ?_, by rw [List.map_cons, same, sameRest]⟩
      simp only [readLabels, read, readRest]
      rfl

/-- What a row says of a column, by the places of the labels that are called like it. The
names are those of all its labels. -/
structure Answers (row : LabelledRow) (names : List String) (column : Label) : Prop where
  has : row.has column = true ↔ ∃ place, row.CalledAt column place
  value : ∀ value, row.get column = .ok value ↔ ∃ place, row.OnlyAt column place ∧ row.values[place]? = some value
  ambiguous : row.get column = .error (.ambiguous column) ↔ row.Repeats column
  absent : row.get column = .error (.absent column names) ↔ row.Lacks column
  indexed : row.index.has column = row.has column ∧ row.index.get row column = row.get column

theorem answers_of_texts {names : List String} (texts : row.labels.map (·.value.text?) = names.map some) (column : Label) :
    row.Answers names column := by
  have missing : row.absent column = .absent column names := by rw [LabelledRow.absent, listed_of_texts texts]
  refine ⟨has_iff row column, get_eq_ok_iff row column, ⟨?_, get_of_repeats⟩, ⟨?_, fun lacks => missing ▸ get_of_lacks lacks⟩,
    index_has row column, index_get row column⟩
  · intro failed
    by_cases repeats : row.Repeats column
    · exact repeats
    · by_cases lacks : row.Lacks column
      · rw [get_of_lacks lacks, missing] at failed
        cases failed
      · obtain ⟨place, called⟩ := Classical.not_forall_not.mp lacks
        rw [get_of_called called repeats] at failed
        cases failed
  · intro failed place called
    by_cases repeats : row.Repeats column
    · rw [get_of_repeats repeats] at failed
      cases failed
    · rw [get_of_called called repeats] at failed
      cases failed

/-- A row under labels that are texts is made exactly of labels and values in equal number,
and its answers about any column are settled by the places where the column's name stands. -/
theorem ofColumns_answers {columns : List Value} {names : List String} (texts : columns.map Value.text? = names.map some)
    (values : List Value) :
    (columns.length ≠ values.length ∧ ofColumns columns values = .error (.lengths values.length columns.length)) ∨
      (columns.length = values.length ∧ ∃ row, ofColumns columns values = .ok row ∧ row.labels.map Label.value = columns ∧
        row.values = values ∧ ∀ column, row.Answers names column) := by
  by_cases same : columns.length = values.length
  · obtain ⟨labels, read, spelled⟩ := readLabels_of_texts texts
    have lengths : labels.length = values.length := by rw [← same, ← spelled, List.length_map]
    refine .inr ⟨same, ⟨labels, values, lengths⟩, ?_, spelled, rfl, ?_⟩
    · simp only [ofColumns, same, ne_eq, not_true_eq_false, if_false, read, ofLabels, lengths, dite_true]
    · have composed : labels.map (·.value.text?) = (labels.map Label.value).map Value.text? := by
        rw [List.map_map]
        rfl
      exact answers_of_texts (composed.trans (spelled ▸ texts))
  · exact .inl ⟨same, if_pos same⟩

/-- Two labels that differ in letter case alone, with another one between them. -/
def twinRow : LabelledRow where
  labels := [.text "Id", .text "serial", .text "iD"]
  values := [.int 1, .int 2, .int 3]
  same_length := rfl

theorem ofColumns_answers_of_twinRow :
    [Value.text "Id", .text "serial", .text "iD"].map Value.text? = ["Id", "serial", "iD"].map some ∧
      ofColumns [.text "Id", .text "serial", .text "iD"] [.int 1, .int 2, .int 3] = .ok twinRow ∧
      twinRow.get (.text "SERIAL") = .ok (.int 2) ∧
      (∃ place, twinRow.OnlyAt (.text "SERIAL") place ∧ twinRow.values[place]? = some (.int 2)) ∧
      twinRow.get (.text "id") = .error (.ambiguous (.text "id")) ∧ twinRow.Repeats (.text "id") := by
  have texts : [Value.text "Id", .text "serial", .text "iD"].map Value.text? = ["Id", "serial", "iD"].map some := rfl
  have made : ofColumns [.text "Id", .text "serial", .text "iD"] [.int 1, .int 2, .int 3] = .ok twinRow := rfl
  have held : twinRow.get (.text "SERIAL") = .ok (.int 2) := by rfl
  have twice : twinRow.get (.text "id") = .error (.ambiguous (.text "id")) := by rfl
  rcases ofColumns_answers texts [.int 1, .int 2, .int 3] with ⟨differ, _⟩ | ⟨_, row, same, _, _, answers⟩
  · exact absurd rfl differ
  · cases made.symm.trans same
    exact ⟨texts, made, held, ((answers _).value _).mp held, twice, (answers _).ambiguous.mp twice⟩

end LabelledRow

end FleetLink.Row
