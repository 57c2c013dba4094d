import FleetLink.Row.Labelled

/-! Reading a row by label. What a column reads as depends on the places of its labels
alone: one place gives the value there, none and several give an error each. -/

namespace FleetLink.Row

theorem Label.agrees_iff (a b : Label) : a.agrees b = true ↔ a.folded = b.folded := by
  unfold Label.agrees
  cases a.folded with
  | inl first =>
    cases b.folded with
    | inl second =>
      change (first == second) = true ↔ _
      rw [beq_iff_eq, Sum.inl.injEq]
    | inr second => exact iff_of_false Bool.false_ne_true Sum.inl_ne_inr
  | inr first =>
    cases b.folded with
    | inl second => exact iff_of_false Bool.false_ne_true Sum.inr_ne_inl
    | inr second =>
      change (first == second) = true ↔ _
      rw [beq_iff_eq, Sum.inr.injEq]

namespace LabelledRow

/-- A label at this place is called like the column, up to letter case. -/
def CalledAt (row : LabelledRow) (column : Label) (place : Nat) : Prop :=
  ∃ label, row.labels[place]? = some label ∧ label.folded = column.folded

/-- The column has one label and it stands at this place. -/
def OnlyAt (row : LabelledRow) (column : Label) (place : Nat) : Prop :=
  ∀ other, row.CalledAt column other ↔ other = place

/-- No label is called like the column. -/
def Lacks (row : LabelledRow) (column : Label) : Prop :=
  ∀ place, ¬ row.CalledAt column place

private theorem picked_nil (agrees : α → Bool) (labels : List α) (values : List β)
    (same : labels.length = values.length) :
    (labels.zip values).filterMap (fun (label, value) => if agrees label then some value else none) = [] ↔
      ∀ (place : Nat) label, labels[place]? = some label → agrees label = false := by
  induction labels generalizing values with
  | nil => simp
  | cons label labels ih =>
    obtain _ | ⟨value, values⟩ := values
    · simp at same
    · simp only [List.length_cons, Nat.add_right_cancel_iff] at same
      cases hit : agrees label with
      | true =>
        simp only [List.zip_cons_cons, List.filterMap_cons, hit, if_true, List.cons_ne_nil, false_iff]
        intro none
        exact absurd (none 0 label rfl) (by simp [hit])
      | false =>
        simp only [List.zip_cons_cons, List.filterMap_cons, hit, Bool.false_eq_true, if_false, ih values same]
        constructor
        · intro none place other found
          cases place with
          | zero => cases found; exact hit
          | succ place => exact none place other found
        · intro none place other found
          exact none (place + 1) other found

private theorem picked_singleton (agrees : α → Bool) (labels : List α) (values : List β)
    (same : labels.length = values.length) (value : β) :
    (labels.zip values).filterMap (fun (label, value) => if agrees label then some value else none) = [value] ↔
      ∃ place : Nat, (∀ other : Nat, (∃ label, labels[other]? = some label ∧ agrees label = true) ↔ other = place) ∧
        values[place]? = some value := by
  induction labels generalizing values with
  | nil =>
    simp only [List.zip_nil_left, List.filterMap_nil, List.nil_eq, List.cons_ne_nil, false_iff]
    rintro ⟨place, only, _⟩
    obtain ⟨label, found, _⟩ := (only place).mpr rfl
    cases found
  | cons label labels ih =>
    obtain _ | ⟨held, values⟩ := values
    · simp at same
    · simp only [List.length_cons, Nat.add_right_cancel_iff] at same
      cases hit : agrees label with
      | true =>
        simp only [List.zip_cons_cons, List.filterMap_cons, hit, if_true, List.cons.injEq, picked_nil agrees labels values same]
        constructor
        · rintro ⟨rfl, none⟩
          refine ⟨0, ?_, rfl⟩
          intro other
          cases other with
          | zero => simp [hit]
          | succ other =>
            simp only [List.getElem?_cons_succ, Nat.add_one_ne_zero, iff_false]
            rintro ⟨found, inside, agreed⟩
            simp [none other found inside] at agreed
        · rintro ⟨place, only, inside⟩
          obtain rfl : 0 = place := (only 0).mp ⟨label, rfl, hit⟩
          refine ⟨by simpa using inside, ?_⟩
          intro other found inside
          cases agreed : agrees found with
          | false => rfl
          | true => exact absurd ((only (other + 1)).mp ⟨found, inside, agreed⟩) (by simp)
      | false =>
        simp only [List.zip_cons_cons, List.filterMap_cons, hit, Bool.false_eq_true, if_false, ih values same]
        constructor
        · rintro ⟨place, only, inside⟩
          refine ⟨place + 1, ?_, inside⟩
          intro other
          cases other with
          | zero => simp [hit]
          | succ other => simpa using only other
        · rintro ⟨place, only, inside⟩
          cases place with
          | zero =>
            obtain ⟨found, first, agreed⟩ := (only 0).mpr rfl
            cases first
            simp [hit] at agreed
          | succ place =>
            refine ⟨place, ?_, inside⟩
            intro other
            simpa using only (other + 1)

theorem matching_eq_nil_iff (row : LabelledRow) (column : Label) :
    row.matching column = [] ↔ row.Lacks column := by
  rw [matching, picked_nil (·.agrees column) row.labels row.values row.same_length]
  constructor
  · rintro none place ⟨label, found, same⟩
    have disagreed := none place label found
    simp [(Label.agrees_iff label column).mpr same] at disagreed
  · intro lacks place label found
    cases agreed : label.agrees column with
    | false => rfl
    | true => exact absurd ⟨label, found, (Label.agrees_iff label column).mp agreed⟩ (lacks place)

theorem matching_eq_singleton_iff (row : LabelledRow) (column : Label) (value : Value) :
    row.matching column = [value] ↔ ∃ place, row.OnlyAt column place ∧ row.values[place]? = some value := by
  rw [matching, picked_singleton (·.agrees column) row.labels row.values row.same_length]
  simp only [Label.agrees_iff, OnlyAt, CalledAt]

theorem has_eq_false_iff (row : LabelledRow) (column : Label) : row.has column = false ↔ row.Lacks column := by
  rw [← matching_eq_nil_iff]
  simp [has]

theorem get_eq_ok_iff (row : LabelledRow) (column : Label) (value : Value) :
    row.get column = .ok value ↔ ∃ place, row.OnlyAt column place ∧ row.values[place]? = some value := by
  rw [← matching_eq_singleton_iff, get]
  cases row.matching column with
  | nil => simp
  | cons first rest => cases rest <;> simp

theorem length_of_readLabels {columns : List Value} {labels : List Label} (read : readLabels columns = .ok labels) :
    labels.length = columns.length := by
  induction columns generalizing labels with
  | nil =>
    cases read
    rfl
  | cons column rest ih =>
    rw [readLabels] at read
    split at read
    next =>
      cases others : readLabels rest with
      | error found =>
        rw [others] at read
        cases read
      | ok later =>
        rw [others] at read
        cases read
        exact congrArg (· + 1) (ih others)
    next => cases read

/-- The columns cannot be read as labels for the first of them that is none. -/
theorem readLabels_eq_error_iff (columns : List Value) (found : Value) : readLabels columns = .error found ↔
    ∃ before after, columns = before ++ found :: after ∧
      (∀ column ∈ before, (Label.ofValue? column).isSome = true) ∧ Label.ofValue? found = none := by
  induction columns with
  | nil => simp [readLabels]
  | cons column rest ih =>
    cases first : Label.ofValue? column with
    | none =>
      simp only [readLabels, first, Except.error.injEq]
      constructor
      · rintro rfl
        exact ⟨[], rest, rfl, List.forall_mem_nil _, first⟩
      · rintro ⟨before, after, split, earlier, _⟩
        cases before with
        | nil => exact (List.cons.inj split).1
        | cons head before =>
          obtain ⟨rfl, _⟩ := List.cons.inj split
          simp [first] at earlier
    | some label =>
      have rest_fails : ((label :: ·) <$> readLabels rest) = .error found ↔ readLabels rest = .error found := by
        cases readLabels rest <;> simp [Functor.map, Except.map]
      simp only [readLabels, first, rest_fails, ih]
      constructor
      · rintro ⟨before, after, rfl, earlier, foreign⟩
        exact ⟨column :: before, after, rfl, List.forall_mem_cons.mpr ⟨by simp [first], earlier⟩, foreign⟩
      · rintro ⟨before, after, split, earlier, foreign⟩
        cases before with
        | nil =>
          obtain ⟨rfl, _⟩ := List.cons.inj split
          simp [first] at foreign
        | cons head before =>
          obtain ⟨rfl, rfl⟩ := List.cons.inj split
          exact ⟨before, after, rfl, (List.forall_mem_cons.mp earlier).2, foreign⟩

/-- A row is refused for its length, and only then for a column that is no label. -/
theorem ofColumns_eq_error_iff (columns values : List Value) (error : RowError) :
    ofColumns columns values = .error error ↔
      (columns.length ≠ values.length ∧ error = .lengths values.length columns.length) ∨
        (columns.length = values.length ∧ ∃ found, readLabels columns = .error found ∧ error = .label found) := by
  unfold ofColumns
  by_cases same : columns.length = values.length
  · simp only [same, ne_eq, not_true_eq_false, if_false, false_and, false_or, true_and]
    cases read : readLabels columns with
    | error found => simp [eq_comm]
    | ok labels =>
      have lengths : labels.length = values.length := (length_of_readLabels read).trans same
      simp [ofLabels, lengths]
  · simp [same, eq_comm]

end LabelledRow

end FleetLink.Row
