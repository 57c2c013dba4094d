import Mathlib.Data.List.Perm.Basic
import FleetLink.Value.Shared
import FleetLink.Proofs.DeepWriting

/-! Writing into values that are kept as cells. Where every cell stands in one place only,
changing cells in place comes to the same as writing into the value itself. -/

namespace FleetLink.Shared
open Dict

mutual

/-- A value stands at a place, and these are the places of all the cells that it is made of.
A cell that stands twice in the value is listed twice. -/
inductive Stands (shared : Shared) : Nat → Value → List Nat → Prop where
  | leaf {place : Nat} {value : Value} (inside : place < shared.cells.size) (held : shared.cell place = .leaf value)
      (single : ∀ entries, value ≠ .dict entries) : Stands shared place value [place]
  | list {place : Nat} {items : List Nat} {values : List Value} {used : List Nat} (inside : place < shared.cells.size)
      (held : shared.cell place = .list items) (each : StandItems shared items values used) :
      Stands shared place (.list values) (place :: used)
  | dict {place : Nat} {entries : Dict Nat} {pairs : Entries} {used : List Nat} (inside : place < shared.cells.size)
      (held : shared.cell place = .dict entries) (each : StandEntries shared entries pairs used) :
      Stands shared place (.dict pairs) (place :: used)

inductive StandItems (shared : Shared) : List Nat → List Value → List Nat → Prop where
  | nil : StandItems shared [] [] []
  | cons {item : Nat} {items : List Nat} {value : Value} {values : List Value} {used others : List Nat}
      (first : Stands shared item value used) (rest : StandItems shared items values others) :
      StandItems shared (item :: items) (value :: values) (used ++ others)

inductive StandEntries (shared : Shared) : Dict Nat → Entries → List Nat → Prop where
  | nil : StandEntries shared [] [] []
  | cons (key : Value) {item : Nat} {entries : Dict Nat} {value : Value} {pairs : Entries} {used others : List Nat}
      (first : Stands shared item value used) (rest : StandEntries shared entries pairs others) :
      StandEntries shared ((key, item) :: entries) ((key, value) :: pairs) (used ++ others)

end

theorem inside_of_cell {shared : Shared} {place : Nat} {entries : Dict Nat} (held : shared.cell place = .dict entries) :
    place < shared.cells.size := by
  by_contra outside
  simp [cell, Array.getD_eq_getD_getElem?, Array.getElem?_eq_none (Nat.le_of_not_lt outside)] at held

structure Keeps (before after : Shared) (places : List Nat) : Prop where
  size : before.cells.size ≤ after.cells.size
  same : ∀ place ∈ places, after.cell place = before.cell place

theorem Keeps.mono {before after : Shared} {places fewer : List Nat} (keeps : Keeps before after places)
    (included : fewer ⊆ places) : Keeps before after fewer :=
  ⟨keeps.size, fun place member => keeps.same place (included member)⟩

mutual

theorem Stands.kept {before after : Shared} {place : Nat} {value : Value} {used : List Nat}
    (stands : Stands before place value used) (keeps : Keeps before after used) : Stands after place value used :=
  match stands with
  | .leaf inside held single =>
    .leaf (Nat.lt_of_lt_of_le inside keeps.size) ((keeps.same _ List.mem_cons_self).trans held) single
  | .list inside held each =>
    .list (Nat.lt_of_lt_of_le inside keeps.size) ((keeps.same _ List.mem_cons_self).trans held)
      (each.kept (keeps.mono (List.subset_cons_self _ _)))
  | .dict inside held each =>
    .dict (Nat.lt_of_lt_of_le inside keeps.size) ((keeps.same _ List.mem_cons_self).trans held)
      (each.kept (keeps.mono (List.subset_cons_self _ _)))

theorem StandItems.kept {before after : Shared} {items : List Nat} {values : List Value} {used : List Nat}
    (stand : StandItems before items values used) (keeps : Keeps before after used) : StandItems after items values used :=
  match stand with
  | .nil => .nil
  | .cons first rest =>
    .cons (first.kept (keeps.mono (List.subset_append_left _ _))) (rest.kept (keeps.mono (List.subset_append_right _ _)))

theorem StandEntries.kept {before after : Shared} {entries : Dict Nat} {pairs : Entries} {used : List Nat}
    (stand : StandEntries before entries pairs used) (keeps : Keeps before after used) :
    StandEntries after entries pairs used :=
  match stand with
  | .nil => .nil
  | .cons key first rest =>
    .cons key (first.kept (keeps.mono (List.subset_append_left _ _)))
      (rest.kept (keeps.mono (List.subset_append_right _ _)))

end

mutual

theorem Stands.inside {shared : Shared} {place : Nat} {value : Value} {used : List Nat}
    (stands : Stands shared place value used) : ∀ cell ∈ used, cell < shared.cells.size :=
  match stands with
  | .leaf inside _ _ => List.forall_mem_singleton.mpr inside
  | .list inside _ each => List.forall_mem_cons.mpr ⟨inside, each.inside⟩
  | .dict inside _ each => List.forall_mem_cons.mpr ⟨inside, each.inside⟩

theorem StandItems.inside {shared : Shared} {items : List Nat} {values : List Value} {used : List Nat}
    (stand : StandItems shared items values used) : ∀ cell ∈ used, cell < shared.cells.size :=
  match stand with
  | .nil => List.forall_mem_nil _
  | .cons first rest => List.forall_mem_append.mpr ⟨first.inside, rest.inside⟩

theorem StandEntries.inside {shared : Shared} {entries : Dict Nat} {pairs : Entries} {used : List Nat}
    (stand : StandEntries shared entries pairs used) : ∀ cell ∈ used, cell < shared.cells.size :=
  match stand with
  | .nil => List.forall_mem_nil _
  | .cons _ first rest => List.forall_mem_append.mpr ⟨first.inside, rest.inside⟩

end

/-- What stands under a key of a dictionary is made of cells of its own, and something else
can be put in its place. -/
structure Focus (shared : Shared) (entries : Dict Nat) (pairs : Entries) (name : String) (used part rest : List Nat) :
    Prop where
  split : used.Perm (part ++ rest)
  under : (entries.getText? name = none ∧ pairs.getText? name = none) ∨
    ∃ item value, entries.getText? name = some item ∧ pairs.getText? name = some value ∧ Stands shared item value part
  fill : ∀ after item value made, Keeps shared after rest → Stands after item value made →
    ∃ filled, StandEntries after (entries.put (.text name) item) (pairs.put (.text name) value) filled ∧
      filled.Perm (made ++ rest)

theorem StandEntries.focus {shared : Shared} {entries : Dict Nat} {pairs : Entries} {used : List Nat}
    (stand : StandEntries shared entries pairs used) (name : String) :
    ∃ part rest, Focus shared entries pairs name used part rest := by
  induction entries generalizing pairs used with
  | nil =>
    cases stand
    refine ⟨[], [], .nil, .inl ⟨rfl, rfl⟩, fun after item value made _ stands => ?_⟩
    exact ⟨made ++ [], .cons (.text name) stands .nil, .refl _⟩
  | cons entry entries ih =>
    cases stand with
    | @cons key item _ value pairs own others first rest =>
      by_cases spelled : key.text? = some name
      · refine ⟨own, others, .refl _, .inr ⟨item, value, ?_, ?_, first⟩, ?_⟩
        · rw [getText?_cons, if_pos spelled]
        · rw [getText?_cons, if_pos spelled]
        · intro after item value made keeps stands
          rw [put_text_cons, put_text_cons, if_pos spelled, if_pos spelled]
          exact ⟨made ++ others, .cons key stands (rest.kept keeps), .refl _⟩
      · obtain ⟨part, remaining, split, under, fill⟩ := ih rest
        refine ⟨part, own ++ remaining, ?_, ?_, ?_⟩
        · exact (split.append_left own).trans (List.perm_append_comm_assoc own part remaining)
        · simpa only [getText?_cons, if_neg spelled] using under
        · intro after item value made keeps stands
          obtain ⟨filled, stand, same⟩ := fill after item value made
            (keeps.mono (List.subset_append_right _ _)) stands
          rw [put_text_cons, put_text_cons, if_neg spelled, if_neg spelled]
          refine ⟨own ++ filled, .cons key (first.kept (keeps.mono (List.subset_append_left _ _))) stand, ?_⟩
          exact (same.append_left own).trans (List.perm_append_comm_assoc own made remaining)

theorem Focus.inner {shared : Shared} {place : Nat} {pairs : Entries} {name : String} {used part rest : List Nat}
    (focus : Focus shared (shared.entries place) pairs name used part rest) :
    (shared.inner? place name = none ∧ pairs.inner name = []) ∨
      ∃ item, shared.inner? place name = some item ∧ (shared.entries place).getText? name = some item ∧
        Stands shared item (.dict (pairs.inner name)) part := by
  unfold inner? Entries.inner
  rcases focus.under with ⟨absent, missing⟩ | ⟨item, value, listed, shown, under⟩
  · rw [absent, missing]
    exact .inl ⟨rfl, rfl⟩
  · rw [listed, shown]
    cases under with
    | leaf inside held single =>
      left
      simp only [held, true_and]
      split
      next inner same => exact absurd (Option.some.inj same) (single inner)
      next => rfl
    | list inside held each => exact .inl ⟨by simp only [held], rfl⟩
    | dict inside held each => exact .inr ⟨item, by simp only [held], rfl, .dict inside held each⟩

/-- A write into what is made of the used cells: other cells stay, and what is there then is
made of these and of new ones. -/
structure Grows (before after : Shared) (used made : List Nat) : Prop where
  size : before.cells.size ≤ after.cells.size
  frame : ∀ place < before.cells.size, place ∉ used → after.cell place = before.cell place
  fresh : ∀ place ∈ made, place ∈ used ∨ before.cells.size ≤ place
  distinct : made.Nodup

theorem Grows.refl (shared : Shared) {used : List Nat} (distinct : used.Nodup) : Grows shared shared used used :=
  ⟨Nat.le_refl _, fun _ _ _ => rfl, fun _ member => .inl member, distinct⟩

theorem Grows.not_mem {before after : Shared} {used made : List Nat} (grows : Grows before after used made) {place : Nat}
    (inside : place < before.cells.size) (unused : place ∉ used) : place ∉ made := by
  intro member
  rcases grows.fresh place member with used | new
  · exact unused used
  · exact Nat.lt_irrefl place (Nat.lt_of_lt_of_le inside new)

/-- After a write below a key the value is found there, made of cells that were there before
or are new. -/
def Filled (shared after : Shared) (place : Nat) (name : String) (value : Value) (part : List Nat) : Prop :=
  ∃ item made, Stands after item value made ∧ place ∉ made ∧
    after.cell place = .dict ((shared.entries place).put (.text name) item) ∧ Grows shared after (place :: part) made

section
variable {shared after : Shared} {place : Nat} {name : String} {value : Value} {part made : List Nat}

theorem filled_put {cell : Cell} (inside : place < shared.cells.size)
    (stands : Stands after shared.cells.size value made)
    (grows : Grows (shared.put name cell place) after [shared.cells.size] made) :
    Filled shared after place name value part := by
  have old : place ∉ [shared.cells.size] := by simpa using Nat.ne_of_lt inside
  have within : place < (shared.put name cell place).cells.size := by
    rw [size_put]
    omega
  refine ⟨shared.cells.size, made, stands, grows.not_mem within old, ?_, ?_, ?_, ?_, grows.distinct⟩
  · rw [grows.frame place within old, cell_put_self name cell inside]
  · have size := grows.size
    rw [size_put] at size
    omega
  · intro other less unused
    have apart : place ≠ other := fun same => unused (same ▸ List.mem_cons_self)
    rw [grows.frame other (by rw [size_put]; omega) (by simp; omega), cell_put_other name cell less apart]
  · intro other member
    rcases grows.fresh other member with new | new
    · exact .inr (Nat.le_of_eq (List.mem_singleton.mp new).symm)
    · rw [size_put] at new
      exact .inr (by omega)

theorem filled_within {item : Nat} (inside : place < shared.cells.size) (out : place ∉ part)
    (held : shared.cell place = .dict (shared.entries place))
    (listed : (shared.entries place).getText? name = some item) (stands : Stands after item value made)
    (grows : Grows shared after part made) : Filled shared after place name value part := by
  refine ⟨item, made, stands, grows.not_mem inside out, ?_, grows.size, ?_, ?_, grows.distinct⟩
  · rw [grows.frame place inside out, held, put_of_getText? listed]
  · exact fun cell less unused => grows.frame cell less fun member => unused (List.mem_cons_of_mem place member)
  · exact fun cell member => (grows.fresh cell member).imp_left (List.mem_cons_of_mem place)

/-- The dictionary then stands on the other cells that it had, and on those of what is now
under the key. -/
theorem Filled.stands {pairs : Entries} {used rest : List Nat} (filled : Filled shared after place name value part)
    (inside : place < shared.cells.size) (focus : Focus shared (shared.entries place) pairs name used part rest)
    (distinct : (place :: used).Nodup) (old : ∀ cell ∈ used, cell < shared.cells.size) :
    ∃ whole, Stands after place (.dict (pairs.put (.text name) value)) whole ∧
      Grows shared after (place :: used) whole := by
  obtain ⟨item, made, stands, apart, held, grows⟩ := filled
  have split := focus.split
  obtain ⟨outside, parted⟩ := List.nodup_cons.mp ((split.cons place).nodup_iff.mp distinct)
  obtain ⟨_, rest_distinct, disjoint⟩ := List.nodup_append.mp parted
  have within : part ⊆ used := fun cell member => split.mem_iff.mpr (List.mem_append_left rest member)
  have beside : ∀ cell ∈ rest, cell ∈ used ∧ cell ∉ place :: part := by
    intro cell member
    refine ⟨split.mem_iff.mpr (List.mem_append_right part member), ?_⟩
    rw [List.mem_cons, not_or]
    exact ⟨fun same => outside (List.mem_append_right part (same ▸ member)),
      fun inside => disjoint cell inside cell member rfl⟩
  have kept : Keeps shared after rest :=
    ⟨grows.size, fun cell member => grows.frame cell (old cell (beside cell member).1) (beside cell member).2⟩
  obtain ⟨filled, stand, same⟩ := focus.fill after item value made kept stands
  have cells : ∀ cell, cell ∈ filled ↔ cell ∈ made ∨ cell ∈ rest := fun cell => by rw [same.mem_iff, List.mem_append]
  refine ⟨place :: filled, .dict (Nat.lt_of_lt_of_le inside grows.size) held stand, grows.size, ?_, ?_, ?_⟩
  · exact fun cell less unused => grows.frame cell less fun member => unused (List.cons_subset_cons place within member)
  · intro cell member
    rcases List.mem_cons.mp member with rfl | member
    · exact .inl List.mem_cons_self
    · rcases (cells cell).mp member with member | member
      · exact (grows.fresh cell member).imp_left fun inside => List.cons_subset_cons place within inside
      · exact .inl (List.mem_cons_of_mem place (beside cell member).1)
  · refine List.nodup_cons.mpr ⟨?_, same.nodup_iff.mpr (List.nodup_append.mpr ⟨grows.distinct, rest_distinct, ?_⟩)⟩
    · rw [cells, not_or]
      exact ⟨apart, fun member => outside (List.mem_append_right part member)⟩
    · rintro cell member _ other rfl
      exact grows.not_mem (old cell (beside cell other).1) (beside cell other).2 member

end

theorem putPath_stands {text : Value} (single : ∀ entries, text ≠ .dict entries) (path : List String) {shared : Shared}
    {place : Nat} {pairs : Entries} {used : List Nat} (stands : Stands shared place (.dict pairs) used)
    (distinct : used.Nodup) :
    ∃ whole, Stands (shared.putPath text path place) place (.dict (pairs.putPath text path)) whole ∧
      Grows shared (shared.putPath text path place) used whole := by
  induction path generalizing shared place pairs used with
  | nil => exact ⟨used, stands, .refl shared distinct⟩
  | cons name rest ih =>
    cases stands with
    | leaf _ _ single => exact absurd rfl (single pairs)
    | @dict _ entries _ below inside held each =>
      obtain rfl : shared.entries place = entries := by rw [Shared.entries, held]
      obtain ⟨part, others, focus⟩ := each.focus name
      obtain ⟨outside, parted⟩ := List.nodup_cons.mp ((focus.split.cons place).nodup_iff.mp distinct)
      rw [Entries.putPath_cons]
      -- What the rest of the path is written into: a new leaf, a new dictionary, or the one that is there.
      refine Filled.stands ?_ inside focus distinct each.inside
      cases rest with
      | nil =>
        have new := cell_put_new name (.leaf text) place shared
        exact filled_put inside (.leaf (by rw [Shared.putPath, size_put]; omega) new single)
          (.refl _ (List.nodup_singleton _))
      | cons next more =>
        rcases focus.inner with ⟨nowhere, empty⟩ | ⟨item, somewhere, listed, under⟩
        · have new : Stands (shared.put name (.dict []) place) shared.cells.size (.dict []) [shared.cells.size] :=
            .dict (by rw [size_put]; omega) (cell_put_new name _ place shared) .nil
          obtain ⟨made, stands, grows⟩ := ih new (List.nodup_singleton _)
          simp only [Shared.putPath, nowhere, Entries.deepened, empty]
          exact filled_put inside stands grows
        · obtain ⟨made, stands, grows⟩ := ih under (List.nodup_append.mp parted).1
          simp only [Shared.putPath, somewhere, Entries.deepened]
          exact filled_within inside (fun member => outside (List.mem_append_left others member)) held listed stands grows

/-- The values form a tree, where no cell stands in two places, and these are its entries. -/
def Shows (shared : Shared) (entries : Entries) : Prop :=
  ∃ used, Stands shared shared.root (.dict entries) used ∧ used.Nodup

theorem root_putPath (text : Value) (path : List String) (place : Nat) (shared : Shared) :
    (shared.putPath text path place).root = shared.root := by
  induction path generalizing place shared with
  | nil => rfl
  | cons name rest ih =>
    cases rest with
    | nil => rfl
    | cons next more =>
      simp only [Shared.putPath]
      split
      next inner _ => exact ih inner shared
      next => exact ih _ _

theorem Shows.putPath {shared : Shared} {entries : Entries} (shows : shared.Shows entries) {text : Value}
    (single : ∀ entries, text ≠ .dict entries) (path : List String) :
    (shared.putPath text path shared.root).Shows (entries.putPath text path) := by
  obtain ⟨used, stands, distinct⟩ := shows
  obtain ⟨whole, stands, grows⟩ := putPath_stands single path stands distinct
  refine ⟨whole, ?_, grows.distinct⟩
  rw [root_putPath]
  exact stands

end FleetLink.Shared
