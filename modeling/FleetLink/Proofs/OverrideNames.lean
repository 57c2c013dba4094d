import Mathlib.Data.List.Infix
import FleetLink.Proofs.SettingOverrides

/-! The variable that overrides a setting. A path of small ASCII keys, written in capitals
behind a lead, is the path that is read from the name again. -/

namespace FleetLink.Text

def isSmall (c : Char) : Bool := c.toNat < 128 && !c.isUpper

theorem small_back : ∀ n : Fin 128, isSmall (Char.ofNat n) = true →
    (Char.ofNat n).toUpper.toLower = Char.ofNat n ∧ (Char.ofNat n).toUpper.toNat < 128 := by
  decide

section
variable {c : Char} (small : isSmall c = true)
include small

theorem ascii_of_small : c.toNat < 128 := by
  simpa using (Bool.and_eq_true_iff.mp small).1

theorem toUpper_small : c.toUpper.toLower = c ∧ c.toUpper.toNat < 128 := by
  have back := small_back ⟨c.toNat, ascii_of_small small⟩
  simp only [Char.ofNat_toNat] at back
  exact back small

theorem toUpper_eq_underscore_iff : c.toUpper = '_' ↔ c = '_' := by
  constructor
  · intro same
    rw [← (toUpper_small small).1, same]
    rfl
  · rintro rfl
    rfl

theorem upperChar_small : upperChar c = [c.toUpper] := by
  rw [upperChar, if_pos (ascii_of_small small)]

end

theorem upper_small {text : String} (small : ∀ c ∈ text.toList, isSmall c = true) :
    (upper text).toList = text.toList.map Char.toUpper := by
  rw [upper, String.toList_ofList, ← List.flatMap_pure_eq_map]
  exact List.flatMap_congr fun c member => upperChar_small (small c member)

theorem lowerChars_ascii (before : List Char) {chars : List Char} (ascii : ∀ c ∈ chars, c.toNat < 128) :
    lowerChars before chars = chars.map Char.toLower := by
  induction chars generalizing before with
  | nil => rfl
  | cons c rest ih =>
    obtain ⟨first, others⟩ := List.forall_mem_cons.mp ascii
    have plain : c ≠ 'Σ' := by
      rintro rfl
      exact absurd first (by decide)
    rw [lowerChars, lowerChar, if_pos first, ih _ others]
    · rfl
    · exact plain

theorem lower_upper {text : String} (small : ∀ c ∈ text.toList, isSmall c = true) : lower (upper text) = text := by
  have ascii : ∀ c ∈ text.toList.map Char.toUpper, c.toNat < 128 := by
    intro c member
    obtain ⟨d, inside, rfl⟩ := List.mem_map.mp member
    exact (toUpper_small (small d inside)).2
  have back : (text.toList.map Char.toUpper).map Char.toLower = text.toList := by
    rw [List.map_map]
    exact (List.map_congr_left fun c member => (toUpper_small (small c member)).1).trans (List.map_id _)
  rw [lower, upper_small small, lowerChars_ascii [] ascii, back, String.ofList_toList]

end FleetLink.Text

namespace FleetLink.Overrides
open Text

/-- A key that a variable can spell. It may begin with an underscore but not end with one,
since that would be taken for a part of what separates it from the next key. -/
structure PlainKey (key : String) : Prop where
  small : ∀ c ∈ key.toList, isSmall c = true
  whole : ¬['_', '_'] <:+: key.toList
  early : ¬['_'] <:+ key.toList

instance (key : String) : Decidable (PlainKey key) :=
  decidable_of_iff (key.toList.all isSmall = true ∧ ¬['_', '_'] <:+: key.toList ∧ ¬['_'] <:+ key.toList)
    ⟨fun ⟨small, whole, early⟩ => ⟨List.all_eq_true.mp small, whole, early⟩,
      fun plain => ⟨List.all_eq_true.mpr plain.small, plain.whole, plain.early⟩⟩

def nameOf (lead : String) (path : List String) : String :=
  "__".intercalate (lead :: path.map upper)

theorem underscores_of_toUpper {chars : List Char} (small : ∀ c ∈ chars, isSmall c = true) {count : Nat}
    (same : chars.map Char.toUpper = List.replicate count '_') : chars = List.replicate count '_' := by
  obtain ⟨long, each⟩ := List.eq_replicate_iff.mp same
  refine List.eq_replicate_iff.mpr ⟨by simpa using long, fun c member => ?_⟩
  exact (toUpper_eq_underscore_iff (small c member)).mp (each _ (List.mem_map_of_mem member))

theorem PlainKey.upper_whole {key : String} (plain : PlainKey key) : ¬['_', '_'] <:+: (upper key).toList := by
  rw [upper_small plain.small]
  intro inside
  obtain ⟨marks, found, same⟩ := List.infix_map_iff.mp inside
  have marked : marks.map Char.toUpper = List.replicate 2 '_' := same.symm
  obtain rfl := underscores_of_toUpper (fun c member => plain.small c (found.subset member)) marked
  exact plain.whole found

theorem PlainKey.upper_early {key : String} (plain : PlainKey key) : ¬['_'] <:+ (upper key).toList := by
  rw [upper_small plain.small]
  intro ends
  obtain ⟨marks, found, same⟩ := List.suffix_map_iff.mp ends
  have marked : marks.map Char.toUpper = List.replicate 1 '_' := same.symm
  obtain rfl := underscores_of_toUpper (fun c member => plain.small c (found.subset member)) marked
  exact plain.early found

/-- Only the variables that begin with the lead count. -/
theorem found_filter (lead : String) (environment : Environment) :
    found lead environment = found lead (environment.filter fun entry => begins lead entry.1) := by
  rw [found, found, List.filterMap_filter]
  apply List.filterMap_congr
  intro entry _
  obtain ⟨name, text⟩ := entry
  cases leads : begins lead name with
  | true => rfl
  | false => simp only [path?_of_not_begins leads, Option.map_none, Bool.false_eq_true, if_false]

section
variable (lead : String) {path : List String} (further : path ≠ [])
include further

theorem nameOf_toList : (nameOf lead path).toList =
    lead.toList ++ ['_', '_'] ++ ['_', '_'].intercalate (path.map fun key => (upper key).toList) := by
  obtain ⟨key, rest, rfl⟩ := List.exists_cons_of_ne_nil further
  rw [nameOf, String.toList_intercalate, List.map_cons, List.map_map, List.map_cons, List.intercalate_cons_cons]
  rfl

variable (plain : ∀ key ∈ path, PlainKey key)
include plain

theorem splitPath_nameOf : splitPath (['_', '_'].intercalate (path.map fun key => (upper key).toList)) =
    path.map fun key => (upper key).toList := by
  apply separated_iff.mp
  refine ⟨?_, rfl, ?_, ?_⟩
  · simpa using further
  · intro part member
    obtain ⟨key, inside, rfl⟩ := List.mem_map.mp member
    exact (plain key inside).upper_whole
  · intro part member
    obtain ⟨key, inside, rfl⟩ := List.mem_map.mp (List.dropLast_subset _ member)
    exact (plain key inside).upper_early

theorem path?_nameOf : path? lead (nameOf lead path) = some path := by
  have back : (path.map fun key => (upper key).toList).map (fun part => lower (String.ofList part)) = path := by
    rw [List.map_map]
    refine (List.map_congr_left fun key member => ?_).trans (List.map_id path)
    rw [Function.comp_apply, String.ofList_toList, lower_upper (plain key member).small, id]
  unfold path?
  rw [nameOf_toList lead further, if_pos (List.isPrefixOf_iff_prefix.mpr (List.prefix_append _ _)), List.drop_left,
    splitPath_nameOf further plain, back]

/-- A variable with the name of a path overrides just that path. -/
theorem found_single {environment : Environment} {text : String}
    (single : environment.filter (fun entry => begins lead entry.1) = [(nameOf lead path, text)]) :
    found lead environment = [(path, text)] := by
  rw [found_filter, single]
  simp only [found, List.filterMap_cons, path?_nameOf lead further plain, Option.map_some, List.filterMap_nil]

end

end FleetLink.Overrides
