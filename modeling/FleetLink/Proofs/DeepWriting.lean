import FleetLink.Value.Path
import FleetLink.Proofs.Dictionary

/-! Writing at paths of keys. What is written is found at its path, everything whose path
does not meet it is found as before, and writes at paths that do not meet may change
places: only the order of entries tells. -/

namespace FleetLink

/-- What a path of keys leads to. Only dictionaries are passed through. -/
def Value.follow? : List Value → Value → Option Value
  | [], value => some value
  | key :: rest, .dict entries => (Dict.get? key entries).bind (follow? rest)
  | _ :: _, _ => none

namespace Entries
open Dict

/-- One of the paths leads through the other or is the other. Keys count by their texts. -/
def Meets (keys : List Value) (path : List String) : Prop :=
  keys.map Value.text? <+: path.map some ∨ path.map some <+: keys.map Value.text?

theorem meets_cons_iff {key : Value} {name : String} (spelled : key.text? = some name) (keys : List Value)
    (path : List String) : Meets (key :: keys) (name :: path) ↔ Meets keys path := by
  simp [Meets, spelled]

def deepened (value : Value) (rest : List String) (inner : Entries) : Value :=
  match rest with
  | [] => value
  | next :: rest => .dict (inner.putPath value (next :: rest))

theorem putPath_cons (value : Value) (key : String) (rest : List String) (entries : Entries) :
    entries.putPath value (key :: rest) = entries.put (.text key) (deepened value rest (entries.inner key)) := by
  cases rest <;> rfl

theorem deepened_dict (value : Value) {rest : List String} (further : rest ≠ []) (inner : Entries) :
    deepened value rest inner = .dict (inner.putPath value rest) := by
  obtain ⟨next, rest, rfl⟩ := List.exists_cons_of_ne_nil further
  rfl

theorem inner_put_of_ne {name key : String} (apart : name ≠ key) (value : Value) (entries : Entries) :
    inner key (entries.put (.text name) value) = entries.inner key := by
  unfold inner
  rw [getText?_put, if_neg apart]

theorem inner_put_dict (key : String) (within entries : Entries) :
    inner key (entries.put (.text key) (.dict within)) = within := by
  unfold inner
  rw [getText?_put, if_pos rfl]

/-- What is no dictionary leads as far as an empty one. -/
theorem follow?_inner {keys : List Value} (nonempty : keys ≠ []) (name : String) (entries : Entries) :
    Value.follow? keys (.dict (entries.inner name)) = (entries.getText? name).bind (Value.follow? keys) := by
  obtain ⟨key, rest, rfl⟩ := List.exists_cons_of_ne_nil nonempty
  unfold inner
  cases entries.getText? name with
  | none => rfl
  | some value => cases value <;> rfl

theorem follow?_putPath_self (value : Value) {path : List String} (some : path ≠ []) {keys : List Value}
    (spelled : keys.map Value.text? = path.map .some) (entries : Entries) :
    Value.follow? keys (.dict (entries.putPath value path)) = .some value := by
  induction path generalizing keys entries with
  | nil => exact absurd rfl some
  | cons name rest ih =>
    obtain ⟨key, keys, rfl, same, later⟩ := List.map_eq_cons_iff.mp spelled
    rw [putPath_cons, Value.follow?, get?_eq_getText? same, getText?_put, if_pos rfl, Option.bind_some]
    cases rest with
    | nil => rw [List.map_eq_nil_iff.mp later, deepened, Value.follow?]
    | cons next rest => exact ih (List.cons_ne_nil next rest) later (entries.inner name)

theorem follow?_putPath_of_not_meets (value : Value) {path : List String} {keys : List Value}
    (apart : ¬Meets keys path) (entries : Entries) :
    Value.follow? keys (.dict (entries.putPath value path)) = Value.follow? keys (.dict entries) := by
  induction path generalizing keys entries with
  | nil => exact absurd (.inr List.nil_prefix) apart
  | cons name rest ih =>
    cases keys with
    | nil => exact absurd (.inl List.nil_prefix) apart
    | cons key keys =>
      rw [putPath_cons, Value.follow?, Value.follow?]
      by_cases spelled : key.text? = some name
      · rw [meets_cons_iff spelled] at apart
        rw [get?_eq_getText? spelled, get?_eq_getText? spelled, getText?_put, if_pos rfl, Option.bind_some]
        cases rest with
        | nil => exact absurd (.inr List.nil_prefix) apart
        | cons next rest =>
          have nonempty : keys ≠ [] := by
            rintro rfl
            exact apart (.inl List.nil_prefix)
          rw [deepened, ih apart, follow?_inner nonempty]
      · rw [get?_put_of_ne spelled]

/-- The same entries in another order, at any depth. Only entries of different keys change
places. -/
inductive Reordered : Entries → Entries → Prop where
  | refl (entries : Entries) : Reordered entries entries
  | skip (entry : Value × Value) {first second : Entries} (rest : Reordered first second) :
      Reordered (entry :: first) (entry :: second)
  | within (key : Value) {first second : Entries} (rest : Entries) (inner : Reordered first second) :
      Reordered ((key, .dict first) :: rest) ((key, .dict second) :: rest)
  | swap {first second : Value × Value} (rest : Entries) (apart : first.1.sameKey second.1 = false) :
      Reordered (first :: second :: rest) (second :: first :: rest)
  | trans {first second third : Entries} (one : Reordered first second) (other : Reordered second third) :
      Reordered first third

theorem put_comm {name other : String} (apart : name ≠ other) (one two : Value) (entries : Entries) :
    Reordered ((entries.put (.text other) two).put (.text name) one)
      ((entries.put (.text name) one).put (.text other) two) := by
  induction entries with
  | nil =>
    simp only [Dict.put, sameKey_text, Value.text?, beq_iff_eq, Option.some.injEq, if_neg apart, if_neg apart.symm]
    exact .swap [] (by simp [sameKey_text, Value.text?, apart.symm])
  | cons entry rest ih =>
    obtain ⟨key, held⟩ := entry
    by_cases first : key.text? = some name
    · have second : key.text? ≠ some other := by simp [first, apart]
      simp only [put_text_cons, if_pos first, if_neg second]
      exact .refl _
    · by_cases second : key.text? = some other
      · simp only [put_text_cons, if_neg first, if_pos second]
        exact .refl _
      · simp only [put_text_cons, if_neg first, if_neg second]
        exact ih.skip _

theorem Reordered.put {first second : Entries} (same : Reordered first second) (name : String) (value : Value) :
    Reordered (first.put (.text name) value) (second.put (.text name) value) := by
  induction same with
  | refl => exact .refl _
  | trans _ _ one other => exact one.trans other
  | skip entry rest ih =>
    obtain ⟨key, held⟩ := entry
    simp only [put_text_cons]
    split
    · exact rest.skip _
    · exact ih.skip _
  | within key rest inner =>
    simp only [put_text_cons]
    split
    · exact .refl _
    · exact .within key _ inner
  | @swap first second rest apart =>
    obtain ⟨key, held⟩ := first
    obtain ⟨other, kept⟩ := second
    by_cases one : key.text? = some name
    · have two : other.text? ≠ some name := by
        intro two
        simp [sameKey_spelled two, one] at apart
      simp only [put_text_cons, if_pos one, if_neg two]
      exact .swap rest apart
    · by_cases two : other.text? = some name
      · simp only [put_text_cons, if_neg one, if_pos two]
        exact .swap rest apart
      · simp only [put_text_cons, if_neg one, if_neg two]
        exact .swap _ apart

theorem Reordered.put_dict {first second : Entries} (same : Reordered first second) (name : String) (entries : Entries) :
    Reordered (entries.put (.text name) (.dict first)) (entries.put (.text name) (.dict second)) := by
  induction entries with
  | nil => exact .within _ [] same
  | cons entry rest ih =>
    obtain ⟨key, held⟩ := entry
    simp only [put_text_cons]
    split
    · exact .within key rest same
    · exact ih.skip _

theorem Reordered.getText? {first second : Entries} (same : Reordered first second) (name : String) :
    first.getText? name = second.getText? name ∨
      ∃ one other, first.getText? name = some (.dict one) ∧ second.getText? name = some (.dict other) ∧
        Reordered one other := by
  induction same with
  | refl => exact .inl rfl
  | skip entry rest ih =>
    obtain ⟨key, held⟩ := entry
    simp only [getText?_cons]
    split
    · exact .inl rfl
    · exact ih
  | within key rest inner =>
    simp only [getText?_cons]
    split
    · exact .inr ⟨_, _, rfl, rfl, inner⟩
    · exact .inl rfl
  | @swap first second rest apart =>
    obtain ⟨key, held⟩ := first
    obtain ⟨other, kept⟩ := second
    simp only [getText?_cons]
    left
    by_cases one : key.text? = some name
    · have two : other.text? ≠ some name := by
        intro two
        simp [sameKey_spelled two, one] at apart
      simp only [if_pos one, if_neg two]
    · simp only [if_neg one]
  | trans _ _ one other =>
    rcases one with same | ⟨a, b, left, middle, inner⟩
    · rw [same]
      exact other
    · rcases other with same | ⟨c, d, again, right, further⟩
      · exact .inr ⟨a, b, left, same ▸ middle, inner⟩
      · obtain rfl : b = c := by simpa [middle] using again
        exact .inr ⟨a, d, left, right, inner.trans further⟩

theorem Reordered.inner {first second : Entries} (same : Reordered first second) (name : String) :
    Reordered (first.inner name) (second.inner name) := by
  unfold Entries.inner
  rcases same.getText? name with same | ⟨one, other, left, right, inner⟩
  · rw [same]
    exact .refl _
  · rw [left, right]
    exact inner

theorem Reordered.putPath {first second : Entries} (same : Reordered first second) (value : Value) (path : List String) :
    Reordered (first.putPath value path) (second.putPath value path) := by
  induction path generalizing first second with
  | nil => exact same
  | cons name rest ih =>
    rw [putPath_cons, putPath_cons]
    cases rest with
    | nil => exact same.put name value
    | cons next rest => exact ((ih (same.inner name)).put_dict name first).trans (same.put name _)

def Apart (path other : List String) : Prop := ¬path <+: other ∧ ¬other <+: path

theorem Apart.symm {path other : List String} (apart : Apart path other) : Apart other path := ⟨apart.2, apart.1⟩

theorem Apart.further {path other : List String} (apart : Apart path other) : path ≠ [] ∧ other ≠ [] := by
  constructor
  · rintro rfl
    exact apart.1 List.nil_prefix
  · rintro rfl
    exact apart.2 List.nil_prefix

theorem apart_cons_iff (name : String) (path other : List String) : Apart (name :: path) (name :: other) ↔ Apart path other := by
  simp [Apart]

theorem putPath_comm {path other : List String} (apart : Apart path other) (one two : Value) (entries : Entries) :
    Reordered ((entries.putPath two other).putPath one path) ((entries.putPath one path).putPath two other) := by
  induction path generalizing other entries with
  | nil => exact absurd rfl apart.further.1
  | cons name rest ih =>
    obtain ⟨next, later, rfl⟩ := List.exists_cons_of_ne_nil apart.further.2
    simp only [putPath_cons]
    by_cases same : name = next
    · subst same
      have parted := (apart_cons_iff name rest later).mp apart
      simp only [deepened_dict _ parted.further.1, deepened_dict _ parted.further.2, inner_put_dict, put_put]
      exact (ih parted (entries.inner name)).put_dict name entries
    · rw [inner_put_of_ne (Ne.symm same), inner_put_of_ne same]
      exact put_comm same _ _ entries

end Entries

end FleetLink
