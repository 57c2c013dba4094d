import Mathlib.Data.List.Forall2

/-! The places where a mark stands in a text. A text is made of gaps with the mark after
each of them; where no gap holds the first character of the mark, the mark stands after
the gaps and nowhere else. -/

namespace FleetLink.Text

def Stands (mark text : List Char) (place : Nat) : Prop := mark <+: text.drop place

/-- Gaps with the mark after each of them, and what follows the last mark. -/
def marked (mark : List Char) : List (List Char) → List Char → List Char
  | [], tail => tail
  | gap :: gaps, tail => gap ++ mark ++ marked mark gaps tail

/-- The places of the marks when the first gap begins at the given place. -/
def markPlaces (mark : List Char) (start : Nat) : List (List Char) → List Nat
  | [] => []
  | gap :: gaps => (start + gap.length) :: markPlaces mark (start + (gap ++ mark).length) gaps

section
variable {first : Char} {more : List Char}

theorem Stands.head {text : List Char} {place : Nat} (stands : Stands (first :: more) text place) :
    text[place]? = some first := by
  obtain ⟨rest, same⟩ := stands
  rw [← List.head?_drop, ← same]
  rfl

theorem stands_gap_iff (single : first ∉ more) {gap : List Char} (clean : first ∉ gap) (rest : List Char) (place : Nat) :
    Stands (first :: more) (gap ++ first :: more ++ rest) place ↔
      place = gap.length ∨ ∃ later, place = (gap ++ first :: more).length + later ∧ Stands (first :: more) rest later := by
  constructor
  · intro stands
    rcases Nat.lt_or_ge place (gap ++ first :: more).length with within | beyond
    · left
      have head := stands.head
      rw [List.getElem?_append_left within] at head
      rcases Nat.lt_trichotomy place gap.length with before | here | after
      · rw [List.getElem?_append_left before] at head
        exact absurd (List.mem_of_getElem? head) clean
      · exact here
      · obtain ⟨extra, rfl⟩ := Nat.exists_eq_add_of_lt after
        have inside : gap.length + extra + 1 - gap.length = extra + 1 := by omega
        rw [List.getElem?_append_right (Nat.le_of_lt after), inside, List.getElem?_cons_succ] at head
        exact absurd (List.mem_of_getElem? head) single
    · right
      obtain ⟨later, rfl⟩ := Nat.exists_eq_add_of_le beyond
      rw [Stands, List.drop_length_add_append] at stands
      exact ⟨later, rfl, stands⟩
  · rintro (rfl | ⟨later, rfl, stands⟩)
    · rw [Stands, List.append_assoc, List.drop_left]
      exact List.prefix_append _ _
    · rwa [Stands, List.drop_length_add_append]

theorem le_of_mem_markPlaces {mark : List Char} {start place : Nat} {gaps : List (List Char)}
    (member : place ∈ markPlaces mark start gaps) : start ≤ place := by
  induction gaps generalizing start with
  | nil => cases member
  | cons gap gaps ih =>
    rcases List.mem_cons.mp member with rfl | later
    · exact Nat.le_add_right _ _
    · exact Nat.le_of_add_right_le (ih later)

theorem markPlaces_sorted {mark : List Char} (size : 0 < mark.length) (start : Nat) (gaps : List (List Char)) :
    (markPlaces mark start gaps).Pairwise (· < ·) := by
  induction gaps generalizing start with
  | nil => exact .nil
  | cons gap gaps ih =>
    refine .cons ?_ (ih _)
    intro place member
    have later := le_of_mem_markPlaces member
    rw [List.length_append] at later
    omega

/-- What each gap ends in stands before its mark. -/
theorem gaps_end {endings gaps : List (List Char)} (ends : List.Forall₂ (· <:+ ·) endings gaps) (mark before tail : List Char) :
    List.Forall₂ (fun ending place => ending <:+ (before ++ marked mark gaps tail).take place) endings
      (markPlaces mark before.length gaps) := by
  induction ends generalizing before with
  | nil => exact .nil
  | @cons ending gap endings gaps first _ ih =>
    have reached : before.length + gap.length = (before ++ gap).length := List.length_append.symm
    have later := ih (before ++ (gap ++ mark))
    rw [List.append_assoc, List.length_append] at later
    refine .cons ?_ later
    rw [marked, reached, List.append_assoc gap, ← List.append_assoc before, List.take_left]
    exact first.trans (List.suffix_append _ _)

theorem stands_marked_iff (single : first ∉ more) {gaps : List (List Char)} (clean : ∀ gap ∈ gaps, first ∉ gap)
    {tail : List Char} (ending : first ∉ tail) (start place : Nat) :
    Stands (first :: more) (marked (first :: more) gaps tail) place ↔
      start + place ∈ markPlaces (first :: more) start gaps := by
  induction gaps generalizing start place with
  | nil =>
    refine iff_of_false ?_ (List.not_mem_nil)
    intro stands
    exact ending (List.mem_of_getElem? stands.head)
  | cons gap gaps ih =>
    obtain ⟨here, others⟩ := List.forall_mem_cons.mp clean
    rw [marked, stands_gap_iff single here, markPlaces, List.mem_cons, Nat.add_left_cancel_iff]
    refine or_congr_right ⟨?_, ?_⟩
    · rintro ⟨later, rfl, stands⟩
      rw [← Nat.add_assoc]
      exact (ih others _ later).mp stands
    · intro member
      obtain ⟨later, same⟩ := Nat.exists_eq_add_of_le (le_of_mem_markPlaces member)
      rw [Nat.add_assoc] at same
      obtain rfl := Nat.add_left_cancel same
      rw [← Nat.add_assoc] at member
      exact ⟨later, rfl, (ih others _ later).mpr member⟩

end

end FleetLink.Text
