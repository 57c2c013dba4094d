import FleetLink.Text.Blank
import Mathlib.Data.List.TakeDrop

/-! Runs of characters of one class. A run is taken off whole when the next character is of
another class, and trimming leaves whatever begins and ends with a character that is not blank. -/

namespace FleetLink.Text

section
variable {p : Char → Bool} {run rest : List Char}

theorem dropWhile_run (inside : ∀ c ∈ run, p c = true) (stops : ∀ c ∈ rest.head?, p c = false) :
    (run ++ rest).dropWhile p = rest := by
  rw [List.dropWhile_append_of_pos inside]
  cases rest with
  | nil => rfl
  | cons c rest => exact List.dropWhile_cons_of_neg (by simp [stops c rfl])

theorem takeWhile_run (inside : ∀ c ∈ run, p c = true) (stops : ∀ c ∈ rest.head?, p c = false) :
    (run ++ rest).takeWhile p = run := by
  rw [List.takeWhile_append_of_pos inside]
  cases rest with
  | nil => simp
  | cons c rest => rw [List.takeWhile_cons_of_neg (by simp [stops c rfl]), List.append_nil]

theorem span_run (inside : ∀ c ∈ run, p c = true) (stops : ∀ c ∈ rest.head?, p c = false) :
    (run ++ rest).span p = (run, rest) := by
  rw [List.span_eq_takeWhile_dropWhile, takeWhile_run inside stops, dropWhile_run inside stops]

theorem span_all (inside : ∀ c ∈ run, p c = true) : run.span p = (run, []) := by
  rw [← span_run inside (by simp), List.append_nil]

end

/-- The characters begin and end with one that is not blank. -/
def Bounded (blank : Char → Bool) (chars : List Char) : Prop :=
  (∃ c ∈ chars.head?, blank c = false) ∧ ∃ c ∈ chars.getLast?, blank c = false

/-- What has no blank at its ends is what trimming leaves of it among blanks. -/
theorem trimChars_bounded {blank : Char → Bool} {before core after : List Char} (bounded : Bounded blank core)
    (leading : ∀ c ∈ before, blank c = true) (trailing : ∀ c ∈ after, blank c = true) :
    trimChars blank (before ++ core ++ after) = core := by
  obtain ⟨⟨first, leads, opened⟩, last, ends, closed⟩ := bounded
  have front : ∀ c ∈ (core ++ after).head?, blank c = false := by
    intro c found
    rw [List.head?_append, Option.mem_def.mp leads] at found
    cases found
    exact opened
  have back : ∀ c ∈ core.reverse.head?, blank c = false := by
    intro c found
    rw [List.head?_reverse, Option.mem_def.mp ends] at found
    cases found
    exact closed
  rw [trimChars, List.append_assoc, dropWhile_run leading front, List.reverse_append,
    dropWhile_run (by simpa using trailing) back, List.reverse_reverse]

/-- The text is these characters with blanks before and after them. -/
def Padded (core : List Char) (text : String) : Prop :=
  ∃ before after, text.toList = before ++ core ++ after ∧
    (∀ c ∈ before, isBlank c = true) ∧ ∀ c ∈ after, isBlank c = true

theorem padded_ofList (core : List Char) : Padded core (String.ofList core) :=
  ⟨[], [], by simp, by simp, by simp⟩

/-- Only blanks are trimmed off. -/
theorem padded_trim (text : String) : Padded (trimChars isBlank text.toList) text := by
  have front := List.takeWhile_append_dropWhile (p := isBlank) (l := text.toList)
  have back := List.takeWhile_append_dropWhile (p := isBlank) (l := (text.toList.dropWhile isBlank).reverse)
  refine ⟨text.toList.takeWhile isBlank, ((text.toList.dropWhile isBlank).reverse.takeWhile isBlank).reverse, ?_, ?_, ?_⟩
  · rw [trimChars, List.append_assoc, ← List.reverse_append, back, List.reverse_reverse, front]
  · exact List.all_eq_true.mp List.all_takeWhile
  · intro c member
    exact List.all_eq_true.mp List.all_takeWhile c (List.mem_reverse.mp member)

theorem trim_padded {text : String} {core : List Char} (bounded : Bounded isBlank core) (padded : Padded core text) :
    trimChars isBlank text.toList = core := by
  obtain ⟨before, after, spelled, leading, trailing⟩ := padded
  rw [spelled, trimChars_bounded bounded leading trailing]

theorem strip_padded {text : String} {core : List Char} (bounded : Bounded isBlank core) (padded : Padded core text) :
    strip text = String.ofList core := by
  rw [strip, trimWhile, trim_padded bounded padded]

theorem not_isBlank_of_isDigit {c : Char} (digit : c.isDigit = true) : isBlank c = false := by
  simp only [Char.isDigit, Bool.and_eq_true, decide_eq_true_eq] at digit
  have least : 48 ≤ c.toNat := digit.1
  have most : c.toNat ≤ 57 := digit.2
  simp only [isBlank, isWhiteSpace, Bool.or_eq_false_iff, Bool.and_eq_false_iff, decide_eq_false_iff_not,
    beq_eq_false_iff_ne]
  omega

end FleetLink.Text
