import Mathlib.Data.List.Induction
import Mathlib.Data.Nat.Digits.Defs
import FleetLink.Number.IntegerText
import FleetLink.Proofs.CharRuns
import FleetLink.Proofs.Digits

/-! Integers written in any lenient way: digits of any script with single underscores
between them, zeros in front, a sign and blanks around. Such a text is read as the integer
that its digits spell, and no other text is read as one. -/

namespace FleetLink.Number
open Text

/-- Digits with single underscores between them, and the values of the digits. -/
inductive DigitRun : List Char → List Nat → Prop where
  | last {c : Char} {digit : Nat} (value : decimalValue? c = some digit) : DigitRun [c] [digit]
  | next {c : Char} {digit : Nat} {chars : List Char} {digits : List Nat} (value : decimalValue? c = some digit)
      (run : DigitRun chars digits) : DigitRun (c :: chars) (digit :: digits)
  | apart {c : Char} {digit : Nat} {chars : List Char} {digits : List Nat} (value : decimalValue? c = some digit)
      (run : DigitRun chars digits) : DigitRun (c :: '_' :: chars) (digit :: digits)

/-- A sign before digits. A number that is not negative may do without. -/
inductive Sign : Bool → List Char → Prop where
  | none : Sign false []
  | plus : Sign false ['+']
  | minus : Sign true ['-']

/-- The text of an integer: blanks, a sign, and digits that are not too many, the first of
them counting most. -/
def Numeral (text : String) (n : Int) : Prop :=
  ∃ negative sign chars digits, Sign negative sign ∧ DigitRun chars digits ∧ digits.length ≤ digitLimit ∧
    Padded (sign ++ chars) text ∧ n = signed negative (Nat.ofDigits 10 digits.reverse)

theorem valueOfDigits_eq (digits : List Nat) : valueOfDigits digits = Nat.ofDigits 10 digits.reverse := by
  induction digits using List.reverseRecOn with
  | nil => rfl
  | append_singleton digits digit ih =>
    rw [List.reverse_append, List.reverse_singleton, List.singleton_append, Nat.ofDigits_cons, ← ih, valueOfDigits,
      List.foldl_append, valueOfDigits]
    exact Nat.add_comm _ _

theorem decimalValue?_underscore : decimalValue? '_' = none := rfl

/-- The digits of a script lie between the blanks. -/
theorem decimalZeros_apart : ∀ first ∈ decimalZeros, first + 10 ≤ 0x85 ∨ (0xA0 < first ∧ first + 10 ≤ 0x1680) ∨
    (0x1680 < first ∧ first + 10 ≤ 0x2000) ∨ 0x3000 < first := by
  decide

theorem not_isBlank_of_decimalValue? {c : Char} {digit : Nat} (value : decimalValue? c = some digit) :
    isBlank c = false := by
  unfold decimalValue? at value
  split at value
  next ascii => exact not_isBlank_of_isDigit ascii
  next =>
    split at value
    next => cases value
    next high =>
      obtain ⟨first, found, _⟩ := Option.map_eq_some_iff.mp value
      have apart := decimalZeros_apart first (List.mem_of_find?_eq_some found)
      have inside := List.find?_some found
      simp only [Bool.and_eq_true, decide_eq_true_eq] at inside
      simp only [isBlank, isWhiteSpace, Bool.or_eq_false_iff, Bool.and_eq_false_iff, decide_eq_false_iff_not,
        beq_eq_false_iff_ne]
      omega

namespace DigitRun
variable {chars : List Char} {digits : List Nat}

theorem ne_of_value {c mark : Char} {digit : Nat} (value : decimalValue? c = some digit)
    (apart : decimalValue? mark = none) : c ≠ mark := by
  rintro rfl
  rw [apart] at value
  cases value

/-- A run begins with a digit. -/
theorem exists_first (run : DigitRun chars digits) :
    ∃ c rest digit, chars = c :: rest ∧ decimalValue? c = some digit := by
  cases run with
  | last value | next value _ | apart value _ => exact ⟨_, _, _, rfl, value⟩

theorem exists_last (run : DigitRun chars digits) :
    ∃ c digit, chars.getLast? = some c ∧ decimalValue? c = some digit := by
  induction run with
  | last value => exact ⟨_, _, rfl, value⟩
  | next _ run ih | apart _ run ih =>
    obtain ⟨c, digit, ends, value⟩ := ih
    refine ⟨c, digit, ?_, value⟩
    simp [List.getLast?_cons, ends]

theorem kept (run : DigitRun chars digits) : ∀ c ∈ chars, isDigitOrUnderscore c = true := by
  induction run with
  | last value => simp [isDigitOrUnderscore, value]
  | next value _ ih => simpa [isDigitOrUnderscore, value] using ih
  | apart value _ ih => simpa [isDigitOrUnderscore, value] using ih

theorem values (run : DigitRun chars digits) : chars.filterMap decimalValue? = digits := by
  induction run with
  | last value => simp [value]
  | next value _ ih => simp [value, ih]
  | apart value _ ih => rw [List.filterMap_cons_some value, List.filterMap_cons_none decimalValue?_underscore, ih]

theorem separate (run : DigitRun chars digits) : underscoresSeparate chars = true := by
  induction run with
  | last value =>
    have digit := ne_of_value value decimalValue?_underscore
    simp [underscoresSeparate, digit]
  | next value run ih =>
    have digit := ne_of_value value decimalValue?_underscore
    simp [underscoresSeparate, digit, ih]
  | apart value run ih =>
    have digit := ne_of_value value decimalValue?_underscore
    obtain ⟨c, rest, _, rfl, first⟩ := run.exists_first
    have next := ne_of_value first decimalValue?_underscore
    have later : underscoresSeparate rest = true := by simpa [underscoresSeparate, next] using ih
    simp [underscoresSeparate, digit, next, later]

/-- Digits and underscores that separate are a run, but for an underscore in front. -/
theorem of_separate (present : chars ≠ []) (kept : ∀ c ∈ chars, isDigitOrUnderscore c = true)
    (separate : underscoresSeparate chars = true) :
    ∃ digits, DigitRun chars digits ∨ ∃ inner, chars = '_' :: inner ∧ DigitRun inner digits := by
  induction chars with
  | nil => exact absurd rfl present
  | cons c rest ih =>
    obtain ⟨first, others⟩ := List.forall_mem_cons.mp kept
    by_cases mark : c = '_'
    · subst mark
      -- an underscore is neither at the end nor beside another one
      cases rest with
      | nil => simp [underscoresSeparate] at separate
      | cons next rest =>
        have digit : next ≠ '_' := by
          rintro rfl
          simp [underscoresSeparate] at separate
        have later : underscoresSeparate (next :: rest) = true := by
          simpa [underscoresSeparate, digit] using separate
        obtain ⟨digits, run | ⟨inner, same, _⟩⟩ := ih (List.cons_ne_nil next rest) others later
        · exact ⟨digits, .inr ⟨_, rfl, run⟩⟩
        · exact absurd (List.cons.inj same).1 digit
    · obtain ⟨digit, value⟩ : ∃ digit, decimalValue? c = some digit := by
        simpa [isDigitOrUnderscore, mark, Option.isSome_iff_exists] using first
      have later : underscoresSeparate rest = true := by
        simpa [underscoresSeparate, mark] using separate
      by_cases ends : rest = []
      · subst ends
        exact ⟨[digit], .inl (.last value)⟩
      · obtain ⟨digits, run | ⟨inner, rfl, run⟩⟩ := ih ends others later
        · exact ⟨digit :: digits, .inl (.next value run)⟩
        · exact ⟨digit :: digits, .inl (.apart value run)⟩

theorem opens (run : DigitRun chars digits) : chars.head? ≠ some '_' := by
  obtain ⟨c, rest, _, rfl, value⟩ := run.exists_first
  simpa using ne_of_value value decimalValue?_underscore

theorem digits_ne_nil (run : DigitRun chars digits) : digits ≠ [] := by
  cases run <;> exact List.cons_ne_nil _ _

theorem small (run : DigitRun chars digits) : ∀ digit ∈ digits, digit < 10 := by
  intro digit member
  rw [← run.values] at member
  obtain ⟨c, _, value⟩ := List.mem_filterMap.mp member
  exact decimalValue?_lt value

end DigitRun

theorem unsignedInteger_eq_ok_iff (chars : List Char) (n : Nat) : unsignedInteger chars = .ok n ↔
    ∃ digits, DigitRun chars digits ∧ digits.length ≤ digitLimit ∧ n = Nat.ofDigits 10 digits.reverse := by
  constructor
  · intro read
    unfold unsignedInteger at read
    simp only [List.span_eq_takeWhile_dropWhile] at read
    split at read
    next => cases read
    next sound =>
      split at read
      next => cases read
      next short =>
        split at read
        next => cases read
        next whole =>
          cases read
          have kept := List.all_eq_true.mp (List.all_takeWhile (p := isDigitOrUnderscore) (l := chars))
          have parts := List.takeWhile_append_dropWhile (p := isDigitOrUnderscore) (l := chars)
          simp only [Bool.or_eq_true, not_or, Bool.not_eq_eq_eq_not, Bool.not_true, List.isEmpty_eq_false_iff,
            List.isEmpty_iff, decide_eq_true_eq, not_not] at sound whole
          rw [whole.2, List.append_nil] at parts
          rw [parts] at kept sound short whole ⊢
          have present : chars ≠ [] := by
            rintro rfl
            exact whole.1 rfl
          obtain ⟨digits, run | ⟨inner, rfl, _⟩⟩ := DigitRun.of_separate present kept (eq_true_of_ne_false sound.2)
          case inr => exact absurd rfl sound.1
          rw [run.values] at short ⊢
          exact ⟨digits, run, Nat.le_of_not_lt short, valueOfDigits_eq digits⟩
  · rintro ⟨digits, run, short, rfl⟩
    unfold unsignedInteger
    simp only [span_all run.kept, run.values, run.separate, run.opens, ← valueOfDigits_eq]
    simp [run.digits_ne_nil, Nat.not_lt.mpr short]

theorem exists_sign (chars : List Char) : ∃ sign, Sign (splitSign chars).1 sign ∧ chars = sign ++ (splitSign chars).2 := by
  unfold splitSign
  split
  next => exact ⟨_, .minus, rfl⟩
  next => exact ⟨_, .plus, rfl⟩
  next => exact ⟨_, .none, rfl⟩

section
variable {negative : Bool} {sign chars : List Char} {digits : List Nat}

theorem splitSign_run (signs : Sign negative sign) {c : Char} {rest : List Char}
    (plain : c ≠ '-' ∧ c ≠ '+') : splitSign (sign ++ c :: rest) = (negative, c :: rest) := by
  cases signs with
  | plus | minus => rfl
  | none =>
    unfold splitSign
    split
    next same => exact absurd (List.cons.inj same).1 plain.1
    next same => exact absurd (List.cons.inj same).1 plain.2
    next => rfl

theorem bounded_run (signs : Sign negative sign) (run : DigitRun chars digits) : Bounded isBlank (sign ++ chars) := by
  obtain ⟨first, rest, _, rfl, opened⟩ := run.exists_first
  obtain ⟨last, _, ends, closed⟩ := run.exists_last
  constructor
  · cases signs with
    | plus | minus => exact ⟨_, rfl, rfl⟩
    | none => exact ⟨first, rfl, not_isBlank_of_decimalValue? opened⟩
  · refine ⟨last, ?_, not_isBlank_of_decimalValue? closed⟩
    rw [List.getLast?_append, ends]
    rfl

end

/-- A text is read as an integer exactly when it is a text of that integer. -/
theorem readInteger_eq_ok_iff (text : String) (n : Int) : readInteger text = .ok n ↔ Numeral text n := by
  constructor
  · intro read
    obtain ⟨sign, signs, split⟩ := exists_sign (trimChars isBlank text.toList)
    have padded := padded_trim text
    rw [split] at padded
    cases unsigned : unsignedInteger (splitSign (trimChars isBlank text.toList)).2 with
    | error error =>
      simp only [readInteger, unsigned] at read
      cases read
    | ok size =>
      simp only [readInteger, unsigned] at read
      cases read
      obtain ⟨digits, run, short, rfl⟩ := (unsignedInteger_eq_ok_iff _ size).mp unsigned
      exact ⟨_, sign, _, digits, signs, run, short, padded, rfl⟩
  · rintro ⟨negative, sign, chars, digits, signs, run, short, padded, rfl⟩
    have unsigned := (unsignedInteger_eq_ok_iff chars _).mpr ⟨digits, run, short, rfl⟩
    obtain ⟨first, rest, _, rfl, value⟩ := id run.exists_first
    have plain : first ≠ '-' ∧ first ≠ '+' := ⟨DigitRun.ne_of_value value rfl, DigitRun.ne_of_value value rfl⟩
    rw [readInteger, trim_padded (bounded_run signs run) padded, splitSign_run signs plain]
    simp only [unsigned]
    rfl

end FleetLink.Number
