import Mathlib.Tactic.Linarith
import FleetLink.Proofs.DecimalValue
import FleetLink.Row.Coercion

/-! Columns of integers. An integer comes from a value only when it is the number that the
value is or spells, to the last digit, and nothing is ever rounded to one. -/

namespace FleetLink.Row
open Number Text

/-- The number that a value is or spells. A text spells the number that a reader of
decimals finds in it. -/
inductive Amounts : Value → ℚ → Prop where
  | int (n : Int) : Amounts (.int n) n
  | decimal {d : Decimal} {amount : ℚ} (same : d.value? = some amount) : Amounts (.decimal d) amount
  | text {value : Value} {text : String} {d : Decimal} {amount : ℚ} (written : value.text? = some text)
      (read : Decimal.ofText? text = some d) (same : d.value? = some amount) : Amounts value amount

/-- The value is not taken for an integer, and the error blames the value. -/
def Refused (value : Value) : Prop :=
  ∃ error, coerceInteger value = .error error ∧ error.blamesValue = true

section
variable {value : Value} {text : String}

theorem coerceInteger_text (written : value.text? = some text) :
    coerceInteger value = (readInteger text).mapError (.integerText text) := by
  unfold coerceInteger
  split
  next => cases written
  next => cases written
  next => cases written
  next => rw [written]

theorem coerceInteger_text_iff (written : value.text? = some text) (n : Int) :
    coerceInteger value = .ok n ↔ Numeral text n := by
  rw [coerceInteger_text written, ← readInteger_eq_ok_iff]
  cases readInteger text with
  | ok | error => simp [Except.mapError]

theorem coerceDecimal_eq_ok_iff (d : Decimal) (n : Int) : coerceDecimal d = .ok n ↔ d.value? = some (n : ℚ) := by
  rw [← Decimal.integer?_eq_some_iff]
  unfold coerceDecimal
  split
  next => exact iff_of_false nofun nofun
  next => exact iff_of_false nofun nofun
  next =>
    split
    next found => rw [found, Except.ok.injEq, Option.some.injEq]
    next fraction => exact iff_of_false nofun (by simp [fraction])

/-- An integer is only ever the number that the value is or spells. -/
theorem amounts_of_coerceInteger {n : Int} (read : coerceInteger value = .ok n) : Amounts value n := by
  cases written : value.text? with
  | some text =>
    obtain ⟨d, found, same⟩ := ((coerceInteger_text_iff written n).mp read).decimal
    exact .text written found same
  | none =>
    unfold coerceInteger at read
    split at read
    next => cases read
    next => cases read; exact .int n
    next d => exact .decimal ((coerceDecimal_eq_ok_iff d n).mp read)
    next =>
      rw [written] at read
      cases read

/-- A value is or spells one number at most. -/
theorem Amounts.unique {a b : ℚ} (one : Amounts value a) (other : Amounts value b) : a = b := by
  cases one with
  | int n =>
    cases other with
    | int => rfl
    | text written => cases written
  | decimal same =>
    cases other with
    | decimal again => exact Option.some.inj (same.symm.trans again)
    | text written => cases written
  | text written read same =>
    cases other with
    | int | decimal => cases written
    | text writtenAgain readAgain again =>
      cases written.symm.trans writtenAgain
      cases read.symm.trans readAgain
      exact Option.some.inj (same.symm.trans again)

/-- An error about a number blames the value: only infinities and signalling NaNs are
sound values that no integer can hold. -/
theorem blames_of_amounts {amount : ℚ} (amounts : Amounts value amount) {error : CoercionError}
    (failed : coerceInteger value = .error error) : error.blamesValue = true := by
  cases amounts with
  | int => cases failed
  | @decimal d _ same =>
    cases d with
    | infinite | nan => cases same
    | finite negative coefficient exponent =>
      simp only [coerceInteger, coerceDecimal] at failed
      split at failed
      next => cases failed
      next =>
        cases failed
        rfl
  | @text _ text _ _ written read same =>
    rw [coerceInteger_text written] at failed
    cases found : readInteger text with
    | ok n =>
      rw [found] at failed
      cases failed
    | error fault =>
      rw [found] at failed
      cases failed
      rfl

/-- What is or spells a number with a fraction is refused. -/
theorem refused_of_fraction {amount : ℚ} (amounts : Amounts value amount) (fraction : ∀ n : Int, amount ≠ n) :
    Refused value := by
  cases outcome : coerceInteger value with
  | ok n => exact absurd (amounts.unique (amounts_of_coerceInteger outcome)) (fraction n)
  | error error => exact ⟨error, outcome, blames_of_amounts amounts outcome⟩

end

/-- Integers are read exactly. An integer stands for itself, a decimal for the integer that
it equals, with any power of ten and any zeros at its end, and a text for the integer that
its digits spell, the plain decimal text and every other. No value gives an integer that is
not the number it is or spells, and fractions, booleans and binary numbers are refused. -/
theorem coerceInteger_exact :
    (∀ n : Int, coerceInteger (.int n) = .ok n) ∧
    (∀ (d : Decimal) (n : Int), coerceInteger (.decimal d) = .ok n ↔ d.value? = some (n : ℚ)) ∧
    (∀ (text : String) (n : Int), coerceInteger (.text text) = .ok n ↔ Numeral text n) ∧
    (∀ (n : Int) (text : String), (Nat.toDigits 10 n.natAbs).length ≤ digitLimit →
      Padded (toString n).toList text → Numeral text n) ∧
    (∀ (value : Value) (n : Int), coerceInteger value = .ok n → Amounts value n) ∧
    (∀ (value : Value) (amount : ℚ), Amounts value amount → (∀ n : Int, amount ≠ n) → Refused value) ∧
    (∀ b : Bool, Refused (.bool b)) ∧
    ∀ x : Binary64, Refused (.float x) := by
  refine ⟨?int, ?decimal, ?text, ?plain, ?sound, ?fraction, ?bool, ?float⟩
  case int => exact fun _ => rfl
  case decimal => exact coerceDecimal_eq_ok_iff
  case text => exact fun text => coerceInteger_text_iff rfl
  case plain => exact fun _ _ short padded => numeral_toString padded short
  case sound => exact fun _ _ => amounts_of_coerceInteger
  case fraction => exact fun _ _ => refused_of_fraction
  case bool => exact fun _ => ⟨_, rfl, rfl⟩
  case float => exact fun _ => ⟨_, rfl, rfl⟩

/-- A column in which 42 comes with a sign, a zero, an underscore and blanks of another
script, -7 as it is printed, a negative number of forty digits with three zeros behind its
point, and one and a half both as a text and as a decimal. -/
theorem coerceInteger_exact_of_mixedColumn :
    coerceInteger (.text "\u3000 +0_042 ") = .ok 42 ∧
    coerceInteger (.text "-7\n") = .ok (-7) ∧
    coerceInteger (.decimal (.finite true 9007199254740993900719925474099390071993000 (-3))) =
      .ok (-9007199254740993900719925474099390071993) ∧
    Refused (.text "1.50") ∧
    Refused (.decimal (.finite false 15 (-1))) := by
  obtain ⟨_, decimal, text, plain, _, fraction, _, _⟩ := coerceInteger_exact
  have half (n : Int) : (3 / 2 : ℚ) ≠ n := by
    intro same
    have doubled : (3 : ℚ) = 2 * n := by linarith
    have parity : (3 : Int) = 2 * n := by exact_mod_cast doubled
    omega
  refine ⟨?_, ?_, ?_, ?_, ?_⟩
  · have run : DigitRun ['0', '_', '0', '4', '2'] [0, 0, 4, 2] := .apart rfl (.next rfl (.next rfl (.last rfl)))
    have padded : Padded ['+', '0', '_', '0', '4', '2'] "\u3000 +0_042 " :=
      ⟨['\u3000', ' '], [' '], rfl, List.all_eq_true.mp rfl, List.all_eq_true.mp rfl⟩
    exact (text _ 42).mpr ⟨false, ['+'], _, _, .plus, run, by decide, padded, by decide⟩
  · have padded : Padded (toString (-7 : Int)).toList "-7\n" :=
      ⟨[], ['\n'], rfl, nofun, List.all_eq_true.mp rfl⟩
    exact (text _ (-7)).mpr (plain (-7) _ (by decide) padded)
  · refine (decimal _ _).mpr ?_
    norm_num [Decimal.value?, signed]
  · have read : Decimal.ofText? "1.50" = some (.finite false 150 (-2)) := by decide
    have same : (Decimal.finite false 150 (-2)).value? = some (3 / 2) := by norm_num [Decimal.value?, signed]
    exact fraction _ _ (.text rfl read same) half
  · have same : (Decimal.finite false 15 (-1)).value? = some (3 / 2) := by norm_num [Decimal.value?, signed]
    exact fraction _ _ (.decimal same) half

end FleetLink.Row
