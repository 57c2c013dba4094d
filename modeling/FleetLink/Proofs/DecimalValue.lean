import Mathlib.Algebra.Order.Field.Power
import Mathlib.Tactic.NormNum
import FleetLink.Proofs.IntegerText

/-! The number that a decimal stands for, exactly. A decimal gives an integer just when it
is that integer in value, with whatever power of ten and however many zeros it is written,
and a reader of decimals finds in the text of an integer no other number. -/

namespace FleetLink.Number
open Text

/-- The value of a decimal that is finite. -/
def Decimal.value? : Decimal → Option ℚ
  | .finite negative coefficient exponent => some (signed negative coefficient * 10 ^ exponent)
  | _ => none

theorem signed_zero (negative : Bool) : signed negative 0 = 0 := by
  cases negative <;> rfl

theorem signed_mul (negative : Bool) (m n : Nat) : signed negative (m * n) = signed negative m * n := by
  cases negative <;> simp [signed]

/-- The size decides what can be equal to a multiple of another size with the same sign. -/
theorem signed_eq_mul_iff (negative : Bool) {m : Nat} (some : m ≠ 0) (scale : Nat) (n : Int) :
    signed negative m = n * scale ↔ ∃ k, m = k * scale ∧ n = signed negative k := by
  constructor
  · intro same
    have size : m = n.natAbs * scale := by
      have sizes := congrArg Int.natAbs same
      rw [Int.natAbs_mul, Int.natAbs_natCast] at sizes
      rw [← sizes]
      cases negative <;> simp [signed]
    refine ⟨n.natAbs, size, ?_⟩
    have unit : (scale : Int) ≠ 0 := by
      rintro zero
      rw [Int.natCast_eq_zero.mp zero, Nat.mul_zero] at size
      exact some size
    apply mul_right_cancel₀ unit
    rw [← same, ← signed_mul, ← size]
  · rintro ⟨k, rfl, rfl⟩
    exact signed_mul negative k scale

theorem dropPlaces?_eq_some_iff {coefficient : Nat} (some : coefficient ≠ 0) (places n : Nat) :
    Decimal.dropPlaces? coefficient places = .some n ↔ coefficient = n * tenTo places := by
  unfold Decimal.dropPlaces?
  split
  next outweighed =>
    -- a coefficient that has fewer binary digits than there are places is below the power of ten
    have small : coefficient < tenTo places := by
      calc coefficient < 2 ^ (coefficient.log2 + 1) := Nat.lt_log2_self
        _ ≤ 2 ^ places := Nat.pow_le_pow_right (by decide) outweighed
        _ ≤ 10 ^ places := Nat.pow_le_pow_left (by decide) places
    refine iff_of_false nofun ?_
    rintro rfl
    have positive : 0 < n := Nat.pos_of_ne_zero fun zero => some (by rw [zero, Nat.zero_mul])
    exact absurd small (Nat.not_lt.mpr (Nat.le_mul_of_pos_left _ positive))
  next =>
    split
    next divides =>
      rw [Option.some.injEq, Nat.div_eq_iff_eq_mul_left (tenTo_pos places) (Nat.dvd_of_mod_eq_zero divides)]
    next rest =>
      refine iff_of_false nofun ?_
      rintro rfl
      exact rest (Nat.mul_mod_left _ _)

theorem cast_tenTo (exponent : Nat) : (tenTo exponent : ℚ) = 10 ^ exponent := by
  exact_mod_cast rfl

/-- A decimal is taken for an integer exactly when that is its value. -/
theorem Decimal.integer?_eq_some_iff (d : Decimal) (n : Int) : d.integer? = some n ↔ d.value? = some (n : ℚ) := by
  cases d with
  | infinite | nan => exact iff_of_false nofun nofun
  | finite negative coefficient exponent =>
    rw [integer?, value?, Option.some.injEq]
    by_cases zero : coefficient = 0
    · rw [if_pos zero, zero, signed_zero, Int.cast_zero, zero_mul, Option.some.injEq]
      exact_mod_cast Iff.rfl
    rw [if_neg zero]
    rcases Int.lt_or_le exponent 0 with below | whole
    · obtain ⟨places, rfl⟩ := Int.exists_eq_neg_ofNat (Int.le_of_lt below)
      have unit : (10 : ℚ) ^ places ≠ 0 := pow_ne_zero places (by norm_num)
      have scaled : (signed negative coefficient : ℚ) * 10 ^ (-(places : Int)) = n ↔
          signed negative coefficient = n * (tenTo places : Nat) := by
        rw [zpow_neg, zpow_natCast, mul_inv_eq_iff_eq_mul₀ unit, ← cast_tenTo]
        exact_mod_cast Iff.rfl
      rw [if_neg (by omega), scaled, signed_eq_mul_iff negative zero, Int.natAbs_neg, Int.natAbs_natCast,
        Option.map_eq_some_iff]
      simp only [dropPlaces?_eq_some_iff zero, eq_comm]
    · obtain ⟨power, rfl⟩ := Int.eq_ofNat_of_zero_le whole
      have scaled : ((signed negative (coefficient * tenTo power) : Int) : ℚ) =
          signed negative coefficient * 10 ^ (power : Int) := by
        rw [signed_mul, Int.cast_mul, Int.cast_natCast, cast_tenTo, zpow_natCast]
      rw [if_pos whole, Int.toNat_natCast, Option.some.injEq, ← scaled, Int.cast_inj]

/-- The digits of a run as those of the first script. -/
def plainChars (digits : List Nat) : List Char := digits.map fun digit => Char.ofNat (48 + digit)

theorem plainChar_isDigit : ∀ digit < 10, (Char.ofNat (48 + digit)).isDigit = true := by decide

theorem plainChar_value : ∀ digit < 10, (Char.ofNat (48 + digit)).toNat - 48 = digit := by decide

theorem toLower_of_isDigit {c : Char} (digit : c.isDigit = true) : c.toLower = c := by
  unfold Char.toLower
  apply dif_neg
  rintro ⟨letter, _⟩
  have low : 'A'.toNat ≤ c.toNat := UInt32.le_iff_toNat_le.mp letter
  have high : c.toNat ≤ '9'.toNat := by
    simp only [Char.isDigit, Bool.and_eq_true, decide_eq_true_eq] at digit
    exact UInt32.le_iff_toNat_le.mp digit.2
  exact absurd (Nat.le_trans low high) (by decide)

section
variable {c : Char} (rest : List Char)

theorem plainDigits_digit {digit : Nat} (value : decimalValue? c = some digit) :
    Decimal.plainDigits (c :: rest) = Char.ofNat (48 + digit) :: Decimal.plainDigits rest := by
  have kept : (c != '_') = true := bne_iff_ne.mpr (DigitRun.ne_of_value value decimalValue?_underscore)
  simp only [Decimal.plainDigits, List.filter_cons, kept, if_true, List.map_cons, value]

theorem plainDigits_sign {negative : Bool} {sign : List Char} (signs : Sign negative sign) :
    Decimal.plainDigits (sign ++ rest) = sign ++ Decimal.plainDigits rest := by
  cases signs <;> rfl

/-- A digit begins no word. -/
theorem not_isWord_of_isDigit (digit : c.isDigit = true) (word : String)
    (letter : word.toList.head?.map Char.isDigit = some false) : isWord word (c :: rest) = false := by
  obtain ⟨first, opens, apart⟩ := Option.map_eq_some_iff.mp letter
  obtain ⟨letters, spelled⟩ := List.head?_eq_some_iff.mp opens
  have other : c ≠ first := ne_of_isDigit digit apart
  rw [isWord, spelled, List.map_cons, toLower_of_isDigit digit, beq_eq_false_iff_ne]
  intro same
  exact other (List.cons.inj same).1

end

theorem DigitRun.plainDigits {chars : List Char} {digits : List Nat} (run : DigitRun chars digits) :
    Decimal.plainDigits chars = plainChars digits := by
  induction run with
  | last value => exact plainDigits_digit [] value
  | next value _ ih =>
    rw [plainDigits_digit _ value, ih]
    rfl
  | apart value _ ih =>
    have passed (rest : List Char) : Decimal.plainDigits ('_' :: rest) = Decimal.plainDigits rest := rfl
    rw [plainDigits_digit _ value, passed, ih]
    rfl

section
variable {digits : List Nat} (small : ∀ digit ∈ digits, digit < 10)
include small

theorem plainChars_isDigit : ∀ c ∈ plainChars digits, c.isDigit = true :=
  List.forall_mem_map.mpr fun digit member => plainChar_isDigit digit (small digit member)

theorem natOfDigits_plainChars : natOfDigits (plainChars digits) = valueOfDigits digits := by
  have back : (plainChars digits).map (fun c => c.toNat - 48) = digits := by
    rw [plainChars, List.map_map]
    conv_rhs => rw [← List.map_id digits]
    exact List.map_congr_left fun digit member => plainChar_value digit (small digit member)
  rw [← valueOfDigits_map, back]

end

theorem unsignedDecimal?_digits {digits : List Char} (all : ∀ c ∈ digits, c.isDigit = true) (present : digits ≠ []) :
    unsignedDecimal? digits = some (natOfDigits digits, 0) := by
  unfold unsignedDecimal?
  rw [span_all all]
  simp [present, powerOfTen?]

/-- The text of an integer is the text of a decimal, and that has the same value. -/
theorem Numeral.decimal {text : String} {n : Int} (numeral : Numeral text n) :
    ∃ d, Decimal.ofText? text = some d ∧ d.value? = some (n : ℚ) := by
  obtain ⟨negative, sign, chars, digits, signs, run, short, padded, rfl⟩ := numeral
  have plain := plainChars_isDigit run.small
  have value := natOfDigits_plainChars run.small
  obtain ⟨c, rest, same⟩ : ∃ c rest, plainChars digits = c :: rest :=
    List.exists_cons_of_ne_nil fun empty => run.digits_ne_nil (List.map_eq_nil_iff.mp empty)
  have unsigned := unsignedDecimal?_digits plain (same ▸ List.cons_ne_nil c rest)
  rw [same] at plain unsigned
  have digit := plain c List.mem_cons_self
  have marks : c ≠ '-' ∧ c ≠ '+' := ⟨ne_of_isDigit digit rfl, ne_of_isDigit digit rfl⟩
  refine ⟨.finite negative (natOfDigits (plainChars digits)) 0, ?_, ?_⟩
  · -- the sign is taken off plain digits, and what is left is none of the words
    unfold Decimal.ofText?
    rw [trim_padded (bounded_run signs run) padded, plainDigits_sign _ signs, run.plainDigits, same,
      splitSign_run signs marks]
    simp only [isInfinityWord, List.take_succ_cons, not_isWord_of_isDigit _ digit "inf" rfl,
      not_isWord_of_isDigit _ digit "infinity" rfl, not_isWord_of_isDigit _ digit "snan" rfl,
      not_isWord_of_isDigit _ digit "nan" rfl, unsigned]
    rfl
  · rw [value, valueOfDigits_eq, Decimal.value?, zpow_zero, mul_one]

end FleetLink.Number
