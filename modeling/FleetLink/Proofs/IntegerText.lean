import FleetLink.Number.Decimal
import FleetLink.Number.LenientInteger
import FleetLink.Proofs.Numerals

/-! Integers written out and read back. Plain digits count as those of any script do,
and the decimal text of an integer is read among blanks when it is not too long. -/

namespace FleetLink.Number
open Text

theorem decimalValue?_of_isDigit {c : Char} (digit : c.isDigit = true) : decimalValue? c = some (c.toNat - 48) := by
  rw [decimalValue?, if_pos digit]

theorem valueOfDigits_map (digits : List Char) :
    valueOfDigits (digits.map fun c => c.toNat - 48) = natOfDigits digits := by
  rw [valueOfDigits, List.foldl_map]
  rfl

/-- Plain digits are a run. -/
theorem DigitRun.of_digits {digits : List Char} (all : ∀ c ∈ digits, c.isDigit = true) (present : digits ≠ []) :
    DigitRun digits (digits.map fun c => c.toNat - 48) := by
  induction digits with
  | nil => exact absurd rfl present
  | cons c rest ih =>
    obtain ⟨first, others⟩ := List.forall_mem_cons.mp all
    have value := decimalValue?_of_isDigit first
    by_cases ends : rest = []
    · subst ends
      exact .last value
    · exact .next value (ih others ends)

theorem signed_natAbs (n : Int) : signed (decide (n < 0)) n.natAbs = n := by
  simp only [signed, decide_eq_true_eq]
  split <;> omega

theorem toList_toString_int (n : Int) :
    (toString n).toList = (if n < 0 then ['-'] else []) ++ Nat.toDigits 10 n.natAbs := by
  rw [Int.toString_eq_repr, Int.repr_eq_if]
  by_cases negative : n < 0
  · have size : (-n).toNat = n.natAbs := by omega
    rw [if_neg (by omega), if_pos negative, String.toList_append, Nat.toList_repr, size]
    rfl
  · have size : n.toNat = n.natAbs := by omega
    rw [if_pos (by omega), if_neg negative, Nat.toList_repr, size]
    rfl

/-- The decimal text of an integer among blanks is a text of that integer. -/
theorem numeral_toString {n : Int} {text : String} (padded : Padded (toString n).toList text)
    (short : (Nat.toDigits 10 n.natAbs).length ≤ digitLimit) : Numeral text n := by
  have run := DigitRun.of_digits (fun _ => isDigit_of_mem_toDigits) (Nat.toDigits_ne_nil (b := 10) (n := n.natAbs))
  have sign : Sign (decide (n < 0)) (if n < 0 then ['-'] else []) := by
    by_cases negative : n < 0
    · simpa [negative] using Sign.minus
    · simpa [negative] using Sign.none
  rw [toList_toString_int] at padded
  refine ⟨_, _, _, _, sign, run, ?_, padded, ?_⟩
  · rwa [List.length_map]
  · rw [← valueOfDigits_eq, valueOfDigits_map, natOfDigits_toDigits, signed_natAbs]

/-- The decimal text of an integer is read as that integer, whatever blanks stand around it. -/
theorem readInteger_toString {n : Int} {text : String} (padded : Padded (toString n).toList text)
    (short : (Nat.toDigits 10 n.natAbs).length ≤ digitLimit) : readInteger text = .ok n :=
  (readInteger_eq_ok_iff text n).mpr (numeral_toString padded short)

theorem splitMinus_toString (n : Int) : splitMinus (toString n).toList = (decide (n < 0), Nat.toDigits 10 n.natAbs) := by
  rw [toList_toString_int]
  by_cases negative : n < 0
  · simp [negative, splitMinus]
  · have unsigned : splitMinus (Nat.toDigits 10 n.natAbs) = (false, Nat.toDigits 10 n.natAbs) := by
      unfold splitMinus
      split
      next rest leads => exact absurd rfl (ne_of_isDigit (isDigit_of_mem_toDigits (leads ▸ List.mem_cons_self)) rfl)
      next => rfl
    simp [negative, unsigned]

theorem length_toString_int (n : Int) :
    (toString n).length = (if n < 0 then 1 else 0) + (Nat.toDigits 10 n.natAbs).length := by
  rw [← String.length_toList, toList_toString_int, List.length_append]
  split <;> rfl

theorem strictUnsigned_toDigits (limit n : Nat) : strictUnsigned limit (Nat.toDigits 10 n) =
    if (Nat.toDigits 10 n).length ≤ limit then .ok n else .error (.tooLong (Nat.toDigits 10 n).length) := by
  have digits : (Nat.toDigits 10 n).span Char.isDigit = (Nat.toDigits 10 n, []) :=
    span_all fun _ => isDigit_of_mem_toDigits
  have present : (Nat.toDigits 10 n).isEmpty = false := List.isEmpty_eq_false_iff.mpr Nat.toDigits_ne_nil
  have plain : ¬((Nat.toDigits 10 n).head? == some '0' && (Nat.toDigits 10 n).length != 1) = true := by
    rcases Nat.eq_zero_or_pos n with zero | positive
    · rw [zero]
      decide
    · simp [head_toDigits positive]
  simp only [strictUnsigned, digits, present, Bool.false_or, if_neg plain, List.isEmpty_nil, Bool.not_true,
    Bool.false_eq_true, if_false, natOfDigits_toDigits]
  by_cases short : (Nat.toDigits 10 n).length ≤ limit
  · rw [if_pos short, if_neg (Nat.not_lt.mpr short)]
  · rw [if_neg short, if_pos (Nat.not_le.mp short)]

theorem strictInteger_toString (n : Int) : strictInteger (toString n).toList =
    if (toString n).length ≤ digitLimit then .ok n else .error (.tooLong (Nat.toDigits 10 n.natAbs).length) := by
  have value := signed_natAbs n
  rw [length_toString_int, strictInteger, splitMinus_toString]
  by_cases negative : n < 0
  · rw [if_pos negative]
    rw [decide_eq_true negative] at value ⊢
    by_cases short : (Nat.toDigits 10 n.natAbs).length ≤ digitLimit - 1
    · have whole : 1 + (Nat.toDigits 10 n.natAbs).length ≤ digitLimit := Nat.add_le_of_le_sub' (by decide) short
      simp only [strictUnsigned_toDigits, if_pos short, if_pos whole, Except.map_ok, value]
    · have beyond : ¬1 + (Nat.toDigits 10 n.natAbs).length ≤ digitLimit := fun whole =>
        short (Nat.le_sub_of_add_le' whole)
      simp only [strictUnsigned_toDigits, if_neg short, if_neg beyond]
      rfl
  · rw [if_neg negative, Nat.zero_add]
    rw [decide_eq_false negative] at value ⊢
    by_cases short : (Nat.toDigits 10 n.natAbs).length ≤ digitLimit
    · simp only [strictUnsigned_toDigits, if_pos short, Except.map_ok, value]
    · simp only [strictUnsigned_toDigits, if_neg short]
      rfl

/-- The decimal text of an integer is of the strict form. Its sign counts towards the limit. -/
theorem lenientInteger_toString (n : Int) : lenientInteger (toString n) =
    if (toString n).length ≤ digitLimit then .ok n else .error (.tooLong (Nat.toDigits 10 n.natAbs).length) := by
  rw [lenientInteger, strictInteger_toString]
  by_cases short : (toString n).length ≤ digitLimit
  · simp only [if_pos short]
  · simp only [if_neg short]

theorem Decimal.integer?_ofInt (n : Int) : (Decimal.ofInt n).integer? = some n := by
  by_cases zero : n = 0
  · subst zero
    rfl
  · have size : n.natAbs * tenTo (0 : Int).toNat = n.natAbs := Nat.mul_one _
    rw [ofInt, integer?, if_neg (by omega), if_pos (Int.le_refl 0), size, signed_natAbs]

end FleetLink.Number
