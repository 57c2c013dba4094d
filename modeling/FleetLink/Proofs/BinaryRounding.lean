import Mathlib.Algebra.Order.Field.Power
import Mathlib.Algebra.Order.Ring.Rat
import Mathlib.Tactic.FieldSimp
import Mathlib.Tactic.Linarith
import Mathlib.Tactic.NormNum
import Mathlib.Tactic.Ring
import FleetLink.Number.Binary64

/-! Where rounding to a binary floating-point number leaves the range. A quotient is rounded
to an infinite number from half a step above the greatest number on, and to zero up to half
of the least one. Both bounds keep their side when a quotient is halved. -/

namespace FleetLink.Number

theorem cast_twoTo (exponent : Nat) : (twoTo exponent : ℚ) = 2 ^ exponent := by
  simp [twoTo]

theorem twoTo_div_twoTo (place : Int) : (twoTo place.toNat : ℚ) / twoTo (-place).toNat = 2 ^ place := by
  rw [cast_twoTo, cast_twoTo]
  rcases Int.le_total 0 place with up | down
  · have none : (-place).toNat = 0 := by omega
    rw [none, pow_zero, div_one, ← zpow_natCast, Int.toNat_of_nonneg up]
  · have none : place.toNat = 0 := by omega
    rw [none, pow_zero, one_div, ← zpow_natCast, Int.toNat_of_nonneg (by omega), zpow_neg, inv_inv]

theorem divHalfEven_le_iff {den : Nat} (positive : 0 < den) (num n : Nat) :
    divHalfEven num den ≤ n ↔ 2 * num < (2 * n + 1) * den ∨ (2 * num = (2 * n + 1) * den ∧ n % 2 = 0) := by
  have whole := Nat.div_add_mod num den
  have rest := Nat.mod_lt num positive
  have expand : (2 * n + 1) * den = 2 * (den * n) + den := by ring
  rcases Nat.lt_trichotomy (num / den) n with below | same | above
  · -- The quotient and one more is still no more than the bound.
    have step : den * (num / den) + den ≤ den * n := by
      rw [← Nat.mul_succ]
      exact Nat.mul_le_mul_left den below
    have bound := divHalfEven_le num den
    exact iff_of_true (by omega) (.inl (by omega))
  · rw [divHalfEven, same]
    rw [same] at whole
    split
    · omega
    · split
      · omega
      · split <;> omega
  · have step : den * n + den ≤ den * (num / den) := by
      rw [← Nat.mul_succ]
      exact Nat.mul_le_mul_left den above
    have bound := le_divHalfEven num den
    exact iff_of_false (by omega) (by omega)

namespace Binary64

section
variable {num den : Nat}

theorem scaled_lt_iff (positive : 0 < den) (num : Nat) (place : Int) :
    num * twoTo (-place).toNat < den * twoTo place.toNat ↔ (num : ℚ) / den < 2 ^ place := by
  have below : (0 : ℚ) < den := by exact_mod_cast positive
  have unit : (0 : ℚ) < twoTo (-place).toNat := by exact_mod_cast twoTo_pos _
  rw [← twoTo_div_twoTo, div_lt_div_iff₀ below unit, mul_comm (twoTo place.toNat : ℚ)]
  exact_mod_cast Iff.rfl

theorem floorLog2_bounds (some : 0 < num) (positive : 0 < den) :
    (2 : ℚ) ^ floorLog2 num den ≤ num / den ∧ (num : ℚ) / den < 2 ^ (floorLog2 num den + 1) := by
  have numLeast : (2 : ℚ) ^ num.log2 ≤ num := by exact_mod_cast Nat.log2_self_le (Nat.ne_of_gt some)
  have numMost : (num : ℚ) < 2 ^ (num.log2 + 1) := by exact_mod_cast Nat.lt_log2_self
  have denLeast : (2 : ℚ) ^ den.log2 ≤ den := by exact_mod_cast Nat.log2_self_le (Nat.ne_of_gt positive)
  have denMost : (den : ℚ) < 2 ^ (den.log2 + 1) := by exact_mod_cast Nat.lt_log2_self
  have below : (0 : ℚ) < den := by exact_mod_cast positive
  have least : (2 : ℚ) ^ ((num.log2 : Int) - den.log2 - 1) ≤ num / den := by
    have spelled : (num.log2 : Int) - den.log2 - 1 = num.log2 - (den.log2 + 1 : Nat) := by push_cast; ring
    rw [spelled, zpow_sub₀ two_ne_zero, zpow_natCast, zpow_natCast]
    exact div_le_div₀ (by positivity) numLeast below denMost.le
  have most : (num : ℚ) / den < 2 ^ ((num.log2 : Int) - den.log2 + 1) := by
    have spelled : (num.log2 : Int) - den.log2 + 1 = (num.log2 + 1 : Nat) - den.log2 := by push_cast; ring
    rw [spelled, zpow_sub₀ two_ne_zero, zpow_natCast, zpow_natCast]
    exact div_lt_div₀ numMost denLeast (by positivity) (by positivity)
  simp only [floorLog2, scaled_lt_iff positive]
  split
  next less => exact ⟨least, by rwa [sub_add_cancel]⟩
  next more => exact ⟨not_lt.mp more, most⟩

/-- When a quotient that is rounded at a place comes to no more than so many steps. -/
theorem rounded_le_iff (positive : 0 < den) (num n : Nat) (place : Int) :
    divHalfEven (num * twoTo (-place).toNat) (den * twoTo place.toNat) ≤ n ↔
      2 * ((num : ℚ) / den) < (2 * n + 1) * 2 ^ place ∨
        (2 * ((num : ℚ) / den) = (2 * n + 1) * 2 ^ place ∧ n % 2 = 0) := by
  have below : (0 : ℚ) < den := by exact_mod_cast positive
  have up : (0 : ℚ) < twoTo place.toNat := by exact_mod_cast twoTo_pos _
  have down : (0 : ℚ) < twoTo (-place).toNat := by exact_mod_cast twoTo_pos _
  have left : ((2 * (num * twoTo (-place).toNat) : Nat) : ℚ) = 2 * ((num : ℚ) / den) * (den * twoTo (-place).toNat) := by
    push_cast
    field_simp
  have right : (((2 * n + 1) * (den * twoTo place.toNat) : Nat) : ℚ) =
      (2 * n + 1) * 2 ^ place * (den * twoTo (-place).toNat) := by
    rw [← twoTo_div_twoTo]
    push_cast
    field_simp
  have step : (0 : ℚ) < den * twoTo (-place).toNat := mul_pos below down
  rw [divHalfEven_le_iff (Nat.mul_pos positive (twoTo_pos _)), ← Nat.cast_lt (α := ℚ), ← Nat.cast_inj (R := ℚ), left, right,
    mul_lt_mul_iff_left₀ step, mul_left_inj' step.ne']

/-- The place of the last digit that a quotient keeps. -/
def lastPlace (num den : Nat) : Int := max (floorLog2 num den - 52) minExponent

theorem ofRatio_of_pos (some : 0 < num) (den : Nat) (negative : Bool) :
    ofRatio negative num den = carried negative
      (divHalfEven (num * twoTo (-lastPlace num den).toNat) (den * twoTo (lastPlace num den).toNat)) (lastPlace num den) := by
  rw [ofRatio, if_neg (Nat.ne_of_gt some)]
  rfl

theorem rounded_le (some : 0 < num) (positive : 0 < den) :
    divHalfEven (num * twoTo (-lastPlace num den).toNat) (den * twoTo (lastPlace num den).toNat) ≤ twoTo 53 := by
  rw [rounded_le_iff positive]
  left
  have most := (floorLog2_bounds some positive).2
  have wide : (2 : ℚ) ^ (floorLog2 num den + 1) ≤ 2 ^ (lastPlace num den + 53) := by
    apply zpow_le_zpow_right₀ one_le_two
    unfold lastPlace
    omega
  have split : (2 : ℚ) ^ (lastPlace num den + 53) = 2 ^ 53 * 2 ^ lastPlace num den := by
    rw [zpow_add₀ two_ne_zero, mul_comm]
    norm_cast
  have step : (0 : ℚ) < 2 ^ lastPlace num den := by positivity
  rw [cast_twoTo]
  linarith

theorem carried_isFinite_iff (negative : Bool) (mantissa : Nat) (place : Int) :
    (carried negative mantissa place).isFinite = true ↔
      place < maxExponent ∨ (place = maxExponent ∧ mantissa ≠ twoTo 53) := by
  unfold carried
  by_cases full : mantissa = twoTo 53
  · rw [if_pos full]
    split
    · exact iff_of_false (by simp [isFinite]) (by omega)
    · exact iff_of_true rfl (by omega)
  · rw [if_neg full]
    split
    · exact iff_of_false (by simp [isFinite]) (by omega)
    · exact iff_of_true rfl (by omega)

theorem carried_isZero_iff (negative : Bool) (mantissa : Nat) (place : Int) :
    (carried negative mantissa place).isZero = true ↔ mantissa = 0 ∧ place ≤ maxExponent := by
  have positive := twoTo_pos 53
  unfold carried
  by_cases full : mantissa = twoTo 53
  · rw [if_pos full]
    split
    · exact iff_of_false (by simp [isZero]) (by omega)
    · exact iff_of_false (by simp [isZero, twoTo]) (by omega)
  · rw [if_neg full]
    split
    · exact iff_of_false (by simp [isZero]) (by omega)
    · simp [isZero]
      omega

/-- Half a step above the greatest number. -/
def overflow : ℚ := (2 ^ 54 - 1) * 2 ^ (970 : Int)

theorem overflow_bounds : (2 : ℚ) ^ (1023 : Int) < overflow ∧ overflow < 2 ^ (1024 : Int) := by
  have step : (0 : ℚ) < 2 ^ (970 : Int) := by positivity
  have least : (2 : ℚ) ^ (1023 : Int) = 2 ^ 53 * 2 ^ (970 : Int) := by
    rw [← zpow_natCast, ← zpow_add₀ two_ne_zero]
    norm_num
  have most : (2 : ℚ) ^ (1024 : Int) = 2 ^ 54 * 2 ^ (970 : Int) := by
    rw [← zpow_natCast, ← zpow_add₀ two_ne_zero]
    norm_num
  rw [overflow, least, most]
  constructor
  · apply mul_lt_mul_of_pos_right _ step
    norm_num
  · apply mul_lt_mul_of_pos_right _ step
    norm_num

theorem rounded_lt_iff (some : 0 < num) (positive : 0 < den) (last : lastPlace num den = maxExponent) :
    divHalfEven (num * twoTo (-lastPlace num den).toNat) (den * twoTo (lastPlace num den).toNat) ≠ twoTo 53 ↔
      (num : ℚ) / den < overflow := by
  have full : twoTo 53 = 9007199254740992 := rfl
  have limit : (2 * (9007199254740991 : Nat) + 1) * (2 : ℚ) ^ maxExponent = 2 * overflow := by
    rw [maxExponent, overflow, show (971 : Int) = 970 + 1 from rfl, zpow_add_one₀ two_ne_zero]
    ring
  have fewer := rounded_le_iff positive num 9007199254740991 (lastPlace num den)
  have most := rounded_le some positive
  rw [last, limit] at fewer
  rw [last] at most ⊢
  have apart : (∀ rounded : Nat, rounded ≤ twoTo 53 → (rounded ≠ twoTo 53 ↔ rounded ≤ 9007199254740991)) := by
    intro rounded bound
    omega
  rw [apart _ most, fewer, mul_lt_mul_iff_right₀ two_pos]
  exact or_iff_left fun even => absurd even.2 (by decide)

theorem isFinite_ofRatio_iff (negative : Bool) (num : Nat) {den : Nat} (positive : 0 < den) :
    (ofRatio negative num den).isFinite = true ↔ (num : ℚ) / den < overflow := by
  obtain ⟨above, below⟩ := overflow_bounds
  rcases Nat.eq_zero_or_pos num with rfl | some
  · refine iff_of_true rfl ?_
    rw [Nat.cast_zero, zero_div]
    exact lt_trans (by positivity) above
  obtain ⟨least, most⟩ := floorLog2_bounds some positive
  rw [ofRatio_of_pos some, carried_isFinite_iff]
  rcases lt_trichotomy (lastPlace num den) maxExponent with small | last | large
  · -- There is room for one power of two more.
    refine iff_of_true (.inl small) (lt_trans most (lt_of_le_of_lt ?_ above))
    apply zpow_le_zpow_right₀ one_le_two
    simp only [lastPlace, maxExponent] at small
    omega
  · rw [← rounded_lt_iff some positive last]
    simp [last]
  · refine iff_of_false (by omega) (not_lt.mpr (below.le.trans (le_trans ?_ least)))
    apply zpow_le_zpow_right₀ one_le_two
    simp only [lastPlace, maxExponent, minExponent] at large
    omega

theorem isZero_ofRatio_iff (negative : Bool) (num : Nat) {den : Nat} (positive : 0 < den) :
    (ofRatio negative num den).isZero = true ↔ (num : ℚ) / den ≤ 2 ^ (-1075 : Int) := by
  rcases Nat.eq_zero_or_pos num with rfl | some
  · refine iff_of_true rfl ?_
    rw [Nat.cast_zero, zero_div]
    positivity
  rw [ofRatio_of_pos some, carried_isZero_iff, ← Nat.le_zero, rounded_le_iff positive]
  have half : (2 * (0 : Nat) + 1) * (2 : ℚ) ^ minExponent = 2 * 2 ^ (-1075 : Int) := by
    rw [minExponent, show (-1074 : Int) = -1075 + 1 from rfl, zpow_add_one₀ two_ne_zero]
    ring
  by_cases tiny : lastPlace num den = minExponent
  · have inside : minExponent ≤ maxExponent := by decide
    rw [tiny, half, mul_lt_mul_iff_right₀ two_pos, mul_right_inj' two_ne_zero]
    simp only [inside, and_true, Nat.zero_mod, ← le_iff_lt_or_eq]
  · -- A quotient that keeps all its digits is far from zero.
    have kept : floorLog2 num den = lastPlace num den + 52 ∧ minExponent < lastPlace num den := by
      unfold lastPlace at tiny ⊢
      omega
    obtain ⟨place, deep⟩ := kept
    have least := (floorLog2_bounds some positive).1
    have far : (2 : ℚ) ^ lastPlace num den < num / den := by
      refine lt_of_lt_of_le ?_ least
      apply zpow_lt_zpow_right₀ one_lt_two
      omega
    have apart : (2 : ℚ) ^ (-1075 : Int) < 2 ^ lastPlace num den := by
      apply zpow_lt_zpow_right₀ one_lt_two
      unfold minExponent at deep
      omega
    have step : (0 : ℚ) < 2 ^ lastPlace num den := by positivity
    refine iff_of_false ?_ (not_le.mpr (apart.trans far))
    rintro ⟨less | ⟨same, _⟩, _⟩
    · rw [Nat.cast_zero] at less
      linarith
    · rw [Nat.cast_zero] at same
      linarith

end

/-- A time that can be waited for: a number that is neither negative nor beyond all others. -/
def Lasts (pause : Binary64) : Prop := ∃ num den, pause.ratio? = some (num, den) ∧ 0 ≤ num

theorem lasts_finite_iff (negative : Bool) (mantissa : Nat) (exponent : Int) :
    Lasts (.finite negative mantissa exponent) ↔ negative = false ∨ mantissa = 0 := by
  have unit := twoTo_pos exponent.toNat
  have size : mantissa * twoTo exponent.toNat = 0 ↔ mantissa = 0 := by
    rw [Nat.mul_eq_zero, or_iff_left (Nat.ne_of_gt unit)]
  simp only [Lasts, ratio?, Option.some.injEq, Prod.mk.injEq, ← size]
  generalize mantissa * twoTo exponent.toNat = num
  cases negative with
  | false => exact iff_of_true ⟨num, _, ⟨rfl, rfl⟩, Int.natCast_nonneg num⟩ (.inl rfl)
  | true =>
    constructor
    · rintro ⟨_, _, ⟨rfl, _⟩, most⟩
      rw [if_pos rfl] at most
      exact .inr (by omega)
    · intro none
      refine ⟨_, _, ⟨rfl, rfl⟩, ?_⟩
      rw [if_pos rfl]
      simp at none
      omega

theorem not_lasts_of_infinite (negative : Bool) : ¬Lasts (.infinite negative) := by
  simp [Lasts, ratio?]

theorem ofRatio_cases (negative : Bool) (num den : Nat) :
    ofRatio negative num den = .infinite negative ∨
      ∃ mantissa exponent, ofRatio negative num den = .finite negative mantissa exponent := by
  unfold ofRatio carried
  split
  · exact .inr ⟨_, _, rfl⟩
  · dsimp only
    split
    · split
      · exact .inl rfl
      · exact .inr ⟨_, _, rfl⟩
    · split
      · exact .inl rfl
      · exact .inr ⟨_, _, rfl⟩

theorem lasts_ofRatio_iff (negative : Bool) (num : Nat) {den : Nat} (positive : 0 < den) :
    Lasts (ofRatio negative num den) ↔
      (num : ℚ) / den < overflow ∧ (negative = false ∨ (num : ℚ) / den ≤ 2 ^ (-1075 : Int)) := by
  rw [← isFinite_ofRatio_iff negative num positive, ← isZero_ofRatio_iff negative num positive]
  rcases ofRatio_cases negative num den with infinite | ⟨mantissa, exponent, finite⟩
  · rw [infinite]
    exact iff_of_false (not_lasts_of_infinite negative) (by simp [isFinite])
  · rw [finite, lasts_finite_iff]
    simp [isFinite, isZero]

/-- A power of two is kept as it is, up to the last one. -/
theorem ofInt_twoTo {k : Nat} (small : k < 1024) : ofInt (twoTo k : Nat) = .finite false (twoTo 52) (k - 52) := by
  have some : 0 < twoTo k := twoTo_pos k
  have size : floorLog2 (twoTo k) 1 = k := by
    have one : Nat.log2 1 = 0 := by decide
    have place : ((twoTo k).log2 : Int) - Nat.log2 1 = k := by simp [twoTo, one]
    rw [floorLog2, place, if_neg]
    simp [twoTo]
  have last : lastPlace (twoTo k) 1 = k - 52 := by
    unfold lastPlace minExponent
    omega
  have kept : twoTo k * twoTo (-((k : Int) - 52)).toNat = twoTo 52 * (1 * twoTo ((k : Int) - 52).toNat) := by
    rw [Nat.one_mul, ← twoTo_add, ← twoTo_add]
    congr 1
    omega
  have positive : ¬((twoTo k : Nat) : Int) < 0 := by omega
  rw [ofInt, Int.natAbs_natCast, decide_eq_false positive, ofRatio_of_pos some, last, kept,
    divHalfEven_mul _ (Nat.mul_pos Nat.one_pos (twoTo_pos _)), carried, if_neg (by decide), if_neg]
  unfold maxExponent
  omega

theorem lasts_mul_twoTo_iff (negative : Bool) (mantissa : Nat) (exponent : Int) {k : Nat} (small : k < 1024) :
    Lasts (.finite negative mantissa exponent * ofInt (twoTo k : Nat)) ↔
      mantissa * 2 ^ (exponent + k) < overflow ∧
        (negative = false ∨ (mantissa : ℚ) * 2 ^ (exponent + k) ≤ 2 ^ (-1075 : Int)) := by
  have product : .finite negative mantissa exponent * ofInt (twoTo k : Nat) =
      ofScaled negative (mantissa * twoTo 52) (exponent + (k - 52)) := by
    rw [ofInt_twoTo small]
    change ofScaled (negative != false) _ _ = _
    rw [Bool.bne_false]
  have whole : (2 : ℚ) ^ (exponent + k) = 2 ^ 52 * 2 ^ (exponent + (k - 52)) := by
    rw [← zpow_natCast, ← zpow_add₀ two_ne_zero]
    congr 1
    push_cast
    ring
  rw [product, ofScaled, lasts_ofRatio_iff _ _ (twoTo_pos _), Nat.cast_mul, mul_div_assoc, twoTo_div_twoTo, Nat.cast_mul,
    cast_twoTo, whole, mul_assoc]

/-- A number lasts times a power of two when it lasts times a greater one. -/
theorem Lasts.shorter {factor : Binary64} {longer : Nat} (small : longer < 1024)
    (lasts : Lasts (factor * ofInt (twoTo longer : Nat))) {fewer : Nat} (less : fewer ≤ longer) :
    Lasts (factor * ofInt (twoTo fewer : Nat)) := by
  cases factor with
  | nan =>
    obtain ⟨_, _, none, _⟩ := lasts
    cases none
  | infinite negative =>
    rw [ofInt_twoTo small] at lasts
    exact absurd lasts (not_lasts_of_infinite _)
  | finite negative mantissa exponent =>
    have smaller : (mantissa : ℚ) * 2 ^ (exponent + fewer) ≤ mantissa * 2 ^ (exponent + longer) := by
      apply mul_le_mul_of_nonneg_left _ (Nat.cast_nonneg mantissa)
      apply zpow_le_zpow_right₀ one_le_two
      omega
    obtain ⟨bounded, signed⟩ := (lasts_mul_twoTo_iff negative mantissa exponent small).mp lasts
    apply (lasts_mul_twoTo_iff negative mantissa exponent (lt_of_le_of_lt less small)).mpr
    exact ⟨lt_of_le_of_lt smaller bounded, signed.imp_right smaller.trans⟩

end Binary64

end FleetLink.Number
