import FleetLink.Proofs.BinaryRounding
import Mathlib.Algebra.Order.Floor.Semifield
import Mathlib.Data.Rat.Floor

/-! Rounding to a binary floating-point number keeps order, and keeps every number that has
few enough digits. What is rounded is a quotient; its sign takes no part. -/

namespace FleetLink.Number

/-- A factor of both parts of a quotient does not change what it is rounded to. -/
theorem divHalfEven_mul_left {factor : Nat} (positive : 0 < factor) (num den : Nat) :
    divHalfEven (factor * num) (factor * den) = divHalfEven num den := by
  have twice (n : Nat) : 2 * (factor * n) = factor * (2 * n) := by ring
  simp only [divHalfEven, Nat.mul_div_mul_left _ _ positive, Nat.mul_mod_mul_left, twice, Nat.mul_lt_mul_left positive]

namespace Binary64

/-- The value of a number without its sign. -/
def size : Binary64 → ℚ
  | .finite _ mantissa exponent => mantissa * 2 ^ exponent
  | _ => 0

theorem size_nonneg (x : Binary64) : 0 ≤ x.size := by
  cases x with
  | nan => exact le_refl 0
  | infinite => exact le_refl 0
  | finite negative mantissa exponent => exact mul_nonneg (Nat.cast_nonneg mantissa) (by positivity)

theorem size_carried {negative : Bool} {mantissa : Nat} {place : Int}
    (finite : (carried negative mantissa place).isFinite = true) :
    (carried negative mantissa place).size = mantissa * 2 ^ place := by
  unfold carried at finite ⊢
  split
  next full =>
    rw [if_pos full] at finite
    split
    next high =>
      rw [if_pos high] at finite
      cases finite
    next =>
      rw [size, full, cast_twoTo, cast_twoTo, zpow_add_one₀ two_ne_zero]
      ring
  next short =>
    rw [if_neg short] at finite
    split
    next high =>
      rw [if_pos high] at finite
      cases finite
    next => rfl

section
variable {num den : Nat} {negative : Bool}

/-- How many steps of its last place a quotient is rounded to. -/
def steps (num den : Nat) : Nat :=
  divHalfEven (num * twoTo (-lastPlace num den).toNat) (den * twoTo (lastPlace num den).toNat)

theorem steps_le_iff (positive : 0 < den) (num n : Nat) :
    steps num den ≤ n ↔ 2 * ((num : ℚ) / den) < (2 * n + 1) * 2 ^ lastPlace num den ∨
      (2 * ((num : ℚ) / den) = (2 * n + 1) * 2 ^ lastPlace num den ∧ n % 2 = 0) :=
  rounded_le_iff positive num n (lastPlace num den)

theorem size_ofRatio (some : 0 < num) (positive : 0 < den) (bounded : (num : ℚ) / den < overflow) :
    (ofRatio negative num den).size = steps num den * 2 ^ lastPlace num den := by
  have finite := (isFinite_ofRatio_iff negative num positive).mpr bounded
  rw [ofRatio_of_pos some] at finite ⊢
  exact size_carried finite

theorem pos_of_quotient_pos (above : (0 : ℚ) < num / den) : 0 < num := by
  rcases Nat.eq_zero_or_pos num with rfl | some
  · rw [Nat.cast_zero, zero_div] at above
    exact absurd above (lt_irrefl 0)
  · exact some

theorem floorLog2_eq {place : Int} (positive : 0 < den) (least : (2 : ℚ) ^ place ≤ num / den)
    (most : (num : ℚ) / den < 2 ^ (place + 1)) : floorLog2 num den = place := by
  have some : 0 < num := pos_of_quotient_pos (lt_of_lt_of_le (by positivity) least)
  obtain ⟨own, above⟩ := floorLog2_bounds some positive
  have up := (zpow_lt_zpow_iff_right₀ one_lt_two).mp (lt_of_le_of_lt own most)
  have down := (zpow_lt_zpow_iff_right₀ one_lt_two).mp (lt_of_le_of_lt least above)
  omega

/-- A quotient that keeps all the digits of a number comes to no less than the first of them says. -/
theorem least_steps (some : 0 < num) (positive : 0 < den) (deep : minExponent < lastPlace num den) :
    2 ^ 52 ≤ steps num den := by
  have least := (floorLog2_bounds some positive).1
  have place : floorLog2 num den = 52 + lastPlace num den := by
    unfold lastPlace at deep ⊢
    omega
  have step : (0 : ℚ) < 2 ^ lastPlace num den := by positivity
  rw [place, zpow_add₀ two_ne_zero] at least
  by_contra fewer
  have few : steps num den ≤ 2 ^ 52 - 1 := Nat.le_sub_one_of_lt (not_le.mp fewer)
  rw [steps_le_iff positive] at few
  norm_num at few least
  linarith

theorem lastPlace_mono {other unit : Nat} (some : 0 < num) (positive : 0 < den) (unitPositive : 0 < unit)
    (le : (num : ℚ) / den ≤ other / unit) : lastPlace num den ≤ lastPlace other unit := by
  have otherSome : 0 < other := pos_of_quotient_pos (lt_of_lt_of_le (by positivity) le)
  have least := (floorLog2_bounds some positive).1
  have most := (floorLog2_bounds otherSome unitPositive).2
  have less := (zpow_lt_zpow_iff_right₀ one_lt_two).mp (lt_of_le_of_lt (least.trans le) most)
  unfold lastPlace
  omega

theorem size_ofRatio_zero (negative : Bool) (den : Nat) : (ofRatio negative 0 den).size = 0 := by
  rw [ofRatio, if_pos rfl, size, Nat.cast_zero, zero_mul]

/-- Of two quotients the greater one is not rounded to less. -/
theorem size_ofRatio_mono {other unit : Nat} (positive : 0 < den) (unitPositive : 0 < unit)
    (le : (num : ℚ) / den ≤ other / unit) (bounded : (other : ℚ) / unit < overflow) (sign : Bool) :
    (ofRatio negative num den).size ≤ (ofRatio sign other unit).size := by
  rcases Nat.eq_zero_or_pos num with rfl | some
  · rw [size_ofRatio_zero]
    exact size_nonneg _
  have otherSome : 0 < other := pos_of_quotient_pos (lt_of_lt_of_le (by positivity) le)
  rw [size_ofRatio some positive (lt_of_le_of_lt le bounded), size_ofRatio otherSome unitPositive bounded]
  rcases eq_or_lt_of_le (lastPlace_mono some positive unitPositive le) with same | less
  · -- At one place the steps are compared.
    have own := (steps_le_iff unitPositive other (steps other unit)).mp (le_refl _)
    have fewer : steps num den ≤ steps other unit := by
      rw [steps_le_iff positive, same]
      rcases own with under | ⟨half, even⟩
      · exact .inl (lt_of_le_of_lt (by linarith) under)
      · rcases eq_or_lt_of_le le with equal | under
        · exact .inr ⟨by rw [equal, half], even⟩
        · exact .inl (by linarith)
    rw [same]
    exact mul_le_mul_of_nonneg_right (by exact_mod_cast fewer) (by positivity)
  · -- A further place begins where this one ends.
    have most : (steps num den : ℚ) ≤ 2 ^ 53 := by
      rw [← cast_twoTo]
      exact_mod_cast rounded_le some positive
    have deep : minExponent < lastPlace other unit := lt_of_le_of_lt (le_max_right _ _) less
    have least : (2 : ℚ) ^ 52 ≤ steps other unit := by exact_mod_cast least_steps otherSome unitPositive deep
    have further : (2 : ℚ) ^ lastPlace num den * 2 ≤ 2 ^ lastPlace other unit := by
      rw [← zpow_add_one₀ two_ne_zero]
      exact zpow_le_zpow_right₀ one_le_two less
    calc (steps num den : ℚ) * 2 ^ lastPlace num den
        ≤ 2 ^ 53 * 2 ^ lastPlace num den := mul_le_mul_of_nonneg_right most (by positivity)
      _ = 2 ^ 52 * (2 ^ lastPlace num den * 2) := by ring
      _ ≤ steps other unit * 2 ^ lastPlace other unit := mul_le_mul least further (by positivity) (by positivity)

theorem steps_of_whole {n : Nat} (positive : 0 < den) (whole : (num : ℚ) / den = n * 2 ^ lastPlace num den) :
    steps num den = n := by
  have up : (0 : ℚ) < twoTo (lastPlace num den).toNat := by exact_mod_cast twoTo_pos _
  have down : (0 : ℚ) < twoTo (-lastPlace num den).toNat := by exact_mod_cast twoTo_pos _
  have denominator : (0 : ℚ) < den := by exact_mod_cast positive
  have scaled : num * twoTo (-lastPlace num den).toNat = n * (den * twoTo (lastPlace num den).toNat) := by
    rw [← Nat.cast_inj (R := ℚ)]
    rw [← twoTo_div_twoTo] at whole
    push_cast
    field_simp at whole
    linarith
  rw [steps, scaled, divHalfEven_mul _ (Nat.mul_pos positive (twoTo_pos _))]

/-- A quotient of at most 53 digits is kept as it is. -/
theorem size_ofRatio_exact (positive : 0 < den) {mantissa : Nat} {exponent : Int}
    (value : (num : ℚ) / den = mantissa * 2 ^ exponent) (few : mantissa < 2 ^ 53) (deep : minExponent ≤ exponent)
    (bounded : (num : ℚ) / den < overflow) : (ofRatio negative num den).size = num / den := by
  rcases Nat.eq_zero_or_pos num with rfl | some
  · rw [size_ofRatio_zero, Nat.cast_zero, zero_div]
  have below : (num : ℚ) / den < 2 ^ (53 + exponent) := by
    rw [value, zpow_add₀ two_ne_zero]
    exact mul_lt_mul_of_pos_right (by exact_mod_cast few) (by positivity)
  have less := (zpow_lt_zpow_iff_right₀ one_lt_two).mp (lt_of_le_of_lt (floorLog2_bounds some positive).1 below)
  obtain ⟨spare, place⟩ : ∃ spare : Nat, exponent = spare + lastPlace num den := by
    refine ⟨(exponent - lastPlace num den).toNat, ?_⟩
    unfold lastPlace
    omega
  have whole : (num : ℚ) / den = (mantissa * 2 ^ spare : Nat) * 2 ^ lastPlace num den := by
    rw [value, place, zpow_add₀ two_ne_zero, zpow_natCast]
    push_cast
    ring
  rw [size_ofRatio some positive bounded, steps_of_whole positive whole, ← whole]

theorem size_ofRatio_unsigned (negative : Bool) (num den : Nat) : (ofRatio negative num den).size = (ofRatio false num den).size := by
  unfold ofRatio carried
  split
  · rfl
  · dsimp only
    split
    · split <;> rfl
    · split <;> rfl

/-- When a quotient comes to less than an even number of steps of its last place. -/
theorem size_ofRatio_lt_iff (some : 0 < num) (positive : 0 < den) (bounded : (num : ℚ) / den < overflow) {half : Nat}
    (above : 0 < half) : (ofRatio false num den).size < (2 * half : Nat) * 2 ^ lastPlace num den ↔
      2 * ((num : ℚ) / den) < (4 * half - 1) * 2 ^ lastPlace num den := by
  have step : (0 : ℚ) < 2 ^ lastPlace num den := by positivity
  have odd : ¬(2 * half - 1) % 2 = 0 := by omega
  have last : 2 * ((2 * half - 1 : Nat) : ℚ) + 1 = 4 * half - 1 := by
    rw [Nat.cast_sub (by omega)]
    push_cast
    ring
  rw [size_ofRatio some positive bounded, mul_lt_mul_iff_left₀ step, Nat.cast_lt, Nat.lt_iff_le_pred (by omega),
    steps_le_iff positive, last, or_iff_left (fun even => odd even.2)]

theorem isFinite_of_bounded (negative : Bool) (positive : 0 < den) (bounded : (num : ℚ) / den < overflow) : ∃ mantissa exponent,
    ofRatio negative num den = .finite negative mantissa exponent := by
  have finite := (isFinite_ofRatio_iff negative num positive).mpr bounded
  rcases ofRatio_cases negative num den with infinite | shape
  · rw [infinite] at finite
    cases finite
  · exact shape

end

/-- A number without its fraction is the whole part of its size with its sign. -/
theorem truncate?_finite (negative : Bool) (mantissa : Nat) (exponent : Int) :
    (Binary64.finite negative mantissa exponent).truncate? =
      some (if negative then -(⌊(Binary64.finite negative mantissa exponent).size⌋₊ : Int)
        else ⌊(Binary64.finite negative mantissa exponent).size⌋₊) := by
  have floor : ⌊(Binary64.finite negative mantissa exponent).size⌋₊ =
      mantissa * twoTo exponent.toNat / twoTo (-exponent).toNat := by
    rw [size, ← twoTo_div_twoTo, ← mul_div_assoc, ← Nat.cast_mul, Nat.floor_div_eq_div]
  rw [floor, truncate?, ratio?, Option.map_some]
  cases negative with
  | true => simp only [if_true, Int.neg_tdiv, Int.ofNat_tdiv]
  | false => simp only [Bool.false_eq_true, if_false, Int.ofNat_tdiv]

/-- A product is the product of the sizes, rounded. -/
theorem mul_finite (a b : Bool) (m n : Nat) (p q : Int) : ∃ num den, 0 < den ∧
    Binary64.finite a m p * Binary64.finite b n q = ofRatio (a != b) num den ∧
      (num : ℚ) / den = (Binary64.finite a m p).size * (Binary64.finite b n q).size := by
  refine ⟨m * n * twoTo (p + q).toNat, twoTo (-(p + q)).toNat, twoTo_pos _, rfl, ?_⟩
  rw [Nat.cast_mul, mul_div_assoc, twoTo_div_twoTo, Nat.cast_mul, size, size, zpow_add₀ two_ne_zero]
  ring

theorem lt_overflow {q : ℚ} (small : q ≤ 2 ^ (100 : Int)) : q < overflow := by
  have room : (2 : ℚ) ^ (100 : Int) ≤ 2 ^ (1023 : Int) := zpow_le_zpow_right₀ one_le_two (by decide)
  exact lt_of_le_of_lt (small.trans room) overflow_bounds.1

theorem quotient_lt_overflow {num den : Nat} (positive : 0 < den) (small : num ≤ 2 ^ 62) : (num : ℚ) / den < overflow := by
  have whole : (1 : ℚ) ≤ den := by exact_mod_cast positive
  have most : (num : ℚ) ≤ 2 ^ 62 := by exact_mod_cast small
  apply lt_overflow
  calc (num : ℚ) / den ≤ num := div_le_self (Nat.cast_nonneg num) whole
    _ ≤ 2 ^ 62 := most
    _ ≤ 2 ^ (100 : Int) := by norm_num

section
variable {num den halves : Nat}

theorem size_halves (few : halves < 2 ^ 53) : (ofRatio false halves 2).size = (halves : ℚ) / 2 := by
  have value : (halves : ℚ) / (2 : Nat) = halves * 2 ^ (-1 : Int) := by norm_num [div_eq_mul_inv]
  have bounded : (halves : ℚ) / (2 : Nat) < overflow := quotient_lt_overflow two_pos (few.le.trans (by decide))
  exact size_ofRatio_exact two_pos value few (by decide) bounded

/-- Halves that do not exceed a quotient do not exceed what it is rounded to. -/
theorem halves_le_size (positive : 0 < den) (le : (halves : ℚ) / 2 ≤ num / den) (few : halves < 2 ^ 53)
    (bounded : (num : ℚ) / den < overflow) : (halves : ℚ) / 2 ≤ (ofRatio false num den).size := by
  rw [← size_halves few]
  exact size_ofRatio_mono two_pos positive le bounded false

theorem size_le_halves (positive : 0 < den) (le : (num : ℚ) / den ≤ halves / 2) (few : halves < 2 ^ 53) :
    (ofRatio false num den).size ≤ (halves : ℚ) / 2 := by
  rw [← size_halves few]
  exact size_ofRatio_mono positive two_pos le (quotient_lt_overflow two_pos (few.le.trans (by decide))) false

end

/-- The last place of a quotient, from its size in parts of which a power of two make one. -/
theorem lastPlace_of_parts {num den : Nat} {parts : ℚ} (positive : 0 < den) (digits : Nat) {width : Nat}
    (counted : (num : ℚ) / den * 2 ^ width = parts) (least : 2 ^ digits ≤ parts) (most : parts < 2 ^ (digits + 1))
    (deep : width ≤ digits + 1000) : lastPlace num den = (digits : Int) - width - 52 := by
  have unit : (0 : ℚ) < 2 ^ width := by positivity
  have power (exponent : Nat) : (2 : ℚ) ^ ((exponent : Int) - width) * 2 ^ width = 2 ^ exponent := by
    rw [zpow_sub₀ two_ne_zero, zpow_natCast, zpow_natCast, div_mul_cancel₀ _ unit.ne']
  have lower : (2 : ℚ) ^ ((digits : Int) - width) ≤ num / den := by
    rwa [← mul_le_mul_iff_left₀ unit, power, counted]
  have upper : (num : ℚ) / den < 2 ^ ((digits : Int) - width + 1) := by
    rwa [show (digits : Int) - width + 1 = (digits + 1 : Nat) - width by push_cast; ring, ← mul_lt_mul_iff_left₀ unit, power,
      counted]
  rw [lastPlace, floorLog2_eq positive lower upper, minExponent]
  omega

/-- A quotient is rounded to less than a whole number when it is more than half a step below it. -/
theorem size_lt_iff {num den parts n : Nat} (positive : 0 < den) (bounded : (num : ℚ) / den < overflow) (digits : Nat)
    {width : Nat} (counted : (num : ℚ) / den * 2 ^ width = parts) (least : 2 ^ (52 + digits) ≤ parts)
    (most : parts < 2 ^ (52 + digits + 1)) (narrow : digits < width) (wide : width ≤ 1000) (some : 0 < n) :
    (ofRatio false num den).size < n ↔ 2 * parts + 2 ^ digits < 2 * (n * 2 ^ width) := by
  obtain ⟨spare, rfl⟩ : ∃ spare, width = spare + 1 + digits := ⟨width - digits - 1, by omega⟩
  have place : lastPlace num den = -((spare + 1 : Nat) : Int) := by
    rw [lastPlace_of_parts positive (52 + digits) counted (by exact_mod_cast least) (by exact_mod_cast most) (by omega)]
    push_cast
    ring
  have step : (2 : ℚ) ^ lastPlace num den * 2 ^ (spare + 1) = 1 := by
    rw [place, zpow_neg, zpow_natCast, inv_mul_cancel₀ (by positivity)]
  have unit : (0 : ℚ) < 2 ^ (spare + 1 + digits) := by positivity
  have numSome : 0 < num := by
    have partsSome : (0 : ℚ) < parts := by exact_mod_cast lt_of_lt_of_le (by positivity) least
    rw [← counted] at partsSome
    exact pos_of_quotient_pos ((mul_pos_iff_of_pos_right unit).mp partsSome)
  have whole : ((2 * (n * 2 ^ spare) : Nat) : ℚ) * 2 ^ lastPlace num den = n := by
    calc ((2 * (n * 2 ^ spare) : Nat) : ℚ) * 2 ^ lastPlace num den
        = n * (2 ^ lastPlace num den * 2 ^ (spare + 1)) := by push_cast; ring
      _ = n := by rw [step, mul_one]
  have below : (4 * ((n * 2 ^ spare : Nat) : ℚ) - 1) * 2 ^ lastPlace num den * 2 ^ (spare + 1 + digits) =
      2 * (n * 2 ^ (spare + 1 + digits)) - 2 ^ digits := by
    calc (4 * ((n * 2 ^ spare : Nat) : ℚ) - 1) * 2 ^ lastPlace num den * 2 ^ (spare + 1 + digits)
        = (4 * (n * 2 ^ spare) - 1) * 2 ^ digits * (2 ^ lastPlace num den * 2 ^ (spare + 1)) := by push_cast; ring
      _ = 2 * (n * 2 ^ (spare + 1 + digits)) - 2 ^ digits := by rw [step]; ring
  have half := size_ofRatio_lt_iff numSome positive bounded (show 0 < n * 2 ^ spare by positivity)
  rw [whole] at half
  rw [half, ← mul_lt_mul_iff_left₀ unit, mul_assoc 2, counted, below, lt_sub_iff_add_lt, ← Nat.cast_lt (α := ℚ)]
  push_cast
  exact Iff.rfl

end Binary64

end FleetLink.Number
