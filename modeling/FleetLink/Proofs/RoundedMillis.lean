import FleetLink.Proofs.BinaryOrder
import FleetLink.Time.Epoch

/-! Microseconds as milliseconds through two roundings: to seconds as a number, and to the
thousandfold of it. More microseconds never come to fewer milliseconds, and whole seconds keep
their value. Whole milliseconds are at most cut by one, and it is told of which ones. -/

namespace FleetLink.Time
open Number Binary64

theorem ofInt_thousand : ofInt 1000 = .finite false (1000 * twoTo 43) (-43) := by decide +kernel

theorem size_thousand : (Binary64.finite false (1000 * twoTo 43) (-43)).size = 1000 := by
  rw [size, Nat.cast_mul, cast_twoTo, ← zpow_natCast, mul_assoc, ← zpow_add₀ two_ne_zero]
  norm_num

/-- The seconds that so many microseconds are rounded to. -/
def roundedSeconds (micros : Nat) : ℚ := (ofRatio false micros secondMicros).size

/-- The milliseconds that these seconds are rounded to, with the fraction that is still to be dropped. -/
def roundedMillis (micros : Nat) : ℚ := (ofRatio false micros secondMicros * ofInt 1000).size

section
variable {micros : Nat} (small : micros ≤ 2 ^ 62)
include small

theorem roundedSeconds_le : roundedSeconds micros ≤ 2 ^ 62 := by
  have whole : ((2 ^ 62 : Nat) : ℚ) / (1 : Nat) = (1 : Nat) * 2 ^ (62 : Int) := by norm_num
  have bounded : ((2 ^ 62 : Nat) : ℚ) / (1 : Nat) < overflow := quotient_lt_overflow one_pos (le_refl _)
  have value : (micros : ℚ) / secondMicros ≤ (2 ^ 62 : Nat) / (1 : Nat) := by
    rw [Nat.cast_one, div_one]
    exact (div_le_self (Nat.cast_nonneg micros) (by exact_mod_cast (by decide : 1 ≤ secondMicros))).trans (by exact_mod_cast small)
  calc roundedSeconds micros ≤ (ofRatio false (2 ^ 62) 1).size := size_ofRatio_mono (by decide) one_pos value bounded false
    _ = (2 ^ 62 : Nat) / (1 : Nat) := size_ofRatio_exact one_pos whole (by decide) (by decide) bounded
    _ = 2 ^ 62 := by norm_num

/-- The thousandfold of the rounded seconds is itself a quotient that is rounded. -/
theorem thousandfold (negative : Bool) : ∃ num den : Nat, 0 < den ∧ (num : ℚ) / den = 1000 * roundedSeconds micros ∧
    (num : ℚ) / den < overflow ∧ ofRatio negative micros secondMicros * ofInt 1000 = ofRatio negative num den := by
  have inside := quotient_lt_overflow (show 0 < secondMicros by decide) small
  obtain ⟨mantissa, exponent, finite⟩ := isFinite_of_bounded negative (by decide) inside
  obtain ⟨num, den, positive, product, value⟩ := mul_finite negative false mantissa (1000 * twoTo 43) exponent (-43)
  have size : (Binary64.finite negative mantissa exponent).size = roundedSeconds micros := by
    rw [← finite, size_ofRatio_unsigned, roundedSeconds]
  rw [size, size_thousand, mul_comm] at value
  refine ⟨num, den, positive, value, ?_, ?_⟩
  · have most : 1000 * roundedSeconds micros ≤ 1000 * 2 ^ 62 := mul_le_mul_of_nonneg_left (roundedSeconds_le small) (by norm_num)
    rw [value]
    exact lt_overflow (most.trans (by norm_num))
  · rw [finite, ofInt_thousand, product, Bool.bne_false]

/-- Dropping the fraction of the product leaves the whole part of its size, with its sign. -/
theorem truncate?_roundedMillis (negative : Bool) : (ofRatio negative micros secondMicros * ofInt 1000).truncate? =
    some (if negative then -(⌊roundedMillis micros⌋₊ : Int) else ⌊roundedMillis micros⌋₊) := by
  obtain ⟨num, den, positive, value, bounded, product⟩ := thousandfold small negative
  obtain ⟨other, unit, unitPositive, same, otherBounded, own⟩ := thousandfold small false
  obtain ⟨mantissa, exponent, finite⟩ := isFinite_of_bounded negative positive bounded
  have size : (ofRatio negative num den).size = roundedMillis micros := by
    have equal : (num : ℚ) / den = other / unit := value.trans same.symm
    rw [roundedMillis, own]
    exact le_antisymm (size_ofRatio_mono positive unitPositive equal.le otherBounded false)
      (size_ofRatio_mono unitPositive positive equal.ge bounded negative)
  rw [product, finite, truncate?_finite, ← finite, size]

end

theorem roundedMillis_mono {fewer more : Nat} (le : fewer ≤ more) (small : more ≤ 2 ^ 62) : roundedMillis fewer ≤ roundedMillis more := by
  obtain ⟨num, den, positive, value, _, product⟩ := thousandfold (le.trans small) false
  obtain ⟨other, unit, unitPositive, otherValue, bounded, otherProduct⟩ := thousandfold small false
  have quotient : (fewer : ℚ) / secondMicros ≤ more / secondMicros :=
    div_le_div_of_nonneg_right (by exact_mod_cast le) (Nat.cast_nonneg _)
  have order : roundedSeconds fewer ≤ roundedSeconds more :=
    size_ofRatio_mono (by decide) (by decide) quotient (quotient_lt_overflow (by decide) small) false
  rw [roundedMillis, roundedMillis, product, otherProduct]
  apply size_ofRatio_mono positive unitPositive _ bounded
  rw [value, otherValue]
  exact mul_le_mul_of_nonneg_left order (by norm_num)

/-- Whole seconds keep their value in both roundings. -/
theorem roundedMillis_seconds {seconds : Nat} (small : seconds ≤ 2 ^ 42) : roundedMillis (seconds * secondMicros) = 1000 * seconds := by
  have unit : (secondMicros : ℚ) ≠ 0 := by exact_mod_cast (by decide : secondMicros ≠ 0)
  have inside : seconds * secondMicros ≤ 2 ^ 62 := (Nat.mul_le_mul_right secondMicros small).trans (by decide)
  have quotient : ((seconds * secondMicros : Nat) : ℚ) / secondMicros = seconds := by
    rw [Nat.cast_mul, mul_div_cancel_right₀ _ unit]
  have kept : roundedSeconds (seconds * secondMicros) = seconds := by
    have value : ((seconds * secondMicros : Nat) : ℚ) / secondMicros = seconds * 2 ^ (0 : Int) := by
      rw [quotient, zpow_zero, mul_one]
    rw [roundedSeconds, size_ofRatio_exact (by decide) value (by omega) (by decide) (quotient_lt_overflow (by decide) inside), quotient]
  obtain ⟨num, den, positive, value, bounded, product⟩ := thousandfold inside false
  rw [kept] at value
  have whole : (num : ℚ) / den = (1000 * seconds : Nat) * 2 ^ (0 : Int) := by
    rw [value, zpow_zero, mul_one, Nat.cast_mul, Nat.cast_ofNat]
  rw [roundedMillis, product, size_ofRatio_exact positive whole (by omega) (by decide) bounded, value]

theorem divHalfEven_thousandth (n : Nat) : 125 * divHalfEven n 125 + n % 125 = n ∧ n % 125 ≤ 62 ∨
    125 * divHalfEven n 125 + n % 125 = n + 125 ∧ 63 ≤ n % 125 := by
  rcases Nat.lt_or_ge (2 * (n % 125)) 125 with under | above
  · have down : divHalfEven n 125 = n / 125 := if_pos under
    omega
  · have up : divHalfEven n 125 = n / 125 + 1 := (if_neg (by omega)).trans (if_pos (by omega))
    omega

/-- So many binary places bring the milliseconds into one range. Of the last of these places,
125 make one step in the last place that their seconds keep. -/
structure Fills (millis width : Nat) : Prop where
  least : 1000 * 2 ^ 49 ≤ millis * 2 ^ width
  most : millis * 2 ^ width < 2000 * 2 ^ 49
  narrow : 11 ≤ width
  wide : width ≤ 59

theorem exists_fills {millis : Nat} (some : 0 < millis) (small : millis < 2 ^ 48) : ∃ width, Fills millis width := by
  have log : millis.log2 < 48 := (Nat.log2_lt (Nat.ne_of_gt some)).mpr small
  obtain ⟨width, whole⟩ : ∃ width, 58 = millis.log2 + width := ⟨58 - millis.log2, by omega⟩
  have least : 2 ^ 58 ≤ millis * 2 ^ width := by
    rw [whole, Nat.pow_add]
    exact Nat.mul_le_mul_right _ (Nat.log2_self_le (Nat.ne_of_gt some))
  have most : millis * 2 ^ width < 2 ^ 59 := by
    rw [show 59 = millis.log2 + 1 + width by omega, Nat.pow_add _ (millis.log2 + 1)]
    exact Nat.mul_lt_mul_of_pos_right Nat.lt_log2_self (by positivity)
  rcases Nat.lt_or_ge (millis * 2 ^ width) (1000 * 2 ^ 49) with short | long
  · have twice : millis * 2 ^ (width + 1) = 2 * (millis * 2 ^ width) := by ring
    exact ⟨width + 1, by omega, by omega, by omega, by omega⟩
  · exact ⟨width, long, by omega, by omega, by omega⟩

namespace Fills
variable {millis width : Nat} (fills : Fills millis width)
include fills

theorem pos : 0 < millis := by
  have least := fills.least
  exact Nat.pos_of_ne_zero (by rintro rfl; omega)

theorem small : millis < 2 ^ 49 := by
  have most := fills.most
  have wider : millis * 2 ^ 11 ≤ millis * 2 ^ width := Nat.mul_le_mul_left millis (Nat.pow_le_pow_right two_pos fills.narrow)
  omega

/-- The seconds of the milliseconds, counted in steps of their last place. -/
theorem roundedSeconds_eq : roundedSeconds (1000 * millis) * 2 ^ (width + 3) = divHalfEven (millis * 2 ^ width) 125 := by
  have some := fills.pos
  have small := fills.small
  have wide := fills.wide
  have lower : (1000 * 2 ^ 49 : ℚ) ≤ millis * 2 ^ width := by exact_mod_cast fills.least
  have upper : (millis * 2 ^ width : ℚ) < 2000 * 2 ^ 49 := by exact_mod_cast fills.most
  have quotient : ((1000 * millis : Nat) : ℚ) / secondMicros * 2 ^ width = millis * 2 ^ width / 1000 := by
    rw [secondMicros]
    push_cast
    ring
  have place : lastPlace (1000 * millis) secondMicros = -((width + 3 : Nat) : Int) := by
    rw [lastPlace_of_parts (by decide) 49 quotient (by linarith) (by linarith) (by omega)]
    push_cast
    ring
  have counted : steps (1000 * millis) secondMicros = divHalfEven (millis * 2 ^ width) 125 := by
    have num : 1000 * millis * 2 ^ (width + 3) = 8000 * (millis * 2 ^ width) := by ring
    rw [steps, place, Int.neg_neg, Int.toNat_natCast, Int.toNat_neg_natCast, twoTo, twoTo, Nat.pow_eq, Nat.pow_eq, num]
    exact divHalfEven_mul_left (by decide) (millis * 2 ^ width) 125
  rw [roundedSeconds, size_ofRatio (by omega) (by decide) (quotient_lt_overflow (by decide) (by omega)), counted, place, zpow_neg,
    zpow_natCast, inv_mul_cancel_right₀ (by positivity)]

theorem thousandfold_eq : ∃ num den : Nat, 0 < den ∧ (num : ℚ) / den < overflow ∧
    (num : ℚ) / den * 2 ^ width = (125 * divHalfEven (millis * 2 ^ width) 125 : Nat) ∧
      roundedMillis (1000 * millis) = (ofRatio false num den).size := by
  have small := fills.small
  obtain ⟨num, den, positive, value, bounded, product⟩ := thousandfold (show 1000 * millis ≤ 2 ^ 62 by omega) false
  refine ⟨num, den, positive, bounded, ?_, by rw [roundedMillis, product]⟩
  rw [value, Nat.cast_mul, ← fills.roundedSeconds_eq]
  push_cast
  ring

/-- Seconds that are rounded down lose the milliseconds when more than half a step is missing in
their thousandfold. Above a power of two such a step is twice as long as below it. -/
theorem roundedMillis_lt_iff : roundedMillis (1000 * millis) < millis ↔
    millis * 2 ^ width ≤ 2 ^ 59 ∧ 33 ≤ millis * 2 ^ width % 125 ∧ millis * 2 ^ width % 125 ≤ 62 := by
  obtain ⟨num, den, positive, bounded, counted, product⟩ := fills.thousandfold_eq
  obtain ⟨least, most, narrow, wide⟩ := id fills
  have small := fills.small
  have unit : (0 : ℚ) < 2 ^ width := by positivity
  rw [product]
  rcases divHalfEven_thousandth (millis * 2 ^ width) with ⟨down, under⟩ | ⟨up, half⟩
  · rcases Nat.lt_or_ge (2 ^ 59) (millis * 2 ^ width) with large | within
    · -- The milliseconds are whole, so that they stand far enough above the power of two.
      have apart : 2 ^ 59 + 2 ^ 11 ≤ millis * 2 ^ width := by
        obtain ⟨spare, whole⟩ : ∃ spare, 59 = spare + width := ⟨59 - width, by omega⟩
        rw [whole, Nat.pow_add] at large ⊢
        have further : (2 ^ spare + 1) * 2 ^ width ≤ millis * 2 ^ width :=
          Nat.mul_le_mul_right _ (Nat.lt_of_mul_lt_mul_right large)
        have wider : 2 ^ 11 ≤ 2 ^ width := Nat.pow_le_pow_right two_pos narrow
        rw [Nat.add_mul, Nat.one_mul] at further
        omega
      rw [size_lt_iff positive bounded 7 counted (by omega) (by omega) (by omega) (by omega) fills.pos]
      omega
    · rw [size_lt_iff positive bounded 6 counted (by omega) (by omega) (by omega) (by omega) fills.pos]
      omega
  · refine iff_of_false (not_lt.mpr ?_) (by omega)
    have above : (millis : ℚ) ≤ num / den := by
      rw [← mul_le_mul_iff_left₀ unit, counted]
      exact_mod_cast (by omega : millis * 2 ^ width ≤ 125 * divHalfEven (millis * 2 ^ width) 125)
    have twice : ((2 * millis : Nat) : ℚ) / 2 ≤ num / den := by
      push_cast
      linarith
    have kept := halves_le_size positive twice (by omega) bounded
    push_cast at kept
    linarith

/-- The result is no more than half a millisecond away. -/
theorem roundedMillis_near : (millis : ℚ) - 1 / 2 ≤ roundedMillis (1000 * millis) ∧ roundedMillis (1000 * millis) ≤ millis + 1 / 2 := by
  obtain ⟨num, den, positive, bounded, counted, product⟩ := fills.thousandfold_eq
  have some := fills.pos
  have small := fills.small
  have wider : (2 : ℚ) ^ 11 ≤ 2 ^ width := pow_le_pow_right₀ one_le_two fills.narrow
  have unit : (0 : ℚ) < 2 ^ width := by positivity
  have near : millis * 2 ^ width ≤ 125 * divHalfEven (millis * 2 ^ width) 125 + 62 ∧
      125 * divHalfEven (millis * 2 ^ width) 125 ≤ millis * 2 ^ width + 62 := by
    have few := Nat.mod_lt (millis * 2 ^ width) (show 125 > 0 by decide)
    rcases divHalfEven_thousandth (millis * 2 ^ width) with down | up <;> omega
  have least : (millis * 2 ^ width : ℚ) ≤ (125 * divHalfEven (millis * 2 ^ width) 125 : Nat) + 62 := by exact_mod_cast near.1
  have most : ((125 * divHalfEven (millis * 2 ^ width) 125 : Nat) : ℚ) ≤ millis * 2 ^ width + 62 := by exact_mod_cast near.2
  rw [product]
  constructor
  · have above : ((2 * millis - 1 : Nat) : ℚ) / 2 ≤ num / den := by
      rw [Nat.cast_sub (by omega), ← mul_le_mul_iff_left₀ unit, counted]
      push_cast at *
      linarith
    have kept := halves_le_size positive above (by omega) bounded
    rw [Nat.cast_sub (by omega)] at kept
    push_cast at kept
    linarith
  · have below : (num : ℚ) / den ≤ ((2 * millis + 1 : Nat) : ℚ) / 2 := by
      rw [← mul_le_mul_iff_left₀ unit, counted]
      push_cast at *
      linarith
    have kept := size_le_halves positive below (by omega)
    push_cast at kept
    linarith

end Fills

/-- The milliseconds that lose one. Their seconds exceed a power of two by 24 thousandths of it at
most, and are rounded down by at least 33 of the 125 parts of a step in their last place. -/
def CutShort (millis : Nat) : Prop := ∃ power, 1000 * 2 ^ power ≤ millis ∧ millis ≤ 1024 * 2 ^ power ∧
  33 ≤ millis * 2 ^ (49 - power) % 125 ∧ millis * 2 ^ (49 - power) % 125 ≤ 62

/-- Milliseconds of less than a second leave a remainder that is rounded up, or none. -/
theorem remainder_of_wide {millis width : Nat} (least : 1000 * 2 ^ 49 ≤ millis * 2 ^ width) (below : millis * 2 ^ width ≤ 2 ^ 59)
    (wide : 50 ≤ width) : ¬(33 ≤ millis * 2 ^ width % 125 ∧ millis * 2 ^ width % 125 ≤ 62) := by
  obtain ⟨spare, rfl⟩ : ∃ spare, width = spare + 50 := ⟨width - 50, by omega⟩
  rw [Nat.pow_add, ← Nat.mul_assoc] at *
  generalize millis * 2 ^ spare = parts at *
  have few : 500 ≤ parts ∧ parts ≤ 512 := by omega
  have split : parts * 2 ^ 50 = 125 * (9007199254741 * parts - 5) + (625 - parts) := by omega
  rw [split, Nat.mul_add_mod]
  omega

theorem pos_of_roundedMillis_lt {millis : Nat} (less : roundedMillis (1000 * millis) < millis) : 0 < millis := by
  have some := lt_of_le_of_lt (size_nonneg _) less
  exact_mod_cast some

theorem CutShort.pos {millis : Nat} (cut : CutShort millis) : 0 < millis := by
  obtain ⟨power, least, _⟩ := cut
  exact Nat.lt_of_lt_of_le (by positivity) least

section
variable {millis : Nat} (small : millis < 2 ^ 48)
include small

theorem roundedMillis_lt_of_cutShort (cut : CutShort millis) : roundedMillis (1000 * millis) < millis := by
  obtain ⟨power, least, most, past, under⟩ := cut
  have few : power < 39 := by
    by_contra many
    have := Nat.pow_le_pow_right two_pos (not_lt.mp many)
    omega
  have whole : 2 ^ 49 = 2 ^ power * 2 ^ (49 - power) := by rw [← Nat.pow_add, Nat.add_sub_cancel' (by omega)]
  have lower := Nat.mul_le_mul_right (2 ^ (49 - power)) least
  have upper := Nat.mul_le_mul_right (2 ^ (49 - power)) most
  rw [Nat.mul_assoc, ← whole] at lower upper
  have fills : Fills millis (49 - power) := ⟨lower, by omega, by omega, by omega⟩
  exact fills.roundedMillis_lt_iff.mpr ⟨by omega, past, under⟩

theorem cutShort_of_roundedMillis_lt (less : roundedMillis (1000 * millis) < millis) : CutShort millis := by
  obtain ⟨width, fills⟩ := exists_fills (pos_of_roundedMillis_lt less) small
  obtain ⟨below, past, under⟩ := fills.roundedMillis_lt_iff.mp less
  have least := fills.least
  have unit : 0 < 2 ^ width := by positivity
  have within : width ≤ 49 := by
    by_contra above
    exact remainder_of_wide least below (not_le.mp above) ⟨past, under⟩
  have whole : 2 ^ 49 = 2 ^ (49 - width) * 2 ^ width := by rw [← Nat.pow_add, Nat.sub_add_cancel within]
  refine ⟨49 - width, ?_, ?_, ?_, ?_⟩
  · rw [whole, ← Nat.mul_assoc] at least
    exact Nat.le_of_mul_le_mul_right least unit
  · rw [show 2 ^ 59 = 1024 * 2 ^ 49 from rfl, whole, ← Nat.mul_assoc] at below
    exact Nat.le_of_mul_le_mul_right below unit
  · rwa [Nat.sub_sub_self within]
  · rwa [Nat.sub_sub_self within]

theorem floor_of_cutShort (cut : CutShort millis) : ⌊roundedMillis (1000 * millis)⌋₊ = millis - 1 := by
  have less := roundedMillis_lt_of_cutShort small cut
  have some := cut.pos
  obtain ⟨width, fills⟩ := exists_fills some small
  have near := fills.roundedMillis_near.1
  rw [Nat.floor_eq_iff (show 0 ≤ roundedMillis _ from size_nonneg _), Nat.cast_sub some]
  constructor
  · push_cast
    linarith
  · push_cast
    linarith

theorem floor_of_not_cutShort (kept : ¬CutShort millis) : ⌊roundedMillis (1000 * millis)⌋₊ = millis := by
  rcases Nat.eq_zero_or_pos millis with rfl | some
  · have none := roundedMillis_seconds (show 0 ≤ 2 ^ 42 by decide)
    rw [Nat.zero_mul, Nat.cast_zero, mul_zero] at none
    rw [Nat.mul_zero, none, Nat.floor_zero]
  · obtain ⟨width, fills⟩ := exists_fills some small
    have near := fills.roundedMillis_near.2
    rw [Nat.floor_eq_iff (show 0 ≤ roundedMillis _ from size_nonneg _)]
    exact ⟨not_lt.mp (mt (cutShort_of_roundedMillis_lt small) kept), by linarith⟩

end

end FleetLink.Time
