/-! Quotients of naturals rounded to the nearest natural, a half going to the even
neighbour. -/

namespace FleetLink.Number

def divHalfEven (num den : Nat) : Nat :=
  let quotient := num / den
  let rest := num % den
  if 2 * rest < den then quotient
  else if den < 2 * rest then quotient + 1
  else if quotient % 2 = 0 then quotient
  else quotient + 1

theorem divHalfEven_mul (n : Nat) {den : Nat} (positive : 0 < den) : divHalfEven (n * den) den = n := by
  simp [divHalfEven, Nat.mul_div_cancel _ positive, positive]

theorem le_divHalfEven (num den : Nat) : num / den ≤ divHalfEven num den := by
  simp only [divHalfEven]
  split
  · omega
  · split
    · omega
    · split <;> omega

theorem divHalfEven_le (num den : Nat) : divHalfEven num den ≤ num / den + 1 := by
  simp only [divHalfEven]
  split
  · omega
  · split
    · omega
    · split <;> omega

end FleetLink.Number
