import FleetLink.Proofs.Calendar
import FleetLink.Proofs.Moment

/-! Moments from whole seconds. Seconds that count a moment of the calendar pass the
bounds of the clock, so they give that moment. -/

namespace FleetLink.Time
open Number

theorem yearOfDay_of_cycle {number : Nat} (inside : number < 146097) : (yearOfDay number).1 ≤ 400 := by
  obtain ⟨cycle, century, group, year, past, few, groups, years, _, _, counted, same⟩ := yearOfDay_parts number
  have first : cycle = 0 := by omega
  rw [same]
  simp only [first]
  omega

section
variable {seconds : Int}

theorem fitsSeconds_of_near (least : -100000000000 ≤ seconds) (most : seconds ≤ 1000000000000) :
    fitsSeconds seconds = true := by
  have limit : ((twoTo 63 : Nat) : Int) = 9223372036854775808 := rfl
  simp only [fitsSeconds, limit, Bool.and_eq_true, decide_eq_true_eq]
  omega

theorem clockYear?_of_near (least : -100000000000 ≤ seconds) (most : seconds ≤ 1000000000000) :
    ∃ year, clockYear? seconds = some year := by
  have limit : ((twoTo 31 : Nat) : Int) = 2147483648 := rfl
  have cycles := Int.fmod_nonneg_of_pos (seconds.fdiv 86400 + 719162) (show (0 : Int) < 146097 by decide)
  have inCycle := Int.fmod_lt_of_pos (seconds.fdiv 86400 + 719162) (show (0 : Int) < 146097 by decide)
  have year := yearOfDay_of_cycle (show ((seconds.fdiv 86400 + 719162).fmod 146097).toNat < 146097 by omega)
  have near : -2147483648 ≤ yearOfSeconds seconds - 1900 ∧ yearOfSeconds seconds - 1900 < 2147483648 := by
    simp only [yearOfSeconds, Int.fdiv_eq_ediv_of_nonneg _ (show (0 : Int) ≤ 86400 by decide),
      Int.fdiv_eq_ediv_of_nonneg _ (show (0 : Int) ≤ 146097 by decide)] at *
    omega
  simp only [clockYear?, limit]
  rw [if_pos (by simpa using near)]
  exact ⟨_, rfl⟩

theorem ofEpoch_eq_ok_iff {micro : Nat} {moment : Moment} (small : micro < secondMicros) :
    ofEpoch seconds micro = .ok moment ↔
      Moment.ofWall? (seconds * secondMicros + micro + epochMicros) (some 0) = some moment := by
  refine ⟨ofWall?_of_ofEpoch, ?_⟩
  intro made
  have counted := (ofWall?_eq_some_iff.mp made).1
  have inside := moment.wall_lt
  have near : -100000000000 ≤ seconds ∧ seconds ≤ 1000000000000 := by
    simp only [secondMicros, epochMicros, dayMicros, wallLimit, dayCount] at *
    omega
  obtain ⟨year, known⟩ := clockYear?_of_near near.1 near.2
  have fits : (!fitsSeconds seconds) = false := by
    rw [fitsSeconds_of_near near.1 near.2]
    rfl
  unfold ofEpoch
  rw [fits]
  simp only [Bool.false_eq_true, if_false, known, made]

end

end FleetLink.Time
