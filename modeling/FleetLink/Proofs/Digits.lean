import Mathlib.Data.List.Basic
import FleetLink.Number.DecimalText
import FleetLink.Time.IsoText

/-! Numbers written with decimal digits. The digits of a number read back as the number,
and so does a field of fixed width that is wide enough for it. -/

namespace FleetLink.Number

theorem natOfDigits_eq (digits : List Char) : natOfDigits digits = Nat.ofDigitChars 10 digits 0 := rfl

theorem natOfDigits_toDigits (n : Nat) : natOfDigits (Nat.toDigits 10 n) = n := by
  rw [natOfDigits_eq, Nat.ofDigitChars_ten_toDigits]

theorem ne_of_isDigit {c mark : Char} (digit : c.isDigit = true) (apart : mark.isDigit = false) : c ≠ mark := by
  rintro rfl
  simp [digit] at apart

theorem isDigit_of_mem_toDigits {n : Nat} {c : Char} (member : c ∈ Nat.toDigits 10 n) : c.isDigit = true :=
  Nat.isDigit_of_mem_toDigits (by decide) (by decide) member

theorem head_toDigits {n : Nat} (positive : 0 < n) : (Nat.toDigits 10 n).head? ≠ some '0' := by
  induction n using Nat.strongRecOn with
  | ind n ih =>
    by_cases small : n < 10
    · rw [Nat.toDigits_of_lt_base small]
      have digit : ∀ n < 10, 0 < n → n.digitChar ≠ '0' := by decide
      simpa using digit n small positive
    · rw [Nat.toDigits_of_base_le (by decide) (Nat.le_of_not_lt small), List.head?_append_of_ne_nil _ Nat.toDigits_ne_nil]
      exact ih (n / 10) (by omega) (by omega)

end FleetLink.Number

namespace FleetLink.Time
open Number

theorem isDigit_of_mem_paddedChars {width n : Nat} {c : Char} (member : c ∈ paddedChars width n) : c.isDigit = true := by
  rcases List.mem_append.mp member with zero | digit
  · rw [(List.mem_replicate.mp zero).2]
    rfl
  · exact isDigit_of_mem_toDigits digit

theorem natOfDigits_paddedChars (width n : Nat) : natOfDigits (paddedChars width n) = n := by
  simp only [natOfDigits_eq, paddedChars, Nat.ofDigitChars_append, Nat.ofDigitChars_replicate_zero, Nat.mul_zero,
    Nat.ofDigitChars_ten_toDigits]

theorem paddedChars_length (width : Nat) {n : Nat} (positive : 0 < width) (small : n < tenTo width) :
    (paddedChars width n).length = width := by
  have short : (Nat.toDigits 10 n).length ≤ width := (Nat.length_toDigits_le_iff (by decide) positive).mpr small
  simp only [paddedChars, List.length_append, List.length_replicate]
  omega

theorem digits?_append {count : Nat} {digits : List Char} (long : digits.length = count)
    (all : ∀ c ∈ digits, c.isDigit = true) (rest : List Char) :
    digits? count (digits ++ rest) = some (natOfDigits digits, rest) := by
  have taken : (digits ++ rest).take count = digits := long ▸ List.take_left
  have dropped : (digits ++ rest).drop count = rest := long ▸ List.drop_left
  have read : (digits.length = count && digits.all Char.isDigit) = true := by
    simp only [Bool.and_eq_true, decide_eq_true_eq]
    exact ⟨long, List.all_eq_true.mpr all⟩
  rw [digits?, taken, dropped, if_pos read]
  rfl

theorem digits?_paddedChars (width : Nat) {n : Nat} (positive : 0 < width) (small : n < tenTo width) (rest : List Char) :
    digits? width (paddedChars width n ++ rest) = some (n, rest) := by
  rw [digits?_append (paddedChars_length width positive small) (fun _ => isDigit_of_mem_paddedChars), natOfDigits_paddedChars]

end FleetLink.Time
