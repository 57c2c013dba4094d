import FleetLink.Text.Case

/-! What letter case leaves of a text. Most capitals of the basic alphabet come from nothing
but themselves and their small letter, and in lower case the two are the same. -/

namespace FleetLink.Text

/-- The codes of the capitals that no character outside the basic alphabet leads to.
Dotless i, long s and ligatures lead to the others. -/
def isPlainCapital (code : Nat) : Bool :=
  0x41 ≤ code && code ≤ 0x5A && !([0x46, 0x49, 0x53].contains code)

theorem isPlainCapital_of_large {code : Nat} (large : 128 ≤ code) : isPlainCapital code = false := by
  have past : ¬code ≤ 0x5A := by omega
  simp [isPlainCapital, past]

theorem toNat_ofNat_or_zero (n : Nat) : (Char.ofNat n).toNat = n ∨ (Char.ofNat n).toNat = 0 := by
  unfold Char.ofNat
  by_cases valid : n.isValidChar
  · rw [dif_pos valid]
    exact .inl rfl
  · rw [dif_neg valid]
    exact .inr rfl

theorem isPlainCapital_ofNat {n : Nat} (other : isPlainCapital n = false) :
    isPlainCapital (Char.ofNat n).toNat = false := by
  rcases toNat_ofNat_or_zero n with same | zero
  · rwa [same]
  · rw [zero]
    rfl

theorem upperRuns_leave : (upperRuns.all fun run =>
    run.last < 128 || 128 ≤ run.first + run.shift ||
      (run.first == run.last && !isPlainCapital (run.first + run.shift).toNat)) = true := by
  decide

theorem longUpper_leave : (longUpper.all fun entry => entry.2.any fun code => !isPlainCapital code) = true := by
  decide

theorem shifted_foreign {c : Char} (foreign : 128 ≤ c.toNat) : isPlainCapital (shifted upperRuns c).toNat = false := by
  unfold shifted
  split
  next run found =>
    apply isPlainCapital_ofNat
    have listed := List.all_eq_true.mp upperRuns_leave run (List.mem_of_find?_eq_some found)
    have covered := List.find?_some found
    simp only [CaseRun.covers, Bool.and_eq_true, decide_eq_true_eq] at covered
    simp only [Bool.or_eq_true, Bool.and_eq_true, decide_eq_true_eq, beq_iff_eq, Bool.not_eq_true'] at listed
    rcases listed with (small | large) | ⟨single, other⟩
    · omega
    · exact isPlainCapital_of_large (by omega)
    · have same : c.toNat = run.first := by omega
      rwa [same]
  next => exact isPlainCapital_of_large foreign

theorem upperChar_foreign {c : Char} (foreign : 128 ≤ c.toNat) :
    ∃ x ∈ upperChar c, isPlainCapital x.toNat = false := by
  unfold upperChar
  rw [if_neg (by omega)]
  split
  next codes found =>
    obtain ⟨before, after, split, _⟩ := List.lookup_eq_some_iff.mp found
    have listed := List.all_eq_true.mp longUpper_leave (c.toNat, codes) (by simp [split])
    obtain ⟨code, member, other⟩ := List.any_eq_true.mp listed
    refine ⟨Char.ofNat code, List.mem_map_of_mem member, isPlainCapital_ofNat ?_⟩
    simpa using other
  next => exact ⟨_, List.mem_singleton_self _, shifted_foreign foreign⟩

theorem toUpper_foreign {c : Char} (foreign : 128 ≤ c.toNat) : c.toUpper = c := by
  unfold Char.toUpper
  apply dif_neg
  rintro ⟨_, small⟩
  have bound : c.toNat ≤ 'z'.toNat := UInt32.le_iff_toNat_le.mp small
  have last : 'z'.toNat = 122 := rfl
  omega

theorem flatMap_upperChar_eq_iff {chars target : List Char} (plain : ∀ c ∈ target, isPlainCapital c.toNat = true) :
    chars.flatMap upperChar = target ↔ chars.map Char.toUpper = target := by
  induction chars generalizing target with
  | nil => simp
  | cons c rest ih =>
    by_cases foreign : 128 ≤ c.toNat
    · obtain ⟨x, member, other⟩ := upperChar_foreign foreign
      apply iff_of_false
      · rintro rfl
        have capital := plain x (by simp [member])
        simp [other] at capital
      · rintro rfl
        have capital := plain c (by simp [toUpper_foreign foreign])
        simp [isPlainCapital_of_large foreign] at capital
    · have upper : upperChar c = [c.toUpper] := by simp [upperChar, Nat.lt_of_not_le foreign]
      simp only [List.flatMap_cons, upper, List.map_cons, List.singleton_append]
      cases target with
      | nil => simp
      | cons first target =>
        have others := @ih target fun c member => plain c (List.mem_cons_of_mem first member)
        simp only [List.cons.injEq, others]

/-- A text becomes this one in capitals only by the letter case of its own letters. -/
theorem upper_eq_iff {text target : String}
    (plain : (target.toList.all fun c => isPlainCapital c.toNat) = true) :
    upper text = target ↔ text.toList.map Char.toUpper = target.toList := by
  rw [← flatMap_upperChar_eq_iff (List.all_eq_true.mp plain), upper, ← String.toList_inj, String.toList_ofList]

theorem caseIgnorable_no_letter : (caseIgnorableRanges.all fun range =>
    range.2 < 65 || (90 < range.1 && range.2 < 97) || 122 < range.1) = true := by
  decide +kernel

theorem isCaseIgnorable_letter {c : Char}
    (letter : (65 ≤ c.toNat ∧ c.toNat ≤ 90) ∨ (97 ≤ c.toNat ∧ c.toNat ≤ 122)) :
    isCaseIgnorable c = false := by
  change (caseIgnorableRanges.any fun range => range.1 ≤ c.toNat && c.toNat ≤ range.2) = false
  rw [List.any_eq_false]
  intro range member
  have outside := List.all_eq_true.mp caseIgnorable_no_letter range member
  simp only [Bool.or_eq_true, Bool.and_eq_true, decide_eq_true_eq] at outside ⊢
  omega

theorem ascii_toLower : ∀ n : Fin 128, (Char.ofNat n).toLower.toNat < 128 ∧
    (Char.ofNat n).toLower.toLower = (Char.ofNat n).toLower ∧
    (Char.ofNat n).toLower.isAlpha = (Char.ofNat n).isAlpha ∧
    ((Char.ofNat n).toLower = Char.ofNat n ∨
      (65 ≤ n.val ∧ n.val ≤ 90 ∧ 97 ≤ (Char.ofNat n).toLower.toNat ∧ (Char.ofNat n).toLower.toNat ≤ 122)) := by
  decide

theorem toLower_foreign {c : Char} (foreign : 128 ≤ c.toNat) : c.toLower = c := by
  unfold Char.toLower
  apply dif_neg
  rintro ⟨_, small⟩
  have bound : c.toNat ≤ 'Z'.toNat := UInt32.le_iff_toNat_le.mp small
  have last : 'Z'.toNat = 90 := rfl
  omega

/-- A character and its small letter have the same part in the rules of letter case. -/
structure SameCase (c d : Char) : Prop where
  cased : isCased c = isCased d
  ignorable : isCaseIgnorable c = isCaseIgnorable d
  lowered : lowerChar c = lowerChar d
  sigma : c = 'Σ' ↔ d = 'Σ'

theorem sameCase_toLower (c : Char) : SameCase c.toLower c := by
  by_cases foreign : 128 ≤ c.toNat
  · rw [toLower_foreign foreign]
    exact ⟨rfl, rfl, rfl, Iff.rfl⟩
  · have ascii := Nat.lt_of_not_le foreign
    obtain ⟨small, again, alphabetic, letter⟩ := ascii_toLower ⟨c.toNat, ascii⟩
    simp only [Char.ofNat_toNat] at small again alphabetic letter
    refine ⟨?_, ?_, ?_, ?_⟩
    · rw [isCased, isCased, if_pos small, if_pos ascii, alphabetic]
    · rcases letter with same | ⟨low, high, lowest, highest⟩
      · rw [same]
      · rw [isCaseIgnorable_letter (.inl ⟨low, high⟩), isCaseIgnorable_letter (.inr ⟨lowest, highest⟩)]
    · rw [lowerChar, lowerChar, if_pos small, if_pos ascii, again]
    · have plain {d : Char} (small : d.toNat < 128) : d ≠ 'Σ' := by
        rintro rfl
        exact absurd small (by decide)
      exact iff_of_false (plain small) (plain ascii)

theorem nextIsCased_toLower (chars : List Char) : nextIsCased (chars.map Char.toLower) = nextIsCased chars := by
  induction chars with
  | nil => rfl
  | cons c rest ih =>
    have same := sameCase_toLower c
    unfold nextIsCased at ih ⊢
    rw [List.map_cons, List.dropWhile_cons, List.dropWhile_cons, same.ignorable]
    split
    · exact ih
    · simp [same.cased]

theorem lowerChars_toLower (before chars : List Char) :
    lowerChars (before.map Char.toLower) (chars.map Char.toLower) = lowerChars before chars := by
  induction chars generalizing before with
  | nil => rfl
  | cons c rest ih =>
    have same := sameCase_toLower c
    have later := ih (c :: before)
    rw [List.map_cons] at later ⊢
    by_cases sigma : c = 'Σ'
    · subst sigma
      rw [same.sigma.mpr rfl] at later ⊢
      rw [lowerChars, lowerChars, later, endsWord, endsWord, nextIsCased_toLower, nextIsCased_toLower]
    · have other : c.toLower ≠ 'Σ' := mt same.sigma.mp sigma
      rw [lowerChars, lowerChars, later, same.lowered]
      · exact sigma
      · exact other

/-- The case of ASCII letters makes no difference to a text in lower case. -/
theorem lower_congr {text other : String} (same : text.toList.map Char.toLower = other.toList.map Char.toLower) :
    lower text = lower other := by
  rw [lower, lower, ← lowerChars_toLower [] text.toList, ← lowerChars_toLower [] other.toList, same]

end FleetLink.Text
