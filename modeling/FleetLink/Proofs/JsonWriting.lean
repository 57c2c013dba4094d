import FleetLink.Json.Writer
import FleetLink.Proofs.IntegerText
import FleetLink.Proofs.StrictJson

/-! What is written is strict JSON. Texts and integers are written in a form of the grammar,
and a list or a dictionary is when everything in it is. -/

namespace FleetLink.Json
open Number Text

/-- The form in which a character is written is one for that character. -/
theorem charForm_escapedChar (c : Char) : CharForm c (escapedChar c) := by
  have code {n : Nat} (same : c.toNat = n) : c = Char.ofNat n := same ▸ (Char.ofNat_toNat c).symm
  unfold escapedChar
  split
  next special =>
    simp only [Bool.or_eq_true, decide_eq_true_eq] at special
    rcases special with rfl | rfl <;> exact .marked (by decide)
  next ordinary =>
    simp only [Bool.or_eq_true, decide_eq_true_eq, not_or] at ordinary
    split
    next same => exact same ▸ .marked (by decide)
    split
    next same => exact same ▸ .marked (by decide)
    split
    next same => exact same ▸ .marked (by decide)
    split
    next same => exact code same ▸ .marked (by decide)
    split
    next same => exact code same ▸ .marked (by decide)
    split
    next control => exact .unit (by omega)
    next printable => exact .plain (Nat.le_of_not_lt printable) ordinary.1 ordinary.2

theorem textForm_escaped (text : List Char) : TextForm text (text.flatMap escapedChar) := by
  induction text with
  | nil => exact .nil
  | cons c text ih => exact .cons (charForm_escapedChar c) ih

theorem whole_toDigits (n : Nat) : Whole (Nat.toDigits 10 n) where
  all _ member := isDigit_of_mem_toDigits member
  present := Nat.toDigits_ne_nil
  lead zero := by
    rcases Nat.eq_zero_or_pos n with rfl | positive
    · rfl
    · exact absurd zero (head_toDigits positive)

section
variable {limit depth : Nat}

theorem strict_int {n : Int} (short : (Nat.toDigits 10 n.natAbs).length ≤ limit) :
    Strict limit depth (.int n) (chars (.int n)) := by
  have form : chars (.int n) = (if decide (n < 0) then ['-'] else []) ++ Nat.toDigits 10 n.natAbs := by
    simp only [chars, intChars, decide_eq_true_eq]
    split <;> rfl
  have value : signed (decide (n < 0)) (natOfDigits (Nat.toDigits 10 n.natAbs)) = n := by
    rw [natOfDigits_toDigits, signed_natAbs]
  have strict : Strict limit depth (.int (signed (decide (n < 0)) (natOfDigits (Nat.toDigits 10 n.natAbs)))) _ :=
    .integer (decide (n < 0)) (whole_toDigits n.natAbs) short
  rw [form]
  rwa [value] at strict

theorem strict_text (text : String) : Strict limit depth (.text text) (chars (.text text)) := by
  have strict : Strict limit depth (.text (String.ofList text.toList)) (textChars text.toList) :=
    .text (textForm_escaped text.toList)
  rwa [String.ofList_toList] at strict

theorem strictItems_chars {item : Value} {rest : List Value} (each : ∀ value ∈ item :: rest, Strict limit depth value (chars value)) :
    StrictItems limit depth (item :: rest) (chars item ++ itemChars rest) := by
  induction rest generalizing item with
  | nil => exact .last (each item List.mem_cons_self)
  | cons second rest ih =>
    obtain ⟨first, others⟩ := List.forall_mem_cons.mp each
    exact .next first (ih others)

/-- A list is strict JSON when its items are. -/
theorem strict_list {items : List Value} (each : ∀ item ∈ items, Strict limit depth item (chars item)) :
    Strict limit (depth + 1) (.list items) (chars (.list items)) := by
  cases items with
  | nil => exact .noItems
  | cons item rest => exact .list (strictItems_chars each)

theorem strictEntries_chars {entry : String × Value} {rest : List (String × Value)}
    (each : ∀ found ∈ entry :: rest, Strict limit depth found.2 (chars found.2)) :
    StrictEntries limit depth (entry :: rest)
      (keyChars (.text entry.1) ++ ':' :: chars entry.2 ++ entryChars (spelled rest)) := by
  have quoted (key : String) (after : List Char) :
      keyChars (.text key) ++ after = '"' :: key.toList.flatMap escapedChar ++ '"' :: after := by
    simp [keyChars, textChars, Value.text?]
  induction rest generalizing entry with
  | nil =>
    have strict := StrictEntries.last (textForm_escaped entry.1.toList) (each entry List.mem_cons_self)
    rw [String.ofList_toList, List.append_assoc] at strict
    rw [List.append_assoc, quoted]
    exact strict
  | cons second rest ih =>
    obtain ⟨first, others⟩ := List.forall_mem_cons.mp each
    have strict := StrictEntries.next (textForm_escaped entry.1.toList) first (ih others)
    rw [String.ofList_toList, List.append_assoc] at strict
    rw [List.append_assoc, quoted]
    exact strict

/-- A dictionary of distinct texts is strict JSON when its values are. -/
theorem strict_dict {entries : List (String × Value)} (distinct : (entries.map Prod.fst).Nodup)
    (each : ∀ entry ∈ entries, Strict limit depth entry.2 (chars entry.2)) :
    Strict limit (depth + 1) (.dict (spelled entries)) (chars (.dict (spelled entries))) := by
  cases entries with
  | nil => exact .noEntries
  | cons entry rest => exact .dict (strictEntries_chars each) distinct

end

end FleetLink.Json
