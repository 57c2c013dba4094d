/-! Halves of the pairs of units that write one character in UTF-16. A half without its
partner is no character. Where a text holds one nevertheless, a character of the last
private plane stands for it. -/

namespace FleetLink.Text

def isHighHalf (unit : Nat) : Bool := 0xD800 ≤ unit && unit < 0xDC00
def isLowHalf (unit : Nat) : Bool := 0xDC00 ≤ unit && unit < 0xE000
def isHalf (unit : Nat) : Bool := isHighHalf unit || isLowHalf unit

/-- How far the stand-ins lie above the halves they stand for. -/
def halfShift : Nat := 0x101800

/-- The character with a code, or the stand-in of a half. -/
def charOrHalf (unit : Nat) : Char :=
  Char.ofNat (if isHalf unit then unit + halfShift else unit)

/-- The half that a character stands for. The bounds are those of the stand-ins. -/
def half? (c : Char) : Option Nat :=
  if 0x10F000 ≤ c.toNat && c.toNat < 0x10F800 then some (c.toNat - halfShift) else none

/-- The character that two halves write. -/
def joinHalves (high low : Nat) : Char :=
  Char.ofNat (0x10000 + (high - 0xD800) * 0x400 + (low - 0xDC00))

/-- Halves beside one another: the first of them, its place in a text, and their number. -/
structure HalfRun where
  first : Nat
  start : Nat
  count : Nat
deriving DecidableEq, Repr

/-- The first halves among characters, whose places are counted from the given one. -/
def findHalves? (place : Nat) : List Char → Option HalfRun
  | [] => none
  | c :: rest => match half? c with
    | some unit => some ⟨unit, place, 1 + (rest.takeWhile fun c => (half? c).isSome).length⟩
    | none => findHalves? (place + 1) rest

def halves? (text : String) : Option HalfRun := findHalves? 0 text.toList

theorem half?_eq_none {c : Char} (low : c.toNat < 0x10000) : half? c = none := by
  have below : ¬0x10F000 ≤ c.toNat := by omega
  simp [half?, below]

theorem findHalves?_eq_none_iff {place : Nat} {chars : List Char} :
    findHalves? place chars = none ↔ ∀ c ∈ chars, half? c = none := by
  induction chars generalizing place with
  | nil => simp [findHalves?]
  | cons c rest ih => cases found : half? c <;> simp [findHalves?, found, ih]

theorem halves?_eq_none_iff {text : String} : halves? text = none ↔ ∀ c ∈ text.toList, half? c = none :=
  findHalves?_eq_none_iff

end FleetLink.Text
