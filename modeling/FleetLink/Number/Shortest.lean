import FleetLink.Number.Binary64

/-! The shortest decimal text of a binary number: the fewest digits that lie nearer to
it than to any other number, and of those the digits nearest to it. Exponents from -4
to 15 are written out, all others in scientific form. -/

namespace FleetLink.Number

/-- The greatest power of ten that does not exceed a positive quotient. -/
def floorLog10 (num den : Nat) : Int :=
  if den ≤ num then (Nat.toDigits 10 (num / den)).length - 1
  else
    let size := (Nat.toDigits 10 (den / num)).length
    if den ≤ num * tenTo (size - 1) then -(size - 1 : Nat) else -size

namespace Binary64

/-- The decimals that round to a positive number, as bounds over one denominator, and
whether the bounds themselves do. -/
structure Span where
  low : Nat
  value : Nat
  high : Nat
  den : Nat
  closed : Bool

/-- Below a power of two the numbers stand twice as close as above it. -/
def spanOf (mantissa : Nat) (exponent : Int) : Span :=
  let unit := twoTo exponent.toNat
  let below := if mantissa = twoTo 52 && minExponent < exponent then 1 else 2
  { low := (4 * mantissa - below) * unit
    value := 4 * mantissa * unit
    high := (4 * mantissa + 2) * unit
    den := 4 * twoTo (-exponent).toNat
    closed := mantissa % 2 = 0 }

/-- Whether `digits * 10 ^ place` rounds to the number. -/
def Span.holds (span : Span) (digits : Nat) (place : Int) : Bool :=
  let point := digits * tenTo place.toNat * span.den
  let scale := tenTo (-place).toNat
  if span.closed then span.low * scale ≤ point && point ≤ span.high * scale
  else span.low * scale < point && point < span.high * scale

/-- The neighbour of the number on the decimal grid of this place, if one rounds to it. -/
def Span.onGrid? (span : Span) (place : Int) : Option Nat :=
  let num := span.value * tenTo (-place).toNat
  let den := span.den * tenTo place.toNat
  let below := num / den
  match span.holds below place, span.holds (below + 1) place with
  | true, true => some (divHalfEven num den)
  | true, false => some below
  | false, true => some (below + 1)
  | false, false => none

/-- Digits and the power of ten of the last one; seventeen digits always suffice. -/
def shortest (mantissa : Nat) (exponent : Int) : Nat × Int :=
  let span := spanOf mantissa exponent
  let top := floorLog10 span.value span.den
  let found := (List.range 17).findSome? fun (n : Nat) =>
    (span.onGrid? (top - n)).map fun digits => (digits, top - n)
  found.getD (0, 0)

end Binary64

/-- Digits without the zeros at their end, and the power of ten of the last one left. -/
def dropZeros : Nat → Nat → Int → Nat × Int
  | 0, digits, place => (digits, place)
  | fuel + 1, digits, place =>
      if digits ≠ 0 ∧ digits % 10 = 0 then dropZeros fuel (digits / 10) (place + 1) else (digits, place)

def decimalChars (n : Nat) : List Char := Nat.toDigits 10 n

def zeros (count : Nat) : List Char := List.replicate count '0'

/-- Digits with a point, where the last digit counts the given power of ten. -/
def pointedChars (digits : List Char) (place : Int) : List Char :=
  let whole : Int := digits.length + place
  if 0 ≤ place then digits ++ zeros place.toNat ++ ['.', '0']
  else if 0 < whole then digits.take whole.toNat ++ '.' :: digits.drop whole.toNat
  else '0' :: '.' :: zeros (-whole).toNat ++ digits

def scientificChars (digits : List Char) (place : Int) : List Char :=
  let power : Int := digits.length + place - 1
  let size := decimalChars power.natAbs
  let head := match digits with
    | first :: second :: rest => first :: '.' :: second :: rest
    | _ => digits
  head ++ ['e', if power < 0 then '-' else '+'] ++ (if size.length < 2 then '0' :: size else size)

namespace Binary64

def chars : Binary64 → List Char
  | .nan => ['n', 'a', 'n']
  | .infinite negative => if negative then ['-', 'i', 'n', 'f'] else ['i', 'n', 'f']
  | .finite negative mantissa exponent =>
      let body :=
        if mantissa = 0 then ['0', '.', '0']
        else
          let (all, last) := shortest mantissa exponent
          let (digits, place) := dropZeros 17 all last
          let shown := decimalChars digits
          let power : Int := shown.length + place - 1
          if -4 ≤ power && power < 16 then pointedChars shown place else scientificChars shown place
      if negative then '-' :: body else body

def text (x : Binary64) : String := String.ofList x.chars

end Binary64

end FleetLink.Number
