import FleetLink.Number.DecimalText
import FleetLink.Number.Shortest
import FleetLink.Text.Blank
import FleetLink.Text.DecimalDigit

/-! Decimal numbers of any precision: a coefficient and the power of ten it counts, so
that zeros at the end are kept, with infinities and two kinds of NaN. -/

namespace FleetLink.Number

open Text

inductive Decimal where
  | finite (negative : Bool) (coefficient : Nat) (exponent : Int)
  | infinite (negative : Bool)
  | nan (negative : Bool) (signalling : Bool) (payload : Nat)
deriving DecidableEq, Repr, Inhabited

namespace Decimal

def ofInt (n : Int) : Decimal := .finite (decide (n < 0)) n.natAbs 0

def isFinite : Decimal → Bool
  | .finite .. => true
  | _ => false

/-- A coefficient without so many places at its end, when these hold zeros only. A power
of ten that outweighs the coefficient is not written out. -/
def dropPlaces? (coefficient places : Nat) : Option Nat :=
  if coefficient.log2 < places then none
  else if coefficient % tenTo places = 0 then some (coefficient / tenTo places)
  else none

/-- The integer of equal value, when the decimal is finite and has no fraction. -/
def integer? : Decimal → Option Int
  | .finite negative coefficient exponent =>
      if coefficient = 0 then some 0
      else if 0 ≤ exponent then some (signed negative (coefficient * tenTo exponent.toNat))
      else (dropPlaces? coefficient exponent.natAbs).map (signed negative)
  | _ => none

/-- The binary number nearest to the value. -/
def toBinary64 : Decimal → Binary64
  | .finite negative coefficient exponent => .ofDecimal negative coefficient exponent
  | .infinite negative => .infinite negative
  | .nan .. => .nan

def isZero : Decimal → Bool
  | .finite _ coefficient _ => coefficient == 0
  | _ => false

/-- Whether two decimals are equal in value, however many zeros they end with. Nothing
is the equal of a NaN. -/
def same : Decimal → Decimal → Bool
  | .finite n a p, .finite m b q =>
      if a = 0 || b = 0 then a == b
      else n == m &&
        if p ≤ q then dropPlaces? a (q - p).toNat == some b else dropPlaces? b (p - q).toNat == some a
  | .infinite n, .infinite m => n == m
  | _, _ => false

/-- The exact value of a binary number. -/
def ofBinary64 : Binary64 → Decimal
  | .nan => .nan false false 0
  | .infinite negative => .infinite negative
  | .finite negative mantissa exponent =>
      if 0 ≤ exponent then .finite negative (mantissa * twoTo exponent.toNat) 0
      else .finite negative (mantissa * Nat.pow 5 exponent.natAbs) exponent

/-- Digits of any script as those of the first; underscores are passed over. -/
def plainDigits (chars : List Char) : List Char :=
  (chars.filter (· != '_')).map fun c =>
    match decimalValue? c with
    | some value => Char.ofNat (48 + value)
    | none => c

def payload? (digits : List Char) : Option Nat :=
  if digits.all Char.isDigit then some (natOfDigits digits) else none

def ofText? (text : String) : Option Decimal :=
  let (negative, body) := splitSign (plainDigits (trimChars isBlank text.toList))
  if isInfinityWord body then some (.infinite negative)
  else if isWord "snan" (body.take 4) then (payload? (body.drop 4)).map (.nan negative true)
  else if isWord "nan" (body.take 3) then (payload? (body.drop 3)).map (.nan negative false)
  else (unsignedDecimal? body).map fun (coefficient, exponent) =>
    .finite negative coefficient exponent

inductive TextError where
  | malformed
  | outOfRange
deriving DecidableEq, Repr

def TextError.message : TextError → String
  | .malformed => "[<class 'decimal.ConversionSyntax'>]"
  | .outOfRange => "[<class 'decimal.InvalidOperation'>]"

/-- The powers of ten that digits may count: the first digit at most the one, the last
digit at least the other. -/
def greatestPower : Int := tenTo 18 - 1
def leastPower : Int := 3 - 2 * tenTo 18

/-- Whether all digits lie in the range of powers; of a zero only its last digit counts. -/
def inRange : Decimal → Bool
  | .finite _ coefficient exponent =>
      let whole : Int := if coefficient = 0 then 1 else (decimalChars coefficient).length
      leastPower ≤ exponent && exponent + whole - 1 ≤ greatestPower
  | _ => true

def read (text : String) : Except TextError Decimal :=
  match ofText? text with
  | none => .error .malformed
  | some d => if d.inRange then .ok d else .error .outOfRange

/-- The coefficient written with a point when its exponent is not positive and the
number not too small, and scientifically otherwise. -/
def unsignedChars (coefficient : Nat) (exponent : Int) : List Char :=
  let digits := decimalChars coefficient
  let whole : Int := digits.length + exponent
  if exponent ≤ 0 && -6 < whole then
    if exponent = 0 then digits
    else if 0 < whole then digits.take whole.toNat ++ '.' :: digits.drop whole.toNat
    else '0' :: '.' :: zeros (-whole).toNat ++ digits
  else
    let power := whole - 1
    let head := match digits with
      | first :: second :: rest => first :: '.' :: second :: rest
      | _ => digits
    head ++ ['E', if power < 0 then '-' else '+'] ++ decimalChars power.natAbs

def chars : Decimal → List Char
  | .finite negative coefficient exponent =>
      (if negative then ['-'] else []) ++ unsignedChars coefficient exponent
  | .infinite negative => (if negative then ['-'] else []) ++ "Infinity".toList
  | .nan negative signalling payload =>
      (if negative then ['-'] else []) ++ (if signalling then ['s'] else []) ++ "NaN".toList ++
        (if payload = 0 then [] else decimalChars payload)

def text (d : Decimal) : String := String.ofList d.chars

end Decimal

end FleetLink.Number
