import FleetLink.Number.Power
import FleetLink.Number.Rounding

/-! Binary floating-point numbers of 64 bits as exact integers: a mantissa of at most
53 bits and the power of two it counts. Every operation is exact arithmetic followed
by one rounding to the nearest number, ties to even. -/

namespace FleetLink.Number

inductive Binary64 where
  | nan
  | infinite (negative : Bool)
  | finite (negative : Bool) (mantissa : Nat) (exponent : Int)
deriving DecidableEq, Repr, Inhabited

namespace Binary64

def minExponent : Int := -1074
def maxExponent : Int := 971

def zero : Binary64 := .finite false 0 minExponent
def one : Binary64 := .finite false (twoTo 52) (-52)

/-- The greatest power of two that does not exceed a positive quotient. -/
def floorLog2 (num den : Nat) : Int :=
  let guess : Int := (num.log2 : Int) - den.log2
  if num * twoTo (-guess).toNat < den * twoTo guess.toNat then guess - 1 else guess

/-- The number with this mantissa at this place, where the mantissa may have been
rounded up to the next power of two. -/
def carried (negative : Bool) (mantissa : Nat) (place : Int) : Binary64 :=
  if mantissa = twoTo 53 then
    if place + 1 > maxExponent then .infinite negative else .finite negative (twoTo 52) (place + 1)
  else if place > maxExponent then .infinite negative
  else .finite negative mantissa place

/-- The quotient rounded to the nearest number. -/
def ofRatio (negative : Bool) (num den : Nat) : Binary64 :=
  if num = 0 then .finite negative 0 minExponent
  else
    let place := max (floorLog2 num den - 52) minExponent
    carried negative (divHalfEven (num * twoTo (-place).toNat) (den * twoTo place.toNat)) place

def ofScaled (negative : Bool) (mantissa : Nat) (exponent : Int) : Binary64 :=
  ofRatio negative (mantissa * twoTo exponent.toNat) (twoTo (-exponent).toNat)

def ofInt (n : Int) : Binary64 :=
  ofRatio (decide (n < 0)) n.natAbs 1

/-- The number nearest to `digits * 10 ^ exponent`. Powers far outside the range are
settled without being computed. -/
def ofDecimal (negative : Bool) (digits : Nat) (exponent : Int) : Binary64 :=
  let size : Int := digits.log2 / 3 + 1
  if digits = 0 then .finite negative 0 minExponent
  else if exponent > 400 then .infinite negative
  else if exponent + size < -400 then .finite negative 0 minExponent
  else ofRatio negative (digits * tenTo exponent.toNat) (tenTo (-exponent).toNat)

def isFinite : Binary64 → Bool
  | .finite .. => true
  | _ => false

def isZero : Binary64 → Bool
  | .finite _ mantissa _ => mantissa == 0
  | _ => false

def neg : Binary64 → Binary64
  | .nan => .nan
  | .infinite negative => .infinite !negative
  | .finite negative mantissa exponent => .finite (!negative) mantissa exponent

def mul : Binary64 → Binary64 → Binary64
  | .nan, _ => .nan
  | _, .nan => .nan
  | .infinite a, .infinite b => .infinite (a != b)
  | .infinite a, .finite b mantissa _ => if mantissa = 0 then .nan else .infinite (a != b)
  | .finite a mantissa _, .infinite b => if mantissa = 0 then .nan else .infinite (a != b)
  | .finite a m p, .finite b n q => ofScaled (a != b) (m * n) (p + q)

/-- The exact sum, rounded. A sum of nothing is negative only when both parts are. -/
def add : Binary64 → Binary64 → Binary64
  | .nan, _ => .nan
  | _, .nan => .nan
  | .infinite a, .infinite b => if a = b then .infinite a else .nan
  | .infinite a, .finite .. => .infinite a
  | .finite .., .infinite b => .infinite b
  | .finite a m p, .finite b n q =>
      let place := min p q
      let left : Int := (m * twoTo (p - place).toNat : Nat)
      let right : Int := (n * twoTo (q - place).toNat : Nat)
      let sum := (if a then -left else left) + if b then -right else right
      if sum = 0 then .finite (a && b) 0 minExponent else ofScaled (decide (sum < 0)) sum.natAbs place

instance : Add Binary64 := ⟨add⟩
instance : Mul Binary64 := ⟨mul⟩
instance : Neg Binary64 := ⟨neg⟩

/-- The exact value as a numerator over a positive denominator. -/
def ratio? : Binary64 → Option (Int × Nat)
  | .finite negative mantissa exponent =>
      let num : Int := (mantissa * twoTo exponent.toNat : Nat)
      some (if negative then -num else num, twoTo (-exponent).toNat)
  | _ => none

/-- The value without its fraction, toward zero. -/
def truncate? (x : Binary64) : Option Int :=
  x.ratio?.map fun (num, den) => num.tdiv den

/-- The value when it has no fraction. -/
def integer? (x : Binary64) : Option Int :=
  match x.ratio? with
  | some (num, den) => if num.tmod den = 0 then some (num.tdiv den) else none
  | none => none

/-- What the truncation leaves over, exactly, with the sign of the number. -/
def fraction : Binary64 → Binary64
  | .finite negative mantissa exponent =>
      let den := twoTo (-exponent).toNat
      ofRatio negative (mantissa * twoTo exponent.toNat % den) den
  | .infinite negative => .finite negative 0 minExponent
  | .nan => .nan

/-- The integer nearest to the value, a half going to the even one. -/
def roundEven? (x : Binary64) : Option Int :=
  x.ratio?.map fun (num, den) =>
    let size : Int := divHalfEven num.natAbs den
    if num < 0 then -size else size

/-- Numbers equal in value, so that both zeros are the same and nothing is a NaN's equal. -/
def same : Binary64 → Binary64 → Bool
  | .infinite a, .infinite b => a == b
  | .finite a m p, .finite b n q => (m == 0 && n == 0) || (a == b && m == n && p == q)
  | _, _ => false

end Binary64

end FleetLink.Number
