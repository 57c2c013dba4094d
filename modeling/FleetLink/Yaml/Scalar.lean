import FleetLink.Number.Decimal
import FleetLink.Number.IntegerText
import FleetLink.Time.IsoText
import FleetLink.Value.Basic

/-! What plain scalars stand for: null, booleans, numbers in several notations, dates
and moments, and text otherwise. -/

namespace FleetLink.Yaml

open Number Time

/-- Why a scalar stands for nothing. The last four only befall scalars that are said to be
what they do not look like. -/
inductive ScalarError where
  | notInteger (base : Nat) (text : String)
  | tooLong (digits : Nat)
  | tooManyParts
  | moment (error : IsoError)
  | notFloat (text : String)
  | notBool (text : String)
  | notMoment
  | nothing
deriving DecidableEq, Repr

def ScalarError.message : ScalarError → String
  | .notInteger base text => notIntegerMessage base text
  | .tooLong digits => tooLongMessage digits
  | .tooManyParts => "int too large to convert to float"
  | .moment error => error.message ""
  | .notFloat text => "could not convert string to float: " ++ Text.quoted text
  | .notBool text => Text.quoted text
  | .notMoment => "'NoneType' object has no attribute 'groupdict'"
  | .nothing => "string index out of range"

def nullWords : List String := ["~", "null", "Null", "NULL", ""]
def trueWords : List String := ["yes", "Yes", "YES", "true", "True", "TRUE", "on", "On", "ON"]
def falseWords : List String := ["no", "No", "NO", "false", "False", "FALSE", "off", "Off", "OFF"]

def isDigitMark (c : Char) : Bool := c.isDigit || c == '_'
def isBit (c : Char) : Bool := c == '0' || c == '1'
def isOctal (c : Char) : Bool := '0' ≤ c && c ≤ '7'
def isHex (c : Char) : Bool := c.isDigit || ('a' ≤ c && c ≤ 'f') || ('A' ≤ c && c ≤ 'F')

def noMarks (chars : List Char) : List Char := chars.filter (· != '_')

def hexValue (c : Char) : Nat :=
  if c.isDigit then c.toNat - 48 else if 'a' ≤ c then c.toNat - 87 else c.toNat - 55

def valueIn (base : Nat) (chars : List Char) : Nat :=
  chars.foldl (fun total c => base * total + hexValue c) 0

/-- A number in a base that is a power of two, where only marks may be written. -/
def inBase (negative : Bool) (base : Nat) (chars : List Char) : Except ScalarError Int :=
  if (noMarks chars).isEmpty then .error (.notInteger base "")
  else .ok (signed negative (valueIn base (noMarks chars)))

def decimalInt (negative : Bool) (digits : List Char) : Except ScalarError Int :=
  if digitLimit < digits.length then .error (.tooLong digits.length)
  else .ok (signed negative (natOfDigits digits))

/-- The parts of a number in base sixty after the first, each below sixty and of at most
two digits. -/
def sixtieths? : List (List Char) → Option (List Nat)
  | [] => some []
  | part :: rest => do
      let sound := match part with
        | [a] => a.isDigit
        | [a, b] => '0' ≤ a && a ≤ '5' && b.isDigit
        | _ => false
      if sound then return natOfDigits part :: (← sixtieths? rest) else none

def splitAtColons : List Char → List (List Char)
  | [] => [[]]
  | c :: rest =>
      let parts := splitAtColons rest
      if c = ':' then [] :: parts
      else match parts with
        | part :: others => (c :: part) :: others
        | [] => [[c]]

def inSixties (parts : List Nat) : Nat :=
  parts.foldl (fun total part => 60 * total + part) 0

/-- A decimal that begins with a digit other than zero, or the numeral zero alone. -/
def isDecimalRun (chars : List Char) : Bool :=
  match chars with
  | ['0'] => true
  | c :: rest => c.isDigit && c != '0' && rest.all isDigitMark
  | [] => false

def int? (chars : List Char) : Option (Except ScalarError Int) :=
  let (negative, body) := splitSign chars
  match body with
  | '0' :: 'b' :: rest =>
      if !rest.isEmpty && rest.all (fun c => isBit c || c == '_') then some (inBase negative 2 rest) else none
  | '0' :: 'x' :: rest =>
      if !rest.isEmpty && rest.all (fun c => isHex c || c == '_') then some (inBase negative 16 rest) else none
  | '0' :: c :: rest =>
      if (c :: rest).all (fun c => isOctal c || c == '_') then
        some (.ok (signed negative (valueIn 8 (noMarks (c :: rest)))))
      else none
  | body =>
      if isDecimalRun body then some (decimalInt negative (noMarks body))
      else match splitAtColons body with
        | first :: second :: rest =>
            if isDecimalRun first && first != ['0'] then
              (sixtieths? (second :: rest)).map fun parts =>
                if digitLimit < (noMarks first).length then .error (.tooLong (noMarks first).length)
                else .ok (signed negative (inSixties (natOfDigits (noMarks first) :: parts)))
            else none
        | _ => none

/-- Whether a text ends as a float may: with nothing, or with a signed power of ten. -/
def endsFloat (chars : List Char) : Bool :=
  match chars with
  | [] => true
  | mark :: sign :: digits =>
      (mark == 'e' || mark == 'E') && (sign == '+' || sign == '-') && !digits.isEmpty && digits.all Char.isDigit
  | _ => false

def isNanWord (chars : List Char) : Bool :=
  chars == ".nan".toList || chars == ".NaN".toList || chars == ".NAN".toList

def isInfWord (chars : List Char) : Bool :=
  chars == ".inf".toList || chars == ".Inf".toList || chars == ".INF".toList

/-- A number with a point and digits before it, where no digit need follow it. -/
def pointed? (body : List Char) : Option (Nat × Int) :=
  let (whole, rest) := body.span isDigitMark
  match whole, rest with
  | c :: _, '.' :: rest =>
      let (fraction, power) := rest.span isDigitMark
      if c.isDigit && endsFloat power then unsignedDecimal? (noMarks (whole ++ '.' :: fraction ++ power)) else none
  | _, _ => none

/-- A number that begins with a point and a digit. -/
def fractional? (chars : List Char) : Option (Nat × Int) :=
  match chars with
  | '.' :: c :: rest =>
      let (fraction, power) := rest.span isDigitMark
      if c.isDigit && endsFloat power then unsignedDecimal? (noMarks ('.' :: c :: fraction ++ power)) else none
  | _ => none

/-- The sum of parts from the last one on, of which each counts sixty times what the one
behind it counts. Every product and every sum is rounded, and a power of sixty must not
be out of range. -/
def roundedSixties (power : Nat) (sum : Binary64) : List Binary64 → Except ScalarError Binary64
  | [] => .ok sum
  | part :: before =>
      let scale := Binary64.ofInt power
      if scale.isFinite then roundedSixties (60 * power) (sum + part * scale) before
      else .error .tooManyParts

/-- A number in base sixty with a point in its last part. -/
def sixtiesFloat? (body : List Char) : Option (Except ScalarError Binary64) :=
  let (whole, rest) := body.span (· != '.')
  match rest, splitAtColons whole with
  | '.' :: fraction, first :: second :: others => do
      let sound := (first.head?.map Char.isDigit).getD false && first.all isDigitMark && fraction.all isDigitMark
      if !sound then none
      let parts ← sixtieths? (second :: others)
      let digits := noMarks fraction
      let last := parts.getLastD 0 * tenTo digits.length + natOfDigits digits
      let number (n : Nat) (places : Int) : Binary64 := .ofDecimal false n places
      return roundedSixties 1 .zero (number last (-digits.length) ::
        ((natOfDigits (noMarks first) :: parts.dropLast).map (number · 0)).reverse)
  | _, _ => none

def float? (chars : List Char) : Option (Except ScalarError Binary64) :=
  let (negative, body) := splitSign chars
  let signed (x : Binary64) : Binary64 := if negative then -x else x
  if isNanWord chars then some (.ok .nan)
  else if isInfWord body then some (.ok (.infinite negative))
  else match pointed? body with
    | some (digits, power) => some (.ok (.ofDecimal negative digits power))
    | none => match sixtiesFloat? body with
      | some number => some (signed <$> number)
      | none => (fractional? chars).map fun (digits, power) => .ok (.ofDecimal false digits power)

/-- Between one and two digits. -/
def shortNumber? (chars : List Char) : Option (Nat × List Char) :=
  match digits? 2 chars with
  | some found => some found
  | none => digits? 1 chars

def marked? (mark : Char) : List Char → Option (List Char)
  | c :: rest => if c = mark then some rest else none
  | [] => none

/-- An offset at the end of a moment, with blanks before it. -/
def offset? (chars : List Char) : Option (Option Int) :=
  match chars.dropWhile fun c => c == ' ' || c == '\t' with
  | [] => if chars.isEmpty then some none else none
  | ['Z'] => some (some 0)
  | sign :: rest =>
      if sign != '+' && sign != '-' then none
      else do
        let (hours, rest) ← shortNumber? rest
        let (minutes, rest) ← match rest with
          | ':' :: rest => digits? 2 rest
          | _ => some (0, rest)
        if !rest.isEmpty then none
        else
          let size : Int := (hours * 60 + minutes) * 60 * secondMicros
          return some (if sign == '-' then -size else size)

/-- Digits of a fraction, if there is a point, as microseconds. -/
def fraction? (chars : List Char) : Nat × List Char :=
  match chars with
  | '.' :: rest =>
      let (digits, rest) := rest.span Char.isDigit
      let kept := digits.take 6
      (natOfDigits kept * tenTo (6 - kept.length), rest)
  | _ => (0, chars)

/-- The clock of a moment after its date: a letter or blanks, then the reading. -/
def clock? (chars : List Char) : Option (Clock × Option Int) := do
  let rest ← match chars with
    | 'T' :: rest => some rest
    | 't' :: rest => some rest
    | c :: rest =>
        if c == ' ' || c == '\t' then some (rest.dropWhile fun c => c == ' ' || c == '\t') else none
    | [] => none
  let (hour, rest) ← shortNumber? rest
  let (minute, rest) ← digits? 2 (← marked? ':' rest)
  let (second, rest) ← digits? 2 (← marked? ':' rest)
  let (micro, rest) := fraction? rest
  let offset ← offset? rest
  return (⟨hour, minute, second, micro⟩, offset)

/-- A date, or a moment whose month and day may have one digit. A date that is not said to
be one has all its digits. -/
def moment? (said : Bool) (chars : List Char) : Option (Civil × Option (Clock × Option Int)) := do
  let (year, rest) ← digits? 4 chars
  let (month, rest) ← shortNumber? (← marked? '-' rest)
  let (day, rest) ← shortNumber? (← marked? '-' rest)
  if rest.isEmpty then
    if said || chars.length = 10 then return (⟨year, month, day⟩, none) else none
  else return (⟨year, month, day⟩, some (← clock? rest))

def momentValue (civil : Civil) : Option (Clock × Option Int) → Except IsoError Value
  | none => .date <$> civil.toDate.mapError .civil
  | some time => .moment <$> readParts (.civil civil) (some time)

/-- The value that a plain scalar looks like. -/
def plainValue (text : String) : Except ScalarError Value :=
  let chars := text.toList
  if nullWords.contains text then .ok .null
  else if trueWords.contains text then .ok (.bool true)
  else if falseWords.contains text then .ok (.bool false)
  else match float? chars with
    | some x => .float <$> x
    | none => match int? chars with
      | some n => .int <$> n
      | none => match moment? false chars with
        | some (civil, time) => (momentValue civil time).mapError .moment
        | none => .ok (.text text)

end FleetLink.Yaml
