import FleetLink.Number.DecimalText
import FleetLink.Text.Blank
import FleetLink.Text.DecimalDigit
import FleetLink.Text.Quoted

/-! Integers written in decimal: blanks around them, a sign, the digits of any script,
single underscores between digits, and no more digits than a fixed limit. The limit holds
for reading and for writing. -/

namespace FleetLink.Number

open Text

def digitLimit : Nat := 4300

/-- What is said of a text that is no integer in a base. A long text is cut. -/
def notIntegerMessage (base : Nat) (text : String) : String :=
  "invalid literal for int() with base " ++ toString base ++ ": " ++
    String.ofList ((quotedChars text.toList).take 200)

def tooLongMessage (digits : Nat) : String :=
  "Exceeds the limit (" ++ toString digitLimit ++
    " digits) for integer string conversion: value has " ++ toString digits ++
    " digits; use sys.set_int_max_str_digits() to increase the limit"

/-- What is said when an integer is to be written that has more digits. -/
def unwritableMessage : String :=
  "Exceeds the limit (" ++ toString digitLimit ++
    " digits) for integer string conversion; use sys.set_int_max_str_digits() to increase the limit"

/-- The sign is not counted. -/
def isWritable (n : Int) : Bool := (Nat.toDigits 10 n.natAbs).length ≤ digitLimit

inductive IntegerTextError where
  | malformed
  | tooLong (digits : Nat)
deriving DecidableEq, Repr

def isDigitOrUnderscore (c : Char) : Bool :=
  c == '_' || (decimalValue? c).isSome

/-- No underscore stands at an end or beside another one. -/
def underscoresSeparate : List Char → Bool
  | [] => true
  | ['_'] => false
  | '_' :: '_' :: _ => false
  | _ :: rest => underscoresSeparate rest

def valueOfDigits (values : List Nat) : Nat :=
  values.foldl (fun total digit => 10 * total + digit) 0

/-- Reads digits after the sign. The digit limit is looked at before what follows the
digits, and misplaced underscores before both. -/
def unsignedInteger (chars : List Char) : Except IntegerTextError Nat :=
  let (run, rest) := chars.span isDigitOrUnderscore
  let values := run.filterMap decimalValue?
  if run.head? = some '_' || !underscoresSeparate run then .error .malformed
  else if digitLimit < values.length then .error (.tooLong values.length)
  else if values.isEmpty || !rest.isEmpty then .error .malformed
  else .ok (valueOfDigits values)

def readInteger (text : String) : Except IntegerTextError Int :=
  let (negative, chars) := splitSign (trimChars isBlank text.toList)
  signed negative <$> unsignedInteger chars

end FleetLink.Number
