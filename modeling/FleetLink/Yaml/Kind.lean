import FleetLink.Text.Case
import FleetLink.Yaml.Scalar

/-! What a node is said to be. A tag may say so; otherwise a plain scalar is what it looks
like, and other nodes are what they are written as. Ordered dictionaries, sets and encoded
bytes are not known. -/

namespace FleetLink.Yaml

open Number Text

inductive Kind where
  | look
  | null
  | bool
  | int
  | float
  | moment
  | text
  | list
  | dict
  | merge
  | default
  | unknown
deriving DecidableEq, Repr

namespace Kind

/-- The opening of all tags that have a meaning. -/
def opening : String := "tag:yaml.org,2002:"

def names : List (String × Kind) :=
  [("null", .null), ("bool", .bool), ("int", .int), ("float", .float), ("timestamp", .moment),
    ("str", .text), ("seq", .list), ("map", .dict), ("merge", .merge), ("value", .default)]

/-- An exclamation mark alone leaves a node to its look. -/
def ofTag (tag : String) : Kind :=
  if tag == "!" then .look
  else if opening.toList.isPrefixOf tag.toList then
    (names.lookup (String.ofList (tag.toList.drop opening.length))).getD .unknown
  else .unknown

/-- Two plain scalars have a meaning as keys only. -/
def ofLook (text : String) : Kind :=
  if text == "<<" then .merge else if text == "=" then .default else .look

end Kind

def digitIn? (base : Nat) (c : Char) : Option Nat :=
  let digit := (decimalValue? c).or (if isHex c then some (hexValue c) else none)
  digit.filter (· < base)

/-- Digits in a base that is a power of two, after a second sign or mark of the base. -/
def saidInBase (base : Nat) (mark : Char) (chars : List Char) : Except ScalarError Int :=
  let (negative, body) := splitSign (trimChars isBlank chars)
  let digits := match body with
    | '0' :: c :: rest => if c.toLower == mark then rest else body
    | _ => body
  match digits.mapM (digitIn? base) with
  | some (digit :: more) =>
      .ok (signed negative ((digit :: more).foldl (fun total digit => base * total + digit) 0))
  | _ => .error (.notInteger base (String.ofList chars))

def saidDecimal (chars : List Char) : Except ScalarError Int :=
  let text := String.ofList chars
  (readInteger text).mapError fun
    | .malformed => .notInteger 10 text
    | .tooLong digits => .tooLong digits

/-- An integer from a scalar that is said to be one. -/
def saidInt (text : String) : Except ScalarError Int := do
  let chars := noMarks text.toList
  let (negative, body) := splitSign chars
  let size ← match body with
    | [] => .error .nothing
    | ['0'] => .ok 0
    | '0' :: 'b' :: rest => saidInBase 2 'b' rest
    | '0' :: 'x' :: rest => saidInBase 16 'x' rest
    | '0' :: _ => saidInBase 8 'o' body
    | _ =>
        let parts ← (splitAtColons body).mapM saidDecimal
        .ok (parts.foldl (fun total part => 60 * total + part) 0)
  return if negative then -size else size

def saidDecimalFloat (chars : List Char) : Except ScalarError Binary64 :=
  let plain (c : Char) : Char := (decimalValue? c).elim c fun digit => Char.ofNat (48 + digit)
  match Binary64.ofChars? ((trimChars isBlank chars).map plain) with
  | some x => .ok x
  | none => .error (.notFloat (String.ofList chars))

/-- A float from a scalar that is said to be one. -/
def saidFloat (text : String) : Except ScalarError Binary64 := do
  let chars := noMarks (lower text).toList
  let (negative, body) := splitSign chars
  if chars.isEmpty then throw .nothing
  if body == ".nan".toList then return .nan
  let size ← if body == ".inf".toList then pure (.infinite false)
    else match splitAtColons body with
      | [whole] => saidDecimalFloat whole
      | parts => do roundedSixties 1 .zero (← parts.mapM saidDecimalFloat).reverse
  return if negative then -size else size

def saidBool (text : String) : Except ScalarError Bool :=
  let word := lower text
  if trueWords.contains word then .ok true
  else if falseWords.contains word then .ok false
  else .error (.notBool word)

def saidMoment (text : String) : Except ScalarError Value :=
  match moment? true text.toList with
  | some (civil, time) => (momentValue civil time).mapError .moment
  | none => .error .notMoment

/-- The value of a scalar of a kind; lists and dictionaries are no scalars, and some kinds
stand for nothing. -/
def Kind.value? (text : String) : Kind → Option (Except ScalarError Value)
  | .look => some (plainValue text)
  | .null => some (.ok .null)
  | .bool => some (.bool <$> saidBool text)
  | .int => some (.int <$> saidInt text)
  | .float => some (.float <$> saidFloat text)
  | .moment => some (saidMoment text)
  | .text => some (.ok (.text text))
  | .list | .dict | .merge | .default | .unknown => none

end FleetLink.Yaml
