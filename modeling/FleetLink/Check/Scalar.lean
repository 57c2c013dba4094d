import FleetLink.Check.Issue
import FleetLink.Number.LenientInteger
import FleetLink.Text.Utf8
import FleetLink.Time.StampText
import FleetLink.Time.UnixTime

/-! Lenient reading of single values. Numbers may be written as text, numbers without
fraction serve as integers, and bytes serve as the text they encode. -/

namespace FleetLink.Check

open Number Time

/-- The text of a value that is one or encodes one; bytes that encode none are refused
as the given problem, and values of other kinds have no text. -/
def textOr (unreadable : Problem) : Value → Option (Checked String)
  | .bytes bytes => some <| match Text.Utf8.decode bytes with
      | .ok text => .ok text
      | .error _ => .fail unreadable
  | value => value.text?.map .ok

def text (value : Value) : Checked String :=
  (textOr .stringUnicode value).getD (.fail .stringType)

/-- The text of a value that is to be read as something else. It must consist of whole
characters. -/
def wholeTextOr (unreadable : Problem) (value : Value) : Option (Checked String) :=
  (textOr unreadable value).map fun text => text.andThen fun text =>
    if (Text.halves? text).isSome then .fail .stringUnicode else .ok text

def intOfText (text : String) : Checked Int :=
  match lenientInteger text with
  | .ok n => .ok n
  | .error .malformed => .fail .intParsing
  | .error (.tooLong _) => .fail .intParsingSize

def fits64Bits (n : Int) : Bool := -(twoTo 63) ≤ n && n < twoTo 63

/-- An integral number counts as an integer when it fits 64 bits with both signs. -/
def intOfFloat (x : Binary64) : Checked Int :=
  if !x.isFinite then .fail .finiteNumber
  else match x.integer? with
    | none => .fail .intFromFloat
    | some n => if n.natAbs < twoTo 63 then .ok n else .fail .intParsingSize

def intOfDecimal (d : Decimal) : Checked Int :=
  if !d.isFinite then .fail .finiteNumber else .ofOption .intFromFloat d.integer?

def int (value : Value) : Checked Int :=
  match wholeTextOr .intParsing value with
  | some text => text.andThen intOfText
  | none =>
    match value with
    | .bool b => .ok (if b then 1 else 0)
    | .int n => .ok n
    | .float x => intOfFloat x
    | .decimal d => intOfDecimal d
    | _ => .fail .intType

/-- Underscores may stand between any two characters but not beside one another, and
then there are no blanks around the text. -/
def floatOfText? (text : String) : Option Binary64 :=
  let chars := text.toList
  match Binary64.ofChars? (Text.trimChars Text.isWhiteSpace chars) with
  | some x => some x
  | none =>
      if chars.contains '_' && chars.head? != some '_' && underscoresSeparate chars then
        Binary64.ofChars? (chars.filter (· != '_'))
      else none

def float (value : Value) : Checked Binary64 :=
  match wholeTextOr .floatParsing value with
  | some text => text.andThen fun text => .ofOption .floatParsing (floatOfText? text)
  | none =>
    match value with
    | .bool b => .ok (if b then .one else .zero)
    | .int n =>
        let x := Binary64.ofInt n
        if x.isFinite then .ok x else .fail .floatType
    | .float x => .ok x
    | .decimal d => .ok d.toBinary64
    | _ => .fail .floatType

def trueWords : List String := ["1", "on", "t", "true", "y", "yes"]
def falseWords : List String := ["0", "off", "f", "false", "n", "no"]

def boolOfText (text : String) : Checked Bool :=
  let word := String.ofList (text.toList.map Char.toLower)
  if trueWords.contains word then .ok true
  else if falseWords.contains word then .ok false
  else .fail .boolParsing

/-- An integer of more than 64 bits is not looked at. -/
def boolOfInt (n : Int) : Checked Bool :=
  if n = 1 then .ok true
  else if n = 0 then .ok false
  else if fits64Bits n then .fail .boolParsing
  else .fail .boolType

def boolOfFloat (x : Binary64) : Checked Bool :=
  match intOfFloat x with
  | .ok n => boolOfInt n
  | .failed _ => .fail .boolType

def bool (value : Value) : Checked Bool :=
  match wholeTextOr .boolParsing value with
  | some text => text.andThen boolOfText
  | none =>
    match value with
    | .bool b => .ok b
    | .int n => boolOfInt n
    | .float x => boolOfFloat x
    | .decimal d => boolOfFloat d.toBinary64
    | _ => .fail .boolType

/-- A number that does not fit 64 bits is taken as a float. -/
def momentOfInt (n : Int) : Checked Moment :=
  if fits64Bits n then .ofOption .datetimeParsing (ofUnix? n 0)
  else if (Binary64.ofInt n).isFinite then .fail .datetimeParsing
  else .fail .datetimeType

def momentOfDecimal (d : Decimal) : Checked Moment :=
  match d with
  | .nan _ true _ => .fail .datetimeType
  | d => .ofOption .datetimeParsing (ofUnixFloat? d.toBinary64)

def momentOfText (text : String) : Checked Moment :=
  .ofOption .datetimeOfDate (readStamp? text <|> readUnix? text.toList)

def moment (value : Value) : Checked Moment :=
  match wholeTextOr .datetimeOfDate value with
  | some text => text.andThen momentOfText
  | none =>
    match value with
    | .moment m => .ok m
    | .date d => .ok (.midnight d)
    | .int n => momentOfInt n
    | .float x => .ofOption .datetimeParsing (ofUnixFloat? x)
    | .decimal d => momentOfDecimal d
    | _ => .fail .datetimeType

/-- A status is given by itself or by its event name. -/
def status (value : Value) : Checked AssociationStatus :=
  match value with
  | .status s => .ok s
  | value => match text value with
    | .ok name => .ofOption .enumMember (AssociationStatus.ofEventName? name)
    | .failed _ => .fail .enumMember

/-- Checks items one after another; each is at its place in the list. -/
def itemsFrom (check : Value → Checked α) (place : Nat) : List Value → Checked (List α)
  | [] => .ok []
  | item :: rest =>
      List.cons <$> (check item).within (.index place) <*> itemsFrom check (place + 1) rest

def listOf (check : Value → Checked α) : Value → Checked (List α)
  | .list items => itemsFrom check 0 items
  | _ => .fail .listType

/-- A value that may be absent. -/
def orNull (check : Value → Checked α) : Value → Checked (Option α)
  | .null => .ok none
  | value => some <$> check value

end FleetLink.Check
