import FleetLink.Text.Quoted
import FleetLink.Value.Spelling

/-! Values as JSON text without spaces. Controls are escaped, and all other characters
are written as they are. Values of kinds that JSON does not have become texts. -/

namespace FleetLink.Json

open Text

def escapedChar (c : Char) : List Char :=
  if c = '"' || c = '\\' then ['\\', c]
  else if c = '\n' then ['\\', 'n']
  else if c = '\r' then ['\\', 'r']
  else if c = '\t' then ['\\', 't']
  else if c.toNat = 8 then ['\\', 'b']
  else if c.toNat = 12 then ['\\', 'f']
  else if c.toNat < 0x20 then '\\' :: 'u' :: hexChars 4 c.toNat
  else [c]

def textChars (chars : List Char) : List Char :=
  '"' :: chars.flatMap escapedChar ++ ['"']

def intChars (n : Int) : List Char :=
  if n < 0 then '-' :: Nat.toDigits 10 n.natAbs else Nat.toDigits 10 n.natAbs

def floatChars : Number.Binary64 → List Char
  | .nan => "NaN".toList
  | .infinite negative => (if negative then ['-'] else []) ++ "Infinity".toList
  | x => x.chars

def keyChars (key : Value) : List Char :=
  textChars (key.text?.getD key.plain).toList

mutual

def chars : Value → List Char
  | .null => "null".toList
  | .bool b => if b then "true".toList else "false".toList
  | .int n => intChars n
  | .float x => floatChars x
  | .list [] => ['[', ']']
  | .list (item :: rest) => '[' :: chars item ++ itemChars rest
  | .dict [] => ['\x7b', '\x7d']
  | .dict ((key, value) :: rest) => '\x7b' :: keyChars key ++ ':' :: chars value ++ entryChars rest
  | value => textChars (value.text?.getD value.plain).toList

/-- The items after the first, up to the closing bracket. -/
def itemChars : List Value → List Char
  | [] => [']']
  | item :: rest => ',' :: chars item ++ itemChars rest

/-- The entries after the first, up to the closing brace. -/
def entryChars : List (Value × Value) → List Char
  | [] => ['\x7d']
  | (key, value) :: rest => ',' :: keyChars key ++ ':' :: chars value ++ entryChars rest

end

def write (value : Value) : String := String.ofList (chars value)

end FleetLink.Json
