import FleetLink.Number.DecimalText
import FleetLink.Text.Half
import FleetLink.Value.Dict

/-! Strict JSON text as values. Controls inside texts, leading zeros and trailing commas
are refused; numbers may also be infinite or no number at all. A repeated key keeps its
first place and takes its last value. -/

namespace FleetLink.Json

open Number Text

/-- How far a document may go: the depth of its nesting, where empty lists and
dictionaries do not count, the digits before the point of a number, which may be fewer
for a negative one, and whether a text may hold the half of a pair alone. -/
structure Bounds where
  depth : Nat
  digits (negative : Bool) : Nat
  halves : Bool

def isSpace (c : Char) : Bool :=
  c == ' ' || c == '\n' || c == '\t' || c == '\r'

def skipSpaces (chars : List Char) : List Char := chars.dropWhile isSpace

def hexValue? (c : Char) : Option Nat :=
  if c.isDigit then some (c.toNat - 48)
  else if 'a' ≤ c ∧ c ≤ 'f' then some (c.toNat - 87)
  else if 'A' ≤ c ∧ c ≤ 'F' then some (c.toNat - 55)
  else none

/-- The number written by four hexadecimal digits. -/
def unit? : List Char → Option (Nat × List Char)
  | a :: b :: c :: d :: rest => do
      let a ← hexValue? a
      let b ← hexValue? b
      let c ← hexValue? c
      let d ← hexValue? d
      return (((a * 16 + b) * 16 + c) * 16 + d, rest)
  | _ => none

/-- The character of an escape after its backslash and `u`. The escapes of two halves
write one character. -/
def unicodeEscape? (halves : Bool) (chars : List Char) : Option (Char × List Char) := do
  let (unit, rest) ← unit? chars
  let alone := if halves || !isHalf unit then some (charOrHalf unit, rest) else none
  if isHighHalf unit then
    match rest with
    | '\\' :: 'u' :: next =>
        let (second, next) ← unit? next
        if isLowHalf second then return (joinHalves unit second, next) else alone
    | _ => alone
  else alone

def simpleEscape? (c : Char) : Option Char :=
  match c with
  | '"' => some '"'
  | '\\' => some '\\'
  | '/' => some '/'
  | 'b' => some (Char.ofNat 8)
  | 'f' => some (Char.ofNat 12)
  | 'n' => some '\n'
  | 'r' => some '\r'
  | 't' => some '\t'
  | _ => none

/-- Reads a text after its opening quote. Each step takes at least one character, so
that the length of the input is fuel enough. -/
def readText (halves : Bool) : Nat → List Char → Option (List Char × List Char)
  | 0, _ => none
  | fuel + 1, chars =>
      match chars with
      | [] => none
      | '"' :: rest => some ([], rest)
      | '\\' :: 'u' :: rest => do
          let (c, rest) ← unicodeEscape? halves rest
          let (text, rest) ← readText halves fuel rest
          return (c :: text, rest)
      | '\\' :: c :: rest => do
          let c ← simpleEscape? c
          let (text, rest) ← readText halves fuel rest
          return (c :: text, rest)
      | c :: rest =>
          if c = '\\' || c.toNat < 0x20 then none
          else do
            let (text, rest) ← readText halves fuel rest
            return (c :: text, rest)

/-- The fraction of a number, with its point. -/
def readFraction (chars : List Char) : Option (List Char × List Char) :=
  match chars with
  | '.' :: rest =>
      let (digits, rest) := rest.span Char.isDigit
      if digits.isEmpty then none else some (digits, rest)
  | _ => some ([], chars)

def readPower (chars : List Char) : Option (Option Int × List Char) :=
  match chars with
  | mark :: rest =>
      if mark = 'e' || mark = 'E' then
        let (negative, rest) := splitSign rest
        let (digits, rest) := rest.span Char.isDigit
        if digits.isEmpty then none else some (some (signed negative (natOfDigits digits)), rest)
      else some (none, chars)
  | [] => some (none, [])

/-- A number without its sign. It is an integer when it has neither fraction nor power. -/
def readNumber (digits : Nat) (negative : Bool) (chars : List Char) : Option (Value × List Char) := do
  let (whole, rest) := chars.span Char.isDigit
  if whole.isEmpty || digits < whole.length || (whole.head? == some '0' && whole.length != 1) then none
  else
    let (fraction, rest) ← readFraction rest
    let (power, rest) ← readPower rest
    if fraction.isEmpty && power.isNone then
      return (.int (signed negative (natOfDigits whole)), rest)
    else
      return (.float (.ofDecimal negative (natOfDigits (whole ++ fraction))
        (power.getD 0 - fraction.length)), rest)

/-- A word and the value it stands for. -/
def words : List (List Char × Value) :=
  [("null".toList, .null), ("true".toList, .bool true), ("false".toList, .bool false),
    ("NaN".toList, .float .nan), ("Infinity".toList, .float (.infinite false)),
    ("-Infinity".toList, .float (.infinite true))]

def readWord (chars : List Char) : Option (Value × List Char) :=
  words.findSome? fun (word, value) =>
    if word.isPrefixOf chars then some (value, chars.drop word.length) else none

mutual

/-- Reads one value; `depth` lists and dictionaries may be opened inside one another. -/
def readValue (bounds : Bounds) : Nat → Nat → List Char → Option (Value × List Char)
  | 0, _, _ => none
  | fuel + 1, depth, chars =>
      match skipSpaces chars with
      | '"' :: rest => do
          let (text, rest) ← readText bounds.halves (fuel + 1) rest
          return (.text (String.ofList text), rest)
      | '[' :: rest =>
          match skipSpaces rest with
          | ']' :: rest => some (.list [], rest)
          | rest => do
              if depth = 0 then none
              let (items, rest) ← readItems bounds fuel (depth - 1) rest
              return (.list items, rest)
      | '\x7b' :: rest =>
          match skipSpaces rest with
          | '\x7d' :: rest => some (.dict [], rest)
          | rest => do
              if depth = 0 then none
              let (entries, rest) ← readEntries bounds fuel (depth - 1) [] rest
              return (.dict entries, rest)
      | chars =>
          match readWord chars with
          | some result => some result
          | none =>
              match chars with
              | '-' :: rest => readNumber (bounds.digits true) true rest
              | rest => readNumber (bounds.digits false) false rest

/-- Reads items up to the closing bracket; at least one stands there. -/
def readItems (bounds : Bounds) : Nat → Nat → List Char → Option (List Value × List Char)
  | 0, _, _ => none
  | fuel + 1, depth, chars => do
      let (item, rest) ← readValue bounds fuel depth chars
      match skipSpaces rest with
      | ']' :: rest => return ([item], rest)
      | ',' :: rest =>
          let (items, rest) ← readItems bounds fuel depth rest
          return (item :: items, rest)
      | _ => none

/-- Reads entries up to the closing brace into those read before. -/
def readEntries (bounds : Bounds) : Nat → Nat → Entries → List Char → Option (Entries × List Char)
  | 0, _, _, _ => none
  | fuel + 1, depth, before, chars => do
      match skipSpaces chars with
      | '"' :: rest =>
          let (key, rest) ← readText bounds.halves (fuel + 1) rest
          match skipSpaces rest with
          | ':' :: rest =>
              let (value, rest) ← readValue bounds fuel depth rest
              let entries := before.put (.text (String.ofList key)) value
              match skipSpaces rest with
              | '\x7d' :: rest => return (entries, rest)
              | ',' :: rest => readEntries bounds fuel depth entries rest
              | _ => none
          | _ => none
      | _ => none

end

def read? (bounds : Bounds) (text : String) : Option Value :=
  let chars := text.toList
  match readValue bounds (2 * chars.length + 1) bounds.depth chars with
  | some (value, rest) => if (skipSpaces rest).isEmpty then some value else none
  | none => none

end FleetLink.Json
