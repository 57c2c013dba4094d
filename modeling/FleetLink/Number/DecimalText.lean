import FleetLink.Number.Binary64

/-! Decimal texts: digits, a point among or beside them, and a power of ten. -/

namespace FleetLink.Number

def natOfDigits (digits : List Char) : Nat :=
  digits.foldl (fun total digit => 10 * total + (digit.toNat - 48)) 0

/-- The text after its sign, and whether the sign is a minus. -/
def splitSign : List Char → Bool × List Char
  | '-' :: rest => (true, rest)
  | '+' :: rest => (false, rest)
  | chars => (false, chars)

def signed (negative : Bool) (size : Nat) : Int :=
  if negative then -size else size

/-- The power of ten that ends a decimal text; a text without one has power zero. -/
def powerOfTen? : List Char → Option Int
  | [] => some 0
  | mark :: rest =>
      if mark = 'e' ∨ mark = 'E' then
        let (negative, digits) := splitSign rest
        if digits.isEmpty || !digits.all Char.isDigit then none
        else some (signed negative (natOfDigits digits))
      else none

/-- An unsigned decimal as its digits read as a whole and the power of ten they count.
At least one digit stands before the power. -/
def unsignedDecimal? (chars : List Char) : Option (Nat × Int) :=
  let (whole, rest) := chars.span Char.isDigit
  let (fraction, rest) := match rest with
    | '.' :: rest => rest.span Char.isDigit
    | _ => ([], rest)
  if whole.isEmpty && fraction.isEmpty then none
  else (powerOfTen? rest).map fun power =>
    (natOfDigits (whole ++ fraction), power - fraction.length)

/-- Whether a text is this word in any mixture of ASCII letter cases. -/
def isWord (word : String) (chars : List Char) : Bool :=
  chars.map Char.toLower == word.toList

def isInfinityWord (chars : List Char) : Bool :=
  isWord "inf" chars || isWord "infinity" chars

namespace Binary64

/-- The number nearest to a decimal text, which may also name an infinity or say that
there is no number. -/
def ofChars? (chars : List Char) : Option Binary64 :=
  let (negative, body) := splitSign chars
  if isInfinityWord body then some (.infinite negative)
  else if isWord "nan" body then some .nan
  else (unsignedDecimal? body).map fun (digits, power) => ofDecimal negative digits power

def ofText? (text : String) : Option Binary64 := ofChars? text.toList

end Binary64

end FleetLink.Number
