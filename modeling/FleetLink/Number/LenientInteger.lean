import FleetLink.Number.IntegerText

/-! Integers as lenient readers take them. A text that is an integer in its strict form,
a minus sign at most and no needless zero, is read as it stands. Any other text is tidied
first, and what is left must be of the strict form. -/

namespace FleetLink.Number

open Text

/-- The text after its minus sign, and whether there is one. -/
def splitMinus : List Char → Bool × List Char
  | '-' :: rest => (true, rest)
  | chars => (false, chars)

/-- Reads the strict form without a sign, of at most so many digits. Their number is looked
at before what follows them. -/
def strictUnsigned (limit : Nat) (chars : List Char) : Except IntegerTextError Nat :=
  let (digits, rest) := chars.span Char.isDigit
  if digits.isEmpty || (digits.head? == some '0' && digits.length != 1) then .error .malformed
  else if limit < digits.length then .error (.tooLong digits.length)
  else if !rest.isEmpty then .error .malformed
  else .ok (natOfDigits digits)

/-- Reads the strict form. A minus sign takes the place of a digit. -/
def strictInteger (chars : List Char) : Except IntegerTextError Int :=
  match splitMinus chars with
  | (true, body) => signed true <$> strictUnsigned (digitLimit - 1) body
  | (false, body) => signed false <$> strictUnsigned digitLimit body

/-- The text behind zeros and underscores. What stands there must begin with a digit or a
minus sign, or else with a point, and then the character in front of it is kept; of a
text with nothing behind them the last character is left. -/
def behindZeros? (last : Char) : List Char → Option (List Char)
  | [] => some [last]
  | c :: rest =>
      if c = '0' || c = '_' then behindZeros? c rest
      else if c.isDigit || c = '-' then some (c :: rest)
      else if c = '.' then some (last :: c :: rest)
      else none

/-- Drops the zeros in front; a text that begins otherwise must begin with a digit or a
minus sign. -/
def dropLeadingZeros? : List Char → Option (List Char)
  | [] => none
  | c :: rest =>
      if c = '0' then behindZeros? c rest
      else if c.isDigit || c = '-' then some (c :: rest)
      else none

/-- Drops a point with zeros and nothing else behind it. -/
def dropPointZeros (chars : List Char) : List Char :=
  let (whole, rest) := chars.span (· != '.')
  match rest with
  | '.' :: digits => if !digits.isEmpty && digits.all (· == '0') then whole else chars
  | _ => chars

/-- Drops underscores, which must stand alone and not at an end. -/
def dropUnderscores? (chars : List Char) : Option (List Char) :=
  if chars.head? != some '_' && underscoresSeparate chars then some (chars.filter (· != '_')) else none

/-- Whether the text has a minus sign, and what else is left of it without all that a lenient
reader passes over. -/
def tidied? (chars : List Char) : Option (Bool × List Char) := do
  let (negative, body) := splitSign (trimChars isWhiteSpace chars)
  return (negative, ← dropUnderscores? (dropPointZeros (← dropLeadingZeros? body)))

/-- Reads what is left of a text. Its minus sign is put aside and takes no place. -/
def tidiedInteger? (chars : List Char) : Option Int := do
  let (negative, body) ← tidied? chars
  if negative then (signed true <$> strictUnsigned digitLimit body).toOption
  else (strictInteger body).toOption

/-- Only a text of the strict form can be too long. -/
def lenientInteger (text : String) : Except IntegerTextError Int :=
  match strictInteger text.toList with
  | .error .malformed => (tidiedInteger? text.toList).elim (.error .malformed) .ok
  | outcome => outcome

end FleetLink.Number
