import FleetLink.Text.Half
import FleetLink.Text.Printable

/-! Quoted forms of texts and byte strings. The quote is a single one unless the
text holds a single quote and no double quote. The quote itself and the backslash
are escaped, and so is all that is not printable and every unpaired half. -/

namespace FleetLink.Text

def hexDigit (n : Nat) : Char :=
  if n < 10 then Char.ofNat (48 + n) else Char.ofNat (87 + n)

/-- The lowest hexadecimal digits of a number, as many as asked for. -/
def hexChars : Nat → Nat → List Char
  | 0, _ => []
  | width + 1, n => hexChars width (n / 16) ++ [hexDigit (n % 16)]

def quoteFor (chars : List Char) : Char :=
  if chars.contains '\'' && !chars.contains '"' then '"' else '\''

def escapedChar (quote c : Char) : List Char :=
  if c = quote || c = '\\' then ['\\', c]
  else if c = '\n' then ['\\', 'n']
  else if c = '\r' then ['\\', 'r']
  else if c = '\t' then ['\\', 't']
  else if let some unit := half? c then '\\' :: 'u' :: hexChars 4 unit
  else if isPrintable c then [c]
  else if c.toNat < 0x100 then '\\' :: 'x' :: hexChars 2 c.toNat
  else if c.toNat < 0x10000 then '\\' :: 'u' :: hexChars 4 c.toNat
  else '\\' :: 'U' :: hexChars 8 c.toNat

def quotedChars (chars : List Char) : List Char :=
  let quote := quoteFor chars
  quote :: chars.flatMap (escapedChar quote) ++ [quote]

def quoted (text : String) : String :=
  String.ofList (quotedChars text.toList)

def escapedByte (quote : Char) (byte : UInt8) : List Char :=
  if byte.toNat < 0x7F then escapedChar quote (Char.ofNat byte.toNat)
  else '\\' :: 'x' :: hexChars 2 byte.toNat

def quotedBytes (bytes : List UInt8) : String :=
  let quote := quoteFor (bytes.map fun byte => Char.ofNat byte.toNat)
  String.ofList ('b' :: quote :: bytes.flatMap (escapedByte quote) ++ [quote])

end FleetLink.Text
