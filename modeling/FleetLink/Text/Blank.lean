/-! Blank characters, and the texts left when they are taken off both ends. -/

namespace FleetLink.Text

/-- The characters with the White_Space property. -/
def isWhiteSpace (c : Char) : Bool :=
  let code := c.toNat
  (0x09 ≤ code && code ≤ 0x0D) || code == 0x20 || code == 0x85 || code == 0xA0 || code == 0x1680 ||
    (0x2000 ≤ code && code ≤ 0x200A) || code == 0x2028 || code == 0x2029 || code == 0x202F ||
    code == 0x205F || code == 0x3000

/-- White space and the four separator controls. -/
def isBlank (c : Char) : Bool :=
  isWhiteSpace c || (0x1C ≤ c.toNat && c.toNat ≤ 0x1F)

def trimChars (blank : Char → Bool) (chars : List Char) : List Char :=
  ((chars.dropWhile blank).reverse.dropWhile blank).reverse

def trimWhile (blank : Char → Bool) (text : String) : String :=
  String.ofList (trimChars blank text.toList)

/-- The text without the blanks at its ends. -/
def strip (text : String) : String :=
  trimWhile isBlank text

end FleetLink.Text
