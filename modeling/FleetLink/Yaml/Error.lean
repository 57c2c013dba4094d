import FleetLink.Text.Utf8
import FleetLink.Yaml.Scalar

/-! Why a settings file in YAML cannot be read. Parts are read one after another, and the
first that cannot be read decides. -/

namespace FleetLink.Yaml

open Number

inductive ReadError where
  | malformed
  | noCharacter (code : Nat)
  | undecodable (error : Text.Utf8.DecodeError)
  | scalar (error : ScalarError)
deriving DecidableEq, Repr

/-- Codes of characters end at this one, and codes of any kind before the other. -/
def lastCode : Nat := 0x10FFFF
def codeLimit : Nat := twoTo 31

def ReadError.message : ReadError → String
  | .malformed => ""
  | .noCharacter code =>
      if code < codeLimit then "chr() arg not in range(0x110000)"
      else "Python int too large to convert to C int"
  | .undecodable error => error.message
  | .scalar error => error.message

end FleetLink.Yaml
