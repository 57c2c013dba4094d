import FleetLink.Json.Reader
import FleetLink.Yaml.Lexer
import FleetLink.Yaml.Scalar

/-! Tags, which say what a node is, and directives, which stand in front of a document and
may give the beginning of long tags a short handle. -/

namespace FleetLink.Yaml

def isTagChar (c : Char) : Bool := c.isAlphanum || "-;/?:@&=+$,_.!~*'()[]".toList.contains c

namespace Lexer

/-- Bytes written as percent signs with two hexadecimal digits. -/
def percentBytes : Nat → Lexer → Except ReadError (List UInt8 × Lexer)
  | 0, lexer => return ([], lexer)
  | fuel + 1, lexer =>
      if lexer.here != '%' then return ([], lexer)
      else match Json.hexValue? (lexer.peek 1), Json.hexValue? (lexer.peek 2) with
        | some high, some low => do
            let (more, last) ← percentBytes fuel (lexer.forward 3)
            return (.ofNat (16 * high + low) :: more, last)
        | _, _ => throw (lexer.forward 3).refusal

/-- Characters of a tag; those that may not stand in one are written as bytes. -/
def tagChars : Nat → Lexer → Except ReadError (List Char × Lexer)
  | 0, lexer => return ([], lexer)
  | fuel + 1, lexer => do
      let c := lexer.here
      if c == '%' then
        let (bytes, next) ← lexer.percentBytes fuel
        let chars ← (Text.Utf8.decodeFrom 0 bytes).mapError fun _ => .malformed
        let (more, last) ← tagChars fuel next
        return (chars ++ more, last)
      else if isTagChar c then
        let (more, last) ← tagChars fuel (lexer.forward 1)
        return (c :: more, last)
      else return ([], lexer)

/-- The text of a tag or of its beginning, which is not empty. -/
def tagText (lexer : Lexer) : Except ReadError (String × Lexer) := do
  let (chars, next) ← lexer.tagChars (lexer.rest.length + 1)
  if chars.isEmpty then throw next.refusal
  return (String.ofList chars, next)

/-- An exclamation mark, or a name between two of them. -/
def tagHandle (lexer : Lexer) : Except ReadError (String × Lexer) := do
  if lexer.here != '!' then throw lexer.refusal
  if lexer.peek 1 == ' ' then return ("!", lexer.forward 1)
  let (name, next) := (lexer.forward 1).takeWhile isNameChar
  if next.here != '!' then throw next.refusal
  return (String.ofList ('!' :: name ++ ['!']), next.forward 1)

/-- A tag written out in angle brackets, an exclamation mark alone, or a handle with what
follows it. -/
def tagParts (lexer : Lexer) : Except ReadError (Tag × Lexer) := do
  let second := lexer.peek 1
  if second == '<' then
    let (suffix, next) ← (lexer.forward 2).tagText
    if next.here != '>' then throw next.refusal
    return (⟨none, suffix⟩, next.forward 1)
  if isGap second then return (⟨none, "!"⟩, lexer.forward 1)
  let word := (lexer.rest.drop 1).takeWhile (!isSpaceOrEnd ·)
  let (handle, next) ← if word.contains '!' then lexer.tagHandle else pure ("!", lexer.forward 1)
  let (suffix, next) ← next.tagText
  return (⟨some handle, suffix⟩, next)

def tag (lexer : Lexer) : Except ReadError Lexer := do
  let lexer ← lexer.rememberKey
  let (tag, next) ← { lexer with keyAllowed := false }.tagParts
  if !isSpaceOrEnd next.here then throw .malformed
  return next.push (.tag tag)

def versionNumber (lexer : Lexer) : Except ReadError (Int × Lexer) := do
  let (digits, next) := lexer.takeWhile Char.isDigit
  if digits.isEmpty then throw next.refusal
  return (← (decimalInt false digits).mapError .scalar, next)

/-- What follows the name of a directive. -/
def directiveParts (name : List Char) (lexer : Lexer) : Except ReadError (Directive × Lexer) := do
  let skipped := lexer.skipWhile (· == ' ')
  if name == "YAML".toList then
    let (major, next) ← skipped.versionNumber
    if next.here != '.' then throw next.refusal
    let (_, next) ← (next.forward 1).versionNumber
    if !isSpaceOrEnd next.here then throw .malformed
    return (.version major, next)
  if name == "TAG".toList then
    let (handle, next) ← skipped.tagHandle
    if next.here != ' ' then throw next.refusal
    let (opening, next) ← (next.skipWhile (· == ' ')).tagText
    if !isSpaceOrEnd next.here then throw .malformed
    return (.handle handle opening, next)
  return (.other, lexer.skipWhile (!isBreakOrEnd ·))

/-- A line in front of a document. It ends the document before it. -/
def directive (lexer : Lexer) : Except ReadError Lexer := do
  let lexer ← (lexer.unwind (-1)).forgetKey
  let (name, next) := ({ lexer with keyAllowed := false }.forward 1).takeWhile isNameChar
  if name.isEmpty then throw next.refusal
  if !isSpaceOrEnd next.here then throw .malformed
  let (directive, next) ← next.directiveParts name
  return (← next.endLine).push (.directive directive)

end Lexer

end FleetLink.Yaml
