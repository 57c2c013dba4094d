import FleetLink.Yaml.Error

/-! The characters of a settings file. The bytes of a file come in blocks, and its
characters are taken in portions, the first two together. A portion that cannot be had
ends the text at its beginning, so what is wrong further in front is found first. -/

namespace FleetLink.Yaml

open Text.Utf8

/-- `ending` says why no more characters can be had. -/
structure Source where
  chars : List Char
  ending : Option ReadError

/-- Characters that a file may hold. -/
def isAllowed (c : Char) : Bool :=
  let code := c.toNat
  code == 0x09 || code == 0x0A || code == 0x0D || (0x20 ≤ code && code ≤ 0x7E) || code == 0x85 ||
    (0xA0 ≤ code && code ≤ 0xFFFD) || 0x10000 ≤ code

def byteOrderMark : Char := Char.ofNat 0xFEFF

/-- All three ways to end a line become one. -/
def joinLineEnds : List Char → List Char
  | [] => []
  | '\r' :: '\n' :: rest => '\n' :: joinLineEnds rest
  | '\r' :: rest => '\n' :: joinLineEnds rest
  | c :: rest => c :: joinLineEnds rest

namespace Source

def blockSize : Nat := 8192
def portionSize : Nat := 4096

/-- The characters of a block and the bytes of an unfinished one at its end. -/
def decodeBlock (bytes : List UInt8) : Except DecodeError (List Char × List UInt8) :=
  match decodeFrom 0 bytes with
  | .ok chars => .ok (chars, [])
  | .error error =>
      if error.fault = .ended then
        (decodeFrom 0 (bytes.take error.start)).map fun chars => (chars, bytes.drop error.start)
      else .error error

/-- The characters up to the first fault. Bytes left over from one block are put before
the next one, and the places of faulty bytes are counted from there. -/
def decodeBlocks : Nat → List UInt8 → List UInt8 → List Char × Option DecodeError
  | 0, _, _ => ([], none)
  | fuel + 1, left, bytes =>
      if bytes.isEmpty then
        match decodeFrom 0 left with
        | .ok chars => (chars, none)
        | .error error => ([], some error)
      else match decodeBlock (left ++ bytes.take blockSize) with
        | .ok (chars, left) =>
            let (more, error) := decodeBlocks fuel left (bytes.drop blockSize)
            (chars ++ more, error)
        | .error error => ([], some error)

/-- The number of characters in front of the portion in which a place lies. -/
def portionStart (place : Nat) : Nat :=
  if place < 2 * portionSize then 0 else place / portionSize * portionSize

/-- Of two faults in one portion the undecodable bytes are met first. -/
def ofBytes (bytes : List UInt8) : Source :=
  let (chars, error) := decodeBlocks (bytes.length + 1) [] bytes
  let chars := joinLineEnds chars
  let sound := portionStart chars.length
  let allowed := portionStart (chars.findIdx (!isAllowed ·))
  if chars.all isAllowed || (error.isSome && sound ≤ allowed) then
    match error with
    | some error => ⟨chars.take sound, some (.undecodable error)⟩
    | none => ⟨chars, none⟩
  else ⟨chars.take allowed, some .malformed⟩

end Source

end FleetLink.Yaml
