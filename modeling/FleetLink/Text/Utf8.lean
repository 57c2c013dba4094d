import FleetLink.Text.Quoted

/-! Texts as UTF-8. Reading refuses overlong forms, surrogates and code points past
the last one, and reports the bytes that are at fault. -/

namespace FleetLink.Text.Utf8

def encodeChar (c : Char) : List UInt8 :=
  let code := c.toNat
  if code < 0x80 then [code.toUInt8]
  else if code < 0x800 then [(0xC0 + code / 0x40).toUInt8, (0x80 + code % 0x40).toUInt8]
  else if code < 0x10000 then
    [(0xE0 + code / 0x1000).toUInt8, (0x80 + code / 0x40 % 0x40).toUInt8, (0x80 + code % 0x40).toUInt8]
  else
    [(0xF0 + code / 0x40000).toUInt8, (0x80 + code / 0x1000 % 0x40).toUInt8,
      (0x80 + code / 0x40 % 0x40).toUInt8, (0x80 + code % 0x40).toUInt8]

def encode (text : String) : List UInt8 :=
  text.toList.flatMap encodeChar

/-- The message of halves that no bytes encode. -/
def unencodableMessage (run : HalfRun) : String :=
  let place :=
    if run.count = 1 then
      "character '\\u" ++ String.ofList (hexChars 4 run.first) ++ "' in position " ++ toString run.start
    else "characters in position " ++ toString run.start ++ "-" ++ toString (run.start + run.count - 1)
  "'utf-8' codec can't encode " ++ place ++ ": surrogates not allowed"

inductive Fault where
  | start
  | continuation
  | ended
deriving DecidableEq, Repr

/-- The faulty bytes are `count` bytes from `start` on; `first` is the first of them. -/
structure DecodeError where
  fault : Fault
  first : UInt8
  start : Nat
  count : Nat
deriving DecidableEq, Repr

def Fault.reason : Fault → String
  | .start => "invalid start byte"
  | .continuation => "invalid continuation byte"
  | .ended => "unexpected end of data"

def DecodeError.message (error : DecodeError) : String :=
  let place :=
    if error.count = 1 then
      "byte 0x" ++ String.ofList (hexChars 2 error.first.toNat) ++ " in position " ++ toString error.start
    else
      "bytes in position " ++ toString error.start ++ "-" ++ toString (error.start + error.count - 1)
  "'utf-8' codec can't decode " ++ place ++ ": " ++ error.fault.reason

/-- How a lead byte goes on: the bits it carries, the lowest and highest second
byte, and the number of plain continuation bytes after that one. -/
structure Lead where
  bits : Nat
  low : Nat
  high : Nat
  more : Nat

def lead? (byte : UInt8) : Option Lead :=
  let n := byte.toNat
  if n < 0xC2 then none
  else if n < 0xE0 then some ⟨n - 0xC0, 0x80, 0xBF, 0⟩
  else if n < 0xF0 then
    some ⟨n - 0xE0, if n = 0xE0 then 0xA0 else 0x80, if n = 0xED then 0x9F else 0xBF, 1⟩
  else if n < 0xF5 then
    some ⟨n - 0xF0, if n = 0xF0 then 0x90 else 0x80, if n = 0xF4 then 0x8F else 0xBF, 2⟩
  else none

/-- Reads continuation bytes: the value they complete and the bytes after them, or
the fault and the number of sound bytes before it. -/
def continued : Nat → Nat → Nat → List UInt8 → Except (Fault × Nat) (Nat × List UInt8)
  | 0, _, value, rest => .ok (value, rest)
  | _ + 1, sound, _, [] => .error (.ended, sound)
  | more + 1, sound, value, byte :: rest =>
      if 0x80 ≤ byte.toNat && byte.toNat ≤ 0xBF then
        continued more (sound + 1) (value * 0x40 + (byte.toNat - 0x80)) rest
      else .error (.continuation, sound)

def Lead.read (lead : Lead) : List UInt8 → Except (Fault × Nat) (Nat × List UInt8)
  | [] => .error (.ended, 1)
  | byte :: rest =>
      if lead.low ≤ byte.toNat && byte.toNat ≤ lead.high then
        continued lead.more 2 (lead.bits * 0x40 + (byte.toNat - 0x80)) rest
      else .error (.continuation, 1)

theorem continued_length {more sound value : Nat} {bytes rest : List UInt8} {result : Nat}
    (read : continued more sound value bytes = .ok (result, rest)) : rest.length ≤ bytes.length := by
  induction more generalizing sound value bytes with
  | zero =>
    simp only [continued, Except.ok.injEq, Prod.mk.injEq] at read
    simp [read.2]
  | succ more ih =>
    cases bytes with
    | nil => simp [continued] at read
    | cons byte bytes =>
      simp only [continued] at read
      split at read
      · have shorter := ih read
        simp only [List.length_cons]
        omega
      · simp at read

theorem Lead.read_length {lead : Lead} {bytes rest : List UInt8} {result : Nat}
    (read : lead.read bytes = .ok (result, rest)) : rest.length ≤ bytes.length := by
  cases bytes with
  | nil => simp [Lead.read] at read
  | cons byte bytes =>
    simp only [Lead.read] at read
    split at read
    · have shorter := continued_length read
      simp only [List.length_cons]
      omega
    · simp at read

/-- Reads the bytes from position `start` on. -/
def decodeFrom (start : Nat) (bytes : List UInt8) : Except DecodeError (List Char) :=
  match bytes with
  | [] => .ok []
  | byte :: rest =>
    if byte.toNat < 0x80 then
      (Char.ofNat byte.toNat :: ·) <$> decodeFrom (start + 1) rest
    else match lead? byte with
      | none => .error ⟨.start, byte, start, 1⟩
      | some lead =>
        match h : lead.read rest with
        | .error (fault, sound) => .error ⟨fault, byte, start, sound⟩
        | .ok (code, after) =>
          have : after.length ≤ rest.length := Lead.read_length h
          (Char.ofNat code :: ·) <$> decodeFrom (start + 2 + lead.more) after
termination_by bytes.length

def decode (bytes : List UInt8) : Except DecodeError String :=
  String.ofList <$> decodeFrom 0 bytes

end FleetLink.Text.Utf8
