import FleetLink.Text.CaseTable

/-! Letter case of texts. Lowering follows the rule for the Greek sigma, which has
a form of its own at the end of a word; every other character maps on its own. -/

namespace FleetLink.Text

def shifted (runs : List CaseRun) (c : Char) : Char :=
  match runs.find? (·.covers c.toNat) with
  | some run => Char.ofNat (Int.toNat (c.toNat + run.shift))
  | none => c

private def within (ranges : List (Nat × Nat)) (c : Char) : Bool :=
  ranges.any fun (first, last) => first ≤ c.toNat && c.toNat ≤ last

def isCased (c : Char) : Bool :=
  if c.toNat < 128 then c.isAlpha else within casedRanges c

def isCaseIgnorable (c : Char) : Bool :=
  within caseIgnorableRanges c

/-- Whether the nearest character that is not skipped has letter case. -/
def nextIsCased (chars : List Char) : Bool :=
  ((chars.dropWhile isCaseIgnorable).head?.map isCased).getD false

/-- A sigma ends a word when a cased character stands before it and none after it. -/
def endsWord (before after : List Char) : Bool :=
  nextIsCased before && !nextIsCased after

def lowerChar (c : Char) : List Char :=
  if c.toNat < 128 then [c.toLower]
  else if c.toNat = 0x130 then ['i', Char.ofNat 0x307]
  else [shifted lowerRuns c]

/-- The first argument holds the characters already passed, nearest first. -/
def lowerChars (before : List Char) : List Char → List Char
  | [] => []
  | 'Σ' :: rest => (if endsWord before rest then 'ς' else 'σ') :: lowerChars ('Σ' :: before) rest
  | c :: rest => lowerChar c ++ lowerChars (c :: before) rest

def lower (text : String) : String :=
  String.ofList (lowerChars [] text.toList)

/-- Bytes have letter case as ASCII does. -/
def lowerByte (byte : UInt8) : UInt8 :=
  if 65 ≤ byte.toNat && byte.toNat ≤ 90 then byte + 32 else byte

def upperChar (c : Char) : List Char :=
  if c.toNat < 128 then [c.toUpper]
  else match longUpper.lookup c.toNat with
    | some codes => codes.map Char.ofNat
    | none => [shifted upperRuns c]

def upper (text : String) : String :=
  String.ofList (text.toList.flatMap upperChar)

end FleetLink.Text
