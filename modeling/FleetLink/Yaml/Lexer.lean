import FleetLink.Yaml.Source
import FleetLink.Yaml.Token

/-! A place in a settings file that is read token by token. A scalar or collection becomes
a key when a colon follows on its line, so a place where a key may have begun is remembered
until that is settled. -/

namespace FleetLink.Yaml

/-- Stands for the end of the text; no text contains it. -/
def endMark : Char := Char.ofNat 0

def isBreak (c : Char) : Bool :=
  c == '\n' || c.toNat == 0x85 || c.toNat == 0x2028 || c.toNat == 0x2029

def isBreakOrEnd (c : Char) : Bool := isBreak c || c == endMark
def isGap (c : Char) : Bool := c == ' ' || c == '\t' || isBreakOrEnd c

/-- What may follow a tag or the parts of a directive: a gap, but no tab. -/
def isSpaceOrEnd (c : Char) : Bool := c == ' ' || isBreakOrEnd c

/-- A place where a key may have begun. It is `required` to be one where nothing else
may stand. -/
structure KeyStart where
  token : Nat
  required : Bool
  index : Nat
  line : Nat
  column : Nat

/-- `ending` says why the text breaks off where it does, `indent` is the column of the
innermost block and -1 outside all blocks, `flow` the number of open brackets, and `keys`
holds at most one key start per level. -/
structure Lexer where
  rest : List Char
  ending : Option ReadError
  index : Nat
  line : Nat
  column : Nat
  flow : Nat
  indent : Int
  outer : List Int
  keyAllowed : Bool
  keys : List (Nat × KeyStart)
  tokens : Array Token

namespace Lexer

def start (source : Source) : Lexer :=
  ⟨source.chars, source.ending, 0, 0, 0, 0, -1, [], true, [], #[]⟩

/-- What is wrong when the text ends within a token. -/
def cutShort (lexer : Lexer) : ReadError := lexer.ending.getD .malformed

/-- What is wrong where a token cannot go on. -/
def refusal (lexer : Lexer) : ReadError := if lexer.rest.isEmpty then lexer.cutShort else .malformed

def peek (lexer : Lexer) (ahead : Nat) : Char := (lexer.rest.drop ahead).head?.getD endMark

def here (lexer : Lexer) : Char := lexer.rest.head?.getD endMark

/-- Passes over characters; a byte order mark takes no column. -/
def forward (lexer : Lexer) : Nat → Lexer
  | 0 => lexer
  | count + 1 =>
      match lexer.rest with
      | [] => lexer
      | c :: rest =>
          let moved := { lexer with rest := rest, index := lexer.index + 1 }
          forward (if isBreak c then { moved with line := lexer.line + 1, column := 0 }
            else if c == byteOrderMark then moved
            else { moved with column := lexer.column + 1 }) count

def takeWhile (lexer : Lexer) (p : Char → Bool) : List Char × Lexer :=
  let run := lexer.rest.takeWhile p
  (run, lexer.forward run.length)

def skipWhile (lexer : Lexer) (p : Char → Bool) : Lexer := (lexer.takeWhile p).2

/-- The character that a line break counts as, and the place after it. -/
def lineBreak? (lexer : Lexer) : Option (Char × Lexer) :=
  let c := lexer.here
  if c == '\n' || c.toNat == 0x85 then some ('\n', lexer.forward 1)
  else if isBreak c then some (c, lexer.forward 1)
  else none

/-- Passes over spaces, and over a comment behind them. -/
def skipRemark (lexer : Lexer) : Lexer :=
  let lexer := lexer.skipWhile (· == ' ')
  if lexer.here == '#' then lexer.skipWhile (!isBreakOrEnd ·) else lexer

/-- Passes over the rest of a line, which may only be a comment. -/
def endLine (lexer : Lexer) : Except ReadError Lexer := do
  let lexer := lexer.skipRemark
  match lexer.lineBreak? with
  | some (_, next) => return next
  | none => if lexer.here == endMark then return lexer else throw .malformed

def push (lexer : Lexer) (token : Token) : Lexer := { lexer with tokens := lexer.tokens.push token }

def insert (lexer : Lexer) (place : Nat) (token : Token) : Lexer :=
  { lexer with tokens := lexer.tokens.toList.insertIdx place token |>.toArray }

/-- Whether a document mark stands here, three characters with a gap after them. -/
def atMark (lexer : Lexer) (c : Char) : Bool :=
  lexer.here == c && lexer.peek 1 == c && lexer.peek 2 == c && isGap (lexer.peek 3)

def atSeparator (lexer : Lexer) : Bool := lexer.atMark '-' || lexer.atMark '.'

/-- Skips blanks, comments and line breaks up to the next token. -/
def toNext : Nat → Lexer → Lexer
  | 0, lexer => lexer
  | fuel + 1, lexer =>
      let lexer := lexer.skipRemark
      match lexer.lineBreak? with
      | some (_, next) =>
          toNext fuel (if next.flow = 0 then { next with keyAllowed := true } else next)
      | none => lexer

/-- Key starts are forgotten on the next line and after 1024 characters, but a required
one must not be. -/
def dropStale (lexer : Lexer) : Except ReadError Lexer :=
  let stale (start : KeyStart) : Bool := start.line != lexer.line || lexer.index - start.index > 1024
  if lexer.keys.any fun (_, start) => stale start && start.required then throw .malformed
  else return { lexer with keys := lexer.keys.filter fun (_, start) => !stale start }

def keyHere? (lexer : Lexer) : Option KeyStart := lexer.keys.lookup lexer.flow

def forgetKey (lexer : Lexer) : Except ReadError Lexer :=
  if (lexer.keyHere?.map (·.required)).getD false then throw .malformed
  else return { lexer with keys := lexer.keys.filter (·.1 != lexer.flow) }

def rememberKey (lexer : Lexer) : Except ReadError Lexer :=
  if lexer.keyAllowed then do
    let cleared ← lexer.forgetKey
    let required := lexer.flow == 0 && lexer.indent == lexer.column
    let start : KeyStart := ⟨lexer.tokens.size, required, lexer.index, lexer.line, lexer.column⟩
    return { cleared with keys := (lexer.flow, start) :: cleared.keys }
  else return lexer

/-- Ends the blocks that are indented further than the given column. -/
def unwind (lexer : Lexer) (column : Int) : Lexer :=
  if lexer.flow != 0 then lexer
  else
    let closing := (lexer.indent :: lexer.outer).takeWhile (column < ·)
    let left := (lexer.indent :: lexer.outer).drop closing.length
    { lexer with
      indent := left.headD (-1)
      outer := left.drop 1
      tokens := closing.foldl (fun tokens _ => tokens.push .blockEnd) lexer.tokens }

/-- Opens a block at a column that is further in than the innermost one. -/
def opens (lexer : Lexer) (column : Nat) : Option Lexer :=
  if lexer.indent < column then
    some { lexer with indent := column, outer := lexer.indent :: lexer.outer }
  else none

def documentMark (lexer : Lexer) (token : Token) : Except ReadError Lexer := do
  let lexer ← (lexer.unwind (-1)).forgetKey
  return ({ lexer with keyAllowed := false }.forward 3).push token

def flowStart (lexer : Lexer) (token : Token) : Except ReadError Lexer := do
  let lexer ← lexer.rememberKey
  return ({ lexer with flow := lexer.flow + 1, keyAllowed := true }.forward 1).push token

def flowEnd (lexer : Lexer) (token : Token) : Except ReadError Lexer := do
  if lexer.flow = 0 then throw .malformed
  let lexer ← lexer.forgetKey
  return ({ lexer with flow := lexer.flow - 1, keyAllowed := false }.forward 1).push token

def flowEntry (lexer : Lexer) : Except ReadError Lexer := do
  let lexer ← { lexer with keyAllowed := true }.forgetKey
  return (lexer.forward 1).push .flowEntry

def blockEntry (lexer : Lexer) : Except ReadError Lexer := do
  if lexer.flow = 0 && !lexer.keyAllowed then throw .malformed
  let opened := if lexer.flow = 0 then (lexer.opens lexer.column).map (·.push .blockList) else none
  let lexer ← { opened.getD lexer with keyAllowed := true }.forgetKey
  return (lexer.forward 1).push .blockEntry

def explicitKey (lexer : Lexer) : Except ReadError Lexer := do
  if lexer.flow = 0 && !lexer.keyAllowed then throw .malformed
  let opened := if lexer.flow = 0 then (lexer.opens lexer.column).map (·.push .blockDict) else none
  let lexer ← { opened.getD lexer with keyAllowed := lexer.flow == 0 }.forgetKey
  return (lexer.forward 1).push .key

/-- The colon after a key. When a key may have begun before it, the mark of the key is
put there, and in front of that the start of a block if the key opens one. -/
def value (lexer : Lexer) : Except ReadError Lexer :=
  match lexer.keyHere? with
  | some start =>
      let lexer := { lexer with keys := lexer.keys.filter (·.1 != lexer.flow), keyAllowed := false }
      let lexer := lexer.insert start.token .key
      let opened := if lexer.flow = 0 then (lexer.opens start.column).map (·.insert start.token .blockDict) else none
      return ((opened.getD lexer).forward 1).push .value
  | none => do
      if lexer.flow = 0 && !lexer.keyAllowed then throw .malformed
      let opened := if lexer.flow = 0 then (lexer.opens lexer.column).map (·.push .blockDict) else none
      let lexer ← { opened.getD lexer with keyAllowed := lexer.flow == 0 }.forgetKey
      return (lexer.forward 1).push .value

def isNameChar (c : Char) : Bool := c.isAlphanum || c == '-' || c == '_'

/-- The name after an ampersand or asterisk, and what may follow it. -/
def named (lexer : Lexer) (token : String → Token) : Except ReadError Lexer := do
  let lexer ← lexer.rememberKey
  let (name, lexer) := ({ lexer with keyAllowed := false }.forward 1).takeWhile isNameChar
  if name.isEmpty then throw lexer.refusal
  if isGap lexer.here || "?:,]%@".toList.contains lexer.here || lexer.here == '\x7d' || lexer.here.toNat == 0x60 then
    return lexer.push (token (String.ofList name))
  else throw .malformed

end Lexer

end FleetLink.Yaml
