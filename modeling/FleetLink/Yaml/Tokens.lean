import FleetLink.Yaml.BlockScalar
import FleetLink.Yaml.InlineScalar
import FleetLink.Yaml.Tag

/-! From a settings file to its tokens. Where the text goes wrong, the tokens before are
still delivered, for something may be wrong with them too. -/

namespace FleetLink.Yaml

namespace Lexer

/-- Reads the token that begins here. -/
def token (lexer : Lexer) : Except ReadError Lexer :=
  let c := lexer.here
  let apart := isGap (lexer.peek 1)
  if c == '%' && lexer.column == 0 then lexer.directive
  else if lexer.column == 0 && lexer.atMark '-' then lexer.documentMark .documentStart
  else if lexer.column == 0 && lexer.atMark '.' then lexer.documentMark .documentEnd
  else if c == '[' then lexer.flowStart .flowListStart
  else if c == '\x7b' then lexer.flowStart .flowDictStart
  else if c == ']' then lexer.flowEnd .flowListEnd
  else if c == '\x7d' then lexer.flowEnd .flowDictEnd
  else if c == ',' then lexer.flowEntry
  else if c == '-' && apart then lexer.blockEntry
  else if c == '?' && (lexer.flow != 0 || apart) then lexer.explicitKey
  else if c == ':' && (lexer.flow != 0 || apart) then lexer.value
  else if c == '*' then lexer.named .reference
  else if c == '&' then lexer.named .anchor
  else if c == '!' then lexer.tag
  else if c == '|' && lexer.flow == 0 then lexer.blockScalar false
  else if c == '>' && lexer.flow == 0 then lexer.blockScalar true
  else if c == '\'' || c == '"' then lexer.quoted
  else if lexer.startsPlain then lexer.plain
  else throw .malformed

/-- The tokens before the first place where a key may still have begun: those that no
later token changes. -/
def settled (lexer : Lexer) : List Token :=
  let keys := match lexer.dropStale with
    | .ok fresh => fresh.keys
    | .error _ => lexer.keys
  let first := keys.foldl (fun least (_, start) => min least start.token) lexer.tokens.size
  lexer.tokens.toList.take first

/-- Goes to the next token and closes the blocks that end before it. -/
def advance (lexer : Lexer) : Except ReadError Lexer := do
  let next ← (toNext (lexer.rest.length + 1) lexer).dropStale
  return next.unwind next.column

/-- Reads a token. One that reaches to where the text breaks off might go on. -/
def step (lexer : Lexer) : Except ReadError Lexer := do
  let next ← lexer.token
  match next.rest, next.ending with
  | [], some error => throw error
  | _, _ => return next

/-- Closes everything at the end of the text. -/
def finish (lexer : Lexer) : Except ReadError Lexer :=
  match lexer.ending with
  | some error => throw error
  | none => (lexer.unwind (-1)).forgetKey

end Lexer

/-- The tokens that can be read, and what is wrong behind them. -/
structure Lexed where
  tokens : List Token
  fault : Option ReadError

namespace Lexer

/-- Reads all tokens. Each one takes at least one character. -/
def run : Nat → Lexer → Lexed
  | 0, lexer => ⟨lexer.settled, some .malformed⟩
  | fuel + 1, lexer =>
      match lexer.advance with
      | .error error => ⟨lexer.settled, some error⟩
      | .ok next =>
          if next.rest.isEmpty then
            match next.finish with
            | .ok last => ⟨last.tokens.toList, none⟩
            | .error error => ⟨lexer.settled, some error⟩
          else match next.step with
            | .ok next => run fuel next
            | .error error => ⟨lexer.settled, some error⟩

end Lexer

/-- The tokens of a file. A byte order mark may stand in front. -/
def Lexed.ofSource (source : Source) : Lexed :=
  let lexer := Lexer.start source
  (if lexer.here == byteOrderMark then lexer.forward 1 else lexer).run (source.chars.length + 1)

end FleetLink.Yaml
