import FleetLink.Json.Reader
import FleetLink.Yaml.Lexer

/-! Scalars written among other things on a line: in quotes, or plain. They may go on over
several lines, and line breaks within them are folded. -/

namespace FleetLink.Yaml

namespace Lexer

/-- Line breaks inside a quoted scalar, with the blanks around them dropped. -/
def quotedBreaks : Nat → Lexer → Except ReadError (List Char × Lexer)
  | 0, lexer => return ([], lexer)
  | fuel + 1, lexer =>
      if lexer.atSeparator then throw .malformed
      else
        let lexer := lexer.skipWhile fun c => c == ' ' || c == '\t'
        match lexer.lineBreak? with
        | none => return ([], lexer)
        | some (c, next) => do
            let (more, next) ← quotedBreaks fuel next
            return (c :: more, next)

/-- One line break becomes a space, and of more the first is dropped. -/
def folded (c : Char) (more : List Char) : List Char :=
  if c != '\n' then c :: more else if more.isEmpty then [' '] else more

def escapes : List (Char × Nat) :=
  [('0', 0), ('a', 7), ('b', 8), ('t', 9), ('\t', 9), ('n', 10), ('v', 11), ('f', 12), ('r', 13),
    ('e', 0x1B), (' ', 0x20), ('"', 0x22), ('\\', 0x5C), ('/', 0x2F), ('N', 0x85), ('_', 0xA0),
    ('L', 0x2028), ('P', 0x2029)]

def hexWidth? (c : Char) : Option Nat :=
  match c with
  | 'x' => some 2
  | 'u' => some 4
  | 'U' => some 8
  | _ => none

/-- The character that an escape gives by its code. -/
def coded (code : Nat) : Except ReadError Char :=
  if lastCode < code then throw (.noCharacter code) else return Text.charOrHalf code

/-- An escape after its backslash: what it stands for and the place after it. -/
def escape (fuel : Nat) (lexer : Lexer) : Except ReadError (List Char × Lexer) :=
  let c := lexer.here
  match escapes.lookup c, hexWidth? c with
  | some code, _ => return ([Char.ofNat code], lexer.forward 1)
  | none, some width => do
      let lexer := lexer.forward 1
      let digits := lexer.rest.take width
      match digits.mapM Json.hexValue? with
      | none => throw .malformed
      | some values =>
          if digits.length != width then throw lexer.cutShort
          let c ← coded (values.foldl (fun total digit => 16 * total + digit) 0)
          return ([c], lexer.forward width)
  | none, none =>
      match lexer.lineBreak? with
      | some (_, next) => quotedBreaks fuel next
      | none => throw (if c == endMark then lexer.cutShort else .malformed)

/-- The content of a quoted scalar after its opening quote. -/
def quotedContent (quote : Char) : Nat → Lexer → Except ReadError (List Char × Lexer)
  | 0, _ => throw .malformed
  | fuel + 1, lexer => do
      let c := lexer.here
      if c == quote then
        if quote == '\'' && lexer.peek 1 == '\'' then
          let (more, next) ← quotedContent quote fuel (lexer.forward 2)
          return ('\'' :: more, next)
        else return ([], lexer.forward 1)
      else if c == '\\' && quote == '"' then
        let (text, next) ← escape fuel (lexer.forward 1)
        let (more, next) ← quotedContent quote fuel next
        return (text ++ more, next)
      else if isGap c then
        let (blanks, next) := lexer.takeWhile fun c => c == ' ' || c == '\t'
        if next.here == endMark then throw next.cutShort
        else match next.lineBreak? with
          | some (first, next) =>
              let (breaks, next) ← quotedBreaks fuel next
              let (more, next) ← quotedContent quote fuel next
              return (folded first breaks ++ more, next)
          | none =>
              let (more, next) ← quotedContent quote fuel next
              return (blanks ++ more, next)
      else
        let (more, next) ← quotedContent quote fuel (lexer.forward 1)
        return (c :: more, next)

def quoted (lexer : Lexer) : Except ReadError Lexer := do
  let quote := lexer.here
  let lexer ← lexer.rememberKey
  let (text, next) ← quotedContent quote (lexer.rest.length + 1) ({ lexer with keyAllowed := false }.forward 1)
  return next.push (.scalar (String.ofList text) false)

/-- Whether a plain scalar ends before a character. -/
def endsPlain (flow : Bool) (c next : Char) : Bool :=
  let bracket (c : Char) : Bool := c == '[' || c == ']' || c == '\x7b' || c == '\x7d'
  isGap c || (c == ':' && (isGap next || (flow && (next == ',' || bracket next)))) ||
    (flow && (c == ',' || c == '?' || bracket c))

def plainRun (flow : Bool) : List Char → List Char
  | [] => []
  | c :: rest => if endsPlain flow c (rest.head?.getD endMark) then [] else c :: plainRun flow rest

/-- Line breaks inside a plain scalar; none when a document mark follows one. -/
def plainBreaks : Nat → Lexer → Option (List Char) × Lexer
  | 0, lexer => (some [], lexer)
  | fuel + 1, lexer =>
      if lexer.atSeparator then (none, lexer)
      else
        let lexer := lexer.skipWhile (· == ' ')
        match lexer.lineBreak? with
        | none => (some [], lexer)
        | some (c, next) =>
            let (more, next) := plainBreaks fuel next
            (more.map (c :: ·), next)

/-- What stands between two runs of a plain scalar; empty when the scalar is over. -/
def plainGap (fuel : Nat) (lexer : Lexer) : List Char × Lexer :=
  let (blanks, lexer) := lexer.takeWhile (· == ' ')
  match lexer.lineBreak? with
  | none => (blanks, lexer)
  | some (c, next) =>
      let (breaks, next) := plainBreaks fuel { next with keyAllowed := true }
      (breaks.elim [] (folded c), next)

/-- The runs of a plain scalar with the gaps between them. The gap after the last run
is not part of it. -/
def plainContent : Nat → Lexer → List Char × Lexer
  | 0, lexer => ([], lexer)
  | fuel + 1, lexer =>
      let run := if lexer.here == '#' then [] else plainRun (lexer.flow != 0) lexer.rest
      if run.isEmpty then ([], lexer)
      else
        let (gap, next) := plainGap fuel ({ lexer with keyAllowed := false }.forward run.length)
        if gap.isEmpty || next.here == '#' || (next.flow == 0 && (next.column : Int) < next.indent + 1) then
          (run, next)
        else
          let (more, last) := plainContent fuel next
          if more.isEmpty then (run, last) else (run ++ gap ++ more, last)

def plain (lexer : Lexer) : Except ReadError Lexer := do
  let lexer ← lexer.rememberKey
  let (text, next) := plainContent (lexer.rest.length + 1) { lexer with keyAllowed := false }
  return next.push (.scalar (String.ofList text) true)

/-- A plain scalar may begin with a dash when no gap follows, and outside brackets with
a question mark or colon as well. -/
def startsPlain (lexer : Lexer) : Bool :=
  let c := lexer.here
  let special := isGap c || c.toNat == 0x60 || c == '\x7b' || c == '\x7d' ||
    "-?:,[]#&*!|>'\"%@".toList.contains c
  !special || (!isGap (lexer.peek 1) && (c == '-' || (lexer.flow == 0 && (c == '?' || c == ':'))))

end Lexer

end FleetLink.Yaml
