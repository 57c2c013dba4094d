import FleetLink.Yaml.Lexer

/-! Scalars written as lines of their own below a bar, which keeps the line breaks, or below
an angle bracket, which folds them. The header says what becomes of the line breaks at the
end, and how far in the lines stand if they do not show it themselves. -/

namespace FleetLink.Yaml

/-- What becomes of the line breaks at the end: none stays, one does, or all do. -/
inductive Chomping where
  | strip
  | clip
  | keep
deriving DecidableEq, Repr

def Chomping.ofMark? (c : Char) : Option Chomping :=
  if c == '-' then some .strip else if c == '+' then some .keep else none

/-- The end of a scalar: the break after its last line and those of the blank lines below. -/
def Chomping.tail (chomping : Chomping) (last blank : List Char) : List Char :=
  match chomping with
  | .strip => []
  | .clip => last
  | .keep => last ++ blank

/-- How the lines of a scalar are read. `step` is how much further in than the block around
it they stand, if the header says so. -/
structure BlockStyle where
  folds : Bool
  chomping : Chomping
  step : Option Nat

namespace Lexer

def chompMark (lexer : Lexer) : Option Chomping × Lexer :=
  match Chomping.ofMark? lexer.here with
  | some chomping => (some chomping, lexer.forward 1)
  | none => (none, lexer)

def stepMark (lexer : Lexer) : Except ReadError (Option Nat × Lexer) := do
  let c := lexer.here
  if c == '0' then throw .malformed
  if c.isDigit then return (some (c.toNat - 48), lexer.forward 1)
  return (none, lexer)

/-- The header after its first character, its two marks in either order. -/
def blockHeader (folds : Bool) (lexer : Lexer) : Except ReadError (BlockStyle × Lexer) := do
  let (before, lexer) := lexer.chompMark
  let (step, lexer) ← lexer.stepMark
  let (after, lexer) := if before.isSome then (none, lexer) else lexer.chompMark
  if !isSpaceOrEnd lexer.here then throw .malformed
  return (⟨folds, (before.or after).getD .clip, step⟩, ← lexer.endLine)

/-- Blank lines in front of the first line that is not, and the greatest column to which
spaces lead. -/
def blockOpening : Nat → Lexer → List Char × Nat × Lexer
  | 0, lexer => ([], 0, lexer)
  | fuel + 1, lexer =>
      let next := lexer.skipWhile (· == ' ')
      match next.lineBreak? with
      | none => ([], next.column, next)
      | some (c, below) =>
          let (more, column, last) := blockOpening fuel below
          (c :: more, max next.column column, last)

/-- Blank lines, and the next line up to the given column. -/
def blankLines (column : Nat) : Nat → Lexer → List Char × Lexer
  | 0, lexer => ([], lexer)
  | fuel + 1, lexer =>
      let spaces := (lexer.rest.take (column - lexer.column)).takeWhile (· == ' ')
      let next := lexer.forward spaces.length
      match next.lineBreak? with
      | none => ([], next)
      | some (c, below) =>
          let (more, last) := blankLines column fuel below
          (c :: more, last)

/-- What stands for a line break between two lines. It is folded unless one of the lines
begins with a blank. -/
def lineJoint (folds : Bool) (between blank : List Char) (c next : Char) : List Char :=
  if folds && between == ['\n'] && !isGap c && !isGap next then
    if blank.isEmpty then [' '] else []
  else between

/-- The lines from here on that begin at the given column. -/
def blockLines (style : BlockStyle) (column : Nat) :
    Nat → List Char → List Char → Lexer → List Char × Lexer
  | 0, _, _, lexer => ([], lexer)
  | fuel + 1, between, blank, lexer =>
      if lexer.column != column || lexer.here == endMark then
        (style.chomping.tail between blank, lexer)
      else
        let (line, next) := lexer.takeWhile (!isBreakOrEnd ·)
        let (between, next) := match next.lineBreak? with
          | some (c, below) => ([c], below)
          | none => ([], next)
        let (below, next) := blankLines column fuel next
        let joint := if next.column != column || next.here == endMark then []
          else lineJoint style.folds between below lexer.here next.here
        let (more, last) := blockLines style column fuel between below next
        (blank ++ line ++ joint ++ more, last)

/-- A scalar of lines that stand further in than the block around them. A key may follow. -/
def blockScalar (folds : Bool) (lexer : Lexer) : Except ReadError Lexer := do
  let lexer ← { lexer with keyAllowed := true }.forgetKey
  let fuel := lexer.rest.length + 1
  let (style, lexer) ← (lexer.forward 1).blockHeader folds
  let least := (max (lexer.indent + 1) 1).toNat
  let (blank, column, lexer) := match style.step with
    | some step =>
        let column := least + step - 1
        let (blank, lexer) := lexer.blankLines column fuel
        (blank, column, lexer)
    | none =>
        let (blank, column, lexer) := lexer.blockOpening fuel
        (blank, max least column, lexer)
  let (text, lexer) := lexer.blockLines style column fuel [] blank
  return lexer.push (.scalar (String.ofList text) false)

end Lexer

end FleetLink.Yaml
