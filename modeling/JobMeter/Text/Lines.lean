import JobMeter.Text.Basic
import JobMeter.Text.Blank

/-!
# Lines

`splitLines` cuts a text at its line breaks.  A line break ends a line, so a text that ends with
one has no empty line after it; a carriage return and the line feed after it are one break.
-/

namespace JobMeter.Text

/-- The code point of a carriage return. -/
def carriageReturn : CodePoint := CodePoint.ofChar '\r'

/-- The code point of a line feed. -/
def lineFeed : CodePoint := CodePoint.ofChar '\n'

/-- Does the code point end a line? -/
def endsLine (p : CodePoint) : Bool :=
  match p.toChar? with
  | some c => isLineBreak c
  | none => false

/-- The lines that end in a text, and, in reverse, what comes after them; `line` is, in reverse,
what was read of the first. -/
def endedLines (line : Text) : Text → List Text × Text
  | [] => ([], line)
  | [p] => if endsLine p then ([line.reverse], []) else ([], p :: line)
  | p :: q :: rest =>
    if p = carriageReturn ∧ q = lineFeed then
      let (lines, left) := endedLines [] rest
      (line.reverse :: lines, left)
    else if endsLine p then
      let (lines, left) := endedLines [] (q :: rest)
      (line.reverse :: lines, left)
    else endedLines (p :: line) (q :: rest)

/-- The lines of a text; what comes after the last line break is a line, if there is anything. -/
def splitLines (t : Text) : List Text :=
  let (lines, left) := endedLines [] t
  if left.isEmpty then lines else lines ++ [left.reverse]

end JobMeter.Text
