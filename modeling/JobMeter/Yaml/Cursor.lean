import JobMeter.Failure
import JobMeter.Text.Basic

/-!
# Places in a YAML text

A `Cursor` is what is left of a text, with the line and the column it is at.  The module also has
the classes of characters that YAML tells apart, and what they do to the cursor.
-/

namespace JobMeter.Yaml

/-- A text that is no YAML document. -/
def malformed {α : Type} : Except Failure α := .error ⟨.malformedDocument, [], none⟩

/-- The character that may stand at the start of a text to tell its byte order. -/
def byteOrderMark : Char := '\uFEFF'

/-- May a text hold the character? -/
def isAllowed (c : Char) : Bool :=
  let n := c.toNat
  n == 0x9 || n == 0xA || n == 0xD || (0x20 ≤ n && n ≤ 0x7E) || n == 0x85 ||
    (0xA0 ≤ n && n ≤ 0xD7FF) || (0xE000 ≤ n && n ≤ 0xFFFD) || 0x10000 ≤ n

/-- Does the character end a line? -/
def isBreak (c : Char) : Bool :=
  c == '\r' || c == '\n' || c == '\x85' || c == '\u2028' || c == '\u2029'

/-- Is there a line break, or nothing more? -/
def atLineEnd : Option Char → Bool
  | none => true
  | some c => isBreak c

/-- Is there a blank or the end of a line? -/
def atBlank (o : Option Char) : Bool := o == some ' ' || atLineEnd o

/-- Is there a blank, a tab or the end of a line? -/
def atSpace (o : Option Char) : Bool := o == some '\t' || atBlank o

/-- The characters of names: of anchors, directives and tag handles. -/
def isNameChar (c : Char) : Bool := c.isAlphanum || c == '-' || c == '_'

/-- A place in a text. -/
structure Cursor where
  rest : List Char
  line : Nat := 0
  column : Nat := 0
  /-- The number of characters before the place. -/
  index : Nat := 0

namespace Cursor

/-- The character at the place. -/
def peek (c : Cursor) : Option Char := c.rest.head?

/-- The character some characters further on. -/
def peekAt (c : Cursor) (n : Nat) : Option Char := c.rest[n]?

/-- The next place. -/
def next (c : Cursor) : Cursor :=
  match c.rest with
  | [] => c
  | x :: r =>
    if isBreak x && !(x == '\r' && r.head? == some '\n') then ⟨r, c.line + 1, 0, c.index + 1⟩
    else ⟨r, c.line, if x == byteOrderMark then c.column else c.column + 1, c.index + 1⟩

/-- The place some characters further on. -/
def forward : Nat → Cursor → Cursor
  | 0, c => c
  | n + 1, c => forward n c.next

/-- The characters of a class at the place, and the place after them. -/
def span (p : Char → Bool) (c : Cursor) : List Char × Cursor :=
  let cs := c.rest.takeWhile p
  (cs, c.forward cs.length)

/-- The place after characters of a class. -/
def skip (p : Char → Bool) (c : Cursor) : Cursor := (c.span p).2

/-- The place after blanks. -/
def skipBlanks (c : Cursor) : Cursor := c.skip (· == ' ')

/-- The place at the end of the line. -/
def skipLine (c : Cursor) : Cursor := c.skip fun x => !isBreak x

/-- The place at the end of the line, if there is a comment. -/
def skipComment (c : Cursor) : Cursor := if c.peek == some '#' then c.skipLine else c

/-- A line break: the character that stands for it, and the place after it. -/
def lineBreak? (c : Cursor) : Option (Char × Cursor) :=
  match c.rest with
  | '\r' :: '\n' :: _ => some ('\n', c.forward 2)
  | x :: _ =>
    if x == '\r' || x == '\n' || x == '\x85' then some ('\n', c.next)
    else if x == '\u2028' || x == '\u2029' then some (x, c.next)
    else none
  | [] => none

/-- The line break at the place, if there is one, as a text. -/
def lineBreak (c : Cursor) : List Char × Cursor :=
  match c.lineBreak? with
  | some (x, c') => ([x], c')
  | none => ([], c)

/-- Is there a line of three marks that separates documents? -/
def atSeparator (mark : Char) (c : Cursor) : Bool :=
  c.rest.take 3 == [mark, mark, mark] && atSpace (c.peekAt 3)

/-- Is there a line that separates documents? -/
def atDocumentMark (c : Cursor) : Bool := c.atSeparator '-' || c.atSeparator '.'

/-- A bound for the number of steps from the place to the end. -/
def fuel (c : Cursor) : Nat := c.rest.length + 1

end Cursor

end JobMeter.Yaml
