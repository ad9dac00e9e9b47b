import JobMeter.Text.Digit
import JobMeter.Yaml.Cursor

/-!
# Scalars in YAML texts

A scalar is written in one of five ways, and each has a function here that reads it from a place
on: without quotes (`plain`), in single or double quotes (`quoted`), and as a block of lines,
which are kept or folded (`block`).

Where lines are folded, a line feed between two lines becomes a blank, and the empty lines after
it become line feeds.
-/

namespace JobMeter.Yaml

open Text

namespace Cursor

/-! ## Plain scalars -/

/-- Does a plain scalar end at a character, given the one after it? -/
def endsPlain (flow : Bool) (x : Char) (after : Option Char) : Bool :=
  atSpace (some x) ||
    (x == ':' &&
      (atSpace after || (flow && (after.any fun a => ",[]\x7b\x7d".toList.contains a)))) ||
    (flow && ",?[]\x7b\x7d".toList.contains x)

/-- The number of characters before the end of a plain scalar or a blank. -/
def plainLength (flow : Bool) : List Char → Nat
  | [] => 0
  | x :: rest => if endsPlain flow x rest.head? then 0 else plainLength flow rest + 1

/-- Blanks and empty lines inside a plain scalar, after the first line break.  Gives the line
breaks, and whether a document ends there. -/
def plainBreaks : Nat → List Char → Cursor → List Char × Bool × Cursor
  | 0, breaks, c => (breaks, false, c)
  | fuel + 1, breaks, c =>
    if c.peek == some ' ' then plainBreaks fuel breaks c.next
    else
      match c.lineBreak? with
      | some (x, c') =>
        if c'.atDocumentMark then (breaks, true, c') else plainBreaks fuel (breaks ++ [x]) c'
      | none => (breaks, false, c)

/-- What joins two lines: `first` is the break between them, `more` those of empty lines. -/
def folded (first : Char) (more : List Char) : List Char :=
  if first != '\n' then first :: more
  else if more.isEmpty then [' ']
  else more

/-- The space between two parts of a plain scalar, and whether it holds a line break. -/
def plainSpace (c : Cursor) : List Char × Bool × Cursor :=
  let (blanks, c') := c.span (· == ' ')
  match c'.lineBreak? with
  | none => (blanks, false, c')
  | some (x, c'') =>
    if c''.atDocumentMark then ([], true, c'')
    else
      let (breaks, ended, c3) := plainBreaks c''.fuel [] c''
      (if ended then [] else folded x breaks, true, c3)

/-- A plain scalar: its text, and whether it was followed by a line break. -/
def plainFrom (flow : Bool) (indent : Int) :
    Nat → List Char → List Char → Bool → Cursor → List Char × Bool × Cursor
  | 0, read, _, broken, c => (read, broken, c)
  | fuel + 1, read, space, broken, c =>
    let n := if c.peek == some '#' then 0 else plainLength flow c.rest
    if n = 0 then (read, broken, c)
    else
      let read := read ++ space ++ c.rest.take n
      let (space, broken, c') := (c.forward n).plainSpace
      if space.isEmpty || c'.peek == some '#' || (!flow && (c'.column : Int) < indent) then
        (read, broken, c')
      else plainFrom flow indent fuel read space broken c'

/-- A plain scalar inside a block with an indentation. -/
def plain (flow : Bool) (indent : Int) (c : Cursor) : List Char × Bool × Cursor :=
  plainFrom flow (indent + 1) c.fuel [] [] false c

/-! ## Quoted scalars -/

/-- The characters of escapes of one letter. -/
def escape? (x : Char) : Option Char :=
  match x with
  | '0' => some '\x00'
  | 'a' => some '\x07'
  | 'b' => some '\x08'
  | 't' => some '\t'
  | '\t' => some '\t'
  | 'n' => some '\n'
  | 'v' => some '\x0b'
  | 'f' => some '\x0c'
  | 'r' => some '\r'
  | 'e' => some '\x1b'
  | ' ' => some ' '
  | '"' => some '"'
  | '\\' => some '\\'
  | '/' => some '/'
  | 'N' => some '\x85'
  | '_' => some '\xa0'
  | 'L' => some '\u2028'
  | 'P' => some '\u2029'
  | _ => none

/-- The number of digits of an escape with a number. -/
def escapeDigits? (x : Char) : Option Nat :=
  match x with
  | 'x' => some 2
  | 'u' => some 4
  | 'U' => some 8
  | _ => none

/-- The code point of an escape with a number. -/
def escapedPoint (n : Nat) : Except Failure CodePoint :=
  if h : n < 0x110000 then .ok ⟨n, h⟩
  else if n < 0x80000000 then
    .error (Failure.of .invalidValue "chr() arg not in range(0x110000)")
  else .error (Failure.of .overflow "Python int too large to convert to C int")

/-- Empty lines inside a quoted scalar.  No document may end in them. -/
def quotedBreaks : Nat → List Char → Cursor → Except Failure (List Char × Cursor)
  | 0, _, _ => malformed
  | fuel + 1, breaks, c =>
    if c.atDocumentMark then malformed
    else
      let c := c.skip fun x => x == ' ' || x == '\t'
      match c.lineBreak? with
      | some (x, c') => quotedBreaks fuel (breaks ++ [x]) c'
      | none => .ok (breaks, c)

/-- Space inside a quoted scalar. -/
def quotedSpace (c : Cursor) : Except Failure (List Char × Cursor) :=
  let (space, c') := c.span fun x => x == ' ' || x == '\t'
  match c'.peek, c'.lineBreak? with
  | none, _ => malformed
  | _, none => .ok (space, c')
  | _, some (x, c'') => do
    let (breaks, c3) ← quotedBreaks c''.fuel [] c''
    pure (folded x breaks, c3)

/-- An escape, from the character after the backslash on. -/
def escaped (c : Cursor) : Except Failure (Text × Cursor) :=
  match c.peek with
  | none => malformed
  | some x =>
    match escape? x, escapeDigits? x with
    | some y, _ => .ok ([CodePoint.ofChar y], c.next)
    | _, some n =>
      let digits := c.next.rest.take n
      match hexNumber? digits with
      | some v =>
        if digits.length < n then malformed
        else do
          let p ← escapedPoint v
          pure ([p], c.next.forward n)
      | none => malformed
    | none, none =>
      match c.lineBreak? with
      | some (_, c') => do
        let (breaks, c'') ← quotedBreaks c'.fuel [] c'
        pure (ofChars breaks, c'')
      | none => malformed

/-- The rest of a scalar in quotes. -/
def quotedFrom (double : Bool) : Nat → Text → Cursor → Except Failure (Text × Cursor)
  | 0, _, _ => malformed
  | fuel + 1, read, c =>
    match c.peek with
    | none => malformed
    | some x =>
      if x == ' ' || x == '\t' || isBreak x then do
        let (space, c') ← c.quotedSpace
        quotedFrom double fuel (read ++ ofChars space) c'
      else if double && x == '\\' then do
        let (t, c') ← c.next.escaped
        quotedFrom double fuel (read ++ t) c'
      else if double && x == '"' then .ok (read, c.next)
      else if !double && x == '\'' then
        if c.peekAt 1 == some '\'' then
          quotedFrom double fuel (read ++ [CodePoint.ofChar x]) (c.forward 2)
        else .ok (read, c.next)
      else
        let stop := fun y => ['\'', '"', '\\', ' ', '\t'].contains y || isBreak y
        let (run, c') := c.next.span fun y => !stop y
        quotedFrom double fuel (read ++ ofChars (x :: run)) c'

/-- A scalar in quotes, from the first quote on. -/
def quoted (double : Bool) (c : Cursor) : Except Failure (Text × Cursor) :=
  quotedFrom double c.fuel [] c.next

/-! ## Blocks of lines -/

/-- What becomes of the line breaks at the end of a block. -/
inductive Chomping where
  /-- They are all dropped. -/
  | strip
  /-- The first is kept. -/
  | clip
  /-- They are all kept. -/
  | keep
  deriving DecidableEq

/-- The sign that asks for a treatment of the last line breaks. -/
def chomping? (o : Option Char) : Option Chomping :=
  match o with
  | some '+' => some .keep
  | some '-' => some .strip
  | _ => none

/-- The digit that gives an indentation. -/
def increment? (o : Option Char) : Option Nat :=
  (o.filter isAsciiDigit).map fun x => x.toNat - '0'.toNat

/-- What stands after the sign of a block: the treatment of the last line breaks and the
indentation, in either order. -/
def blockHeader (c : Cursor) : Except Failure (Chomping × Option Nat × Cursor) := do
  let (chomping, increment, c) := match chomping? c.peek, increment? c.peek with
    | some ch, _ =>
      let c := c.next
      match increment? c.peek with
      | some n => (ch, some n, c.next)
      | none => (ch, none, c)
    | none, some n =>
      let c := c.next
      match chomping? c.peek with
      | some ch => (ch, some n, c.next)
      | none => (.clip, some n, c)
    | none, none => (.clip, none, c)
  if increment == some 0 || !atBlank c.peek then malformed
  let c := c.skipBlanks.skipComment
  if !atLineEnd c.peek then malformed
  pure (chomping, increment, c.lineBreak.2)

/-- Empty lines at the start of a block, and the widest indentation among them. -/
def leadingLines : Nat → List Char → Nat → Cursor → List Char × Nat × Cursor
  | 0, breaks, widest, c => (breaks, widest, c)
  | fuel + 1, breaks, widest, c =>
    match c.lineBreak? with
    | some (x, c') => leadingLines fuel (breaks ++ [x]) widest c'
    | none =>
      if c.peek == some ' ' then
        leadingLines fuel breaks (max widest c.next.column) c.next
      else (breaks, widest, c)

/-- Skips blanks up to a column. -/
def skipIndent (indent : Nat) (c : Cursor) : Cursor :=
  c.forward (min (indent - c.column) (c.span (· == ' ')).1.length)

/-- Empty lines inside a block with an indentation. -/
def blockBreaks (indent : Nat) : Nat → List Char → Cursor → List Char × Cursor
  | 0, breaks, c => (breaks, c)
  | fuel + 1, breaks, c =>
    let c := c.skipIndent indent
    match c.lineBreak? with
    | some (x, c') => blockBreaks indent fuel (breaks ++ [x]) c'
    | none => (breaks, c)

/-- Is there a tab or a blank? -/
def atIndented (o : Option Char) : Bool := o == some ' ' || o == some '\t'

/-- The lines of a block.  Gives its text, the break after its last line, and the breaks of the
empty lines after that. -/
def blockLines (fold : Bool) (indent : Nat) :
    Nat → List Char → List Char → List Char → Cursor →
      List Char × List Char × List Char × Cursor
  | 0, read, last, breaks, c => (read, last, breaks, c)
  | fuel + 1, read, last, breaks, c =>
    if c.column != indent || c.peek.isNone then (read, last, breaks, c)
    else
      let flat := !atIndented c.peek
      let (line, c') := c.span fun x => !isBreak x
      let read := read ++ breaks ++ line
      let (last, c') := c'.lineBreak
      let (breaks, c') := blockBreaks indent c'.fuel [] c'
      if c'.column != indent || c'.peek.isNone then (read, last, breaks, c')
      else
        let joint :=
          if fold && last == ['\n'] && flat && !atIndented c'.peek then
            if breaks.isEmpty then [' '] else []
          else last
        blockLines fold indent fuel (read ++ joint) last breaks c'

/-- A block of lines, from its sign on, inside a block with an indentation. -/
def block (fold : Bool) (indent : Int) (c : Cursor) : Except Failure (List Char × Cursor) := do
  let (chomping, increment, c) ← c.next.blockHeader
  let least := max (indent + 1).toNat 1
  let (breaks, indent, c) := match increment with
    | none =>
      let (breaks, widest, c') := leadingLines c.fuel [] 0 c
      (breaks, max least widest, c')
    | some n =>
      let indent := least + n - 1
      let (breaks, c') := blockBreaks indent c.fuel [] c
      (breaks, indent, c')
  let (read, last, breaks, c) := blockLines fold indent c.fuel [] [] breaks c
  pure (match chomping with
    | .strip => (read, c)
    | .clip => (read ++ last, c)
    | .keep => (read ++ last ++ breaks, c))

end Cursor

end JobMeter.Yaml
