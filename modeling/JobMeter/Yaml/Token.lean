import JobMeter.Text.Utf8
import JobMeter.Yaml.Scalar

/-!
# Tokens of YAML texts

`Token.scan` cuts a text into tokens.  Indentation becomes tokens too: the start and the end of
block sequences and block mappings.

Whether a scalar, a sequence or a mapping is the key of a mapping shows only at the colon after
it.  So before each of them the scanner leaves a `Piece.place`, and notes at the colon that a key
starts there, and possibly a mapping.  `linearise` puts in what was noted.  Such a key stands on
one line and is at most `longestKey` characters long.
-/

namespace JobMeter.Yaml

/-- A line at the start of a document about how to read it. -/
inductive Directive where
  | version (major : Nat)
  | tag (handle start : Text)
  | other

/-- A token. -/
inductive Token where
  | directive (d : Directive)
  | documentStart
  | documentEnd
  | blockSeqStart
  | blockMapStart
  | blockEnd
  | flowSeqStart
  | flowSeqEnd
  | flowMapStart
  | flowMapEnd
  | blockEntry
  | flowEntry
  | key
  | value
  | alias (name : List Char)
  | anchor (name : List Char)
  | tag (handle : Option Text) (suffix : Text)
  | scalar (t : Text) (plain : Bool)

namespace Token

/-- A token, or a place where a key may start. -/
inductive Piece where
  | token (t : Token)
  | place (id : Nat)

/-- A place where a key may start. -/
structure Candidate where
  id : Nat
  /-- In how many brackets it is. -/
  level : Nat
  /-- Nothing but a key may stand there. -/
  required : Bool
  line : Nat
  column : Nat
  index : Nat

/-- How far a text has been cut. -/
structure Scanner where
  cursor : Cursor
  /-- In how many brackets the cursor is. -/
  level : Nat := 0
  /-- The indentation of the innermost block, and of those around it. -/
  indent : Int := -1
  indents : List Int := []
  /-- May a key start at the cursor? -/
  keyAllowed : Bool := true
  /-- The places where a key may still turn out to start, one for each level. -/
  candidates : List Candidate := []
  /-- The places where a key starts, and whether it starts a mapping. -/
  keys : List (Nat × Bool) := []
  places : Nat := 0
  /-- The pieces so far, the last one first. -/
  pieces : List Piece := []

/-- The longest key that is recognised at its colon. -/
def longestKey : Nat := 1024

namespace Scanner

/-- Adds a token. -/
def emit (s : Scanner) (t : Token) : Scanner := { s with pieces := .token t :: s.pieces }

/-- Adds a token, and moves on. -/
def emitAt (s : Scanner) (t : Token) (c : Cursor) : Scanner := { s.emit t with cursor := c }

/-- Gives up the places that are too far behind. -/
def dropStale (s : Scanner) : Except Failure Scanner :=
  let stale := fun (k : Candidate) =>
    k.line != s.cursor.line || s.cursor.index - k.index > longestKey
  if s.candidates.any fun k => stale k && k.required then malformed
  else .ok { s with candidates := s.candidates.filter fun k => !stale k }

/-- Gives up the place of this level. -/
def dropCandidate (s : Scanner) : Except Failure Scanner :=
  if s.candidates.any fun k => k.level == s.level && k.required then malformed
  else .ok { s with candidates := s.candidates.filter fun k => k.level != s.level }

/-- Leaves a place, if a key may start here. -/
def leavePlace (s : Scanner) : Except Failure Scanner :=
  if s.keyAllowed then do
    let s ← s.dropCandidate
    let c := s.cursor
    let required := s.level == 0 && s.indent == (c.column : Int)
    pure { s with
      candidates := ⟨s.places, s.level, required, c.line, c.column, c.index⟩ :: s.candidates
      places := s.places + 1
      pieces := .place s.places :: s.pieces }
  else pure s

/-- Ends the blocks that are indented further than a column. -/
def unwindTo (column : Int) : Nat → Scanner → Scanner
  | 0, s => s
  | fuel + 1, s =>
    if column < s.indent then
      match s.indents with
      | outer :: rest =>
        unwindTo column fuel { s.emit .blockEnd with indent := outer, indents := rest }
      | [] => s
    else s

/-- Ends the blocks that are indented further than a column, outside of brackets. -/
def unwind (s : Scanner) (column : Int) : Scanner :=
  if s.level == 0 then unwindTo column s.indents.length s else s

/-- Starts a block at a column, if it is indented further. -/
def addIndent (s : Scanner) (column : Nat) : Bool × Scanner :=
  if s.indent < column then (true, { s with indent := column, indents := s.indent :: s.indents })
  else (false, s)

/-- Starts a block here, unless it is in brackets; it has to be where a key may start. -/
def startBlock (s : Scanner) (start : Token) : Except Failure Scanner :=
  if s.level != 0 then .ok s
  else if !s.keyAllowed then malformed
  else
    let (started, s') := s.addIndent s.cursor.column
    .ok (if started then s'.emit start else s')

/-- Skips what stands between tokens. -/
def skipSpace : Nat → Scanner → Scanner
  | 0, s => s
  | fuel + 1, s =>
    let c := s.cursor.skipBlanks.skipComment
    match c.lineBreak? with
    | some (_, c') =>
      skipSpace fuel { s with cursor := c', keyAllowed := s.keyAllowed || s.level == 0 }
    | none => { s with cursor := c }

/-! ## Directives, anchors, tags -/

/-- A name. -/
def name (c : Cursor) : Except Failure (List Char × Cursor) :=
  let (n, c') := c.span isNameChar
  if n.isEmpty then malformed else .ok (n, c')

/-- A number. -/
def number (c : Cursor) : Except Failure (Nat × Cursor) :=
  let (ds, c') := c.span Text.isAsciiDigit
  if ds.isEmpty then malformed else .ok (Text.decimalNumber ds, c')

/-- The handle of a tag: an exclamation mark, or a name between two. -/
def handle (c : Cursor) : Except Failure (List Char × Cursor) :=
  match c.peek with
  | some '!' =>
    if c.peekAt 1 == some ' ' then .ok (['!'], c.next)
    else
      let (n, c') := c.next.span isNameChar
      if c'.peek == some '!' then .ok ('!' :: n ++ ['!'], c'.next) else malformed
  | _ => malformed

/-- The characters of a tag. -/
def isTagChar (x : Char) : Bool :=
  x.isAlphanum || "-;/?:@&=+$,_.!~*'()[]".toList.contains x

/-- The bytes of escapes in a tag. -/
def escapedBytes : Nat → List UInt8 → Cursor → Except Failure (List UInt8 × Cursor)
  | 0, bytes, c => .ok (bytes, c)
  | fuel + 1, bytes, c =>
    match c.rest with
    | '%' :: a :: b :: _ =>
      match Text.hexNumber? [a, b] with
      | some n => escapedBytes fuel (bytes ++ [UInt8.ofNat n]) (c.forward 3)
      | none => malformed
    | '%' :: _ => malformed
    | _ => .ok (bytes, c)

/-- The body of a tag, with its escapes resolved. -/
def tagText : Nat → Text → Cursor → Except Failure (Text × Cursor)
  | 0, _, _ => malformed
  | fuel + 1, read, c =>
    let (run, c') := c.span isTagChar
    let read := read ++ Text.ofChars run
    if c'.peek == some '%' then do
      let (bytes, c'') ← escapedBytes c'.fuel [] c'
      match Text.Utf8.decode? false bytes with
      | some t => tagText fuel (read ++ t) c''
      | none => malformed
    else if read.isEmpty then malformed
    else .ok (read, c')

/-- A tag, from its exclamation mark on. -/
def tag (c : Cursor) : Except Failure (Token × Cursor) := do
  let (t, c') ← (match c.peekAt 1 with
    | some '<' => do
      let (suffix, c') ← tagText c.fuel [] (c.forward 2)
      if c'.peek == some '>' then pure (Token.tag none suffix, c'.next) else malformed
    | after =>
      if atSpace after then pure (Token.tag none (text "!"), c.next)
      else do
        let word := c.next.rest.takeWhile fun x => x != ' ' && !isBreak x
        let (h, c') ← if word.contains '!' then handle c else pure (['!'], c.next)
        let (suffix, c'') ← tagText c.fuel [] c'
        pure (Token.tag (some (Text.ofChars h)) suffix, c'')
    : Except Failure (Token × Cursor))
  if atBlank c'.peek then pure (t, c') else malformed

/-- A directive, from its percent sign on. -/
def directive (c : Cursor) : Except Failure (Token × Cursor) := do
  let (n, c) ← name c.next
  if !atBlank c.peek then malformed
  let (d, c) ← (match String.ofList n with
    | "YAML" => do
      let (major, c) ← number c.skipBlanks
      if c.peek != some '.' then malformed
      let (_, c) ← number c.next
      if !atBlank c.peek then malformed
      pure (Directive.version major, c)
    | "TAG" => do
      let (h, c) ← handle c.skipBlanks
      if c.peek != some ' ' then malformed
      let c := c.skipBlanks
      let (start, c) ← tagText c.fuel [] c
      if !atBlank c.peek then malformed
      pure (Directive.tag (Text.ofChars h) start, c)
    | _ => pure (Directive.other, c.skipLine)
    : Except Failure (Directive × Cursor))
  let c := c.skipBlanks.skipComment
  if !atLineEnd c.peek then malformed
  pure (.directive d, c.lineBreak.2)

/-- The name of an anchor or an alias, from its sign on. -/
def anchorName (c : Cursor) : Except Failure (List Char × Cursor) := do
  let (n, c') ← name c.next
  if atSpace c'.peek || c'.peek.any (fun x => "?:,]\x7d%@\x60".toList.contains x) then pure (n, c')
  else malformed

/-! ## Steps -/

/-- A token that may be the key of a mapping, or may be a part of one. -/
def inKey (s : Scanner) (t : Cursor → Except Failure (Token × Cursor)) :
    Except Failure Scanner := do
  let s ← s.leavePlace
  let (t, c) ← t s.cursor
  pure { s.emitAt t c with keyAllowed := false }

/-- The start of a sequence or a mapping in brackets. -/
def openFlow (s : Scanner) (t : Token) : Except Failure Scanner := do
  let s ← s.leavePlace
  pure { s.emitAt t s.cursor.next with level := s.level + 1, keyAllowed := true }

/-- The end of a sequence or a mapping in brackets. -/
def closeFlow (s : Scanner) (t : Token) : Except Failure Scanner := do
  let s ← s.dropCandidate
  if s.level = 0 then malformed
  else pure { s.emitAt t s.cursor.next with level := s.level - 1, keyAllowed := false }

/-- Three marks that separate documents, or a directive. -/
def between (s : Scanner) (t : Token) (c : Cursor) : Except Failure Scanner := do
  let s ← (s.unwind (-1)).dropCandidate
  pure { s.emitAt t c with keyAllowed := false }

/-- The dash before an item of a block sequence. -/
def entry (s : Scanner) : Except Failure Scanner := do
  let s ← s.startBlock .blockSeqStart
  let s ← { s with keyAllowed := true }.dropCandidate
  pure (s.emitAt .blockEntry s.cursor.next)

/-- The question mark before a key. -/
def explicitKey (s : Scanner) : Except Failure Scanner := do
  let s ← s.startBlock .blockMapStart
  let s ← { s with keyAllowed := s.level == 0 }.dropCandidate
  pure (s.emitAt .key s.cursor.next)

/-- The colon before a value. -/
def colon (s : Scanner) : Except Failure Scanner :=
  match s.candidates.find? fun k => k.level == s.level with
  | some k =>
    let (started, s') := if s.level == 0 then s.addIndent k.column else (false, s)
    pure { s'.emitAt .value s.cursor.next with
      candidates := s.candidates.filter fun k => k.level != s.level
      keys := (k.id, started) :: s.keys
      keyAllowed := false }
  | none => do
    let s ← s.startBlock .blockMapStart
    let s ← { s with keyAllowed := s.level == 0 }.dropCandidate
    pure (s.emitAt .value s.cursor.next)

/-- A block of lines. -/
def blockScalar (s : Scanner) (fold : Bool) : Except Failure Scanner := do
  let s ← { s with keyAllowed := true }.dropCandidate
  let (t, c) ← s.cursor.block fold s.indent
  pure (s.emitAt (.scalar (Text.ofChars t) false) c)

/-- A scalar without quotes. -/
def plainScalar (s : Scanner) : Except Failure Scanner := do
  let s ← s.leavePlace
  let (t, broken, c) := s.cursor.plain (s.level != 0) s.indent
  pure { s.emitAt (.scalar (Text.ofChars t) true) c with keyAllowed := broken }

/-- May a scalar without quotes start here? -/
def startsPlain (flow : Bool) (x : Char) (after : Option Char) : Bool :=
  !(atSpace (some x) || "-?:,[]\x7b\x7d#&*!|>'\"%@\x60".toList.contains x) ||
    (!atSpace after && (x == '-' || (!flow && (x == '?' || x == ':'))))

/-- Takes in what stands at the cursor, which begins with a character. -/
def step (s : Scanner) (x : Char) : Except Failure Scanner :=
  let c := s.cursor
  let flow := s.level != 0
  let after := c.peekAt 1
  if x == '%' && c.column == 0 then do
    let (t, c') ← directive c
    s.between t c'
  else if c.column == 0 && c.atSeparator '-' then s.between .documentStart (c.forward 3)
  else if c.column == 0 && c.atSeparator '.' then s.between .documentEnd (c.forward 3)
  else if x == '[' then s.openFlow .flowSeqStart
  else if x == '{' then s.openFlow .flowMapStart
  else if x == ']' then s.closeFlow .flowSeqEnd
  else if x == '}' then s.closeFlow .flowMapEnd
  else if x == ',' then do
    let s ← { s with keyAllowed := true }.dropCandidate
    pure (s.emitAt .flowEntry c.next)
  else if x == '-' && atSpace after then s.entry
  else if x == '?' && (flow || atSpace after) then s.explicitKey
  else if x == ':' && (flow || atSpace after) then s.colon
  else if x == '*' then s.inKey fun c => do
    let (n, c') ← anchorName c
    pure (.alias n, c')
  else if x == '&' then s.inKey fun c => do
    let (n, c') ← anchorName c
    pure (.anchor n, c')
  else if x == '!' then s.inKey tag
  else if x == '|' && !flow then s.blockScalar false
  else if x == '>' && !flow then s.blockScalar true
  else if x == '\'' || x == '"' then s.inKey fun c => do
    let (t, c') ← c.quoted (x == '"')
    pure (.scalar t false, c')
  else if startsPlain flow x after then s.plainScalar
  else malformed

/-- Takes in the rest of the text. -/
def finish : Nat → Scanner → Except Failure Scanner
  | 0, _ => malformed
  | fuel + 1, s => do
    let s ← (s.skipSpace s.cursor.fuel).dropStale
    let s := s.unwind s.cursor.column
    match s.cursor.peek with
    | none => (s.unwind (-1)).dropCandidate
    | some x => do finish fuel (← s.step x)

end Scanner

/-- The tokens of pieces, which come last first, before `out`. -/
def linearise (keys : List (Nat × Bool)) : List Piece → List Token → List Token
  | [], out => out
  | .token t :: rest, out => linearise keys rest (t :: out)
  | .place id :: rest, out =>
    match keys.find? fun k => k.1 == id with
    | some (_, true) => linearise keys rest (.blockMapStart :: .key :: out)
    | some (_, false) => linearise keys rest (.key :: out)
    | none => linearise keys rest out

/-- The tokens of a text. -/
def scan (t : Text) : Except Failure (List Token) := do
  let cs ← (match Text.toChars? t with
    | some cs => pure cs
    | none => malformed : Except Failure (List Char))
  if !cs.all isAllowed then malformed
  let c : Cursor := ⟨cs, 0, 0, 0⟩
  let c := if c.peek == some byteOrderMark then c.next else c
  let s ← Scanner.finish c.fuel { cursor := c }
  pure (linearise s.keys s.pieces [])

end Token

end JobMeter.Yaml
