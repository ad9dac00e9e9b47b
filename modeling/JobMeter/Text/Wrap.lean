import JobMeter.Text.Blank

/-!
# Wrapping lines

A text is cut into chunks, which are words and the blanks between them (`chunks`), and lines are
filled with as many chunks as have a place (`wrap`).  Blanks at the start of a line, the first one
apart, and at the end of a line are left out.
-/

namespace JobMeter.Text

/-- The words of a text and the blanks between them. -/
def chunks : List Char → List (List Char)
  | [] => []
  | c :: r =>
    match chunks r with
    | (d :: ds) :: more =>
      if isWhiteSpace c == isWhiteSpace d then (c :: d :: ds) :: more else [c] :: (d :: ds) :: more
    | more => [c] :: more

/-- Is it a chunk of blanks? -/
def isGap (chunk : List Char) : Bool := chunk.all isWhiteSpace

/-- A line without the blanks at its end. -/
def trimEnd (line : List Char) : List Char := (line.reverse.dropWhile isWhiteSpace).reverse

/-- A line that is complete, unless it holds blanks only. -/
def filledLine (line : List Char) : List (List Char) :=
  let line := trimEnd line
  if line.isEmpty then [] else [line]

/-- The lines of chunks, after a line that holds `line` already; `first` tells whether no line is
complete. -/
def fill (width : Nat) (first : Bool) (line : List Char) : List (List Char) → List (List Char)
  | [] => filledLine line
  | chunk :: rest =>
    if line.isEmpty && isGap chunk && !first then fill width first [] rest
    else if line.isEmpty || line.length + chunk.length ≤ width then
      fill width first (line ++ chunk) rest
    else filledLine line ++ fill width false (if isGap chunk then [] else chunk) rest

/-- The lines of a text, none of them longer than `width` unless a word is. -/
def wrap (width : Nat) (t : List Char) : List (List Char) := fill width true [] (chunks t)

end JobMeter.Text
