import JobMeter.Text.Digit
import JobMeter.Text.Printable

/-!
# Quoted texts

`quote` writes a text between quotes so that it can be told apart from what surrounds it.  The
quote is the single one, or the double one for a text that holds single quotes only.  The quote
and the backslash are escaped, and so is every code point that is not printable.
-/

namespace JobMeter.Text

/-- The quote that a text is written in. -/
def quoteMark (t : Text) : Char :=
  if t.any (·.val == '\''.toNat) && !t.any (·.val == '"'.toNat) then '"' else '\''

/-- A code point inside a text that is quoted with `mark`. -/
def quotedPoint (mark : Char) (p : CodePoint) : Text :=
  let n := p.val
  if n = mark.toNat ∨ n = '\\'.toNat then [CodePoint.ofChar '\\', p]
  else if n = 0x0A then text "\\n"
  else if n = 0x0D then text "\\r"
  else if n = 0x09 then text "\\t"
  else if isPrintable p then [p]
  else if n < 0x100 then text "\\x" ++ ofChars (hexPadded 2 n)
  else if n < 0x10000 then text "\\u" ++ ofChars (hexPadded 4 n)
  else text "\\U" ++ ofChars (hexPadded 8 n)

/-- A text between quotes. -/
def quote (t : Text) : Text :=
  let mark := quoteMark t
  CodePoint.ofChar mark :: (t.flatMap (quotedPoint mark) ++ [CodePoint.ofChar mark])

end JobMeter.Text
