import JobMeter.Number.Numeral
import JobMeter.Text.Blank

/-!
# Numbers given as texts

Where a number is wanted a text that writes one will do:

* an integer (`lenientInteger?`): a sign, digits with single underscores between them, and possibly
  a point and zeros; white space around it does not count;
* a double (`lenientFloat?`): the usual decimal notation, `inf`, `infinity` and `nan` in any case.
-/

namespace JobMeter.Schema

open JobMeter.Text JobMeter.Number.Numeral

/-- Integers with more characters are refused. -/
def longestNumeral : Nat := 4300

/-- Digits with single underscores between them, without the underscores. -/
def joinedDigits? : List Char → Option (List Char)
  | [] => none
  | [c] => if isAsciiDigit c then some [c] else none
  | c :: '_' :: rest => if isAsciiDigit c then (joinedDigits? rest).map (c :: ·) else none
  | c :: rest => if isAsciiDigit c then (joinedDigits? rest).map (c :: ·) else none

/-- The integer that a text writes, without white space around it. -/
def lenientInteger? (cs : List Char) : Option Int :=
  let (negative, cs) := sign cs
  let whole := cs.takeWhile (· != '.')
  let zeros := match cs.dropWhile (· != '.') with
    | [] => true
    | _ :: fraction => !fraction.isEmpty && fraction.all (· == '0')
  if zeros then
    (joinedDigits? whole).map fun ds =>
      let n : Int := decimalNumber ds
      if negative then -n else n
  else none

/-- Single underscores inside a text, taken out. -/
def withoutUnderscores? (cs : List Char) : Option (List Char) :=
  let doubled := (cs.zip (cs.drop 1)).any fun (a, b) => a == '_' && b == '_'
  if cs.head? == some '_' || cs.getLast? == some '_' || doubled then none
  else some (cs.filter (· != '_'))

/-- The double that a text writes.  White space around it does not count, and underscores inside
it only if there is no white space. -/
def lenientFloat? (cs : List Char) : Option Float :=
  (float? (trimBoth isWhiteSpace cs)).or ((withoutUnderscores? cs).bind float?)

end JobMeter.Schema
