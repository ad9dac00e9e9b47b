import JobMeter.Text.Cut
import JobMeter.Text.Punycode

/-!
# Names of hosts

The name of a host consists of labels with dots between them.  A label that is not in ASCII is
written in Punycode after the mark `xn--`, if it holds nothing but small letters, digits and
hyphens.

`lowerLetter` and `isLabelPoint` know the letters of the scripts of Europe, Hebrew, Arabic, Thai,
Devanagari and the scripts of East Asia.
-/

namespace JobMeter.Http.HostName

/-- The small letter of a letter. -/
def lowerLetter (p : CodePoint) : CodePoint :=
  let n := p.val
  let add := fun k => CodePoint.ofNat (n + k)
  if n < 0x80 then Text.lowerPoint p
  else if 0xC0 ≤ n ∧ n ≤ 0xDE ∧ n ≠ 0xD7 then add 0x20
  else if 0x100 ≤ n ∧ n < 0x178 ∧ n ≠ 0x130 ∧ n ≠ 0x138 ∧ n ≠ 0x149 then
    let odd := (0x139 ≤ n && n ≤ 0x148)
    if (n % 2 == 1) == odd then add 1 else p
  else if n = 0x178 then CodePoint.ofNat 0xFF
  else if n = 0x179 ∨ n = 0x17B ∨ n = 0x17D then add 1
  else if n = 0x386 then add 38
  else if 0x388 ≤ n ∧ n ≤ 0x38A then add 37
  else if n = 0x38C then add 64
  else if n = 0x38E ∨ n = 0x38F then add 63
  else if 0x391 ≤ n ∧ n ≤ 0x3AB ∧ n ≠ 0x3A2 then add 0x20
  else if 0x400 ≤ n ∧ n ≤ 0x40F then add 0x50
  else if 0x410 ≤ n ∧ n ≤ 0x42F then add 0x20
  else p

/-- The ranges of the characters that a label may hold. -/
def labelRanges : List (Nat × Nat) :=
  [(0x2D, 0x2D), (0x30, 0x39), (0x61, 0x7A), (0xDF, 0xF6), (0xF8, 0x131), (0x134, 0x13E),
   (0x141, 0x148), (0x14A, 0x17E), (0x3AC, 0x3CE), (0x430, 0x45F), (0x5D0, 0x5EA), (0x620, 0x63F),
   (0x641, 0x64A), (0x904, 0x939), (0xE01, 0xE32), (0xE34, 0xE3A), (0xE40, 0xE4E),
   (0x3005, 0x3007), (0x3041, 0x3096), (0x30A1, 0x30FA), (0x30FC, 0x30FE), (0x3400, 0x4DBF),
   (0x4E00, 0x9FFF), (0xAC00, 0xD7A3)]

/-- May a label hold the character? -/
def isLabelPoint (p : CodePoint) : Bool :=
  labelRanges.any fun (low, high) => decide (low ≤ p.val) && decide (p.val ≤ high)

/-- A label in ASCII. -/
def labelToAscii? (label : Text) : Option Text :=
  if label.isAscii then some label.lower
  else
    let label := label.map lowerLetter
    let hyphen := CodePoint.is '-'
    let ends := label.head?.any hyphen || label.getLast?.any hyphen
    let marked := Text.startsWith "--" (label.drop 2)
    let written := text "xn--" ++ Text.Punycode.encode label
    if label.all isLabelPoint && !ends && !marked && written.length ≤ 63 then some written else none

/-- A name in ASCII. -/
def toAscii? (host : Text) : Option Text :=
  ((Text.splitOn '.' host).mapM labelToAscii?).map (Text.joinWith (text "."))

end JobMeter.Http.HostName
