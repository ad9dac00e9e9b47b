import JobMeter.Text.Basic

/-!
# Base 64

Bytes written with 64 characters, four for three bytes.  `decode?` passes over all other
characters; the writing ends at the padding, if it completes a group of four, and otherwise at the
end of the text, where no group may be open.  `encode` pads the last group.
-/

namespace JobMeter.Text.Base64

/-- The value of a character. -/
def value? (c : Char) : Option Nat :=
  if 'A' ≤ c ∧ c ≤ 'Z' then some (c.toNat - 'A'.toNat)
  else if 'a' ≤ c ∧ c ≤ 'z' then some (c.toNat - 'a'.toNat + 26)
  else if '0' ≤ c ∧ c ≤ '9' then some (c.toNat - '0'.toNat + 52)
  else if c = '+' then some 62
  else if c = '/' then some 63
  else none

/-- How much of a group has been read. -/
structure Group where
  /-- The number of its characters. -/
  size : Nat := 0
  /-- The bits that are in no byte yet. -/
  bits : Nat := 0
  /-- The number of padding characters since the last of them. -/
  padding : Nat := 0

/-- Takes in the value of a character; gives the byte that is complete with it. -/
def Group.add (g : Group) (v : Nat) : Option UInt8 × Group :=
  match g.size with
  | 0 => (none, ⟨1, v, 0⟩)
  | 1 => (some (UInt8.ofNat (g.bits * 4 + v / 16)), ⟨2, v % 16, 0⟩)
  | 2 => (some (UInt8.ofNat (g.bits * 16 + v / 4)), ⟨3, v % 4, 0⟩)
  | _ => (some (UInt8.ofNat (g.bits * 64 + v)), {})

/-- The bytes of a text, after `out` in reverse. -/
def decodeFrom (g : Group) (out : List UInt8) : List Char → Option (List UInt8)
  | [] => if g.size = 0 then some out.reverse else none
  | c :: rest =>
    if c = '=' then
      if 2 ≤ g.size then
        if 4 ≤ g.size + g.padding + 1 then some out.reverse
        else decodeFrom { g with padding := g.padding + 1 } out rest
      else decodeFrom g out rest
    else
      match value? c with
      | none => decodeFrom g out rest
      | some v =>
        let (b, g') := g.add v
        decodeFrom g' (b.toList ++ out) rest

/-- The bytes of a text. -/
def decode? (cs : List Char) : Option (List UInt8) := decodeFrom {} [] cs

/-- The character of a value. -/
def character (v : Nat) : CodePoint :=
  CodePoint.ofChar <|
    if v < 26 then Char.ofNat ('A'.toNat + v)
    else if v < 52 then Char.ofNat ('a'.toNat + (v - 26))
    else if v < 62 then Char.ofNat ('0'.toNat + (v - 52))
    else if v = 62 then '+'
    else '/'

/-- The text of bytes. -/
def encode : List UInt8 → Text
  | a :: b :: c :: r =>
    let n := (a.toNat * 256 + b.toNat) * 256 + c.toNat
    character (n / 262144) :: character (n / 4096 % 64) :: character (n / 64 % 64)
      :: character (n % 64) :: encode r
  | [a, b] =>
    let n := (a.toNat * 256 + b.toNat) * 4
    [character (n / 4096), character (n / 64 % 64), character (n % 64), CodePoint.ofChar '=']
  | [a] =>
    let n := a.toNat * 16
    [character (n / 64), character (n % 64), CodePoint.ofChar '=', CodePoint.ofChar '=']
  | [] => []

end JobMeter.Text.Base64
