/-!
# Texts

A text is a list of Unicode code points.  Documents may spell a *surrogate* code point without
its partner, and such a document is still read, so a text is a little more than a `String`:

* `CodePoint` and `Text`, with `Text.ofString` into them;
* `Text.toChars?`, which gives the characters back exactly when no surrogate is left over.

The literals of the library are written `text "…"`.
-/

namespace JobMeter

/-- A Unicode code point, the surrogates included. -/
abbrev CodePoint := Fin 0x110000

namespace CodePoint

/-- Every character is a code point. -/
def ofChar (c : Char) : CodePoint :=
  ⟨c.toNat, by
    have h := c.valid
    simp only [UInt32.isValidChar, Nat.isValidChar, Char.toNat] at *
    omega⟩

theorem ofChar_inj {c d : Char} : ofChar c = ofChar d ↔ c = d :=
  ⟨fun h => Char.toNat_inj.1 (Fin.mk.inj h), fun h => by rw [h]⟩

/-- The code points that stand for no character of their own. -/
def isSurrogate (p : CodePoint) : Bool := decide (0xD800 ≤ p.val) && decide (p.val ≤ 0xDFFF)

/-- The character of a code point, if it has one. -/
def toChar? (p : CodePoint) : Option Char :=
  if p.isSurrogate then none else some (Char.ofNat p.val)

/-- The code point of a number; a number beyond Unicode gives the replacement character. -/
def ofNat (n : Nat) : CodePoint :=
  if h : n < 0x110000 then ⟨n, h⟩ else ⟨0xFFFD, by decide⟩

/-- What stands for a part of the input that could not be decoded. -/
def replacement : CodePoint := ⟨0xFFFD, by decide⟩

end CodePoint

/-- A text: a list of code points. -/
abbrev Text := List CodePoint

namespace Text

/-- The text of a string. -/
def ofString (s : String) : Text := s.toList.map CodePoint.ofChar

/-- The text of a list of characters. -/
def ofChars (cs : List Char) : Text := cs.map CodePoint.ofChar

/-- The characters of a text, if it holds no surrogate. -/
def toChars? (t : Text) : Option (List Char) := t.mapM CodePoint.toChar?

/-- The characters of a text, each surrogate replaced. -/
def toCharsReplacing (t : Text) : List Char :=
  t.map fun p => (p.toChar?).getD '\uFFFD'

/-- The string of a text, each surrogate replaced. -/
def toStringReplacing (t : Text) : String := String.ofList t.toCharsReplacing

/-- Can the text be written in a Unicode encoding? -/
def encodable (t : Text) : Bool := t.all fun p => !p.isSurrogate

/-- Texts in the order of their code points. -/
def lt (a b : Text) : Bool := decide (a.map Fin.val < b.map Fin.val)

/-- Texts with a separator between them. -/
def joinWith (sep : Text) (ts : List Text) : Text := sep.intercalate ts

end Text

/-- A literal text. -/
def text (s : String) : Text := Text.ofString s

theorem text_inj {s s' : String} : text s = text s' ↔ s = s' := by
  rw [text, text, Text.ofString, Text.ofString,
    List.map_inj_right fun _ _ h => CodePoint.ofChar_inj.1 h, String.toList_inj]

end JobMeter
