import JobMeter.Text.Blank
import JobMeter.Text.Basic

/-!
# Cutting texts

Texts are cut at characters, and compared with characters, all of which are ASCII:

* `cut?` and `cutLast?` cut at the first and the last place where a character stands, `splitOn` at
  all of them;
* `strip` takes characters of a class off both ends;
* `lower` and `upper` change the case of ASCII letters only.

What is cut loses nothing but the character it is cut at: `append_of_cut?`, `joinWith_splitOn`.
-/

namespace JobMeter

/-- Is the code point a given character? -/
def CodePoint.is (c : Char) (p : CodePoint) : Bool := p == CodePoint.ofChar c

/-- Does the code point stand for a character of a class? -/
def CodePoint.has (q : Char → Bool) (p : CodePoint) : Bool :=
  match p.toChar? with
  | some c => q c
  | none => false

namespace Text

/-- Is every code point an ASCII character? -/
def isAscii (t : Text) : Bool := t.all fun p => decide (p.val < 0x80)

/-- An ASCII letter in lower case. -/
def lowerPoint (p : CodePoint) : CodePoint :=
  if 0x41 ≤ p.val ∧ p.val ≤ 0x5A then CodePoint.ofNat (p.val + 0x20) else p

/-- An ASCII letter in upper case. -/
def upperPoint (p : CodePoint) : CodePoint :=
  if 0x61 ≤ p.val ∧ p.val ≤ 0x7A then CodePoint.ofNat (p.val - 0x20) else p

/-- A text with its ASCII letters in lower case. -/
def lower (t : Text) : Text := t.map lowerPoint

/-- A text with its ASCII letters in upper case. -/
def upper (t : Text) : Text := t.map upperPoint

/-- Does the text start with a string? -/
def startsWith (s : String) (t : Text) : Bool := (text s).isPrefixOf t

/-- Does the text hold the character? -/
def holds (c : Char) (t : Text) : Bool := t.any (CodePoint.is c)

/-- Does a string occur in the text? -/
def mentions (s : String) : Text → Bool
  | [] => s.isEmpty
  | p :: r => startsWith s (p :: r) || mentions s r

/-- What stands before and after the first place where a code point satisfies `q`. -/
def cutWhere? (q : CodePoint → Bool) : Text → Option (Text × Text)
  | [] => none
  | p :: r => if q p then some ([], r) else (cutWhere? q r).map fun (a, b) => (p :: a, b)

/-- What stands before and after a character, where it stands first. -/
def cut? (c : Char) (t : Text) : Option (Text × Text) := cutWhere? (CodePoint.is c) t

/-- What stands before and after a character, where it stands last. -/
def cutLast? (c : Char) (t : Text) : Option (Text × Text) :=
  (cut? c t.reverse).map fun (b, a) => (a.reverse, b.reverse)

/-- A text cut at the first place where a character stands; all of it is before, if the character
does not stand in it. -/
def cut (c : Char) (t : Text) : Text × Text := (cut? c t).getD (t, [])

/-- The parts of a text between the places where a character stands. -/
def splitOn (c : Char) : Text → List Text
  | [] => [[]]
  | p :: r =>
    if CodePoint.is c p then [] :: splitOn c r
    else
      match splitOn c r with
      | [] => [[p]]
      | part :: parts => (p :: part) :: parts

/-- A text without the code points of a class at its start. -/
def stripLeft (q : CodePoint → Bool) (t : Text) : Text := t.dropWhile q

/-- A text without the code points of a class at its end. -/
def stripRight (q : CodePoint → Bool) (t : Text) : Text := (t.reverse.dropWhile q).reverse

/-- A text without the code points of a class at its ends. -/
def strip (q : CodePoint → Bool) (t : Text) : Text := stripRight q (stripLeft q t)

/-- A text without the blanks at its ends. -/
def trim (t : Text) : Text := strip (CodePoint.has isBlank) t

theorem cutWhere?_eq_some {q : CodePoint → Bool} {t a b : Text} (h : cutWhere? q t = some (a, b)) :
    ∃ p, q p = true ∧ t = a ++ p :: b ∧ ∀ x ∈ a, q x = false := by
  induction t generalizing a b with
  | nil => simp [cutWhere?] at h
  | cons p r ih =>
    by_cases hp : q p = true
    · simp only [cutWhere?, hp, if_true, Option.some.injEq, Prod.mk.injEq] at h
      exact ⟨p, hp, by simp [← h.1, ← h.2], by simp [← h.1]⟩
    · simp only [cutWhere?, hp, Bool.false_eq_true, if_false, Option.map_eq_some_iff,
        Prod.mk.injEq] at h
      obtain ⟨⟨a', b'⟩, h', rfl, rfl⟩ := h
      obtain ⟨p', hp', rfl, hall⟩ := ih h'
      exact ⟨p', hp', rfl, by simpa using ⟨by simpa using hp, hall⟩⟩

theorem append_of_cut? {c : Char} {t a b : Text} (h : cut? c t = some (a, b)) :
    t = a ++ CodePoint.ofChar c :: b := by
  obtain ⟨p, hp, rfl, -⟩ := cutWhere?_eq_some h
  simp only [CodePoint.is, beq_iff_eq] at hp
  rw [hp]

theorem splitOn_ne_nil (c : Char) (t : Text) : splitOn c t ≠ [] := by
  cases t with
  | nil => simp [splitOn]
  | cons p r =>
    by_cases hp : CodePoint.is c p = true
    · simp [splitOn, hp]
    · simp only [splitOn, hp]
      cases splitOn c r <;> simp

theorem joinWith_splitOn (c : Char) (t : Text) :
    joinWith [CodePoint.ofChar c] (splitOn c t) = t := by
  induction t with
  | nil => simp [splitOn, joinWith, List.intercalate]
  | cons p r ih =>
    have hne := splitOn_ne_nil c r
    cases hs : splitOn c r with
    | nil => exact absurd hs hne
    | cons part parts =>
      rw [hs] at ih
      by_cases hp : CodePoint.is c p = true
      · have hpc : p = CodePoint.ofChar c := by simpa [CodePoint.is] using hp
        simp only [splitOn, hp, if_true, hs]
        simp only [joinWith, List.intercalate] at ih ⊢
        simp [ih, hpc]
      · simp only [splitOn, hp, hs]
        cases parts <;> simp_all [joinWith, List.intercalate]

end Text

end JobMeter
