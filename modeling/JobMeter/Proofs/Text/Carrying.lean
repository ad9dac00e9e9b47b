import JobMeter.Text.Charset
import JobMeter.Text.Lines

/-!
# What is carried from piece to piece

A body comes in pieces.  What a piece ends with may belong to the next one: the bytes of a character
that is not complete, and a line that has not ended.  Both are carried over.

* `Utf8.run_append` — bytes that come in two parts are decoded as if they had come at once, from
  the sequence that the first part left open.
* `Utf8.textFrom`, `textFrom_append` — the text of all bytes that come, from a sequence left open.
* `filled` — the lines that are not empty.
* `filledFrom_append` — **lines are carried over a cut**: a text that comes in two parts has the
  filled lines of the whole.  Empty lines may differ, since a cut between a carriage return and its
  line feed makes two line breaks of one.
-/

namespace JobMeter.Text

/-! ## Characters -/

namespace Utf8

theorem run_cons (surrogates : Bool) (out : List (Option CodePoint)) (state : Option Sequence)
    (b : UInt8) (bytes : List UInt8) :
    run surrogates out state (b :: bytes) =
      run surrogates ((step surrogates state b).1.reverse ++ out) (step surrogates state b).2
        bytes := rfl

/-- What was decoded before stands before what comes. -/
theorem run_eq_append (surrogates : Bool) (out : List (Option CodePoint)) (state : Option Sequence)
    (bytes : List UInt8) :
    run surrogates out state bytes =
      (out.reverse ++ (run surrogates [] state bytes).1, (run surrogates [] state bytes).2) := by
  induction bytes generalizing out state with
  | nil => simp [run]
  | cons b bytes ih =>
    rw [run_cons, run_cons, ih, ih ((step surrogates state b).1.reverse ++ [])]
    simp

/-- Bytes that come in two parts. -/
theorem run_append (surrogates : Bool) (state : Option Sequence) (a b : List UInt8) :
    run surrogates [] state (a ++ b) =
      ((run surrogates [] state a).1 ++ (run surrogates [] (run surrogates [] state a).2 b).1,
        (run surrogates [] (run surrogates [] state a).2 b).2) := by
  induction a generalizing state with
  | nil => rfl
  | cons x a ih =>
    rw [List.cons_append, run_cons, run_cons, run_eq_append surrogates _ _ (a ++ b), ih,
      run_eq_append surrogates ((step surrogates state x).1.reverse ++ []) _ a]
    simp

/-- The text of bytes that come after a sequence was left open; at the end the replacement character
stands for a sequence that is still open. -/
def textFrom (state : Option Sequence) (bytes : List UInt8) : Text :=
  (run false [] state bytes).1.map (·.getD CodePoint.replacement) ++
    if (run false [] state bytes).2.isSome then [CodePoint.replacement] else []

theorem textFrom_none (bytes : List UInt8) : textFrom none bytes = decodeReplacing bytes := rfl

end Utf8

namespace Decoder

variable {d : Decoder}

theorem read_utf8 (h : d.charset = .utf8 false) (piece : List UInt8) :
    d.read piece = .ok (d.readUtf8 piece) := by
  unfold read
  rw [h]

theorem finish_utf8 (h : d.charset = .utf8 false) :
    d.finish = .ok (Utf8.textFrom d.sequence []) := by
  unfold finish
  rw [h]
  rfl

/-- A piece is decoded, and what it leaves open is carried over. -/
theorem textFrom_append (d : Decoder) (piece bytes : List UInt8) :
    Utf8.textFrom d.sequence (piece ++ bytes) =
      (d.readUtf8 piece).1 ++ Utf8.textFrom (d.readUtf8 piece).2.sequence bytes := by
  rw [Utf8.textFrom, Utf8.run_append, List.map_append, List.append_assoc]
  rfl

end Decoder

/-! ## Lines -/

/-- The lines that are not empty. -/
def filled {α : Type} (lines : List (List α)) : List (List α) := lines.filter fun l => !l.isEmpty

theorem filled_append {α : Type} (lines lines' : List (List α)) :
    filled (lines ++ lines') = filled lines ++ filled lines' :=
  List.filter_append lines lines'

theorem filled_cons {α : Type} (line : List α) (lines : List (List α)) :
    filled (line :: lines) = filled [line] ++ filled lines :=
  filled_append [line] lines

theorem filled_map_toCharsReplacing (lines : List Text) :
    filled (lines.map toCharsReplacing) = (filled lines).map toCharsReplacing := by
  rw [filled, filled, List.filter_map]
  congr 2
  funext line
  cases line <;> rfl

/-- The filled lines of a text after `line`, which is, in reverse, what was read of the first. -/
def filledFrom (line t : Text) : List Text :=
  filled ((endedLines line t).1 ++ [(endedLines line t).2.reverse])

/-- What is left at the end is a line, if there is anything. -/
theorem filled_endedLines (line t : Text) :
    filled (if (endedLines line t).2.isEmpty then (endedLines line t).1
      else (endedLines line t).1 ++ [(endedLines line t).2.reverse]) = filledFrom line t := by
  unfold filledFrom
  split
  · rename_i hempty
    rw [filled_append, List.isEmpty_iff.1 hempty]
    exact (List.append_nil _).symm
  · rfl

theorem filled_splitLines (t : Text) : filled (splitLines t) = filledFrom [] t :=
  filled_endedLines [] t

theorem endsLine_carriageReturn : endsLine carriageReturn = true := by decide

theorem endsLine_lineFeed : endsLine lineFeed = true := by decide

theorem lineFeed_ne_carriageReturn : lineFeed ≠ carriageReturn := by decide

/-- A carriage return and the line feed after it end one line. -/
theorem endedLines_pair (line t : Text) :
    endedLines line (carriageReturn :: lineFeed :: t) =
      (line.reverse :: (endedLines [] t).1, (endedLines [] t).2) := by
  rw [endedLines, if_pos ⟨rfl, rfl⟩]

/-- What comes after a code point that ends a line by itself is read afresh. -/
theorem endedLines_cons {line t : Text} {p : CodePoint} (hp : endsLine p = true)
    (hpair : ¬ (p = carriageReturn ∧ t.head? = some lineFeed)) :
    endedLines line (p :: t) = (line.reverse :: (endedLines [] t).1, (endedLines [] t).2) := by
  cases t with
  | nil => simp [endedLines, hp]
  | cons q t =>
    have hpair : ¬ (p = carriageReturn ∧ q = lineFeed) := by simpa using hpair
    rw [endedLines, if_neg hpair, if_pos hp]

/-- A code point that ends no line is read of the line. -/
theorem endedLines_cons_of_not_ends {line t : Text} {p : CodePoint} (hp : endsLine p = false) :
    endedLines line (p :: t) = endedLines (p :: line) t := by
  cases t with
  | nil => simp [endedLines, hp]
  | cons q t =>
    have hpair : ¬ (p = carriageReturn ∧ q = lineFeed) := by
      rintro ⟨rfl, -⟩
      rw [endsLine_carriageReturn] at hp
      cases hp
    rw [endedLines, if_neg hpair, if_neg (by simp [hp])]

theorem filledFrom_of_endedLines {line line' t t' : Text}
    (h : endedLines line t = (line'.reverse :: (endedLines [] t').1, (endedLines [] t').2)) :
    filledFrom line t = filled [line'.reverse] ++ filledFrom [] t' := by
  rw [filledFrom, h, List.cons_append, filled_cons]
  rfl

/-- A line feed at the start ends an empty line. -/
theorem filledFrom_lineFeed (t : Text) : filledFrom [] (lineFeed :: t) = filledFrom [] t :=
  filledFrom_of_endedLines
    (endedLines_cons endsLine_lineFeed fun h => lineFeed_ne_carriageReturn h.1)

/-- A line that is filled ends at the first code point that ends lines, whatever comes then. -/
theorem filledFrom_cons (line : Text) (p : CodePoint) (t : Text) :
    filledFrom line (p :: t) =
      if endsLine p then filled [line.reverse] ++ filledFrom [] t
      else filledFrom (p :: line) t := by
  by_cases hp : endsLine p = true
  · rw [if_pos hp]
    by_cases hpair : p = carriageReturn ∧ t.head? = some lineFeed
    · obtain ⟨rfl, hfeed⟩ := hpair
      cases t with
      | nil => cases hfeed
      | cons q t =>
        obtain rfl : q = lineFeed := by simpa using hfeed
        rw [filledFrom_lineFeed]
        exact filledFrom_of_endedLines (endedLines_pair line t)
    · exact filledFrom_of_endedLines (endedLines_cons hp hpair)
  · rw [if_neg hp, filledFrom, filledFrom, endedLines_cons_of_not_ends (Bool.eq_false_iff.2 hp)]

/-- **Lines are carried over a cut.** -/
theorem filledFrom_append (line t u : Text) :
    filledFrom line (t ++ u) =
      filled (endedLines line t).1 ++ filledFrom (endedLines line t).2 u := by
  induction line, t using endedLines.induct with
  | case1 line => rfl
  | case2 line p hp => rw [List.singleton_append, filledFrom_cons, if_pos hp, endedLines, if_pos hp]
  | case3 line p hp =>
    rw [List.singleton_append, filledFrom_cons, if_neg hp, endedLines, if_neg hp]
    rfl
  | case4 line p q t hpair lines left heq ih =>
    obtain ⟨rfl, rfl⟩ := hpair
    rw [List.cons_append, filledFrom_cons, if_pos endsLine_carriageReturn, List.cons_append,
      filledFrom_lineFeed, ih, endedLines_pair, filled_cons line.reverse (endedLines [] t).1,
      List.append_assoc]
  | case5 line p q t hpair hp lines left heq ih =>
    have hended : endedLines line (p :: q :: t) =
        (line.reverse :: (endedLines [] (q :: t)).1, (endedLines [] (q :: t)).2) :=
      endedLines_cons hp (by simpa using hpair)
    rw [List.cons_append, filledFrom_cons, if_pos hp, ih, hended,
      filled_cons line.reverse (endedLines [] (q :: t)).1, List.append_assoc]
  | case6 line p q t hpair hp ih =>
    rw [List.cons_append, filledFrom_cons, if_neg hp, ih,
      endedLines_cons_of_not_ends (Bool.eq_false_iff.2 hp)]

end JobMeter.Text
