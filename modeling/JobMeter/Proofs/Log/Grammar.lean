import JobMeter.Proofs.Log.Lasts
import JobMeter.Proofs.Text.Pattern
import Mathlib.Data.List.TakeWhile
import Mathlib.Order.WellFounded

/-!
# The grammar of log lines

A line that counts is taken apart by hand, place by place, and so is a message with an exit code.
Here both are held against patterns, and these against the form that they describe.

* `linePattern`, `exitPattern` — the patterns of lines that count and of reports of an exit code.
* `Splits cs l blank tail` — the line `cs` has the form `D.FZcM` with the parts `l` and the blank
  `c`, and `tail` is behind it.
* `Line.parse?_eq_some` — a line is taken apart into the parts of its form, and only if it has it;
  so there is one way to take it apart at most (`Splits.unique`).
* `matches_linePattern` — its pattern matches it in the same way.
* `finds_exitPattern` — the pattern of reports finds the first report, and so does the search by
  hand, which fails when there is none (`exitDigit?_eq_none`).
* `lines_follow_grammar` — **log lines follow their grammar**.
-/

namespace JobMeter.Log

open JobMeter.Text

/-! ## Patterns -/

/-- A date and a time of day. -/
def datePattern : Pattern :=
  .digits 4 ++ .mark '-' ++ .digits 2 ++ .mark '-' ++ .digits 2 ++ .mark 'T' ++ .digits 2 ++
    .mark ':' ++ .digits 2 ++ .mark ':' ++ .digits 2

/-- A line that counts, with date, fraction and message as groups. -/
def linePattern : Pattern :=
  .group datePattern ++ .mark '.' ++ .group (.run isDecimal 1 (some 9)) ++ .mark 'Z' ++
    .run isBlank 1 (some 1) ++ .group (.run (· != '\n') 1 none) ++ .atEnd

/-- A report of an exit code, with the digit as a group. -/
def exitPattern : Pattern := .literal exitLead ++ .group (.digits 1) ++ .mark '.'

/-! ## The form of a line -/

/-- The shape of a date and a time of day, with a `d` for each digit. -/
def dateForm : List Char := "dddd-dd-ddTdd:dd:dd".toList

/-- The line is made of these parts, with a blank between the time and the message and with `tail`
behind it. -/
structure Splits (cs : List Char) (l : Line) (blank : Char) (tail : List Char) : Prop where
  eq_render : cs = l.render blank ++ tail
  date : HasShape dateForm l.date
  fraction : ∀ c ∈ l.fraction, isDecimal c = true
  fraction_length : 1 ≤ l.fraction.length ∧ l.fraction.length ≤ 9
  blank : isBlank blank = true
  message_ne_nil : l.message ≠ []
  message : '\n' ∉ l.message
  tail : tail = [] ∨ tail = ['\n']

theorem fills_iff {ps : List Place} {m : List Char} :
    fills ps m = true ↔ List.Forall₂ (fun c p => p.admits c = true) m ps := by
  induction ps generalizing m with
  | nil => cases m <;> simp [fills]
  | cons p ps ih => cases m <;> simp [fills, ih]

/-- The place of a shape that a character stands for. -/
def Place.ofChar (c : Char) : Place := if c = 'd' then .digit else .mark c

theorem Place.admits_ofChar {c place : Char} :
    (ofChar place).admits c = true ↔ FillsPlace c place := by
  rw [FillsPlace, ofChar]
  split
  · rfl
  · rw [admits, beq_iff_eq, eq_comm]

/-- The date of a line is looked at place by place. -/
theorem fills_dateShape {m : List Char} : fills dateShape m = true ↔ HasShape dateForm m := by
  have hshape : dateShape = dateForm.map Place.ofChar := by decide
  rw [fills_iff, hshape, List.forall₂_map_right_iff, HasShape]
  simp only [Place.admits_ofChar]

theorem length_of_hasShape {m : List Char} (h : HasShape dateForm m) :
    m.length = dateShape.length := List.Forall₂.length_eq (fills_iff.1 (fills_dateShape.2 h))

/-- Characters of a class are taken off a text up to the first that is not in it. -/
theorem takeWhile_dropWhile_iff {p : Char → Bool} {cs m rest : List Char} :
    cs.takeWhile p = m ∧ cs.dropWhile p = rest ↔
      cs = m ++ rest ∧ (∀ c ∈ m, p c = true) ∧ ∀ c ∈ rest.head?, p c = false := by
  constructor
  · rintro ⟨rfl, rfl⟩
    refine ⟨List.takeWhile_append_dropWhile.symm, fun c hc => List.mem_takeWhile_imp hc,
      fun c hc => ?_⟩
    simpa [Option.mem_def.1 hc] using List.head?_dropWhile_not p cs
  · rintro ⟨rfl, hm, hrest⟩
    rw [List.takeWhile_append_of_pos hm, List.dropWhile_append_of_pos hm]
    cases rest with
    | nil => simp
    | cons c rest =>
      have hc := hrest c rfl
      simp [hc]

/-- The message of a line goes up to its end, or up to the line feed that is its end. -/
theorem Line.message?_eq_some {rest m : List Char} :
    message? rest = some m ↔
      m ≠ [] ∧ '\n' ∉ m ∧ ∃ tail, rest = m ++ tail ∧ (tail = [] ∨ tail = ['\n']) := by
  have hfeed {m : List Char} : (∀ c ∈ m, (c != '\n') = true) ↔ '\n' ∉ m := by
    simp only [bne_iff_ne, ne_eq, List.forall_mem_ne']
  constructor
  · intro h
    obtain ⟨hrest, hm, -⟩ :=
      takeWhile_dropWhile_iff.1 (⟨rfl, rfl⟩ : rest.takeWhile (· != '\n') = _ ∧ _)
    rw [message?] at h
    split at h
    · cases h
    · rename_i hdrop hne
      obtain rfl := Option.some.inj h
      exact ⟨hne, hfeed.1 hm, _, hrest, .inl hdrop⟩
    · rename_i hdrop hne
      obtain rfl := Option.some.inj h
      exact ⟨hne, hfeed.1 hm, _, hrest, .inr hdrop⟩
    · cases h
  · rintro ⟨hne, hm, tail, hrest, htail⟩
    obtain ⟨htake, hdrop⟩ := takeWhile_dropWhile_iff.2 ⟨hrest, hfeed.2 hm, by
      rcases htail with rfl | rfl <;> simp⟩
    rw [message?, htake, hdrop]
    obtain ⟨c, m, rfl⟩ := List.exists_cons_of_ne_nil hne
    rcases htail with rfl | rfl <;> rfl

/-- **A line is taken apart into the parts of its form, and only if it has the form.** -/
theorem Line.parse?_eq_some {cs : List Char} {l : Line} :
    parse? cs = some l ↔ ∃ blank tail, Splits cs l blank tail := by
  constructor
  · intro h
    rw [parse?] at h
    split at h
    case isFalse => cases h
    rename_i hdate
    split at h
    case h_2 => cases h
    rename_i rest hstop
    have hlength : 1 ≤ (rest.takeWhile isDecimal).length ∧
        (rest.takeWhile isDecimal).length ≤ 9 := by
      by_contra hnot
      rw [if_neg hnot] at h
      cases h
    rw [if_pos hlength] at h
    split at h
    case h_2 => cases h
    rename_i blank start hmark
    split at h
    case isFalse => cases h
    rename_i hblank
    obtain ⟨m, hm, rfl⟩ := Option.map_eq_some_iff.1 h
    obtain ⟨hne, hmem, tail, rfl, htail⟩ := message?_eq_some.1 hm
    obtain ⟨hrest, hfraction, -⟩ := takeWhile_dropWhile_iff.1 ⟨rfl, hmark⟩
    have hcs : cs = cs.take dateShape.length ++ '.' :: rest := by
      rw [← hstop, List.take_append_drop]
    refine ⟨blank, tail, ?_, fills_dateShape.1 hdate, hfraction, hlength, hblank, hne, hmem, htail⟩
    calc cs = cs.take dateShape.length ++ '.' ::
          (rest.takeWhile isDecimal ++ 'Z' :: blank :: (m ++ tail)) := by rw [← hrest, ← hcs]
      _ = _ := by simp [render]
  · rintro ⟨blank, tail, h⟩
    have hlength := length_of_hasShape h.date
    have hcs : cs = l.date ++ '.' :: (l.fraction ++ 'Z' :: blank :: (l.message ++ tail)) := by
      rw [h.eq_render, render]
      simp
    obtain ⟨htake, hdrop⟩ := takeWhile_dropWhile_iff.2
      ⟨(rfl : l.fraction ++ 'Z' :: blank :: (l.message ++ tail) = _), h.fraction, by
        rintro _ ⟨⟩
        decide⟩
    rw [parse?, hcs, List.take_left' hlength, List.drop_left' hlength,
      if_pos (fills_dateShape.2 h.date)]
    simp only [htake, hdrop, h.fraction_length]
    rw [if_pos h.blank, message?_eq_some.2 ⟨h.message_ne_nil, h.message, tail, rfl, h.tail⟩]
    rfl

/-- There is one way at most to take a line apart. -/
theorem Splits.unique {cs : List Char} {l l' : Line} {blank blank' : Char}
    {tail tail' : List Char} (h : Splits cs l blank tail) (h' : Splits cs l' blank' tail') :
    l = l' ∧ blank = blank' ∧ tail = tail' := by
  have hl := Line.parse?_eq_some.2 ⟨blank, tail, h⟩
  have hl' := Line.parse?_eq_some.2 ⟨blank', tail', h'⟩
  obtain rfl : l = l' := Option.some.inj (hl.symm.trans hl')
  have heq := h.eq_render.symm.trans h'.eq_render
  simpa [Line.render] using heq

/-! ## The pattern of lines -/

theorem plain_datePattern : Pattern.Plain datePattern (HasShape dateForm) := by
  have hmark {c : Char} (hc : c ≠ 'd') := Pattern.plain_mark_hasShape hc
  have hdigits := Pattern.plain_digits_hasShape
  exact ((((((((((hdigits 4).hasShape_append (hmark (by decide))).hasShape_append
    (hdigits 2)).hasShape_append (hmark (by decide))).hasShape_append
    (hdigits 2)).hasShape_append (hmark (by decide))).hasShape_append
    (hdigits 2)).hasShape_append (hmark (by decide))).hasShape_append
    (hdigits 2)).hasShape_append (hmark (by decide))).hasShape_append (hdigits 2)

theorem plain_message : Pattern.Plain (.run (· != '\n') 1 none) fun m => m ≠ [] ∧ '\n' ∉ m := by
  refine (Pattern.plain_run _ 1 none).congr fun m => ?_
  simp only [bne_iff_ne, ne_eq, List.forall_mem_ne', ← List.length_pos_iff, Option.mem_def,
    reduceCtorEq, false_implies, implies_true, and_true]
  exact and_comm

/-- **The pattern of lines matches the lines of the form**, with date, fraction and message as
groups. -/
theorem matches_linePattern {cs : List Char} {gs : List (List Char)} {tail : List Char} :
    linePattern.Matches cs gs tail ↔
      ∃ l blank, Splits cs l blank tail ∧ gs = [l.date, l.fraction, l.message] := by
  simp only [linePattern, Pattern.matches_append_atEnd, plain_message.matches_append_group,
    (Pattern.plain_one _).matches_append, (Pattern.plain_mark _).matches_append,
    (Pattern.plain_run _ _ _).matches_append_group, plain_datePattern.matches_group]
  constructor
  · rintro ⟨⟨_, message, ⟨_, ⟨_, ⟨_, fraction, ⟨_, ⟨date, rfl, hdate, rfl⟩, rfl⟩, hfraction, rfl⟩,
      rfl⟩, blank, rfl, hblank⟩, hmessage, rfl⟩, htail⟩
    exact ⟨⟨date, fraction, message⟩, blank, {
      eq_render := by simp [Line.render]
      date := hdate
      fraction := hfraction.1
      fraction_length := ⟨hfraction.2.1, hfraction.2.2 9 rfl⟩
      blank := hblank
      message_ne_nil := hmessage.1
      message := hmessage.2
      tail := htail }, rfl⟩
  · rintro ⟨l, blank, h, rfl⟩
    have hcs : cs = l.date ++ (['.'] ++ (l.fraction ++
        (['Z'] ++ ([blank] ++ (l.message ++ tail))))) := by
      rw [h.eq_render]
      simp [Line.render]
    have hlength : ∀ n ∈ some 9, l.fraction.length ≤ n := by
      rintro _ ⟨⟩
      exact h.fraction_length.2
    exact ⟨⟨_, l.message, ⟨_, ⟨_, ⟨_, l.fraction, ⟨_, ⟨l.date, hcs, h.date, rfl⟩, rfl⟩,
      ⟨h.fraction, h.fraction_length.1, hlength⟩, rfl⟩, rfl⟩, blank, rfl, h.blank⟩,
      ⟨h.message_ne_nil, h.message⟩, rfl⟩, h.tail⟩

/-! ## The pattern of reports -/

/-- A report that starts at a place is what the pattern of reports takes there. -/
theorem matches_exitPattern {start rest : List Char} {gs : List (List Char)} :
    exitPattern.Matches start gs rest ↔
      ∃ d, isDecimal d = true ∧ start = exitReport d ++ rest ∧ gs = [[d]] := by
  simp only [exitPattern, (Pattern.plain_mark _).matches_append,
    (Pattern.plain_digits 1).matches_append_group]
  constructor
  · rintro ⟨_, ⟨_, m, h, ⟨hm, hlength⟩, rfl⟩, rfl⟩
    obtain ⟨rfl, _, rfl, rfl⟩ := (Pattern.plain_literal _ _ _ _).1 h
    obtain ⟨d, rfl⟩ := List.length_eq_one_iff.1 hlength
    exact ⟨d, hm d (List.mem_singleton_self d), by simp [exitReport], rfl⟩
  · rintro ⟨d, hd, rfl, rfl⟩
    exact ⟨_, ⟨[], [d], (Pattern.plain_literal _ _ _ _).2 ⟨rfl, _, by simp [exitReport], rfl⟩,
      by simpa using hd, rfl⟩, rfl⟩

theorem reportsAt_iff {m before : List Char} {d : Char} :
    ReportsAt m before d ↔
      ∃ start rest, m = before ++ start ∧ exitPattern.Matches start [[d]] rest := by
  simp only [matches_exitPattern]
  constructor
  · rintro ⟨hd, rest, rfl⟩
    exact ⟨exitReport d ++ rest, rest, List.append_assoc _ _ _, d, hd, rfl, rfl⟩
  · rintro ⟨_, rest, rfl, d', hd, rfl, hgs⟩
    obtain rfl : d = d' := by simpa using hgs
    exact ⟨hd, rest, List.append_assoc _ _ _⟩

/-- **The pattern of reports finds the first report**, with its digit as the group. -/
theorem finds_exitPattern {m : List Char} {gs : List (List Char)} :
    exitPattern.Finds m gs ↔ ∃ d, FirstReport m d ∧ gs = [[d]] := by
  constructor
  · rintro ⟨before, start, rest, rfl, h, hfirst⟩
    obtain ⟨d, -, -, rfl⟩ := matches_exitPattern.1 h
    refine ⟨d, ⟨before, reportsAt_iff.2 ⟨start, rest, rfl, h⟩, fun before' d' h' => ?_⟩, rfl⟩
    obtain ⟨start', rest', hm, h'⟩ := reportsAt_iff.1 h'
    exact hfirst before' start' _ rest' hm h'
  · rintro ⟨d, ⟨before, h, hfirst⟩, rfl⟩
    obtain ⟨start, rest, hm, h⟩ := reportsAt_iff.1 h
    refine ⟨before, start, rest, hm, h, fun before' start' gs' rest' hm' h' => ?_⟩
    obtain ⟨d', -, -, rfl⟩ := matches_exitPattern.1 h'
    exact hfirst before' d' (reportsAt_iff.2 ⟨start', rest', hm', h'⟩)

/-! ## Reports and their search -/

/-- Where there is a report there is a first one. -/
theorem exists_firstReport {m before : List Char} {d : Char} (h : ReportsAt m before d) :
    ∃ d', FirstReport m d' := by
  obtain ⟨⟨first, d'⟩, hfirst, hmin⟩ :=
    (measure fun p : List Char × Char => p.1.length).wf.has_min {p | ReportsAt m p.1 p.2}
      ⟨(before, d), h⟩
  exact ⟨d', first, hfirst, fun before' d'' h' => Nat.le_of_not_lt (hmin (before', d'') h')⟩

/-- **The search for an exit code fails only where nothing is reported.** -/
theorem exitDigit?_eq_none {m : List Char} :
    exitDigit? m = none ↔ ∀ before d, ¬ ReportsAt m before d := by
  rw [Option.eq_none_iff_forall_ne_some]
  constructor
  · intro h before d hreports
    obtain ⟨d', hfirst⟩ := exists_firstReport hreports
    exact h d' (exitDigit?_eq_some.2 hfirst)
  · rintro h d hd
    obtain ⟨before, hreports, -⟩ := exitDigit?_eq_some.1 hd
    exact h before d hreports

/-- **Log lines follow their grammar.**  A text is taken apart as a line if and only if it has the
form `D.FZcM`, with a line feed behind it or nothing, and there is one way at most to see this form
in it.  The pattern of lines matches the same texts, and its groups are the date, the fraction and
the message that the line is taken apart into.  The search for an exit code returns the digit of
the first report in a text, which is the one that the pattern of reports finds, and it returns
nothing if and only if there is no report. -/
theorem lines_follow_grammar (cs : List Char) :
    (∀ l, Line.parse? cs = some l ↔ ∃ blank tail, Splits cs l blank tail) ∧
      (∀ l l' blank blank' tail tail', Splits cs l blank tail → Splits cs l' blank' tail' →
        l = l' ∧ blank = blank' ∧ tail = tail') ∧
      (∀ gs, (∃ rest, linePattern.Matches cs gs rest) ↔
        ∃ l, Line.parse? cs = some l ∧ gs = [l.date, l.fraction, l.message]) ∧
      (∀ d, exitDigit? cs = some d ↔ FirstReport cs d) ∧
      (exitDigit? cs = none ↔ ∀ before d, ¬ ReportsAt cs before d) ∧
      ∀ gs, exitPattern.Finds cs gs ↔ ∃ d, exitDigit? cs = some d ∧ gs = [[d]] := by
  refine ⟨fun l => Line.parse?_eq_some, fun _ _ _ _ _ _ => Splits.unique, fun gs => ?_,
    fun d => exitDigit?_eq_some, exitDigit?_eq_none, fun gs => ?_⟩
  · simp only [matches_linePattern, Line.parse?_eq_some]
    constructor
    · rintro ⟨tail, l, blank, h, hgs⟩
      exact ⟨l, ⟨blank, tail, h⟩, hgs⟩
    · rintro ⟨l, ⟨blank, tail, h⟩, hgs⟩
      exact ⟨tail, l, blank, h, hgs⟩
  · simp only [finds_exitPattern, exitDigit?_eq_some]

/-- A line with digits of another script, with a line feed as the blank and another behind it; and
a text with two reports, behind a start that is none. -/
theorem lines_follow_grammar_feeds :
    let line := "٢٠٢٤-02-29T10:00:00.5Z\nlate\n".toList
    let message := ("##[error]Process completed with exit code 12." ++
      "##[error]##[error]Process completed with exit code 3." ++
      "##[error]Process completed with exit code 4.").toList
    (∃ l, Line.parse? line = some l ∧ l.message = "late".toList ∧
      (∀ l' blank tail, Splits line l' blank tail → l' = l ∧ blank = '\n' ∧ tail = ['\n']) ∧
      ∃ rest, linePattern.Matches line [l.date, l.fraction, l.message] rest) ∧
    exitPattern.Finds message [['3']] ∧ FirstReport message '3' ∧
      ¬ ∃ gs rest, linePattern.Matches message gs rest := by
  intro line message
  obtain ⟨hparse, hunique, hmatches, -⟩ := lines_follow_grammar line
  obtain ⟨-, -, hmatches', hdigit, -, hfinds⟩ := lines_follow_grammar message
  let l : Line := ⟨"٢٠٢٤-02-29T10:00:00".toList, "5".toList, "late".toList⟩
  have hl : Line.parse? line = some l := by decide +kernel
  have hthree : exitDigit? message = some '3' := by decide +kernel
  obtain ⟨blank, tail, hsplits⟩ := (hparse l).1 hl
  have hends : blank :: (l.message ++ tail) = '\n' :: (l.message ++ ['\n']) := by
    have heq := hsplits.eq_render
    rw [Line.render] at heq
    simpa [line, l] using heq.symm
  obtain ⟨rfl, htail⟩ := List.cons.inj hends
  obtain rfl := List.append_cancel_left htail
  refine ⟨⟨l, hl, rfl, fun l' blank tail h => hunique _ _ _ _ _ _ h hsplits,
    (hmatches _).2 ⟨l, hl, rfl⟩⟩, (hfinds _).2 ⟨'3', hthree, rfl⟩, (hdigit _).1 hthree, ?_⟩
  rintro ⟨gs, rest, h⟩
  obtain ⟨l', hl', -⟩ := (hmatches' gs).1 ⟨rest, h⟩
  rw [show Line.parse? message = none by decide +kernel] at hl'
  cases hl'

end JobMeter.Log
