import JobMeter.Text.Digit
import Mathlib.Data.List.Forall2

/-!
# Patterns

A pattern says how a text may start.  Some parts of the start are its groups.

* `Pattern.Matches` — a text starts as the pattern says, with these groups, and this is left of it.
  It says what a match is and not how one is looked for: where there is one match only, every way
  of looking for it comes to the same groups.
* `Pattern.Finds` — the first place of a text where it goes on as the pattern says.
* `Pattern.Plain` — the pattern has no groups and takes just the texts with a property.  It passes
  from parts to the whole (`Plain.append`).
* `HasShape` — a text has a shape, character by character.
-/

namespace JobMeter.Text

/-- How a text may start. -/
inductive Pattern where
  /-- From `low` to `high` characters of a class, or any number from `low` on. -/
  | run (p : Char → Bool) (low : Nat) (high : Option Nat)
  /-- One pattern and then another. -/
  | seq (a b : Pattern)
  /-- What the pattern takes is a group. -/
  | group (a : Pattern)
  /-- The end of the text, or a line feed that is the end.  It takes nothing. -/
  | atEnd

namespace Pattern

instance : Append Pattern := ⟨seq⟩

/-- This character. -/
def mark (c : Char) : Pattern := run (· == c) 1 (some 1)

/-- This text. -/
def literal : List Char → Pattern
  | [] => run (fun _ => true) 0 (some 0)
  | c :: cs => mark c ++ literal cs

/-- A number of decimal digits. -/
def digits (n : Nat) : Pattern := run isDecimal n (some n)

/-- The text starts as the pattern says, the groups of the start are `gs`, and `rest` is left. -/
def Matches : Pattern → List Char → List (List Char) → List Char → Prop
  | run p low high, cs, gs, rest =>
    gs = [] ∧ ∃ m, cs = m ++ rest ∧ (∀ c ∈ m, p c = true) ∧ low ≤ m.length ∧
      ∀ n ∈ high, m.length ≤ n
  | seq a b, cs, gs, rest =>
    ∃ gs₁ mid gs₂, a.Matches cs gs₁ mid ∧ b.Matches mid gs₂ rest ∧ gs = gs₁ ++ gs₂
  | group a, cs, gs, rest => ∃ m gs', a.Matches cs gs' rest ∧ cs = m ++ rest ∧ gs = m :: gs'
  | atEnd, cs, gs, rest => gs = [] ∧ rest = cs ∧ (cs = [] ∨ cs = ['\n'])

/-- The text goes on as the pattern says somewhere, and at the first such place with these
groups. -/
def Finds (a : Pattern) (cs : List Char) (gs : List (List Char)) : Prop :=
  ∃ before start rest, cs = before ++ start ∧ a.Matches start gs rest ∧
    ∀ before' start' gs' rest', cs = before' ++ start' → a.Matches start' gs' rest' →
      before.length ≤ before'.length

theorem matches_append {a b : Pattern} {cs : List Char} {gs : List (List Char)}
    {rest : List Char} : (a ++ b).Matches cs gs rest ↔
      ∃ gs₁ mid gs₂, a.Matches cs gs₁ mid ∧ b.Matches mid gs₂ rest ∧ gs = gs₁ ++ gs₂ := Iff.rfl

/-! ## Patterns without groups -/

/-- The pattern has no groups, and it takes a part of a text exactly if `P` holds of it. -/
def Plain (a : Pattern) (P : List Char → Prop) : Prop :=
  ∀ cs gs rest, a.Matches cs gs rest ↔ gs = [] ∧ ∃ m, cs = m ++ rest ∧ P m

theorem plain_run (p : Char → Bool) (low : Nat) (high : Option Nat) :
    Plain (run p low high) fun m =>
      (∀ c ∈ m, p c = true) ∧ low ≤ m.length ∧ ∀ n ∈ high, m.length ≤ n :=
  fun _ _ _ => Iff.rfl

namespace Plain

variable {a b : Pattern} {P Q : List Char → Prop}

theorem congr (h : Plain a P) (hPQ : ∀ m, P m ↔ Q m) : Plain a Q := by
  intro cs gs rest
  rw [h]
  simp only [hPQ]

theorem append (ha : Plain a P) (hb : Plain b Q) :
    Plain (a ++ b) fun m => ∃ m₁ m₂, m = m₁ ++ m₂ ∧ P m₁ ∧ Q m₂ := by
  intro cs gs rest
  rw [matches_append]
  constructor
  · rintro ⟨gs₁, mid, gs₂, h₁, h₂, rfl⟩
    obtain ⟨rfl, m₁, rfl, hm₁⟩ := (ha _ _ _).1 h₁
    obtain ⟨rfl, m₂, rfl, hm₂⟩ := (hb _ _ _).1 h₂
    exact ⟨rfl, m₁ ++ m₂, (List.append_assoc _ _ _).symm, m₁, m₂, rfl, hm₁, hm₂⟩
  · rintro ⟨rfl, m, rfl, m₁, m₂, rfl, hm₁, hm₂⟩
    exact ⟨[], m₂ ++ rest, [], (ha _ _ _).2 ⟨rfl, m₁, List.append_assoc _ _ _, hm₁⟩,
      (hb _ _ _).2 ⟨rfl, m₂, rfl, hm₂⟩, rfl⟩

/-- A group of it is the part of the text that it takes. -/
theorem matches_group (ha : Plain a P) {cs : List Char} {gs : List (List Char)}
    {rest : List Char} :
    (group a).Matches cs gs rest ↔ ∃ m, cs = m ++ rest ∧ P m ∧ gs = [m] := by
  constructor
  · rintro ⟨m, gs', h, hcs, rfl⟩
    obtain ⟨rfl, m', hcs', hm'⟩ := (ha _ _ _).1 h
    obtain rfl : m = m' := List.append_cancel_right (hcs.symm.trans hcs')
    exact ⟨m, hcs, hm', rfl⟩
  · rintro ⟨m, hcs, hm, rfl⟩
    exact ⟨m, [], (ha _ _ _).2 ⟨rfl, m, hcs, hm⟩, hcs, rfl⟩

/-- Behind another pattern it takes a part of what that one leaves. -/
theorem matches_append (hb : Plain b Q) {cs : List Char} {gs : List (List Char)}
    {rest : List Char} :
    (a ++ b).Matches cs gs rest ↔ ∃ m, a.Matches cs gs (m ++ rest) ∧ Q m := by
  rw [Pattern.matches_append]
  constructor
  · rintro ⟨gs₁, mid, gs₂, h₁, h₂, rfl⟩
    obtain ⟨rfl, m, rfl, hm⟩ := (hb _ _ _).1 h₂
    exact ⟨m, by rwa [List.append_nil], hm⟩
  · rintro ⟨m, h, hm⟩
    exact ⟨gs, m ++ rest, [], h, (hb _ _ _).2 ⟨rfl, m, rfl, hm⟩, (List.append_nil gs).symm⟩

/-- As a group behind another pattern it is the last group. -/
theorem matches_append_group (hb : Plain b Q) {cs : List Char} {gs : List (List Char)}
    {rest : List Char} :
    (a ++ group b).Matches cs gs rest ↔
      ∃ gs' m, a.Matches cs gs' (m ++ rest) ∧ Q m ∧ gs = gs' ++ [m] := by
  simp only [Pattern.matches_append, hb.matches_group]
  constructor
  · rintro ⟨gs₁, mid, gs₂, h, ⟨m, rfl, hm, rfl⟩, rfl⟩
    exact ⟨gs₁, m, h, hm, rfl⟩
  · rintro ⟨gs', m, h, hm, rfl⟩
    exact ⟨gs', m ++ rest, [m], h, ⟨m, rfl, hm, rfl⟩, rfl⟩

end Plain

theorem matches_append_atEnd {a : Pattern} {cs : List Char} {gs : List (List Char)}
    {rest : List Char} :
    (a ++ atEnd).Matches cs gs rest ↔ a.Matches cs gs rest ∧ (rest = [] ∨ rest = ['\n']) := by
  rw [matches_append]
  constructor
  · rintro ⟨gs₁, mid, gs₂, h, ⟨rfl, rfl, hend⟩, rfl⟩
    exact ⟨by rwa [List.append_nil], hend⟩
  · rintro ⟨h, hend⟩
    exact ⟨gs, rest, [], h, ⟨rfl, rfl, hend⟩, (List.append_nil gs).symm⟩

/-- One character of a class. -/
theorem plain_one (p : Char → Bool) :
    Plain (run p 1 (some 1)) fun m => ∃ c, m = [c] ∧ p c = true := by
  refine (plain_run p 1 (some 1)).congr fun m => ?_
  constructor
  · rintro ⟨hm, hlow, hhigh⟩
    obtain ⟨c, rfl⟩ := List.length_eq_one_iff.1 (Nat.le_antisymm (hhigh 1 rfl) hlow)
    exact ⟨c, rfl, hm c (List.mem_singleton_self c)⟩
  · rintro ⟨c, rfl, hc⟩
    simpa using hc

theorem plain_mark (c : Char) : Plain (mark c) fun m => m = [c] := by
  refine (plain_one _).congr fun m => ?_
  simp only [beq_iff_eq, exists_eq_right]

theorem plain_literal (s : List Char) : Plain (literal s) fun m => m = s := by
  induction s with
  | nil =>
    refine (plain_run _ 0 (some 0)).congr fun m => ?_
    simp
  | cons c s ih =>
    refine ((plain_mark c).append ih).congr fun m => ?_
    constructor
    · rintro ⟨_, _, rfl, rfl, rfl⟩
      rfl
    · rintro rfl
      exact ⟨[c], s, rfl, rfl, rfl⟩

theorem plain_digits (n : Nat) :
    Plain (digits n) fun m => (∀ c ∈ m, isDecimal c = true) ∧ m.length = n := by
  refine (plain_run isDecimal n (some n)).congr fun m => ?_
  simp only [Option.mem_def, Option.some.injEq, forall_eq', ← Nat.le_antisymm_iff, eq_comm]

end Pattern

/-! ## Shapes -/

/-- A character fills a place of a shape: a `d` stands for any decimal digit, and any other
character for itself. -/
def FillsPlace (c place : Char) : Prop := if place = 'd' then isDecimal c = true else c = place

/-- The text has the shape, character by character. -/
def HasShape (shape : List Char) (m : List Char) : Prop := List.Forall₂ FillsPlace m shape

theorem hasShape_append {s t m : List Char} :
    HasShape (s ++ t) m ↔ ∃ m₁ m₂, m = m₁ ++ m₂ ∧ HasShape s m₁ ∧ HasShape t m₂ := by
  constructor
  · intro h
    exact ⟨m.take s.length, m.drop s.length, (List.take_append_drop _ _).symm,
      List.forall₂_take_append m s t h, List.forall₂_drop_append m s t h⟩
  · rintro ⟨m₁, m₂, rfl, h₁, h₂⟩
    exact List.rel_append h₁ h₂

/-- Digits of a number of places. -/
theorem hasShape_replicate {n : Nat} {m : List Char} :
    HasShape (List.replicate n 'd') m ↔ (∀ c ∈ m, isDecimal c = true) ∧ m.length = n := by
  induction n generalizing m with
  | zero => cases m <;> simp [HasShape]
  | succ n ih =>
    cases m with
    | nil => simp [HasShape]
    | cons c m =>
      unfold HasShape at ih
      simp [HasShape, List.replicate_succ, FillsPlace, ih, and_assoc]

namespace Pattern

theorem Plain.hasShape_append {a b : Pattern} {s t : List Char} (ha : Plain a (HasShape s))
    (hb : Plain b (HasShape t)) : Plain (a ++ b) (HasShape (s ++ t)) :=
  (ha.append hb).congr fun _ => Text.hasShape_append.symm

theorem plain_digits_hasShape (n : Nat) :
    Plain (digits n) (HasShape (List.replicate n 'd')) :=
  (plain_digits n).congr fun _ => hasShape_replicate.symm

theorem plain_mark_hasShape {c : Char} (hc : c ≠ 'd') : Plain (mark c) (HasShape [c]) := by
  refine (plain_mark c).congr fun m => ?_
  cases m with
  | nil => simp [HasShape]
  | cons c' m => cases m <;> simp [HasShape, FillsPlace, hc]

end Pattern

end JobMeter.Text
