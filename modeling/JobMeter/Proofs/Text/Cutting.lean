import JobMeter.Text.Cut

/-!
# Cutting texts that go on

A text that goes on is cut where its start is cut, if there is a place for that; then the rest goes
on.

* `Text.holds_append` — characters in a text that goes on.
* `Text.cut?_append`, `Text.cut_append`, `Text.cut_of_not_holds` — one cut.
* `Text.splitOn_append`, `Text.splitOn_of_not_holds`, `Text.joinWith_append` — all cuts, and the
  way back.
-/

namespace JobMeter.Text

variable {c : Char} {t u a b : Text}

/-! ## Characters in a text -/

@[simp] theorem holds_nil : holds c [] = false := rfl

@[simp] theorem holds_cons {p : CodePoint} : holds c (p :: t) = (CodePoint.is c p || holds c t) :=
  rfl

@[simp] theorem holds_append : holds c (t ++ u) = (holds c t || holds c u) := by
  simp [holds]

theorem holds_eq_false : holds c t = false ↔ ∀ p ∈ t, CodePoint.is c p = false := by
  simp [holds]

/-- What a text starts with stands before a code point that it does not hold. -/
theorem isPrefixOf_append {p : CodePoint} (hp : p ∉ a) (t u : Text) :
    a.isPrefixOf (t ++ p :: u) = a.isPrefixOf t := by
  induction a generalizing t with
  | nil => rfl
  | cons x a ih =>
    obtain ⟨hx, ha⟩ : p ≠ x ∧ p ∉ a := by simpa using hp
    cases t with
    | nil => simp [List.isPrefixOf, hx.symm]
    | cons y t => simp only [List.cons_append, List.isPrefixOf, ih ha]

/-! ## One cut -/

theorem cutWhere?_append {q : CodePoint → Bool} (h : cutWhere? q t = some (a, b)) (u : Text) :
    cutWhere? q (t ++ u) = some (a, b ++ u) := by
  induction t generalizing a with
  | nil => cases h
  | cons p t ih =>
    rw [List.cons_append, cutWhere?]
    rw [cutWhere?] at h
    by_cases hp : q p = true
    · rw [if_pos hp] at h ⊢
      obtain ⟨rfl, rfl⟩ := Prod.mk.inj (Option.some.inj h)
      rfl
    · rw [if_neg hp] at h ⊢
      obtain ⟨⟨a', b'⟩, hcut, heq⟩ := Option.map_eq_some_iff.1 h
      obtain ⟨rfl, rfl⟩ := Prod.mk.inj heq
      rw [ih hcut]
      rfl

theorem cut?_append (h : cut? c t = some (a, b)) (u : Text) :
    cut? c (t ++ u) = some (a, b ++ u) := cutWhere?_append h u

theorem exists_cut? (h : holds c t = true) : ∃ a b, cut? c t = some (a, b) := by
  induction t with
  | nil => cases h
  | cons p t ih =>
    unfold cut? cutWhere?
    by_cases hp : CodePoint.is c p = true
    · exact ⟨[], t, if_pos hp⟩
    · rw [if_neg hp]
      obtain ⟨a, b, hcut⟩ := ih (by simpa [hp] using h)
      exact ⟨p :: a, b, by rw [← cut?, hcut]; rfl⟩

theorem cut?_of_not_holds (h : holds c t = false) : cut? c t = none := by
  cases hcut : cut? c t with
  | none => rfl
  | some p =>
    obtain ⟨q, hq, rfl, -⟩ := cutWhere?_eq_some hcut
    simp [hq] at h

/-- A text that does not hold the character is cut where the rest is. -/
theorem cut?_append_of_not_holds (h : holds c t = false) (u : Text) :
    cut? c (t ++ u) = (cut? c u).map fun (a, b) => (t ++ a, b) := by
  induction t with
  | nil => cases h : cut? c u <;> simp [h]
  | cons p t ih =>
    obtain ⟨hp, ht⟩ : CodePoint.is c p = false ∧ holds c t = false := by simpa using h
    unfold cut? at ih ⊢
    rw [List.cons_append, cutWhere?, hp, ih ht]
    cases cutWhere? (CodePoint.is c) u <;> rfl

theorem cut_append (h : holds c t = true) (u : Text) :
    cut c (t ++ u) = ((cut c t).1, (cut c t).2 ++ u) := by
  obtain ⟨a, b, hcut⟩ := exists_cut? h
  rw [cut, cut, cut?_append hcut, hcut]
  rfl

theorem cut_of_not_holds (h : holds c t = false) : cut c t = (t, []) := by
  rw [cut, cut?_of_not_holds h]
  rfl

/-! ## All cuts -/

theorem splitOn_of_not_holds (h : holds c t = false) : splitOn c t = [t] := by
  induction t with
  | nil => rfl
  | cons p t ih =>
    obtain ⟨hp, ht⟩ : CodePoint.is c p = false ∧ holds c t = false := by simpa using h
    rw [splitOn, ih ht, hp]
    rfl

/-- A text is split part by part at a character that stands between the parts. -/
theorem splitOn_append (t u : Text) :
    splitOn c (t ++ CodePoint.ofChar c :: u) = splitOn c t ++ splitOn c u := by
  induction t with
  | nil => simp [splitOn, CodePoint.is]
  | cons p t ih =>
    rw [List.cons_append, splitOn, splitOn, ih]
    by_cases hp : CodePoint.is c p = true
    · rw [if_pos hp, if_pos hp]
      rfl
    · rw [if_neg hp, if_neg hp]
      cases h : splitOn c t with
      | nil => exact absurd h (splitOn_ne_nil c t)
      | cons part parts => rfl

theorem joinWith_singleton (sep t : Text) : joinWith sep [t] = t := List.intercalate_singleton

theorem joinWith_cons (sep t : Text) {ts : List Text} (h : ts ≠ []) :
    joinWith sep (t :: ts) = t ++ sep ++ joinWith sep ts := List.intercalate_cons_of_ne_nil h

theorem joinWith_append (sep : Text) {ts us : List Text} (hts : ts ≠ []) (hus : us ≠ []) :
    joinWith sep (ts ++ us) = joinWith sep ts ++ sep ++ joinWith sep us := by
  induction ts with
  | nil => exact absurd rfl hts
  | cons t ts ih =>
    by_cases hrest : ts = []
    · rw [hrest, List.singleton_append, joinWith_cons _ _ hus, joinWith_singleton]
    · rw [List.cons_append, joinWith_cons _ _ (by simp [hrest]), ih hrest, joinWith_cons _ _ hrest]
      simp only [List.append_assoc]

/-- Parts that do not hold the character are found again. -/
theorem splitOn_joinWith {ts : List Text} (hne : ts ≠ []) (h : ∀ t ∈ ts, holds c t = false) :
    splitOn c (joinWith [CodePoint.ofChar c] ts) = ts := by
  induction ts with
  | nil => exact absurd rfl hne
  | cons t ts ih =>
    have ht := splitOn_of_not_holds (h t List.mem_cons_self)
    by_cases hts : ts = []
    · rw [hts, joinWith_singleton, ht]
    · rw [joinWith_cons _ _ hts, List.append_assoc, List.singleton_append, splitOn_append, ht,
        ih hts fun t' ht' => h t' (List.mem_cons_of_mem _ ht'), List.singleton_append]

theorem holds_joinWith {sep : Text} (hsep : holds c sep = false) {ts : List Text}
    (h : ∀ t ∈ ts, holds c t = false) : holds c (joinWith sep ts) = false := by
  induction ts with
  | nil => rfl
  | cons t ts ih =>
    by_cases hts : ts = []
    · rw [hts, joinWith_singleton, h t List.mem_cons_self]
    · rw [joinWith_cons _ _ hts, holds_append, holds_append, h t List.mem_cons_self, hsep,
        ih fun t' ht' => h t' (List.mem_cons_of_mem _ ht')]
      rfl

/-! ## Blanks -/

theorem stripLeft_append {q : CodePoint → Bool} {p : CodePoint} (hp : q p = false) (t u : Text) :
    stripLeft q (t ++ p :: u) = stripLeft q t ++ p :: u := by
  unfold stripLeft
  induction t with
  | nil => simp [hp]
  | cons x t ih =>
    by_cases hx : q x = true
    · simpa [hx] using ih
    · simp [hx]

end JobMeter.Text
