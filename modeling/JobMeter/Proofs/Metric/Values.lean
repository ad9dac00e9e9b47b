import JobMeter.Metric.Store
import Mathlib.Algebra.GroupWithZero.Nat
import Mathlib.Algebra.Order.Ring.Rat
import Mathlib.Data.List.Forall2
import Mathlib.Data.List.Nodup
import Mathlib.Data.List.Perm.Subperm

/-!
# The values of a store

A series is named by a metric and by labels, whose order does not matter.  `Store.series?` looks a
series up as the store itself does, `Store.value` is what was added up in it and `Store.observed`
the number of its values, as they are exposed; both are zero for a series that was never started.

* `Store.key?_eq_ok` — labels name a series exactly if they are a permutation of the label names of
  the metric with the values of the series.
* `Store.series?_modify` — to change a series is to change it under all permutations of its labels,
  and to change nothing else.
* `Store.value_increase`, `Store.observed_observe` — **a measurement adds to its own series only**.
-/

namespace JobMeter

namespace Series

theorem length_count (x : Rat) (bs : List (Option Int)) (ns : List Nat) :
    (count x bs ns).length = ns.length := by
  induction bs generalizing ns with
  | nil => cases ns <;> rfl
  | cons b bs ih =>
    cases ns with
    | nil => rfl
    | cons n ns =>
      rw [count]
      split
      · rfl
      · rw [List.length_cons, ih, List.length_cons]

/-- A value is counted once, if there is a bucket without a bound. -/
theorem sum_count (x : Rat) {bs : List (Option Int)} {ns : List Nat}
    (hlen : ns.length = bs.length) (hbs : none ∈ bs) : (count x bs ns).sum = ns.sum + 1 := by
  induction bs generalizing ns with
  | nil => exact absurd hbs List.not_mem_nil
  | cons b bs ih =>
    cases ns with
    | nil => cases hlen
    | cons n ns =>
      rw [count]
      split
      · rw [List.sum_cons, List.sum_cons]
        omega
      · rename_i hb
        have hnone : none ∈ bs := by
          rcases List.mem_cons.1 hbs with rfl | h
          · exact absurd (decide_eq_true (le_refl x)) hb
          · exact h
        rw [List.sum_cons, ih (Nat.succ.inj hlen) hnone, List.sum_cons]
        omega

/-- The last bucket has the number of all values. -/
theorem getLastD_cumulative (s : Series Rat) : s.cumulative.getLastD 0 = s.buckets.sum := by
  have hfold : ∀ (ns : List Nat) (p : Nat × List Nat), p.2.getLastD 0 = p.1 →
      (ns.foldl (fun p n => (p.1 + n, p.2 ++ [p.1 + n])) p).2.getLastD 0 = p.1 + ns.sum := by
    intro ns
    induction ns with
    | nil => exact fun _ h => h
    | cons n ns ih =>
      intro p _
      rw [List.foldl_cons, ih _ (by simp), List.sum_cons, Nat.add_assoc]
  exact (hfold s.buckets (0, []) rfl).trans (Nat.zero_add _)

end Series

theorem Metric.nodup_labelNames (m : Metric) : m.labelNames.Nodup := by
  cases m <;> decide

namespace Store

/-! ## The series that labels name -/

theorem mapM_find?_eq_some {names : List Text} {labels : Labels} {values : List Text} :
    (names.mapM fun n => Tree.find? n labels) = some values ↔
      List.Forall₂ (fun n v => Tree.find? n labels = some v) names values := by
  induction names generalizing values with
  | nil => simp [eq_comm]
  | cons n names ih =>
    rw [List.mapM_cons]
    constructor
    · intro h
      obtain ⟨v, hv, h⟩ := Option.bind_eq_some_iff.1 h
      obtain ⟨rest, hrest, h⟩ := Option.bind_eq_some_iff.1 h
      obtain rfl : v :: rest = values := Option.some.inj h
      exact .cons hv (ih.1 hrest)
    · rintro (_ | ⟨hv, hrest⟩)
      rw [hv, ih.2 hrest]
      rfl

/-- Labels give names some values exactly if they are these names with these values, in any
order. -/
theorem labelValues?_eq_some {names : List Text} (hnames : names.Nodup) {labels : Labels}
    {values : List Text} :
    labelValues? names labels = some values ↔
      values.length = names.length ∧ labels.Perm (names.zip values) := by
  have hfst : names.length = values.length → (names.zip values).map Prod.fst = names :=
    fun h => List.map_fst_zip h.le
  have hzip : names.length = values.length → (names.zip values).length = names.length := by
    intro h
    rw [List.length_zip, h, min_self]
  rw [labelValues?]
  constructor
  · intro h
    split at h
    · rename_i hlen
      obtain ⟨hvalues, hfind⟩ := List.forall₂_iff_zip.1 (mapM_find?_eq_some.1 h)
      refine ⟨hvalues.symm, ?_⟩
      have hnodup : (names.zip values).Nodup :=
        List.Nodup.of_map Prod.fst (by rw [hfst hvalues]; exact hnames)
      have hsub : names.zip values ⊆ labels := fun p hp =>
        Tree.mem_of_find?_eq_some (hfind hp)
      exact ((hnodup.subperm hsub).perm_of_length_le (by rw [hlen, hzip hvalues])).symm
    · cases h
  · rintro ⟨hvalues, hperm⟩
    rw [if_pos (hperm.length_eq.trans (hzip hvalues.symm)), mapM_find?_eq_some,
      List.forall₂_iff_zip]
    refine ⟨hvalues.symm, fun hp => Tree.find?_eq_some_of_mem ?_ (hperm.mem_iff.2 hp)⟩
    rw [(hperm.map Prod.fst).nodup_iff, hfst hvalues.symm]
    exact hnames

/-- Labels name a series exactly if they give the label names of the metric some values. -/
theorem key?_eq_ok_iff_labelValues? {m : Metric} {labels : Labels} {key : Metric × List Text} :
    key? m labels = .ok key ↔ key.1 = m ∧ labelValues? m.labelNames labels = some key.2 := by
  obtain ⟨m', values⟩ := key
  cases hnames : m.labelNames with
  | nil =>
    cases labels with
    | nil =>
      have hvalues : labelValues? [] [] = some [] := rfl
      simp only [key?, hnames, hvalues, Except.ok.injEq, Prod.mk.injEq, Option.some.injEq]
      exact ⟨fun h => ⟨h.1.symm, h.2⟩, fun h => ⟨h.1.symm, h.2⟩⟩
    | cons l ls =>
      have hvalues : labelValues? [] (l :: ls) = none := rfl
      simp [key?, hnames, hvalues, refused]
  | cons n ns =>
    cases labels with
    | nil =>
      have hvalues : labelValues? (n :: ns) [] = none := rfl
      cases hkind : m.kind <;> simp [key?, hnames, hvalues, hkind, refused]
    | cons l ls =>
      simp only [key?, hnames]
      cases hvalues : labelValues? (n :: ns) (l :: ls) with
      | none => simp [refused]
      | some vs =>
        simp only [Except.ok.injEq, Prod.mk.injEq, Option.some.injEq]
        exact ⟨fun h => ⟨h.1.symm, h.2⟩, fun h => ⟨h.1.symm, h.2⟩⟩

/-- **The name of a series.**  Labels name the series of a metric with some values exactly if they
are its label names with these values, in any order. -/
theorem key?_eq_ok {m : Metric} {labels : Labels} {key : Metric × List Text} :
    key? m labels = .ok key ↔ key.1 = m ∧ key.2.length = m.labelNames.length ∧
      labels.Perm (m.labelNames.zip key.2) := by
  rw [key?_eq_ok_iff_labelValues?, labelValues?_eq_some m.nodup_labelNames]

/-- Labels with the label names of a metric name one of its series. -/
theorem exists_key?_eq_ok {m : Metric} {labels : Labels}
    (h : (labels.map Prod.fst).Perm m.labelNames) : ∃ values, key? m labels = .ok (m, values) := by
  have hfind : ∀ names : List Text, (∀ n ∈ names, n ∈ labels.map Prod.fst) →
      ∃ values, List.Forall₂ (fun n v => Tree.find? n labels = some v) names values := by
    intro names
    induction names with
    | nil => exact fun _ => ⟨[], .nil⟩
    | cons n names ih =>
      intro hnames
      have hn := (Tree.isSome_find? n labels).2 (hnames n List.mem_cons_self)
      obtain ⟨v, hv⟩ := Option.isSome_iff_exists.1 hn
      obtain ⟨vs, hvs⟩ := ih fun n' hn' => hnames n' (List.mem_cons_of_mem n hn')
      exact ⟨v :: vs, .cons hv hvs⟩
  obtain ⟨values, hvalues⟩ := hfind m.labelNames fun n hn => h.mem_iff.2 hn
  have hlen : labels.length = m.labelNames.length := by
    rw [← h.length_eq, List.length_map]
  exact ⟨values, key?_eq_ok_iff_labelValues?.2
    ⟨rfl, by rw [labelValues?, if_pos hlen, mapM_find?_eq_some]; exact hvalues⟩⟩

theorem key?_perm {m : Metric} {labels labels' : Labels} (h : labels'.Perm labels)
    {key : Metric × List Text} : key? m labels' = .ok key ↔ key? m labels = .ok key := by
  rw [key?_eq_ok, key?_eq_ok]
  constructor
  · rintro ⟨hm, hlen, hperm⟩
    exact ⟨hm, hlen, h.symm.trans hperm⟩
  · rintro ⟨hm, hlen, hperm⟩
    exact ⟨hm, hlen, h.trans hperm⟩

/-- Two sets of labels name the same series exactly if they are permutations of each other. -/
theorem key?_eq_key? {m m' : Metric} {labels labels' : Labels} {key key' : Metric × List Text}
    (h : key? m labels = .ok key) (h' : key? m' labels' = .ok key') :
    key = key' ↔ m' = m ∧ labels'.Perm labels := by
  obtain ⟨hm, hlen, hperm⟩ := key?_eq_ok.1 h
  obtain ⟨hm', hlen', hperm'⟩ := key?_eq_ok.1 h'
  constructor
  · rintro rfl
    obtain rfl : m' = m := hm'.symm.trans hm
    exact ⟨rfl, hperm'.trans hperm.symm⟩
  · rintro ⟨rfl, hlabels⟩
    rw [key?_perm hlabels, h, Except.ok.injEq] at h'
    exact h'

/-! ## Series -/

section Series

variable {τ : Type}

/-- The series that labels name, if it was started. -/
def series? (s : Store τ) (m : Metric) (labels : Labels) : Option (Series τ) :=
  match key? m labels with
  | .ok key => Tree.find? key s.series
  | .error _ => none

theorem series?_of_key? {m : Metric} {labels : Labels} {key : Metric × List Text}
    (hkey : key? m labels = .ok key) (s : Store τ) :
    s.series? m labels = Tree.find? key s.series := by
  rw [series?, hkey]

theorem series?_perm {m : Metric} {labels labels' : Labels} (h : labels'.Perm labels)
    (s : Store τ) : s.series? m labels' = s.series? m labels := by
  cases hkey : key? m labels with
  | ok key => rw [series?_of_key? hkey, series?_of_key? ((key?_perm h).2 hkey)]
  | error e =>
    rw [series?, series?, hkey]
    cases hkey' : key? m labels' with
    | ok key =>
      rw [(key?_perm h).1 hkey'] at hkey
      cases hkey
    | error e' => rfl

variable [Quantity τ]

/-- A change of a series is seen under all permutations of its labels, and nowhere else. -/
theorem series?_modify {m : Metric} {labels : Labels} {key : Metric × List Text}
    (hkey : key? m labels = .ok key) (s : Store τ) (f : Series τ → Series τ) (m' : Metric)
    (labels' : Labels) :
    (s.modify key f).series? m' labels' =
      if m' = m ∧ labels'.Perm labels then
        some (f ((s.series? m labels).getD (Series.empty m.kind)))
      else s.series? m' labels' := by
  have hm : key.1 = m := (key?_eq_ok.1 hkey).1
  rw [series?_of_key? hkey]
  cases hkey' : key? m' labels' with
  | error e =>
    rw [series?, series?, hkey', if_neg]
    rintro ⟨rfl, hperm⟩
    rw [(key?_perm hperm).2 hkey] at hkey'
    cases hkey'
  | ok key' =>
    have hiff := key?_eq_key? hkey hkey'
    rw [series?_of_key? hkey', series?_of_key? hkey', modify, Tree.find?_put, hm]
    by_cases h : key = key'
    · rw [if_pos (beq_iff_eq.2 h), if_pos (hiff.1 h)]
    · rw [if_neg (by rw [beq_iff_eq]; exact h), if_neg (fun h' => h (hiff.2 h'))]

/-- Each series of a histogram has all the buckets. -/
def Sound (s : Store τ) : Prop :=
  ∀ m labels v, m.kind = .histogram → s.series? m labels = some v →
    v.buckets.length = bucketBounds.length

theorem Sound.modify {s : Store τ} (hs : s.Sound) {m : Metric} {labels : Labels}
    {key : Metric × List Text} (hkey : key? m labels = .ok key) {f : Series τ → Series τ}
    (hf : ∀ v, (f v).buckets.length = v.buckets.length) : (s.modify key f).Sound := by
  intro m' labels' v hm' hv
  rw [series?_modify hkey] at hv
  split at hv
  · rename_i h
    obtain rfl := h.1
    rw [← Option.some.inj hv, hf]
    cases hold : s.series? m' labels with
    | none =>
      rw [hm']
      exact List.length_map _
    | some u => exact hs m' labels u hm' hold
  · exact hs m' labels' v hm' hv

end Series

/-! ## Values -/

/-- What was added up in the series that labels name. -/
def value (s : Store Rat) (m : Metric) (labels : Labels) : Rat :=
  (s.series? m labels).elim 0 Series.sum

/-- The number of values in the series that labels name. -/
def observed (s : Store Rat) (m : Metric) (labels : Labels) : Nat :=
  (s.series? m labels).elim 0 fun v => v.cumulative.getLastD 0

/-- The one series that a new store has is a counter at zero. -/
theorem eq_of_series?_empty {m : Metric} {labels : Labels} {v : Series Rat}
    (h : (empty : Store Rat).series? m labels = some v) :
    m = .eventsDropped ∧ v = Series.empty .counter := by
  have hempty : (empty : Store Rat).series = [((.eventsDropped, []), Series.empty .counter)] := rfl
  rw [series?] at h
  split at h
  · rename_i key hkey
    have hmem := Tree.mem_of_find?_eq_some h
    rw [hempty, List.mem_singleton, Prod.mk.injEq] at hmem
    exact ⟨by rw [← (key?_eq_ok.1 hkey).1, hmem.1], hmem.2⟩
  · cases h

theorem value_empty (m : Metric) (labels : Labels) : empty.value m labels = 0 := by
  rw [value]
  cases hv : (empty : Store Rat).series? m labels with
  | none => rfl
  | some v =>
    obtain ⟨-, rfl⟩ := eq_of_series?_empty hv
    rfl

theorem observed_empty (m : Metric) (labels : Labels) : empty.observed m labels = 0 := by
  rw [observed]
  cases hv : (empty : Store Rat).series? m labels with
  | none => rfl
  | some v =>
    obtain ⟨-, rfl⟩ := eq_of_series?_empty hv
    rfl

theorem sound_empty : (empty : Store Rat).Sound := by
  intro m labels v hm hv
  obtain ⟨rfl, -⟩ := eq_of_series?_empty hv
  cases hm

variable {m : Metric} {labels : Labels}

/-- A counter takes every amount that is not below zero, under its own label names. -/
theorem increase_of_not_lt {τ : Type} [Quantity τ] (hm : m.kind = .counter)
    {key : Metric × List Text} (hkey : key? m labels = .ok key) {x : τ}
    (hx : Quantity.lt x Quantity.zero = false) (s : Store τ) :
    s.increase m labels x = (.ok (), s.modify key (·.add x)) := by
  rw [increase, if_neg (by rw [hm]; decide), hkey]
  simp only [hx, Bool.false_eq_true, if_false]

/-- A histogram takes every value under its own label names. -/
theorem observe_eq {τ : Type} [Quantity τ] (hm : m.kind = .histogram)
    {key : Metric × List Text} (hkey : key? m labels = .ok key) (x : τ) (s : Store τ) :
    s.observe m labels x = (.ok (), s.modify key (·.record x)) := by
  rw [observe, if_neg (by rw [hm]; decide), hkey]

theorem increase_eq (hm : m.kind = .counter) {key : Metric × List Text}
    (hkey : key? m labels = .ok key) {x : Rat} (hx : 0 ≤ x) (s : Store Rat) :
    s.increase m labels x = (.ok (), s.modify key (·.add x)) :=
  increase_of_not_lt hm hkey (decide_eq_false (not_lt.2 hx)) s

/-- **A counter counts.**  An amount is added to the series that the labels name, in whatever order
they stand, and to no other. -/
theorem value_increase (hm : m.kind = .counter) (hlabels : (labels.map Prod.fst).Perm m.labelNames)
    {x : Rat} (hx : 0 ≤ x) (s : Store Rat) (m' : Metric) (labels' : Labels) :
    (s.increase m labels x).2.value m' labels' =
      s.value m' labels' + if m' = m ∧ labels'.Perm labels then x else 0 := by
  obtain ⟨values, hkey⟩ := exists_key?_eq_ok hlabels
  rw [increase_eq hm hkey hx, value, value, series?_modify hkey]
  split
  · rename_i h
    rw [h.1, series?_perm h.2]
    cases s.series? m labels <;> rfl
  · rw [add_zero]

/-- A counter leaves the histograms alone. -/
theorem observed_increase (hm : m.kind = .counter)
    (hlabels : (labels.map Prod.fst).Perm m.labelNames) {x : Rat} (hx : 0 ≤ x) (s : Store Rat)
    {m' : Metric} (hm' : m'.kind = .histogram) (labels' : Labels) :
    (s.increase m labels x).2.observed m' labels' = s.observed m' labels' := by
  obtain ⟨values, hkey⟩ := exists_key?_eq_ok hlabels
  rw [increase_eq hm hkey hx, observed, observed, series?_modify hkey, if_neg]
  rintro ⟨rfl, -⟩
  rw [hm] at hm'
  cases hm'

/-- A histogram leaves the counters alone. -/
theorem value_observe (hm : m.kind = .histogram)
    (hlabels : (labels.map Prod.fst).Perm m.labelNames) (x : Rat) (s : Store Rat)
    {m' : Metric} (hm' : m'.kind = .counter) (labels' : Labels) :
    (s.observe m labels x).2.value m' labels' = s.value m' labels' := by
  obtain ⟨values, hkey⟩ := exists_key?_eq_ok hlabels
  rw [observe_eq hm hkey, value, value, series?_modify hkey, if_neg]
  rintro ⟨rfl, -⟩
  rw [hm] at hm'
  cases hm'

/-- **A histogram counts its values.**  A value is counted in the series that the labels name, in
whatever order they stand, and in no other. -/
theorem observed_observe (hm : m.kind = .histogram)
    (hlabels : (labels.map Prod.fst).Perm m.labelNames) (x : Rat) {s : Store Rat} (hs : s.Sound)
    (m' : Metric) (labels' : Labels) :
    (s.observe m labels x).2.observed m' labels' =
      s.observed m' labels' + if m' = m ∧ labels'.Perm labels then 1 else 0 := by
  obtain ⟨values, hkey⟩ := exists_key?_eq_ok hlabels
  have hrecord : ∀ v : Series Rat, v.buckets.length = bucketBounds.length →
      (v.record x).cumulative.getLastD 0 = v.cumulative.getLastD 0 + 1 := by
    intro v hv
    rw [Series.getLastD_cumulative, Series.getLastD_cumulative]
    exact Series.sum_count x hv (by decide)
  rw [observe_eq hm hkey, observed, observed, series?_modify hkey]
  split
  · rename_i h
    rw [h.1, series?_perm h.2]
    cases hold : s.series? m labels with
    | none =>
      rw [hm]
      exact hrecord _ (List.length_map _)
    | some v => exact hrecord v (hs m labels v hm hold)
  · rw [Nat.add_zero]

theorem Sound.increase (hm : m.kind = .counter)
    (hlabels : (labels.map Prod.fst).Perm m.labelNames) {x : Rat} (hx : 0 ≤ x) {s : Store Rat}
    (hs : s.Sound) : (s.increase m labels x).2.Sound := by
  obtain ⟨values, hkey⟩ := exists_key?_eq_ok hlabels
  rw [increase_eq hm hkey hx]
  exact hs.modify hkey fun _ => rfl

theorem Sound.observe (hm : m.kind = .histogram)
    (hlabels : (labels.map Prod.fst).Perm m.labelNames) (x : Rat) {s : Store Rat}
    (hs : s.Sound) : (s.observe m labels x).2.Sound := by
  obtain ⟨values, hkey⟩ := exists_key?_eq_ok hlabels
  rw [observe_eq hm hkey]
  exact hs.modify hkey fun v => Series.length_count x bucketBounds v.buckets

end Store

end JobMeter
