import JobMeter.Job.Registry
import Mathlib.Data.List.Forall2
import Mathlib.Data.List.Induction

/-!
# The registry as an account of its history

The registry is told about jobs: that one started, or that one ended.  A `Mark` is one such piece of
news, and a history is a list of marks, the oldest first.

* `latest?` — the last mark of a job in a history.
* `FirstStart h id n` — the mark at the place `n` is the first start of the job since it last ended.
  There is at most one such place (`FirstStart.unique`).
* `Registry.ofMarks` — the registry after a history.
* `Registry.get?_ofMarks` — **a job is registered exactly if its last mark is a start**, and its
  entry is the one that came with that mark.
* `Registry.forall₂_firstStart_ofMarks` — **the registry is ordered by the first starts**: renewing
  an entry keeps its place, and only the end of the job takes it away.
-/

namespace JobMeter

/-- News about a job. -/
inductive Mark (τ : Type) where
  | started (id : Int) (job : Running τ)
  | ended (id : Int)

namespace Mark

variable {τ : Type}

/-- The job that a mark is about. -/
def id : Mark τ → Int
  | started id _ => id
  | ended id => id

/-- The entry of the job, if it is in progress after the mark. -/
def entry? : Mark τ → Option (Running τ)
  | started _ job => some job
  | ended _ => none

end Mark

variable {τ : Type}

/-- The last mark of a job. -/
def latest? (id : Int) (h : List (Mark τ)) : Option (Mark τ) :=
  (h.filter fun m => m.id == id).getLast?

/-- The mark at a place is the first start of the job since it last ended. -/
structure FirstStart (h : List (Mark τ)) (id : Int) (n : Nat) : Prop where
  /-- It is a start of the job. -/
  start : ∃ job, h[n]? = some (.started id job)
  /-- The job has not ended since. -/
  last : ∀ k, n < k → h[k]? ≠ some (.ended id)
  /-- After each start before it the job ended again. -/
  first : ∀ k < n, ∀ job, h[k]? = some (.started id job) →
    ∃ m, k < m ∧ m < n ∧ h[m]? = some (.ended id)

theorem latest?_concat (id : Int) (h : List (Mark τ)) (m : Mark τ) :
    latest? id (h ++ [m]) = if m.id = id then some m else latest? id h := by
  rw [latest?, latest?, List.filter_append]
  by_cases hm : m.id = id <;> simp [hm]

namespace FirstStart

variable {h : List (Mark τ)} {id : Int} {n : Nat}

theorem lt_length (hf : FirstStart h id n) : n < h.length := by
  obtain ⟨job, hjob⟩ := hf.start
  exact (List.getElem?_eq_some_iff.1 hjob).1

/-- A job has at most one first start since it last ended. -/
theorem unique {n' : Nat} (hf : FirstStart h id n) (hf' : FirstStart h id n') : n = n' := by
  have not_lt : ∀ {a b}, FirstStart h id a → FirstStart h id b → ¬ a < b := by
    intro a b ha hb hab
    obtain ⟨job, hjob⟩ := ha.start
    obtain ⟨m, ham, -, hm⟩ := hb.first a hab job hjob
    exact ha.last m ham hm
  exact Nat.le_antisymm (Nat.not_lt.1 (not_lt hf' hf)) (Nat.not_lt.1 (not_lt hf hf'))

/-- News that are not the end of the job leave its first start where it is. -/
theorem concat (hf : FirstStart h id n) {m : Mark τ} (hm : m ≠ .ended id) :
    FirstStart (h ++ [m]) id n := by
  have hn := hf.lt_length
  refine ⟨?_, ?_, ?_⟩
  · rw [List.getElem?_append_left hn]
    exact hf.start
  · intro k hk
    rcases Nat.lt_trichotomy k h.length with hlt | heq | hgt
    · rw [List.getElem?_append_left hlt]
      exact hf.last k hk
    · subst heq
      simpa using hm
    · rw [List.getElem?_eq_none (by rw [List.length_append, List.length_singleton]; omega)]
      simp
  · intro k hk job hjob
    rw [List.getElem?_append_left (Nat.lt_trans hk hn)] at hjob
    obtain ⟨m', hkm, hmn, hm'⟩ := hf.first k hk job hjob
    exact ⟨m', hkm, hmn, by rw [List.getElem?_append_left (Nat.lt_trans hmn hn)]; exact hm'⟩

end FirstStart

/-- Each start of a job that is not in progress was followed by its end. -/
theorem exists_ended {h : List (Mark τ)} {id : Int}
    (hid : (latest? id h).bind Mark.entry? = none) {k : Nat} {job : Running τ}
    (hk : h[k]? = some (.started id job)) : ∃ m, k < m ∧ h[m]? = some (.ended id) := by
  induction h using List.reverseRecOn with
  | nil => simp at hk
  | append_singleton h x ih =>
    rw [latest?_concat] at hid
    rcases Nat.lt_or_ge k h.length with hlt | hge
    · rw [List.getElem?_append_left hlt] at hk
      by_cases hx : x.id = id
      · rw [if_pos hx] at hid
        cases x with
        | started j job' => simp [Mark.entry?] at hid
        | ended j =>
          obtain rfl : j = id := hx
          exact ⟨h.length, hlt, by simp⟩
      · rw [if_neg hx] at hid
        obtain ⟨m, hkm, hm⟩ := ih hid hk
        have hml := (List.getElem?_eq_some_iff.1 hm).1
        exact ⟨m, hkm, by rw [List.getElem?_append_left hml]; exact hm⟩
    · have hlen := (List.getElem?_eq_some_iff.1 hk).1
      rw [List.length_append, List.length_singleton] at hlen
      obtain rfl : k = h.length := by omega
      rw [List.getElem?_concat_length, Option.some.injEq] at hk
      subst hk
      simp [Mark.id, Mark.entry?] at hid

/-- A start of a job that is not in progress is its first start. -/
theorem firstStart_concat {h : List (Mark τ)} {id : Int}
    (hid : (latest? id h).bind Mark.entry? = none) (job : Running τ) :
    FirstStart (h ++ [.started id job]) id h.length := by
  refine ⟨⟨job, by simp⟩, ?_, ?_⟩
  · intro k hk
    rw [List.getElem?_eq_none (by rw [List.length_append, List.length_singleton]; omega)]
    simp
  · intro k hk job' hjob'
    rw [List.getElem?_append_left hk] at hjob'
    obtain ⟨m, hkm, hm⟩ := exists_ended hid hjob'
    have hml := (List.getElem?_eq_some_iff.1 hm).1
    exact ⟨m, hkm, hml, by rw [List.getElem?_append_left hml]; exact hm⟩

namespace Registry

/-- Tells the registry about a job. -/
def record (r : Registry τ) : Mark τ → Registry τ
  | .started id job => r.add id job.startTime job.labels
  | .ended id => r.remove id

/-- The registry after a history. -/
def ofMarks (h : List (Mark τ)) : Registry τ := h.foldl record {}

theorem ofMarks_concat (h : List (Mark τ)) (m : Mark τ) :
    ofMarks (h ++ [m]) = (ofMarks h).record m := by
  rw [ofMarks, List.foldl_append, List.foldl_cons, List.foldl_nil, ofMarks]

/-- **A job is registered exactly if its last mark is a start**, with the entry that came with that
mark. -/
theorem get?_ofMarks (h : List (Mark τ)) (id : Int) :
    (ofMarks h).get? id = (latest? id h).bind Mark.entry? := by
  induction h using List.reverseRecOn with
  | nil => rfl
  | append_singleton h m ih =>
    rw [ofMarks_concat, latest?_concat]
    cases m with
    | started j job =>
      show ((ofMarks h).add j _ _).get? id = _
      rw [get?_add, ih]
      by_cases hj : j = id <;> simp [Mark.id, Mark.entry?, hj]
    | ended j =>
      show ((ofMarks h).remove j).get? id = _
      rw [get?_remove, ih]
      by_cases hj : j = id <;> simp [Mark.id, Mark.entry?, hj]

theorem get?_ofMarks_eq_some {h : List (Mark τ)} {id : Int} {job : Running τ} :
    (ofMarks h).get? id = some job ↔ latest? id h = some (.started id job) := by
  rw [get?_ofMarks, Option.bind_eq_some_iff]
  constructor
  · rintro ⟨m, hm, hjob⟩
    have hid : m.id = id := by
      have hmem := List.mem_of_getLast? hm
      simpa using (List.mem_filter.1 hmem).2
    cases m with
    | started j job' =>
      obtain rfl : j = id := hid
      obtain rfl : job' = job := by simpa [Mark.entry?] using hjob
      exact hm
    | ended j => simp [Mark.entry?] at hjob
  · intro hm
    exact ⟨_, hm, rfl⟩

theorem forall_lt_length {h : List (Mark τ)} {ids : List Int} {places : List Nat}
    (hp : List.Forall₂ (FirstStart h) ids places) : ∀ n ∈ places, n < h.length := by
  induction hp with
  | nil => simp
  | cons hf _ ih => exact List.forall_mem_cons.2 ⟨hf.lt_length, ih⟩

/-- Filtering the left side of a relation between two lists leaves a part of the right side. -/
theorem forall₂_filter {α β : Type} {R S : α → β → Prop} {p : α → Bool} {l : List α}
    {l' : List β} (h : List.Forall₂ R l l') (hS : ∀ a b, p a = true → R a b → S a b) :
    ∃ l'', l''.Sublist l' ∧ List.Forall₂ S (l.filter p) l'' := by
  induction h with
  | nil => exact ⟨[], .slnil, .nil⟩
  | @cons a b l l' hab _ ih =>
    obtain ⟨l'', hsub, hrel⟩ := ih
    by_cases ha : p a = true
    · rw [List.filter_cons_of_pos ha]
      exact ⟨b :: l'', hsub.cons_cons b, .cons (hS a b ha hab) hrel⟩
    · rw [List.filter_cons_of_neg ha]
      exact ⟨l'', hsub.cons b, hrel⟩

/-- **The registry is ordered by first starts.**  Its ids stand in the order of the places where
their jobs first started since they last ended. -/
theorem forall₂_firstStart_ofMarks (h : List (Mark τ)) :
    ∃ places : List Nat, places.Pairwise (· < ·) ∧
      List.Forall₂ (FirstStart h) (ofMarks h).ids places := by
  induction h using List.reverseRecOn with
  | nil => exact ⟨[], .nil, .nil⟩
  | append_singleton h m ih =>
    obtain ⟨places, hsorted, hplaces⟩ := ih
    rw [ofMarks_concat]
    cases m with
    | started id job =>
      have hkeep : List.Forall₂ (FirstStart (h ++ [.started id job])) (ofMarks h).ids places :=
        hplaces.imp fun _ _ hf => hf.concat (by simp)
      show ∃ places : List Nat, _ ∧ List.Forall₂ _ ((ofMarks h).add id _ _).ids places
      rw [ids_add]
      split
      · exact ⟨places, hsorted, hkeep⟩
      · rename_i hid
        have hnone : (latest? id h).bind Mark.entry? = none := by
          rw [← get?_ofMarks, Option.eq_none_iff_forall_ne_some]
          intro job' hjob'
          exact hid (mem_ids.2 ⟨job', hjob'⟩)
        refine ⟨places ++ [h.length], ?_,
          List.rel_append hkeep (.cons (firstStart_concat hnone job) .nil)⟩
        rw [List.pairwise_append]
        refine ⟨hsorted, List.pairwise_singleton _ _, ?_⟩
        intro n hn k hk
        rw [List.mem_singleton] at hk
        subst hk
        exact forall_lt_length hplaces n hn
    | ended id =>
      show ∃ places : List Nat, _ ∧ List.Forall₂ _ ((ofMarks h).remove id).ids places
      rw [ids_remove]
      have hkeep : ∀ j n, (j != id) = true → FirstStart h j n →
          FirstStart (h ++ [.ended id]) j n := by
        intro j n hj hf
        refine hf.concat fun hended => ?_
        rw [Mark.ended.injEq] at hended
        exact bne_iff_ne.1 hj hended.symm
      obtain ⟨rest, hsub, hrest⟩ := forall₂_filter hplaces hkeep
      exact ⟨rest, hsorted.sublist hsub, hrest⟩

end Registry

end JobMeter
