import JobMeter.Proofs.Loop.Clock
import Mathlib.Data.List.Nodup

/-!
# The listing of the jobs in progress

Whoever asks for the jobs in progress gets a copy of the registry, sorted as pairs of an id and an
entry.  Ids can be compared and entries cannot, so the sorting depends on it that no two entries
have the same id.

* `Registry.comesBefore?` — the comparison of two such pairs, which may fail.
* `insert?`, `sort?` — sorting with comparisons that may fail; `sort?_eq_some`: if no two keys are
  the same, then no comparison fails, and the list is sorted by the keys.
* `Reader.listing` — the listing as it is made; `Reader.listing_apply`: it is what
  `Reader.inProgress` gives.
* `Reader.Driven env r` — the reader came about from a new one by dispatches and accruals.
* `listing_faithful` — **the listing is a sorted and faithful view of the registry**.
-/

namespace JobMeter

/-! ## Sorting with comparisons that may fail -/

section Sorting

variable {α : Type}

/-- Puts an element where it belongs in a sorted list: before the first that does not come before
it. -/
def insert? (before? : α → α → Option Bool) (x : α) : List α → Option (List α)
  | [] => some [x]
  | y :: ys =>
    match before? y x with
    | none => none
    | some true => (insert? before? x ys).map (y :: ·)
    | some false => some (x :: y :: ys)

/-- Sorts a list, unless a comparison fails. -/
def sort? (before? : α → α → Option Bool) : List α → Option (List α)
  | [] => some []
  | x :: xs => (sort? before? xs).bind (insert? before? x)

variable {key : α → Int} {before? : α → α → Option Bool}

theorem insert?_eq_some
    (hbefore : ∀ x y, key x ≠ key y → before? x y = some (decide (key x < key y))) {x : α}
    {l : List α} (hsorted : l.Pairwise fun a b => key a < key b) (hx : ∀ y ∈ l, key y ≠ key x) :
    ∃ s, insert? before? x l = some s ∧ s.Perm (x :: l) ∧ s.Pairwise fun a b => key a < key b := by
  induction l with
  | nil => exact ⟨[x], rfl, .refl _, List.pairwise_singleton _ _⟩
  | cons y ys ih =>
    obtain ⟨hyx, hys⟩ := List.forall_mem_cons.1 hx
    obtain ⟨hfirst, hrest⟩ := List.pairwise_cons.1 hsorted
    rw [insert?, hbefore y x hyx]
    by_cases hlt : key y < key x
    · obtain ⟨s, hs, hperm, hpairwise⟩ := ih hrest hys
      rw [decide_eq_true hlt, hs]
      refine ⟨y :: s, rfl, (hperm.cons y).trans (.swap x y ys),
        List.pairwise_cons.2 ⟨?_, hpairwise⟩⟩
      intro z hz
      rcases List.mem_cons.1 (hperm.mem_iff.1 hz) with rfl | hz
      · exact hlt
      · exact hfirst z hz
    · have hxy : key x < key y := by omega
      rw [decide_eq_false hlt]
      refine ⟨x :: y :: ys, rfl, .refl _, List.pairwise_cons.2 ⟨?_, hsorted⟩⟩
      intro z hz
      rcases List.mem_cons.1 hz with rfl | hz
      · exact hxy
      · exact Int.lt_trans hxy (hfirst z hz)

/-- **Where no two keys are the same, no comparison fails**, and the list is sorted by its keys. -/
theorem sort?_eq_some
    (hbefore : ∀ x y, key x ≠ key y → before? x y = some (decide (key x < key y))) {l : List α}
    (hl : (l.map key).Nodup) :
    ∃ s, sort? before? l = some s ∧ s.Perm l ∧ s.Pairwise fun a b => key a < key b := by
  induction l with
  | nil => exact ⟨[], rfl, .refl _, .nil⟩
  | cons x xs ih =>
    obtain ⟨hx, hxs⟩ := List.nodup_cons.1 hl
    obtain ⟨s, hs, hperm, hsorted⟩ := ih hxs
    have hdifferent : ∀ y ∈ s, key y ≠ key x := by
      intro y hy heq
      exact hx (heq ▸ List.mem_map_of_mem (hperm.mem_iff.1 hy))
    obtain ⟨s', hs', hperm', hsorted'⟩ := insert?_eq_some hbefore hsorted hdifferent
    exact ⟨s', by rw [sort?, hs, Option.bind_some, hs'], hperm'.trans (hperm.cons x), hsorted'⟩

/-- There is one way only to sort a list whose keys differ. -/
theorem eq_mergeSort {s l : List α} (hperm : s.Perm l)
    (hsorted : s.Pairwise fun a b => key a < key b) :
    s = l.mergeSort fun a b => decide (key a ≤ key b) := by
  have hperm' : s.Perm (l.mergeSort fun a b => decide (key a ≤ key b)) :=
    hperm.trans (List.mergeSort_perm l _).symm
  have hmerged := @List.pairwise_mergeSort _ (fun a b => decide (key a ≤ key b))
    (fun a b c hab hbc => by simp only [decide_eq_true_eq] at *; omega)
    (fun a b => by simp only [Bool.or_eq_true, decide_eq_true_eq]; omega) l
  have hkeys : (s.map key).Nodup := List.pairwise_map.2 (hsorted.imp fun h => Int.ne_of_lt h)
  refine hperm'.eq_of_pairwise ?_ (hsorted.imp fun h => decide_eq_true (Int.le_of_lt h)) hmerged
  intro a b ha hb hab hba
  refine List.inj_on_of_nodup_map hkeys ha (hperm'.mem_iff.2 hb) ?_
  exact Int.le_antisymm (of_decide_eq_true hab) (of_decide_eq_true hba)

end Sorting

variable {τ ω : Type}

/-- Does the first of two pairs of an id and an entry come before the second?  The ids decide.  If
they are the same, then the entries would have to, and entries that differ cannot be compared. -/
def Registry.comesBefore? [DecidableEq τ] (a b : Int × Running τ) : Option Bool :=
  if a.1 = b.1 then if a.2 = b.2 then some false else none else some (decide (a.1 < b.1))

/-- The entries of a registry are sorted without a failure, for no two of them have the same id. -/
theorem Registry.sort?_entries [DecidableEq τ] (g : Registry τ) :
    let sorted := g.entries.mergeSort fun a b => decide (a.1 ≤ b.1)
    sort? comesBefore? g.entries = some sorted ∧ sorted.Pairwise fun a b => a.1 < b.1 := by
  have hbefore : ∀ a b : Int × Running τ, a.1 ≠ b.1 →
      comesBefore? a b = some (decide (a.1 < b.1)) := fun a b h => if_neg h
  obtain ⟨s, hs, hperm, hsorted⟩ := sort?_eq_some hbefore g.distinct
  rw [eq_mergeSort hperm hsorted] at hs hsorted
  exact ⟨hs, hsorted⟩

/-- An entry in a listing that is made at a time. -/
def Listed.of [Quantity τ] (t : τ) (p : Int × Running τ) : Listed τ :=
  ⟨p.1, p.2.labels, Quantity.sub t p.2.startTime⟩

namespace Reader

/-! ## The listing as it is made -/

/-- Lists the jobs in progress: looks at the clock, and sorts a copy of the registry. -/
def listing [DecidableEq τ] [Quantity τ] (env : Environment τ ω) : Act τ ω (List (Listed τ)) := do
  let t ← now env
  match sort? Registry.comesBefore? (← get).registry.entries with
  | some entries => return entries.map (Listed.of t)
  | none => throw ⟨.foreign "TypeError", [], none⟩

/-- **The listing never fails**, whatever the registry holds: no two of its entries have the same
id. -/
theorem listing_apply [DecidableEq τ] [Quantity τ] (env : Environment τ ω) (r : Reader τ ω) :
    listing env r =
      .ok (inProgress env { r with world := env.tick r.world })
        { r with world := env.tick r.world } := by
  have hlisting : listing env r =
      match sort? Registry.comesBefore? r.registry.entries with
      | some entries => .ok (entries.map (Listed.of (env.now (env.tick r.world))))
          { r with world := env.tick r.world }
      | none => .error ⟨.foreign "TypeError", [], none⟩ { r with world := env.tick r.world } := by
    rw [listing, bind_apply]
    show (match sort? Registry.comesBefore? r.registry.entries with
      | some entries => pure (entries.map (Listed.of (env.now (env.tick r.world))))
      | none => throw ⟨.foreign "TypeError", [], none⟩ : Act τ ω (List (Listed τ)))
        { r with world := env.tick r.world } = _
    cases sort? Registry.comesBefore? r.registry.entries <;> rfl
  rw [hlisting, r.registry.sort?_entries.1]
  rfl

/-- The listing is in ascending order of the ids. -/
theorem pairwise_inProgress [DecidableEq τ] [Quantity τ] (env : Environment τ ω)
    (r : Reader τ ω) : (inProgress env r).Pairwise fun a b => a.id < b.id :=
  List.pairwise_map.2 r.registry.sort?_entries.2

/-- The listing holds one element for each entry. -/
theorem inProgress_perm [Quantity τ] (env : Environment τ ω) (r : Reader τ ω) :
    (inProgress env r).Perm (r.registry.entries.map (Listed.of (env.now r.world))) :=
  (List.mergeSort_perm r.registry.entries _).map _

/-! ## Readers that were driven -/

/-- The reader came about from a new one by dispatches and accruals, each of which may have failed,
while in between the queue and the world changed in any way that did not turn the clock back. -/
inductive Driven (env : Environment Rat ω) : Reader Rat ω → Prop where
  | fresh (queue : EventQueue) (world : ω) : Driven env ⟨{}, queue, world⟩
  | meanwhile {r s : Reader Rat ω} (hr : Driven env r) (hregistry : s.registry = r.registry)
      (hclock : clock env r ≤ clock env s) : Driven env s
  | dispatch {r : Reader Rat ω} (hr : Driven env r) (i : Item) :
      Driven env (after (Reader.dispatch env i) r)
  | accrue {r : Reader Rat ω} (hr : Driven env r) : Driven env (after (Reader.accrue env) r)

theorem Driven.reachable {env : Environment Rat ω} (h : NeverBack env) {r : Reader Rat ω}
    (hr : Driven env r) : Reachable env r := by
  induction hr with
  | fresh queue world => exact .fresh queue world
  | meanwhile _ hregistry hclock ih => exact .meanwhile ih hregistry hclock
  | dispatch _ i ih => exact (steps_reachable h).dispatch i _ ih
  | accrue _ ih => exact (steps_reachable h).toOuter.accrue _ ih

end Reader

open Reader

/-- **The listing of the jobs in progress is a sorted and faithful view.**  Let the clock never go
back, and let a reader have come about by any dispatches and accruals.  Then the listing does not
fail, and leaves the registry as it is, order included.  It holds one element for each entry of the
registry, in ascending order of the ids, with the labels of the entry and with the time from its
start to what the clock shows, which is never below zero. -/
theorem listing_faithful (env : Environment Rat ω) (hclock : NeverBack env) {r : Reader Rat ω}
    (hr : Driven env r) :
    ∃ listed s, listing env r = .ok listed s ∧ s.registry = r.registry ∧ s.queue = r.queue ∧
      listed = inProgress env s ∧
      listed.Pairwise (fun a b => a.id < b.id) ∧
      listed.Perm (r.registry.entries.map fun (id, job) =>
        ⟨id, job.labels, clock env s - job.startTime⟩) ∧
      ∀ l ∈ listed, 0 ≤ l.running := by
  have hperm := inProgress_perm env (ticked env r)
  refine ⟨_, ticked env r, listing_apply env r, rfl, rfl, rfl, pairwise_inProgress env _, hperm, ?_⟩
  intro l hl
  obtain ⟨p, hp, rfl⟩ := List.mem_map.1 (hperm.mem_iff.1 hl)
  have hstart : p.2.startTime ≤ clock env r := (hr.reachable hclock).startTime_le hclock p hp
  exact sub_nonneg.2 (hstart.trans (clock_le_ticked hclock r))

/-- Two jobs that started out of the order of their ids, one of which is below zero.  No log can be
read, and the accrual fails. -/
theorem listing_faithful_negative :
    let env : Environment Rat _ := Trial.environment (.recording [.inProgressDuration]) 10 true
    let start (id : Int) : Item := .event (.plain Action.inProgress id)
    let later (t : Rat) (r : Reader Rat (Trial Rat (List (Measurement Rat)))) :=
      { r with world := { r.world with clock := t } }
    let fresh : Reader Rat _ := ⟨{}, ⟨0, []⟩, ⟨5, .error ⟨.overflow, [], none⟩, []⟩⟩
    let first := after (dispatch env (start 12)) fresh
    let second := after (dispatch env (start (-3))) (later 7 first)
    let r := later 9 (after (accrue env) (later 8 second))
    NeverBack env ∧ Driven env r ∧ r.registry.ids = [12, -3] ∧
      ∃ listed s, listing env r = .ok listed s ∧ s.registry = r.registry ∧
        listed.map (fun l => (l.id, l.running)) = [(-3, 2), (12, 4)] ∧
        ∀ l ∈ listed, 0 ≤ l.running := by
  intro env start later fresh first second r
  have hclock : NeverBack env := (Trial.still _ 10 true).neverBack
  have hfirst : Driven env first := .dispatch (.fresh _ _) _
  have hsecond : Driven env second :=
    .dispatch (.meanwhile hfirst (s := later 7 first) rfl (by decide +kernel)) _
  have hcharged : Driven env (after (accrue env) (later 8 second)) :=
    .accrue (.meanwhile hsecond (s := later 8 second) rfl (by decide +kernel))
  have hr : Driven env r := .meanwhile hcharged rfl (by decide +kernel)
  obtain ⟨listed, s, hlisting, hregistry, -, -, -, -, hrunning⟩ := listing_faithful env hclock hr
  refine ⟨hclock, hr, by decide +kernel, listed, s, hlisting, hregistry, ?_, hrunning⟩
  have hlisted : (match listing env r with
      | .ok listed _ => listed.map fun l => (l.id, l.running)
      | .error _ _ => []) = [(-3, 2), (12, 4)] := by decide +kernel
  rwa [hlisting] at hlisted

end JobMeter
