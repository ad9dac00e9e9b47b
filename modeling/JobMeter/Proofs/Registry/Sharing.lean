import JobMeter.Job.Shared
import Mathlib.Data.List.Forall2
import Mathlib.Data.List.Nodup

/-!
# A registry whose objects are its own

A shared registry lives in a memory where others write, too.  It is safe from them as long as its
entries and their dictionaries are objects that nobody else has a reference to.

* `Memory.Keeps m e job` — at `e` there is an entry for the job, right behind its dictionary.  Both
  of them are its own (`Owns`), and it is kept as long as nobody changes these two
  (`Keeps.of_owned`).
* `Round` — a round of visits with the writes that were made: the entries are visited in their
  order, and the first visit that fails is the last.
* `Registry.written` — the registry after some writes to its labels.
* `SharedRegistry.Shows` — the shared registry holds the entries of a registry, in objects that are
  all different and that nobody knows.  Each operation preserves it and comes to the same as the one
  of the registry (`Shows.add`, `Shows.remove`, `Shows.exists_get?`, `Shows.exists_snapshot`,
  `Shows.exists_forEach`), and so does a write to an object that somebody knows (`Shows.change`).
-/

namespace JobMeter

/-! ## Entries in memory -/

/-- An object belongs to an entry: it is the entry itself, or the dictionary before it. -/
def Owns (e ref : Nat) : Prop := ref = e ∨ ref + 1 = e

namespace Memory

variable {τ : Type} {m m' : Memory τ} {e e' ref ref' : Nat} {job job' : Running τ}

theorem getElem?_change_of_ne (h : ref ≠ ref') (f : Object τ → Object τ) :
    (m.change ref f).objects[ref']? = m.objects[ref']? := List.getElem?_modify_ne f m.objects h

@[simp] theorem length_change (m : Memory τ) (ref : Nat) (f : Object τ → Object τ) :
    (m.change ref f).objects.length = m.objects.length := List.length_modify f m.objects ref

/-- There is an entry for the job, right behind its dictionary. -/
inductive Keeps (m : Memory τ) : Nat → Running τ → Prop where
  | intro {d : Nat} {job : Running τ}
      (hdictionary : m.objects[d]? = some (.dictionary job.labels))
      (hentry : m.objects[d + 1]? = some (.entry job.startTime d)) : Keeps m (d + 1) job

namespace Keeps

theorem job?_eq (h : m.Keeps e job) : m.job? e = some job := by
  obtain ⟨hdictionary, hentry⟩ := h
  simp [Memory.job?, labels?, hdictionary, hentry]

theorem lt_length (h : m.Keeps e job) : e < m.objects.length := by
  obtain ⟨-, hentry⟩ := h
  exact (List.getElem?_eq_some_iff.1 hentry).1

/-- **An entry is kept as long as nobody changes what is its own.** -/
theorem of_owned (h : m.Keeps e job) (hm : ∀ ref, Owns e ref → m'.objects[ref]? = m.objects[ref]?) :
    m'.Keeps e job := by
  obtain ⟨hdictionary, hentry⟩ := h
  refine ⟨?_, ?_⟩
  · rw [hm _ (.inr rfl), hdictionary]
  · rw [hm _ (.inl rfl), hentry]

/-- Different entries have nothing in common. -/
theorem eq_of_owns (h : m.Keeps e job) (h' : m.Keeps e' job') (hown : Owns e ref)
    (hown' : Owns e' ref) : e = e' := by
  obtain ⟨hdictionary, hentry⟩ := h
  obtain ⟨hdictionary', hentry'⟩ := h'
  rcases hown with rfl | hbefore <;> rcases hown' with hsame | hbefore'
  · exact hsame
  · obtain rfl := Nat.succ.inj hbefore'
    rw [hentry] at hdictionary'
    cases hdictionary'
  · obtain rfl := Nat.succ.inj hbefore
    rw [hsame, hentry'] at hdictionary
    cases hdictionary
  · omega

theorem append (h : m.Keeps e job) (os : List (Object τ)) :
    (⟨m.objects ++ os⟩ : Memory τ).Keeps e job := by
  have hlength := h.lt_length
  refine h.of_owned fun ref hown => List.getElem?_append_left ?_
  rcases hown with rfl | rfl <;> omega

/-- A change of an object that does not belong to the entry. -/
theorem change (h : m.Keeps e job) (href : ¬ Owns e ref) (f : Object τ → Object τ) :
    (m.change ref f).Keeps e job := by
  refine h.of_owned fun ref' hown => ?_
  have hne : ref ≠ ref' := by
    rintro rfl
    exact href hown
  exact getElem?_change_of_ne hne f

theorem writeEntry_eq (h : m.Keeps e job) (write : Labels → Labels) :
    m.writeEntry e write = m.writeLabels (e - 1) write := by
  obtain ⟨-, hentry⟩ := h
  simp [writeEntry, dictionary?, hentry]

theorem getElem?_writeEntry (h : m.Keeps e job) (href : ¬ Owns e ref) (write : Labels → Labels) :
    (m.writeEntry e write).objects[ref]? = m.objects[ref]? := by
  rw [h.writeEntry_eq write]
  obtain ⟨hdictionary, -⟩ := h
  refine getElem?_change_of_ne ?_ _
  rintro rfl
  exact href (.inr rfl)

theorem length_writeEntry (h : m.Keeps e job) (write : Labels → Labels) :
    (m.writeEntry e write).objects.length = m.objects.length := by
  rw [h.writeEntry_eq write]
  exact length_change m _ _

/-- A write to the labels of the entry. -/
theorem writeEntry (h : m.Keeps e job) (write : Labels → Labels) :
    (m.writeEntry e write).Keeps e { job with labels := write job.labels } := by
  rw [h.writeEntry_eq write]
  obtain ⟨hdictionary, hentry⟩ := h
  refine ⟨?_, ?_⟩
  · simp [writeLabels, Memory.change, hdictionary]
  · rw [writeLabels, getElem?_change_of_ne (by simp)]
    exact hentry

end Keeps

theorem keeps_newEntry (m : Memory τ) (job : Running τ) :
    (m.newEntry job).2.Keeps (m.newEntry job).1 job :=
  ⟨by simp [newEntry], by simp [newEntry]⟩

theorem copyEntry_eq (h : m.Keeps e job) : m.copyEntry e = m.newEntry job := by
  rw [copyEntry, h.job?_eq]

/-- The entry of an id is that of another one. -/
def Holds (m : Memory τ) (p : Int × Nat) (q : Int × Running τ) : Prop :=
  p.1 = q.1 ∧ m.Keeps p.2 q.2

theorem exists_keeps_of_mem {es : List (Int × Nat)} {jobs : List (Int × Running τ)}
    (h : List.Forall₂ m.Holds es jobs) {p : Int × Nat} (hp : p ∈ es) :
    ∃ job, m.Keeps p.2 job := by
  induction h with
  | nil => exact absurd hp List.not_mem_nil
  | cons hfirst _ ih =>
    rcases List.mem_cons.1 hp with rfl | hp
    · exact ⟨_, hfirst.2⟩
    · exact ih hp

theorem forall₂_holds_of_owned {es : List (Int × Nat)} {jobs : List (Int × Running τ)}
    (h : List.Forall₂ m.Holds es jobs)
    (hm : ∀ p ∈ es, ∀ ref, Owns p.2 ref → m'.objects[ref]? = m.objects[ref]?) :
    List.Forall₂ m'.Holds es jobs := by
  induction h with
  | nil => exact .nil
  | cons hp _ ih =>
    rw [List.forall_mem_cons] at hm
    exact .cons ⟨hp.1, hp.2.of_owned hm.1⟩ (ih hm.2)

/-- What belongs to an entry belongs to none of the others. -/
theorem Keeps.apart {es : List (Int × Nat)} {jobs : List (Int × Running τ)} (h : m.Keeps e job)
    (hothers : List.Forall₂ m.Holds es jobs) (he : e ∉ es.map Prod.snd) :
    ∀ p ∈ es, ∀ ref, Owns e ref → ¬ Owns p.2 ref := by
  intro p hp ref hown hown'
  obtain ⟨job', hkeeps⟩ := exists_keeps_of_mem hothers hp
  have hsame : e = p.2 := h.eq_of_owns hkeeps hown hown'
  exact he (List.mem_map.2 ⟨p, hp, hsame.symm⟩)

theorem forall₂_holds_append {es : List (Int × Nat)} {jobs : List (Int × Running τ)}
    (h : List.Forall₂ m.Holds es jobs) (os : List (Object τ)) :
    List.Forall₂ (Holds ⟨m.objects ++ os⟩) es jobs :=
  h.imp fun _ _ hp => ⟨hp.1, hp.2.append os⟩

/-- Copies say what the entries say, and are new. -/
theorem exists_copyEntries {es : List (Int × Nat)} {jobs : List (Int × Running τ)}
    (h : List.Forall₂ m.Holds es jobs) :
    ∃ copies os, copyEntries es m = (copies, ⟨m.objects ++ os⟩) ∧
      List.Forall₂ (Holds ⟨m.objects ++ os⟩) copies jobs ∧
      ∀ p ∈ copies, m.objects.length < p.2 := by
  induction es generalizing m jobs with
  | nil =>
    cases h
    exact ⟨[], [], by simp [copyEntries], .nil, by simp⟩
  | cons p es ih =>
    cases h with
    | @cons _ q _ jobs hp hrest =>
    obtain ⟨id, e⟩ := p
    obtain ⟨id', job⟩ := q
    obtain ⟨rfl, hkeeps⟩ := hp
    have hrest' := forall₂_holds_append hrest
      [.dictionary job.labels, .entry job.startTime m.objects.length]
    obtain ⟨copies, os, hrun, hcopies, hnew⟩ := ih hrest'
    refine ⟨(id, m.objects.length + 1) :: copies,
      [.dictionary job.labels, .entry job.startTime m.objects.length] ++ os, ?_, ?_, ?_⟩
    · rw [copyEntries, copyEntry_eq hkeeps]
      simp only [newEntry]
      rw [hrun]
      simp
    · rw [← List.append_assoc]
      exact .cons ⟨rfl, (keeps_newEntry m job).append os⟩ hcopies
    · rw [List.forall_mem_cons]
      refine ⟨Nat.lt_succ_self _, fun p hp => ?_⟩
      have hlt := hnew p hp
      simp only [List.length_append] at hlt
      omega

end Memory

/-! ## Rounds of visits -/

/-- Writes to labels, each with the id of the entry that it was made to. -/
abbrev Writes : Type := List (Int × (Labels → Labels))

namespace Writes

/-- The writes to the entry of an id, in their order. -/
def about (ws : Writes) (id : Int) : List (Labels → Labels) :=
  (ws.filter fun w => w.1 = id).map Prod.snd

theorem about_cons_self (ws : Writes) (id : Int) (write : Labels → Labels) :
    about ((id, write) :: ws) id = write :: ws.about id := by
  simp [about]

theorem about_cons_of_ne {id id' : Int} (h : id ≠ id') (ws : Writes) (write : Labels → Labels) :
    about ((id, write) :: ws) id' = ws.about id' := by
  simp [about, h]

theorem about_eq_nil {ws : Writes} {id : Int} (h : id ∉ ws.map Prod.fst) : ws.about id = [] := by
  rw [about, List.map_eq_nil_iff, List.filter_eq_nil_iff]
  intro w hw hid
  exact h (List.mem_map.2 ⟨w, hw, of_decide_eq_true hid⟩)

end Writes

section

variable {τ σ ε : Type}

/-- A job after writes to its labels, one after the other. -/
def Running.written (job : Running τ) (writes : List (Labels → Labels)) : Running τ :=
  { job with labels := writes.foldl (fun labels write => write labels) job.labels }

/-- Jobs after writes to their labels. -/
def Writes.apply (ws : Writes) (jobs : List (Int × Running τ)) : List (Int × Running τ) :=
  jobs.map fun p => (p.1, p.2.written (ws.about p.1))

theorem Writes.apply_nil (jobs : List (Int × Running τ)) : apply [] jobs = jobs := by
  have hsame : ∀ p ∈ jobs, (p.1, p.2.written (about [] p.1)) = p := fun _ _ => rfl
  rw [apply, List.map_congr_left hsame, List.map_id']

/-- A write to the labels of a job that is not written to again. -/
theorem Writes.apply_cons {id : Int} {jobs : List (Int × Running τ)} {ws : Writes}
    (hjobs : id ∉ jobs.map Prod.fst) (hws : id ∉ ws.map Prod.fst) (job : Running τ)
    (write : Labels → Labels) :
    apply ((id, write) :: ws) ((id, job) :: jobs) =
      (id, { job with labels := write job.labels }) :: ws.apply jobs := by
  have hothers : ∀ p ∈ jobs, (p.1, p.2.written (about ((id, write) :: ws) p.1)) =
      (p.1, p.2.written (ws.about p.1)) := by
    intro p hp
    have hne : id ≠ p.1 := by
      rintro rfl
      exact hjobs (List.mem_map.2 ⟨p, hp, rfl⟩)
    rw [about_cons_of_ne hne]
  rw [apply, List.map_cons, List.map_congr_left hothers, about_cons_self, about_eq_nil hws]
  rfl

/-- The registry after writes to its labels. -/
def Registry.written (r : Registry τ) (ws : Writes) : Registry τ where
  entries := ws.apply r.entries
  distinct := by
    have hids : (ws.apply r.entries).map Prod.fst = r.entries.map Prod.fst := by
      simp [Writes.apply]
    rw [hids]
    exact r.distinct

/-- A round of visits with the writes that were made.  The entries are visited in their order, and
the first visit that fails is the last. -/
inductive Round (f : Visit τ σ ε) :
    List (Int × Running τ) → σ → Except ε Unit → Writes → σ → Prop where
  | done (s : σ) : Round f [] s (.ok ()) [] s
  | failed {id : Int} {job : Running τ} {s s' : σ} {x : ε} {write : Labels → Labels}
      (rest : List (Int × Running τ)) (hvisit : f id job s = (.error x, write, s')) :
      Round f ((id, job) :: rest) s (.error x) [(id, write)] s'
  | next {id : Int} {job : Running τ} {s s' s'' : σ} {write : Labels → Labels}
      {rest : List (Int × Running τ)} {result : Except ε Unit} {ws : Writes}
      (hvisit : f id job s = (.ok (), write, s')) (hrest : Round f rest s' result ws s'') :
      Round f ((id, job) :: rest) s result ((id, write) :: ws) s''

/-- A visit that notes which writes are made, so that the history can tell of them. -/
def Visit.noting (f : Visit τ σ ε) : Visit τ (σ × Writes) ε := fun id job s =>
  match f id job s.1 with
  | (result, write, s') => (result, write, s', s.2 ++ [(id, write)])

/-- The ids that were visited are the first ones. -/
theorem Round.map_fst_prefix {f : Visit τ σ ε} {jobs : List (Int × Running τ)} {s s' : σ}
    {result : Except ε Unit} {ws : Writes} (h : Round f jobs s result ws s') :
    ws.map Prod.fst <+: jobs.map Prod.fst := by
  induction h with
  | done s => exact List.prefix_rfl
  | failed rest hvisit => exact ⟨rest.map Prod.fst, rfl⟩
  | next hvisit hrest ih => exact (List.prefix_cons_inj _).2 ih

open Memory in
/-- **A round of visits in memory is one over the jobs.**  What it writes is written to the jobs,
and nothing else is changed. -/
theorem exists_visit {m : Memory τ} {es : List (Int × Nat)} {jobs : List (Int × Running τ)}
    (h : List.Forall₂ m.Holds es jobs) (hes : (es.map Prod.snd).Nodup)
    (hjobs : (jobs.map Prod.fst).Nodup) (f : Visit τ σ ε) (s : σ) (noted : Writes) :
    ∃ result ws s' m', SharedRegistry.visit f es s m = (result, s', m') ∧
      SharedRegistry.visit f.noting es (s, noted) m = (result, (s', noted ++ ws), m') ∧
      Round f jobs s result ws s' ∧ List.Forall₂ m'.Holds es (ws.apply jobs) ∧
      m'.objects.length = m.objects.length ∧
      ∀ ref, (∀ p ∈ es, ¬ Owns p.2 ref) → m'.objects[ref]? = m.objects[ref]? := by
  -- Each visit leaves a memory of its own to the rest, so the induction is on the entries, whatever
  -- memory they are in.
  induction es generalizing m jobs s noted with
  | nil =>
    cases h
    exact ⟨.ok (), [], s, m, rfl, by simp [SharedRegistry.visit], .done s, .nil, rfl,
      fun _ _ => rfl⟩
  | cons p es ih =>
    cases h with
    | @cons _ q _ jobs hp hrest =>
    obtain ⟨id, e⟩ := p
    obtain ⟨id', job⟩ := q
    obtain ⟨rfl, hkeeps⟩ := hp
    rw [List.map_cons, List.nodup_cons] at hes hjobs
    -- What a visit writes to its own entry is out of reach of the visits before and after it.
    have happart := hkeeps.apart hrest hes.1
    have hrest' : ∀ write, List.Forall₂ (m.writeEntry e write).Holds es jobs := fun write =>
      forall₂_holds_of_owned hrest fun p hp ref hown =>
        hkeeps.getElem?_writeEntry (fun hown' => happart p hp ref hown' hown) write
    -- Both rounds make the same first visit; the second one notes what it writes.
    rw [SharedRegistry.visit, SharedRegistry.visit, hkeeps.job?_eq]
    dsimp only
    rw [Visit.noting]
    obtain ⟨result, write, s', hvisit⟩ : ∃ result write s', f id job s = (result, write, s') :=
      ⟨_, _, _, rfl⟩
    dsimp only
    rw [hvisit]
    cases result with
    | error x =>
      refine ⟨.error x, [(id, write)], s', m.writeEntry e write, rfl, rfl, .failed jobs hvisit, ?_,
        hkeeps.length_writeEntry write, fun ref href => ?_⟩
      · rw [Writes.apply_cons hjobs.1 (by simp), Writes.apply_nil]
        exact .cons ⟨rfl, hkeeps.writeEntry write⟩ (hrest' write)
      · rw [List.forall_mem_cons] at href
        exact hkeeps.getElem?_writeEntry href.1 write
    | ok u =>
      obtain ⟨result, ws, s'', m', hrun, hnoted, hround, hholds, hlength, hothers⟩ :=
        ih (hrest' write) hes.2 hjobs.2 s' (noted ++ [(id, write)])
      -- An id is visited once, so the rest of the round does not write to this entry again.
      have hws : id ∉ ws.map Prod.fst := fun hid => hjobs.1 (hround.map_fst_prefix.subset hid)
      have hfirst : m'.Keeps e { job with labels := write job.labels } :=
        (hkeeps.writeEntry write).of_owned fun ref hown =>
          hothers ref fun p hp => happart p hp ref hown
      refine ⟨result, (id, write) :: ws, s'', m', hrun, ?_, .next hvisit hround, ?_, ?_,
        fun ref href => ?_⟩
      · dsimp only
        rw [hnoted, List.append_assoc, List.singleton_append]
      · rw [Writes.apply_cons hjobs.1 hws]
        exact .cons ⟨rfl, hfirst⟩ hholds
      · rw [hlength, hkeeps.length_writeEntry write]
      · rw [List.forall_mem_cons] at href
        rw [hothers ref href.2, hkeeps.getElem?_writeEntry href.1 write]

end

/-! ## Shared registries -/

section

variable {α β : Type} {R : α → β → Prop} {es : List (Int × α)} {jobs : List (Int × β)}

theorem forall₂_put (h : List.Forall₂ (fun p q => p.1 = q.1 ∧ R p.2 q.2) es jobs) (id : Int)
    {a : α} {b : β} (hab : R a b) :
    List.Forall₂ (fun p q => p.1 = q.1 ∧ R p.2 q.2) (Tree.put id a es) (Tree.put id b jobs) := by
  induction h with
  | nil => exact .cons ⟨rfl, hab⟩ .nil
  | @cons p q es jobs hp hrest ih =>
    obtain ⟨id', a'⟩ := p
    obtain ⟨id'', b'⟩ := q
    obtain ⟨rfl, hab'⟩ := hp
    by_cases hid : (id' == id) = true
    · rw [Tree.put, if_pos hid, Tree.put, if_pos hid]
      exact .cons ⟨rfl, hab⟩ hrest
    · rw [Tree.put, if_neg hid, Tree.put, if_neg hid]
      exact .cons ⟨rfl, hab'⟩ ih

theorem forall₂_filter_ne (h : List.Forall₂ (fun p q => p.1 = q.1 ∧ R p.2 q.2) es jobs)
    (id : Int) :
    List.Forall₂ (fun p q => p.1 = q.1 ∧ R p.2 q.2) (es.filter fun p => p.1 != id)
      (jobs.filter fun q => q.1 != id) := by
  induction h with
  | nil => exact .nil
  | @cons p q es jobs hp hrest ih =>
    rw [List.filter_cons, List.filter_cons, ← hp.1]
    by_cases hid : (p.1 != id) = true
    · rw [if_pos hid, if_pos hid]
      exact .cons hp ih
    · rw [if_neg hid, if_neg hid]
      exact ih

theorem forall₂_find? (h : List.Forall₂ (fun p q => p.1 = q.1 ∧ R p.2 q.2) es jobs) (id : Int) :
    Option.Rel R (Tree.find? id es) (Tree.find? id jobs) := by
  induction h with
  | nil => exact .none
  | @cons p q es jobs hp hrest ih =>
    rw [Tree.find?, Tree.find?]
    by_cases hid : p.1 = id
    · rw [List.find?_cons_of_pos (by simpa using hid),
        List.find?_cons_of_pos (by simpa [← hp.1] using hid)]
      exact .some hp.2
    · rw [List.find?_cons_of_neg (by simpa using hid),
        List.find?_cons_of_neg (by simpa [← hp.1] using hid)]
      exact ih

theorem map_fst_eq_of_forall₂ (h : List.Forall₂ (fun p q => p.1 = q.1 ∧ R p.2 q.2) es jobs) :
    es.map Prod.fst = jobs.map Prod.fst := by
  induction h with
  | nil => rfl
  | cons hp _ ih => rw [List.map_cons, List.map_cons, hp.1, ih]

theorem nodup_map_snd_put (hes : (es.map Prod.snd).Nodup) (id : Int) {a : α}
    (ha : ∀ p ∈ es, p.2 ≠ a) : ((Tree.put id a es).map Prod.snd).Nodup := by
  induction es with
  | nil => simp [Tree.put]
  | cons p es ih =>
    rw [List.map_cons, List.nodup_cons] at hes
    rw [List.forall_mem_cons] at ha
    rw [Tree.put]
    split
    · rw [List.map_cons, List.nodup_cons]
      refine ⟨fun hmem => ?_, hes.2⟩
      obtain ⟨p', hp', hsame⟩ := List.mem_map.1 hmem
      exact ha.2 p' hp' hsame
    · rw [List.map_cons, List.nodup_cons]
      refine ⟨fun hmem => ?_, ih hes.2 ha.2⟩
      obtain ⟨p', hp', hsame⟩ := List.mem_map.1 hmem
      rcases Tree.eq_or_mem_of_mem_put hp' with rfl | hold
      · exact ha.1 hsame.symm
      · exact hes.1 (List.mem_map.2 ⟨p', hold, hsame⟩)

end

namespace SharedRegistry

variable {τ σ ε : Type}

/-- The shared registry holds the entries of a registry.  Its objects are all different, and none of
them is among those that are known to others. -/
structure Shows (r : SharedRegistry) (m : Memory τ) (known : List Nat) (g : Registry τ) :
    Prop where
  holds : List.Forall₂ m.Holds r.entries g.entries
  distinct : (r.entries.map Prod.snd).Nodup
  apart : ∀ p ∈ r.entries, ∀ ref ∈ known, ¬ Owns p.2 ref
  inside : ∀ ref ∈ known, ref < m.objects.length

namespace Shows

variable {r : SharedRegistry} {m : Memory τ} {known : List Nat} {g : Registry τ}

theorem empty : Shows {} ({} : Memory τ) [] {} where
  holds := .nil
  distinct := .nil
  apart _ hp := absurd hp List.not_mem_nil
  inside _ hp := absurd hp List.not_mem_nil

theorem ids_eq (h : r.Shows m known g) : r.ids = g.ids := map_fst_eq_of_forall₂ h.holds

theorem contains_eq (h : r.Shows m known g) (id : Int) : r.contains id = g.contains id := by
  rw [contains, h.ids_eq, Registry.contains]

theorem size_eq (h : r.Shows m known g) : r.size = g.size := h.holds.length_eq

theorem lt_length (h : r.Shows m known g) : ∀ p ∈ r.entries, p.2 < m.objects.length := by
  intro p hp
  obtain ⟨job, hkeeps⟩ := Memory.exists_keeps_of_mem h.holds hp
  exact hkeeps.lt_length

/-- New objects may become known. -/
theorem grow (h : r.Shows m known g) (os : List (Object τ)) {refs : List Nat}
    (hnew : ∀ ref ∈ refs, m.objects.length ≤ ref ∧ ref < (m.objects ++ os).length) :
    r.Shows ⟨m.objects ++ os⟩ (known ++ refs) g where
  holds := Memory.forall₂_holds_append h.holds os
  distinct := h.distinct
  apart p hp ref href hown := by
    have hlt := h.lt_length p hp
    rcases List.mem_append.1 href with hold | href
    · exact h.apart p hp ref hold hown
    · have hle := (hnew ref href).1
      rcases hown with hown | hown <;> omega
  inside ref href := by
    rcases List.mem_append.1 href with hold | href
    · have hlt := h.inside ref hold
      simp only [List.length_append]
      omega
    · exact (hnew ref href).2

/-- **Whoever writes to an object that is known writes to none of the registry.** -/
theorem change (h : r.Shows m known g) {ref : Nat} (href : ref ∈ known)
    (f : Object τ → Object τ) : r.Shows (m.change ref f) known g where
  holds := by
    refine Memory.forall₂_holds_of_owned h.holds fun p hp ref' hown => ?_
    have hne : ref ≠ ref' := by
      rintro rfl
      exact h.apart p hp ref href hown
    exact Memory.getElem?_change_of_ne hne f
  distinct := h.distinct
  apart := h.apart
  inside ref' href' := by
    rw [Memory.length_change]
    exact h.inside ref' href'

theorem add (h : r.Shows m known g) (id : Int) (start : τ) (d : Nat) :
    (r.add id start d m).1.Shows (r.add id start d m).2 known
      (g.add id start ((m.labels? d).getD [])) where
  holds := by
    refine forall₂_put (Memory.forall₂_holds_append h.holds _) id ?_
    exact m.keeps_newEntry ⟨start, (m.labels? d).getD []⟩
  distinct := by
    refine nodup_map_snd_put h.distinct id fun p hp => ?_
    have hlt := h.lt_length p hp
    show p.2 ≠ m.objects.length + 1
    omega
  apart p hp ref href hown := by
    rcases Tree.eq_or_mem_of_mem_put hp with rfl | hold
    · have hlt := h.inside ref href
      simp only [Owns] at hown
      omega
    · exact h.apart p hold ref href hown
  inside ref href := by
    have hlt := h.inside ref href
    simp only [SharedRegistry.add, Memory.newEntry, List.length_append]
    omega

theorem remove (h : r.Shows m known g) (id : Int) :
    (r.remove id).1 = g.contains id ∧ (r.remove id).2.Shows m known (g.remove id) := by
  refine ⟨h.contains_eq id, forall₂_filter_ne h.holds id, ?_, fun p hp => ?_, h.inside⟩
  · exact h.distinct.sublist (List.filter_sublist.map _)
  · exact h.apart p (List.mem_filter.1 hp).1

/-- What is given away says what the entry says, and is new. -/
theorem exists_get? (h : r.Shows m known g) (id : Int) :
    ∃ e? os, r.get? id m = (e?, ⟨m.objects ++ os⟩) ∧
      e?.bind (⟨m.objects ++ os⟩ : Memory τ).job? = g.get? id ∧
      ∀ e ∈ e?, m.objects.length < e ∧ ∃ job, (⟨m.objects ++ os⟩ : Memory τ).Keeps e job := by
  have hfind := forall₂_find? h.holds id
  rw [SharedRegistry.get?, Registry.get?]
  generalize Tree.find? id r.entries = e?, Tree.find? id g.entries = job? at hfind ⊢
  cases hfind with
  | none => exact ⟨none, [], by simp, rfl, by simp⟩
  | @some e job hkeeps =>
    have hcopy := m.keeps_newEntry job
    refine ⟨some (m.objects.length + 1), _, ?_, hcopy.job?_eq, fun e he => ?_⟩
    · dsimp only
      rw [Memory.copyEntry_eq hkeeps]
      rfl
    · obtain rfl := Option.some.inj he
      exact ⟨Nat.lt_succ_self _, job, hcopy⟩

theorem exists_snapshot (h : r.Shows m known g) :
    ∃ copies os, r.snapshot m = (copies, ⟨m.objects ++ os⟩) ∧
      List.Forall₂ (Memory.Holds ⟨m.objects ++ os⟩) copies g.entries ∧
      ∀ p ∈ copies, m.objects.length < p.2 := Memory.exists_copyEntries h.holds

/-- **A round of visits is one over the registry**, and its writes are written there. -/
theorem exists_forEach (h : r.Shows m known g) (f : Visit τ σ ε) (s : σ) :
    ∃ result ws s' m', r.forEach f s m = (result, s', m') ∧
      r.forEach f.noting (s, []) m = (result, (s', ws), m') ∧
      Round f g.entries s result ws s' ∧ r.Shows m' known (g.written ws) := by
  obtain ⟨result, ws, s', m', hrun, hnoted, hround, hholds, hlength, -⟩ :=
    exists_visit h.holds h.distinct g.distinct f s []
  refine ⟨result, ws, s', m', hrun, hnoted, hround, hholds, h.distinct, h.apart, fun ref href => ?_⟩
  rw [hlength]
  exact h.inside ref href

end Shows

end SharedRegistry

end JobMeter
