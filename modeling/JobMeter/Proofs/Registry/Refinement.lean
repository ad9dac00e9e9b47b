import JobMeter.Proofs.Registry.History
import JobMeter.Proofs.Registry.Sharing

/-!
# The registry as a map that its history defines

A caller uses a shared registry in any way: it registers jobs with dictionaries of its own, asks
for entries, visits them, and writes to whatever objects it has a reference to.  What the registry
answers is determined by the changes that were made to it through its own operations.

* `Registry.Change`, `Registry.ofChanges` — a change, and the registry after a history of changes.
* `Stands` — a job is in progress after a history, as its latest registration and the later writes
  of visits make it.
* `Listing` — some entries are those that stand, in the order of their first registrations.
* `Caller` — a caller with a shared registry and a memory; `Caller.step` is what it can do next,
  with the answer.
* `Tells` — an answer is the one that a listing gives.
* `Caller.Sound` — the shared registry shows the registry of its history.  Each step preserves it
  and is answered by that registry (`Caller.Sound.step`).
* `registry_refines_history` — **every answer is determined by the history alone.**
-/

namespace JobMeter

variable {τ σ ε : Type}

/-! ## Histories of changes -/

/-- A change of a registry. -/
inductive Registry.Change (τ : Type) where
  | add (id : Int) (start : τ) (labels : Labels)
  | remove (id : Int)
  /-- A round of visits, with what it wrote. -/
  | write (ws : Writes)

namespace Registry.Change

/-- The job that is registered or taken out. -/
def id? : Change τ → Option Int
  | add id _ _ => some id
  | remove id => some id
  | write _ => none

/-- What is written to the labels of a job, in its order. -/
def writes (id : Int) : Change τ → List (Labels → Labels)
  | write ws => ws.about id
  | _ => []

/-- The news about a job. -/
def mark? : Change τ → Option (Mark τ)
  | add id start labels => some (.started id ⟨start, labels⟩)
  | remove id => some (.ended id)
  | write _ => none

end Registry.Change

namespace Registry

/-- The registry after a change. -/
def change (r : Registry τ) : Change τ → Registry τ
  | .add id start labels => r.add id start labels
  | .remove id => r.remove id
  | .write ws => r.written ws

/-- The registry after a history. -/
def ofChanges (past : List (Change τ)) : Registry τ := past.foldl change ⟨[], .nil⟩

theorem ofChanges_concat (past : List (Change τ)) (c : Change τ) :
    ofChanges (past ++ [c]) = (ofChanges past).change c := by
  rw [ofChanges, List.foldl_append, List.foldl_cons, List.foldl_nil, ofChanges]

theorem ids_written (r : Registry τ) (ws : Writes) : (r.written ws).ids = r.ids := by
  simp [ids, written, Writes.apply]

theorem mem_entries {r : Registry τ} {id : Int} {job : Running τ} :
    (id, job) ∈ r.entries ↔ r.get? id = some job :=
  ⟨Tree.find?_eq_some_of_mem r.distinct, Tree.mem_of_find?_eq_some⟩

theorem get?_written (r : Registry τ) (ws : Writes) (id : Int) :
    (r.written ws).get? id = (r.get? id).map fun job => job.written (ws.about id) := by
  have hfind : ∀ jobs : List (Int × Running τ), Tree.find? id (ws.apply jobs) =
      (Tree.find? id jobs).map fun job => job.written (ws.about id) := by
    intro jobs
    induction jobs with
    | nil => rfl
    | cons p jobs ih =>
      by_cases hid : p.1 = id
      · simp [Tree.find?, Writes.apply, hid]
      · simpa [Tree.find?, Writes.apply, hid] using ih
  exact hfind r.entries

end Registry

/-- The last of some items, seen from one of them: it is that one, or it comes after it. -/
theorem concat_eq_append_cons {α : Type} {l before after : List α} {a b : α}
    (h : l ++ [a] = before ++ b :: after) :
    (l = before ∧ a = b ∧ after = []) ∨
      ∃ rest, after = rest ++ [a] ∧ l = before ++ b :: rest := by
  rcases List.eq_nil_or_concat after with rfl | ⟨rest, a', rfl⟩
  · obtain ⟨hl, hlast⟩ := List.append_inj' h rfl
    exact .inl ⟨hl, List.singleton_inj.1 hlast, rfl⟩
  · rw [List.concat_eq_append, ← List.cons_append, ← List.append_assoc] at h
    obtain ⟨hl, hlast⟩ := List.append_inj' h rfl
    obtain rfl : a = a' := List.singleton_inj.1 hlast
    exact .inr ⟨rest, List.concat_eq_append, hl⟩

theorem Running.written_append (job : Running τ) (ws ws' : List (Labels → Labels)) :
    job.written (ws ++ ws') = (job.written ws).written ws' := by
  simp [written, List.foldl_append]

/-- A job is in progress after a history, and this is its entry: it was registered and neither
registered anew nor taken out since, and only visits wrote to its labels. -/
def Stands (past : List (Registry.Change τ)) (id : Int) (job : Running τ) : Prop :=
  ∃ before start labels after, past = before ++ .add id start labels :: after ∧
    (∀ c ∈ after, c.id? ≠ some id) ∧
    job = Running.written ⟨start, labels⟩ (after.flatMap (Registry.Change.writes id))

namespace Stands

variable {past : List (Registry.Change τ)} {c : Registry.Change τ} {id : Int} {job : Running τ}

/-- A change that neither registers a job nor takes it out leaves it, up to what it writes. -/
theorem concat_of_ne (hc : c.id? ≠ some id) :
    Stands (past ++ [c]) id job ↔
      ∃ job', Stands past id job' ∧ job = job'.written (c.writes id) := by
  constructor
  · rintro ⟨before, start, labels, after, hpast, hafter, rfl⟩
    obtain ⟨-, rfl, -⟩ | ⟨rest, rfl, rfl⟩ := concat_eq_append_cons hpast
    · exact absurd rfl hc
    · refine ⟨_, ⟨before, start, labels, rest, rfl, fun d hd => hafter d (by simp [hd]), rfl⟩, ?_⟩
      rw [List.flatMap_append, List.flatMap_singleton, Running.written_append]
  · rintro ⟨job', ⟨before, start, labels, after, rfl, hafter, rfl⟩, rfl⟩
    refine ⟨before, start, labels, after ++ [c], by simp, fun d hd => ?_, ?_⟩
    · rcases List.mem_append.1 hd with hold | hlast
      · exact hafter d hold
      · rw [List.mem_singleton.1 hlast]
        exact hc
    · rw [List.flatMap_append, List.flatMap_singleton, Running.written_append]

/-- A change of other jobs leaves it. -/
theorem concat_of_idle (hc : c.id? ≠ some id) (hwrites : c.writes id = []) :
    Stands (past ++ [c]) id job ↔ Stands past id job := by
  rw [concat_of_ne hc, hwrites]
  exact ⟨fun ⟨_, h, hjob⟩ => hjob ▸ h, fun h => ⟨job, h, rfl⟩⟩

/-- A change that registers a job or takes it out decides on it. -/
theorem concat_of_eq (hc : c.id? = some id) :
    Stands (past ++ [c]) id job ↔ c = .add id job.startTime job.labels := by
  constructor
  · rintro ⟨before, start, labels, after, hpast, hafter, rfl⟩
    obtain ⟨-, rfl, rfl⟩ | ⟨rest, rfl, -⟩ := concat_eq_append_cons hpast
    · rfl
    · exact absurd hc (hafter c (by simp))
  · rintro rfl
    exact ⟨past, job.startTime, job.labels, [], rfl, by simp, rfl⟩

end Stands

namespace Registry

/-- **The latest registration stands**, with what visits wrote since. -/
theorem get?_ofChanges {past : List (Change τ)} {id : Int} {job : Running τ} :
    (ofChanges past).get? id = some job ↔ Stands past id job := by
  induction past using List.reverseRecOn generalizing job with
  | nil =>
    refine ⟨fun h => (by cases h), ?_⟩
    rintro ⟨before, start, labels, after, hpast, -⟩
    simp at hpast
  | append_singleton past c ih =>
    rw [ofChanges_concat]
    -- A change of the job itself decides; any other one leaves what stood before it.
    cases c with
    | add id' start labels =>
      show ((ofChanges past).add id' start labels).get? id = some job ↔ _
      rw [get?_add]
      by_cases hid : id' = id
      · subst hid
        rw [if_pos rfl, Stands.concat_of_eq rfl, Option.some.injEq, Change.add.injEq]
        constructor
        · rintro rfl
          exact ⟨rfl, rfl, rfl⟩
        · rintro ⟨-, rfl, rfl⟩
          rfl
      · have hne : (Change.add id' start labels).id? ≠ some id := fun h => hid (Option.some.inj h)
        rw [if_neg hid, Stands.concat_of_idle hne rfl, ih]
    | remove id' =>
      show ((ofChanges past).remove id').get? id = some job ↔ _
      rw [get?_remove]
      by_cases hid : id' = id
      · subst hid
        rw [if_pos rfl, Stands.concat_of_eq rfl]
        exact ⟨fun h => (by cases h), fun h => (by cases h)⟩
      · have hne : (Change.remove id' : Change τ).id? ≠ some id := fun h => hid (Option.some.inj h)
        rw [if_neg hid, Stands.concat_of_idle hne rfl, ih]
    | write ws =>
      have hne : (Change.write ws : Change τ).id? ≠ some id := fun h => (by cases h)
      show ((ofChanges past).written ws).get? id = some job ↔ _
      rw [get?_written, Stands.concat_of_ne hne, Option.map_eq_some_iff]
      refine exists_congr fun job' => ?_
      rw [ih]
      exact and_congr_right fun _ => eq_comm

theorem ids_ofChanges (past : List (Change τ)) :
    (ofChanges past).ids = (ofMarks (past.filterMap Change.mark?)).ids := by
  induction past using List.reverseRecOn with
  | nil => rfl
  | append_singleton past c ih =>
    rw [ofChanges_concat, List.filterMap_append]
    cases c with
    | add id start labels =>
      show ((ofChanges past).add id start labels).ids = (ofMarks (_ ++ [.started id _])).ids
      rw [ofMarks_concat, record, ids_add, ids_add, ih]
    | remove id =>
      show ((ofChanges past).remove id).ids = (ofMarks (_ ++ [.ended id])).ids
      rw [ofMarks_concat, record, ids_remove, ids_remove, ih]
    | write ws =>
      show ((ofChanges past).written ws).ids = (ofMarks (_ ++ [])).ids
      rw [ids_written, List.append_nil, ih]

end Registry

/-- These are the entries of the jobs in progress after a history, in the order in which the jobs
were first registered since they were last taken out. -/
structure Listing (past : List (Registry.Change τ)) (jobs : List (Int × Running τ)) : Prop where
  stands : ∀ id job, (id, job) ∈ jobs ↔ Stands past id job
  order : ∃ places : List Nat, places.Pairwise (· < ·) ∧
    List.Forall₂ (FirstStart (past.filterMap Registry.Change.mark?)) (jobs.map Prod.fst) places
  distinct : (jobs.map Prod.fst).Nodup

theorem listing_ofChanges (past : List (Registry.Change τ)) :
    Listing past (Registry.ofChanges past).entries where
  stands id job := by rw [Registry.mem_entries, Registry.get?_ofChanges]
  order := by
    have horder := Registry.forall₂_firstStart_ofMarks (past.filterMap Registry.Change.mark?)
    rw [← Registry.ids_ofChanges] at horder
    exact horder
  distinct := (Registry.ofChanges past).distinct

/-! ## A caller -/

/-- What a reference to an entry leads to: the entry and its dictionary. -/
def Memory.reached (m : Memory τ) (e : Nat) : List Nat := e :: (m.dictionary? e).toList

/-- Somebody who uses a shared registry. -/
structure Caller (τ : Type) where
  registry : SharedRegistry := {}
  memory : Memory τ := {}
  /-- The objects that the caller has references to. -/
  known : List Nat := []
  /-- The changes of the registry so far. -/
  past : List (Registry.Change τ) := []

/-- What a caller is told. -/
inductive Answer (τ σ ε : Type) where
  | nothing
  | flag (b : Bool)
  | number (n : Nat)
  | entry (job? : Option (Running τ))
  | entries (jobs : List (Int × Option (Running τ)))
  /-- What came of a round of visits, with the ids that were visited. -/
  | round (result : Except ε Unit) (seen : List Int) (s : σ)
  deriving DecidableEq

namespace Caller

/-- What a caller can do next.  Objects are named by their numbers among those that are known. -/
inductive Step (τ σ ε : Type) where
  /-- It registers a job with the labels in a dictionary. -/
  | add (id : Int) (start : τ) (n : Nat)
  | remove (id : Int)
  | get (id : Int)
  | contains (id : Int)
  | size
  | snapshot
  | forEach (f : Visit τ σ ε) (s : σ)
  /-- It makes a dictionary. -/
  | make (labels : Labels)
  /-- It writes to a dictionary. -/
  | write (n : Nat) (write : Labels → Labels)
  /-- It gives an entry another start time and another dictionary. -/
  | assign (n : Nat) (start : τ) (n' : Nat)

/-- What the caller is told, and the caller after it.  It does nothing with objects that it does not
know. -/
def step (c : Caller τ) : Step τ σ ε → Answer τ σ ε × Caller τ
  | .add id start n =>
    match c.known[n]?.bind fun d => (c.memory.labels? d).map fun labels => (d, labels) with
    | some (d, labels) =>
      let (registry, memory) := c.registry.add id start d c.memory
      (.nothing, { c with registry, memory, past := c.past ++ [.add id start labels] })
    | none => (.nothing, c)
  | .remove id =>
    let (was, registry) := c.registry.remove id
    (.flag was, { c with registry, past := c.past ++ [.remove id] })
  | .get id =>
    let (e?, memory) := c.registry.get? id c.memory
    (.entry (e?.bind memory.job?),
      { c with memory, known := c.known ++ e?.toList.flatMap memory.reached })
  | .contains id => (.flag (c.registry.contains id), c)
  | .size => (.number c.registry.size, c)
  | .snapshot =>
    let (copies, memory) := c.registry.snapshot c.memory
    (.entries (copies.map fun p => (p.1, memory.job? p.2)),
      { c with memory, known := c.known ++ copies.flatMap fun p => memory.reached p.2 })
  | .forEach f s =>
    let (result, s', memory) := c.registry.forEach f s c.memory
    let (_, (_, ws), _) := c.registry.forEach f.noting (s, []) c.memory
    (.round result (ws.map Prod.fst) s', { c with memory, past := c.past ++ [.write ws] })
  | .make labels =>
    let (d, memory) := c.memory.newDictionary labels
    (.nothing, { c with memory, known := c.known ++ [d] })
  | .write n write =>
    match c.known[n]? with
    | some d => (.nothing, { c with memory := c.memory.writeLabels d write })
    | none => (.nothing, c)
  | .assign n start n' =>
    match c.known[n]?, c.known[n']? with
    | some e, some d => (.nothing, { c with memory := c.memory.assign e start d })
    | _, _ => (.nothing, c)

/-- The caller after one step after the other. -/
def run (c : Caller τ) (steps : List (Step τ σ ε)) : Caller τ :=
  steps.foldl (fun c a => (c.step a).2) c

/-- The shared registry shows the registry of its history. -/
def Sound (c : Caller τ) : Prop :=
  c.registry.Shows c.memory c.known (Registry.ofChanges c.past)

end Caller

/-- An answer is the one that the entries of the jobs in progress give. -/
inductive Tells (jobs : List (Int × Running τ)) : Caller.Step τ σ ε → Answer τ σ ε → Prop where
  | add (id : Int) (start : τ) (n : Nat) : Tells jobs (.add id start n) .nothing
  | remove (id : Int) : Tells jobs (.remove id) (.flag (decide (id ∈ jobs.map Prod.fst)))
  | get {id : Int} {job? : Option (Running τ)} (h : ∀ job, job? = some job ↔ (id, job) ∈ jobs) :
      Tells jobs (.get id) (.entry job?)
  | contains (id : Int) : Tells jobs (.contains id) (.flag (decide (id ∈ jobs.map Prod.fst)))
  | size : Tells jobs .size (.number jobs.length)
  | snapshot : Tells jobs .snapshot (.entries (jobs.map fun p => (p.1, some p.2)))
  | forEach {f : Visit τ σ ε} {s s' : σ} {result : Except ε Unit} {ws : Writes}
      (h : Round f jobs s result ws s') :
      Tells jobs (.forEach f s) (.round result (ws.map Prod.fst) s')
  | make (labels : Labels) : Tells jobs (.make labels) .nothing
  | write (n : Nat) (write : Labels → Labels) : Tells jobs (.write n write) .nothing
  | assign (n : Nat) (start : τ) (n' : Nat) : Tells jobs (.assign n start n') .nothing

namespace Memory

variable {m : Memory τ} {e : Nat} {job : Running τ}

/-- What a reference to a new entry leads to is new. -/
theorem Keeps.lt_of_mem_reached (h : m.Keeps e job) {n ref : Nat} (hnew : n < e)
    (href : ref ∈ m.reached e) : n ≤ ref ∧ ref < m.objects.length := by
  have hlength := h.lt_length
  obtain ⟨-, hentry⟩ := h
  simp only [reached, dictionary?, hentry, Option.toList_some, List.mem_cons, List.not_mem_nil,
    or_false] at href
  omega

theorem map_job?_of_holds {es : List (Int × Nat)} {jobs : List (Int × Running τ)}
    (h : List.Forall₂ m.Holds es jobs) :
    es.map (fun p => (p.1, m.job? p.2)) = jobs.map fun p => (p.1, some p.2) := by
  induction h with
  | nil => rfl
  | cons hp _ ih => rw [List.map_cons, List.map_cons, hp.1, hp.2.job?_eq, ih]

end Memory

theorem Registry.contains_eq (g : Registry τ) (id : Int) :
    g.contains id = decide (id ∈ g.entries.map Prod.fst) := List.contains_eq_mem id g.ids

namespace Caller

variable {c : Caller τ}

/-- The step is answered as the history wants it, and leaves a registry that shows its history. -/
def Proper (c : Caller τ) (a : Step τ σ ε) : Prop :=
  Tells (Registry.ofChanges c.past).entries a (c.step a).1 ∧ (c.step a).2.Sound

namespace Sound

theorem add (h : c.Sound) (id : Int) (start : τ) (n : Nat) :
    c.Proper (.add id start n : Step τ σ ε) := by
  rw [Proper, step]
  cases hknown : c.known[n]?.bind fun d => (c.memory.labels? d).map fun labels => (d, labels) with
  | none => exact ⟨.add id start n, h⟩
  | some x =>
    obtain ⟨d, -, hx⟩ := Option.bind_eq_some_iff.1 hknown
    obtain ⟨labels, hlabels, rfl⟩ := Option.map_eq_some_iff.1 hx
    have hshows := SharedRegistry.Shows.add h id start d
    rw [hlabels, Option.getD_some] at hshows
    refine ⟨.add id start n, ?_⟩
    rw [Sound, Registry.ofChanges_concat]
    exact hshows

theorem remove (h : c.Sound) (id : Int) : c.Proper (.remove id : Step τ σ ε) := by
  obtain ⟨hwas, hshows⟩ := SharedRegistry.Shows.remove h id
  rw [Proper, step]
  constructor
  · dsimp only
    rw [hwas, Registry.contains_eq]
    exact .remove id
  · rw [Sound, Registry.ofChanges_concat]
    exact hshows

theorem get (h : c.Sound) (id : Int) : c.Proper (.get id : Step τ σ ε) := by
  obtain ⟨e?, os, hrun, hentry, hnew⟩ := SharedRegistry.Shows.exists_get? h id
  rw [Proper, step, hrun]
  dsimp only
  constructor
  · refine .get fun job => ?_
    rw [hentry, Registry.mem_entries]
  · refine SharedRegistry.Shows.grow h os fun ref href => ?_
    obtain ⟨e, he, href⟩ := List.mem_flatMap.1 href
    obtain ⟨hlt, job, hkeeps⟩ := hnew e (Option.mem_toList.1 he)
    exact hkeeps.lt_of_mem_reached hlt href

theorem snapshot (h : c.Sound) : c.Proper (.snapshot : Step τ σ ε) := by
  obtain ⟨copies, os, hrun, hholds, hnew⟩ := SharedRegistry.Shows.exists_snapshot h
  rw [Proper, step, hrun]
  dsimp only
  constructor
  · rw [Memory.map_job?_of_holds hholds]
    exact .snapshot
  · refine SharedRegistry.Shows.grow h os fun ref href => ?_
    obtain ⟨p, hp, href⟩ := List.mem_flatMap.1 href
    obtain ⟨job, hkeeps⟩ := Memory.exists_keeps_of_mem hholds hp
    exact hkeeps.lt_of_mem_reached (hnew p hp) href

theorem exists_forEach (h : c.Sound) (f : Visit τ σ ε) (s : σ) :
    ∃ result ws s', Round f (Registry.ofChanges c.past).entries s result ws s' ∧
      (c.step (.forEach f s)).1 = .round result (ws.map Prod.fst) s' ∧
      (c.step (.forEach f s)).2.past = c.past ++ [.write ws] ∧
      (c.step (.forEach f s)).2.Sound := by
  obtain ⟨result, ws, s', m, hrun, hnoted, hround, hshows⟩ :=
    SharedRegistry.Shows.exists_forEach h f s
  refine ⟨result, ws, s', hround, ?_⟩
  rw [step, hrun, hnoted]
  refine ⟨rfl, rfl, ?_⟩
  rw [Sound, Registry.ofChanges_concat]
  exact hshows

theorem forEach (h : c.Sound) (f : Visit τ σ ε) (s : σ) : c.Proper (.forEach f s) := by
  obtain ⟨result, ws, s', hround, hanswer, -, hsound⟩ := h.exists_forEach f s
  refine ⟨?_, hsound⟩
  rw [hanswer]
  exact .forEach hround

theorem make (h : c.Sound) (labels : Labels) : c.Proper (.make labels : Step τ σ ε) := by
  refine ⟨.make labels, SharedRegistry.Shows.grow h [.dictionary labels] fun ref href => ?_⟩
  rw [List.mem_singleton.1 href, List.length_append]
  exact ⟨Nat.le_refl _, Nat.lt_succ_self _⟩

theorem write (h : c.Sound) (n : Nat) (write : Labels → Labels) :
    c.Proper (.write n write : Step τ σ ε) := by
  rw [Proper, step]
  cases hknown : c.known[n]? with
  | none => exact ⟨.write n write, h⟩
  | some d =>
    exact ⟨.write n write, SharedRegistry.Shows.change h (List.mem_of_getElem? hknown) _⟩

theorem assign (h : c.Sound) (n : Nat) (start : τ) (n' : Nat) :
    c.Proper (.assign n start n' : Step τ σ ε) := by
  rw [Proper, step]
  cases hknown : c.known[n]? with
  | none => exact ⟨.assign n start n', h⟩
  | some e =>
    cases c.known[n']? with
    | none => exact ⟨.assign n start n', h⟩
    | some d =>
      exact ⟨.assign n start n', SharedRegistry.Shows.change h (List.mem_of_getElem? hknown) _⟩

/-- **Each step is proper.** -/
theorem step (h : c.Sound) (a : Step τ σ ε) : c.Proper a := by
  cases a with
  | add id start n => exact h.add id start n
  | remove id => exact h.remove id
  | get id => exact h.get id
  | contains id =>
    refine ⟨?_, h⟩
    rw [Caller.step, SharedRegistry.Shows.contains_eq h, Registry.contains_eq]
    exact .contains id
  | size =>
    refine ⟨?_, h⟩
    rw [Caller.step, SharedRegistry.Shows.size_eq h]
    exact .size
  | snapshot => exact h.snapshot
  | forEach f s => exact h.forEach f s
  | make labels => exact h.make labels
  | write n write => exact h.write n write
  | assign n start n' => exact h.assign n start n'

theorem run (h : c.Sound) (steps : List (Step τ σ ε)) : (c.run steps).Sound := by
  induction steps generalizing c with
  | nil => exact h
  | cons a steps ih => exact ih (h.step a).2

end Sound

end Caller

/-- **Every answer is determined by the history alone.**  Let a caller use a new registry in any
way: register jobs, take them out, ask for entries and visit them, and meanwhile write to the
dictionaries that it handed in and to the entries that it was given, whatever and whenever it likes.
Then, at each moment, there are entries that follow from the changes so far:

* there is one for each job that was registered and not taken out since, as it was registered last,
  with what visits wrote to its labels since, and with nothing else;
* they are in the order in which the jobs were first registered since they were last taken out;
* whatever the caller does next, these entries give the answer;
* what it writes to its own objects is no change;
* a round of visits goes through them in their order, up to the first visit that fails, and leaves
  them as they are but for what was written by then to the labels of those that were visited. -/
theorem registry_refines_history (steps : List (Caller.Step τ σ ε)) :
    let c := Caller.run {} steps
    let jobs := (Registry.ofChanges c.past).entries
    Listing c.past jobs ∧
    (∀ a : Caller.Step τ σ ε, Tells jobs a (c.step a).1) ∧
    (∀ n write n' start,
      (c.step (.write n write : Caller.Step τ σ ε)).2.past = c.past ∧
      (c.step (.assign n start n' : Caller.Step τ σ ε)).2.past = c.past) ∧
    (∀ (f : Visit τ σ ε) (s : σ), ∃ result ws s', Round f jobs s result ws s' ∧
      (c.step (.forEach f s)).1 = .round result (ws.map Prod.fst) s' ∧
      (c.step (.forEach f s)).2.past = c.past ++ [.write ws] ∧
      (Registry.ofChanges (c.past ++ [.write ws])).entries =
        jobs.map (fun p => (p.1, p.2.written (ws.about p.1))) ∧
      ∀ p ∈ jobs, p.1 ∉ ws.map Prod.fst → (p.1, p.2.written (ws.about p.1)) = p) := by
  intro c jobs
  have hfresh : ({} : Caller τ).Sound := SharedRegistry.Shows.empty
  have h : c.Sound := hfresh.run steps
  refine ⟨listing_ofChanges c.past, fun a => (h.step a).1, fun n write n' start => ⟨?_, ?_⟩,
    fun f s => ?_⟩
  · rw [Caller.step]
    cases c.known[n]? <;> rfl
  · rw [Caller.step]
    cases c.known[n]? with
    | none => rfl
    | some e => cases c.known[n']? <;> rfl
  · obtain ⟨result, ws, s', hround, hanswer, hpast, -⟩ := h.exists_forEach f s
    refine ⟨result, ws, s', hround, hanswer, hpast, ?_, fun p _ hp => ?_⟩
    · rw [Registry.ofChanges_concat]
      rfl
    · rw [Writes.about_eq_nil hp]
      rfl

/-- A round of visits that fails at the second of three jobs; then the first is taken out and
registered anew, and the caller writes to the dictionary that it handed in and to an entry that it
was given. -/
theorem registry_refines_history_failing :
    let a : Text × Text := (text "a", text "1")
    let b : Text × Text := (text "b", text "2")
    let f : Visit Nat Unit Unit := fun id _ s =>
      (if id = 2 then .error () else .ok (), fun labels => labels ++ [b], s)
    let c := Caller.run {} [.make [a], .add 1 10 0, .add 2 20 0, .add 3 30 0, .forEach f (),
      .remove 1, .write 0 (fun _ => [b]), .add 1 40 0, .get 2, .write 2 (fun _ => []),
      .assign 1 50 0]
    (c.step (.snapshot : Caller.Step Nat Unit Unit)).1 = .entries
        [(2, some ⟨20, [a, b]⟩), (3, some ⟨30, [a]⟩), (1, some ⟨40, [b]⟩)] ∧
      Listing c.past [(2, ⟨20, [a, b]⟩), (3, ⟨30, [a]⟩), (1, ⟨40, [b]⟩)] := by
  intro a b f c
  have hjobs : (Registry.ofChanges c.past).entries =
      [(2, ⟨20, [a, b]⟩), (3, ⟨30, [a]⟩), (1, ⟨40, [b]⟩)] := by decide +kernel
  have h := registry_refines_history [.make [a], .add 1 10 0, .add 2 20 0, .add 3 30 0,
    .forEach f (), .remove 1, .write 0 (fun _ => [b]), .add 1 40 0, .get 2,
    .write 2 (fun _ => []), .assign 1 50 0]
  refine ⟨by decide +kernel, ?_⟩
  rw [← hjobs]
  exact h.1

end JobMeter
