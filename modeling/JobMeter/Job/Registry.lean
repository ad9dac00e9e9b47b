import JobMeter.Job.Labels

/-!
# Jobs in progress

The registry holds the jobs that have started and not completed, in the order in which they were
first registered: an entry that is replaced keeps its place, one that is removed loses it.

* `add`, `remove`, `get?`, `contains`, `ids`, `size`;
* `forEach` visits the entries in their order.  A visit may change the entry, and a failed one
  ends the round.
-/

namespace JobMeter

/-- A job in progress. -/
structure Running (τ : Type) where
  startTime : τ
  labels : Labels
  deriving DecidableEq

/-- The jobs in progress by their ids. -/
structure Registry (τ : Type) where
  entries : List (Int × Running τ) := []
  distinct : (entries.map Prod.fst).Nodup := by simp

namespace Registry

variable {τ σ ε : Type}

/-- The ids of the jobs, in the order of the registry. -/
def ids (r : Registry τ) : List Int := r.entries.map Prod.fst

/-- The number of jobs. -/
def size (r : Registry τ) : Nat := r.entries.length

/-- The entry of a job. -/
def get? (r : Registry τ) (id : Int) : Option (Running τ) := Tree.find? id r.entries

/-- Is the job in progress? -/
def contains (r : Registry τ) (id : Int) : Bool := r.ids.contains id

/-- Registers a job, or registers it anew. -/
def add (r : Registry τ) (id : Int) (start : τ) (labels : Labels) : Registry τ :=
  ⟨Tree.put id ⟨start, labels⟩ r.entries, Tree.nodup_put id _ r.distinct⟩

/-- Takes a job out. -/
def remove (r : Registry τ) (id : Int) : Registry τ :=
  ⟨r.entries.filter fun e => e.1 != id,
    List.Nodup.sublist (List.Sublist.map _ List.filter_sublist) r.distinct⟩

theorem mem_ids {r : Registry τ} {id : Int} : id ∈ r.ids ↔ ∃ job, r.get? id = some job := by
  rw [← Option.isSome_iff_exists, get?, Tree.isSome_find?, ids]

/-- A job that is registered anew keeps its place. -/
theorem ids_add (r : Registry τ) (id : Int) (start : τ) (labels : Labels) :
    (r.add id start labels).ids = if id ∈ r.ids then r.ids else r.ids ++ [id] :=
  Tree.map_fst_put id _ r.entries

theorem get?_add (r : Registry τ) (id j : Int) (start : τ) (labels : Labels) :
    (r.add id start labels).get? j = if id = j then some ⟨start, labels⟩ else r.get? j := by
  rw [get?, add, Tree.find?_put, get?]
  by_cases h : id = j <;> simp [h]

theorem eq_or_mem_of_mem_add {r : Registry τ} {id : Int} {start : τ} {labels : Labels}
    {p : Int × Running τ} (h : p ∈ (r.add id start labels).entries) :
    p = (id, ⟨start, labels⟩) ∨ p ∈ r.entries := Tree.eq_or_mem_of_mem_put h

theorem mem_of_mem_remove {r : Registry τ} {id : Int} {p : Int × Running τ}
    (h : p ∈ (r.remove id).entries) : p ∈ r.entries := (List.mem_filter.1 h).1

theorem ids_remove (r : Registry τ) (id : Int) :
    (r.remove id).ids = r.ids.filter (· != id) := by
  rw [ids, remove, ids, List.filter_map]
  rfl

theorem get?_remove (r : Registry τ) (id j : Int) :
    (r.remove id).get? j = if id = j then none else r.get? j := by
  rw [get?, remove, get?, Tree.find?, Tree.find?, List.find?_filter]
  by_cases h : id = j
  · subst h
    simp
  · rw [if_neg h]
    congr 2
    funext e
    by_cases he : e.1 = j
    · subst he
      simp [Ne.symm h]
    · simp [he]

/-- Visits entries in their order.  A visit gives the entry as it is after it; the first that
fails is the last. -/
def visit (f : Int → Running τ → σ → Except ε Unit × Running τ × σ) :
    List (Int × Running τ) → σ → Except ε Unit × List (Int × Running τ) × σ
  | [], s => (.ok (), [], s)
  | (id, job) :: rest, s =>
    match f id job s with
    | (.error e, job', s') => (.error e, (id, job') :: rest, s')
    | (.ok (), job', s') =>
      match visit f rest s' with
      | (r, rest', s'') => (r, (id, job') :: rest', s'')

/-- Visits leave the ids as they are. -/
theorem map_fst_visit (f : Int → Running τ → σ → Except ε Unit × Running τ × σ)
    (es : List (Int × Running τ)) (s : σ) :
    (visit f es s).2.1.map Prod.fst = es.map Prod.fst := by
  induction es generalizing s with
  | nil => rfl
  | cons e rest ih =>
    obtain ⟨id, job⟩ := e
    unfold visit
    split
    · rfl
    · rename_i job' s' _
      simpa using ih s'

/-- Visits all entries, as long as no visit fails. -/
def forEach (r : Registry τ) (f : Int → Running τ → σ → Except ε Unit × Running τ × σ) (s : σ) :
    Except ε Unit × Registry τ × σ :=
  let result := visit f r.entries s
  (result.1, ⟨result.2.1, by rw [map_fst_visit]; exact r.distinct⟩, result.2.2)

end Registry

end JobMeter
