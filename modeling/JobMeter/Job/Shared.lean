import JobMeter.Job.Registry

/-!
# Jobs in progress as shared objects

Dictionaries of labels and entries of a registry are objects in a `Memory`: whoever has a reference
to one of them, which is its place there, may change it.  A `SharedRegistry` is a registry of such
objects.

* `add` copies the labels that it is given into an entry of its own.
* `get?` and `snapshot` give copies of entries away.
* `forEach` visits the entries themselves: a visit may write to the labels of its entry, and a
  failed one ends the round.
-/

namespace JobMeter

/-- An object in memory. -/
inductive Object (τ : Type) where
  | dictionary (labels : Labels)
  /-- An entry of a registry, with its dictionary. -/
  | entry (startTime : τ) (labels : Nat)

/-- The objects in memory, each at its place. -/
structure Memory (τ : Type) where
  objects : List (Object τ) := []

namespace Memory

variable {τ : Type}

/-- The labels in a dictionary. -/
def labels? (m : Memory τ) (d : Nat) : Option Labels :=
  match m.objects[d]? with
  | some (.dictionary labels) => some labels
  | _ => none

/-- The dictionary of an entry. -/
def dictionary? (m : Memory τ) (e : Nat) : Option Nat :=
  match m.objects[e]? with
  | some (.entry _ d) => some d
  | _ => none

/-- What an entry says. -/
def job? (m : Memory τ) (e : Nat) : Option (Running τ) :=
  match m.objects[e]? with
  | some (.entry start d) => (m.labels? d).map fun labels => ⟨start, labels⟩
  | _ => none

/-- Changes the object at a place. -/
def change (m : Memory τ) (ref : Nat) (f : Object τ → Object τ) : Memory τ :=
  ⟨m.objects.modify ref f⟩

/-- Writes to a dictionary. -/
def writeLabels (m : Memory τ) (d : Nat) (write : Labels → Labels) : Memory τ :=
  m.change d fun
    | .dictionary labels => .dictionary (write labels)
    | .entry start labels => .entry start labels

/-- Gives an entry another start time and another dictionary. -/
def assign (m : Memory τ) (e : Nat) (start : τ) (d : Nat) : Memory τ :=
  m.change e fun
    | .dictionary labels => .dictionary labels
    | .entry _ _ => .entry start d

/-- Writes to the dictionary of an entry. -/
def writeEntry (m : Memory τ) (e : Nat) (write : Labels → Labels) : Memory τ :=
  match m.dictionary? e with
  | some d => m.writeLabels d write
  | none => m

/-- Makes a dictionary. -/
def newDictionary (m : Memory τ) (labels : Labels) : Nat × Memory τ :=
  (m.objects.length, ⟨m.objects ++ [.dictionary labels]⟩)

/-- Makes an entry, with a dictionary of its own. -/
def newEntry (m : Memory τ) (job : Running τ) : Nat × Memory τ :=
  (m.objects.length + 1,
    ⟨m.objects ++ [.dictionary job.labels, .entry job.startTime m.objects.length]⟩)

/-- Copies an entry together with its dictionary. -/
def copyEntry (m : Memory τ) (e : Nat) : Nat × Memory τ :=
  match m.job? e with
  | some job => m.newEntry job
  | none => (e, m)

/-- Copies entries one after the other. -/
def copyEntries : List (Int × Nat) → Memory τ → List (Int × Nat) × Memory τ
  | [], m => ([], m)
  | (id, e) :: rest, m =>
    let (e', m') := m.copyEntry e
    let (rest', m'') := copyEntries rest m'
    ((id, e') :: rest', m'')

end Memory

/-- What a visit does: it sees an entry, may write to its labels, and may fail. -/
abbrev Visit (τ σ ε : Type) : Type :=
  Int → Running τ → σ → Except ε Unit × (Labels → Labels) × σ

/-- A registry of entries in memory. -/
structure SharedRegistry where
  entries : List (Int × Nat) := []

namespace SharedRegistry

variable {τ σ ε : Type}

/-- The ids of the jobs, in the order of the registry. -/
def ids (r : SharedRegistry) : List Int := r.entries.map Prod.fst

/-- The number of jobs. -/
def size (r : SharedRegistry) : Nat := r.entries.length

/-- Is the job in progress? -/
def contains (r : SharedRegistry) (id : Int) : Bool := r.ids.contains id

/-- Registers a job with the labels in a dictionary, or registers it anew. -/
def add (r : SharedRegistry) (id : Int) (start : τ) (d : Nat) (m : Memory τ) :
    SharedRegistry × Memory τ :=
  let (e, m') := m.newEntry ⟨start, (m.labels? d).getD []⟩
  (⟨Tree.put id e r.entries⟩, m')

/-- Takes a job out; gives whether it was in progress. -/
def remove (r : SharedRegistry) (id : Int) : Bool × SharedRegistry :=
  (r.contains id, ⟨r.entries.filter fun e => e.1 != id⟩)

/-- A copy of the entry of a job. -/
def get? (r : SharedRegistry) (id : Int) (m : Memory τ) : Option Nat × Memory τ :=
  match Tree.find? id r.entries with
  | some e =>
    let (e', m') := m.copyEntry e
    (some e', m')
  | none => (none, m)

/-- Copies of all entries. -/
def snapshot (r : SharedRegistry) (m : Memory τ) : List (Int × Nat) × Memory τ :=
  Memory.copyEntries r.entries m

/-- Visits entries in their order; the first visit that fails is the last. -/
def visit (f : Visit τ σ ε) :
    List (Int × Nat) → σ → Memory τ → Except ε Unit × σ × Memory τ
  | [], s, m => (.ok (), s, m)
  | (id, e) :: rest, s, m =>
    match m.job? e with
    | none => visit f rest s m
    | some job =>
      match f id job s with
      | (.error x, write, s') => (.error x, s', m.writeEntry e write)
      | (.ok (), write, s') => visit f rest s' (m.writeEntry e write)

/-- Visits all entries, as long as no visit fails. -/
def forEach (r : SharedRegistry) (f : Visit τ σ ε) (s : σ) (m : Memory τ) :
    Except ε Unit × σ × Memory τ := visit f r.entries s m

end SharedRegistry

end JobMeter
