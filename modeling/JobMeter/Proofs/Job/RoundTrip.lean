import JobMeter.Job.Document
import JobMeter.Job.Labels

/-!
# Events are read back from what is written of them

A lenient reader takes many documents for the same event.  What is written of an event is one of
them, so to read, to write and to read again is the same as to read once.

* `Reads check write` — the check gives back each value that was written.  It passes from the parts
  of a document to the whole: `Reads.list`, `Reads.nullable`, and the fields of a record with
  `required_eq_ok`, `withDefault_eq_ok` and `optional_eq_ok`.
* `Event.reads_check` — every event is read back from its document.
* `decoding_idempotent` — **to read an event is idempotent**: what was read from any document is
  read once more from what is written of it, with its labels, its log fields and its identity.
-/

namespace JobMeter

/-- The fields of a record are found by their names. -/
theorem Tree.find?_record {ε : Type} (name : String) (fields : List (String × Tree ε)) :
    find? (JobMeter.text name) (fields.map fun (n, v) => (JobMeter.text n, v)) =
      (fields.find? fun f => f.1 == name).map Prod.snd := by
  induction fields with
  | nil => rfl
  | cons f fields ih =>
    obtain ⟨n, v⟩ := f
    rw [find?] at ih ⊢
    by_cases h : n = name
    · simp [h]
    · have htext : ¬ JobMeter.text n = JobMeter.text name := fun heq => h (text_inj.1 heq)
      simpa [h, htext] using ih

namespace Schema

variable {ε α : Type}

/-! ## What is written is read -/

/-- The check gives back what was written. -/
def Reads (check : Check ε α) (write : α → Tree ε) : Prop := ∀ a, check (write a) = .ok a

theorem reads_asText [ByteScalar ε] : Reads (asText : Check ε Text) .text := fun _ => rfl

theorem reads_asInt [ByteScalar ε] : Reads (asInt : Check ε Int) .int := fun _ => rfl

variable {check : Check ε α} {write : α → Tree ε}

theorem Reads.items (h : Reads check write) (n : Nat) (as : List α) :
    Checked.items check n (as.map write) = .ok as := by
  induction as generalizing n with
  | nil => rfl
  | cons a as ih =>
    rw [List.map_cons, Checked.items, h a, ih (n + 1)]
    rfl

theorem Reads.list (h : Reads check write) : Reads (asList check) fun as => .seq (as.map write) :=
  fun as => h.items 0 as

/-- Null is kept for what is missing. -/
theorem Reads.nullable (h : Reads check write) (hnull : ∀ a, write a ≠ .null) :
    Reads (nullable check) (.ofOption write) := by
  intro o
  cases o with
  | none => rfl
  | some a =>
    show Schema.nullable check (write a) = .ok (some a)
    rw [Schema.nullable.eq_2 check (write a) (hnull a), h a]
    rfl

section Fields

variable {name : String} {fields : List (String × Tree ε)} {a : α}

/-- A field of a record is read back. -/
theorem required_eq_ok (h : Reads check write)
    (hfield : (fields.find? fun f => f.1 == name).map Prod.snd = some (write a)) :
    required name check (fields.map fun (n, v) => (text n, v)) = .ok a := by
  rw [required, Tree.find?_record, hfield]
  dsimp only
  rw [h a]
  rfl

theorem withDefault_eq_ok (h : Reads check write) (default : α)
    (hfield : (fields.find? fun f => f.1 == name).map Prod.snd = some (write a)) :
    withDefault name default check (fields.map fun (n, v) => (text n, v)) = .ok a := by
  rw [withDefault, Tree.find?_record, hfield]
  dsimp only
  rw [h a]
  rfl

theorem optional_eq_ok (h : Reads check write) (hnull : ∀ a, write a ≠ .null) {o : Option α}
    (hfield : (fields.find? fun f => f.1 == name).map Prod.snd = some (.ofOption write o)) :
    optional name check (fields.map fun (n, v) => (text n, v)) = .ok o :=
  withDefault_eq_ok (h.nullable hnull) none hfield

end Fields

end Schema

/-! ## Events -/

namespace Event

open Schema

variable {ε : Type} [ByteScalar ε]

theorem reads_checkStep : Reads (checkStep : Check ε JobStep) JobStep.document := by
  intro s
  rw [JobStep.document, Tree.record, checkStep, asRecord,
    optional_eq_ok reads_asText nofun rfl, optional_eq_ok reads_asInt nofun rfl,
    optional_eq_ok reads_asText nofun rfl]
  rfl

theorem reads_checkJob : Reads (checkJob : Check ε Job) Job.document := by
  intro j
  rw [Job.document, Tree.record, checkJob, asRecord, required_eq_ok reads_asInt rfl,
    optional_eq_ok reads_asText nofun rfl, withDefault_eq_ok reads_asText.list [] rfl,
    optional_eq_ok reads_asText nofun rfl, optional_eq_ok reads_asText nofun rfl,
    optional_eq_ok reads_asText nofun rfl, withDefault_eq_ok reads_checkStep.list [] rfl]
  rfl

theorem reads_checkOwner : Reads (checkOwner : Check ε Owner) Owner.document := by
  intro o
  rw [Owner.document, Tree.record, checkOwner, asRecord, optional_eq_ok reads_asText nofun rfl]
  rfl

theorem reads_checkRepository :
    Reads (checkRepository : Check ε Repository) Repository.document := by
  intro r
  rw [Repository.document, Tree.record, checkRepository, asRecord,
    optional_eq_ok reads_asText nofun rfl, optional_eq_ok reads_asText nofun rfl,
    optional_eq_ok reads_checkOwner nofun rfl]
  rfl

theorem reads_checkOrganization :
    Reads (checkOrganization : Check ε Organization) Organization.document := by
  intro o
  rw [Organization.document, Tree.record, checkOrganization, asRecord,
    optional_eq_ok reads_asText nofun rfl, optional_eq_ok reads_asText nofun rfl]
  rfl

/-- **Every event is read back from its document.** -/
theorem reads_check : Reads (check : Check ε Event) Event.document := by
  intro e
  rw [Event.document, Tree.record, check, asRecord, required_eq_ok reads_asText rfl,
    required_eq_ok reads_checkJob rfl, optional_eq_ok reads_checkRepository nofun rfl,
    optional_eq_ok reads_checkOrganization nofun rfl]
  rfl

end Event

/-- **To read an event is idempotent.**  Whatever document an event was read from, with its numbers
as texts, truth values or doubles, with nulls, gaps and more keys: the document that is written of
the event, all fields of it filled in, is read as the same event.  So it has the same labels, log
fields and context, and its job is found at the same place. -/
theorem decoding_idempotent {v : Json} {e : Event} (h : Event.check v = .ok e) :
    Event.check (e.document : Json) = Event.check v ∧
      ∃ e', Event.check (e.document : Json) = .ok e' ∧ e'.labels = e.labels ∧
        e'.logFields = e.logFields ∧ e'.context = e.context ∧ e'.identity? = e.identity? := by
  have hread : Event.check (e.document : Json) = .ok e := Event.reads_check e
  exact ⟨hread.trans h.symm, e, hread, rfl, rfl, rfl, rfl⟩

/-- A document that says little, and says it oddly. -/
theorem decoding_idempotent_lenient :
    let v : Json := .record [("sender", .null), ("workflow_job", .record
        [("steps", .seq [.record [("number", .bool true), ("status", .str "queued")], .record []]),
          ("id", .str " +1_0.00 "), ("labels", .seq [.str "linux"]), ("name", .null)]),
      ("organization", .record []), ("action", .str "queued")]
    ∃ e, Event.check v = .ok e ∧ e.job.id = 10 ∧ e.job.steps.map (·.number) = [some 1, none] ∧
      Event.check (e.document : Json) = Event.check v := by
  intro v
  have h : ∃ e, Event.check v = .ok e ∧ e.job.id = 10 ∧
      e.job.steps.map (·.number) = [some 1, none] := ⟨_, rfl, by decide, by decide⟩
  obtain ⟨e, he, hid, hsteps⟩ := h
  exact ⟨e, he, hid, hsteps, (decoding_idempotent he).1⟩

end JobMeter
