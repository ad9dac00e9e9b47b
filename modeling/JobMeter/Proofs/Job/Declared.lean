import JobMeter.Proofs.Job.RoundTrip
import Mathlib.Data.List.Forall2

/-!
# What an event is read from

An event is read from documents that hold many fields more.  Which fields are declared is said here
once more, apart from the checks: two documents agree if they have the same values in the declared
fields at each level, whatever else they hold and in whatever order their keys stand.

* `Tree.Same` — the same document but for the order of keys.
* `Schema.AgreeOn`, `Schema.AgreeItems` — records that agree in some fields, and lists whose items
  agree one by one.
* `Schema.Respects R check` — the check finds the same value, or the same faults, in documents that
  `R` relates.  It passes from the parts of a document to the whole.
* `Event.Agree` — the documents agree in all that is declared of an event.
* `check_eq_of_agree` — **only what is declared matters**: documents that agree give the same event,
  or the same faults in the same order.
-/

namespace JobMeter

variable {ε : Type}

/-- The same document, but for the order of the keys in it. -/
inductive Tree.Same : Tree ε → Tree ε → Prop
  | refl (v : Tree ε) : Same v v
  | seq {items items' : List (Tree ε)} (h : List.Forall₂ Same items items') :
    Same (.seq items) (.seq items')
  | map {entries entries' : List (Text × Tree ε)}
    (h : ∀ key, Option.Rel Same (find? key entries) (find? key entries')) :
    Same (.map entries) (.map entries')

namespace Schema

/-! ## Documents that agree -/

/-- A relation of documents. -/
abbrev Relation (ε : Type) : Type := Tree ε → Tree ε → Prop

/-- The values of the fields are related, or none of the records has the field. -/
def AgreeFields (fields : List (String × Relation ε)) (fs fs' : Fields ε) : Prop :=
  ∀ f ∈ fields, Option.Rel f.2 (Tree.find? (text f.1) fs) (Tree.find? (text f.1) fs')

/-- Records that agree in some fields; what is no record is the same. -/
def AgreeOn (fields : List (String × Relation ε)) : Relation ε
  | .map fs, .map fs' => AgreeFields fields fs fs'
  | v, w => v.Same w

/-- Lists with items that are related one by one; what is no list is the same. -/
def AgreeItems (R : Relation ε) : Relation ε
  | .seq items, .seq items' => List.Forall₂ R items items'
  | v, w => v.Same w

/-- Written records agree if their values do, name by name. -/
theorem agreeOn_record {fields : List (String × Relation ε)} {fs fs' : List (String × Tree ε)} :
    AgreeOn fields (.record fs) (.record fs') ↔
      ∀ f ∈ fields, Option.Rel f.2 ((fs.find? fun g => g.1 == f.1).map Prod.snd)
        ((fs'.find? fun g => g.1 == f.1).map Prod.snd) := by
  simp only [Tree.record, AgreeOn, AgreeFields, Tree.find?_record]

/-- Null is related to itself alone. -/
def KeepsNull (R : Relation ε) : Prop := ∀ v w, R v w → (v = .null ↔ w = .null)

theorem keepsNull_same : KeepsNull (Tree.Same : Relation ε) := by
  intro v w h
  cases h with
  | refl => exact Iff.rfl
  | seq _ => simp
  | map _ => simp

theorem keepsNull_agreeOn (fields : List (String × Relation ε)) : KeepsNull (AgreeOn fields) := by
  intro v w h
  unfold AgreeOn at h
  split at h
  · simp
  · exact keepsNull_same v w h

/-! ## Checks that look at nothing else -/

variable {α : Type} {R : Relation ε} {check : Check ε α}

/-- The check finds the same in documents that are related. -/
def Respects (R : Relation ε) (check : Check ε α) : Prop := ∀ v w, R v w → check v = check w

theorem respects_asText [ByteScalar ε] : Respects Tree.Same (asText : Check ε Text) := by
  intro v w h
  cases h <;> rfl

theorem respects_asInt [ByteScalar ε] : Respects Tree.Same (asInt : Check ε Int) := by
  intro v w h
  cases h <;> rfl

theorem Respects.items (h : Respects R check) {items items' : List (Tree ε)}
    (hitems : List.Forall₂ R items items') (n : Nat) :
    Checked.items check n items = Checked.items check n items' := by
  induction hitems generalizing n with
  | nil => rfl
  | cons hv _ ih => rw [Checked.items, Checked.items, h _ _ hv, ih (n + 1)]

theorem Respects.list (h : Respects R check) : Respects (AgreeItems R) (asList check) := by
  intro v w hvw
  unfold AgreeItems at hvw
  split at hvw
  · exact h.items hvw 0
  · rename_i hlists
    cases hvw with
    | refl => rfl
    | seq _ => exact absurd rfl (hlists _ _ rfl)
    | map _ => rfl

theorem Respects.nullable (h : Respects R check) (hnull : KeepsNull R) :
    Respects R (nullable check) := by
  intro v w hvw
  by_cases hv : v = .null
  · rw [hv, (hnull v w hvw).1 hv]
  · have hw : w ≠ .null := fun hw => hv ((hnull v w hvw).2 hw)
    rw [Schema.nullable.eq_2 check v hv, Schema.nullable.eq_2 check w hw, h v w hvw]

/-- A record is checked alike if its fields are. -/
theorem respects_asRecord {fields : List (String × Relation ε)} {check : Fields ε → Checked α}
    (h : ∀ fs fs', AgreeFields fields fs fs' → check fs = check fs') :
    Respects (AgreeOn fields) (asRecord check) := by
  intro v w hvw
  unfold AgreeOn at hvw
  split at hvw
  · exact h _ _ hvw
  · rename_i hrecords
    cases hvw with
    | refl => rfl
    | seq _ => rfl
    | map _ => exact absurd rfl (hrecords _ _ rfl)

section Fields

variable {name : String} {fs fs' : Fields ε}

theorem Respects.required (h : Respects R check)
    (hfield : Option.Rel R (Tree.find? (text name) fs) (Tree.find? (text name) fs')) :
    required name check fs = required name check fs' := by
  rw [Schema.required, Schema.required]
  generalize Tree.find? (text name) fs = v at hfield ⊢
  generalize Tree.find? (text name) fs' = w at hfield ⊢
  cases hfield with
  | none => rfl
  | some hvw =>
    dsimp only
    rw [h _ _ hvw]

theorem Respects.withDefault (h : Respects R check)
    (hfield : Option.Rel R (Tree.find? (text name) fs) (Tree.find? (text name) fs'))
    (default : α) : withDefault name default check fs = withDefault name default check fs' := by
  rw [Schema.withDefault, Schema.withDefault]
  generalize Tree.find? (text name) fs = v at hfield ⊢
  generalize Tree.find? (text name) fs' = w at hfield ⊢
  cases hfield with
  | none => rfl
  | some hvw =>
    dsimp only
    rw [h _ _ hvw]

theorem Respects.optional (h : Respects R check) (hnull : KeepsNull R)
    (hfield : Option.Rel R (Tree.find? (text name) fs) (Tree.find? (text name) fs')) :
    optional name check fs = optional name check fs' :=
  (h.nullable hnull).withDefault hfield none

end Fields

end Schema

/-! ## Events -/

namespace Event

open Schema JobMeter.Tree

/-- Steps that agree in what is declared of them. -/
def AgreeStep : Relation ε := AgreeOn [("name", Same), ("number", Same), ("conclusion", Same)]

/-- Jobs that agree in what is declared of them. -/
def AgreeJob : Relation ε := AgreeOn
  [("id", Same), ("name", Same), ("labels", AgreeItems Same), ("workflow_name", Same),
    ("head_branch", Same), ("conclusion", Same), ("steps", AgreeItems AgreeStep)]

/-- Owners that agree in what is declared of them. -/
def AgreeOwner : Relation ε := AgreeOn [("login", Same)]

/-- Repositories that agree in what is declared of them. -/
def AgreeRepository : Relation ε :=
  AgreeOn [("name", Same), ("full_name", Same), ("owner", AgreeOwner)]

/-- Organizations that agree in what is declared of them. -/
def AgreeOrganization : Relation ε := AgreeOn [("login", Same), ("name", Same)]

/-- Documents that agree in what is declared of an event. -/
def Agree : Relation ε := AgreeOn
  [("action", Same), ("workflow_job", AgreeJob), ("repository", AgreeRepository),
    ("organization", AgreeOrganization)]

variable [ByteScalar ε]

theorem respects_checkStep : Respects AgreeStep (checkStep : Check ε JobStep) := by
  refine respects_asRecord fun fs fs' h => ?_
  simp only [AgreeFields, List.forall_mem_cons] at h
  obtain ⟨hname, hnumber, hconclusion, -⟩ := h
  rw [respects_asText.optional keepsNull_same hname,
    respects_asInt.optional keepsNull_same hnumber,
    respects_asText.optional keepsNull_same hconclusion]

theorem respects_checkJob : Respects AgreeJob (checkJob : Check ε Job) := by
  refine respects_asRecord fun fs fs' h => ?_
  simp only [AgreeFields, List.forall_mem_cons] at h
  obtain ⟨hid, hname, hlabels, hworkflow, hbranch, hconclusion, hsteps, -⟩ := h
  rw [respects_asInt.required hid, respects_asText.optional keepsNull_same hname,
    respects_asText.list.withDefault hlabels,
    respects_asText.optional keepsNull_same hworkflow,
    respects_asText.optional keepsNull_same hbranch,
    respects_asText.optional keepsNull_same hconclusion,
    respects_checkStep.list.withDefault hsteps]

theorem respects_checkOwner : Respects AgreeOwner (checkOwner : Check ε Owner) := by
  refine respects_asRecord fun fs fs' h => ?_
  rw [respects_asText.optional keepsNull_same (h _ List.mem_cons_self)]

theorem respects_checkRepository :
    Respects AgreeRepository (checkRepository : Check ε Repository) := by
  refine respects_asRecord fun fs fs' h => ?_
  simp only [AgreeFields, List.forall_mem_cons] at h
  obtain ⟨hname, hfull, howner, -⟩ := h
  rw [respects_asText.optional keepsNull_same hname,
    respects_asText.optional keepsNull_same hfull,
    respects_checkOwner.optional (keepsNull_agreeOn _) howner]

theorem respects_checkOrganization :
    Respects AgreeOrganization (checkOrganization : Check ε Organization) := by
  refine respects_asRecord fun fs fs' h => ?_
  simp only [AgreeFields, List.forall_mem_cons] at h
  obtain ⟨hlogin, hname, -⟩ := h
  rw [respects_asText.optional keepsNull_same hlogin,
    respects_asText.optional keepsNull_same hname]

theorem respects_check : Respects Agree (check : Check ε Event) := by
  refine respects_asRecord fun fs fs' h => ?_
  simp only [AgreeFields, List.forall_mem_cons] at h
  obtain ⟨haction, hjob, hrepository, horganization, -⟩ := h
  rw [respects_asText.required haction, respects_checkJob.required hjob,
    respects_checkRepository.optional (keepsNull_agreeOn _) hrepository,
    respects_checkOrganization.optional (keepsNull_agreeOn _) horganization]

end Event

/-- **Only what is declared matters.**  Two documents that agree in the declared fields, at each
level and in each step, give the same event, or the same faults, at the same places and in the same
order, whatever other fields they hold and in whatever order their keys stand. -/
theorem check_eq_of_agree {v w : Json} (h : Event.Agree v w) : Event.check v = Event.check w :=
  Event.respects_check v w h

/-- Documents with fields of their own at every level, and with their keys in another order: one
pair is accepted, and the other has the same two faults. -/
theorem check_eq_of_agree_reordered :
    let job := fun (id : Json) (more : List (String × Json)) => Tree.record
      (more ++ [("id", id), ("labels", .seq [.str "linux"]),
        ("steps", .seq [.record (("number", .int 1) :: more), .record more])])
    let left := fun (id name : Json) => Tree.record
      [("action", .str "queued"), ("workflow_job", job id [("run_id", .int 7)]),
        ("repository", .record [("owner", .record [("login", .str "a")]), ("name", name)]),
        ("organization", .record [("url", .null)])]
    let right := fun (id name : Json) => Tree.record
      [("sender", .null), ("organization", .record []), ("repository", .record
        [("private", .bool true), ("name", name),
          ("owner", .record [("id", .int 3), ("login", .str "a")])]),
        ("workflow_job", job id []), ("action", .str "queued")]
    (Event.Agree (left (.int 5) (.str "b")) (right (.int 5) (.str "b")) ∧
      (∃ e, Event.check (left (.int 5) (.str "b")) = .ok e) ∧
      Event.check (left (.int 5) (.str "b")) = Event.check (right (.int 5) (.str "b"))) ∧
    Event.Agree (left .null (.int 1)) (right .null (.int 1)) ∧
      Event.check (left .null (.int 1)) = Except.error
        [⟨[.key (text "workflow_job"), .key (text "id")], .notInteger⟩,
          ⟨[.key (text "repository"), .key (text "name")], .notText⟩] ∧
      Event.check (left .null (.int 1)) = Event.check (right .null (.int 1)) := by
  intro job left right
  have hagree : ∀ id name, Event.Agree (left id name) (right id name) := by
    intro id name
    simp [left, right, job, Event.Agree, Event.AgreeJob, Event.AgreeStep, Event.AgreeRepository,
      Event.AgreeOwner, Event.AgreeOrganization, Schema.AgreeItems, Schema.agreeOn_record,
      Tree.Same.refl]
  exact ⟨⟨hagree _ _, ⟨_, rfl⟩, check_eq_of_agree (hagree _ _)⟩, hagree _ _, rfl,
    check_eq_of_agree (hagree _ _)⟩

end JobMeter
