import JobMeter.Job.Event

/-!
# Events written as documents

`Event.document` writes an event down with everything that it may tell: what it is silent about is
null, and a list without items is empty.  `Tree.record` and `Tree.ofOption` are what such documents
are made of.
-/

namespace JobMeter

namespace Tree

variable {ε α : Type}

/-- A record of named values. -/
def record (fields : List (String × Tree ε)) : Tree ε :=
  .map (fields.map fun (name, v) => (JobMeter.text name, v))

/-- A value, or null in its place. -/
def ofOption (write : α → Tree ε) : Option α → Tree ε
  | some a => write a
  | none => .null

end Tree

variable {ε : Type}

/-- A step as a document. -/
def JobStep.document (s : JobStep) : Tree ε := .record
  [("name", .ofOption .text s.name), ("number", .ofOption .int s.number),
    ("conclusion", .ofOption .text s.conclusion)]

/-- A job as a document. -/
def Job.document (j : Job) : Tree ε := .record
  [("id", .int j.id), ("name", .ofOption .text j.name), ("labels", .seq (j.labels.map .text)),
    ("workflow_name", .ofOption .text j.workflowName),
    ("head_branch", .ofOption .text j.headBranch), ("conclusion", .ofOption .text j.conclusion),
    ("steps", .seq (j.steps.map JobStep.document))]

/-- An owner as a document. -/
def Owner.document (o : Owner) : Tree ε := .record [("login", .ofOption .text o.login)]

/-- A repository as a document. -/
def Repository.document (r : Repository) : Tree ε := .record
  [("name", .ofOption .text r.name), ("full_name", .ofOption .text r.fullName),
    ("owner", .ofOption Owner.document r.owner)]

/-- An organization as a document. -/
def Organization.document (o : Organization) : Tree ε := .record
  [("login", .ofOption .text o.login), ("name", .ofOption .text o.name)]

/-- An event as a document. -/
def Event.document (e : Event) : Tree ε := .record
  [("action", .text e.action), ("workflow_job", e.job.document),
    ("repository", .ofOption Repository.document e.repository),
    ("organization", .ofOption Organization.document e.organization)]

end JobMeter
