import JobMeter.Schema.Field

/-!
# Events of workflow jobs

An `Event` tells that a job was queued, started or completed.  `Event.check` reads one from a
document that holds many fields more; `Event.identity?` is where its job is found.
-/

namespace JobMeter

/-- A step of a job. -/
structure JobStep where
  name : Option Text
  number : Option Int
  conclusion : Option Text

/-- A job, as an event describes it. -/
structure Job where
  id : Int
  name : Option Text
  /-- What the job asks of its runner. -/
  labels : List Text
  workflowName : Option Text
  headBranch : Option Text
  /-- How the job ended, once it is completed. -/
  conclusion : Option Text
  /-- The steps in the order in which they run. -/
  steps : List JobStep

/-- The owner of a repository. -/
structure Owner where
  login : Option Text

/-- The repository of a job. -/
structure Repository where
  name : Option Text
  fullName : Option Text
  owner : Option Owner

/-- The organization that owns a repository. -/
structure Organization where
  login : Option Text
  name : Option Text

/-- A notice about a job. -/
structure Event where
  action : Text
  job : Job
  repository : Option Repository
  organization : Option Organization

/-- Where a job is found. -/
structure JobIdentity where
  owner : Text
  repository : Text
  job : Int
  deriving DecidableEq

namespace Event

open Schema

variable {ε : Type} [ByteScalar ε]

/-- A step in a document. -/
def checkStep : Check ε JobStep := asRecord fun fs =>
  JobStep.mk <$> optional "name" asText fs <*> optional "number" asInt fs
    <*> optional "conclusion" asText fs

/-- A job in a document. -/
def checkJob : Check ε Job := asRecord fun fs =>
  Job.mk <$> required "id" asInt fs <*> optional "name" asText fs
    <*> withDefault "labels" [] (asList asText) fs <*> optional "workflow_name" asText fs
    <*> optional "head_branch" asText fs <*> optional "conclusion" asText fs
    <*> withDefault "steps" [] (asList checkStep) fs

/-- An owner in a document. -/
def checkOwner : Check ε Owner := asRecord fun fs =>
  Owner.mk <$> optional "login" asText fs

/-- A repository in a document. -/
def checkRepository : Check ε Repository := asRecord fun fs =>
  Repository.mk <$> optional "name" asText fs <*> optional "full_name" asText fs
    <*> optional "owner" checkOwner fs

/-- An organization in a document. -/
def checkOrganization : Check ε Organization := asRecord fun fs =>
  Organization.mk <$> optional "login" asText fs <*> optional "name" asText fs

/-- An event in a document. -/
def check : Check ε Event := asRecord fun fs =>
  Event.mk <$> required "action" asText fs <*> required "workflow_job" checkJob fs
    <*> optional "repository" checkRepository fs <*> optional "organization" checkOrganization fs

/-- Where the job of an event is found: it takes a repository with a name, and an owner with a
login. -/
def identity? (e : Event) : Option JobIdentity := do
  let repository ← e.repository
  let name ← repository.name
  let owner ← repository.owner
  let login ← owner.login
  if name.isEmpty || login.isEmpty then none else pure ⟨login, name, e.job.id⟩

end Event

end JobMeter
