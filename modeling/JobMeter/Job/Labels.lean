import JobMeter.Job.Event
import JobMeter.Text.Quoted

/-!
# Labels of a job

What is measured of a job carries its labels.  `Event.labels` gives every standard label, with an
empty value where the event is silent, and `Event.context` only what the event gives, for log
messages.  `render` writes labels on one line, with their values quoted.

The names of `Event.labels` are the standard ones, in their order (`map_fst_labels`).
-/

namespace JobMeter

/-- Names with values, each name once. -/
abbrev Labels := List (Text × Text)

namespace Labels

/-- The labels with a value put under a name. -/
def withLabel (labels : Labels) (name value : Text) : Labels := Tree.put name value labels

theorem withLabel_of_not_mem {labels : Labels} {name : Text} (h : name ∉ labels.map Prod.fst)
    (value : Text) : labels.withLabel name value = labels ++ [(name, value)] :=
  Tree.put_of_not_mem h value

/-- Labels on one line. -/
def render (labels : Labels) : Text :=
  Text.joinWith (text " ") (labels.map fun (name, value) => name ++ text "=" ++ Text.quote value)

def runsOn : Text := text "runs_on"
def jobName : Text := text "job_name"
def repository : Text := text "repository"
def repositoryFullName : Text := text "repository_full_name"
def owner : Text := text "owner"
def organization : Text := text "organization"
def workflowName : Text := text "workflow_name"
def headBranch : Text := text "head_branch"
def jobConclusion : Text := text "job_conclusion"
def failedStep : Text := text "failed_step"
def exitCode : Text := text "exit_code"
def jobId : Text := text "job_id"

/-- The labels that everything measured of a job carries. -/
def standard : List Text :=
  [runsOn, jobName, repository, repositoryFullName, owner, organization, workflowName, headBranch]

/-- The standard labels without values. -/
def blank : Labels := standard.map fun name => (name, [])

end Labels

namespace Event

/-- What an event gives of the labels that it may leave out, in the order in which it is told. -/
def given (e : Event) : Labels :=
  let entry := fun (name : Text) (value : Option Text) => (value.map fun v => (name, v)).toList
  let ofRepository := match e.repository with
    | none => []
    | some r =>
      entry Labels.repository r.name ++ entry Labels.repositoryFullName r.fullName ++
        entry Labels.owner (r.owner.bind (·.login))
  entry Labels.jobName e.job.name ++ ofRepository ++
    entry Labels.organization (e.organization.bind (·.name)) ++
    entry Labels.workflowName e.job.workflowName ++ entry Labels.headBranch e.job.headBranch

/-- The labels of the job of an event. -/
def labels (e : Event) : Labels :=
  (entries e).foldl (fun ls entry => ls.withLabel entry.1 entry.2) Labels.blank
where
  /-- What the event gives, the runner labels included. -/
  entries (e : Event) : Labels := (Labels.runsOn, Text.joinWith (text ",") e.job.labels) :: e.given

theorem fst_mem_standard_of_mem_given {e : Event} {p : Text × Text} (hp : p ∈ e.given) :
    p.1 ∈ Labels.standard := by
  have hentry : ∀ {name : Text} {value : Option Text},
      p ∈ (value.map fun v => (name, v)).toList → name ∈ Labels.standard →
        p.1 ∈ Labels.standard := by
    intro name value hp hname
    cases value with
    | none => simp at hp
    | some v =>
      simp only [Option.map_some, Option.toList_some, List.mem_singleton] at hp
      rw [hp]
      exact hname
  simp only [given, List.mem_append] at hp
  rcases hp with (((hp | hp) | hp) | hp) | hp
  · exact hentry hp (by decide)
  · split at hp
    · simp at hp
    · simp only [List.mem_append] at hp
      rcases hp with (hp | hp) | hp
      · exact hentry hp (by decide)
      · exact hentry hp (by decide)
      · exact hentry hp (by decide)
  · exact hentry hp (by decide)
  · exact hentry hp (by decide)
  · exact hentry hp (by decide)

/-- The labels of a job have the standard names. -/
theorem map_fst_labels (e : Event) : e.labels.map Prod.fst = Labels.standard := by
  have hfold : ∀ (entries ls : Labels), (∀ p ∈ entries, p.1 ∈ ls.map Prod.fst) →
      (entries.foldl (fun ls p => ls.withLabel p.1 p.2) ls).map Prod.fst = ls.map Prod.fst := by
    intro entries
    induction entries with
    | nil => exact fun _ _ => rfl
    | cons p entries ih =>
      intro ls hls
      have hnames : (ls.withLabel p.1 p.2).map Prod.fst = ls.map Prod.fst := by
        rw [Labels.withLabel, Tree.map_fst_put, if_pos (hls p List.mem_cons_self)]
      rw [List.foldl_cons, ih, hnames]
      rw [hnames]
      exact fun q hq => hls q (List.mem_cons_of_mem p hq)
  have hblank : Labels.blank.map Prod.fst = Labels.standard := by
    rw [Labels.blank, List.map_map]
    exact List.map_id _
  rw [labels, hfold, hblank]
  rw [hblank]
  intro p hp
  rcases List.mem_cons.1 hp with rfl | hp
  · exact List.mem_cons_self
  · exact fst_mem_standard_of_mem_given hp

/-- What log messages tell about an event: the id of the job, then what the event gives. -/
def logFields (e : Event) : Labels := (Labels.jobId, text (toString e.job.id)) :: e.given

/-- The log fields on one line. -/
def context (e : Event) : Text := Labels.render e.logFields

end Event

end JobMeter
