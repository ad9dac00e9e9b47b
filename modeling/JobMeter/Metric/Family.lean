import JobMeter.Failure
import JobMeter.Job.Labels

/-!
# Metrics

What is measured of workflow jobs: for each `Metric` its kind, the name and the description of the
family it is exposed as, and the names of the labels that its series carry.
-/

namespace JobMeter

/-- What is measured. -/
inductive Metric where
  | jobsQueued
  | jobsStarted
  | jobsCompleted
  | jobConclusions
  | jobFailures
  | queueDuration
  | runDuration
  | inProgressDuration
  | eventsDropped
  deriving DecidableEq, Repr

namespace Metric

/-- Counters add up amounts, histograms sort values into buckets. -/
inductive Kind where
  | counter
  | histogram
  deriving DecidableEq, Repr

/-- All metrics, in the order in which they are exposed. -/
def all : List Metric :=
  [jobsQueued, jobsStarted, jobsCompleted, jobConclusions, jobFailures, queueDuration,
   runDuration, inProgressDuration, eventsDropped]

/-- The name of a metric. -/
def name : Metric → String
  | jobsQueued => "jobs_queued"
  | jobsStarted => "jobs_started"
  | jobsCompleted => "jobs_completed"
  | jobConclusions => "job_conclusions"
  | jobFailures => "job_failures"
  | queueDuration => "queue_duration"
  | runDuration => "run_duration"
  | inProgressDuration => "in_progress_duration"
  | eventsDropped => "events_dropped"

/-- The metric of a name. -/
def ofName? (n : Text) : Option Metric := all.find? fun m => text m.name == n

/-- The metric of a name; a name that no metric has is refused. -/
def named (n : Text) : Except Failure Metric :=
  match ofName? n with
  | some m => .ok m
  | none => .error ⟨.invalidValue, Text.quote n ++ text " is not a valid WorkflowJobMetric", none⟩

/-- How a metric is called in messages about it. -/
def tag (m : Metric) : Text :=
  text "<WorkflowJobMetric." ++ text (m.name.map Char.toUpper) ++ text ": '" ++ text m.name ++
    text "'>"

/-- The kind of a metric. -/
def kind : Metric → Kind
  | queueDuration | runDuration => .histogram
  | _ => .counter

/-- The name of the family, without what its samples add to it. -/
def family : Metric → String
  | jobsQueued => "github_workflow_jobs_queued"
  | jobsStarted => "github_workflow_jobs_started"
  | jobsCompleted => "github_workflow_jobs_completed"
  | jobConclusions => "github_workflow_job_conclusions"
  | jobFailures => "github_workflow_job_failures"
  | queueDuration => "github_workflow_job_queue_duration_seconds"
  | runDuration => "github_workflow_job_run_duration_seconds"
  | inProgressDuration => "github_workflow_job_in_progress_duration_seconds"
  | eventsDropped => "github_workflow_job_events_dropped"

/-- The description of the family. -/
def help : Metric → String
  | jobsQueued => "Total count of workflow jobs queued (events where job_status=queued)"
  | jobsStarted => "Total count of workflow jobs started (events where job_status=in_progress)"
  | jobsCompleted => "Total count of workflow jobs completed (events where job_status=completed)"
  | jobConclusions => "Total count of workflow job conclusions"
  | jobFailures => "Total count of failed workflow jobs by failed step and exit code"
  | queueDuration => "Queue times for workflow jobs in seconds"
  | runDuration => "Run times for workflow jobs in seconds"
  | inProgressDuration => "In progress time for workflow jobs in seconds"
  | eventsDropped =>
    "The number of workflow job events dropped because the event queue was full."

/-- The names of the labels of the series. -/
def labelNames : Metric → List Text
  | jobConclusions | runDuration => Labels.standard ++ [Labels.jobConclusion]
  | jobFailures => Labels.standard ++ [Labels.failedStep, Labels.exitCode]
  | eventsDropped => []
  | _ => Labels.standard

end Metric

end JobMeter
