import JobMeter.Main
import JobMeter.Rehearsal.Files
import JobMeter.Rehearsal.Host
import JobMeter.Proofs.Dispatch.Counting
import JobMeter.Proofs.Dispatch.Attribution
import JobMeter.Proofs.Dispatch.Lifecycle
import JobMeter.Proofs.Log.Reading
import JobMeter.Proofs.Loop.Account
import JobMeter.Proofs.Loop.Charging
import JobMeter.Proofs.Loop.Stopping
import JobMeter.Proofs.Loop.Schedule
import JobMeter.Proofs.Loop.Surviving
import JobMeter.Proofs.Platform.Downloading
import JobMeter.Proofs.Platform.Fetching
import JobMeter.Proofs.Queue.Traffic
import JobMeter.Proofs.Service.Waiting
import JobMeter.Proofs.TwoRuns
import JobMeter.Proofs.Platform.Alike
import JobMeter.Proofs.Platform.Watching
import JobMeter.Proofs.Platform.Credentials
import JobMeter.Proofs.Http.Escaping
import JobMeter.Proofs.Http.Targets
import JobMeter.Proofs.Platform.Locating
import JobMeter.Job.Document
import JobMeter.Proofs.Job.RoundTrip
import JobMeter.Proofs.Job.Declared
import JobMeter.Proofs.Service.Webhook
import JobMeter.Job.Shared
import JobMeter.Proofs.Registry.Sharing
import JobMeter.Proofs.Registry.Refinement
import JobMeter.Proofs.Text.Padded
import JobMeter.Proofs.Log.Calendar
import JobMeter.Proofs.Log.Chronology
import JobMeter.Proofs.Log.Lasts
import JobMeter.Proofs.Log.ExitCodes
import JobMeter.Proofs.Log.Durations
import JobMeter.Proofs.Metric.Accounting
import JobMeter.Proofs.Number.Infinity
import JobMeter.Proofs.Service.Configured
import JobMeter.Proofs.Job.Context
import JobMeter.Proofs.Registry.Listing
import JobMeter.Proofs.Log.Releasing
import JobMeter.Proofs.Log.Pieces
import JobMeter.Proofs.Log.Grammar
import JobMeter.Proofs.Rehearsal.Ending
