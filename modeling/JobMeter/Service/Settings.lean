import JobMeter.Platform.Client
import JobMeter.Yaml.Value

/-!
# Settings

What the operator sets: how often time is accrued, how many events may wait, and how the platform
is reached.  `Settings.read` takes them from a YAML text; whatever it leaves out has a default.
-/

namespace JobMeter.Service

open Schema Platform

/-- How the platform is reached. -/
structure PlatformSettings where
  token : Text
  apiUrl : Text
  timeout : Http.Timeout

/-- What the operator sets. -/
structure Settings where
  /-- The name of this instance. -/
  name : Text
  /-- Without it logs cannot be had. -/
  platform : Option PlatformSettings
  /-- Seconds between two accruals. -/
  accrualInterval : Float
  /-- How many events may wait; any number, if it is zero. -/
  queueSize : Int

namespace PlatformSettings

variable {ε : Type} [ByteScalar ε]

/-- How the platform is reached, in a document. -/
def check : Check ε PlatformSettings := asRecord fun fs =>
  PlatformSettings.mk <$> required "token" asText fs
    <*> withDefault "api_url" Client.usualUrl asText fs
    <*> withDefault "timeout" Client.usualTimeout
      (fun v => Http.Timeout.seconds <$> above 0 asFloat v) fs

/-- The client that reaches it. -/
def client (p : PlatformSettings) : Client := Client.ofToken p.token p.apiUrl p.timeout

end PlatformSettings

namespace Settings

/-- The seconds between two accruals, unless it is said. -/
def defaultInterval : Float := 5

variable {ε : Type} [ByteScalar ε]

/-- Settings in a document. -/
def check : Check ε Settings := asRecord fun fs =>
  Settings.mk <$> withDefault "name" (text "github-actions-metrics") asText fs
    <*> optional "github_config" PlatformSettings.check fs
    <*> withDefault "accrual_interval" defaultInterval (above 0 asFloat) fs
    <*> withDefault "event_queue_size" 0 (atLeast 0 asInt) fs

/-- Is it a value that stands for nothing: null, false, zero, or something empty? -/
def isNothing : Yaml.Value → Bool
  | .null => true
  | .bool b => !b
  | .int n => n == 0
  | .float x => x == 0
  | .text t => t.isEmpty
  | .seq items => items.isEmpty
  | .map entries => entries.isEmpty
  | .leaf (.bytes bs) => bs.isEmpty
  | .leaf (.set isEmpty) => isEmpty
  | .leaf _ => false

/-- The settings of a text.  A text that holds nothing sets nothing. -/
def read (t : Text) : Except Failure Settings := do
  let v ← Yaml.Value.parse t
  match check (if isNothing v then .map [] else v) with
  | .ok s => pure s
  | .error faults => throw ⟨.invalidDocument faults, [], none⟩

end Settings

end JobMeter.Service
