import JobMeter.Http.Exchange
import JobMeter.Http.Lines
import JobMeter.Platform.Refusal

/-!
# The client of the platform

The platform tells where the log of a job is by a redirection, which is not followed: the location
is all that is wanted (`Client.locate`).  The log is then retrieved from there (`Client.retrieve`).
The location needs no credentials, so the token goes nowhere but to the platform itself.

A failed request is reported as a `refusal` of the platform.  `Client.logs` is where a reader gets
logs from.
-/

namespace JobMeter.Platform

open Http

/-- How the platform is reached. -/
structure Client where
  token : Text
  /-- Where the interface of the platform is, without a slash at its end. -/
  baseUrl : Text
  timeout : Timeout

namespace Client

variable {ω : Type}

/-- The usual place of the interface. -/
def usualUrl : Text := text "https://api.github.com"

/-- The usual time that a request may take. -/
def usualTimeout : Timeout := .whole 60

/-- The version of the interface. -/
def version : Text := text "2022-11-28"

/-- A client with a token. -/
def ofToken (token url : Text) (timeout : Timeout) : Client :=
  ⟨token, Text.stripRight (CodePoint.is '/') url, timeout⟩

/-- Reports failed requests as refusals of the platform. -/
def refusing {α : Type} (act : EStateM Failure ω α) : EStateM Failure ω α := fun w =>
  match act w with
  | .ok a w' => .ok a w'
  | .error f w' => .error (refusal f) w'

/-! ## Where a log is -/

/-- The URL under which the platform tells where the log of a job is. -/
def logUrl (c : Client) (job : JobIdentity) : Text :=
  c.baseUrl ++ text "/repos/" ++ job.owner ++ text "/" ++ job.repository ++ text "/actions/jobs/" ++
    text (toString job.job) ++ text "/logs"

/-- The request to tell where the log of a job is. -/
def locateRequest (c : Client) (job : JobIdentity) : Request where
  url := c.logUrl job
  accept := text "application/vnd.github+json"
  authorization := text "Bearer " ++ c.token
  version := version
  streamed := false
  timeout := c.timeout

/-- A reply that does not tell where a log is. -/
def noLocation (job : JobIdentity) (status : Int) : Failure :=
  ⟨.platform .api,
    text "No log location for job " ++ text (toString job.job) ++ text " in " ++ job.owner ++
      text "/" ++ job.repository ++ text ", status code " ++ text (toString status), none⟩

/-- Reads the body of a reply to its end. -/
def settle (e : Exchange ω) : EStateM Failure ω Unit := do
  match ← e.reply.consume with
  | none => pure ()
  | some k => throw (Failure.ofRequest k)

/-- The reply to a request whose redirection is not followed.  What it redirects to has to be a
URL nevertheless. -/
def ask (transport : Transport ω) (r : Request) : EStateM Failure ω (Exchange ω) := do
  let e ← send transport (← lifted (prepare r))
  let fragment := (← lifted (Reference.read e.request.url)).fragment
  match ← e.next? fragment with
  | some _ => pure ()
  | none => settle e
  lifted e.check
  return e

/-- Asks where the log of a job is. -/
def locate (c : Client) (transport : Transport ω) (job : JobIdentity) : EStateM Failure ω Text :=
  refusing do
    let e ← ask transport (c.locateRequest job)
    match e.reply.header? "location" with
    | none | some [] => throw (noLocation job e.reply.status)
    | some location => return location

/-! ## Retrieving a log -/

/-- The request for a log. -/
def retrieveRequest (c : Client) (url : Text) : Request where
  url := url
  accept := text "*/*"
  authorization := none
  version := none
  streamed := true
  timeout := c.timeout

/-- Opens a log. -/
def retrieve (c : Client) (transport : Transport ω) (url : Text) : EStateM Failure ω (Exchange ω) :=
  refusing do
    let e ← sendFollowing transport (← lifted (prepare (c.retrieveRequest url)))
    match e.check with
    | .ok () => return e
    | .error f =>
      modify transport.release
      throw f

/-- The logs of the platform.  `stopped` tells whether their reader is asked to stop. -/
def logs (c : Client) (transport : Transport ω) (stopped : ω → Bool) : LogSource ω where
  locate := c.locate transport
  retrieve url := do
    let e ← c.retrieve transport url
    return ⟨e.reply.charset?, e.reply.lines⟩
  release := transport.release
  stopped := stopped

end Client

end JobMeter.Platform
