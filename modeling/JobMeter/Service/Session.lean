import JobMeter.Service.Threads
import JobMeter.Service.Web

/-!
# A session of the service

A session lasts from the start of the service to its end.  Two threads run in it: the server, which
answers requests, and the event loop, which processes what the requests put on the queue.  Here they
take turns: after each answer the loop processes all that is there.

The session ends when a stop is requested, when the process gets a signal to end, or when the server
fails.  In every case the event loop is stopped in the end.
-/

namespace JobMeter.Service

/-- The signals that end the process in good order. -/
inductive Signal where
  | terminate
  | interrupt
  deriving DecidableEq, Repr

/-- What a signal is called. -/
def Signal.name : Signal → String
  | terminate => "Terminated"
  | interrupt => "Interrupt"

/-- How the server ends. -/
inductive ServerEnd where
  /-- A stop is requested. -/
  | stop
  /-- The process gets a signal. -/
  | signal (s : Signal)
  | failure (f : Failure)

namespace ServerEnd

/-- What the server leaves to the group of threads. -/
def ending : ServerEnd → Ending
  | failure f => { failure := some f }
  | _ => { stops := true }

/-- The notices about the end. -/
def notices : ServerEnd → List Notice
  | stop => []
  | signal s => [.signalled s.name]
  | failure f => Group.notices [{ failure := some f }]

end ServerEnd

variable {ω : Type}

/-- Answers a request, and lets the event loop process what is on the queue. -/
def serve (h : Host ω) (env : Environment Float ω) (r : WebRequest) : Act Float ω WebAnswer := do
  let a ← answer h env r
  discard (Reader.processAll env)
  return a

/-- Answers requests; a request that fails gives a failure in place of an answer. -/
def serveAll (h : Host ω) (env : Environment Float ω) :
    List WebRequest → Act Float ω (List (Except Failure WebAnswer))
  | [] => return []
  | r :: rest => do
    let a ← tryCatch (Except.ok <$> serve h env r) fun f => return .error f
    return a :: (← serveAll h env rest)

/-- A session; gives the answers, and how it ends. -/
def session (h : Host ω) (env : Environment Float ω) (requests : List WebRequest)
    (serverEnd : ServerEnd) :
    Act Float ω (List (Except Failure WebAnswer) × Except Failure Unit) := do
  Reader.note env .loopStarted
  let answers ← serveAll h env requests
  serverEnd.notices.forM (Reader.note env)
  let (result, _) := Group.wait (Group.finish {} serverEnd.ending) 0
  Reader.stop env
  Reader.note env .loopStopped
  return (answers, result)

end JobMeter.Service
