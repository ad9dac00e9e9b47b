import JobMeter.Job.Registry
import JobMeter.Log.Summary
import JobMeter.Metric.Family
import JobMeter.Notice
import JobMeter.Number.Quantity
import JobMeter.Reader.Queue

/-!
# The event reader

The reader turns events into measurements.  It has a queue and a registry of its own; the rest is
its `Environment`: a clock, where measurements go, where job logs come from, and a flag that asks
it to stop.  The environment acts on a world `ω`, of which the reader knows nothing.

An `Act` is what the reader does: it changes reader and world, and it may fail.  What was done
before a failure stays done.
-/

namespace JobMeter

/-- What the reader is connected to. -/
structure Environment (τ ω : Type) where
  /-- The time between two accruals. -/
  interval : τ
  /-- What the clock shows. -/
  now : ω → τ
  /-- How the world moves on while somebody looks at the clock. -/
  tick : ω → ω := id
  increase : Metric → Labels → τ → EStateM Failure ω Unit
  observe : Metric → Labels → τ → EStateM Failure ω Unit
  /-- Reads the log of a job, if logs can be had. -/
  fetch? : Option (JobIdentity → EStateM Failure ω Log.Summary)
  note : Notice → ω → ω
  stopped : ω → Bool
  requestStop : ω → ω

/-- A reader in its world. -/
structure Reader (τ ω : Type) where
  registry : Registry τ := {}
  queue : EventQueue
  world : ω

/-- What a reader does. -/
abbrev Act (τ ω α : Type) : Type := EStateM Failure (Reader τ ω) α

namespace Reader

variable {τ ω α : Type}

/-- Something that happens in the world alone. -/
def onWorld (e : EStateM Failure ω α) : Act τ ω α := fun r =>
  match e r.world with
  | .ok a w => .ok a { r with world := w }
  | .error f w => .error f { r with world := w }

/-- Makes a note. -/
def note (env : Environment τ ω) (n : Notice) : Act τ ω Unit :=
  onWorld (modify (env.note n))

/-- The time. -/
def now (env : Environment τ ω) : Act τ ω τ := do
  onWorld (modify env.tick)
  return env.now (← get).world

/-- Was the reader asked to stop? -/
def stopped (env : Environment τ ω) : Act τ ω Bool := do return env.stopped (← get).world

/-- Runs an action; a failure of it is handled, unless it demands the end of the process. -/
def guarded (handle : Failure → Act τ ω Unit) (act : Act τ ω Unit) : Act τ ω Unit :=
  tryCatch act fun f => if f.isOrdinary then handle f else throw f

variable [Quantity τ]

/-- Puts an item on the queue.  On a full queue it is dropped, and that is noted and counted, if the
item can be described. -/
def submit (env : Environment τ ω) (i : Item) : Act τ ω Bool := do
  let r ← get
  match r.queue.put? (.item i) with
  | some q =>
    set { r with queue := q }
    return true
  | none =>
    match i.describe with
    | .ok description =>
      note env (.queueFull description)
      onWorld (env.increase .eventsDropped [] Quantity.one)
      return false
    | .error f => throw f

/-- Asks the reader to stop, and wakes it up if the queue has a place. -/
def stop (env : Environment τ ω) : Act τ ω Unit := do
  onWorld (modify env.requestStop)
  let r ← get
  match r.queue.put? .stop with
  | some q => set { r with queue := q }
  | none => return ()

end Reader

end JobMeter
