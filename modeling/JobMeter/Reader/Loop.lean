import JobMeter.Reader.Accrual
import JobMeter.Reader.Dispatch

/-!
# The event loop

`Reader.run` takes one slot after the other off the queue and processes it, and accrues whenever
an interval has passed.  It waits for a slot no longer than until the next accrual is due.  How to
wait is for the caller to say: a `Wait` gets the longest time to wait, and gives the slot it took
off the queue, if any.

The loop ends when it finds that it was asked to stop, or takes the marker.  `fuel` bounds the
number of its rounds.
-/

namespace JobMeter

/-- How to wait for a slot. -/
abbrev Wait (τ ω : Type) : Type := τ → Act τ ω (Option Slot)

namespace Reader

variable {τ ω : Type} [Quantity τ]

/-- Takes the first slot off the queue, if there is one. -/
def take : Act τ ω (Option Slot) := do
  let r ← get
  match r.queue.take? with
  | some (s, q) =>
    set { r with queue := q }
    return some s
  | none => return none

/-- Processes what was taken off the queue. -/
def process (env : Environment τ ω) : Option Item → Act τ ω Unit
  | some i => if i.isNull then return () else dispatchSafely env i
  | none => return ()

/-- Accrues if it is due; gives when the next accrual is due. -/
def accrueIfDue (env : Environment τ ω) (due : τ) : Act τ ω τ := do
  if Quantity.le due (← now env) then
    accrueSafely env
    return Quantity.add (← now env) env.interval
  else return due

/-- How long to wait for a slot. -/
def timeout (due now : τ) : τ := Quantity.positivePart (Quantity.sub due now)

/-- The first part of a round: waits for a slot and processes it.  Gives whether the loop goes
on. -/
def turn (env : Environment τ ω) (wait : Wait τ ω) (due : τ) : Act τ ω Bool := do
  if ← stopped env then return false
  match ← wait (timeout due (← now env)) with
  | some .stop => return false
  | some (.item i) =>
    process env (some i)
    return true
  | none =>
    process env none
    return true

/-- A round of the loop.  Gives when the next accrual is due, unless the loop is at its end. -/
def round (env : Environment τ ω) (wait : Wait τ ω) (due : τ) : Act τ ω (Option τ) := do
  if ← turn env wait due then some <$> accrueIfDue env due else return none

/-- The rounds of the loop.  Gives whether the loop came to its end. -/
def rounds (env : Environment τ ω) (wait : Wait τ ω) : Nat → τ → Act τ ω Bool
  | 0, _ => return false
  | fuel + 1, due => do
    match ← round env wait due with
    | some due => rounds env wait fuel due
    | none => return true

/-- The loop. -/
def run (env : Environment τ ω) (wait : Wait τ ω) (fuel : Nat) : Act τ ω Bool := do
  note env .loopStarted
  let finished ← rounds env wait fuel (Quantity.add (← now env) env.interval)
  if finished then note env .loopStopped
  return finished

/-- Processes slots until the queue is empty; gives their number, counted from `n`. -/
def drain (env : Environment τ ω) : Nat → Nat → Act τ ω Nat
  | 0, n => return n
  | fuel + 1, n => do
    match ← take with
    | none => return n
    | some .stop => drain env fuel (n + 1)
    | some (.item i) => do
      dispatchSafely env i
      drain env fuel (n + 1)

/-- Processes all that is on the queue; gives the number of slots. -/
def processAll (env : Environment τ ω) : Act τ ω Nat := do drain env (← get).queue.size 0

end Reader

end JobMeter
