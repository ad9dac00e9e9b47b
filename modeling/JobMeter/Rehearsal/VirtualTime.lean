import JobMeter.Reader.Loop
import JobMeter.Rehearsal.Stage

/-!
# Virtual time

In virtual time nobody waits: the clock of the stage jumps to the next thing that happens.  A wait
gives a slot that is on the queue at once.  Otherwise the next arrival is taken if it comes in time,
and if it does not the clock moves on by the longest time to wait.  When no arrival is left the
reader is asked to stop.
-/

namespace JobMeter.Rehearsal

variable {τ : Type} [Quantity τ]

/-- Puts the items of an arrival on the queue, and requests a stop if it says so. -/
def deliver (env : Environment τ (Stage τ)) (a : Arrival τ) : Act τ (Stage τ) Unit := do
  a.items.forM fun i => discard (Reader.submit env i)
  if a.stop then Reader.stop env

/-- Something that happens on the stage. -/
def onStage (f : Stage τ → Stage τ) : Act τ (Stage τ) Unit := Reader.onWorld (modify f)

/-- What happens while the reader waits with an empty queue. -/
def pass (env : Environment τ (Stage τ)) (timeout : τ) : Act τ (Stage τ) Unit := do
  match (← get).world.arrivals with
  | [] => Reader.stop env
  | a :: rest =>
    if Quantity.le a.after timeout then
      onStage fun s => { s.advance a.after with arrivals := rest }
      deliver env a
    else
      onStage fun s => { s.advance timeout with
        arrivals := { a with after := Quantity.sub a.after timeout } :: rest }

/-- Waits for a slot in virtual time. -/
def wait (env : Environment τ (Stage τ)) : Wait τ (Stage τ) := fun timeout => do
  match ← Reader.take with
  | some s => return some s
  | none =>
    pass env timeout
    Reader.take

end JobMeter.Rehearsal
