import JobMeter.Notice

/-!
# Threads of the service

The parts of the service run as a group of threads that is watched by one that waits: until a stop
is requested, or until a thread failed.

* `Group.finish` takes in how a thread ended;
* `Group.look` and `Group.poll` are what the one who waits does in turns: it looks whether a stop
  was requested, and it polls for the first failure that nobody has been told of yet;
* `Group.step` is what comes of anything that happens to a group, in whatever order things happen;
* `Group.wait` is a wait in which nothing happens but a request to stop.
-/

namespace JobMeter.Service

/-- What a thread does before it ends, and how it ends. -/
structure Ending where
  /-- It requests a stop. -/
  stops : Bool := false
  failure : Option Failure := none
  deriving DecidableEq

/-- What the one who watches a group of threads is about to do. -/
inductive Watch where
  /-- Something else: it does not wait. -/
  | away
  /-- It looks whether a stop was requested. -/
  | looking
  /-- It ends a poll for a failure, which finds one or not. -/
  | polling
  deriving DecidableEq, Repr

/-- A group of threads with the one who watches them. -/
structure Group where
  /-- A stop was requested. -/
  stopped : Bool := false
  /-- The failures that no wait has given yet, oldest first. -/
  failures : List Failure := []
  watch : Watch := .away
  /-- How the waits ended, oldest first: with a failure or without one. -/
  waits : List (Option Failure) := []
  /-- How often a wait looked for a failure and found none. -/
  polls : Nat := 0
  deriving DecidableEq

/-- Something that happens to a group of threads. -/
inductive Happening where
  /-- A stop is requested, from outside or by a thread that goes on. -/
  | stop
  | ended (e : Ending)
  /-- A wait begins. -/
  | wait
  /-- The one who waits does what it is about to do. -/
  | turn
  deriving DecidableEq

namespace Group

/-! ## Threads that end -/

/-- The failure of a thread that is kept for the one that waits. -/
def reported (e : Ending) : Option Failure := e.failure.filter Failure.isOrdinary

/-- Takes in the end of a thread. -/
def finish (g : Group) (e : Ending) : Group :=
  { g with stopped := g.stopped || e.stops, failures := g.failures ++ (reported e).toList }

/-- Takes in the ends of threads that run one after the other. -/
def finishAll (g : Group) (es : List Ending) : Group := es.foldl finish g

/-- What the end of a thread is worth a notice for. -/
def notices (es : List Ending) : List Notice :=
  es.filterMap fun e => (reported e).map Notice.threadFailed

/-! ## The one who waits -/

/-- A wait begins, unless one lasts. -/
def beginWait (g : Group) : Group :=
  match g.watch with
  | .away => { g with watch := .looking }
  | .looking | .polling => g

/-- The wait ends if a stop was requested. -/
def look (g : Group) : Group :=
  if g.stopped then { g with watch := .away, waits := g.waits ++ [none] }
  else { g with watch := .polling }

/-- The wait ends with the oldest failure, if there is one; then a stop is requested. -/
def poll (g : Group) : Group :=
  match g.failures with
  | f :: rest =>
    { g with stopped := true, failures := rest, watch := .away, waits := g.waits ++ [some f] }
  | [] => { g with watch := .looking, polls := g.polls + 1 }

/-- The one who waits does what it is about to do. -/
def turn (g : Group) : Group :=
  match g.watch with
  | .away => g
  | .looking => g.look
  | .polling => g.poll

/-! ## What happens to a group -/

/-- The group after something happened. -/
def step (g : Group) : Happening → Group
  | .stop => { g with stopped := true }
  | .ended e => g.finish e
  | .wait => g.beginWait
  | .turn => g.turn

/-- The group after one thing happened after the other. -/
def run (g : Group) (history : List Happening) : Group := history.foldl step g

/-- Nothing happens, until someone outside requests a stop in poll number `untilStop`. -/
def quiet (untilStop : Nat) : List Happening :=
  (List.replicate (untilStop - 1) [.turn, .turn]).flatten ++ [.turn, .stop, .turn, .turn]

/-- Waits for a stop or a failure.  Someone outside requests a stop at poll number `untilStop`
from now. -/
def wait (g : Group) (untilStop : Nat) : Except Failure Unit × Group :=
  let g := g.run (.wait :: quiet untilStop)
  match g.waits.getLast? with
  | some (some f) => (.error f, g)
  | some none | none => (.ok (), g)

end Group

end JobMeter.Service
