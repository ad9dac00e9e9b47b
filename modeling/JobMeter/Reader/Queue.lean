import JobMeter.Failure
import JobMeter.Job.Event

/-!
# The event queue

What is to be processed waits in a queue, which may have a limit.  Beside items it takes a marker
that ends the processing.

Anything can be put on the queue.  Nothing is known of an object that is neither an event nor a
document, and even the question for its type may fail: a reference to something that is gone
answers no question at all.  So what the question comes to is a part of the `Stranger`.
-/

namespace JobMeter

/-- An event in a few words. -/
def Event.description (e : Event) : Text :=
  e.action ++ text " job_id=" ++ text (toString e.job.id)

/-- An object that is neither an event nor a document. -/
structure Stranger where
  /-- What the question for its type comes to where the object is processed. -/
  typeName : Except Failure String
  /-- What it comes to where the object is described. -/
  description : Except Failure Text

/-- What can be put on the queue: events, documents that are none, and any other objects. -/
inductive Item where
  | event (e : Event)
  | other (v : Json)
  | object (o : Stranger)

namespace Item

/-- The type of a document, as messages name it. -/
def typeName : Json → String
  | .null => "NoneType"
  | .bool _ => "bool"
  | .int _ => "int"
  | .float _ => "float"
  | .text _ => "str"
  | .seq _ => "list"
  | .map _ => "dict"

/-- An item in a few words, if it can be described. -/
def describe : Item → Except Failure Text
  | event e => .ok e.description
  | other v => .ok (text (typeName v))
  | object o => o.description

/-- Null is passed over where items are taken. -/
def isNull : Item → Bool
  | other .null => true
  | _ => false

end Item

/-- A place on the queue. -/
inductive Slot where
  | item (i : Item)
  /-- The end of the processing. -/
  | stop

/-- A queue, with at most `limit` places unless that is zero. -/
structure EventQueue where
  limit : Nat
  slots : List Slot := []

namespace EventQueue

/-- The number of places that are taken. -/
def size (q : EventQueue) : Nat := q.slots.length

/-- Is there no place left? -/
def isFull (q : EventQueue) : Bool := 0 < q.limit && q.limit ≤ q.size

/-- The queue with a slot at its end, if there is a place. -/
def put? (q : EventQueue) (s : Slot) : Option EventQueue :=
  if q.isFull then none else some { q with slots := q.slots ++ [s] }

/-- The first slot, and the queue without it. -/
def take? (q : EventQueue) : Option (Slot × EventQueue) :=
  match q.slots with
  | [] => none
  | s :: rest => some (s, { q with slots := rest })

end EventQueue

end JobMeter
