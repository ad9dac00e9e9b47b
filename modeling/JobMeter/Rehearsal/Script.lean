import JobMeter.Http.Message

/-!
# Scripted replies

In a rehearsal nothing is sent, and replies come from a script, one for each request; the last one
is the reply to all further requests.

The body of a scripted reply is cut into the amounts that are asked for.  From a place on a stop is
requested when bytes are pulled, or the pull fails.
-/

namespace JobMeter.Rehearsal

open Http

/-- A scripted reply. -/
structure ScriptedReply where
  status : Int
  reason : Text
  headers : List (Text × Text)
  body : List UInt8
  /-- From this place on a pull requests a stop. -/
  stopAt : Option Nat
  /-- From this place on a pull fails. -/
  failAt : Option (Nat × RequestKind)

/-- What comes of a request. -/
inductive Outcome where
  | fails (f : Failure)
  | reply (r : ScriptedReply)

namespace ScriptedReply

variable {ω : Type}

/-- The pull at a place. -/
def pull (r : ScriptedReply) (requestStop : ω → ω) (place : Nat) (b : List UInt8) : Pull ω where
  meanwhile := if r.stopAt.any (· ≤ place) then requestStop else id
  result := match r.failAt with
    | some (failAt, k) => if failAt ≤ place then .error k else .ok b
    | none => .ok b

/-- The pulls of a body from a place on, of an amount each; the last one gives nothing. -/
def pulls (r : ScriptedReply) (requestStop : ω → ω) (amount place : Nat) :
    Nat → List UInt8 → List (Pull ω)
  | 0, _ => []
  | fuel + 1, b =>
    let first := b.take amount
    r.pull requestStop place first ::
      if first.isEmpty then []
      else pulls r requestStop amount (place + first.length) fuel (b.drop amount)

/-- The reply as it comes. -/
def toReply (r : ScriptedReply) (requestStop : ω → ω) : Reply ω where
  status := r.status
  reason := r.reason
  headers := r.headers
  body amount := r.pulls requestStop amount 0 (r.body.length + 1) r.body

end ScriptedReply

/-- The next outcome of a script, and the script for later requests. -/
def nextOutcome : List Outcome → Option Outcome × List Outcome
  | [] => (none, [])
  | [o] => (some o, [o])
  | o :: rest => (some o, rest)

end JobMeter.Rehearsal
