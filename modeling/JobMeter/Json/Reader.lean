import JobMeter.Json.Token

/-!
# Reading JSON texts

`Json.parse?` reads a document.  It takes in one token after the other with a stack of the
sequences and maps that are still open, so it needs one step for each token, and how deep a
document may be nested is the length that the stack may have.
-/

namespace JobMeter.Json

/-- A sequence or a map that is still open, with what it holds so far in reverse. -/
inductive Frame where
  | seq (items : List Json)
  | map (entries : List (Text × Json))
  /-- A map in which the value of a key comes next. -/
  | entry (key : Text) (entries : List (Text × Json))

/-- What may come next. -/
inductive Expected where
  | value
  /-- A value, or the end of the sequence that was just opened. -/
  | firstItem
  /-- A key, or the end of the map that was just opened. -/
  | firstKey
  | key
  | colon
  /-- A comma, or the end of the innermost sequence or map. -/
  | next
  deriving DecidableEq

/-- Why a text is no document. -/
inductive Refusal where
  | malformed
  /-- Sequences and maps lie too deep in each other. -/
  | tooDeep
  deriving DecidableEq, Repr

/-- How far a document has been read. -/
structure State where
  stack : List Frame := []
  expected : Expected := .value
  /-- The document, once it is complete. -/
  result : Option Json := none

namespace State

/-- Takes in a complete value. -/
def deliver (v : Json) (stack : List Frame) : Option State :=
  match stack with
  | [] => some ⟨[], .next, some v⟩
  | .seq items :: rest => some ⟨.seq (v :: items) :: rest, .next, none⟩
  | .entry key entries :: rest => some ⟨.map ((key, v) :: entries) :: rest, .next, none⟩
  | .map _ :: _ => none

/-- Takes in a token. -/
def step (s : State) (t : Token) : Option State :=
  if s.result.isSome then none
  else
    match t, s.expected, s.stack with
    | .openSeq, .value, stack | .openSeq, .firstItem, stack =>
      some ⟨.seq [] :: stack, .firstItem, none⟩
    | .openMap, .value, stack | .openMap, .firstItem, stack =>
      some ⟨.map [] :: stack, .firstKey, none⟩
    | .scalar v, .value, stack | .scalar v, .firstItem, stack => deliver v stack
    | .text x, .value, stack | .text x, .firstItem, stack => deliver (.text x) stack
    | .closeSeq, .firstItem, .seq _ :: rest => deliver (.seq []) rest
    | .closeSeq, .next, .seq items :: rest => deliver (.seq items.reverse) rest
    | .closeMap, .firstKey, .map _ :: rest => deliver (.map []) rest
    | .closeMap, .next, .map entries :: rest => deliver (.map (Tree.distinct entries.reverse)) rest
    | .text k, .firstKey, .map entries :: rest | .text k, .key, .map entries :: rest =>
      some ⟨.entry k entries :: rest, .colon, none⟩
    | .colon, .colon, stack => some ⟨stack, .value, none⟩
    | .comma, .next, .seq items :: rest => some ⟨.seq items :: rest, .value, none⟩
    | .comma, .next, .map entries :: rest => some ⟨.map entries :: rest, .key, none⟩
    | _, _, _ => none

end State

/-- Takes in the tokens of a document, in which `limit` sequences and maps may be open at a
time. -/
def readTokens (limit : Nat) (s : State) : List Token → Except Refusal Json
  | [] => match s.result with
    | some v => .ok v
    | none => .error .malformed
  | t :: rest =>
    match s.step t with
    | none => .error .malformed
    | some s' => if s'.stack.length > limit then .error .tooDeep else readTokens limit s' rest

/-- The document of a text. -/
def read (limit : Nat) (t : Text) : Except Refusal Json :=
  match Token.scan? t with
  | none => .error .malformed
  | some tokens => readTokens limit {} tokens

/-- The document of a text, however deep it is nested. -/
def parse? (t : Text) : Option Json := (read t.length t).toOption

end JobMeter.Json
