import JobMeter.Yaml.Tag
import JobMeter.Yaml.Token

/-!
# Nodes of YAML documents

The tokens of a text make up one document: a tree of nodes, each with the tag that it is given or
that its written form gives it.  An alias stands for the node with its anchor; inside that very
node it is a `cycle`.

The functions that read nodes go through the tokens with a `Rest`: the tokens that are left, and
the anchors so far.
-/

namespace JobMeter.Yaml

/-- A node. -/
inductive Node where
  | scalar (tag : Tag) (t : Text)
  | seq (tag : Tag) (items : List Node)
  | map (tag : Tag) (entries : List (Node × Node))
  /-- A node around this one. -/
  | cycle

namespace Node

instance : Inhabited Node := ⟨.cycle⟩

/-- The tag of a node. -/
def tag : Node → Tag
  | scalar t _ => t
  | seq t _ => t
  | map t _ => t
  | cycle => .unknown

/-- A node that is written with nothing. -/
def empty : Node := .scalar .null []

/-- What is left to be read of a document. -/
structure Rest where
  tokens : List Token
  /-- The nodes with anchors; those that are not complete have none yet. -/
  anchors : List (List Char × Option Node) := []
  /-- What the handles of tags stand for. -/
  handles : List (Text × Text) := []

/-- Reads from the rest of a document. -/
abbrev Read (α : Type) : Type := StateT Rest (Except Failure) α

/-- A text that is no document. -/
def refuse {α : Type} : Read α := throw ⟨.malformedDocument, [], none⟩

/-- The next token. -/
def peek : Read (Option Token) := do return (← get).tokens.head?

/-- Passes over the next token. -/
def advance : Read Unit := modify fun r => { r with tokens := r.tokens.tail }

/-- Does a class of tokens, or the end, come next? -/
def at_ (p : Option Token → Bool) : Read Bool := do return p (← peek)

/-! ## Properties -/

/-- What may stand before a node. -/
structure Properties where
  anchor : Option (List Char) := none
  tag : Option (Option Text × Text) := none

/-- An anchor, if there is one. -/
def readAnchor (p : Properties) : Read Properties := do
  match ← peek with
  | some (.anchor n) => advance; pure { p with anchor := some n }
  | _ => pure p

/-- A tag, if there is one. -/
def readTag (p : Properties) : Read Properties := do
  match ← peek with
  | some (.tag h s) => advance; pure { p with tag := some (h, s) }
  | _ => pure p

/-- An anchor and a tag in either order. -/
def readProperties : Read Properties := do
  let p ← readAnchor {}
  let p ← readTag p
  if p.anchor.isNone then readAnchor p else pure p

/-- The full name of a tag; the tag that asks for none has the name `!`. -/
def tagName? (p : Properties) : Read (Option Text) := do
  match p.tag with
  | none => pure none
  | some (none, suffix) => pure (some suffix)
  | some (some handle, suffix) =>
    match (← get).handles.find? fun e => e.1 == handle with
    | some (_, start) => pure (some (start ++ suffix))
    | none => refuse

/-- The name of the tag that asks for none. -/
def noTag : Text := text "!"

/-- The tag of a sequence or a mapping. -/
def collectionTag (name : Option Text) (default : Tag) : Tag :=
  match name with
  | none => default
  | some n => if n = noTag then default else Tag.ofName n

/-- The tag of a scalar. -/
def scalarTag (name : Option Text) (plain : Bool) (t : Text) : Tag :=
  let written := Tag.ofPlain (Text.toCharsReplacing t)
  match name with
  | none => if plain then written else .str
  | some n => if n = noTag then written else Tag.ofName n

/-- Makes an anchor known, for a node that is still being read.  An anchor stands once. -/
def declare (anchor : Option (List Char)) : Read Unit := do
  match anchor with
  | none => pure ()
  | some a =>
    let r ← get
    if r.anchors.any fun e => e.1 == a then refuse
    else set { r with anchors := (a, none) :: r.anchors }

/-- Makes the node of an anchor known. -/
def define (anchor : Option (List Char)) (n : Node) : Read Node := do
  match anchor with
  | none => pure n
  | some a =>
    modify fun r => { r with anchors := (a, some n) :: r.anchors.filter fun e => e.1 != a }
    pure n

/-- The node of an alias. -/
def resolve (a : List Char) : Read Node := do
  match (← get).anchors.find? fun e => e.1 == a with
  | some (_, some n) => pure n
  | some (_, none) => pure .cycle
  | none => refuse

/-! ## Classes of tokens -/

/-- What a node is part of; it says where a node may be left out. -/
inductive Place where
  | seqItem
  /-- An item of a sequence that is not indented further than its mapping. -/
  | flatItem
  | mapPart
  | flowItem
  | flowSeqKey
  | flowSeqValue
  | flowMapKey
  | flowMapValue
  deriving DecidableEq

/-- Does a token tell that the node at a place is left out? -/
def leftOut (p : Place) : Option Token → Bool
  | some .blockEntry => p = .seqItem || p = .flatItem
  | some .blockEnd => p = .seqItem || p = .flatItem || p = .mapPart
  | some .key => p = .flatItem || p = .mapPart
  | some .value => p = .flatItem || p = .mapPart || p = .flowSeqKey || p = .flowMapKey
  | some .flowEntry => p = .flowSeqKey || p = .flowSeqValue || p = .flowMapKey || p = .flowMapValue
  | some .flowSeqEnd => p = .flowSeqKey || p = .flowSeqValue
  | some .flowMapEnd => p = .flowMapKey || p = .flowMapValue
  | _ => false

/-- May a block collection stand at the place? -/
def Place.isBlock : Place → Bool
  | .seqItem | .flatItem | .mapPart => true
  | _ => false

/-! ## Nodes -/

mutual

/-- The node at a place, which may be left out. -/
def readPart (p : Place) : Nat → Read Node
  | 0 => refuse
  | fuel + 1 => do
    if leftOut p (← peek) then pure empty else readNode p.isBlock (p == .mapPart) fuel

/-- A node.  `block` tells whether block collections may stand here, and `flat` whether a sequence
may that is not indented. -/
def readNode (block flat : Bool) : Nat → Read Node
  | 0 => refuse
  | fuel + 1 => do
    match ← peek with
    | some (.alias a) => do advance; resolve a
    | _ =>
      let p ← readProperties
      let name ← tagName? p
      match ← peek with
      | some (.scalar t plain) => do
        advance
        declare p.anchor
        define p.anchor (.scalar (scalarTag name plain t) t)
      | some .flowSeqStart => do
        advance
        declare p.anchor
        define p.anchor (.seq (collectionTag name .seq) (← readFlowSeq true [] fuel))
      | some .flowMapStart => do
        advance
        declare p.anchor
        define p.anchor (.map (collectionTag name .map) (← readFlowMap true [] fuel))
      | other =>
        if flat && other matches some .blockEntry then do
          declare p.anchor
          define p.anchor (.seq (collectionTag name .seq) (← readFlat [] fuel))
        else if block && other matches some .blockSeqStart then do
          advance
          declare p.anchor
          define p.anchor (.seq (collectionTag name .seq) (← readBlockSeq [] fuel))
        else if block && other matches some .blockMapStart then do
          advance
          declare p.anchor
          define p.anchor (.map (collectionTag name .map) (← readBlockMap [] fuel))
        else if p.anchor.isSome || name.isSome then do
          declare p.anchor
          define p.anchor (.scalar (scalarTag name true []) [])
        else refuse

/-- The items of a block sequence, up to its end. -/
def readBlockSeq (items : List Node) : Nat → Read (List Node)
  | 0 => refuse
  | fuel + 1 => do
    match ← peek with
    | some .blockEntry => do
      advance
      let n ← readPart .seqItem fuel
      readBlockSeq (n :: items) fuel
    | some .blockEnd => do advance; pure items.reverse
    | _ => refuse

/-- The items of a sequence that is not indented. -/
def readFlat (items : List Node) : Nat → Read (List Node)
  | 0 => refuse
  | fuel + 1 => do
    match ← peek with
    | some .blockEntry => do
      advance
      let n ← readPart .flatItem fuel
      readFlat (n :: items) fuel
    | _ => pure items.reverse

/-- The entries of a block mapping, up to its end. -/
def readBlockMap (entries : List (Node × Node)) : Nat → Read (List (Node × Node))
  | 0 => refuse
  | fuel + 1 => do
    match ← peek with
    | some .blockEnd => do advance; pure entries.reverse
    | some .key => do
      advance
      let k ← readPart .mapPart fuel
      let v ← readValue .mapPart fuel
      readBlockMap ((k, v) :: entries) fuel
    | some .value => refuse
    | _ => refuse

/-- The value after a key, which may be left out together with its colon. -/
def readValue (p : Place) : Nat → Read Node
  | 0 => refuse
  | fuel + 1 => do
    match ← peek with
    | some .value => do advance; readPart p fuel
    | _ => pure empty

/-- The items of a sequence in brackets, up to its end. -/
def readFlowSeq (first : Bool) (items : List Node) : Nat → Read (List Node)
  | 0 => refuse
  | fuel + 1 => do
    match ← peek with
    | some .flowSeqEnd => do advance; pure items.reverse
    | t =>
      if !first then
        if t matches some .flowEntry then advance else refuse
      match ← peek with
      | some .key => do
        advance
        let k ← readPart .flowSeqKey fuel
        let v ← readValue .flowSeqValue fuel
        readFlowSeq false (.map .map [(k, v)] :: items) fuel
      | some .flowSeqEnd => do advance; pure items.reverse
      | _ => do
        let n ← readPart .flowItem fuel
        readFlowSeq false (n :: items) fuel

/-- The entries of a mapping in brackets, up to its end. -/
def readFlowMap (first : Bool) (entries : List (Node × Node)) : Nat → Read (List (Node × Node))
  | 0 => refuse
  | fuel + 1 => do
    match ← peek with
    | some .flowMapEnd => do advance; pure entries.reverse
    | t =>
      if !first then
        if t matches some .flowEntry then advance else refuse
      match ← peek with
      | some .key => do
        advance
        let k ← readPart .flowMapKey fuel
        let v ← readValue .flowMapValue fuel
        readFlowMap false ((k, v) :: entries) fuel
      | some .flowMapEnd => do advance; pure entries.reverse
      | _ => do
        let n ← readPart .flowItem fuel
        readFlowMap false ((n, empty) :: entries) fuel

end

/-! ## Documents -/

/-- The handles that every document knows. -/
def knownHandles : List (Text × Text) := [(text "!", text "!"), (text "!!", Tag.start)]

/-- The directives before a document; gives whether there were any. -/
def readDirectives (version : Bool) : Nat → Read Bool
  | 0 => refuse
  | fuel + 1 => do
    match ← peek with
    | some (.directive d) => do
      advance
      match d with
      | .version major =>
        if version || major != 1 then refuse
        let _ ← readDirectives true fuel
        pure true
      | .tag handle start =>
        if (← get).handles.any fun e => e.1 == handle then refuse
        modify fun r => { r with handles := (handle, start) :: r.handles }
        let _ ← readDirectives version fuel
        pure true
      | .other =>
        let _ ← readDirectives version fuel
        pure true
    | _ => pure false

/-- Adds the handles that the directives did not redefine. -/
def addKnownHandles : Read Unit := modify fun r =>
  { r with handles := r.handles ++ knownHandles }

/-- Passes over the ends of documents. -/
def skipEnds : Nat → Read Unit
  | 0 => refuse
  | fuel + 1 => do
    match ← peek with
    | some .documentEnd => do advance; skipEnds fuel
    | _ => pure ()

/-- The document of a stream; none if there is nothing in it. -/
def readDocument (fuel : Nat) : Read (Option Node) := do
  match ← peek with
  | none => pure none
  | first =>
    let explicit := first matches some (.directive _) || first matches some .documentStart
    let mut result := empty
    if explicit then
      let _ ← readDirectives false fuel
      addKnownHandles
      if (← peek) matches some .documentStart then advance else refuse
      match ← peek with
      | none | some (.directive _) | some .documentStart | some .documentEnd => pure ()
      | _ => result ← readNode true false fuel
    else
      addKnownHandles
      result ← readNode true false fuel
    skipEnds fuel
    if (← peek).isSome then refuse
    pure (some result)

/-- The document that tokens make up. -/
def ofTokens (ts : List Token) : Except Failure (Option Node) :=
  (readDocument (4 * ts.length + 16)).run' { tokens := ts }

end Node

end JobMeter.Yaml
