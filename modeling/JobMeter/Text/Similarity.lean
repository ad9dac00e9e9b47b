/-!
# Similar words

Two words are compared by what they have in common: the longest run of characters that stands in
both, and what the parts before and after it have in common in turn (`common`).

`similar` picks the words that are most like a given word, of those with which it shares at least
three in five of the characters of both.
-/

namespace JobMeter.Text

/-- The length of the longest common start of two words. -/
def commonStart : List Char → List Char → Nat
  | a :: as, b :: bs => if a = b then commonStart as bs + 1 else 0
  | _, _ => 0

/-- A run of characters that stands in two words, by its places and its length. -/
structure Run where
  left : Nat
  right : Nat
  length : Nat

/-- The longest run that stands in two words; the first, if there are several. -/
def longestRun (a b : List Char) : Run :=
  (List.range a.length).foldl (fun best i =>
    (List.range b.length).foldl (fun best j =>
      let n := commonStart (a.drop i) (b.drop j)
      if best.length < n then ⟨i, j, n⟩ else best) best) ⟨0, 0, 0⟩

/-- The number of characters that two words have in common. -/
def commonUpTo : Nat → List Char → List Char → Nat
  | 0, _, _ => 0
  | fuel + 1, a, b =>
    let r := longestRun a b
    if r.length = 0 then 0
    else
      r.length + commonUpTo fuel (a.take r.left) (b.take r.right) +
        commonUpTo fuel (a.drop (r.left + r.length)) (b.drop (r.right + r.length))

/-- The number of characters that two words have in common, run by run. -/
def common (a b : List Char) : Nat := commonUpTo (a.length + 1) a b

/-- Does the first pair of counts stand for a greater share than the second? -/
def greaterShare (a b : Nat × Nat) : Bool := b.1 * a.2 < a.1 * b.2

/-- The words that are most like a word, at most three of them. -/
def similar (word : List Char) (words : List String) : List String :=
  let shares := words.map fun w => (2 * common w.toList word, w.length + word.length, w)
  let near := shares.filter fun (c, n, _) => 3 * n ≤ 5 * c
  let ranked := near.mergeSort fun (c, n, w) (c', n', w') =>
    greaterShare (c, n) (c', n') || (!greaterShare (c', n') (c, n) && decide (w' ≤ w))
  (ranked.take 3).map (·.2.2)

end JobMeter.Text
