import JobMeter.Text.Basic

/-!
# Documents

A document that was read from outside is a `Tree`: scalars, sequences, and maps with texts as
keys.  What a format has beside these (dates, bytes) is a `leaf` of a type of its own, so a
format that has nothing else takes `Empty`.

A map is a list of entries.  `Tree.put` keeps each key once: a value that is put later replaces
the one before it and leaves the key at its place (`map_fst_put`), so keys stay distinct
(`nodup_put`).  `Tree.find?` gives the value that was put last (`find?_put`).
-/

namespace JobMeter

/-- A document; `ε` is the type of the scalars that only some formats have. -/
inductive Tree (ε : Type) where
  | null
  | bool (b : Bool)
  | int (n : Int)
  | float (x : Float)
  | text (t : Text)
  | seq (items : List (Tree ε))
  | map (entries : List (Text × Tree ε))
  | leaf (a : ε)

namespace Tree

instance {ε : Type} : Inhabited (Tree ε) := ⟨.null⟩

/-- A text, given as a string. -/
def str {ε : Type} (s : String) : Tree ε := .text (Text.ofString s)

/-- Puts a value under a key. -/
def put {κ α : Type} [BEq κ] (key : κ) (value : α) : List (κ × α) → List (κ × α)
  | [] => [(key, value)]
  | (k, v) :: rest => if k == key then (k, value) :: rest else (k, v) :: put key value rest

/-- The keys after a value was put. -/
theorem map_fst_put {κ α : Type} [BEq κ] [LawfulBEq κ] (k : κ) (v : α)
    (es : List (κ × α)) :
    (put k v es).map Prod.fst =
      if k ∈ es.map Prod.fst then es.map Prod.fst else es.map Prod.fst ++ [k] := by
  induction es with
  | nil => simp [put]
  | cons e es ih =>
    obtain ⟨k', v'⟩ := e
    by_cases h : k' = k
    · simp [put, h]
    · have h' : ¬ k = k' := fun e => h e.symm
      simp only [put, beq_iff_eq, h, if_false, List.map_cons, ih, List.mem_cons, h',
        false_or]
      split <;> simp

theorem put_of_not_mem {κ α : Type} [BEq κ] [LawfulBEq κ] {k : κ} {es : List (κ × α)}
    (h : k ∉ es.map Prod.fst) (v : α) : put k v es = es ++ [(k, v)] := by
  induction es with
  | nil => rfl
  | cons e es ih =>
    obtain ⟨key, value⟩ := e
    rw [List.map_cons, List.mem_cons, not_or] at h
    rw [put, if_neg (by rw [beq_iff_eq]; exact fun e => h.1 e.symm), ih h.2, List.cons_append]

/-- Putting a value keeps keys distinct. -/
theorem nodup_put {κ α : Type} [BEq κ] [LawfulBEq κ] (k : κ) (v : α) {es : List (κ × α)}
    (h : (es.map Prod.fst).Nodup) : ((put k v es).map Prod.fst).Nodup := by
  rw [map_fst_put]
  split
  · exact h
  · rename_i hk
    rw [List.nodup_append]
    exact ⟨h, by simp, fun a ha b hb => by simp at hb; exact fun e => hk (hb ▸ e ▸ ha)⟩

/-- The entries in which each key stands once, with its last value at its first place. -/
def distinct {κ α : Type} [BEq κ] (entries : List (κ × α)) : List (κ × α) :=
  entries.foldl (fun es e => put e.1 e.2 es) []

/-- The value under a key. -/
def find? {κ α : Type} [BEq κ] (key : κ) (entries : List (κ × α)) : Option α :=
  (entries.find? fun e => e.1 == key).map Prod.snd

/-- The value under a key after a value was put. -/
theorem find?_put {κ α : Type} [BEq κ] [LawfulBEq κ] (k k' : κ) (v : α) (es : List (κ × α)) :
    find? k (put k' v es) = if k' == k then some v else find? k es := by
  induction es with
  | nil => by_cases h : k' == k <;> simp [find?, put, h]
  | cons e es ih =>
    obtain ⟨key, value⟩ := e
    by_cases hk : key = k'
    · subst hk
      by_cases h : key = k <;> simp [find?, put, h]
    · by_cases h : key = k
      · subst h
        have hne : ¬ k' = key := fun e => hk e.symm
        simp [find?, put, hk, hne]
      · simpa [find?, put, hk, h] using ih

/-- To put a value where it stands already is to do nothing. -/
theorem put_of_find?_eq_some {κ α : Type} [BEq κ] [LawfulBEq κ] {k : κ} {v : α}
    {es : List (κ × α)} (h : find? k es = some v) : put k v es = es := by
  induction es with
  | nil => cases h
  | cons e es ih =>
    obtain ⟨key, value⟩ := e
    by_cases hk : key = k
    · subst hk
      have hv : value = v := by simpa [find?] using h
      simp [put, hv]
    · have hrest : find? k es = some v := by simpa [find?, hk] using h
      simp [put, hk, ih hrest]

/-- An entry after a value was put is that value's or was there before. -/
theorem eq_or_mem_of_mem_put {κ α : Type} [BEq κ] [LawfulBEq κ] {k : κ} {v : α} {es : List (κ × α)}
    {e : κ × α} (h : e ∈ put k v es) : e = (k, v) ∨ e ∈ es := by
  induction es with
  | nil => exact .inl (List.mem_singleton.1 h)
  | cons e' es ih =>
    obtain ⟨key, value⟩ := e'
    rw [put] at h
    split at h
    · rename_i hk
      rcases List.mem_cons.1 h with he | he
      · rw [he, beq_iff_eq.1 hk]
        exact .inl rfl
      · exact .inr (List.mem_cons_of_mem _ he)
    · rcases List.mem_cons.1 h with he | he
      · rw [he]
        exact .inr List.mem_cons_self
      · exact (ih he).imp_right (List.mem_cons_of_mem _)

/-- A key has a value exactly if it is one of the keys. -/
theorem isSome_find? {κ α : Type} [BEq κ] [LawfulBEq κ] (k : κ) (es : List (κ × α)) :
    (find? k es).isSome ↔ k ∈ es.map Prod.fst := by
  simp [find?]

theorem mem_of_find?_eq_some {κ α : Type} [BEq κ] [LawfulBEq κ] {k : κ} {v : α}
    {es : List (κ × α)} (h : find? k es = some v) : (k, v) ∈ es := by
  rw [find?, Option.map_eq_some_iff] at h
  obtain ⟨e, he, rfl⟩ := h
  have hk : e.1 = k := by simpa using List.find?_some he
  rw [← hk]
  exact List.mem_of_find?_eq_some he

/-- If keys are distinct, each value is found under its key. -/
theorem find?_eq_some_of_mem {κ α : Type} [BEq κ] [LawfulBEq κ] {k : κ} {v : α}
    {es : List (κ × α)} (hes : (es.map Prod.fst).Nodup) (h : (k, v) ∈ es) :
    find? k es = some v := by
  induction es with
  | nil => exact absurd h List.not_mem_nil
  | cons e es ih =>
    rw [List.map_cons, List.nodup_cons] at hes
    rcases List.mem_cons.1 h with rfl | hrest
    · simp [find?]
    · have hne : e.1 ≠ k := by
        rintro rfl
        exact hes.1 (List.mem_map.2 ⟨_, hrest, rfl⟩)
      rw [find?, List.find?_cons_of_neg (by simpa using hne)]
      exact ih hes.2 hrest

/-- The value under a key of a map. -/
def get? {ε : Type} (key : String) : Tree ε → Option (Tree ε)
  | .map entries => find? (Text.ofString key) entries
  | _ => none

end Tree

/-- A document without scalars of its own. -/
abbrev Json := Tree Empty

end JobMeter
