import JobMeter.Proofs.Http.Escaping
import JobMeter.Text.Lines
import JobMeter.Text.Quoted
import Mathlib.Algebra.Ring.Nat

/-!
# What quotes tell apart

A quoted text may hold anything, the quotes, blanks and backslashes of what surrounds it included.
Nevertheless its end is found, and nothing in it breaks the line.

* `IsCode.flatMap_append_inj` — a text in a code ends at an end mark that no word starts with.
* `hexNumber?_hexPadded` — hexadecimal numerals of a fixed width are read back.
* `isCode_quotedPoint` — what stands for a code point between quotes is such a code.
* `quote_append_inj` — **the end of a quoted text is found**, whatever stands behind it.
* `isPrintable_of_mem_quote`, `endsLine_eq_false` — **a quoted text stays on its line**.
-/

namespace JobMeter

/-- Where no word of a code starts with the end mark, a text in the code ends at the first one. -/
theorem IsCode.flatMap_append_inj {α β : Type} {f : α → List β} (h : IsCode f) {e : β}
    (he : ∀ a, (f a).head? ≠ some e) {l l' : List α} {r r' : List β}
    (heq : l.flatMap f ++ e :: r = l'.flatMap f ++ e :: r') : l = l' ∧ r = r' := by
  -- a word and the end mark differ in their first letter
  have hword : ∀ a x y, f a ++ x ≠ e :: y := by
    intro a x y heq
    cases hw : f a with
    | nil => exact h.ne_nil a hw
    | cons b w =>
      rw [hw] at heq
      exact he a (by rw [hw, (List.cons.inj heq).1, List.head?_cons])
  induction l generalizing l' with
  | nil =>
    cases l' with
    | nil => exact ⟨rfl, (List.cons.inj heq).2⟩
    | cons b l' =>
      rw [List.flatMap_cons, List.append_assoc] at heq
      exact absurd heq.symm (hword b _ _)
  | cons a l ih =>
    cases l' with
    | nil =>
      rw [List.flatMap_cons, List.append_assoc] at heq
      exact absurd heq (hword a _ _)
    | cons b l' =>
      rw [List.flatMap_cons, List.flatMap_cons, List.append_assoc, List.append_assoc] at heq
      obtain rfl := h.eq_of_append heq
      obtain ⟨rfl, rfl⟩ := ih (List.append_cancel_left heq)
      exact ⟨rfl, rfl⟩

namespace CodePoint

theorem eq_ofChar {p : CodePoint} {c : Char} (h : p.val = c.toNat) : p = ofChar c :=
  Fin.ext h

theorem isSurrogate_iff {p : CodePoint} :
    p.isSurrogate = true ↔ 0xD800 ≤ p.val ∧ p.val ≤ 0xDFFF := by
  rw [CodePoint.isSurrogate, Bool.and_eq_true, decide_eq_true_eq, decide_eq_true_eq]

theorem toChar?_ofChar (c : Char) : (ofChar c).toChar? = some c := by
  have hvalid := c.valid
  have hscalar : (ofChar c).isSurrogate = false := by
    simp only [UInt32.isValidChar, Nat.isValidChar] at hvalid
    rw [Bool.eq_false_iff, ne_eq, isSurrogate_iff]
    intro hsurrogate
    have hc : c.val.toNat = (ofChar c).val := rfl
    omega
  rw [toChar?, hscalar]
  exact congrArg some (Char.ofNat_toNat c)

theorem eq_ofChar_of_toChar? {p : CodePoint} {c : Char} (h : p.toChar? = some c) :
    p = ofChar c := by
  unfold toChar? at h
  split at h
  · cases h
  · rename_i hscalar
    have hvalid : p.val.isValidChar := by
      have hlt := p.isLt
      rw [isSurrogate_iff] at hscalar
      rw [Nat.isValidChar]
      omega
    refine eq_ofChar ?_
    rw [← Option.some.inj h, Char.ofNat, dif_pos hvalid]
    rfl

end CodePoint

namespace Text

/-! ## Hexadecimal numerals -/

theorem hexValue?_digitChar : ∀ d < 16, hexValue? (Nat.digitChar d) = some d := by decide

theorem hexNumber?_concat {cs : List Char} {n d : Nat} (hn : hexNumber? cs = some n) (hd : d < 16) :
    hexNumber? (cs ++ [Nat.digitChar d]) = some (16 * n + d) := by
  rw [hexNumber?] at hn ⊢
  rw [List.foldl_append, hn, List.foldl_cons, List.foldl_nil, hexValue?_digitChar d hd]
  rfl

/-- What holds of hexadecimal numerals follows digit by digit. -/
theorem toDigits_induction {P : Nat → List Char → Prop}
    (digit : ∀ d < 16, P d [Nat.digitChar d])
    (concat : ∀ n d cs, d < 16 → P n cs → P (16 * n + d) (cs ++ [Nat.digitChar d])) (n : Nat) :
    P n (Nat.toDigits 16 n) := by
  induction n using Nat.strongRecOn with
  | ind n ih =>
    by_cases hn : n < 16
    · rw [Nat.toDigits_of_lt_base hn]
      exact digit n hn
    · have hge : 16 ≤ n := Nat.not_lt.1 hn
      have hstep := concat (n / 16) (n % 16) _ (Nat.mod_lt n (by decide))
        (ih (n / 16) (Nat.div_lt_self (by omega) (by decide)))
      rwa [Nat.div_add_mod, ← Nat.toDigits_of_base_le (by decide) hge] at hstep

theorem hexNumber?_toDigits (n : Nat) : hexNumber? (Nat.toDigits 16 n) = some n := by
  refine toDigits_induction (P := fun n cs => hexNumber? cs = some n) ?_ ?_ n
  · intro d hd
    exact (@hexNumber?_concat [] _ _ rfl hd).trans (by rw [Nat.mul_zero, Nat.zero_add])
  · exact fun n d cs hd hn => hexNumber?_concat hn hd

theorem hexNumber?_zeros (k : Nat) (cs : List Char) :
    hexNumber? (List.replicate k '0' ++ cs) = hexNumber? cs := by
  induction k with
  | zero => rfl
  | succ k ih => exact ih

/-- A hexadecimal numeral of a fixed width is read back. -/
theorem hexNumber?_hexPadded (width n : Nat) : hexNumber? (hexPadded width n) = some n := by
  rw [hexPadded, hexNumber?_zeros, hexNumber?_toDigits]

theorem length_hexPadded {width n : Nat} (hwidth : 0 < width) (h : n < 16 ^ width) :
    (hexPadded width n).length = width := by
  have hle := (Nat.length_toDigits_le_iff (by decide) hwidth).2 h
  rw [hexPadded, List.length_append, List.length_replicate]
  omega

/-- The digits of a hexadecimal numeral. -/
theorem exists_digit_of_mem_hexPadded {width n : Nat} {c : Char} (h : c ∈ hexPadded width n) :
    ∃ d < 16, c = Nat.digitChar d := by
  rw [hexPadded, List.mem_append, List.mem_replicate] at h
  rcases h with ⟨-, rfl⟩ | h
  · exact ⟨0, by decide, rfl⟩
  · refine toDigits_induction (P := fun _ cs => c ∈ cs → ∃ d < 16, c = Nat.digitChar d) ?_ ?_ n h
    · intro d hd hc
      exact ⟨d, hd, List.mem_singleton.1 hc⟩
    · intro _ d cs hd ih hc
      rcases List.mem_append.1 hc with hc | hc
      · exact ih hc
      · exact ⟨d, hd, List.mem_singleton.1 hc⟩

/-! ## The end of a quoted text -/

/-- The code point whose number is written in hexadecimal digits of a width at the start of a
text. -/
def hexPoint? (width : Nat) (t : Text) : Option CodePoint :=
  ((toChars? (t.take width)).bind hexNumber?).map CodePoint.ofNat

/-- The first code point of a text between quotes. -/
def quotedHead? : Text → Option CodePoint
  | [] => none
  | p :: rest =>
    if p = CodePoint.ofChar '\\' then
      match rest with
      | [] => none
      | q :: rest =>
        if q = CodePoint.ofChar 'n' then some (CodePoint.ofChar '\n')
        else if q = CodePoint.ofChar 'r' then some (CodePoint.ofChar '\r')
        else if q = CodePoint.ofChar 't' then some (CodePoint.ofChar '\t')
        else if q = CodePoint.ofChar 'x' then hexPoint? 2 rest
        else if q = CodePoint.ofChar 'u' then hexPoint? 4 rest
        else if q = CodePoint.ofChar 'U' then hexPoint? 8 rest
        else some q
    else some p

theorem toChars?_ofChars (cs : List Char) : toChars? (ofChars cs) = some cs := by
  induction cs with
  | nil => rfl
  | cons c cs ih =>
    rw [toChars?, ofChars] at ih ⊢
    rw [List.map_cons, List.mapM_cons, CodePoint.toChar?_ofChar, ih]
    rfl

theorem hexPoint?_hexPadded {width : Nat} (hwidth : 0 < width) {p : CodePoint}
    (h : p.val < 16 ^ width) (r : Text) :
    hexPoint? width (ofChars (hexPadded width p.val) ++ r) = some p := by
  have hlength : (ofChars (hexPadded width p.val)).length = width := by
    rw [ofChars, List.length_map, length_hexPadded hwidth h]
  rw [hexPoint?, List.take_left' hlength, toChars?_ofChars, Option.bind_some,
    hexNumber?_hexPadded, Option.map_some, CodePoint.ofNat, dif_pos p.isLt]

/-- The first code point is found behind the quote that it is written after. -/
theorem quotedHead?_quotedPoint {mark : Char} (hmark : mark = '\'' ∨ mark = '"') (p : CodePoint)
    (r : Text) : quotedHead? (quotedPoint mark p ++ r) = some p := by
  unfold quotedPoint
  dsimp only
  split_ifs with hescaped hlf hcr htab hprintable hx hu
  · rcases hescaped with h | h
    · rcases hmark with rfl | rfl <;> obtain rfl := CodePoint.eq_ofChar h <;> rfl
    · obtain rfl := CodePoint.eq_ofChar h
      rfl
  · obtain rfl := CodePoint.eq_ofChar (c := '\n') hlf
    rfl
  · obtain rfl := CodePoint.eq_ofChar (c := '\r') hcr
    rfl
  · obtain rfl := CodePoint.eq_ofChar (c := '\t') htab
    rfl
  · have hp : p ≠ CodePoint.ofChar '\\' := fun h => hescaped (.inr (congrArg Fin.val h))
    exact if_neg hp
  · exact hexPoint?_hexPadded (by decide) hx r
  · exact hexPoint?_hexPadded (by decide) hu r
  · exact hexPoint?_hexPadded (by decide) (Nat.lt_trans p.isLt (by decide)) r

theorem quoteMark_eq (t : Text) : quoteMark t = '\'' ∨ quoteMark t = '"' := by
  unfold quoteMark
  split
  · exact .inr rfl
  · exact .inl rfl

theorem isCode_quotedPoint {mark : Char} (hmark : mark = '\'' ∨ mark = '"') :
    IsCode (quotedPoint mark) where
  ne_nil p h := by
    have hhead := quotedHead?_quotedPoint hmark p []
    rw [h] at hhead
    cases hhead
  eq_of_append := by
    intro p q x y h
    have hhead := congrArg quotedHead? h
    rw [quotedHead?_quotedPoint hmark, quotedHead?_quotedPoint hmark] at hhead
    exact Option.some.inj hhead

/-- A code point is written as it is, or behind a backslash. -/
theorem quotedPoint_cases (mark : Char) (p : CodePoint) :
    (p ≠ CodePoint.ofChar mark ∧ isPrintable p = true ∧ quotedPoint mark p = [p]) ∨
      ∃ w, quotedPoint mark p = CodePoint.ofChar '\\' :: w := by
  unfold quotedPoint
  dsimp only
  split_ifs with hescaped hlf hcr htab hprintable
  · exact .inr ⟨_, rfl⟩
  · exact .inr ⟨_, rfl⟩
  · exact .inr ⟨_, rfl⟩
  · exact .inr ⟨_, rfl⟩
  · exact .inl ⟨fun h => hescaped (.inl (congrArg Fin.val h)), hprintable, rfl⟩
  · exact .inr ⟨_, rfl⟩
  · exact .inr ⟨_, rfl⟩
  · exact .inr ⟨_, rfl⟩

theorem head?_quotedPoint_ne {mark : Char} (hmark : mark = '\'' ∨ mark = '"') (p : CodePoint) :
    (quotedPoint mark p).head? ≠ some (CodePoint.ofChar mark) := by
  rcases quotedPoint_cases mark p with ⟨hp, -, hword⟩ | ⟨w, hword⟩
  · rw [hword, List.head?_cons]
    exact fun h => hp (Option.some.inj h)
  · rw [hword, List.head?_cons]
    rcases hmark with rfl | rfl <;> decide

/-- **The end of a quoted text is found**, whatever stands in it and behind it. -/
theorem quote_append_inj {t t' r r' : Text} (h : quote t ++ r = quote t' ++ r') :
    t = t' ∧ r = r' := by
  simp only [quote, List.cons_append, List.append_assoc, List.nil_append] at h
  obtain ⟨hmark, hrest⟩ := List.cons.inj h
  rw [← CodePoint.ofChar_inj.1 hmark] at hrest
  exact (isCode_quotedPoint (quoteMark_eq t)).flatMap_append_inj
    (head?_quotedPoint_ne (quoteMark_eq t)) hrest

/-! ## The line of a quoted text -/

theorem isPrintable_of_ascii {p : CodePoint} (hlow : 0x20 ≤ p.val) (hhigh : p.val < 0x7F) :
    isPrintable p = true := by
  rw [isPrintable, if_pos hhigh, decide_eq_true hlow]

/-- Are the characters of a string printable ones of ASCII? -/
def isPlain (s : String) : Bool :=
  s.toList.all fun c => decide (0x20 ≤ c.toNat) && decide (c.toNat < 0x7F)

theorem isPrintable_text {s : String} (hs : isPlain s = true) :
    ∀ p ∈ text s, isPrintable p = true := by
  simp only [isPlain, List.all_eq_true, Bool.and_eq_true, decide_eq_true_eq] at hs
  intro p hp
  obtain ⟨c, hc, rfl⟩ := List.mem_map.1 hp
  exact isPrintable_of_ascii (hs c hc).1 (hs c hc).2

/-- No line ends at a printable code point. -/
theorem endsLine_eq_false {p : CodePoint} (h : isPrintable p = true) : endsLine p = false := by
  rw [Bool.eq_false_iff]
  intro hends
  obtain ⟨c, hc, hbreak⟩ : ∃ c, p.toChar? = some c ∧ isLineBreak c = true := by
    unfold endsLine at hends
    split at hends
    · exact ⟨_, ‹_›, hends⟩
    · cases hends
  obtain rfl := CodePoint.eq_ofChar_of_toChar? hc
  have hlow : 0x20 ≤ c.toNat := by
    unfold isPrintable at h
    split at h
    · exact of_decide_eq_true h
    · rename_i hge
      exact Nat.le_trans (by decide) (Nat.not_lt.1 hge)
  -- what is left are the separators of lines above ASCII, and these are none of the printable
  have hseparator : c.toNat = 0x85 ∨ c.toNat = 0x2028 ∨ c.toNat = 0x2029 := by
    simp only [isLineBreak, Bool.or_eq_true, Bool.and_eq_true, decide_eq_true_eq, beq_iff_eq]
      at hbreak
    omega
  have hunprintable : isPrintable (CodePoint.ofChar c) = false := by
    have hc : c = Char.ofNat c.toNat := (Char.ofNat_toNat c).symm
    rcases hseparator with heq | heq | heq <;> rw [hc, heq] <;> decide +kernel
  exact absurd (h.symm.trans hunprintable) (by decide)

/-- Between quotes everything is printable. -/
theorem isPrintable_of_mem_quotedPoint {mark : Char} (hmark : mark = '\'' ∨ mark = '"')
    {p q : CodePoint} (h : q ∈ quotedPoint mark p) : isPrintable q = true := by
  have hdigits : ∀ (s : String) (width : Nat), isPlain s = true →
      q ∈ text s ++ ofChars (hexPadded width p.val) → isPrintable q = true := by
    intro s width hs hq
    rcases List.mem_append.1 hq with hq | hq
    · exact isPrintable_text hs q hq
    · obtain ⟨c, hc, rfl⟩ := List.mem_map.1 hq
      obtain ⟨d, hd, rfl⟩ := exists_digit_of_mem_hexPadded hc
      have hdigit : ∀ d < 16, 0x20 ≤ (Nat.digitChar d).toNat ∧ (Nat.digitChar d).toNat < 0x7F := by
        decide
      exact isPrintable_of_ascii (hdigit d hd).1 (hdigit d hd).2
  unfold quotedPoint at h
  dsimp only at h
  split_ifs at h with hescaped hlf hcr htab hprintable hx hu
  · rcases List.mem_cons.1 h with rfl | h
    · decide
    · obtain rfl := List.mem_singleton.1 h
      rcases hescaped with h | h
      · rcases hmark with rfl | rfl <;> obtain rfl := CodePoint.eq_ofChar h <;> decide
      · obtain rfl := CodePoint.eq_ofChar h
        decide
  · exact isPrintable_text rfl q h
  · exact isPrintable_text rfl q h
  · exact isPrintable_text rfl q h
  · rw [List.mem_singleton.1 h, hprintable]
  · exact hdigits _ _ rfl h
  · exact hdigits _ _ rfl h
  · exact hdigits _ _ rfl h

/-- A quoted text stays on its line: nothing but printable code points stands in it. -/
theorem isPrintable_of_mem_quote {t : Text} {p : CodePoint} (h : p ∈ quote t) :
    isPrintable p = true := by
  have hmark : isPrintable (CodePoint.ofChar (quoteMark t)) = true := by
    rcases quoteMark_eq t with heq | heq <;> rw [heq] <;> decide
  rw [quote, List.mem_cons, List.mem_append, List.mem_singleton, List.mem_flatMap] at h
  rcases h with rfl | ⟨q, -, h⟩ | rfl
  · exact hmark
  · exact isPrintable_of_mem_quotedPoint (quoteMark_eq t) h
  · exact hmark

end Text

end JobMeter
