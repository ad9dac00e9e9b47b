import Mathlib.Logic.Function.Basic
import Mathlib.Tactic.SplitIfs
import JobMeter.Http.Escape
import JobMeter.Proofs.Text.Cutting

/-!
# What escapes tell apart

Texts are escaped byte by byte, so what they differ in can be seen after the escape.

* `IsCode f` — no two values start with the same word under `f`; texts in such a code are told apart
  (`IsCode.flatMap_injective`).
* `isCode_encodePoint`, `isCode_escapeUnit` — UTF-8 is such a code, and so are escapes that keep no
  percent sign.
* `escape_injective` — **escapes that keep no percent sign tell texts apart**.
* `escapeRest_append`, `requote_append` — texts that are put together with a slash are escaped part
  by part, if there is no escape behind the slash.
-/

namespace JobMeter

/-! ## Codes -/

section Codes

variable {α β : Type}

/-- The words of a code are not empty, and two texts that start with words start with the same word
only if it stands for the same. -/
structure IsCode (f : α → List β) : Prop where
  ne_nil : ∀ a, f a ≠ []
  eq_of_append : ∀ {a b x y}, f a ++ x = f b ++ y → a = b

theorem IsCode.flatMap_injective {f : α → List β} (h : IsCode f) :
    Function.Injective fun l : List α => l.flatMap f := by
  intro l l' heq
  induction l generalizing l' with
  | nil =>
    cases l' with
    | nil => rfl
    | cons b l' => simp [h.ne_nil b] at heq
  | cons a l ih =>
    cases l' with
    | nil => simp [h.ne_nil a] at heq
    | cons b l' =>
      simp only [List.flatMap_cons] at heq
      obtain rfl := h.eq_of_append heq
      rw [ih (List.append_cancel_left heq)]

end Codes

theorem CodePoint.ofChar_injective : Function.Injective CodePoint.ofChar :=
  fun _ _ => CodePoint.ofChar_inj.1

namespace Text.Utf8

theorem isCode_encodePoint : IsCode encodePoint where
  ne_nil p := by
    unfold encodePoint
    dsimp only
    split_ifs <;> simp
  eq_of_append := by
    rintro ⟨n, hn⟩ ⟨m, hm⟩ x y h
    unfold encodePoint at h
    dsimp only at h
    split_ifs at h <;> simp [← UInt8.toNat_inj] at h <;> ext <;> dsimp only <;> omega

/-- What is no ASCII character has no ASCII character among its bytes. -/
theorem le_of_mem_encodePoint {p : CodePoint} (hp : 0x80 ≤ p.val) {b : UInt8}
    (hb : b ∈ encodePoint p) : 0x80 ≤ b.toNat := by
  have hlt := p.isLt
  have htoNat : ∀ n < 0x100, (UInt8.ofNat n).toNat = n := fun n hn => UInt8.toNat_ofNat_of_lt' hn
  unfold encodePoint at hb
  dsimp only at hb
  rw [if_neg (by omega)] at hb
  split_ifs at hb <;> simp only [List.mem_cons, List.not_mem_nil, or_false] at hb
  · rcases hb with rfl | rfl <;> rw [htoNat _ (by omega)] <;> omega
  · rcases hb with rfl | rfl | rfl <;> rw [htoNat _ (by omega)] <;> omega
  · rcases hb with rfl | rfl | rfl | rfl <;> rw [htoNat _ (by omega)] <;> omega

end Text.Utf8

namespace Http

open Text.Utf8

/-! ## Single bytes -/

/-- What stands for a byte in an escaped text. -/
def escapeUnit (keep : ByteClass) (b : UInt8) : Text :=
  match asciiChar? b with
  | some c => if keep c then [CodePoint.ofChar c] else escapeByte b
  | none => escapeByte b

theorem toNat_ofNat_of_lt {n : Nat} (hn : n < 0x100) : (Char.ofNat n).toNat = n := by
  have hvalid : n.isValidChar := .inl (by omega)
  unfold Char.ofNat
  rw [dif_pos hvalid]
  rfl

theorem asciiChar?_eq_some {b : UInt8} {c : Char} :
    asciiChar? b = some c ↔ b.toNat < 0x80 ∧ c.toNat = b.toNat := by
  have hlt : b < 0x80 ↔ b.toNat < 0x80 := UInt8.lt_iff_toNat_lt
  have hb := b.toNat_lt
  unfold asciiChar?
  constructor
  · intro h
    split_ifs at h with hascii
    obtain rfl := Option.some.inj h
    exact ⟨hlt.1 hascii, toNat_ofNat_of_lt (by omega)⟩
  · rintro ⟨hascii, hc⟩
    rw [if_pos (hlt.2 hascii), ← hc, Char.ofNat_toNat]

/-- A byte is kept as the character that it is, or it is escaped. -/
theorem escapeUnit_cases (keep : ByteClass) (b : UInt8) :
    (∃ c, asciiChar? b = some c ∧ keep c = true ∧ escapeUnit keep b = [CodePoint.ofChar c]) ∨
      (∀ c, asciiChar? b = some c → keep c = false) ∧ escapeUnit keep b = escapeByte b := by
  unfold escapeUnit
  cases hb : asciiChar? b with
  | none => exact .inr ⟨fun c hc => (nomatch hc), rfl⟩
  | some c =>
    cases hc : keep c with
    | true => exact .inl ⟨c, rfl, hc, by simp [hc]⟩
    | false =>
      refine .inr ⟨?_, by simp [hc]⟩
      rintro _ ⟨rfl⟩
      exact hc

theorem hexDigit_inj : ∀ m < 16, ∀ n < 16, hexDigit m = hexDigit n → m = n := by decide

theorem isCode_escapeUnit {keep : ByteClass} (hkeep : keep '%' = false) :
    IsCode (escapeUnit keep) where
  ne_nil b := by
    rcases escapeUnit_cases keep b with ⟨c, -, -, hunit⟩ | ⟨-, hunit⟩
    · simp [hunit]
    · simp [hunit, escapeByte]
  eq_of_append := by
    intro a b x y h
    have hpercent : ∀ c, keep c = true → CodePoint.ofChar c ≠ CodePoint.ofChar '%' := by
      intro c hc heq
      rw [CodePoint.ofChar_injective heq, hkeep] at hc
      cases hc
    have ha := a.toNat_lt
    have hb := b.toNat_lt
    rcases escapeUnit_cases keep a with ⟨c, hac, hc, hunit⟩ | ⟨-, hunit⟩
    · rcases escapeUnit_cases keep b with ⟨d, hbd, hd, hunit'⟩ | ⟨-, hunit'⟩
      · rw [hunit, hunit'] at h
        have hcd := CodePoint.ofChar_injective (List.cons.inj h).1
        apply UInt8.toNat_inj.1
        rw [← (asciiChar?_eq_some.1 hac).2, ← (asciiChar?_eq_some.1 hbd).2, hcd]
      · rw [hunit, hunit'] at h
        exact absurd (List.cons.inj h).1 (hpercent c hc)
    · rcases escapeUnit_cases keep b with ⟨d, hbd, hd, hunit'⟩ | ⟨-, hunit'⟩
      · rw [hunit, hunit'] at h
        exact absurd (List.cons.inj h).1.symm (hpercent d hd)
      · rw [hunit, hunit'] at h
        simp only [escapeByte, List.cons_append, List.nil_append, List.cons.injEq, true_and] at h
        have hhigh := hexDigit_inj _ (by omega) _ (by omega) h.1
        have hlow := hexDigit_inj _ (by omega) _ (by omega) h.2.1
        apply UInt8.toNat_inj.1
        omega

theorem toNat_lt_of_isAlphanum {c : Char} (hc : c.isAlphanum = true) : c.toNat < 0x80 := by
  have hclass : ((c.isUpper || c.isLower) || c.isDigit) = true := hc
  have hbelow : ∀ last : Char, last.toNat < 0x80 → c.val ≤ last.val → c.toNat < 0x80 :=
    fun last hlast hle => Nat.lt_of_le_of_lt (UInt32.le_iff_toNat_le.1 hle) hlast
  rw [Bool.or_eq_true, Bool.or_eq_true] at hclass
  rcases hclass with (hupper | hlower) | hdigit
  · exact hbelow 'Z' (by decide) (of_decide_eq_true hupper).2
  · exact hbelow 'z' (by decide) (of_decide_eq_true (Bool.and_eq_true_iff.1 hlower).2)
  · exact hbelow '9' (by decide) (of_decide_eq_true (Bool.and_eq_true_iff.1 hdigit).2)

/-! ## Escaped texts -/

theorem escape_eq (keep : ByteClass) (t : Text) :
    escape keep t = (encode t).flatMap (escapeUnit keep) := rfl

theorem escape_append (keep : ByteClass) (t u : Text) :
    escape keep (t ++ u) = escape keep t ++ escape keep u := by
  simp [escape_eq, encode]

/-- **Escapes that keep no percent sign tell texts apart.** -/
theorem escape_injective {keep : ByteClass} (hkeep : keep '%' = false) :
    Function.Injective (escape keep) := by
  intro t u h
  exact isCode_encodePoint.flatMap_injective ((isCode_escapeUnit hkeep).flatMap_injective h)

theorem escape_cons_of_keep {keep : ByteClass} {c : Char} (hc : c.toNat < 0x80)
    (hkeep : keep c = true) (t : Text) :
    escape keep (CodePoint.ofChar c :: t) = CodePoint.ofChar c :: escape keep t := by
  have hval : (CodePoint.ofChar c).val = c.toNat := rfl
  have hpoint : encodePoint (CodePoint.ofChar c) = [UInt8.ofNat c.toNat] := by
    unfold encodePoint
    dsimp only
    rw [hval, if_pos hc]
  have hbyte : (UInt8.ofNat c.toNat).toNat = c.toNat :=
    UInt8.toNat_ofNat_of_lt' (Nat.lt_trans hc (by decide))
  have hascii : asciiChar? (UInt8.ofNat c.toNat) = some c :=
    asciiChar?_eq_some.2 ⟨by omega, hbyte.symm⟩
  have hunit : escapeUnit keep (UInt8.ofNat c.toNat) = [CodePoint.ofChar c] := by
    simp [escapeUnit, hascii, hkeep]
  simp [escape_eq, encode, hpoint, hunit]

/-- What is kept stays as it is. -/
theorem escape_eq_self {keep : ByteClass} {t : Text}
    (h : ∀ p ∈ t, ∃ c : Char, p = CodePoint.ofChar c ∧ c.toNat < 0x80 ∧ keep c = true) :
    escape keep t = t := by
  induction t with
  | nil => rfl
  | cons p t ih =>
    obtain ⟨c, rfl, hc, hkeep⟩ := h p List.mem_cons_self
    rw [escape_cons_of_keep hc hkeep, ih fun q hq => h q (List.mem_cons_of_mem _ hq)]

/-- An ASCII character among the bytes of a character is that character. -/
theorem eq_ofChar_of_mem_encodePoint {p : CodePoint} {b : UInt8} {c : Char}
    (hb : b ∈ encodePoint p) (hc : asciiChar? b = some c) : p = CodePoint.ofChar c := by
  obtain ⟨hascii, hcb⟩ := asciiChar?_eq_some.1 hc
  have hp : p.val < 0x80 := by
    by_contra hp
    have hle := le_of_mem_encodePoint (by omega) hb
    omega
  unfold encodePoint at hb
  dsimp only at hb
  rw [if_pos hp, List.mem_singleton] at hb
  have hbyte : (UInt8.ofNat p.val).toNat = p.val :=
    UInt8.toNat_ofNat_of_lt' (Nat.lt_trans hp (by decide))
  apply Fin.ext
  rw [← hbyte, ← hb, ← hcb]
  rfl

/-- A text without percent signs is escaped the same, whether percent signs are kept or not. -/
theorem escape_congr {keep keep' : ByteClass} (h : ∀ c, c ≠ '%' → keep c = keep' c) {t : Text}
    (ht : Text.holds '%' t = false) : escape keep t = escape keep' t := by
  have hunit : ∀ p ∈ t, ∀ b ∈ encodePoint p, escapeUnit keep b = escapeUnit keep' b := by
    intro p hp b hb
    unfold escapeUnit
    cases hc : asciiChar? b with
    | none => rfl
    | some c =>
      have hne : c ≠ '%' := by
        rintro rfl
        have hpercent := Text.holds_eq_false.1 ht p hp
        rw [eq_ofChar_of_mem_encodePoint hb hc] at hpercent
        exact absurd hpercent (by decide)
      simp only [h c hne]
  have hbytes : ∀ b ∈ encode t, escapeUnit keep b = escapeUnit keep' b := by
    intro b hb
    obtain ⟨p, hp, hb⟩ := List.mem_flatMap.1 hb
    exact hunit p hp b hb
  rw [escape_eq, escape_eq, List.flatMap_def, List.flatMap_def, List.map_congr_left hbytes]

/-- An escaped text is made of what is kept, of percent signs and of hexadecimal digits. -/
theorem mem_escape {keep : ByteClass} {t : Text} {p : CodePoint} (hp : p ∈ escape keep t) :
    ∃ c : Char, p = CodePoint.ofChar c ∧ c.toNat < 0x80 ∧
      (keep c = true ∨ c = '%' ∨ c.isAlphanum = true) := by
  have hdigit : ∀ n < 16, ∃ c : Char, hexDigit n = CodePoint.ofChar c ∧ c.toNat < 0x80 ∧
      c.isAlphanum = true := by
    intro n hn
    refine ⟨(Nat.digitChar n).toUpper, rfl, ?_⟩
    revert n
    decide
  rw [escape_eq] at hp
  obtain ⟨b, -, hp⟩ := List.mem_flatMap.1 hp
  have hb := b.toNat_lt
  rcases escapeUnit_cases keep b with ⟨c, hbc, hc, hunit⟩ | ⟨-, hunit⟩
  · rw [hunit, List.mem_singleton] at hp
    obtain ⟨hascii, hcb⟩ := asciiChar?_eq_some.1 hbc
    exact ⟨c, hp, by omega, .inl hc⟩
  · rw [hunit] at hp
    simp only [escapeByte, List.mem_cons, List.not_mem_nil, or_false] at hp
    rcases hp with rfl | rfl | rfl
    · exact ⟨'%', rfl, by decide, .inr (.inl rfl)⟩
    · obtain ⟨c, hc, hascii, halnum⟩ := hdigit (b.toNat / 16) (by omega)
      exact ⟨c, hc, hascii, .inr (.inr halnum)⟩
    · obtain ⟨c, hc, hascii, halnum⟩ := hdigit (b.toNat % 16) (by omega)
      exact ⟨c, hc, hascii, .inr (.inr halnum)⟩

/-! ## Where escapes stand -/

/-- The percent sign `p` is followed by two code points that satisfy `q`. -/
def Opens (q : CodePoint → CodePoint → Bool) (p : CodePoint) (t : Text) : Prop :=
  ∃ a b r, t = a :: b :: r ∧ CodePoint.is '%' p = true ∧ q a b = true

variable {q : CodePoint → CodePoint → Bool} {p : CodePoint} {t u : Text}

theorem not_opens (hp : CodePoint.is '%' p = false) : ¬ Opens q p t := by
  rintro ⟨_, _, _, -, hpercent, -⟩
  rw [hp] at hpercent
  cases hpercent

/-- No escape reaches across a slash. -/
theorem not_opens_append
    (hq : ∀ a, q (CodePoint.ofChar '/') a = false ∧ q a (CodePoint.ofChar '/') = false)
    (h : ¬ Opens q p t) (u : Text) : ¬ Opens q p (t ++ CodePoint.ofChar '/' :: u) := by
  rintro ⟨a, b, r, heq, hp, hab⟩
  match t with
  | [] =>
    obtain rfl := (List.cons.inj heq).1
    rw [(hq b).1] at hab
    cases hab
  | [x] =>
    obtain rfl := (List.cons.inj (List.cons.inj heq).2).1
    rw [(hq a).2] at hab
    cases hab
  | x :: y :: t =>
    obtain ⟨rfl, hrest⟩ := List.cons.inj heq
    obtain ⟨rfl, -⟩ := List.cons.inj hrest
    exact h ⟨x, y, t, rfl, hp, hab⟩

/-! ## Components -/

/-- Do the digits write a byte? -/
def writeByte (a b : CodePoint) : Bool := (byteOf? a b).isSome

theorem writeByte_slash (a : CodePoint) :
    writeByte (CodePoint.ofChar '/') a = false ∧ writeByte a (CodePoint.ofChar '/') = false := by
  have hslash : hexValue? (CodePoint.ofChar '/') = none := by decide
  unfold writeByte byteOf?
  rw [hslash]
  cases hexValue? a <;> exact ⟨rfl, rfl⟩

theorem upperEscapes_cons (h : ¬ Opens writeByte p t) :
    upperEscapes (p :: t) = (p :: (upperEscapes t).1, (upperEscapes t).2) := by
  match t with
  | [] => simp [upperEscapes]
  | [a] => simp [upperEscapes]
  | a :: b :: r =>
    rw [upperEscapes, if_neg]
    intro hab
    rw [Bool.and_eq_true] at hab
    exact h ⟨a, b, r, rfl, hab.1, hab.2⟩

theorem upperEscapes_of_not_holds (h : Text.holds '%' t = false) : upperEscapes t = (t, 0) := by
  induction t with
  | nil => simp [upperEscapes]
  | cons p t ih =>
    obtain ⟨hp, ht⟩ : CodePoint.is '%' p = false ∧ Text.holds '%' t = false := by simpa using h
    rw [upperEscapes_cons (not_opens hp), ih ht]

theorem upperEscapes_append (hu : Text.holds '%' u = false) : ∀ t,
    upperEscapes (t ++ CodePoint.ofChar '/' :: u) =
      ((upperEscapes t).1 ++ CodePoint.ofChar '/' :: u, (upperEscapes t).2)
  | [] => by
    have hslash : Text.holds '%' (CodePoint.ofChar '/' :: u) = false := by
      simpa using ⟨by decide, hu⟩
    simp [upperEscapes, upperEscapes_of_not_holds hslash]
  | p :: t => by
    by_cases h : Opens writeByte p t
    · obtain ⟨a, b, r, rfl, hp, hab⟩ := h
      have hopens : (CodePoint.is '%' p && (byteOf? a b).isSome) = true := by
        rw [Bool.and_eq_true]
        exact ⟨hp, hab⟩
      simp only [List.cons_append]
      rw [upperEscapes, if_pos hopens, upperEscapes, if_pos hopens, upperEscapes_append hu r]
      rfl
    · rw [List.cons_append, upperEscapes_cons (not_opens_append writeByte_slash h u),
        upperEscapes_cons h, upperEscapes_append hu t]
      rfl

/-- A component that goes on behind a slash without percent signs is escaped part by part. -/
theorem escapeRest_append {allowed : ByteClass} (hu : Text.holds '%' u = false) (t : Text) :
    escapeRest allowed (t ++ CodePoint.ofChar '/' :: u) =
      escapeRest allowed t ++ escape allowed (CodePoint.ofChar '/' :: u) := by
  have htail : Text.holds '%' (CodePoint.ofChar '/' :: u) = false := by
    simpa using ⟨by decide, hu⟩
  have hcount : (CodePoint.ofChar '/' :: u).countP (CodePoint.is '%') = 0 :=
    List.countP_eq_zero.2 fun p hp => by simp [Text.holds_eq_false.1 htail p hp]
  unfold escapeRest
  rw [upperEscapes_append hu t]
  dsimp only
  rw [List.countP_append, hcount, Nat.add_zero, escape_append]
  congr 1
  refine escape_congr (fun c hc => ?_) htail
  simp [hc]

theorem escapeRest_of_not_holds {allowed : ByteClass} (ht : Text.holds '%' t = false) :
    escapeRest allowed t = escape allowed t := by
  unfold escapeRest
  rw [upperEscapes_of_not_holds ht]
  exact escape_congr (fun c hc => by simp [hc]) ht

/-! ## Whole URLs -/

/-- May the digits be an escape? -/
def maybeByte (a b : CodePoint) : Bool := mayBeAlphanumeric a && mayBeAlphanumeric b

theorem maybeByte_slash (a : CodePoint) :
    maybeByte (CodePoint.ofChar '/') a = false ∧ maybeByte a (CodePoint.ofChar '/') = false := by
  have hslash : mayBeAlphanumeric (CodePoint.ofChar '/') = false := by decide
  simp [maybeByte, hslash]

theorem plainEscapes?_cons (h : ¬ Opens maybeByte p t) :
    plainEscapes? (p :: t) = (plainEscapes? t).map (p :: ·) := by
  match t with
  | [] => rfl
  | [a] => rfl
  | a :: b :: r =>
    rw [plainEscapes?, if_neg]
    · cases plainEscapes? (a :: b :: r) <;> rfl
    · intro hab
      rw [Bool.and_assoc, Bool.and_eq_true] at hab
      exact h ⟨a, b, r, rfl, hab.1, hab.2⟩

theorem plainEscapes?_append (u : Text) : ∀ t,
    plainEscapes? (t ++ CodePoint.ofChar '/' :: u) =
      (plainEscapes? t).bind fun t' => (plainEscapes? u).map (t' ++ CodePoint.ofChar '/' :: ·)
  | [] => by
    rw [List.nil_append, plainEscapes?_cons (not_opens (by decide))]
    rfl
  | p :: t => by
    by_cases h : Opens maybeByte p t
    · obtain ⟨a, b, r, rfl, hp, hab⟩ := h
      have hopens : (CodePoint.is '%' p && mayBeAlphanumeric a && mayBeAlphanumeric b) = true := by
        rw [Bool.and_assoc, Bool.and_eq_true]
        exact ⟨hp, hab⟩
      simp only [List.cons_append]
      rw [plainEscapes?, if_pos hopens, plainEscapes?, if_pos hopens, plainEscapes?_append u r]
      cases byteOf? a b with
      | none => rfl
      | some v =>
        simp only [Option.bind_eq_bind, Option.bind_some, Option.pure_def]
        by_cases hv : isUnreserved (Char.ofNat v.toNat) = true
        · rw [if_pos hv, if_pos hv]
          cases plainEscapes? r <;> cases plainEscapes? u <;> rfl
        · rw [if_neg hv, if_neg hv]
          cases plainEscapes? r <;> cases plainEscapes? u <;> rfl
    · rw [List.cons_append, plainEscapes?_cons (not_opens_append maybeByte_slash h u),
        plainEscapes?_cons h, plainEscapes?_append u t]
      cases plainEscapes? t <;> cases plainEscapes? u <;> rfl

/-- A text without percent signs holds no escapes. -/
theorem plainEscapes?_of_not_holds (h : Text.holds '%' t = false) : plainEscapes? t = some t := by
  induction t with
  | nil => rfl
  | cons p t ih =>
    obtain ⟨hp, ht⟩ : CodePoint.is '%' p = false ∧ Text.holds '%' t = false := by simpa using h
    rw [plainEscapes?_cons (not_opens hp), ih ht]
    rfl

theorem hexDigit_eq : ∀ n < 16,
    mayBeAlphanumeric (hexDigit n) = true ∧ hexValue? (hexDigit n) = some n := by decide

/-- An escape in front stays as it is, unless it stands for an unreserved character. -/
theorem plainEscapes?_escapeByte {b : UInt8} (hb : isUnreserved (Char.ofNat b.toNat) = false)
    (t : Text) :
    plainEscapes? (escapeByte b ++ t) = (plainEscapes? t).map (escapeByte b ++ ·) := by
  have hlt := b.toNat_lt
  obtain ⟨hhigh, hhighValue⟩ := hexDigit_eq (b.toNat / 16) (by omega)
  obtain ⟨hlow, hlowValue⟩ := hexDigit_eq (b.toNat % 16) (by omega)
  have hbyte : byteOf? (hexDigit (b.toNat / 16)) (hexDigit (b.toNat % 16)) = some b := by
    have hnat : 16 * (b.toNat / 16) + b.toNat % 16 = b.toNat := Nat.div_add_mod b.toNat 16
    unfold byteOf?
    simp only [hhighValue, hlowValue, Option.bind_eq_bind, Option.bind_some, Option.pure_def, hnat,
      UInt8.ofNat_toNat]
  have hpercent : CodePoint.is '%' (CodePoint.ofChar '%') = true := by decide
  have hopens : (CodePoint.is '%' (CodePoint.ofChar '%') &&
      mayBeAlphanumeric (hexDigit (b.toNat / 16)) &&
      mayBeAlphanumeric (hexDigit (b.toNat % 16))) = true := by
    rw [hpercent, hhigh, hlow]
    rfl
  simp only [escapeByte, List.cons_append, List.nil_append]
  rw [plainEscapes?, if_pos hopens, hbyte]
  simp only [Option.bind_eq_bind, Option.bind_some, Option.pure_def, hb]
  cases plainEscapes? t <;> rfl

/-- The escapes of an escaped text are necessary, if unreserved characters are kept. -/
theorem plainEscapes?_escape {keep : ByteClass} (hkeep : keep '%' = false)
    (hunreserved : ∀ c, isUnreserved c = true → keep c = true) (t : Text) :
    plainEscapes? (escape keep t) = some (escape keep t) := by
  have hbeyond : ∀ n < 0x100, 0x80 ≤ n → isUnreserved (Char.ofNat n) = false := by decide +kernel
  rw [escape_eq]
  induction encode t with
  | nil => rfl
  | cons b bytes ih =>
    rw [List.flatMap_cons]
    rcases escapeUnit_cases keep b with ⟨c, -, hc, hunit⟩ | ⟨hescaped, hunit⟩
    · have hp : CodePoint.is '%' (CodePoint.ofChar c) = false := by
        refine beq_eq_false_iff_ne.2 fun heq => ?_
        rw [CodePoint.ofChar_injective heq, hkeep] at hc
        cases hc
      rw [hunit, List.singleton_append, plainEscapes?_cons (not_opens hp), ih]
      rfl
    · have hlt := b.toNat_lt
      have hb : isUnreserved (Char.ofNat b.toNat) = false := by
        by_cases hascii : b.toNat < 0x80
        · have hchar := asciiChar?_eq_some.2 ⟨hascii, toNat_ofNat_of_lt (by omega)⟩
          by_contra hunres
          have hkept := hunreserved _ (by simpa using hunres)
          rw [hescaped _ hchar] at hkept
          cases hkept
        · exact hbeyond b.toNat (by omega) (by omega)
      rw [hunit, plainEscapes?_escapeByte hb, ih]
      rfl

/-- The class of what is kept in a URL that starts with `t`. -/
def keptInUrl (t : Text) : ByteClass := fun c =>
  isUnreserved c || isReserved c || ((plainEscapes? t).isSome && c == '%')

theorem requote_eq (t : Text) :
    requote t = escape (keptInUrl t) ((plainEscapes? t).getD t) := by
  unfold requote keptInUrl
  cases plainEscapes? t with
  | none => simp
  | some t' => simp

/-- A URL that goes on behind a slash with necessary escapes only is escaped part by part. -/
theorem requote_append (hu : plainEscapes? u = some u) (t : Text) :
    requote (t ++ CodePoint.ofChar '/' :: u) =
      requote t ++ CodePoint.ofChar '/' :: escape (keptInUrl t) u := by
  have hparts := plainEscapes?_append u t
  rw [hu] at hparts
  have hkept : keptInUrl (t ++ CodePoint.ofChar '/' :: u) = keptInUrl t := by
    unfold keptInUrl
    rw [hparts]
    cases plainEscapes? t <;> rfl
  have hplain : (plainEscapes? (t ++ CodePoint.ofChar '/' :: u)).getD
      (t ++ CodePoint.ofChar '/' :: u) = (plainEscapes? t).getD t ++ CodePoint.ofChar '/' :: u := by
    rw [hparts]
    cases plainEscapes? t <;> rfl
  have hslash : keptInUrl t '/' = true := by
    simp [keptInUrl, show isReserved '/' = true by decide]
  rw [requote_eq, requote_eq, hkept, hplain, escape_append,
    escape_cons_of_keep (by decide) hslash]

/-! ## What is escaped twice -/

/-- **What goes on behind a slash can be told apart in a URL.**  It is escaped as part of a
component, and then as part of the URL. -/
theorem eq_of_escape_escape {keep : ByteClass} (hkeep : keep '%' = false)
    (hkept : ∀ c, keep c = true → isUnreserved c = true ∨ isReserved c = true) {t u u' : Text}
    (h : escape (keptInUrl t) (escape keep u) = escape (keptInUrl t) (escape keep u')) :
    u = u' := by
  cases hplain : plainEscapes? t with
  | none =>
    have hpercent : keptInUrl t '%' = false := by
      simp [keptInUrl, hplain, show isUnreserved '%' = false by decide,
        show isReserved '%' = false by decide]
    exact escape_injective hkeep (escape_injective hpercent h)
  | some t' =>
    have hself : ∀ v, escape (keptInUrl t) (escape keep v) = escape keep v := by
      intro v
      refine escape_eq_self fun p hp => ?_
      obtain ⟨c, hc, hascii, hclass⟩ := mem_escape hp
      refine ⟨c, hc, hascii, ?_⟩
      rcases hclass with hc | rfl | hc
      · rcases hkept c hc with hc | hc <;> simp [keptInUrl, hc]
      · simp [keptInUrl, hplain]
      · simp [keptInUrl, isUnreserved, hc]
    rw [hself, hself] at h
    exact escape_injective hkeep h

/-- The same of what is escaped only once, as part of the URL. -/
theorem eq_of_escape {t u u' : Text} (hu : Text.holds '%' u = false)
    (hu' : Text.holds '%' u' = false) (h : escape (keptInUrl t) u = escape (keptInUrl t) u') :
    u = u' := by
  let keep : ByteClass := fun c => isUnreserved c || isReserved c
  have hkeep : ∀ c, c ≠ '%' → keptInUrl t c = keep c := fun c hc => by simp [keptInUrl, keep, hc]
  rw [escape_congr hkeep hu, escape_congr hkeep hu'] at h
  exact escape_injective (by decide) h

end Http

end JobMeter
