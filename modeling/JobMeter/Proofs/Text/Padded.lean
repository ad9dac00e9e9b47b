import JobMeter.Text.Digit
import Mathlib.Algebra.Ring.Nat
import Mathlib.Data.List.Induction
import Mathlib.Data.List.Lex
import Mathlib.Data.Char
import Mathlib.Order.Monotone.Basic

/-!
# Numerals of a fixed width

A numeral with zeros in front of it takes as many places as its field has.  Numerals of one width
are ordered as their numbers are, and so are texts that are made of such fields.

* `padded width n` — the last `width` ASCII digits of a number.  Each run of ASCII digits is the
  numeral of its number (`padded_decimalNumber`), and each number below `10 ^ width` is the number
  of its numeral (`decimalNumber_padded`).
* `append_lt_append_iff` — texts that begin with fields of one length are compared field by field.
* `padded_append_lt_iff` — **fixed fields are compared as numbers**.
* `step_lt_iff` — numbers on the steps of a stair are compared by their steps first;
  `exists_step` — each number lies on a step.
-/

namespace JobMeter.Text

/-! ## Stairs -/

section Stair

variable {f : Nat → Nat} {i j a b : Nat}

/-- Of two numbers on the steps of a stair the lower one is on the lower step, or lower on the same
step. -/
theorem step_lt_iff (hf : Monotone f) (ha : f i + a < f (i + 1)) (hb : f j + b < f (j + 1)) :
    f i + a < f j + b ↔ i < j ∨ i = j ∧ a < b := by
  rcases Nat.lt_trichotomy i j with hij | rfl | hji
  · have hstep : f (i + 1) ≤ f j := hf hij
    simp only [hij, true_or, iff_true]
    omega
  · simp
  · have hstep : f (j + 1) ≤ f i := hf hji
    simp only [hji.not_gt, hji.ne', false_and, or_false, iff_false]
    omega

/-- The steps of a stair leave nothing out. -/
theorem exists_step {low high n : Nat} (hlow : f low ≤ n) (hhigh : n < f high)
    (hle : low ≤ high) : ∃ i, low ≤ i ∧ i < high ∧ f i ≤ n ∧ n < f (i + 1) := by
  induction high, hle using Nat.le_induction with
  | base => omega
  | succ high hle ih =>
    by_cases h : n < f high
    · obtain ⟨i, hi, hlt, hstep⟩ := ih h
      exact ⟨i, hi, by omega, hstep⟩
    · exact ⟨high, hle, by omega, by omega, hhigh⟩

/-- The steps of equal height. -/
theorem mul_add_lt_iff {n i j a b : Nat} (ha : a < n) (hb : b < n) :
    i * n + a < j * n + b ↔ i < j ∨ i = j ∧ a < b := by
  have hmono : Monotone fun i => i * n := fun _ _ h => Nat.mul_le_mul_right n h
  have hstep {i a : Nat} (h : a < n) : i * n + a < (i + 1) * n := by
    rw [Nat.succ_mul]
    omega
  exact step_lt_iff hmono (hstep ha) (hstep hb)

end Stair

/-! ## Numerals -/

/-- The last `width` decimal digits of a number. -/
def padded : Nat → Nat → List Char
  | 0, _ => []
  | width + 1, n => padded width (n / 10) ++ [Nat.digitChar (n % 10)]

@[simp] theorem length_padded (width n : Nat) : (padded width n).length = width := by
  induction width generalizing n with
  | zero => rfl
  | succ width ih => rw [padded, List.length_append, ih, List.length_singleton]

theorem isAsciiDigit_iff {c : Char} :
    isAsciiDigit c = true ↔ ∃ d < 10, c = Nat.digitChar d := by
  rw [isAsciiDigit, Bool.and_eq_true, decide_eq_true_eq, decide_eq_true_eq]
  constructor
  · rintro ⟨hlow, hhigh⟩
    have hlow : 48 ≤ c.toNat := hlow
    have hhigh : c.toNat ≤ 57 := hhigh
    refine ⟨c.toNat - 48, by omega, Char.toNat_inj.1 ?_⟩
    rw [Nat.toNat_digitChar_of_lt_ten (by omega)]
    omega
  · rintro ⟨d, hd, rfl⟩
    have hnumber : (Nat.digitChar d).toNat = 48 + d := Nat.toNat_digitChar_of_lt_ten hd
    have hlow : 48 ≤ (Nat.digitChar d).toNat := by omega
    have hhigh : (Nat.digitChar d).toNat ≤ 57 := by omega
    exact ⟨hlow, hhigh⟩

theorem isAsciiDigit_of_mem_padded {width n : Nat} {c : Char} (h : c ∈ padded width n) :
    isAsciiDigit c = true := by
  induction width generalizing n with
  | zero => exact absurd h List.not_mem_nil
  | succ width ih =>
    rcases List.mem_append.1 h with h | h
    · exact ih h
    · rw [List.mem_singleton] at h
      exact isAsciiDigit_iff.2 ⟨n % 10, Nat.mod_lt n (by decide), h⟩

theorem digitValue?_digitChar {d : Nat} (hd : d < 10) : digitValue? (Nat.digitChar d) = some d := by
  have hdigit := isAsciiDigit_iff.2 ⟨d, hd, rfl⟩
  rw [isAsciiDigit, Bool.and_eq_true, decide_eq_true_eq, decide_eq_true_eq] at hdigit
  have hzero : '0'.toNat = 48 := rfl
  rw [digitValue?, if_pos hdigit, hzero, Nat.toNat_digitChar_sub_48_of_lt_ten hd]

/-- The decimal digits among the ASCII characters are the ASCII digits. -/
theorem isAsciiDigit_of_isDecimal {c : Char} (hc : c.toNat < 128) (h : isDecimal c = true) :
    isAsciiDigit c = true := by
  rw [isDecimal, digitValue?] at h
  split at h
  · rename_i hdigit
    simpa [isAsciiDigit] using hdigit
  · rw [if_pos (by omega)] at h
    cases h

theorem isDecimal_of_isAsciiDigit {c : Char} (h : isAsciiDigit c = true) : isDecimal c = true := by
  obtain ⟨d, hd, rfl⟩ := isAsciiDigit_iff.1 h
  rw [isDecimal, digitValue?_digitChar hd]
  rfl

theorem toNat_lt_of_isAsciiDigit {c : Char} (h : isAsciiDigit c = true) : c.toNat < 128 := by
  obtain ⟨d, hd, rfl⟩ := isAsciiDigit_iff.1 h
  rw [Nat.toNat_digitChar_of_lt_ten hd]
  omega

theorem decimalNumber_concat {cs : List Char} {d : Nat} (hd : d < 10) :
    decimalNumber (cs ++ [Nat.digitChar d]) = 10 * decimalNumber cs + d := by
  rw [decimalNumber, List.foldl_append, List.foldl_cons, List.foldl_nil, digitValue?_digitChar hd]
  rfl

theorem decimalNumber_padded {width n : Nat} (h : n < 10 ^ width) :
    decimalNumber (padded width n) = n := by
  induction width generalizing n with
  | zero =>
    rw [Nat.pow_zero, Nat.lt_one_iff] at h
    rw [h]
    rfl
  | succ width ih =>
    rw [Nat.pow_succ] at h
    rw [padded, decimalNumber_concat (Nat.mod_lt n (by decide)), ih (by omega)]
    omega

/-- A run of ASCII digits is the numeral of its number. -/
theorem padded_decimalNumber {cs : List Char} (h : ∀ c ∈ cs, isAsciiDigit c = true) :
    padded cs.length (decimalNumber cs) = cs := by
  induction cs using List.reverseRecOn with
  | nil => rfl
  | append_singleton cs c ih =>
    obtain ⟨d, hd, rfl⟩ := isAsciiDigit_iff.1 (h c (by simp))
    have hrest : (10 * decimalNumber cs + d) / 10 = decimalNumber cs := by omega
    have hlast : (10 * decimalNumber cs + d) % 10 = d := by omega
    rw [decimalNumber_concat hd, List.length_append, List.length_singleton, padded, hrest, hlast,
      ih fun c hc => h c (List.mem_append_left _ hc)]

/-! ## The order of texts with fixed fields -/

theorem append_lt_append_iff {a a' b b' : List Char} (h : a.length = a'.length) :
    a ++ b < a' ++ b' ↔ a < a' ∨ a = a' ∧ b < b' := by
  induction a generalizing a' with
  | nil =>
    obtain rfl := List.length_eq_zero_iff.1 h.symm
    simp
  | cons c a ih =>
    cases a' with
    | nil => cases h
    | cons c' a' =>
      rw [List.cons_append, List.cons_append, List.cons_lt_cons_iff, List.cons_lt_cons_iff,
        ih (Nat.succ.inj h), List.cons.injEq]
      tauto

theorem digitChar_lt_iff {d d' : Nat} (hd : d < 10) (hd' : d' < 10) :
    Nat.digitChar d < Nat.digitChar d' ↔ d < d' := by
  have hnumber : (Nat.digitChar d).toNat = 48 + d := Nat.toNat_digitChar_of_lt_ten hd
  have hnumber' : (Nat.digitChar d').toNat = 48 + d' := Nat.toNat_digitChar_of_lt_ten hd'
  show (Nat.digitChar d).toNat < (Nat.digitChar d').toNat ↔ d < d'
  omega

theorem padded_inj {width n n' : Nat} (hn : n < 10 ^ width) (hn' : n' < 10 ^ width) :
    padded width n = padded width n' ↔ n = n' := by
  constructor
  · intro h
    rw [← decimalNumber_padded hn, h, decimalNumber_padded hn']
  · rintro rfl
    rfl

theorem padded_lt_padded_iff {width n n' : Nat} (hn : n < 10 ^ width) (hn' : n' < 10 ^ width) :
    padded width n < padded width n' ↔ n < n' := by
  induction width generalizing n n' with
  | zero =>
    rw [Nat.pow_zero] at hn hn'
    simp only [padded, List.lt_irrefl, false_iff]
    omega
  | succ width ih =>
    rw [Nat.pow_succ] at hn hn'
    have hlast : n % 10 < 10 := Nat.mod_lt n (by decide)
    have hlast' : n' % 10 < 10 := Nat.mod_lt n' (by decide)
    rw [padded, padded, append_lt_append_iff (by simp), ih (by omega) (by omega),
      padded_inj (by omega) (by omega), List.cons_lt_cons_iff, digitChar_lt_iff hlast hlast']
    simp only [List.lt_irrefl, and_false, or_false]
    omega

/-- **Fixed fields are compared as numbers.** -/
theorem padded_append_lt_iff {width n n' : Nat} (hn : n < 10 ^ width) (hn' : n' < 10 ^ width)
    (b b' : List Char) :
    padded width n ++ b < padded width n' ++ b' ↔ n < n' ∨ n = n' ∧ b < b' := by
  rw [append_lt_append_iff (by simp), padded_lt_padded_iff hn hn', padded_inj hn hn']

end JobMeter.Text
