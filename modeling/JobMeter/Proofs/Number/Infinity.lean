import JobMeter.Number.Style
import Mathlib

/-!
# Doubles above zero

Nothing but infinity is above zero and not finite: what is not a number is above nothing.

* `Number.isFinite_eq` — a double is taken apart exactly if it is finite.
* `Number.zero_lt_iff` — what the doubles above zero unpack to.
* `Number.eq_infinity_of_not_isFinite` — **the double above zero that is not finite**.
-/

namespace JobMeter.Number

open Float.Model Float.Model.UnpackedFloat

/-- The infinite double above all others. -/
def infinity : Float := 1.0 / 0.0

theorem isFinite_infinity : isFinite infinity = false := by
  decide +kernel

/-! ## The bits of a double -/

theorem toBits_injective {x y : Float} (h : x.toBits = y.toBits) : x = y := by
  obtain ⟨⟨b, hb⟩⟩ := x
  obtain ⟨⟨c, hc⟩⟩ := y
  obtain rfl : b = c := h
  rfl

theorem toNat_unpackMantissa (x : Float) :
    (@unpackMantissa .binary64 x.toBits.toBitVec).toNat = x.toBits.toNat % 0x10000000000000 := by
  rw [unpackMantissa, BitVec.toNat_cast, BitVec.extractLsb_toNat, Nat.shiftRight_zero]
  rfl

theorem toNat_unpackExponent (x : Float) :
    (@unpackExponent .binary64 x.toBits.toBitVec).toNat =
      x.toBits.toNat / 0x10000000000000 % 0x800 := by
  rw [unpackExponent, BitVec.toNat_cast, BitVec.extractLsb_toNat, Nat.shiftRight_eq_div_pow]
  rfl

theorem toNat_unpackSign (x : Float) :
    (@unpackSign .binary64 x.toBits.toBitVec).toNat =
      x.toBits.toNat / 0x8000000000000000 % 2 := by
  rw [unpackSign, BitVec.toNat_cast, BitVec.extractLsb_toNat, Nat.shiftRight_eq_div_pow]
  rfl

/-- The exponent that marks what is not finite. -/
theorem unpackExponent_eq_iff (x : Float) :
    @unpackExponent .binary64 x.toBits.toBitVec = -1#_ ↔
      x.toBits.toNat / 0x10000000000000 % 0x800 = 2047 := by
  rw [← BitVec.toNat_inj, toNat_unpackExponent]
  rfl

theorem isFinite_eq (x : Float) : isFinite x = x.isFinite := by
  have hx : x.isFinite = (UnpackedFloat.unpack .binary64 x.toBits.toBitVec).isFinite := rfl
  rw [hx, isFinite, Binary.ofFloat?, UnpackedFloat.unpack]
  by_cases he : x.toBits.toNat / 0x10000000000000 % 0x800 = 2047
  · rw [if_pos he, if_pos ((unpackExponent_eq_iff x).2 he)]
    split <;> rfl
  · rw [if_neg he, if_neg fun h => he ((unpackExponent_eq_iff x).1 h)]
    split <;> split <;> (try split) <;> rfl

/-- Only one double unpacks to infinity. -/
theorem eq_infinity_of_unpack {x : Float} (h : x.toModel.unpack = .infinity .positive) :
    x = infinity := by
  have hx : x.toModel.unpack = UnpackedFloat.unpack .binary64 x.toBits.toBitVec := rfl
  rw [hx, UnpackedFloat.unpack] at h
  split at h
  case isFalse =>
    split at h
    · split at h <;> cases h
    · cases h
  case isTrue he =>
    split at h
    case isFalse => cases h
    case isTrue hm =>
      have hs : @unpackSign .binary64 x.toBits.toBitVec = 0#1 := by
        by_contra hs
        rw [Sign.ofBitVec, if_neg hs] at h
        cases h
      have hexponent := (unpackExponent_eq_iff x).1 he
      have hmantissa : x.toBits.toNat % 0x10000000000000 = 0 := by
        rw [← toNat_unpackMantissa, hm]
        rfl
      have hsign : x.toBits.toNat / 0x8000000000000000 % 2 = 0 := by
        rw [← toNat_unpackSign, hs]
        rfl
      have hbits : x.toBits.toNat = 0x7FF0000000000000 := by
        have hlt := x.toBits.toNat_lt
        omega
      have hinfinity : infinity.toBits = 0x7FF0000000000000 := by decide +kernel
      apply toBits_injective
      rw [hinfinity, ← UInt64.toNat_inj, hbits]
      rfl

/-! ## The order of doubles -/

/-- A double is above zero exactly if it is infinite or a number, with the sign of such. -/
theorem zero_lt_iff (x : Float) : 0 < x ↔
    x.toModel.unpack = .infinity .positive ∨
      ∃ m e h, x.toModel.unpack = .finite .positive m e h := by
  have hzero : (0 : Float).toModel.unpack = .zero .positive := rfl
  have hlt : 0 < x ↔ UnpackedFloat.lt (0 : Float).toModel.unpack x.toModel.unpack = true :=
    decide_eq_true_iff
  rw [hlt, hzero, UnpackedFloat.lt]
  cases x.toModel.unpack with
  | notANumber => simp [UnpackedFloat.compare]
  | infinity s => cases s <;> simp [UnpackedFloat.compare]
  | zero s => simp [UnpackedFloat.compare]
  | finite s m e h => cases s <;> simp [UnpackedFloat.compare, h]

/-- A double above zero is finite, or it is infinity. -/
theorem eq_infinity_of_not_isFinite {x : Float} (h : 0 < x) (hx : isFinite x = false) :
    x = infinity := by
  rcases (zero_lt_iff x).1 h with hinf | ⟨m, e, hm, hfin⟩
  · exact eq_infinity_of_unpack hinf
  · rw [isFinite_eq, Float.isFinite, Float.Model.isFinite, hfin] at hx
    cases hx

end JobMeter.Number
