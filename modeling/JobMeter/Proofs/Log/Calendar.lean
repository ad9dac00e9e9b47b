import JobMeter.Log.Timestamp
import Mathlib.Algebra.Ring.Nat
import Mathlib.Data.List.Induction
import Mathlib.Order.Monotone.Basic

/-!
# The range of timestamps

The calendar of the years 1 to 9999 has 3652059 days.  A date that it has lies before the start of
the year after its own, and so an instant of these years is one of 315537897600000000 microseconds.

* `Calendar.daysBeforeYear_succ`, `Calendar.daysBeforeMonth_succ` — years and months follow each
  other without a gap.
* `Moment.daysBefore_lt` — a date lies in its year.
* `instant?_lt` — **the instants of timestamps end with the year 9999**.
-/

namespace JobMeter.Log

open JobMeter.Text

/-! ## Days -/

namespace Calendar

/-- The number of days of a year. -/
def daysInYear (year : Nat) : Nat := if isLeap year then 366 else 365

theorem isLeap_iff (year : Nat) :
    isLeap year = true ↔ year % 4 = 0 ∧ (year % 100 ≠ 0 ∨ year % 400 = 0) := by
  simp [isLeap]

theorem daysBeforeYear_succ {year : Nat} (h : 1 ≤ year) :
    daysBeforeYear (year + 1) = daysBeforeYear year + daysInYear year := by
  have hstep (n : Nat) : year / n = (year - 1) / n + if year % n = 0 then 1 else 0 := by
    obtain ⟨y, rfl⟩ := Nat.exists_eq_add_of_le' h
    rw [Nat.add_sub_cancel, Nat.succ_div]
    simp only [Nat.dvd_iff_mod_eq_zero]
  have hle : (year - 1) / 100 ≤ (year - 1) / 4 := Nat.div_le_div_left (by decide) (by decide)
  simp only [daysBeforeYear, Nat.add_sub_cancel, daysInYear, isLeap_iff, hstep 4, hstep 100,
    hstep 400]
  -- of the three kinds of centuries and years each one that counts is of the kind before, too
  by_cases h4 : year % 4 = 0
  · by_cases h100 : year % 100 = 0
    · by_cases h400 : year % 400 = 0 <;> simp [h4, h100, h400] <;> omega
    · have h400 : year % 400 ≠ 0 := by omega
      simp [h4, h100, h400]
      omega
  · have h100 : year % 100 ≠ 0 := by omega
    have h400 : year % 400 ≠ 0 := by omega
    simp [h4, h100, h400]
    omega

theorem monotone_daysBeforeYear : Monotone daysBeforeYear := by
  refine monotone_nat_of_le_succ fun year => ?_
  cases year with
  | zero => exact le_rfl
  | succ year => exact (daysBeforeYear_succ year.succ_pos).symm ▸ Nat.le_add_right _ _

theorem daysBeforeMonth_succ (year : Nat) {month : Nat} (h : 1 ≤ month) :
    daysBeforeMonth year (month + 1) = daysBeforeMonth year month + daysInMonth year month := by
  obtain ⟨month, rfl⟩ := Nat.exists_eq_add_of_le' h
  rfl

theorem monotone_daysBeforeMonth (year : Nat) : Monotone (daysBeforeMonth year) := by
  refine monotone_nat_of_le_succ fun month => ?_
  cases month with
  | zero => exact le_rfl
  | succ month => exact (daysBeforeMonth_succ year month.succ_pos).symm ▸ Nat.le_add_right _ _

/-- The twelve months make up the year. -/
theorem daysBeforeMonth_thirteen (year : Nat) : daysBeforeMonth year 13 = daysInYear year := by
  simp only [daysBeforeMonth, daysInMonth, daysInYear]
  split <;> rfl

end Calendar

/-! ## Moments -/

namespace Moment

/-- The ranges of the fields of a moment that the calendar has. -/
theorem valid_iff {m : Moment} :
    m.valid = true ↔ (1 ≤ m.year ∧ m.year ≤ 9999) ∧ (1 ≤ m.month ∧ m.month ≤ 12) ∧
      (1 ≤ m.day ∧ m.day ≤ Calendar.daysInMonth m.year m.month) ∧
      m.hour ≤ 23 ∧ m.minute ≤ 59 ∧ m.second ≤ 59 := by
  simp [valid, and_assoc]

/-- A date lies before the start of the next month. -/
theorem day_lt {m : Moment} (h : m.valid = true) :
    Calendar.daysBeforeMonth m.year m.month + (m.day - 1) <
      Calendar.daysBeforeMonth m.year (m.month + 1) := by
  obtain ⟨-, ⟨hmonth, -⟩, ⟨hday, hday'⟩, -⟩ := valid_iff.1 h
  rw [Calendar.daysBeforeMonth_succ m.year hmonth]
  omega

/-- A date lies before the start of the next year. -/
theorem daysBefore_lt {m : Moment} (h : m.valid = true) :
    m.daysBefore < Calendar.daysBeforeYear (m.year + 1) := by
  obtain ⟨⟨hyear, -⟩, ⟨-, hmonth⟩, -⟩ := valid_iff.1 h
  have hrest : Calendar.daysBeforeMonth m.year (m.month + 1) ≤ Calendar.daysInYear m.year := by
    rw [← Calendar.daysBeforeMonth_thirteen]
    exact Calendar.monotone_daysBeforeMonth m.year (Nat.succ_le_succ hmonth)
  have hday := day_lt h
  rw [daysBefore, Calendar.daysBeforeYear_succ hyear]
  omega

/-- The seconds up to the end of the year 9999. -/
theorem seconds_lt {m : Moment} (h : m.valid = true) : m.seconds < 315537897600 := by
  obtain ⟨⟨-, hyear⟩, -, -, hhour, hminute, hsecond⟩ := valid_iff.1 h
  have hlast : Calendar.daysBeforeYear (m.year + 1) ≤ 3652059 :=
    Calendar.monotone_daysBeforeYear (Nat.succ_le_succ hyear)
  have hdays := daysBefore_lt h
  rw [seconds]
  omega

end Moment

/-! ## Fractions -/

theorem digitValue?_lt {c : Char} {d : Nat} (h : digitValue? c = some d) : d < 10 := by
  rw [digitValue?] at h
  split at h
  · rename_i hc
    have hle : c.toNat ≤ 57 := hc.2
    rw [Option.some.injEq] at h
    have hzero : '0'.toNat = 48 := rfl
    omega
  · split at h
    · cases h
    · obtain ⟨z, hz, rfl⟩ := Option.map_eq_some_iff.1 h
      have := List.find?_some hz
      simp only [Bool.and_eq_true, decide_eq_true_eq] at this
      omega

theorem decimalNumber_lt (cs : List Char) : decimalNumber cs < 10 ^ cs.length := by
  induction cs using List.reverseRecOn with
  | nil => exact Nat.one_pos
  | append_singleton cs c ih =>
    have hdigit : (digitValue? c).getD 0 < 10 := by
      cases h : digitValue? c with
      | none => exact Nat.succ_pos 9
      | some d => exact digitValue?_lt h
    rw [decimalNumber] at ih ⊢
    rw [List.foldl_append, List.foldl_cons, List.foldl_nil, List.length_append,
      List.length_singleton, Nat.pow_succ]
    omega

theorem microseconds_lt (fraction : List Char) : microseconds fraction < 1000000 := by
  have hlength : (fraction.take 6 ++
      List.replicate (6 - (fraction.take 6).length) '0').length = 6 := by
    rw [List.length_append, List.length_replicate]
    have := List.length_take_le 6 fraction
    omega
  have hnumber := decimalNumber_lt
    (fraction.take 6 ++ List.replicate (6 - (fraction.take 6).length) '0')
  rw [hlength] at hnumber
  exact hnumber

/-- **Timestamps end with the year 9999.** -/
theorem instant?_lt {date fraction : List Char} {i : Instant}
    (h : instant? date fraction = some i) : i < 315537897600000000 := by
  obtain ⟨m, -, hm⟩ := Option.bind_eq_some_iff.1 h
  split at hm
  · rename_i hvalid
    obtain rfl : m.seconds * 1000000 + microseconds fraction = i := Option.some.inj hm
    have hseconds := Moment.seconds_lt hvalid
    have hmicros := microseconds_lt fraction
    show (_ : Nat) < _
    omega
  · cases hm

end JobMeter.Log
