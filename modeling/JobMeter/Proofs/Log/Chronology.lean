import JobMeter.Proofs.Log.Calendar
import JobMeter.Proofs.Text.Padded

/-!
# Timestamps as an order

The date part of a timestamp is six fields of fixed widths, the greatest first, and the calendar
leaves no gap between its days.  So timestamps are ordered as texts as their instants are in time,
and each microsecond of the years 1 to 9999 has one timestamp.

* `Moment.date` — the date part that names a moment.  An ASCII text of the shape of a date part
  is that of some moment (`Moment.exists_date`) and is read as that moment (`Moment.instant?_date`).
* `Moment.Earlier` — the order of moments, field by field.  It is that of the date parts
  (`Moment.date_lt_iff`) and that of the seconds (`Moment.seconds_lt_iff`).
* `Moment.exists_seconds` — each second of the years 1 to 9999 is one of a moment.
* `timestamps_order_instants` — **timestamps are the microseconds of the calendar in their order**.
-/

namespace JobMeter.Log

open JobMeter.Text

/-! ## Fields of a date part -/

namespace Field

theorem month_value? : ∀ n < 100,
    month.value? (Nat.digitChar (n / 10 % 10)) (Nat.digitChar (n % 10)) =
      if 1 ≤ n ∧ n ≤ 12 then some n else none := by
  decide

theorem day_value? : ∀ n < 100,
    day.value? (Nat.digitChar (n / 10 % 10)) (Nat.digitChar (n % 10)) =
      if 1 ≤ n ∧ n ≤ 31 then some n else none := by
  decide

theorem hour_value? : ∀ n < 100,
    hour.value? (Nat.digitChar (n / 10 % 10)) (Nat.digitChar (n % 10)) =
      if n ≤ 23 then some n else none := by
  decide

theorem sixtieth_value? : ∀ n < 100,
    sixtieth.value? (Nat.digitChar (n / 10 % 10)) (Nat.digitChar (n % 10)) =
      if n ≤ 59 then some n else none := by
  decide

end Field

theorem Calendar.daysInMonth_le (year month : Nat) : daysInMonth year month ≤ 31 := by
  unfold daysInMonth
  split
  · split <;> decide
  · decide
  · decide
  · decide
  · decide
  · decide

namespace Moment

/-! ## Date parts -/

/-- Four places hold the year and two each other field. -/
structure Fits (m : Moment) : Prop where
  year : m.year < 10 ^ 4
  month : m.month < 10 ^ 2
  day : m.day < 10 ^ 2
  hour : m.hour < 10 ^ 2
  minute : m.minute < 10 ^ 2
  second : m.second < 10 ^ 2

theorem fits_of_valid {m : Moment} (h : m.valid = true) : m.Fits := by
  obtain ⟨⟨-, hyear⟩, ⟨-, hmonth⟩, ⟨-, hday⟩, hhour, hminute, hsecond⟩ := valid_iff.1 h
  have hlast := Calendar.daysInMonth_le m.year m.month
  constructor <;> omega

/-- The date part that names a moment. -/
def date (m : Moment) : List Char :=
  padded 4 m.year ++ '-' :: (padded 2 m.month ++ '-' :: (padded 2 m.day ++
    'T' :: (padded 2 m.hour ++ ':' :: (padded 2 m.minute ++ ':' :: padded 2 m.second))))

/-- A date part that names a moment is read field by field, each within its own range. -/
theorem ofDate?_date {m : Moment} (h : m.Fits) :
    ofDate? m.date =
      if (1 ≤ m.month ∧ m.month ≤ 12) ∧ (1 ≤ m.day ∧ m.day ≤ 31) ∧ m.hour ≤ 23 ∧ m.minute ≤ 59 ∧
        m.second ≤ 59 then some m else none := by
  have hyear : decimalNumber _ = m.year := decimalNumber_padded h.year
  simp only [padded, List.nil_append, List.cons_append] at hyear
  simp only [date, padded, List.nil_append, List.cons_append, ofDate?, hyear,
    Field.month_value? _ h.month, Field.day_value? _ h.day, Field.hour_value? _ h.hour,
    Field.sixtieth_value? _ h.minute, Field.sixtieth_value? _ h.second]
  have hbind {α : Type} (p : Prop) [Decidable p] (n : Nat) (f : Nat → Option α) :
      ((if p then some n else none) >>= f) = if p then f n else none := by
    by_cases hp : p <;> simp [hp]
  simp only [hbind]
  simp only [ite_and, Option.pure_def]


/-- A date part names a moment that the calendar has, or no instant. -/
theorem instant?_date {m : Moment} (h : m.Fits) (fraction : List Char) :
    instant? m.date fraction =
      if m.valid then some (m.seconds * 1000000 + microseconds fraction) else none := by
  rw [instant?, ofDate?_date h]
  by_cases hvalid : m.valid = true
  · obtain ⟨-, hmonth, ⟨hday, hday'⟩, htime⟩ := valid_iff.1 hvalid
    have hlast := Calendar.daysInMonth_le m.year m.month
    rw [if_pos ⟨hmonth, ⟨hday, by omega⟩, htime⟩]
    rfl
  · rw [if_neg hvalid]
    split
    · exact if_neg hvalid
    · rfl

/-! ## The order of moments -/

/-- The order of moments, field by field. -/
def Earlier (m m' : Moment) : Prop :=
  m.year < m'.year ∨ m.year = m'.year ∧ (m.month < m'.month ∨ m.month = m'.month ∧
    (m.day < m'.day ∨ m.day = m'.day ∧ (m.hour < m'.hour ∨ m.hour = m'.hour ∧
      (m.minute < m'.minute ∨ m.minute = m'.minute ∧ m.second < m'.second))))

theorem date_lt_iff {m m' : Moment} (h : m.Fits) (h' : m'.Fits) :
    m.date < m'.date ↔ m.Earlier m' := by
  simp only [date, Earlier, padded_append_lt_iff h.year h'.year,
    padded_append_lt_iff h.month h'.month, padded_append_lt_iff h.day h'.day,
    padded_append_lt_iff h.hour h'.hour, padded_append_lt_iff h.minute h'.minute,
    padded_lt_padded_iff h.second h'.second, List.cons_lt_cons_self]

theorem daysBefore_lt_iff {m m' : Moment} (h : m.valid = true) (h' : m'.valid = true) :
    m.daysBefore < m'.daysBefore ↔ m.year < m'.year ∨ m.year = m'.year ∧
      (m.month < m'.month ∨ m.month = m'.month ∧ m.day < m'.day) := by
  have hyear := daysBefore_lt h
  have hyear' := daysBefore_lt h'
  simp only [daysBefore, Nat.add_assoc] at hyear hyear' ⊢
  rw [step_lt_iff Calendar.monotone_daysBeforeYear hyear hyear']
  refine or_congr_right (and_congr_right fun heq => ?_)
  have hmonth := day_lt h
  rw [heq] at hmonth ⊢
  rw [step_lt_iff (Calendar.monotone_daysBeforeMonth m'.year) hmonth (day_lt h')]
  obtain ⟨-, -, ⟨hday, -⟩, -⟩ := valid_iff.1 h
  obtain ⟨-, -, ⟨hday', -⟩, -⟩ := valid_iff.1 h'
  omega

theorem seconds_lt_iff {m m' : Moment} (h : m.valid = true) (h' : m'.valid = true) :
    m.seconds < m'.seconds ↔ m.Earlier m' := by
  have hlt := daysBefore_lt_iff h h'
  have hgt := daysBefore_lt_iff h' h
  obtain ⟨-, -, -, hhour, hminute, hsecond⟩ := valid_iff.1 h
  obtain ⟨-, -, -, hhour', hminute', hsecond'⟩ := valid_iff.1 h'
  have hdays : m.seconds < m'.seconds ↔ m.daysBefore < m'.daysBefore ∨
      m.daysBefore = m'.daysBefore ∧ (m.hour < m'.hour ∨ m.hour = m'.hour ∧
        (m.minute < m'.minute ∨ m.minute = m'.minute ∧ m.second < m'.second)) := by
    rw [seconds, seconds]
    omega
  rw [hdays, Earlier]
  omega

theorem eq_of_not_earlier {m m' : Moment} (h : ¬ m.Earlier m') (h' : ¬ m'.Earlier m) : m = m' := by
  obtain ⟨year, month, day, hour, minute, second⟩ := m
  obtain ⟨year', month', day', hour', minute', second'⟩ := m'
  simp only [Earlier] at h h'
  simp only [mk.injEq]
  omega

/-- What is ordered like moments is equal for the same moment only. -/
theorem eq_iff_of_lt_iff {α : Type} [LT α] (hirrefl : ∀ a : α, ¬ a < a) {f : Moment → α}
    {m m' : Moment} (hlt : f m < f m' ↔ m.Earlier m') (hgt : f m' < f m ↔ m'.Earlier m) :
    f m = f m' ↔ m = m' := by
  constructor
  · intro heq
    refine eq_of_not_earlier ?_ ?_
    · rw [← hlt, heq]
      exact hirrefl _
    · rw [← hgt, heq]
      exact hirrefl _
  · rintro rfl
    rfl

theorem date_inj {m m' : Moment} (h : m.Fits) (h' : m'.Fits) : m.date = m'.date ↔ m = m' :=
  eq_iff_of_lt_iff List.lt_irrefl (date_lt_iff h h') (date_lt_iff h' h)

theorem seconds_inj {m m' : Moment} (h : m.valid = true) (h' : m'.valid = true) :
    m.seconds = m'.seconds ↔ m = m' :=
  eq_iff_of_lt_iff Nat.lt_irrefl (seconds_lt_iff h h') (seconds_lt_iff h' h)

/-- Each second of the years 1 to 9999 is one of a moment. -/
theorem exists_seconds {n : Nat} (h : n < 315537897600) :
    ∃ m : Moment, m.valid = true ∧ m.seconds = n := by
  have hdays : n / 86400 < 3652059 := by omega
  obtain ⟨year, hyear, hyear', hfrom, hto⟩ := exists_step
    (show Calendar.daysBeforeYear 1 ≤ n / 86400 from Nat.zero_le _)
    (show n / 86400 < Calendar.daysBeforeYear 10000 from hdays) (by decide)
  rw [Calendar.daysBeforeYear_succ hyear] at hto
  have hrest : n / 86400 - Calendar.daysBeforeYear year < Calendar.daysBeforeMonth year 13 := by
    rw [Calendar.daysBeforeMonth_thirteen]
    omega
  obtain ⟨month, hmonth, hmonth', hfrom', hto'⟩ := exists_step
    (show Calendar.daysBeforeMonth year 1 ≤ _ from Nat.zero_le _) hrest (by decide)
  rw [Calendar.daysBeforeMonth_succ year hmonth] at hto'
  refine ⟨⟨year, month,
    n / 86400 - Calendar.daysBeforeYear year - Calendar.daysBeforeMonth year month + 1,
    n / 3600 % 24, n / 60 % 60, n % 60⟩, ?_, ?_⟩
  · refine valid_iff.2 ⟨⟨hyear, ?_⟩, ⟨hmonth, ?_⟩, ⟨?_, ?_⟩, ?_, ?_, ?_⟩ <;> dsimp only <;> omega
  · simp only [seconds, daysBefore]
    omega

end Moment

/-! ## Fields of a shape -/

/-- ASCII digits at the start of a shape are a numeral of their width. -/
theorem exists_padded_of_fills (width : Nat) {ps : List Place} {cs : List Char}
    (h : fills (List.replicate width .digit ++ ps) cs = true) (hascii : ∀ c ∈ cs, c.toNat < 128) :
    ∃ n < 10 ^ width, ∃ rest, cs = padded width n ++ rest ∧ fills ps rest = true ∧
      ∀ c ∈ rest, c.toNat < 128 := by
  have hdigits : ∃ ds rest, cs = ds ++ rest ∧ ds.length = width ∧
      (∀ c ∈ ds, isAsciiDigit c = true) ∧ fills ps rest = true := by
    induction width generalizing cs with
    | zero => exact ⟨[], cs, rfl, rfl, by simp, h⟩
    | succ width ih =>
      cases cs with
      | nil => cases h
      | cons c cs =>
        rw [List.replicate_succ, List.cons_append, fills, Bool.and_eq_true] at h
        obtain ⟨ds, rest, rfl, hlength, hds, hrest⟩ :=
          ih h.2 fun c hc => hascii c (List.mem_cons_of_mem _ hc)
        have hc := isAsciiDigit_of_isDecimal (hascii c (by simp)) h.1
        exact ⟨c :: ds, rest, rfl, by simp [hlength], by simpa [hc] using hds, hrest⟩
  obtain ⟨ds, rest, rfl, rfl, hds, hrest⟩ := hdigits
  refine ⟨decimalNumber ds, decimalNumber_lt ds, rest, ?_, hrest,
    fun c hc => hascii c (List.mem_append_right _ hc)⟩
  rw [padded_decimalNumber hds]

/-- A mark of a shape stands in the text. -/
theorem exists_mark_of_fills {m : Char} {ps : List Place} {cs : List Char}
    (h : fills (.mark m :: ps) cs = true) (hascii : ∀ c ∈ cs, c.toNat < 128) :
    ∃ rest, cs = m :: rest ∧ fills ps rest = true ∧ ∀ c ∈ rest, c.toNat < 128 := by
  cases cs with
  | nil => cases h
  | cons c cs =>
    rw [fills, Bool.and_eq_true] at h
    obtain rfl : m = c := by simpa [Place.admits] using h.1
    exact ⟨cs, rfl, h.2, fun c hc => hascii c (List.mem_cons_of_mem _ hc)⟩

/-- An ASCII text of the shape of a date part names a moment. -/
theorem Moment.exists_date {cs : List Char} (h : fills dateShape cs = true)
    (hascii : ∀ c ∈ cs, c.toNat < 128) : ∃ m : Moment, m.Fits ∧ cs = m.date := by
  obtain ⟨year, hyear, cs, rfl, h, hascii⟩ := exists_padded_of_fills 4 h hascii
  obtain ⟨cs, rfl, h, hascii⟩ := exists_mark_of_fills h hascii
  obtain ⟨month, hmonth, cs, rfl, h, hascii⟩ := exists_padded_of_fills 2 h hascii
  obtain ⟨cs, rfl, h, hascii⟩ := exists_mark_of_fills h hascii
  obtain ⟨day, hday, cs, rfl, h, hascii⟩ := exists_padded_of_fills 2 h hascii
  obtain ⟨cs, rfl, h, hascii⟩ := exists_mark_of_fills h hascii
  obtain ⟨hour, hhour, cs, rfl, h, hascii⟩ := exists_padded_of_fills 2 h hascii
  obtain ⟨cs, rfl, h, hascii⟩ := exists_mark_of_fills h hascii
  obtain ⟨minute, hminute, cs, rfl, h, hascii⟩ := exists_padded_of_fills 2 h hascii
  obtain ⟨cs, rfl, h, hascii⟩ := exists_mark_of_fills h hascii
  obtain ⟨second, hsecond, cs, rfl, h, hascii⟩ := exists_padded_of_fills 2 h hascii
  obtain rfl : cs = [] := by
    cases cs with
    | nil => rfl
    | cons c cs => cases h
  exact ⟨⟨year, month, day, hour, minute, second⟩,
    ⟨hyear, hmonth, hday, hhour, hminute, hsecond⟩, by simp [Moment.date]⟩

theorem fills_padded (width n : Nat) (ps : List Place) (rest : List Char) :
    fills (List.replicate width .digit ++ ps) (padded width n ++ rest) = fills ps rest := by
  have hdigits (ds : List Char) (hds : ∀ c ∈ ds, isAsciiDigit c = true) :
      fills (List.replicate ds.length .digit ++ ps) (ds ++ rest) = fills ps rest := by
    induction ds with
    | nil => rfl
    | cons c ds ih =>
      rw [List.length_cons, List.replicate_succ, List.cons_append, List.cons_append, fills,
        ih fun c hc => hds c (List.mem_cons_of_mem _ hc)]
      simp [Place.admits, isDecimal_of_isAsciiDigit (hds c (by simp))]
  have := hdigits (padded width n) fun c => isAsciiDigit_of_mem_padded
  rwa [length_padded] at this

/-- The date part of a moment has the shape. -/
theorem Moment.fills_date (m : Moment) : fills dateShape m.date = true := by
  have hmark (c : Char) (ps : List Place) (cs : List Char) :
      fills (.mark c :: ps) (c :: cs) = fills ps cs := by simp [fills, Place.admits]
  have hlast := fills_padded 2 m.second [] []
  rw [List.append_nil] at hlast
  rw [date]
  refine (fills_padded 4 m.year _ _).trans ((hmark _ _ _).trans ?_)
  refine (fills_padded 2 m.month _ _).trans ((hmark _ _ _).trans ?_)
  refine (fills_padded 2 m.day _ _).trans ((hmark _ _ _).trans ?_)
  refine (fills_padded 2 m.hour _ _).trans ((hmark _ _ _).trans ?_)
  exact (fills_padded 2 m.minute _ _).trans ((hmark _ _ _).trans hlast)

theorem Moment.ascii_date {m : Moment} {c : Char} (h : c ∈ m.date) : c.toNat < 128 := by
  have hpadded {width n : Nat} (h : c ∈ padded width n) : c.toNat < 128 :=
    toNat_lt_of_isAsciiDigit (isAsciiDigit_of_mem_padded h)
  simp only [date, List.mem_append, List.mem_cons] at h
  rcases h with h | rfl | h | rfl | h | rfl | h | rfl | h | rfl | h
  all_goals first | exact hpadded h | decide

/-! ## Fractions of other lengths -/

theorem microseconds_of_length_eq {fraction : List Char} (h : fraction.length = 6) :
    microseconds fraction = decimalNumber fraction := by
  simp [microseconds, h, List.take_of_length_le h.le]

/-- A fraction counts as its first six digits, with zeros for those that are missing. -/
theorem microseconds_padded (fraction : List Char) :
    microseconds ((fraction ++ List.replicate 6 '0').take 6) = microseconds fraction := by
  have hmissing : 6 - min 6 fraction.length = 6 - fraction.length := by omega
  have htake : (fraction ++ List.replicate 6 '0').take 6 =
      fraction.take 6 ++ List.replicate (6 - fraction.length) '0' := by
    rw [List.take_append, List.take_replicate, Nat.min_eq_left (Nat.sub_le 6 _)]
  rw [microseconds_of_length_eq (by simp), htake, microseconds, List.length_take, hmissing]

/-! ## Timestamps -/

/-- An ASCII text of the form `YYYY-MM-DDTHH:MM:SS` with a fraction of six digits. -/
@[ext]
structure Timestamp where
  date : List Char
  fraction : List Char
  shape : fills dateShape date = true
  length : fraction.length = 6
  digits : ∀ c ∈ fraction, isDecimal c = true
  ascii : ∀ c ∈ date ++ fraction, c.toNat < 128

namespace Timestamp

/-- The instant of a timestamp, if it names one. -/
def instant? (t : Timestamp) : Option Instant := Log.instant? t.date t.fraction

/-- Timestamps are ordered as texts are. -/
instance : LT Timestamp where
  lt t u := t.date < u.date ∨ t.date = u.date ∧ t.fraction < u.fraction

theorem exists_moment (t : Timestamp) : ∃ m : Moment, m.Fits ∧ t.date = m.date :=
  Moment.exists_date t.shape fun c hc => t.ascii c (List.mem_append_left _ hc)

theorem fraction_eq (t : Timestamp) : t.fraction = padded 6 (microseconds t.fraction) := by
  have hdigits : ∀ c ∈ t.fraction, isAsciiDigit c = true := fun c hc =>
    isAsciiDigit_of_isDecimal (t.ascii c (List.mem_append_right _ hc)) (t.digits c hc)
  rw [microseconds_of_length_eq t.length, ← t.length, padded_decimalNumber hdigits]

/-- The timestamp of a moment and a number of microseconds. -/
def ofMoment (m : Moment) (micros : Nat) : Timestamp where
  date := m.date
  fraction := padded 6 micros
  shape := m.fills_date
  length := length_padded 6 micros
  digits _ hc := isDecimal_of_isAsciiDigit (isAsciiDigit_of_mem_padded hc)
  ascii _ hc := (List.mem_append.1 hc).elim m.ascii_date
    fun hc => toNat_lt_of_isAsciiDigit (isAsciiDigit_of_mem_padded hc)

theorem instant?_eq_some_iff {t : Timestamp} {i : Instant} :
    t.instant? = some i ↔ ∃ m : Moment, m.valid = true ∧ t.date = m.date ∧
      m.seconds * 1000000 + microseconds t.fraction = i := by
  constructor
  · intro h
    obtain ⟨m, hm, hdate⟩ := t.exists_moment
    rw [instant?, hdate, Moment.instant?_date hm] at h
    split at h
    · rename_i hvalid
      exact ⟨m, hvalid, hdate, Option.some.inj h⟩
    · cases h
  · rintro ⟨m, hvalid, hdate, rfl⟩
    rw [instant?, hdate, Moment.instant?_date (Moment.fits_of_valid hvalid), if_pos hvalid]

theorem instant_lt_iff {t u : Timestamp} {i j : Instant} (hi : t.instant? = some i)
    (hj : u.instant? = some j) : i < j ↔ t < u := by
  obtain ⟨m, hm, hdate, rfl⟩ := instant?_eq_some_iff.1 hi
  obtain ⟨m', hm', hdate', rfl⟩ := instant?_eq_some_iff.1 hj
  have hmicros := microseconds_lt t.fraction
  have hmicros' := microseconds_lt u.fraction
  have hdates : t.date < u.date ↔ m.seconds < m'.seconds := by
    rw [hdate, hdate', Moment.date_lt_iff (Moment.fits_of_valid hm) (Moment.fits_of_valid hm'),
      Moment.seconds_lt_iff hm hm']
  have hsame : t.date = u.date ↔ m.seconds = m'.seconds := by
    rw [hdate, hdate', Moment.date_inj (Moment.fits_of_valid hm) (Moment.fits_of_valid hm'),
      Moment.seconds_inj hm hm']
  have hfractions : t.fraction < u.fraction ↔
      microseconds t.fraction < microseconds u.fraction := by
    rw [t.fraction_eq, u.fraction_eq, padded_lt_padded_iff hmicros hmicros', ← t.fraction_eq,
      ← u.fraction_eq]
  show _ ↔ t.date < u.date ∨ t.date = u.date ∧ t.fraction < u.fraction
  rw [hdates, hsame, hfractions]
  exact mul_add_lt_iff hmicros hmicros'

theorem eq_of_instant? {t u : Timestamp} {i : Instant} (ht : t.instant? = some i)
    (hu : u.instant? = some i) : t = u := by
  obtain ⟨m, hm, hdate, hi⟩ := instant?_eq_some_iff.1 ht
  obtain ⟨m', hm', hdate', hi'⟩ := instant?_eq_some_iff.1 hu
  have hmicros := microseconds_lt t.fraction
  have hmicros' := microseconds_lt u.fraction
  have hsame : microseconds t.fraction = microseconds u.fraction := by omega
  obtain rfl : m = m' := (Moment.seconds_inj hm hm').1 (by omega)
  ext1
  · rw [hdate, hdate']
  · rw [t.fraction_eq, u.fraction_eq, hsame]

theorem exists_instant? {i : Nat} (h : i < 315537897600000000) :
    ∃ t : Timestamp, t.instant? = some i := by
  obtain ⟨m, hm, hseconds⟩ := Moment.exists_seconds (show i / 1000000 < 315537897600 by omega)
  refine ⟨ofMoment m (i % 1000000), instant?_eq_some_iff.2 ⟨m, hm, rfl, ?_⟩⟩
  have hmicros : microseconds (padded 6 (i % 1000000)) = i % 1000000 := by
    rw [microseconds_of_length_eq (length_padded 6 _), decimalNumber_padded (by omega)]
  show m.seconds * 1000000 + microseconds (padded 6 (i % 1000000)) = i
  omega

end Timestamp

/-- **Timestamps are the microseconds of the calendar in their order.**  An ASCII text of their
form is accepted exactly if the Gregorian calendar of the years 1 to 9999 has its date and the day
its time.  Accepted texts are ordered as their instants are, and each microsecond from the start of
the year 1 to the end of the year 9999 is the instant of exactly one of them.  A fraction counts
as its first six digits, with zeros for those that are missing. -/
theorem timestamps_order_instants :
    (∀ t : Timestamp, t.instant?.isSome = true ↔ ∃ m : Moment, t.date = m.date ∧
      (1 ≤ m.year ∧ m.year ≤ 9999) ∧ (1 ≤ m.month ∧ m.month ≤ 12) ∧
      (1 ≤ m.day ∧ m.day ≤ Calendar.daysInMonth m.year m.month) ∧
      m.hour ≤ 23 ∧ m.minute ≤ 59 ∧ m.second ≤ 59) ∧
    (∀ (t u : Timestamp) (i j : Nat), t.instant? = some i → u.instant? = some j →
      (i < j ↔ t < u)) ∧
    (∀ i : Nat, i ≤ 315537897599999999 → ∃! t : Timestamp, t.instant? = some i) ∧
    (∀ (t : Timestamp) (i : Nat), t.instant? = some i → i ≤ 315537897599999999) ∧
    (∀ date fraction : List Char,
      instant? date fraction = instant? date ((fraction ++ List.replicate 6 '0').take 6)) := by
  refine ⟨fun t => ?_, fun t u i j => Timestamp.instant_lt_iff, fun i hi => ?_, fun t i ht => ?_,
    fun date fraction => ?_⟩
  · rw [Option.isSome_iff_exists]
    constructor
    · rintro ⟨i, hi⟩
      obtain ⟨m, hvalid, hdate, -⟩ := Timestamp.instant?_eq_some_iff.1 hi
      exact ⟨m, hdate, Moment.valid_iff.1 hvalid⟩
    · rintro ⟨m, hdate, hm⟩
      exact ⟨_, Timestamp.instant?_eq_some_iff.2 ⟨m, Moment.valid_iff.2 hm, hdate, rfl⟩⟩
  · obtain ⟨t, ht⟩ := Timestamp.exists_instant? (show i < 315537897600000000 by omega)
    exact ⟨t, ht, fun u hu => Timestamp.eq_of_instant? hu ht⟩
  · have hlt : i < 315537897600000000 := instant?_lt ht
    omega
  · rw [instant?, instant?, microseconds_padded]

/-- The last microsecond of a leap day and the first one of March. -/
theorem leap_day_precedes_march :
    ∃ t u : Timestamp, t.date = "2024-02-29T23:59:59".toList ∧ t.fraction = "999999".toList ∧
      u.date = "2024-03-01T00:00:00".toList ∧ u.fraction = "000000".toList ∧
      t.instant? = some 63844847999999999 ∧ u.instant? = some 63844848000000000 ∧ t < u ∧
      63844848000000000 ≤ 315537897599999999 ∧
      ∃! v : Timestamp, v.instant? = some 63844848000000000 := by
  let t : Timestamp := .ofMoment ⟨2024, 2, 29, 23, 59, 59⟩ 999999
  let u : Timestamp := .ofMoment ⟨2024, 3, 1, 0, 0, 0⟩ 0
  have ht : t.instant? = some 63844847999999999 := by decide
  have hu : u.instant? = some 63844848000000000 := by decide
  obtain ⟨-, horder, hone, hlast, -⟩ := timestamps_order_instants
  exact ⟨t, u, rfl, rfl, rfl, rfl, ht, hu, (horder t u _ _ ht hu).1 (by decide), hlast u _ hu,
    hone _ (by decide)⟩

end JobMeter.Log
