import JobMeter.Proofs.Loop.Account
import JobMeter.Proofs.Metric.Values

/-!
# How much a run charges

An accrual charges an entry with the time since the entry started, but with one interval at most.
Whether that adds up depends on when the accruals happen, so what is proved here rests on the
spacing of the accruals of a run.

* `charge_eq` — the charge of an entry, and `charge_le_rise`, `charge_eq_rise`: it is at most the
  rise of the elapsed time since an accrual that was an interval earlier or more, and exactly that
  if it was one interval earlier.
* `charged_le_elapsed` — **time is never over-counted**: if the clock never goes back, an entry is
  charged no more than the time since it started.
* `charged_eq_elapsed` — **time is counted exactly**: if the clock moves only during waits and no
  wait is longer than its timeout, accruals happen exactly at the ticks and an entry has been
  charged exactly the time since it started.
-/

namespace JobMeter

namespace Reader

/-! ## The charge of an entry -/

theorem charge_eq (interval t : Rat) (job : Running Rat) :
    charge interval t job = max 0 (min interval (t - job.startTime)) := by
  rw [charge, Quantity.atLeastZero]
  simp only [Quantity.lt_rat, Quantity.add_rat, Quantity.sub_rat, Quantity.zero_rat,
    decide_eq_true_eq]
  rw [max_def, min_def]
  split_ifs <;> linarith

theorem charge_nonneg (interval t : Rat) (job : Running Rat) : 0 ≤ charge interval t job := by
  rw [charge_eq]
  exact le_max_left 0 _

theorem charge_le_interval {interval : Rat} (h : 0 ≤ interval) (t : Rat) (job : Running Rat) :
    charge interval t job ≤ interval := by
  rw [charge_eq]
  exact max_le h (min_le_left _ _)

/-- Nothing is charged up to the start. -/
theorem charge_of_le {t : Rat} {job : Running Rat} (h : t ≤ job.startTime) (interval : Rat) :
    charge interval t job = 0 := by
  rw [charge_eq]
  exact max_eq_left ((min_le_right _ _).trans (sub_nonpos.2 h))

theorem charge_le_elapsed (interval t : Rat) (job : Running Rat) :
    charge interval t job ≤ max 0 (t - job.startTime) := by
  rw [charge_eq]
  exact max_le_max_left 0 (min_le_right _ _)

/-- A charge is at most the rise of the elapsed time since an accrual that was an interval earlier
or more. -/
theorem charge_le_rise {interval t t' : Rat} (h : t + interval ≤ t') (hinterval : 0 < interval)
    (job : Running Rat) :
    max 0 (t - job.startTime) + charge interval t' job ≤ max 0 (t' - job.startTime) := by
  rw [charge_eq]
  simp only [max_def, min_def]
  split_ifs <;> linarith

/-- A charge is the rise of the elapsed time since an accrual that was one interval earlier. -/
theorem charge_eq_rise (interval t : Rat) (hinterval : 0 < interval) (job : Running Rat) :
    max 0 (t - job.startTime) + charge interval (t + interval) job =
      max 0 (t + interval - job.startTime) := by
  rw [charge_eq]
  simp only [max_def, min_def]
  split_ifs <;> linarith

/-! ## What an entry is charged by some accruals -/

/-- What some accruals charge an entry, all together. -/
def charged (p : Int × Running Rat) (as : List (Accrual Rat)) : Rat :=
  (((as.flatMap Accrual.charges).filter fun c => c.entry = p).map Charge.amount).sum

theorem charged_append (p : Int × Running Rat) (as bs : List (Accrual Rat)) :
    charged p (as ++ bs) = charged p as + charged p bs := by
  rw [charged, List.flatMap_append, List.filter_append, List.map_append, List.sum_append, charged,
    charged]

theorem charged_take_succ {as : List (Accrual Rat)} {n : Nat} {a : Accrual Rat}
    (ha : as[n]? = some a) (p : Int × Running Rat) :
    charged p (as.take (n + 1)) = charged p (as.take n) + charged p [a] := by
  rw [List.take_add_one, ha, charged_append, Option.toList_some]

/-- Distinct entries are charged once. -/
theorem sum_chargeOf {ps : List (Int × Running Rat)} (hps : ps.Nodup) (interval t : Rat)
    (p : Int × Running Rat) :
    (((ps.map (chargeOf interval t)).filter fun c => c.entry = p).map Charge.amount).sum =
      if p ∈ ps then charge interval t p.2 else 0 := by
  induction ps with
  | nil => rfl
  | cons q ps ih =>
    have hrest := ih (List.nodup_cons.1 hps).2
    have hq := (List.nodup_cons.1 hps).1
    rw [List.map_cons]
    by_cases h : q = p
    · subst h
      rw [if_neg hq] at hrest
      rw [List.filter_cons_of_pos (by simp [chargeOf]), List.map_cons, List.sum_cons, hrest,
        add_zero, if_pos List.mem_cons_self]
      rfl
    · have hmem : p ∈ q :: ps ↔ p ∈ ps := by
        rw [List.mem_cons, or_iff_right (fun e => h e.symm)]
      rw [List.filter_cons_of_neg (by simp [chargeOf, h]), hrest]
      simp only [hmem]

theorem charged_singleton_le {interval : Rat} {a : Accrual Rat} (hentries : a.entries.Nodup)
    (hcharges : a.charges <+: a.entries.map (chargeOf interval a.time)) (p : Int × Running Rat) :
    charged p [a] ≤ charge interval a.time p.2 := by
  obtain ⟨n, hn⟩ : ∃ n, a.charges = (a.entries.take n).map (chargeOf interval a.time) :=
    ⟨_, by rw [List.map_take]; exact List.prefix_iff_eq_take.1 hcharges⟩
  rw [charged, List.flatMap_singleton, hn,
    sum_chargeOf (hentries.sublist (List.take_sublist n a.entries))]
  split
  · exact le_rfl
  · exact charge_nonneg interval a.time p.2

theorem charged_singleton {interval : Rat} {a : Accrual Rat} (hentries : a.entries.Nodup)
    (hcharges : a.charges = a.entries.map (chargeOf interval a.time)) (p : Int × Running Rat) :
    charged p [a] = if p ∈ a.entries then charge interval a.time p.2 else 0 := by
  rw [charged, List.flatMap_singleton, hcharges, sum_chargeOf hentries]

/-- Every accrual up to one that charges an entry charges it what is due then: one that leaves the
entry out happened before it started. -/
theorem charged_singleton_of_later {interval : Rat} {as : List (Accrual Rat)}
    (hgaps : as.Pairwise (Apart interval)) (hentries : ∀ b ∈ as, b.entries.Nodup)
    (hcharges : ∀ b ∈ as, b.charges = b.entries.map (chargeOf interval b.time))
    {p : Int × Running Rat} {j k : Nat} {a b : Accrual Rat} (ha : as[k]? = some a)
    (hp : p ∈ a.entries) (hj : j ≤ k) (hb : as[j]? = some b) :
    charged p [b] = charge interval b.time p.2 := by
  have hbas : b ∈ as := List.mem_of_getElem? hb
  rw [charged_singleton (hentries b hbas) (hcharges b hbas)]
  split
  · rfl
  · rename_i hpb
    have hjk : j < k := by
      rcases Nat.lt_or_eq_of_le hj with hlt | rfl
      · exact hlt
      · rw [hb, Option.some.injEq] at ha
        subst ha
        exact absurd hp hpb
    obtain ⟨hjlen, rfl⟩ := List.getElem?_eq_some_iff.1 hb
    obtain ⟨hklen, rfl⟩ := List.getElem?_eq_some_iff.1 ha
    have hgap := List.pairwise_iff_getElem.1 hgaps j k hjlen hklen hjk
    rw [charge_of_le ((hgap.entries p hp).resolve_left hpb)]

theorem time_le_time_of_mem_take {interval : Rat} (hinterval : 0 < interval)
    {as : List (Accrual Rat)} (hgaps : as.Pairwise (Apart interval)) {n : Nat}
    {a b : Accrual Rat} (ha : as[n]? = some a) (hb : b ∈ as.take (n + 1)) : b.time ≤ a.time := by
  have hlast : as.take (n + 1) = as.take n ++ [a] := by
    rw [List.take_add_one, ha, Option.toList_some]
  have hsplit := hgaps.sublist (List.take_sublist (n + 1) as)
  rw [hlast, List.pairwise_append] at hsplit
  rw [hlast, List.mem_append, List.mem_singleton] at hb
  rcases hb with hb | rfl
  · have hgap := (hsplit.2.2 b hb a (List.mem_singleton_self a)).time
    linarith
  · exact le_rfl

/-- Accruals that are an interval apart or more charge no more than the elapsed time. -/
theorem charged_take_le {interval : Rat} (hinterval : 0 < interval) {as : List (Accrual Rat)}
    (hgaps : as.Pairwise (Apart interval)) {p : Int × Running Rat}
    (hshare : ∀ a ∈ as, charged p [a] ≤ charge interval a.time p.2) {n : Nat} {a : Accrual Rat}
    (ha : as[n]? = some a) :
    charged p (as.take (n + 1)) ≤ max 0 (a.time - p.2.startTime) := by
  induction n generalizing a with
  | zero =>
    rw [charged_take_succ ha, List.take_zero]
    have hnone : charged p [] = 0 := rfl
    rw [hnone, zero_add]
    exact (hshare a (List.mem_of_getElem? ha)).trans (charge_le_elapsed interval a.time p.2)
  | succ n ih =>
    obtain ⟨hlt, hget⟩ := List.getElem?_eq_some_iff.1 ha
    have hb := List.getElem?_eq_getElem (Nat.lt_of_succ_lt hlt)
    have hgap := (List.pairwise_iff_getElem.1 hgaps) n (n + 1) (Nat.lt_of_succ_lt hlt) hlt
      n.lt_succ_self
    rw [hget] at hgap
    rw [charged_take_succ ha]
    calc charged p (as.take (n + 1)) + charged p [a]
        ≤ max 0 (as[n].time - p.2.startTime) + charge interval a.time p.2 :=
          add_le_add (ih hb) (hshare a (List.mem_of_getElem? ha))
      _ ≤ max 0 (a.time - p.2.startTime) := charge_le_rise hgap.time hinterval p.2

/-- Accruals at the ticks charge an entry exactly the elapsed time, if it started after the last
tick before them and none of them leaves it out. -/
theorem charged_take_eq {interval t₀ : Rat} (hinterval : 0 < interval) {as : List (Accrual Rat)}
    (htimes : ∀ (k : Nat) (a : Accrual Rat), as[k]? = some a → a.time = t₀ + (k + 1) * interval)
    {p : Int × Running Rat} (hp : t₀ ≤ p.2.startTime) {n : Nat}
    (hshare : ∀ (k : Nat) (a : Accrual Rat), k ≤ n → as[k]? = some a →
      charged p [a] = charge interval a.time p.2)
    {a : Accrual Rat} (ha : as[n]? = some a) :
    charged p (as.take (n + 1)) = max 0 (a.time - p.2.startTime) := by
  induction n generalizing a with
  | zero =>
    rw [charged_take_succ ha, List.take_zero, hshare 0 a le_rfl ha]
    have hnone : charged p [] = 0 := rfl
    have hzero : max 0 (t₀ - p.2.startTime) = 0 := max_eq_left (sub_nonpos.2 hp)
    have htime : a.time = t₀ + interval := by
      rw [htimes 0 a ha, Nat.cast_zero, zero_add, one_mul]
    rw [hnone, htime, ← charge_eq_rise interval t₀ hinterval, hzero]
  | succ n ih =>
    obtain ⟨hlt, -⟩ := List.getElem?_eq_some_iff.1 ha
    have hb := List.getElem?_eq_getElem (Nat.lt_of_succ_lt hlt)
    have htime : a.time = as[n].time + interval := by
      rw [htimes _ a ha, htimes n _ hb, Nat.cast_add, Nat.cast_one]
      ring
    rw [charged_take_succ ha, ih (fun k b hk => hshare k b (Nat.le_succ_of_le hk)) hb,
      hshare (n + 1) a le_rfl ha, htime, charge_eq_rise interval _ hinterval]

/-! ## Runs of the loop -/

section

variable {ω : Type} {env : Environment Rat ω} {wait : Wait Rat ω}

section Accruals

variable {fuel : Nat} {r : Reader Rat ω} {a : Accrual Rat}

theorem exists_reachable (h : NeverBack env) (hw : Patient env wait) (hr : Reachable env r)
    (ha : a ∈ accruals env wait fuel r) : ∃ s, Reachable env s ∧ a = accrual env s := by
  obtain ⟨s, hs, has⟩ := mem_accruals (steps_reachable h) hw.reachable ha
  exact ⟨s, hs hr, has⟩

theorem nodup_entries (h : NeverBack env) (hw : Patient env wait)
    (ha : a ∈ accruals env wait fuel r) : a.entries.Nodup := by
  obtain ⟨s, -, rfl⟩ := mem_accruals (steps_ages h) hw.ages ha
  exact List.Nodup.of_map Prod.fst s.registry.distinct

theorem charges_prefix_of_mem (h : NeverBack env) (hw : Patient env wait)
    (ha : a ∈ accruals env wait fuel r) :
    a.charges <+: a.entries.map (chargeOf env.interval a.time) := by
  obtain ⟨s, -, rfl⟩ := mem_accruals (steps_ages h) hw.ages ha
  exact charges_prefix env _ _ _

theorem startTime_le_time (h : NeverBack env) (hw : Patient env wait) (hr : Reachable env r)
    (ha : a ∈ accruals env wait fuel r) {p : Int × Running Rat} (hp : p ∈ a.entries) :
    p.2.startTime ≤ a.time := by
  obtain ⟨s, hs, rfl⟩ := exists_reachable h hw hr ha
  exact hs.startTime_le h p hp

/-- An entry at an accrual was there at the start of the run, or has started since. -/
theorem mem_or_clock_le_startTime (h : NeverBack env) (hw : Patient env wait)
    (ha : a ∈ accruals env wait fuel r) {p : Int × Running Rat} (hp : p ∈ a.entries) :
    p ∈ r.registry.entries ∨ clock env r ≤ p.2.startTime := by
  obtain ⟨s, hs, rfl⟩ := mem_accruals (steps_ages h) hw.ages ha
  exact (hs.entries p hp).imp_right And.left

end Accruals

/-- **Time in progress is never over-counted.**  Let the clock never go back, and let the loop run
on any reader that can come about, whatever it takes off its queue, however long that takes and
whatever fails.  Then each amount that an accrual charges an entry is at least zero and at most one
interval, and what the accruals of the run up to any one of them have charged an entry that was
there at one of them is at most the time from the start of the entry to the last of them.  The
account of the accruals is complete, and whoever keeps a ledger of the time in progress finds
their charges in it, in their order, and nothing else. -/
theorem charged_le_elapsed (env : Environment Rat ω) (wait : Wait Rat ω)
    (hinterval : 0 < env.interval) (hclock : NeverBack env) (hwait : Patient env wait)
    {r : Reader Rat ω} (hr : Reachable env r) (fuel : Nat) :
    let as := accruals env wait fuel r
    (∀ a ∈ as, ∀ c ∈ a.charges,
      c.entry ∈ a.entries ∧ 0 ≤ c.amount ∧ c.amount ≤ env.interval) ∧
    (∀ (n : Nat) (a : Accrual Rat), as[n]? = some a → ∀ p, (∃ b ∈ as.take (n + 1), p ∈ b.entries) →
      charged p (as.take (n + 1)) ≤ a.time - p.2.startTime) ∧
    (∀ finished s, run env wait fuel r = .ok finished s →
      ∃ due u, Leads env wait (firstDue env r) (begun env r) (moments env wait fuel r) due u ∧
        s = if finished then after (note env .loopStopped) u else u) ∧
    ∀ paid, Ledger env wait paid → PaidByAccruals env wait fuel r paid := by
  intro as
  have hgaps : as.Pairwise (Apart env.interval) := pairwise_accruals hclock hwait hinterval fuel r
  refine ⟨?_, ?_, fun _ _ => leads_of_run, fun paid hpaid => paid_run hpaid fuel r⟩
  · intro a ha c hc
    obtain ⟨p, hp, rfl⟩ := List.mem_map.1 ((charges_prefix_of_mem hclock hwait ha).subset hc)
    exact ⟨hp, charge_nonneg _ _ _, charge_le_interval hinterval.le _ _⟩
  · intro n a ha p hpresent
    obtain ⟨b, hb, hp⟩ := hpresent
    have hsum : charged p (as.take (n + 1)) ≤ max 0 (a.time - p.2.startTime) :=
      charged_take_le hinterval hgaps (fun a ha => charged_singleton_le
        (nodup_entries hclock hwait ha) (charges_prefix_of_mem hclock hwait ha) p) ha
    have hstart : p.2.startTime ≤ b.time :=
      startTime_le_time hclock hwait hr (List.mem_of_mem_take hb) hp
    have htime : b.time ≤ a.time := time_le_time_of_mem_take hinterval hgaps ha hb
    rwa [max_eq_right (sub_nonneg.2 (hstart.trans htime))] at hsum

/-- A job that is registered anew while every accrual is late by three seconds, and fails.  The sink
is called for its time all the same. -/
theorem charged_le_elapsed_renewed :
    let sink : Sink Rat _ := .recording [.inProgressDuration]
    let env : Environment Rat _ := Trial.environment sink.watched 10 false
    let wait := Trial.wait fun t => t + 3
    let start : Slot := .item (.event (.plain Action.inProgress 1))
    let r : Reader Rat _ := ⟨{}, ⟨0, [start, start]⟩, ⟨5, .error ⟨.jobLogs, [], none⟩, [], []⟩⟩
    let p : Int × Running Rat := (1, ⟨31, (Event.plain Action.inProgress 1).labels⟩)
    0 < env.interval ∧ NeverBack env ∧ Patient env wait ∧ Reachable env r ∧
      Ledger env wait Trial.paidTime ∧
      charged p ((accruals env wait 4 r).take 4) ≤ 57 - 31 ∧
      Trial.paidTime (after (run env wait 4) r).world = [0, 0, 10, 10].map (p.2.labels, ·) := by
  intro sink env wait start r p
  have hclock : NeverBack env := (Trial.still _ 10 false).neverBack
  have hwait : Patient env wait := Trial.patient _ 10 false _
  have hr : Reachable env r := .fresh _ _
  have hlast : (accruals env wait 4 r)[3]? = some ⟨57, [p], [⟨p, 10⟩]⟩ := by decide +kernel
  have hledger : Ledger env wait Trial.paidTime := Trial.ledger_watched _ 10 false _
  obtain ⟨-, hsum, -, hpaid⟩ :=
    charged_le_elapsed env wait (by decide +kernel) hclock hwait hr 4
  refine ⟨by decide +kernel, hclock, hwait, hr, hledger, ?_, ?_⟩
  · exact hsum 3 _ hlast p ⟨⟨57, [p], [⟨p, 10⟩]⟩, by decide +kernel, List.mem_singleton_self p⟩
  · rw [(hpaid _ hledger).total]
    decide +kernel

/-- The sink takes every amount of time in progress that is not negative. -/
def AcceptsTime (env : Environment Rat ω) : Prop :=
  ∀ labels x w, labels.map Prod.fst = Labels.standard → 0 ≤ x →
    ∃ w', env.increase .inProgressDuration labels x w = .ok () w'

/-- The metric store takes the time in progress, under watch, too. -/
theorem acceptsTime_store (interval : Rat) (logs : Bool) :
    AcceptsTime (Trial.environment Store.sink.watched interval logs) := by
  intro labels x w hlabels hx
  have hnames : (labels.map Prod.fst).Perm Metric.inProgressDuration.labelNames := by
    rw [hlabels]
    exact .refl _
  obtain ⟨values, hkey⟩ := Store.exists_key?_eq_ok hnames
  refine ⟨_, Trial.measure_of_ok ?_⟩
  show (w.sink.1.increase .inProgressDuration labels x).1 = .ok ()
  rw [Store.increase_eq rfl hkey hx]

/-- **Time in progress is counted exactly.**  Let the clock move only while the loop waits, let no
wait be longer than its timeout, and let the sink take what it is given.  Then the accruals of a run
happen one interval after the other from its start, none is left out as long as the run goes on, and
each time an entry that started in the run has been charged exactly the time since its start.  The
account of the accruals is complete, and whoever keeps a ledger of the time in progress finds
their charges in it, in their order, and nothing else. -/
theorem charged_eq_elapsed (env : Environment Rat ω) (wait : Wait Rat ω)
    (hinterval : 0 < env.interval) (hclock : Still env) (hwait : Patient env wait)
    (hpunctual : Punctual env wait) (hsink : AcceptsTime env) {r : Reader Rat ω}
    (hr : Reachable env r) (fuel : Nat) :
    let t₀ := clock env r
    let as := accruals env wait fuel r
    (∀ (k : Nat) (a : Accrual Rat), as[k]? = some a → a.time = t₀ + (k + 1) * env.interval) ∧
    (∀ (k : Nat) (a : Accrual Rat), as[k]? = some a → ∀ p ∈ a.entries,
      p ∉ r.registry.entries ∨ t₀ ≤ p.2.startTime →
        charged p (as.take (k + 1)) = a.time - p.2.startTime) ∧
    clock env (after (run env wait fuel) r) ≤ t₀ + (as.length + 1) * env.interval ∧
    (∀ finished s, run env wait fuel r = .ok finished s →
      ∃ due u, Leads env wait (firstDue env r) (begun env r) (moments env wait fuel r) due u ∧
        s = if finished then after (note env .loopStopped) u else u) ∧
    ∀ paid, Ledger env wait paid → PaidByAccruals env wait fuel r paid := by
  intro t₀ as
  have hback : NeverBack env := hclock.neverBack
  have hbegun : clock env (begun env r) = t₀ := steps_begun (steps_still hclock) r
  have hfirst : firstDue env r = t₀ + env.interval := congrArg (· + env.interval) hbegun
  have hdue : clock env (begun env r) ≤ firstDue env r := by linarith
  have htimes : ∀ (k : Nat) (a : Accrual Rat), as[k]? = some a →
      a.time = t₀ + (k + 1) * env.interval := by
    intro k a ha
    have hcourse : Course env wait (firstDue env r) (begun env r) (moments env wait fuel r) :=
      course_momentsFrom fuel _ _
    rw [hcourse.time_of_still hclock hpunctual hinterval hdue ha, hfirst]
    ring
  have hgaps : as.Pairwise (Apart env.interval) := pairwise_accruals hback hwait hinterval fuel r
  refine ⟨htimes, ?_, ?_, fun _ _ => leads_of_run, fun paid hpaid => paid_run hpaid fuel r⟩
  · intro k a ha p hp hnew
    have haas : a ∈ as := List.mem_of_getElem? ha
    have hstart : t₀ ≤ p.2.startTime := by
      rcases hnew with hnew | hnew
      · exact (mem_or_clock_le_startTime hback hwait haas hp).resolve_left hnew
      · exact hnew
    have hcharges : ∀ b ∈ as, b.charges = b.entries.map (chargeOf env.interval b.time) := by
      intro b hb
      obtain ⟨s, hs, rfl⟩ := exists_reachable hback hwait hr hb
      exact charges_of_forall_ok (fun q hq w =>
        hsink _ _ w (hs.map_fst_labels q hq) (charge_nonneg _ _ _)) _
    have hshare : ∀ (j : Nat) (b : Accrual Rat), j ≤ k → as[j]? = some b →
        charged p [b] = charge env.interval b.time p.2 := fun j b hj hb =>
      charged_singleton_of_later hgaps (fun b hb => nodup_entries hback hwait hb) hcharges ha hp hj
        hb
    rw [charged_take_eq hinterval htimes hstart hshare ha,
      max_eq_right (sub_nonneg.2 (startTime_le_time hback hwait hr haas hp))]
  · rw [clock_run hclock]
    calc clock env (after (rounds env wait fuel (firstDue env r)) (begun env r))
        ≤ firstDue env r + as.length * env.interval :=
          clock_rounds_le hclock hpunctual hinterval fuel hdue
      _ = t₀ + (as.length + 1) * env.interval := by
          rw [hfirst]
          ring

/-- A job that is registered anew exactly on a tick, in time for its first accrual. -/
theorem charged_eq_elapsed_renewed :
    let env : Environment Rat _ := Trial.environment Store.sink.watched 10 false
    let wait := Trial.wait fun t => min t 5
    let start : Slot := .item (.event (.plain Action.inProgress 1))
    let r : Reader Rat _ :=
      ⟨{}, ⟨0, [start, start]⟩, ⟨5, .error ⟨.jobLogs, [], none⟩, .empty, []⟩⟩
    let p : Int × Running Rat := (1, ⟨15, (Event.plain Action.inProgress 1).labels⟩)
    0 < env.interval ∧ Still env ∧ Patient env wait ∧ Punctual env wait ∧ AcceptsTime env ∧
      Reachable env r ∧ Ledger env wait Trial.paidTime ∧
      charged p ((accruals env wait 6 r).take 3) = 35 - 15 ∧
      Trial.paidTime (after (run env wait 6) r).world = [0, 10, 10].map (p.2.labels, ·) := by
  intro env wait start r p
  have hclock : Still env := Trial.still _ 10 false
  have hwait : Patient env wait := Trial.patient _ 10 false _
  have hpunctual : Punctual env wait := Trial.punctual _ 10 false fun t _ => min_le_left t 5
  have hsink : AcceptsTime env := acceptsTime_store 10 false
  have hr : Reachable env r := .fresh _ _
  have hlast : (accruals env wait 6 r)[2]? = some ⟨35, [p], [⟨p, 10⟩]⟩ := by decide +kernel
  have hledger : Ledger env wait Trial.paidTime := Trial.ledger_watched _ 10 false _
  obtain ⟨-, hsum, -, -, hpaid⟩ :=
    charged_eq_elapsed env wait (by decide +kernel) hclock hwait hpunctual hsink hr 6
  refine ⟨by decide +kernel, hclock, hwait, hpunctual, hsink, hr, hledger, ?_, ?_⟩
  · exact hsum 2 _ hlast p (List.mem_singleton_self p) (.inl List.not_mem_nil)
  · rw [(hpaid _ hledger).total]
    decide +kernel

end

end Reader

end JobMeter
