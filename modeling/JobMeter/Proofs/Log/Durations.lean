import JobMeter.Proofs.Log.Calendar
import JobMeter.Proofs.Log.Lasts

/-!
# Durations

The durations that a log is summed up to are distances of two instants.  In a log in which time does
not go back, and in which a job is queued, then started, and then does something, they are what they
should be; and whatever a log holds, they are no longer than the calendar.

* `lastInstant_lt` — the last instant of a kind is one of the years 1 to 9999.
* `sane_durations` — **sane logs give sane durations**, and no log gives one beyond the calendar.
-/

namespace JobMeter.Log

/-- The instants of valid lines are those of timestamps. -/
theorem instant_lt_of_mem_entries {lines : List (List Char)} {e : Entry} (h : e ∈ entries lines) :
    e.instant < 315537897600000000 := by
  obtain ⟨line, -, hline⟩ := List.mem_filterMap.1 h
  obtain ⟨l, -, hl⟩ := Option.bind_eq_some_iff.1 hline
  obtain ⟨i, hi, rfl⟩ := Option.map_eq_some_iff.1 hl
  exact instant?_lt hi

theorem lastInstant_lt (k : Kind) (lines : List (List Char)) :
    lastInstant k lines < 315537897600000000 := by
  rw [lastInstant]
  cases h : lastOf k lines with
  | none => exact Nat.succ_pos _
  | some e =>
    obtain ⟨before, after, hentries, -⟩ := lastOf_eq_some.1 h
    have hmem : e ∈ entries lines := by simp [hentries]
    exact instant_lt_of_mem_entries hmem

/-- A line of a kind behind some place makes the last one of its kind stand there. -/
theorem exists_lastOf {k : Kind} {lines : List (List Char)} {before after : List Entry} {e : Entry}
    (h : entries lines = before ++ after) (he : e ∈ after) (hsaid : k.Says e.message) :
    ∃ c ∈ after, lastOf k lines = some c := by
  have hmem : e ∈ after.filter fun e => k.Says e.message :=
    List.mem_filter.2 ⟨he, by simpa using hsaid⟩
  cases hlast : (after.filter fun e => k.Says e.message).getLast? with
  | none =>
    rw [List.getLast?_eq_none_iff.1 hlast] at hmem
    exact absurd hmem List.not_mem_nil
  | some c =>
    refine ⟨c, (List.mem_filter.1 (List.mem_of_getLast? hlast)).1, ?_⟩
    rw [lastOf, entriesOf, h, List.filter_append, List.getLast?_append, hlast, Option.some_or]

/-- **Sane logs give sane durations.**  Let time not go back from one valid line of a log to the
next.  If its last queued line `q` comes before its last started line `s`, and an ordinary line
comes behind `s`, then neither duration is negative, and together they go from `q` to the last
ordinary line.  In every log both durations are within the years 1 to 9999. -/
theorem sane_durations :
    (∀ (lines : List (List Char)) (before between after : List Entry) (q s : Entry),
      (entries lines).Pairwise (fun e e' => e.instant ≤ e'.instant) →
      entries lines = before ++ q :: (between ++ s :: after) →
      Kind.queued.Says q.message →
      (∀ e ∈ between ++ s :: after, ¬ Kind.queued.Says e.message) →
      Kind.started.Says s.message →
      (∀ e ∈ after, ¬ Kind.started.Says e.message) →
      (∃ e ∈ after, Kind.ordinary.Says e.message) →
      0 ≤ (summarize lines).queueTime ∧ 0 ≤ (summarize lines).runTime ∧
        ∃ c, lastOf .ordinary lines = some c ∧
          (summarize lines).queueTime + (summarize lines).runTime = (c.instant : Int) - q.instant) ∧
    ∀ lines : List (List Char),
      (-315537897600000000 < (summarize lines).queueTime ∧
        (summarize lines).queueTime < 315537897600000000) ∧
      -315537897600000000 < (summarize lines).runTime ∧
        (summarize lines).runTime < 315537897600000000 := by
  constructor
  · rintro lines before between after q s hsorted hentries hq hlastq hs hlasts ⟨e, he, hsaid⟩
    have hentries' : entries lines = (before ++ q :: between ++ [s]) ++ after := by simp [hentries]
    obtain ⟨c, hc, hlastc⟩ := exists_lastOf hentries' he hsaid
    have hqueued : lastInstant .queued lines = q.instant := by
      rw [lastInstant, lastOf_eq_some.2 ⟨before, _, hentries, hq, hlastq⟩, Option.elim_some]
    have hstarted : lastInstant .started lines = s.instant := by
      have hplace : entries lines = (before ++ q :: between) ++ s :: after := by simp [hentries]
      rw [lastInstant, lastOf_eq_some.2 ⟨_, after, hplace, hs, hlasts⟩, Option.elim_some]
    have hordinary : lastInstant .ordinary lines = c.instant := by
      rw [lastInstant, hlastc, Option.elim_some]
    -- of two lines the later one has the later instant
    rw [hentries, List.pairwise_append, List.pairwise_cons, List.pairwise_append,
      List.pairwise_cons] at hsorted
    obtain ⟨-, ⟨hqs, -, ⟨hsc, -⟩, -⟩, -⟩ := hsorted
    rw [queueTime_summarize, runTime_summarize, hqueued, hstarted, hordinary]
    refine ⟨?_, ?_, c, hlastc, ?_⟩
    · exact Int.sub_nonneg_of_le (Int.ofNat_le.2 (hqs s (by simp)))
    · exact Int.sub_nonneg_of_le (Int.ofNat_le.2 (hsc c hc))
    · omega
  · intro lines
    have hqueued := Int.ofNat_lt.2 (lastInstant_lt .queued lines)
    have hstarted := Int.ofNat_lt.2 (lastInstant_lt .started lines)
    have hordinary := Int.ofNat_lt.2 (lastInstant_lt .ordinary lines)
    rw [queueTime_summarize, runTime_summarize]
    omega

/-- A job that is queued twice, and whose last line comes in the same second as the line before. -/
theorem sane_durations_queued_twice :
    let early := "2024-02-28T23:59:00.5Z Waiting for a runner to pick up this job...".toList
    let queued := "2024-02-28T23:59:59.5Z Waiting for a runner to pick up this job...".toList
    let started := "2024-02-29T00:00:02.0Z Job is about to start running on the runner: r".toList
    let failed := "2024-02-29T00:01:00.0Z ##[error]failed".toList
    let ordinary := "2024-02-29T00:01:00.0Z done".toList
    let lines := [early, queued, "no timestamp".toList, started, failed, ordinary]
    0 ≤ (summarize lines).queueTime ∧ 0 ≤ (summarize lines).runTime ∧
      (summarize lines).queueTime + (summarize lines).runTime = 60500000 ∧
      (summarize lines).queueTime < 315537897600000000 := by
  intro early queued started failed ordinary lines
  obtain ⟨q, he, hq, hkq⟩ : ∃ q, dated? early = some ⟨63844761540500000, q⟩ ∧
      dated? queued = some ⟨63844761599500000, q⟩ ∧ Kind.ofMessage q = .queued :=
    ⟨"Waiting for a runner to pick up this job...".toList, by decide +kernel, by decide +kernel,
      by decide +kernel⟩
  obtain ⟨s, hs, hks⟩ : ∃ s, dated? started = some ⟨63844761602000000, s⟩ ∧
      Kind.ofMessage s = .started :=
    ⟨"Job is about to start running on the runner: r".toList, by decide +kernel,
      by decide +kernel⟩
  obtain ⟨f, hf, hkf⟩ : ∃ f, dated? failed = some ⟨63844761660000000, f⟩ ∧
      Kind.ofMessage f = .error :=
    ⟨"##[error]failed".toList, by decide +kernel, by decide +kernel⟩
  obtain ⟨o, ho, hko⟩ : ∃ o, dated? ordinary = some ⟨63844761660000000, o⟩ ∧
      Kind.ofMessage o = .ordinary :=
    ⟨"done".toList, by decide +kernel, by decide +kernel⟩
  have hnone : dated? "no timestamp".toList = none := by decide +kernel
  have hentries : entries lines = [⟨63844761540500000, q⟩] ++ ⟨63844761599500000, q⟩ ::
      ([] ++ ⟨63844761602000000, s⟩ :: [⟨63844761660000000, f⟩, ⟨63844761660000000, o⟩]) := by
    simp only [lines, entries, List.filterMap_cons, List.filterMap_nil, he, hq, hnone, hs, hf, ho]
    rfl
  obtain ⟨hqueue, hrun, c, hc, hsum⟩ := sane_durations.1 lines _ _ _ _ _
    (by rw [hentries]; simp) hentries (Kind.ofMessage_eq.1 hkq)
    (by simp [← Kind.ofMessage_eq, hks, hkf, hko]) (Kind.ofMessage_eq.1 hks)
    (by simp [← Kind.ofMessage_eq, hkf, hko]) ⟨⟨63844761660000000, o⟩, by simp,
      Kind.ofMessage_eq.1 hko⟩
  refine ⟨hqueue, hrun, hsum.trans ?_, (sane_durations.2 lines).1.2⟩
  have hlast : lastOf .ordinary lines = some ⟨63844761660000000, o⟩ := by
    simp [lastOf, entriesOf, hentries, ← Kind.ofMessage_eq, hkq, hks, hkf, hko]
  rw [Option.some.inj (hc.symm.trans hlast)]
  show ((63844761660000000 : Nat) : Int) - (63844761599500000 : Nat) = 60500000
  decide

end JobMeter.Log
