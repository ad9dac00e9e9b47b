import Mathlib.Data.List.Induction
import Mathlib.Data.List.ReduceOption
import JobMeter.Service.Threads

/-!
# Waiting for threads

Threads end, stops are requested, and one waits for either, again and again; all this in any order.
What a wait does is cut into turns, between which anything may happen, so that each order of things
is a list of happenings.

* `Group.Account` — what was reported of the threads that ended is what the waits gave, followed by
  what nobody has been told of yet; only the first wait gives a failure, and after it a stop is
  requested.  Each happening preserves it (`Group.Account.step`).
* `Group.waits_of_turns` — once there is nothing left to wait for, a wait ends within two turns.
* `failures_conserved` — **no failure is lost or given twice**, whatever happens.
* `first_wait` — **the first wait gives the first failure**, when all threads have ended, unless one
  of them requested a stop; then it gives none (`first_wait_silent`).
-/

namespace JobMeter.Service

/-- The end of a thread, if that is what happens. -/
def Happening.ended? : Happening → Option Ending
  | .ended e => some e
  | .stop | .wait | .turn => none

namespace Group

variable {g : Group} {e : Ending} {f : Failure}

/-! ## What is reported -/

theorem reported_eq_some : reported e = some f ↔ e.failure = some f ∧ f.isOrdinary := by
  simp [reported]

/-- What is reported of the threads that ended in a history, oldest first. -/
def reports (history : List Happening) : List Failure :=
  (history.filterMap Happening.ended?).filterMap reported

theorem reports_concat (history : List Happening) (a : Happening) :
    reports (history ++ [a]) = reports history ++ (a.ended?.bind reported).toList := by
  rw [reports, reports, List.filterMap_append, List.filterMap_append]
  congr 1
  cases a with
  | ended e => cases h : reported e <;> simp [Happening.ended?, h]
  | stop => rfl
  | wait => rfl
  | turn => rfl

theorem run_concat (history : List Happening) (a : Happening) :
    run g (history ++ [a]) = (run g history).step a := by
  rw [run, List.foldl_append]
  rfl

/-! ## The account of a group -/

/-- What was reported is what the waits gave, followed by what nobody has been told of; and only the
first wait gives a failure, since after it a stop is requested. -/
structure Account (reports : List Failure) (g : Group) : Prop where
  conserved : g.waits.reduceOption ++ g.failures = reports
  stopped : g.waits ≠ [] → g.stopped
  /-- With a stop requested no wait polls. -/
  polling : g.watch = .polling → g.waits = []
  first : g.waits.tail.reduceOption = []

theorem account_empty : Account [] {} where
  conserved := rfl
  stopped h := absurd rfl h
  polling _ := rfl
  first := rfl

namespace Account

variable {rs : List Failure}

theorem stop (h : Account rs g) : Account rs (g.step .stop) where
  conserved := h.conserved
  stopped _ := rfl
  polling := h.polling
  first := h.first

theorem finish (h : Account rs g) (e : Ending) :
    Account (rs ++ (reported e).toList) (g.finish e) where
  conserved := by rw [Group.finish, ← List.append_assoc, h.conserved]
  stopped hwaits := by simp [Group.finish, h.stopped hwaits]
  polling := h.polling
  first := h.first

theorem beginWait (h : Account rs g) : Account rs g.beginWait := by
  unfold Group.beginWait
  cases hwatch : g.watch with
  | away => exact ⟨h.conserved, h.stopped, fun hpolling => (by cases hpolling), h.first⟩
  | looking => exact h
  | polling => exact h

theorem look (h : Account rs g) : Account rs g.look := by
  unfold Group.look
  by_cases hstopped : g.stopped
  · rw [if_pos hstopped]
    refine ⟨?_, fun _ => hstopped, fun hpolling => (by cases hpolling), ?_⟩
    · simpa [List.reduceOption_append] using h.conserved
    · cases hwaits : g.waits with
      | nil => rfl
      | cons r waits =>
        have hfirst := h.first
        rw [hwaits, List.tail_cons] at hfirst
        simp [List.reduceOption_append, hfirst]
  · rw [if_neg hstopped]
    -- no stop was requested, so no wait has ended
    have hwaits : g.waits = [] := Decidable.not_not.1 fun hwaits => hstopped (h.stopped hwaits)
    exact ⟨h.conserved, h.stopped, fun _ => hwaits, h.first⟩

theorem poll (h : Account rs g) (hwatch : g.watch = .polling) : Account rs g.poll := by
  have hwaits : g.waits = [] := h.polling hwatch
  have hconserved : g.failures = rs := by simpa [hwaits] using h.conserved
  unfold Group.poll
  cases hfailures : g.failures with
  | nil =>
    refine ⟨?_, h.stopped, fun hpolling => (by cases hpolling), h.first⟩
    simpa [hfailures] using h.conserved
  | cons f rest =>
    refine ⟨?_, fun _ => rfl, fun hpolling => (by cases hpolling), ?_⟩
    · simp [hwaits, ← hconserved, hfailures]
    · simp [hwaits]

/-- **Each happening preserves the account.** -/
theorem step (h : Account rs g) (a : Happening) :
    Account (rs ++ (a.ended?.bind reported).toList) (g.step a) := by
  have hsame : ∀ {g'}, Account rs g' → Account (rs ++ []) g' := fun h' => by
    rwa [List.append_nil]
  cases a with
  | stop => exact hsame h.stop
  | ended e => exact h.finish e
  | wait => exact hsame h.beginWait
  | turn =>
    refine hsame ?_
    rw [Group.step, Group.turn]
    cases hwatch : g.watch with
    | away => exact h
    | looking => exact h.look
    | polling => exact h.poll hwatch

end Account

theorem account_run (history : List Happening) : Account (reports history) (run {} history) := by
  induction history using List.reverseRecOn with
  | nil => exact account_empty
  | append_singleton history a ih =>
    rw [run_concat, reports_concat]
    exact ih.step a

/-- The failure of a wait is the first that was reported, and the wait is the first one. -/
theorem Account.eq_zero {rs : List Failure} (h : Account rs g) {i : Nat}
    (hi : g.waits[i]? = some (some f)) : i = 0 ∧ rs.head? = some f := by
  have hconserved := h.conserved
  have hfirst := h.first
  cases hwaits : g.waits with
  | nil => simp [hwaits] at hi
  | cons r waits =>
    rw [hwaits] at hi hconserved hfirst
    cases i with
    | zero =>
      obtain rfl : r = some f := by simpa using hi
      refine ⟨rfl, ?_⟩
      rw [← hconserved]
      rfl
    | succ i =>
      have hmem : some f ∈ waits := List.mem_of_getElem? hi
      rw [List.tail_cons] at hfirst
      have hnone := List.reduceOption_mem_iff.2 hmem
      simp [hfirst] at hnone

/-! ## The end of a wait -/

/-- Once a stop was requested or there is a failure, a wait that lasts ends within two turns. -/
theorem waits_of_turns (hlasts : g.watch ≠ .away) (h : g.stopped ∨ g.failures ≠ []) :
    (g.run [.turn, .turn]).watch = .away ∧ (g.run [.turn, .turn]).waits =
      g.waits ++ [if g.watch = .looking ∧ g.stopped then none else g.failures.head?] := by
  rw [run, List.foldl_cons, List.foldl_cons, List.foldl_nil]
  cases hwatch : g.watch with
  | away => exact absurd hwatch hlasts
  | looking =>
    by_cases hstopped : g.stopped
    · simp [Group.step, Group.turn, Group.look, hwatch, hstopped]
    · obtain ⟨f, rest, hfailures⟩ := List.exists_cons_of_ne_nil (h.resolve_left hstopped)
      simp [Group.step, Group.turn, Group.look, Group.poll, hwatch, hstopped, hfailures]
  | polling =>
    cases hfailures : g.failures with
    | nil =>
      have hstopped : g.stopped := h.resolve_right fun hne => hne hfailures
      simp [Group.step, Group.turn, Group.look, Group.poll, hwatch, hstopped, hfailures]
    | cons f rest => simp [Group.step, Group.turn, Group.poll, hwatch, hfailures]

/-! ## A wait in which nothing happens -/

theorem finishAll_eq (g : Group) (es : List Ending) :
    finishAll g es = { g with
      stopped := g.stopped || es.any Ending.stops,
      failures := g.failures ++ es.filterMap reported } := by
  rw [finishAll]
  induction es generalizing g with
  | nil => simp
  | cons e es ih =>
    rw [List.foldl_cons, ih]
    cases h : reported e <;> simp [finish, h, Bool.or_assoc]

/-- While nobody waits, turns and requests to stop end no wait. -/
theorem waits_of_away {history : List Happening} (hwatch : g.watch = .away)
    (h : ∀ a ∈ history, a = .turn ∨ a = .stop) : (run g history).waits = g.waits := by
  induction history generalizing g with
  | nil => rfl
  | cons a history ih =>
    have hrest : ∀ b ∈ history, b = .turn ∨ b = .stop := fun b hb =>
      h b (List.mem_cons_of_mem a hb)
    rcases h a List.mem_cons_self with rfl | rfl
    · have hturn : g.step .turn = g := by simp [step, turn, hwatch]
      rw [run, List.foldl_cons, hturn]
      exact ih hwatch hrest
    · exact ih (g := g.step .stop) hwatch hrest

theorem eq_turn_or_stop_of_mem_quiet {untilStop : Nat} {a : Happening} (h : a ∈ quiet untilStop) :
    a = .turn ∨ a = .stop := by
  rw [quiet, List.mem_append] at h
  rcases h with hpolls | hlast
  · obtain ⟨poll, hpoll, ha⟩ := List.mem_flatten.1 hpolls
    rw [List.eq_of_mem_replicate hpoll] at ha
    simp_all
  · simp only [List.mem_cons, List.not_mem_nil, or_false] at hlast
    rcases hlast with rfl | rfl | rfl | rfl <;> simp

theorem quiet_add_two (n : Nat) : quiet (n + 2) = .turn :: .turn :: quiet (n + 1) := by
  simp [quiet, List.replicate_succ]

/-- With nothing to disturb it a wait gives the oldest failure, unless a stop was requested. -/
theorem waits_quiet (hwatch : g.watch = .looking) (n : Nat) :
    (run g (quiet (n + 1))).waits =
      g.waits ++ [if g.stopped then none else g.failures.head?] := by
  induction n generalizing g with
  | zero =>
    have hquiet : quiet (0 + 1) = [.turn, .stop, .turn, .turn] := rfl
    rw [hquiet]
    by_cases hstopped : g.stopped
    · simp [run, step, turn, look, hwatch, hstopped]
    · cases hfailures : g.failures <;>
        simp [run, step, turn, look, poll, hwatch, hstopped, hfailures]
  | succ n ih =>
    rw [quiet_add_two]
    have hturns : run g (.turn :: .turn :: quiet (n + 1)) =
        run (g.turn.turn) (quiet (n + 1)) := rfl
    rw [hturns]
    by_cases hstopped : g.stopped
    · rw [waits_of_away _ fun a => eq_turn_or_stop_of_mem_quiet]
      · simp [turn, look, hwatch, hstopped]
      · simp [turn, look, hwatch, hstopped]
    · cases hfailures : g.failures with
      | nil =>
        have hlooks : g.turn.turn = { g with polls := g.polls + 1 } := by
          simp [turn, look, poll, hwatch, hstopped, hfailures]
        have hwaits := ih (g := { g with polls := g.polls + 1 }) hwatch
        rw [hlooks, hwaits, hfailures]
      | cons f rest =>
        rw [waits_of_away _ fun a => eq_turn_or_stop_of_mem_quiet]
        · simp [turn, look, poll, hwatch, hstopped, hfailures]
        · simp [turn, look, poll, hwatch, hstopped, hfailures]

theorem wait_fst (hwatch : g.watch = .away) (untilStop : Nat) :
    (g.wait untilStop).1 =
      match if g.stopped then none else g.failures.head? with
      | some f => .error f
      | none => .ok () := by
  have hquiet : quiet untilStop = quiet (untilStop - 1 + 1) := by simp [quiet]
  have hwaits : (run g (.wait :: quiet untilStop)).waits =
      g.waits ++ [if g.stopped then none else g.failures.head?] := by
    have hbegin : g.step .wait = { g with watch := .looking } := by
      simp [step, beginWait, hwatch]
    have hrun : run g (.wait :: quiet untilStop) =
        run { g with watch := .looking } (quiet (untilStop - 1 + 1)) := by
      rw [run, List.foldl_cons, hbegin, hquiet]
      rfl
    rw [hrun, waits_quiet rfl]
  rw [wait, hwaits, List.getLast?_concat]
  cases h : if g.stopped then none else g.failures.head? <;> rfl

/-- The first failure is the first that is reported, if it is no demand to end the process. -/
theorem findSome?_reported {es : List Ending} (hf : es.findSome? Ending.failure = some f)
    (hordinary : f.isOrdinary) : es.findSome? reported = some f := by
  obtain ⟨before, e, after, rfl, he, hbefore⟩ := List.findSome?_eq_some_iff.1 hf
  have hsilent : ∀ d ∈ before, reported d = none := fun d hd => by
    simp [reported, hbefore d hd]
  refine List.findSome?_eq_some_iff.2 ⟨before, e, after, rfl, ?_, hsilent⟩
  exact reported_eq_some.2 ⟨he, hordinary⟩

end Group

/-- **No failure is lost or given twice.**  Let threads end, stops be requested and waits begin and
go on in any order.  Then, at each moment:

* once a wait has ended, with a failure or without one, a stop is requested;
* at most one wait has ended with a failure: the first one, and with the first failure that was
  reported of the threads;
* what the waits gave, followed by what nobody has been told of yet, is what was reported of the
  threads, in the order in which they ended;
* a wait that lasts ends within two turns, if a stop is requested or there is a failure: with none
  if it is about to look and a stop is requested, else with the oldest failure. -/
theorem failures_conserved (history : List Happening) :
    let g := Group.run {} history
    let reports := (history.filterMap Happening.ended?).filterMap Group.reported
    (g.waits ≠ [] → g.stopped) ∧
    (∀ i f, g.waits[i]? = some (some f) → i = 0 ∧ reports.head? = some f) ∧
    g.waits.reduceOption ++ g.failures = reports ∧
    (g.watch ≠ .away → g.stopped ∨ g.failures ≠ [] →
      (g.run [.turn, .turn]).watch = .away ∧ (g.run [.turn, .turn]).waits =
        g.waits ++ [if g.watch = .looking ∧ g.stopped then none else g.failures.head?]) := by
  intro g reports
  have haccount : Group.Account reports g := Group.account_run history
  exact ⟨haccount.stopped, fun i f => haccount.eq_zero, haccount.conserved, Group.waits_of_turns⟩

/-- A thread fails after a stop was requested, while a wait still polls, and so does another one.
The wait gives the first failure; the second is left over, also by the next wait. -/
theorem failures_conserved_two :
    let first := Failure.of (.foreign "ValueError") "first"
    let second := Failure.of (.foreign "KeyError") "second"
    let history : List Happening :=
      [.wait, .turn, .stop, .ended { failure := some first },
        .ended { stops := true, failure := some second }, .turn, .wait]
    let g := Group.run {} history
    g.waits = [some first] ∧ g.failures = [second] ∧ g.stopped ∧
      (∀ i f, g.waits[i]? = some (some f) →
        i = 0 ∧ ((history.filterMap Happening.ended?).filterMap Group.reported).head? = some f) ∧
      (g.run [.turn, .turn]).waits = [some first, none] := by
  intro first second history g
  obtain ⟨hstopped, hfirst, -, hends⟩ := failures_conserved history
  have hwaits : g.waits = [some first] := rfl
  have hg : g.stopped := hstopped (by rw [hwaits]; exact List.cons_ne_nil _ _)
  have hlasts : g.watch ≠ .away := by decide
  exact ⟨hwaits, rfl, hg, hfirst, (hends hlasts (.inl hg)).2⟩

/-- **The first wait gives the first failure.**  Let all threads of a group have ended before the
first wait.  If the first of them that failed did not demand the end of the process, the wait gives
its failure, unless a thread requested a stop: then there is nothing to wait for, and the wait gives
none. -/
theorem first_wait {es : List Ending} {f : Failure} (hf : es.findSome? Ending.failure = some f)
    (hordinary : f.isOrdinary) (untilStop : Nat) :
    ((Group.finishAll {} es).wait untilStop).1 =
      if es.any Ending.stops then .ok () else .error f := by
  have hfirst : (es.filterMap Group.reported).head? = some f := by
    rw [List.head?_filterMap]
    exact Group.findSome?_reported hf hordinary
  have hwatch : (Group.finishAll {} es).watch = .away := by rw [Group.finishAll_eq]
  rw [Group.wait_fst hwatch, Group.finishAll_eq, Bool.false_or, List.nil_append, hfirst]
  by_cases hstops : es.any Ending.stops = true
  · rw [if_pos hstops, if_pos hstops]
  · rw [if_neg hstops, if_neg hstops]

/-- The second of three threads is the first that fails, and the first wait says so; the third fails
with a demand to end the process. -/
theorem first_wait_second :
    let boom := Failure.of (.foreign "ValueError") "boom"
    let exit : Failure := ⟨.exit "SystemExit", [], none⟩
    let es : List Ending := [{}, { failure := some boom }, { failure := some exit }]
    es.findSome? Ending.failure = some boom ∧ boom.isOrdinary ∧
      ((Group.finishAll {} es).wait 5).1 = .error boom := by
  intro boom exit es
  have hf : es.findSome? Ending.failure = some boom := rfl
  have hordinary : boom.isOrdinary := rfl
  exact ⟨hf, hordinary, first_wait hf hordinary 5⟩

/-- Not every failure of a thread is given: a thread may request a stop before it fails. -/
theorem first_wait_silent :
    let late := Failure.of (.foreign "RuntimeError") "late"
    let es : List Ending := [{ stops := true, failure := some late }]
    ¬ ∀ f, es.findSome? Ending.failure = some f →
      ((Group.finishAll {} es).wait 5).1 = .error f := by
  intro late es hgives
  have hgiven := hgives late rfl
  rw [Group.wait_fst rfl, Group.finishAll_eq] at hgiven
  cases hgiven

end JobMeter.Service
