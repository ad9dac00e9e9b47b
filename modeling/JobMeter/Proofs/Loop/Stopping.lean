import JobMeter.Proofs.Log.Reading
import JobMeter.Proofs.Loop.Moments
import JobMeter.Rehearsal.VirtualTime

/-!
# Stopping

A reader is asked to stop by a flag in its world.  The flag may be set at any time: while the loop
waits, in the middle of a dispatch or of an accrual, or while a log is read.  The marker on the
queue only wakes the loop up, and it may find no place there.

* `StopStays`, `NeverResumes` — a request to stop is never taken back.
* `late` — the deeds that begin after a stop was requested.
* `countP_late_le` — of what is done once in a round at most, one deed at most is late.
* `rounds_of_lt` — the loop is at its end as soon as it looks at the flag.
* `stop_prompt` — **a stop is prompt**.
-/

namespace JobMeter

namespace Reader

variable {τ ω : Type}

/-! ## Requests to stop -/

/-- A stop that was requested in `r` is requested in `s`, too. -/
def StopStays (env : Environment τ ω) (r s : Reader τ ω) : Prop :=
  env.stopped r.world = true → env.stopped s.world = true

/-- A request to stop is never taken back, whatever the reader does to its world. -/
abbrev NeverResumes (env : Environment τ ω) : Prop := Outer env (StopStays env)

/-- To ask for a stop never fails, be there a place for the marker or not. -/
theorem exists_stop_eq (env : Environment τ ω) (r : Reader τ ω) :
    ∃ q, stop env r = .ok () { r with queue := q, world := env.requestStop r.world } := by
  have hflag : (onWorld (modify env.requestStop) : Act τ ω _) r =
      .ok ⟨⟩ { r with world := env.requestStop r.world } := rfl
  have hget : ∀ s, (get : Act τ ω _) s = .ok s s := fun _ => rfl
  rw [stop, bind_apply, hflag]
  dsimp only
  rw [bind_apply, hget]
  dsimp only
  cases r.queue.put? .stop with
  | some q => exact ⟨q, rfl⟩
  | none => exact ⟨r.queue, rfl⟩

variable {env : Environment τ ω}

theorem keeps_stop (hrequest : ∀ w, env.stopped (env.requestStop w) = true) :
    Keeps (StopStays env) (stop env) := by
  intro r _
  obtain ⟨q, hstop⟩ := exists_stop_eq env r
  rw [after_of_ok hstop]
  exact hrequest r.world

theorem begun_stopped (h : NeverResumes env) {r : Reader τ ω} (hr : env.stopped r.world = true) :
    env.stopped (begun env r).world = true :=
  h.now _ (h.note _ r hr)

variable [Quantity τ]

theorem NeverResumes.steps (h : NeverResumes env) : Steps env (StopStays env) where
  toOuter := h
  register _ r := h.tick r
  deregister _ _ := id

theorem NeverResumes.submit (h : NeverResumes env) (i : Item) :
    Keeps (StopStays env) (submit env i) := by
  intro r
  cases hput : r.queue.put? (.item i) with
  | some q =>
    rw [after_of_ok (submit_of_some hput)]
    exact id
  | none =>
    rw [after, submit_of_none hput]
    exact h.drop i r

/-! ## Late deeds -/

/-- The deeds that begin after a stop was requested. -/
def late (env : Environment τ ω) (ms : List (Moment τ ω)) : List (Moment τ ω) :=
  ms.filter fun m => env.stopped m.before.world

variable {wait : Wait τ ω} {due due' : τ} {r s : Reader τ ω}

/-- No deed of a round is late if no stop is requested at the end of the round. -/
theorem late_roundMoments (h : NeverResumes env) (hwait : ∀ t, Keeps (StopStays env) (wait t))
    (hround : round env wait due r = .ok (some due') s) (hs : env.stopped s.world = false) :
    late env (roundMoments env wait due r) = [] := by
  have hcase := hround ▸ roundCase env wait due r
  rw [late, List.filter_eq_nil_iff]
  intro m hm hstopped
  have hlate : env.stopped s.world = true :=
    hcase.before_of_mem h.steps (fun _ _ => hwait _) hm hstopped
  rw [hs] at hlate
  cases hlate

/-- **Of what is done once in a round at most, one deed at most is late.** -/
theorem countP_late_le (h : NeverResumes env) (hwait : ∀ t, Keeps (StopStays env) (wait t))
    {p : Moment τ ω → Bool} (hp : ∀ due r, (roundMoments env wait due r).countP p ≤ 1)
    (fuel : Nat) (due : τ) (r : Reader τ ω) :
    (late env (momentsFrom env wait fuel due r)).countP p ≤ 1 := by
  have hround : ∀ due r, (late env (roundMoments env wait due r)).countP p ≤ 1 := fun due r =>
    Nat.le_trans List.filter_sublist.countP_le (hp due r)
  induction fuel generalizing due r with
  | zero => exact Nat.zero_le 1
  | succ fuel ih =>
    cases hrun : round env wait due r with
    | error f s =>
      rw [momentsFrom_of_error hrun]
      exact hround due r
    | ok next? s =>
      cases next? with
      | none =>
        rw [momentsFrom_of_none hrun]
        exact hround due r
      | some due' =>
        rw [momentsFrom_of_some hrun]
        -- Either the first round is the last in which something is done, or nothing in it is late.
        cases hs : env.stopped s.world with
        | true =>
          rw [momentsFrom_of_stopped hs, List.append_nil]
          exact hround due r
        | false =>
          rw [late, List.filter_append, ← late, ← late, late_roundMoments h hwait hrun hs]
          exact ih due' s

/-- The loop is at its end as soon as it looks at the flag. -/
theorem rounds_of_lt {fuel n : Nat} (h : rounds env wait fuel due r = .ok false s)
    (hs : env.stopped s.world = true) (hn : fuel < n) :
    rounds env wait n due r = .ok true s ∧
      momentsFrom env wait n due r = momentsFrom env wait fuel due r := by
  induction fuel generalizing due r n with
  | zero =>
    obtain rfl : r = s := (EStateM.Result.ok.inj h).2
    obtain ⟨n, rfl⟩ : ∃ k, n = k + 1 := ⟨n - 1, by omega⟩
    exact ⟨rounds_of_none (round_of_stopped hs) n, momentsFrom_of_stopped hs _⟩
  | succ fuel ih =>
    obtain ⟨n, rfl⟩ : ∃ k, n = k + 1 := ⟨n - 1, by omega⟩
    cases hrun : round env wait due r with
    | error f u =>
      rw [rounds_of_error hrun] at h
      cases h
    | ok next? u =>
      cases next? with
      | none =>
        rw [rounds_of_none hrun] at h
        cases h
      | some due' =>
        rw [rounds_of_some hrun] at h
        rw [rounds_of_some hrun, momentsFrom_of_some hrun, momentsFrom_of_some hrun]
        obtain ⟨hrounds, hmoments⟩ := ih h (Nat.lt_of_succ_lt_succ hn)
        exact ⟨hrounds, by rw [hmoments]⟩

end Reader

open Reader

/-! ## Stopping a rehearsal -/

namespace Rehearsal

/-- A measurement is written down, and then it may fail. -/
theorem Stage.measure_cases {τ : Type} [Quantity τ] (m : Metric) (c : Call τ) (s : Stage τ) :
    measure m c s = .ok () (record c s) ∨
      ∃ f, f.kind = .foreign "RuntimeError" ∧ measure m c s = .error f (record c s) := by
  have hmeasure : measure m c s = (if s.failing.contains m then
      throw (Failure.of (.foreign "RuntimeError") _) else pure () :
        EStateM Failure (Stage τ) Unit) (record c s) := rfl
  rw [hmeasure]
  split
  · exact .inr ⟨_, rfl, rfl⟩
  · exact .inl rfl

section

variable {τ : Type} {env : Environment τ (Stage τ)}

theorem keeps_onStage (hflag : env.stopped = Stage.stopped) {f : Stage τ → Stage τ}
    (hf : ∀ s, (f s).stopped = s.stopped) : Keeps (StopStays env) (onStage f) := by
  intro r hr
  rw [hflag] at hr ⊢
  exact (hf r.world).trans hr

theorem keeps_take : Keeps (StopStays env) Reader.take := by
  intro r hr
  rw [after, take_apply]
  cases r.queue.slots <;> exact hr

variable [Quantity τ]

theorem keeps_measure (hflag : env.stopped = Stage.stopped) (m : Metric) (c : Call τ) :
    Keeps (StopStays env) (onWorld (Stage.measure m c)) := by
  intro r hr
  rw [hflag] at hr ⊢
  rcases Stage.measure_cases m c r.world with hok | ⟨f, -, herror⟩
  · rw [after, onWorld_of_ok hok]
    exact hr
  · rw [after, onWorld_of_error herror]
    exact hr

theorem keeps_deliver (h : NeverResumes env)
    (hrequest : ∀ s, env.stopped (env.requestStop s) = true) (a : Arrival τ) :
    Keeps (StopStays env) (deliver env a) := by
  have hitems : ∀ items : List Item,
      Keeps (StopStays env) (items.forM fun i => discard (Reader.submit env i)) := by
    intro items
    induction items with
    | nil => exact h.refl
    | cons i items ih =>
      show Keeps _ (discard (Reader.submit env i) >>= fun _ => items.forM _)
      exact .bind h.trans (.map _ (h.submit i)) fun _ => ih
  refine .bind h.trans (hitems a.items) fun _ => ?_
  split
  · exact keeps_stop hrequest
  · exact h.refl

/-- A wait in virtual time takes no request to stop back. -/
theorem keeps_wait (hflag : env.stopped = Stage.stopped) (h : NeverResumes env)
    (hrequest : ∀ s, env.stopped (env.requestStop s) = true) (t : τ) :
    Keeps (StopStays env) (wait env t) := by
  have hpass : Keeps (StopStays env) (pass env t) := by
    refine .bind h.trans h.refl fun r => ?_
    split
    · exact keeps_stop hrequest
    · split
      · exact .bind h.trans (keeps_onStage hflag fun _ => rfl) fun _ =>
          keeps_deliver h hrequest _
      · exact keeps_onStage hflag fun _ => rfl
  refine .bind h.trans keeps_take fun slot? => ?_
  split
  · exact .pure h.refl _
  · exact .bind h.trans hpass fun _ => keeps_take

end

/-- A log of two lines.  While the second one is awaited a stop is requested. -/
def interrupted : LogSource (Stage Rat) where
  locate _ := pure []
  retrieve _ := pure ⟨none, fun _ => [
    .line "2024-05-01T10:00:00.0000000Z Waiting for a runner to pick up this job...".toList,
    .meanwhile fun s => (s.advance 10).requestStop,
    .line "2024-05-01T10:00:12.5000000Z Job is about to start running on the runner: r".toList]⟩
  release := id
  stopped := Stage.stopped

/-- A rehearsal with this log. -/
def interruptedEnvironment : Environment Rat (Stage Rat) :=
  { Stage.environment 5 none with fetch? := some interrupted.fetch }

theorem neverResumes_interrupted : NeverResumes interruptedEnvironment where
  refl _ := id
  trans _ _ _ hrs hst hr := hst (hrs hr)
  tick _ := id
  note _ _ := id
  increase _ _ _ := keeps_measure rfl _ _
  observe _ _ _ := keeps_measure rfl _ _
  fetch fetch hfetch job r hr := by
    obtain rfl : interrupted.fetch = fetch := Option.some.inj hfetch
    -- The first line comes too late already.
    have hread : ∀ l feed, ∃ f,
        interrupted.readFeed job.job {} (.line l :: feed) r.world = .error f r.world :=
      fun l feed => ⟨_, (LogSource.readFeed_line l feed).trans (if_pos hr)⟩
    obtain ⟨f, hread⟩ := hread _ _
    have hfetch : interrupted.fetch job r.world = .error f r.world := by
      rw [LogSource.fetch_of_open rfl]
      exact LogSource.ending_of_error hread _
    rw [after, onWorld_of_error hfetch]
    exact hr

end Rehearsal

/-! ## Prompt stops -/

/-- **A stop is prompt.**  Let the world of a reader change in any way while the reader does
something, so that a stop may be requested at any time, but let no request be taken back.

* To ask for a stop never fails, whether the queue has a place for the marker or not.
* Of the deeds of a run that begin after a stop was requested, one at most is a dispatch, and one at
  most is an accrual, whatever waits on the queue.  The account of the deeds is complete.
* As soon as the loop looks at the flag the run is over.
* A run that begins after a stop was requested does nothing.
* A log line that comes after a stop was requested, to a reading that listens to the same flag,
  makes the fetch fail. -/
theorem stop_prompt {τ ω : Type} [Quantity τ] (env : Environment τ ω) (wait : Wait τ ω)
    (hstays : NeverResumes env) (hwait : ∀ t, Keeps (StopStays env) (wait t))
    (hrequest : ∀ w, env.stopped (env.requestStop w) = true) :
    (∀ r : Reader τ ω, ∃ s, stop env r = .ok () s ∧ env.stopped s.world = true) ∧
    (∀ fuel (r : Reader τ ω),
      let begunLate := (moments env wait fuel r).filter fun m => env.stopped m.before.world
      begunLate.countP (·.deed.isDispatch) ≤ 1 ∧ begunLate.countP (·.deed.isAccrual) ≤ 1) ∧
    (∀ fuel (r s : Reader τ ω) finished, run env wait fuel r = .ok finished s →
      ∃ due u, Leads env wait (firstDue env r) (begun env r) (moments env wait fuel r) due u ∧
        s = if finished then after (note env .loopStopped) u else u) ∧
    (∀ fuel (r s : Reader τ ω), run env wait fuel r = .ok false s → env.stopped s.world = true →
      ∀ n, fuel < n → run env wait n r = .ok true (after (note env .loopStopped) s) ∧
        moments env wait n r = moments env wait fuel r) ∧
    (∀ fuel (r : Reader τ ω), env.stopped r.world = true →
      moments env wait fuel r = [] ∧ ∃ s, run env wait (fuel + 1) r = .ok true s) ∧
    ∀ source : LogSource ω, source.stopped = env.stopped → ∀ job w stream w₁,
      source.openLog job w = .ok stream w₁ →
      let feed := stream.feed (stream.charset.getD LogSource.defaultCharset)
      (∀ f, FeedItem.meanwhile f ∈ feed → ∀ v, env.stopped v = true → env.stopped (f v) = true) →
      ∀ before between l after, feed = before ++ between ++ .line l :: after →
        env.stopped (feedWorld w₁ before) = true → ∃ f w', source.fetch job w = .error f w' := by
  refine ⟨fun r => ?_, fun fuel r => ?_, fun fuel r s finished => leads_of_run,
    fun fuel r s hrun hs n hn => ?_, fun fuel r hr => ?_, ?_⟩
  · obtain ⟨q, hstop⟩ := exists_stop_eq env r
    exact ⟨_, hstop, hrequest r.world⟩
  · have hround := fun due r => (roundCase env wait due r).countP_le
    exact ⟨countP_late_le hstays hwait (fun due r => (hround due r).1) fuel _ _,
      countP_late_le hstays hwait (fun due r => (hround due r).2) fuel _ _⟩
  · obtain ⟨u, hrounds, rfl⟩ := rounds_of_run hrun
    obtain ⟨hover, hmoments⟩ := rounds_of_lt hrounds hs hn
    rw [run_eq_rounds, hover]
    exact ⟨rfl, hmoments⟩
  · have hbegun := begun_stopped hstays hr
    refine ⟨momentsFrom_of_stopped hbegun fuel, ?_⟩
    rw [run_eq_rounds, rounds_of_none (round_of_stopped hbegun)]
    exact ⟨_, rfl⟩
  · intro source hsource job w stream w₁ hopen feed hfeed before between l after heq hstopped
    refine LogSource.exists_error_of_not_free hopen fun hfree => ?_
    have hlater : env.stopped (feedWorld w₁ (before ++ between)) = true := by
      rw [feedWorld, List.foldl_append]
      refine feedWorld_induction (P := fun v => env.stopped v = true) hstopped fun f hf => ?_
      exact hfeed f (by simp [heq, hf])
    refine hfree (before ++ between) (.line l) after heq ?_
    rw [LogSource.Stops, hsource]
    exact hlater

/-- While the log of the first of three jobs is read a stop is requested.  The reading is given up,
there is one more accrual, and the other two events stay on the queue. -/
theorem stop_prompt_while_reading :
    let env := Rehearsal.interruptedEnvironment
    let wait := Rehearsal.wait env
    let event := fun action id => Slot.item (.event (.plain action id))
    let stage : Rehearsal.Stage Rat := { clock := 0, store := ⟨[]⟩ }
    let queue : EventQueue :=
      ⟨0, [event Action.inProgress 1, event Action.queued 2, event Action.queued 3]⟩
    let begunLate := (moments env wait 5 ⟨{}, queue, stage⟩).filter fun m =>
      env.stopped m.before.world
    NeverResumes env ∧ (∀ t, Keeps (StopStays env) (wait t)) ∧
      (∀ w, env.stopped (env.requestStop w) = true) ∧
      begunLate.length = 1 ∧ begunLate.countP (·.deed.isDispatch) ≤ 1 ∧
      begunLate.countP (·.deed.isAccrual) ≤ 1 ∧
      (∃ s, run env wait 5 ⟨{}, queue, stage⟩ = .ok true s ∧ s.queue.slots.length = 2) ∧
      moments env wait 5 ⟨{}, queue, stage.requestStop⟩ = [] ∧
      ∃ f w', Rehearsal.interrupted.fetch ⟨text "owner", text "repo", 1⟩ stage = .error f w' := by
  intro env wait event stage queue begunLate
  have hstays : NeverResumes env := Rehearsal.neverResumes_interrupted
  have hrequest : ∀ w, env.stopped (env.requestStop w) = true := fun _ => rfl
  have hwait : ∀ t, Keeps (StopStays env) (wait t) := Rehearsal.keeps_wait rfl hstays hrequest
  obtain ⟨-, hlate, -, hover, hbefore, hlog⟩ := stop_prompt env wait hstays hwait hrequest
  have hround : (match run env wait 1 ⟨{}, queue, stage⟩ with
      | .ok finished s => !finished && s.world.stopped && s.queue.slots.length == 2
      | .error _ _ => false) = true := by decide +kernel
  refine ⟨hstays, hwait, hrequest, by decide +kernel, (hlate 5 _).1, (hlate 5 _).2, ?_,
    (hbefore 5 ⟨{}, queue, stage.requestStop⟩ rfl).1, ?_⟩
  · split at hround
    · rename_i finished s hrun
      simp only [Bool.and_eq_true, Bool.not_eq_true', beq_iff_eq] at hround
      obtain ⟨⟨rfl, hstopped⟩, hslots⟩ := hround
      exact ⟨_, (hover 1 _ s hrun hstopped 5 (by decide)).1, hslots⟩
    · cases hround
  · refine hlog Rehearsal.interrupted rfl _ stage _ stage rfl ?_ [_, _] [] _ [] rfl rfl
    intro f hf v _
    obtain rfl : f = fun v => (v.advance 10).requestStop := by simpa using hf
    rfl

end JobMeter
