import JobMeter.Proofs.Loop.Deeds
import JobMeter.Proofs.Loop.Schedule
import Mathlib.Tactic.Ring

/-!
# The accruals of a run

The account of a run tells when it accrued.  What it charged then follows from the reader of that
moment: when it happened, which entries the registry had, and which increments were made.

* `charges` — the increments of an accrual, the last of which may be a failed one.
* `accruals` — the accruals among the moments of a run.  Each is one of a reader that the run passes
  through (`mem_accruals`).
* `pairwise_accruals` — **accruals are apart**: of two accruals the later one is at least an
  interval later, and its entries were there at the earlier one or have started since.
* `Course.time_of_still` — **accruals do not drift**: if the clock moves during waits only, and no
  wait is longer than its timeout, then each accrual happens exactly when it is due, and the next
  one is due exactly an interval later.
-/

namespace JobMeter

/-- What an accrual charges an entry of the registry. -/
structure Charge (τ : Type) where
  entry : Int × Running τ
  amount : τ
  deriving DecidableEq

/-- An accrual. -/
structure Accrual (τ : Type) where
  time : τ
  /-- The registry at that time. -/
  entries : List (Int × Running τ)
  /-- The increments, in their order; if one failed, it is the last. -/
  charges : List (Charge τ)
  deriving DecidableEq

namespace Reader

section Charges

variable {τ ω : Type} [Quantity τ]

/-- What an accrual at a time charges an entry. -/
def chargeOf (interval t : τ) (p : Int × Running τ) : Charge τ := ⟨p, charge interval t p.2⟩

/-- The charges of an accrual for the entries from some place on. -/
def charges (env : Environment τ ω) (t : τ) : List (Int × Running τ) → ω → List (Charge τ)
  | [], _ => []
  | p :: ps, w =>
    chargeOf env.interval t p :: match chargeEntry env t p w with
      | .ok () w' => charges env t ps w'
      | .error _ _ => []

/-- An accrual charges the entries of the registry in their order, up to some place. -/
theorem charges_prefix (env : Environment τ ω) (t : τ) (ps : List (Int × Running τ)) (w : ω) :
    charges env t ps w <+: ps.map (chargeOf env.interval t) := by
  induction ps generalizing w with
  | nil => exact List.prefix_rfl
  | cons p ps ih =>
    rw [charges, List.map_cons, List.prefix_cons_inj]
    split
    · exact ih _
    · exact List.nil_prefix

/-- If no increment fails, all entries are charged. -/
theorem charges_of_forall_ok {env : Environment τ ω} {t : τ} {ps : List (Int × Running τ)}
    (h : ∀ p ∈ ps, ∀ w, ∃ w', chargeEntry env t p w = .ok () w') (w : ω) :
    charges env t ps w = ps.map (chargeOf env.interval t) := by
  induction ps generalizing w with
  | nil => rfl
  | cons p ps ih =>
    obtain ⟨w', hw'⟩ := h p List.mem_cons_self w
    rw [charges, hw', List.map_cons]
    exact congrArg _ (ih (fun q hq => h q (List.mem_cons_of_mem p hq)) w')

end Charges

variable {ω : Type} {env : Environment Rat ω} {wait : Wait Rat ω}

/-- The account of an accrual that begins now. -/
def accrual (env : Environment Rat ω) (r : Reader Rat ω) : Accrual Rat where
  time := clock env r
  entries := r.registry.entries
  charges := charges env (clock env r) r.registry.entries r.world

/-- The account of what a moment charged, if it is an accrual.  An accrual begins with a look at the
clock. -/
def accrualOf? (env : Environment Rat ω) (m : Moment Rat ω) : Option (Accrual Rat) :=
  if m.deed.isAccrual then some (accrual env (ticked env m.before)) else none

/-- The accruals of a run of the loop, as far as the fuel goes. -/
def accruals (env : Environment Rat ω) (wait : Wait Rat ω) (fuel : Nat) (r : Reader Rat ω) :
    List (Accrual Rat) :=
  (moments env wait fuel r).filterMap (accrualOf? env)

theorem accrualOf?_eq_some {m : Moment Rat ω} {a : Accrual Rat} :
    accrualOf? env m = some a ↔
      m.deed.isAccrual = true ∧ accrual env (ticked env m.before) = a := by
  simp [accrualOf?]

theorem accrualOf?_of_not {m : Moment Rat ω} (h : m.deed.isAccrual = false) :
    accrualOf? env m = none := by
  simp [accrualOf?, h]

/-! ## What an accrual leaves -/

theorem accrueSafely_apply (env : Environment Rat ω) (r : Reader Rat ω) :
    accrueSafely env r = guarded (fun f => note env (.accrualFailed f))
      (accrueAt env (clock env (ticked env r))) (ticked env r) := by
  rw [accrueSafely, guarded, guarded, tryCatch_apply, tryCatch_apply]
  rfl

/-- An accrual leaves the registry alone, and the clock has not gone back since it began. -/
theorem after_accrueSafely (h : NeverBack env) (r : Reader Rat ω) :
    (after (accrueSafely env) r).registry = r.registry ∧
      clock env (ticked env r) ≤ clock env (after (accrueSafely env) r) := by
  have hworld := outer_onlyWorld env
  rw [after, accrueSafely_apply, ← after]
  exact ⟨(hworld.guarded (hworld.accrueAt _) (fun _ => hworld.note _) _).1,
    h.guarded (h.accrueAt _) (fun _ => h.note _) _⟩

/-! ## All accruals of a run -/

theorem steps_begun {R : Reader Rat ω → Reader Rat ω → Prop} (hR : Steps env R)
    (r : Reader Rat ω) : R r (begun env r) := hR.trans (hR.note _ r) (hR.now _)

/-- Every accrual is one of a reader that the run passes through. -/
theorem mem_accruals {R : Reader Rat ω → Reader Rat ω → Prop} (hR : Steps env R)
    (hw : ∀ due t, Keeps R (wait (timeout due t))) {fuel : Nat} {r : Reader Rat ω}
    {a : Accrual Rat} (ha : a ∈ accruals env wait fuel r) : ∃ s, R r s ∧ a = accrual env s := by
  obtain ⟨m, hm, hma⟩ := List.mem_filterMap.1 ha
  obtain ⟨-, rfl⟩ := accrualOf?_eq_some.1 hma
  have hbefore := before_of_mem_momentsFrom hR hw hm
  exact ⟨_, hR.trans (steps_begun hR r) (hR.trans hbefore (hR.tick _)), rfl⟩

/-- The second accrual is at least an interval later than the first, and its entries were there at
the first or have started since. -/
structure Apart (interval : Rat) (a b : Accrual Rat) : Prop where
  time : a.time + interval ≤ b.time
  entries : ∀ p ∈ b.entries, p ∈ a.entries ∨ a.time ≤ p.2.startTime

/-- **Accruals are apart.** -/
theorem pairwise_accruals (h : NeverBack env) (hw : Patient env wait)
    (hinterval : 0 < env.interval) (fuel : Nat) (r : Reader Rat ω) :
    (accruals env wait fuel r).Pairwise (Apart env.interval) := by
  have hcourse : Course env wait (firstDue env r) (begun env r) (moments env wait fuel r) :=
    course_momentsFrom fuel _ _
  have hspaced := hcourse.pairwise_spaced h hinterval
  have hages := pairwise_momentsFrom (steps_ages h) hw.ages fuel (firstDue env r) (begun env r)
  rw [accruals, List.pairwise_filterMap]
  refine (hspaced.and hages).imp_of_mem fun {m m'} hm hm' hpair a ha b hb => ?_
  obtain ⟨haccrual, rfl⟩ := accrualOf?_eq_some.1 ha
  obtain ⟨haccrual', rfl⟩ := accrualOf?_eq_some.1 hb
  obtain ⟨hregistry, hended⟩ := after_accrueSafely h m.before
  rw [← hcourse.after_of_isAccrual hm haccrual] at hregistry hended
  have hdue := hcourse.due_le_clock hm' haccrual'
  refine ⟨?_, fun p hp => ?_⟩
  · calc clock env (ticked env m.before) + env.interval
        ≤ clock env m.after + env.interval := add_le_add_left hended _
      _ ≤ m'.due := hpair.1 haccrual
      _ ≤ clock env m'.before := hdue
      _ ≤ clock env (ticked env m'.before) := clock_le_ticked h _
  · rcases hpair.2.entries p hp with hold | hnew
    · rw [hregistry] at hold
      exact .inl hold
    · exact .inr (hended.trans hnew.1)

/-! ## Runs without delay -/

theorem steps_still (h : Still env) : Steps env fun r s => clock env s = clock env r where
  toOuter := h
  register _ r := h.tick r
  deregister _ _ := rfl

section Still

variable {due due' : Rat} {r s : Reader Rat ω} {ms : List (Moment Rat ω)}

/-- A wait does not last longer than until the next accrual is due. -/
theorem clock_waitIn_le (h : Still env) (hw : Punctual env wait) (due : Rat) (r : Reader Rat ω) :
    clock env (resting (waitIn env wait due r)) ≤ max due (clock env r) := by
  have hwait := hw _ (timeout_nonneg due (clock env (after (now env) r))) (after (now env) r)
  have hmax : clock env r + max 0 (due - clock env r) = max due (clock env r) := by
    rw [← max_add_add_left, add_zero, add_sub_cancel, max_comm]
  rw [timeout_eq, clock_after_now h, hmax] at hwait
  rw [waitIn, ← clock, timeout_eq, clock_after_now h]
  exact hwait

/-- A turn does not go on after the next accrual is due. -/
theorem TurnCase.clock_le (h : Still env) (hw : Punctual env wait)
    {result : EStateM.Result Failure (Reader Rat ω) Bool}
    (hcase : TurnCase env wait due r ms result) :
    clock env (resting result) ≤ max due (clock env r) := by
  have hwaited := clock_waitIn_le h hw due r
  have hdispatched : ∀ i u, clock env (resting (dispatchSafely env i u)) = clock env u :=
    (steps_still h).dispatchSafely
  cases hcase with
  | stopped => exact le_max_right _ _
  | waitFailed hgoes hwait | ended hgoes hwait | passedOver hgoes hwait =>
    rw [hwait] at hwaited
    exact hwaited
  | @dispatched _ _ i u _ hwait _ hdispatch | @dispatchFailed _ _ i u _ _ hwait _ hdispatch =>
    rw [hwait] at hwaited
    have hsame := hdispatched i u
    rw [hdispatch] at hsame
    exact hsame.le.trans hwaited

/-- An accrual takes no time. -/
theorem AccrualCase.clock_eq (h : Still env) {result : EStateM.Result Failure (Reader Rat ω) Rat}
    (hcase : AccrualCase env due r ms result) : clock env (resting result) = clock env r := by
  have haccrued : ∀ u, clock env (resting (accrueSafely env u)) = clock env u := h.accrueSafely
  cases hcase with
  | notDue => exact clock_after_now h r
  | accrued hdue haccrue =>
    have hsame := haccrued (after (now env) r)
    rw [haccrue] at hsame
    exact (clock_after_now h _).trans (hsame.trans (clock_after_now h r))
  | accrualFailed hdue haccrue =>
    have hsame := haccrued (after (now env) r)
    rw [haccrue] at hsame
    exact hsame.trans (clock_after_now h r)

/-- A round does not go on after the next accrual is due. -/
theorem RoundCase.clock_le (h : Still env) (hw : Punctual env wait)
    {result : EStateM.Result Failure (Reader Rat ω) (Option Rat)}
    (hcase : RoundCase env wait due r ms result) :
    clock env (resting result) ≤ max due (clock env r) := by
  cases hcase with
  | turnFailed hturn | last hturn => exact hturn.clock_le h hw
  | accrualFailed hturn haccrual | goesOn hturn haccrual =>
    exact (haccrual.clock_eq h).le.trans (hturn.clock_le h hw)

theorem TurnCase.filterMap_accrualOf? {result : EStateM.Result Failure (Reader Rat ω) Bool}
    (hcase : TurnCase env wait due r ms result) : ms.filterMap (accrualOf? env) = [] :=
  List.filterMap_eq_nil_iff.2 fun _ hm => accrualOf?_of_not (hcase.isAccrual_eq hm)

/-- What is due at a look at the clock is due just then, if it was not before. -/
theorem clock_eq_of_due (h : Still env) (hr : clock env r ≤ due)
    (hdue : Quantity.le due (env.now (after (now env) r).world) = true) :
    clock env (after (now env) r) = due := by
  rw [Quantity.le_rat, decide_eq_true_eq] at hdue
  exact le_antisymm ((clock_after_now h r).le.trans hr) hdue

/-- Without delay the second part of a round accrues exactly when it is due, if it does, and the
next accrual is due exactly an interval later. -/
theorem AccrualCase.accrual_of_still (h : Still env) (hr : clock env r ≤ due)
    {result : EStateM.Result Failure (Reader Rat ω) Rat} (hcase : AccrualCase env due r ms result) :
    (ms.filterMap (accrualOf? env) = [] ∧ ∀ due' s, result = .ok due' s → due' = due) ∨
      ∃ a, ms.filterMap (accrualOf? env) = [a] ∧ a.time = due ∧
        ∀ due' s, result = .ok due' s → due' = due + env.interval := by
  have hend := hcase.clock_eq h
  cases hcase with
  | notDue => exact .inl ⟨rfl, fun due' s hok => (EStateM.Result.ok.inj hok).1.symm⟩
  | accrued hdue haccrue =>
    have htime := clock_eq_of_due h hr hdue
    refine .inr ⟨_, rfl, (clock_after_now h _).trans htime, fun due' s hok => ?_⟩
    rw [← (EStateM.Result.ok.inj hok).1, ← htime, clock_after_now h r, ← hend]
    rfl
  | accrualFailed hdue haccrue =>
    have htime := clock_eq_of_due h hr hdue
    refine .inr ⟨_, rfl, (clock_after_now h _).trans htime, fun due' s hok => ?_⟩
    cases hok

theorem RoundCase.accrual_of_still (h : Still env) (hw : Punctual env wait)
    (hr : clock env r ≤ due) {result : EStateM.Result Failure (Reader Rat ω) (Option Rat)}
    (hcase : RoundCase env wait due r ms result) :
    (ms.filterMap (accrualOf? env) = [] ∧ ∀ due' s, result = .ok (some due') s → due' = due) ∨
      ∃ a, ms.filterMap (accrualOf? env) = [a] ∧ a.time = due ∧
        ∀ due' s, result = .ok (some due') s → due' = due + env.interval := by
  have hsecond {u : Reader Rat ω} {first second : List (Moment Rat ω)} {result}
      (hturn : TurnCase env wait due r first (.ok true u))
      (haccrual : AccrualCase env due u second result) :
      (first ++ second).filterMap (accrualOf? env) = second.filterMap (accrualOf? env) ∧
        clock env u ≤ due := by
    rw [List.filterMap_append, hturn.filterMap_accrualOf?]
    exact ⟨rfl, (hturn.clock_le h hw).trans (max_le le_rfl hr)⟩
  cases hcase with
  | turnFailed hturn | last hturn => exact .inl ⟨hturn.filterMap_accrualOf?, nofun⟩
  | accrualFailed hturn haccrual =>
    obtain ⟨heq, hu⟩ := hsecond hturn haccrual
    rw [heq]
    rcases haccrual.accrual_of_still h hu with ⟨hnone, -⟩ | ⟨a, ha, htime, -⟩
    · exact .inl ⟨hnone, nofun⟩
    · exact .inr ⟨a, ha, htime, nofun⟩
  | goesOn hturn haccrual =>
    obtain ⟨heq, hu⟩ := hsecond hturn haccrual
    rw [heq]
    rcases haccrual.accrual_of_still h hu with ⟨hnone, hdue⟩ | ⟨a, ha, htime, hdue⟩
    · refine .inl ⟨hnone, fun due' s hok => ?_⟩
      obtain ⟨hsome, rfl⟩ := EStateM.Result.ok.inj hok
      exact Option.some.inj hsome ▸ hdue _ _ rfl
    · refine .inr ⟨a, ha, htime, fun due' s hok => ?_⟩
      obtain ⟨hsome, rfl⟩ := EStateM.Result.ok.inj hok
      exact Option.some.inj hsome ▸ hdue _ _ rfl

/-- **Accruals do not drift.**  Without delay the accruals of a loop are an interval apart from the
first, which happens when it is due. -/
theorem Course.time_of_still (h : Still env) (hw : Punctual env wait) (hinterval : 0 < env.interval)
    (hcourse : Course env wait due r ms) (hr : clock env r ≤ due) {k : Nat} {a : Accrual Rat}
    (ha : (ms.filterMap (accrualOf? env))[k]? = some a) : a.time = due + k * env.interval := by
  have hround {due r ms result} (hround : RoundCase env wait due r ms result)
      (hr : clock env r ≤ due) {k : Nat} (ha : (ms.filterMap (accrualOf? env))[k]? = some a) :
      a.time = due + k * env.interval := by
    rcases hround.accrual_of_still h hw hr with ⟨hnone, -⟩ | ⟨b, hb, htime, -⟩
    · rw [hnone] at ha
      cases ha
    · rw [hb] at ha
      obtain ⟨rfl, rfl⟩ : k = 0 ∧ b = a := by
        cases k with
        | zero => exact ⟨rfl, Option.some.inj ha⟩
        | succ k => cases ha
      rw [htime, Nat.cast_zero, zero_mul, add_zero]
  induction hcourse generalizing k with
  | outOfFuel => cases ha
  | last hlast => exact hround hlast hr ha
  | @goesOn due due' r s first rest hgoes hrest ih =>
    have hs := (hgoes.clock_le h hw).trans (max_le le_rfl hr)
    rw [List.filterMap_append] at ha
    rcases hgoes.accrual_of_still h hw hr with ⟨hnone, hdue⟩ | ⟨b, hb, htime, hdue⟩
    · obtain rfl := hdue _ _ rfl
      rw [hnone, List.nil_append] at ha
      exact ih hs ha
    · obtain rfl := hdue _ _ rfl
      cases k with
      | zero =>
        refine hround hgoes hr ?_
        rwa [List.getElem?_append_left (by rw [hb]; exact Nat.one_pos)] at ha
      | succ k =>
        rw [hb, List.singleton_append, List.getElem?_cons_succ] at ha
        rw [ih (hs.trans (le_add_of_nonneg_right hinterval.le)) ha, Nat.cast_add, Nat.cast_one]
        ring

/-- **No accrual is left out.**  Without delay the loop never comes past the time when the next
accrual is due. -/
theorem clock_rounds_le (h : Still env) (hw : Punctual env wait) (hinterval : 0 < env.interval)
    (fuel : Nat) {due : Rat} {r : Reader Rat ω} (hr : clock env r ≤ due) :
    clock env (after (rounds env wait fuel due) r) ≤
      due + ((momentsFrom env wait fuel due r).filterMap (accrualOf? env)).length *
        env.interval := by
  have hlate : ∀ (due : Rat) (n : Nat), due ≤ due + n * env.interval := fun _ n =>
    le_add_of_nonneg_right (mul_nonneg (Nat.cast_nonneg n) hinterval.le)
  induction fuel generalizing due r with
  | zero => exact hr.trans (hlate _ 0)
  | succ fuel ih =>
    have hcase := roundCase env wait due r
    have hend := (hcase.clock_le h hw).trans (max_le le_rfl hr)
    have haccrual := hcase.accrual_of_still h hw hr
    rw [after]
    cases hrun : round env wait due r with
    | error f s =>
      rw [hrun] at hend
      rw [rounds_of_error hrun]
      exact hend.trans (hlate _ _)
    | ok next? s =>
      rw [hrun] at hend haccrual
      cases next? with
      | none =>
        rw [rounds_of_none hrun]
        exact hend.trans (hlate _ _)
      | some due' =>
        rw [rounds_of_some hrun, momentsFrom_of_some hrun, List.filterMap_append,
          List.length_append, Nat.cast_add]
        rcases haccrual with ⟨hnone, hdue⟩ | ⟨b, hb, -, hdue⟩
        · obtain rfl := hdue _ _ rfl
          rw [hnone, List.length_nil, Nat.cast_zero, zero_add]
          exact ih hend
        · obtain rfl := hdue _ _ rfl
          rw [hb, List.length_singleton, Nat.cast_one]
          have hs : clock env s ≤ due + env.interval :=
            hend.trans (le_add_of_nonneg_right hinterval.le)
          refine (ih hs).trans (le_of_eq ?_)
          ring

end Still

/-- What a run does after its rounds takes no time. -/
theorem clock_run (h : Still env) (fuel : Nat) (r : Reader Rat ω) :
    clock env (after (run env wait fuel) r) =
      clock env (after (rounds env wait fuel (firstDue env r)) (begun env r)) := by
  rw [after, run_eq_rounds, after]
  cases rounds env wait fuel (firstDue env r) (begun env r) with
  | error f s => rfl
  | ok finished s =>
    cases finished with
    | true => exact h.note _ s
    | false => rfl

end Reader

end JobMeter
