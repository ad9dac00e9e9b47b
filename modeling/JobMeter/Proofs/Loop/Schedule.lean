import JobMeter.Proofs.Loop.Clock
import JobMeter.Proofs.Loop.Moments

/-!
# The schedule of accruals

The loop waits no longer than until the next accrual is due, but a wait may end late, a dispatch may
take any time, and each look at the clock may.  So an accrual may be late, but it is never early,
and it is never passed over: what has begun before the loop looks at the clock is all that can come
between the time when an accrual is due and the accrual.

* `Onward env wait` — the clock does not go back during waits.
* `RoundCase.clock_lt` — the next accrual is due later than the end of the round before it.
* `EndsTurn`, `RoundCase.accruesNext` — what the loop looks at the clock after, and what it does
  then.
* `Course.due_le`, `Course.pairwise_spaced`, `Course.countP_beganLate_le`, `Course.accruesNext` —
  what this says of all moments of a run.
* `accruals_scheduled` — **accruals are never early and never starved**.
-/

namespace JobMeter

namespace Reader

variable {ω : Type} {env : Environment Rat ω} {wait : Wait Rat ω} {due due' : Rat}
  {r s : Reader Rat ω} {ms ms' : List (Moment Rat ω)} {m : Moment Rat ω}

/-- The clock does not go back while the loop waits. -/
def Onward (env : Environment Rat ω) (wait : Wait Rat ω) : Prop :=
  ∀ t, 0 ≤ t → Keeps (fun r s => clock env r ≤ clock env s) (wait t)

/-- Whatever a reader does, the clock does not go back. -/
theorem steps_clock (h : NeverBack env) : Steps env fun r s => clock env r ≤ clock env s where
  toOuter := h
  register _ r := h.tick r
  deregister _ _ := le_rfl

/-! ## Due times in a round -/

theorem AccrualCase.le_clock {result : EStateM.Result Failure (Reader Rat ω) Rat}
    (h : AccrualCase env due r ms result) (hm : m ∈ ms) : due ≤ clock env m.before := by
  cases h with
  | notDue => cases hm
  | accrued hdue | accrualFailed hdue =>
    obtain rfl := List.mem_singleton.1 hm
    simpa [Quantity.le_rat, clock] using hdue

/-- No accrual of a round begins before it is due. -/
theorem RoundCase.le_clock {result : EStateM.Result Failure (Reader Rat ω) (Option Rat)}
    (h : RoundCase env wait due r ms result) (hm : m ∈ ms) (haccrual : m.deed.isAccrual = true) :
    due ≤ clock env m.before := by
  have hturn {u result} (h : TurnCase env wait due r u result) : m ∉ u := by
    intro hm
    rw [h.isAccrual_eq hm] at haccrual
    cases haccrual
  cases h with
  | turnFailed h | last h => exact absurd hm (hturn h)
  | accrualFailed h hsecond | goesOn h hsecond =>
    exact hsecond.le_clock ((List.mem_append.1 hm).resolve_left (hturn h))

/-! ## From round to round -/

/-- The second part of a round ends before the next accrual is due. -/
theorem AccrualCase.clock_lt (hinterval : 0 < env.interval)
    (h : AccrualCase env due r ms (.ok due' s)) : clock env s < due' := by
  cases h with
  | notDue hdue => simpa [Quantity.le_rat, clock] using hdue
  | accrued => simpa [Quantity.add_rat, clock] using hinterval

/-- The next accrual is due later than the end of the round before it. -/
theorem RoundCase.clock_lt (hinterval : 0 < env.interval)
    (h : RoundCase env wait due r ms (.ok (some due') s)) : clock env s < due' := by
  cases h with
  | goesOn hturn haccrual => exact haccrual.clock_lt hinterval

/-- The time when an accrual is due does not go back. -/
theorem RoundCase.due_le (hclock : NeverBack env) (hinterval : 0 < env.interval)
    (h : RoundCase env wait due r ms (.ok (some due') s)) : due ≤ due' := by
  cases h with
  | goesOn hturn haccrual =>
    have hlt := haccrual.clock_lt hinterval
    cases haccrual with
    | notDue => exact le_rfl
    | accrued hdue haccrue =>
      have hbegan := (AccrualCase.accrued hdue haccrue).le_clock (List.mem_singleton_self _)
      have hended := (AccrualCase.accrued hdue haccrue).before_of_mem (steps_clock hclock)
        (List.mem_singleton_self _)
      exact hbegan.trans (hended.trans hlt.le)

/-- Whatever is done in a round begins before the next accrual is due. -/
theorem RoundCase.before_lt (hclock : NeverBack env) (hwait : Onward env wait)
    (hinterval : 0 < env.interval) (h : RoundCase env wait due r ms (.ok (some due') s))
    (hm : m ∈ ms) : clock env m.before < due' :=
  (h.before_of_mem (steps_clock hclock) (fun due t => hwait _ (timeout_nonneg due t)) hm).trans_lt
    (h.clock_lt hinterval)

/-- From the end of an accrual on it takes an interval until the next one is due. -/
theorem RoundCase.add_le (hclock : NeverBack env)
    (h : RoundCase env wait due r ms (.ok (some due') s)) (hm : m ∈ ms)
    (haccrual : m.deed.isAccrual = true) : clock env m.after + env.interval ≤ due' := by
  cases h with
  | goesOn hturn hsecond =>
    rcases List.mem_append.1 hm with hm | hm
    · rw [hturn.isAccrual_eq hm] at haccrual
      cases haccrual
    · cases hsecond with
      | notDue => cases hm
      | accrued hdue haccrue =>
        obtain rfl := List.mem_singleton.1 hm
        exact add_le_add_left (hclock.now _) _

/-! ## What comes next -/

/-- The accrual of that time is the next thing after the place `k`. -/
def AccruesNext (ms : List (Moment Rat ω)) (k : Nat) (due : Rat) : Prop :=
  ∃ a, ms[k + 1]? = some a ∧ a.deed = .accrue ∧ a.due = due

/-- If an accrual is due, the second part of a round begins with it. -/
theorem AccrualCase.head_of_due {result : EStateM.Result Failure (Reader Rat ω) Rat}
    (hclock : NeverBack env) (h : AccrualCase env due r ms result) (hdue : due ≤ clock env r) :
    ∃ a, ms = [a] ∧ a.deed = .accrue ∧ a.due = due := by
  cases h with
  | notDue hnot =>
    have hlt : clock env (after (now env) r) < due := by simpa [Quantity.le_rat, clock] using hnot
    exact absurd (hdue.trans (hclock.now r)) (not_le.2 hlt)
  | accrued | accrualFailed => exact ⟨_, rfl, rfl, rfl⟩

/-- The second part of a round comes right after the last moment of the first part. -/
theorem accruesNext_append {result : EStateM.Result Failure (Reader Rat ω) Rat}
    (hclock : NeverBack env) (h : AccrualCase env due r ms' result) (hdue : due ≤ clock env r)
    {k : Nat} (hk : k + 1 = ms.length) : AccruesNext (ms ++ ms') k due := by
  obtain ⟨a, rfl, hdeed, ha⟩ := h.head_of_due hclock hdue
  exact ⟨a, by rw [hk, List.getElem?_append_right le_rfl, Nat.sub_self]; rfl, hdeed, ha⟩

/-- The moment is the last one of a turn that goes on: a dispatch that does not fail, or a wait that
leaves nothing to dispatch and takes no marker. -/
def EndsTurn (env : Environment Rat ω) (m : Moment Rat ω) : Prop :=
  match m.deed with
  | .wait slot? => slot?.bind Slot.passed? = none ∧ Slot.isMarker? slot? = false
  | .dispatch i => ∃ s, dispatchSafely env i m.before = .ok () s
  | .accrue => False

/-- Such a moment is the last one of a turn that goes on. -/
theorem TurnCase.goes_of_endsTurn {result : EStateM.Result Failure (Reader Rat ω) Bool}
    (h : TurnCase env wait due r ms result) {k : Nat} (hm : ms[k]? = some m)
    (hends : EndsTurn env m) : result = .ok true m.after ∧ k + 1 = ms.length := by
  cases h with
  | stopped | waitFailed => cases hm
  | ended =>
    rcases k with _ | k
    · obtain rfl := Option.some.inj hm
      cases hends.2
    · cases hm
  | passedOver =>
    rcases k with _ | k
    · obtain rfl := Option.some.inj hm
      exact ⟨rfl, rfl⟩
    · cases hm
  | dispatched hgoes hwait hsome hdispatch =>
    rcases k with _ | _ | k
    · obtain rfl := Option.some.inj hm
      exact absurd (hsome.symm.trans hends.1) (by simp)
    · obtain rfl := Option.some.inj hm
      exact ⟨rfl, rfl⟩
    · cases hm
  | dispatchFailed hgoes hwait hsome hdispatch =>
    rcases k with _ | _ | k
    · obtain rfl := Option.some.inj hm
      exact absurd (hsome.symm.trans hends.1) (by simp)
    · obtain rfl := Option.some.inj hm
      obtain ⟨s, hok⟩ := hends
      exact absurd (hdispatch.symm.trans hok) (by simp)
    · cases hm

theorem AccrualCase.not_endsTurn {result : EStateM.Result Failure (Reader Rat ω) Rat}
    (h : AccrualCase env due r ms result) (hm : m ∈ ms) : ¬ EndsTurn env m := by
  cases h with
  | notDue => cases hm
  | accrued | accrualFailed =>
    obtain rfl := List.mem_singleton.1 hm
    exact id

/-- If an accrual is due at the end of a turn, it is the next thing that the loop does. -/
theorem RoundCase.accruesNext {result : EStateM.Result Failure (Reader Rat ω) (Option Rat)}
    (hclock : NeverBack env) (h : RoundCase env wait due r ms result) {k : Nat}
    (hm : ms[k]? = some m) (hends : EndsTurn env m) (hdue : due ≤ clock env m.after) :
    AccruesNext ms k due := by
  have hturned {u : Reader Rat ω} {first second : List (Moment Rat ω)} {result}
      (hturn : TurnCase env wait due r first (.ok true u))
      (haccrual : AccrualCase env due u second result)
      (hm : (first ++ second)[k]? = some m) : AccruesNext (first ++ second) k due := by
    rcases Nat.lt_or_ge k first.length with hlt | hge
    · rw [List.getElem?_append_left hlt] at hm
      obtain ⟨hgoes, hlast⟩ := hturn.goes_of_endsTurn hm hends
      injection hgoes with _ hu
      exact accruesNext_append hclock haccrual (hu ▸ hdue) hlast
    · rw [List.getElem?_append_right hge] at hm
      exact absurd hends (haccrual.not_endsTurn (List.mem_of_getElem? hm))
  cases h with
  | turnFailed hturn => exact nomatch (hturn.goes_of_endsTurn hm hends).1
  | last hturn => exact nomatch (hturn.goes_of_endsTurn hm hends).1
  | accrualFailed hturn haccrual => exact hturned hturn haccrual hm
  | goesOn hturn haccrual => exact hturned hturn haccrual hm

/-! ## Moments apart -/

/-- If the first moment is an accrual, the one that is next at the second is due an interval after
its end, or later. -/
def Spaced (env : Environment Rat ω) (m m' : Moment Rat ω) : Prop :=
  m.deed.isAccrual = true → clock env m.after + env.interval ≤ m'.due

theorem AccrualCase.pairwise_spaced {result : EStateM.Result Failure (Reader Rat ω) Rat}
    (h : AccrualCase env due r ms result) : ms.Pairwise (Spaced env) := by
  cases h with
  | notDue => exact .nil
  | accrued | accrualFailed => exact List.pairwise_singleton _ _

/-- Nothing comes after the accrual of a round. -/
theorem RoundCase.pairwise_spaced {result : EStateM.Result Failure (Reader Rat ω) (Option Rat)}
    (h : RoundCase env wait due r ms result) : ms.Pairwise (Spaced env) := by
  have hturn {due r first result} (h : TurnCase env wait due r first result) {m}
      (hm : m ∈ first) (m' : Moment Rat ω) : Spaced env m m' := by
    intro haccrual
    rw [h.isAccrual_eq hm] at haccrual
    cases haccrual
  have hfirst {due r first result} (h : TurnCase env wait due r first result) :
      first.Pairwise (Spaced env) :=
    List.pairwise_of_forall_mem_list fun m hm m' _ => hturn h hm m'
  cases h with
  | turnFailed h | last h => exact hfirst h
  | accrualFailed h hsecond | goesOn h hsecond =>
    exact List.pairwise_append.2
      ⟨hfirst h, hsecond.pairwise_spaced, fun m hm m' _ => hturn h hm m'⟩

/-- The moment is a dispatch that begins at that time or later. -/
def beganLate (env : Environment Rat ω) (due : Rat) (m : Moment Rat ω) : Bool :=
  m.deed.isDispatch && decide (due ≤ clock env m.before)

/-- One dispatch at most begins in a round. -/
theorem RoundCase.countP_beganLate_take_le
    {result : EStateM.Result Failure (Reader Rat ω) (Option Rat)}
    (h : RoundCase env wait due r ms result) (t : Rat) (n : Nat) :
    (ms.take n).countP (beganLate env t) ≤ 1 := by
  have hmono : (ms.take n).countP (beganLate env t) ≤ ms.countP (·.deed.isDispatch) := by
    refine (List.take_sublist n ms).countP_le.trans (List.countP_mono_left fun m _ hm => ?_)
    exact (Bool.and_eq_true _ _ ▸ hm).1
  exact hmono.trans h.countP_le.1

/-! ## All rounds -/

namespace Course

/-- Accruals fall due later and later. -/
theorem due_le (hclock : NeverBack env) (hinterval : 0 < env.interval)
    (h : Course env wait due r ms) (hm : m ∈ ms) : due ≤ m.due := by
  induction h with
  | outOfFuel => cases hm
  | last hround => exact (hround.due_eq hm).ge
  | goesOn hround hrest ih =>
    rcases List.mem_append.1 hm with hm | hm
    · exact (hround.due_eq hm).ge
    · exact (hround.due_le hclock hinterval).trans (ih hm)

/-- No accrual begins before it is due. -/
theorem due_le_clock (h : Course env wait due r ms) (hm : m ∈ ms)
    (haccrual : m.deed.isAccrual = true) : m.due ≤ clock env m.before := by
  induction h with
  | outOfFuel => cases hm
  | last hround => exact (hround.due_eq hm).symm ▸ hround.le_clock hm haccrual
  | goesOn hround hrest ih =>
    rcases List.mem_append.1 hm with hm | hm
    · exact (hround.due_eq hm).symm ▸ hround.le_clock hm haccrual
    · exact ih hm

/-- After an accrual the next one is due an interval after its end, or later. -/
theorem pairwise_spaced (hclock : NeverBack env) (hinterval : 0 < env.interval)
    (h : Course env wait due r ms) : ms.Pairwise (Spaced env) := by
  induction h with
  | outOfFuel => exact .nil
  | last hround => exact hround.pairwise_spaced
  | goesOn hround hrest ih =>
    refine List.pairwise_append.2 ⟨hround.pairwise_spaced, ih, fun m hm m' hm' haccrual => ?_⟩
    exact (hround.add_le hclock hm haccrual).trans (hrest.due_le hclock hinterval hm')

/-- Up to each moment one dispatch at most has begun since the time when the accrual that is next
then was due. -/
theorem countP_beganLate_le (hclock : NeverBack env) (hwait : Onward env wait)
    (hinterval : 0 < env.interval) (h : Course env wait due r ms) {j : Nat} (hm : ms[j]? = some m) :
    (ms.take (j + 1)).countP (beganLate env m.due) ≤ 1 := by
  induction h generalizing j with
  | outOfFuel => cases hm
  | last hround => exact hround.countP_beganLate_take_le _ _
  | @goesOn due due' r s first rest hround hrest ih =>
    rcases Nat.lt_or_ge j first.length with hlt | hge
    · rw [List.take_append_of_le_length hlt]
      exact hround.countP_beganLate_take_le _ _
    · rw [List.getElem?_append_right hge] at hm
      -- all of the first round begins before the accrual that is next now was due
      have hnone : first.countP (beganLate env m.due) = 0 := by
        refine List.countP_eq_zero.2 fun m' hm' hlate => ?_
        rw [beganLate, Bool.and_eq_true, decide_eq_true_eq] at hlate
        have hbefore := hround.before_lt hclock hwait hinterval hm'
        have hdue := hrest.due_le hclock hinterval (List.mem_of_getElem? hm)
        linarith [hlate.2]
      rw [List.take_append, List.countP_append, List.take_of_length_le (Nat.le_succ_of_le hge),
        hnone, Nat.zero_add, Nat.sub_add_comm hge]
      exact ih hm

/-- If an accrual is due at the end of a turn, it is the next thing that the loop does. -/
theorem accruesNext (hclock : NeverBack env) (h : Course env wait due r ms) {k : Nat}
    (hm : ms[k]? = some m) (hends : EndsTurn env m) (hdue : m.due ≤ clock env m.after) :
    AccruesNext ms k m.due := by
  have hround {due r ms k result} (h : RoundCase env wait due r ms result) (hm : ms[k]? = some m) :
      AccruesNext ms k m.due := by
    have heq := h.due_eq (List.mem_of_getElem? hm)
    rw [heq] at hdue ⊢
    exact h.accruesNext hclock hm hends hdue
  induction h generalizing k with
  | outOfFuel => cases hm
  | last h => exact hround h hm
  | @goesOn due due' r s first rest h hrest ih =>
    rcases Nat.lt_or_ge k first.length with hlt | hge
    · rw [List.getElem?_append_left hlt] at hm
      obtain ⟨a, ha, hdeed⟩ := hround h hm
      exact ⟨a, by rw [List.getElem?_append_left (List.getElem?_eq_some_iff.1 ha).1, ha], hdeed⟩
    · rw [List.getElem?_append_right hge] at hm
      obtain ⟨a, ha, hdeed⟩ := ih hm
      refine ⟨a, ?_, hdeed⟩
      rw [List.getElem?_append_right (Nat.le_succ_of_le hge), Nat.succ_sub hge]
      exact ha

end Course

/-- **Accruals are never early and never starved.**  Let the clock never go back, and let others
submit what they want and ask for a stop at any time.  Dispatches may take any time, and accruals
may fail.  Then in each run of the loop, however many rounds it makes:

* no accrual begins before it is due, and the first one is due an interval after the start of the
  loop, or later;
* of two accruals the later one is due an interval after the end of the earlier one, or later;
* since the time when an accrual is due one dispatch at most begins before it;
* if an accrual is due when a dispatch has ended, or a wait for nothing, it is the next thing that
  the loop does.

The account of what the loop does is complete. -/
theorem accruals_scheduled {ω : Type} (env : Environment Rat ω) (wait : Wait Rat ω)
    (hinterval : 0 < env.interval) (hclock : NeverBack env) (hwait : Onward env wait) (fuel : Nat)
    (r : Reader Rat ω) :
    let ms := moments env wait fuel r
    (∀ m ∈ ms, m.deed.isAccrual = true →
      clock env (begun env r) + env.interval ≤ m.due ∧ m.due ≤ clock env m.before) ∧
    (∀ (i j : Nat) (m m' : Moment Rat ω), i < j → ms[i]? = some m → ms[j]? = some m' →
      m.deed.isAccrual = true → m'.deed.isAccrual = true →
      clock env m.after + env.interval ≤ m'.due ∧ m'.due ≤ clock env m'.before) ∧
    (∀ (j : Nat) (m : Moment Rat ω), ms[j]? = some m → (ms.take (j + 1)).countP (fun m' =>
      m'.deed.isDispatch && decide (m.due ≤ clock env m'.before)) ≤ 1) ∧
    (∀ (k : Nat) (m : Moment Rat ω), ms[k]? = some m → EndsTurn env m →
      m.due ≤ clock env m.after → ∃ a, ms[k + 1]? = some a ∧ a.deed = .accrue ∧ a.due = m.due) ∧
    ∀ finished s, run env wait fuel r = .ok finished s →
      ∃ due u, Leads env wait (firstDue env r) (begun env r) ms due u ∧
        s = if finished then after (note env .loopStopped) u else u := by
  intro ms
  have hcourse : Course env wait (firstDue env r) (begun env r) ms :=
    course_momentsFrom fuel _ _
  refine ⟨fun m hm haccrual => ⟨hcourse.due_le hclock hinterval hm,
    hcourse.due_le_clock hm haccrual⟩, fun i j m m' hij hm hm' haccrual haccrual' => ⟨?_,
    hcourse.due_le_clock (List.mem_of_getElem? hm') haccrual'⟩,
    fun j m hm => hcourse.countP_beganLate_le hclock hwait hinterval hm,
    fun k m hm hends hdue => hcourse.accruesNext hclock hm hends hdue, fun _ _ => leads_of_run⟩
  have hpairwise := List.pairwise_iff_getElem.1 (hcourse.pairwise_spaced hclock hinterval)
  obtain ⟨hi, rfl⟩ := List.getElem?_eq_some_iff.1 hm
  obtain ⟨hj, rfl⟩ := List.getElem?_eq_some_iff.1 hm'
  exact hpairwise i j hi hj hij haccrual

end Reader

open Reader

/-- Each wait ends three seconds late, there is always an item on the queue, and no accrual can be
counted.  The second dispatch begins after the second accrual was due, and the accrual is next. -/
theorem accruals_scheduled_late :
    let env : Environment Rat _ := Trial.environment (.recording [.inProgressDuration]) 10 false
    let wait := Trial.wait fun t => t + 3
    let start : Slot := .item (.event (.plain Action.inProgress 1))
    let r : Reader Rat _ := ⟨{}, ⟨0, [start, start, start]⟩, ⟨5, .error ⟨.jobLogs, [], none⟩, []⟩⟩
    let ms := moments env wait 3 r
    0 < env.interval ∧ NeverBack env ∧ Onward env wait ∧
      ∃ a d b, ms[2]? = some a ∧ ms[4]? = some d ∧ ms[5]? = some b ∧
        (a.deed.isAccrual = true ∧ d.deed.isDispatch = true ∧ b.deed.isAccrual = true) ∧
        (clock env d.before, d.due, clock env a.after) = (31, 28, 18) ∧
        (clock env (begun env r) + 10 ≤ a.due ∧ a.due ≤ clock env a.before) ∧
        (clock env a.after + 10 ≤ b.due ∧ b.due ≤ clock env b.before) ∧
        (ms.take 6).countP (fun m => m.deed.isDispatch && decide (b.due ≤ clock env m.before)) ≤ 1 ∧
        (∃ c, ms[4 + 1]? = some c ∧ c.deed = .accrue ∧ c.due = d.due) ∧
        ∃ due s, Leads env wait (firstDue env r) (begun env r) ms due s := by
  intro env wait start r ms
  have hinterval : 0 < env.interval := by decide +kernel
  have hclock : NeverBack env := (Trial.still _ 10 false).neverBack
  have hwait : Onward env wait := fun t ht s => (Trial.patient _ 10 false _ t ht s).2
  have ha : ms[2]?.map (fun m => (m.deed.isAccrual, clock env m.after)) = some (true, 18) := by
    decide +kernel
  have hd : ms[4]?.map (fun m => (m.deed.isDispatch, clock env m.before, m.due,
      decide (m.due ≤ clock env m.after), match m.deed with
        | .dispatch i => match dispatchSafely env i m.before with
          | .ok _ _ => true
          | .error _ _ => false
        | _ => false)) = some (true, 31, 28, true, true) := by
    decide +kernel
  have hb : ms[5]?.map (·.deed.isAccrual) = some true := by decide +kernel
  obtain ⟨a, ha, haccrual⟩ := Option.map_eq_some_iff.1 ha
  obtain ⟨d, hd, hdispatch⟩ := Option.map_eq_some_iff.1 hd
  obtain ⟨b, hb, hbaccrual⟩ := Option.map_eq_some_iff.1 hb
  simp only [Prod.mk.injEq, decide_eq_true_eq] at haccrual hdispatch
  obtain ⟨haccrual, hafter⟩ := haccrual
  obtain ⟨hdispatch, hbefore, hdue, hlate, hok⟩ := hdispatch
  have hends : EndsTurn env d := by
    rw [EndsTurn]
    cases hdeed : d.deed with
    | wait | accrue =>
      rw [hdeed] at hdispatch
      cases hdispatch
    | dispatch i =>
      rw [hdeed] at hok
      cases hrun : dispatchSafely env i d.before with
      | ok u s => exact ⟨s, hrun⟩
      | error f s =>
        simp only [hrun] at hok
        cases hok
  have hrun : (match run env wait 3 r with
      | .ok _ _ => true
      | .error _ _ => false) = true := by decide +kernel
  obtain ⟨hfirst, hapart, hcount, hnext, hleads⟩ :=
    accruals_scheduled env wait hinterval hclock hwait 3 r
  have hcomplete : ∃ due s, Leads env wait (firstDue env r) (begun env r) ms due s := by
    split at hrun
    · rename_i finished s hok
      obtain ⟨due, u, hleads, -⟩ := hleads finished s hok
      exact ⟨due, u, hleads⟩
    · cases hrun
  exact ⟨hinterval, hclock, hwait, a, d, b, ha, hd, hb, ⟨haccrual, hdispatch, hbaccrual⟩,
    by rw [hbefore, hdue, hafter], hfirst a (List.mem_of_getElem? ha) haccrual,
    hapart 2 5 a b (by decide) ha hb haccrual hbaccrual, hcount 5 b hb, hnext 4 d hd hends hlate,
    hcomplete⟩

end JobMeter
