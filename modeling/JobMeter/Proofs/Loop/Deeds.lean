import JobMeter.Proofs.Loop.Moments

/-!
# Deeds and what lies between them

The account of a run tells what the loop did, and between these deeds it only looks at the clock.
This is so for every run, even for one that fails.

* `Moment.IsDone` — the reader after the deed is the one that the deed leaves.  It is so for every
  moment of a run (`Course.isDone_of_mem`).
* `Linked R r ms s` — `R` holds from the end of each deed to the beginning of the next one.  It does
  so in a run if `R` is kept while the loop looks at the clock or waits (`linked_momentsFrom`).
* `Course.keeps_of_mem` — what every step of a reader keeps, every deed keeps.
-/

namespace JobMeter

/-- The deed leads from the reader before it to the reader after it. -/
def Moment.IsDone {τ ω : Type} [Quantity τ] (env : Environment τ ω) (wait : Wait τ ω)
    (m : Moment τ ω) : Prop :=
  match m.deed with
  | .wait slot? =>
    wait (Reader.timeout m.due (env.now m.before.world)) m.before = .ok slot? m.after
  | .dispatch i => m.after = Reader.after (Reader.dispatchSafely env i) m.before
  | .accrue => m.after = Reader.after (Reader.accrueSafely env) m.before

namespace Reader

variable {τ ω : Type} {R : Reader τ ω → Reader τ ω → Prop} {r s t : Reader τ ω}
  {ms ms' : List (Moment τ ω)} {m : Moment τ ω}

/-! ## Between the deeds -/

/-- The deeds come one after the other: `R` relates the first reader to the beginning of the first
deed, the end of each deed to the beginning of the next one, and the end of the last one to the last
reader. -/
inductive Linked (R : Reader τ ω → Reader τ ω → Prop) :
    Reader τ ω → List (Moment τ ω) → Reader τ ω → Prop where
  | nil {r s : Reader τ ω} (h : R r s) : Linked R r [] s
  | cons {r s : Reader τ ω} {m : Moment τ ω} {ms : List (Moment τ ω)} (hbefore : R r m.before)
      (hrest : Linked R m.after ms s) : Linked R r (m :: ms) s

namespace Linked

theorem append (h : Linked R r ms s) (h' : Linked R s ms' t)
    (htrans : ∀ ⦃r s t⦄, R r s → R s t → R r t) : Linked R r (ms ++ ms') t := by
  induction h with
  | nil h =>
    cases h' with
    | nil h' => exact .nil (htrans h h')
    | cons hbefore hrest => exact .cons (htrans h hbefore) hrest
  | cons hbefore hrest ih => exact .cons hbefore (ih h')

/-- What the deeds keep, too, is kept up to the beginning of each deed. -/
theorem before_of_mem (h : Linked R r ms s) (htrans : ∀ ⦃r s t⦄, R r s → R s t → R r t)
    (hdeeds : ∀ m ∈ ms, R m.before m.after) (hm : m ∈ ms) : R r m.before := by
  induction h with
  | nil => cases hm
  | cons hbefore hrest ih =>
    rw [List.forall_mem_cons] at hdeeds
    rcases List.mem_cons.1 hm with rfl | hm
    · exact hbefore
    · exact htrans hbefore (htrans hdeeds.1 (ih hdeeds.2 hm))

/-- What the deeds keep, too, is kept from the end of each deed to the beginning of every later
one. -/
theorem pairwise (h : Linked R r ms s) (htrans : ∀ ⦃r s t⦄, R r s → R s t → R r t)
    (hdeeds : ∀ m ∈ ms, R m.before m.after) : ms.Pairwise fun m m' => R m.after m'.before := by
  induction h with
  | nil => exact .nil
  | cons hbefore hrest ih =>
    rw [List.forall_mem_cons] at hdeeds
    exact .cons (fun m hm => hrest.before_of_mem htrans hdeeds.2 hm) (ih hdeeds.2)

end Linked

/-- The reader that a result leaves. -/
def resting {α : Type} : EStateM.Result Failure (Reader τ ω) α → Reader τ ω
  | .ok _ s => s
  | .error _ s => s

section

variable [Quantity τ] {env : Environment τ ω} {wait : Wait τ ω} {due : τ}

/-- `R` is kept while a reader looks at the clock or waits. -/
structure Idle (env : Environment τ ω) (wait : Wait τ ω) (R : Reader τ ω → Reader τ ω → Prop) :
    Prop where
  refl : ∀ r, R r r
  trans : ∀ ⦃r s t⦄, R r s → R s t → R r t
  now : Keeps R (now env)
  wait : ∀ due t, Keeps R (wait (timeout due t))

theorem Steps.idle (hR : Steps env R) (hw : ∀ due t, Keeps R (wait (timeout due t))) :
    Idle env wait R := ⟨hR.refl, hR.trans, hR.now, hw⟩

theorem TurnCase.linked (hR : Idle env wait R) {result : EStateM.Result Failure (Reader τ ω) Bool}
    (h : TurnCase env wait due r ms result) : Linked R r ms (resting result) := by
  have hnow : R r (after (now env) r) := hR.now r
  cases h with
  | stopped => exact .nil (hR.refl r)
  | waitFailed hgoes hwait =>
    exact .nil (hR.trans hnow (after_of_error hwait ▸ hR.wait _ _ _))
  | ended | passedOver => exact .cons hnow (.nil (hR.refl _))
  | dispatched | dispatchFailed => exact .cons hnow (.cons (hR.refl _) (.nil (hR.refl _)))

theorem AccrualCase.linked (hR : Idle env wait R) {result : EStateM.Result Failure (Reader τ ω) τ}
    (h : AccrualCase env due r ms result) : Linked R r ms (resting result) := by
  have hnow : R r (after (now env) r) := hR.now r
  cases h with
  | notDue => exact .nil hnow
  | accrued => exact .cons hnow (.nil (hR.now _))
  | accrualFailed => exact .cons hnow (.nil (hR.refl _))

theorem RoundCase.linked (hR : Idle env wait R)
    {result : EStateM.Result Failure (Reader τ ω) (Option τ)}
    (h : RoundCase env wait due r ms result) : Linked R r ms (resting result) := by
  cases h with
  | turnFailed hturn | last hturn => exact hturn.linked hR
  | accrualFailed hturn haccrual | goesOn hturn haccrual =>
    exact (hturn.linked hR).append (haccrual.linked hR) hR.trans

/-- **Between its deeds the loop only looks at the clock.**  If its rounds fail in a wait, then that
is all that comes after the last deed. -/
theorem linked_momentsFrom (hR : Idle env wait R) (fuel : Nat) (due : τ) (r : Reader τ ω) :
    Linked R r (momentsFrom env wait fuel due r) (after (rounds env wait fuel due) r) := by
  induction fuel generalizing due r with
  | zero => exact .nil (hR.refl r)
  | succ fuel ih =>
    have hround := (roundCase env wait due r).linked hR
    rw [after]
    cases hrun : round env wait due r with
    | error f s =>
      rw [hrun] at hround
      rw [rounds_of_error hrun, momentsFrom_of_error hrun]
      exact hround
    | ok next? s =>
      rw [hrun] at hround
      cases next? with
      | none =>
        rw [rounds_of_none hrun, momentsFrom_of_none hrun]
        exact hround
      | some due' =>
        rw [rounds_of_some hrun, momentsFrom_of_some hrun]
        exact hround.append (ih due' s) hR.trans

/-! ## The deeds -/

theorem TurnCase.isDone_of_mem {result : EStateM.Result Failure (Reader τ ω) Bool}
    (h : TurnCase env wait due r ms result) (hm : m ∈ ms) : m.IsDone env wait := by
  cases h with
  | stopped | waitFailed => cases hm
  | ended hgoes hwait | passedOver hgoes hwait =>
    obtain rfl := List.mem_singleton.1 hm
    exact hwait
  | dispatched hgoes hwait hsome hdispatch =>
    rcases List.mem_cons.1 hm with rfl | hm
    · exact hwait
    · obtain rfl := List.mem_singleton.1 hm
      exact (after_of_ok hdispatch).symm
  | dispatchFailed hgoes hwait hsome hdispatch =>
    rcases List.mem_cons.1 hm with rfl | hm
    · exact hwait
    · obtain rfl := List.mem_singleton.1 hm
      exact (after_of_error hdispatch).symm

theorem AccrualCase.isDone_of_mem {result : EStateM.Result Failure (Reader τ ω) τ}
    (h : AccrualCase env due r ms result) (hm : m ∈ ms) : m.IsDone env wait := by
  cases h with
  | notDue => cases hm
  | accrued hdue haccrue =>
    obtain rfl := List.mem_singleton.1 hm
    exact (after_of_ok haccrue).symm
  | accrualFailed hdue haccrue =>
    obtain rfl := List.mem_singleton.1 hm
    exact (after_of_error haccrue).symm

theorem RoundCase.isDone_of_mem {result : EStateM.Result Failure (Reader τ ω) (Option τ)}
    (h : RoundCase env wait due r ms result) (hm : m ∈ ms) : m.IsDone env wait := by
  cases h with
  | turnFailed hturn | last hturn => exact hturn.isDone_of_mem hm
  | accrualFailed hturn haccrual | goesOn hturn haccrual =>
    exact (List.mem_append.1 hm).elim hturn.isDone_of_mem haccrual.isDone_of_mem

/-- **Each moment is what it says that it is.** -/
theorem Course.isDone_of_mem (h : Course env wait due r ms) (hm : m ∈ ms) : m.IsDone env wait := by
  induction h with
  | outOfFuel => cases hm
  | last hround => exact hround.isDone_of_mem hm
  | goesOn hround hrest ih => exact (List.mem_append.1 hm).elim hround.isDone_of_mem ih

theorem Course.after_of_isAccrual (h : Course env wait due r ms) (hm : m ∈ ms)
    (haccrual : m.deed.isAccrual = true) : m.after = after (accrueSafely env) m.before := by
  have hdone := h.isDone_of_mem hm
  obtain ⟨deed, due, before, after⟩ := m
  cases deed with
  | wait | dispatch => cases haccrual
  | accrue => exact hdone

theorem keeps_of_isDone (h : m.IsDone env wait) (hR : Steps env R)
    (hw : ∀ due t, Keeps R (wait (timeout due t))) : R m.before m.after := by
  obtain ⟨deed, due, before, after⟩ := m
  cases deed with
  | wait slot? =>
    have hwait := hw due (env.now before.world) before
    rwa [after_of_ok h] at hwait
  | dispatch i => exact (show after = _ from h) ▸ hR.dispatchSafely i before
  | accrue => exact (show after = _ from h) ▸ hR.accrueSafely before

/-- What every step of a reader keeps, every deed keeps. -/
theorem Course.keeps_of_mem (h : Course env wait due r ms) (hR : Steps env R)
    (hw : ∀ due t, Keeps R (wait (timeout due t))) : ∀ m ∈ ms, R m.before m.after :=
  fun _ hm => keeps_of_isDone (h.isDone_of_mem hm) hR hw

/-- What every step of a reader keeps is kept from the beginning to each deed. -/
theorem before_of_mem_momentsFrom (hR : Steps env R) (hw : ∀ due t, Keeps R (wait (timeout due t)))
    {fuel : Nat} (hm : m ∈ momentsFrom env wait fuel due r) : R r m.before :=
  (linked_momentsFrom (hR.idle hw) fuel due r).before_of_mem hR.trans
    ((course_momentsFrom fuel due r).keeps_of_mem hR hw) hm

/-- What every step of a reader keeps is kept from the end of each deed to every later one. -/
theorem pairwise_momentsFrom (hR : Steps env R) (hw : ∀ due t, Keeps R (wait (timeout due t)))
    (fuel : Nat) (due : τ) (r : Reader τ ω) :
    (momentsFrom env wait fuel due r).Pairwise fun m m' => R m.after m'.before :=
  (linked_momentsFrom (hR.idle hw) fuel due r).pairwise hR.trans
    ((course_momentsFrom fuel due r).keeps_of_mem hR hw)

end

end Reader

end JobMeter
