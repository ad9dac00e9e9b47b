import JobMeter.Proofs.Failing

/-!
# Two runs

Two runs of actions can be compared step by step, even if their worlds differ.

* `AlikeResults R S x y` — the results `x` and `y` are both values that `R` relates, or both the
  same failure, and `S` relates the worlds that they leave.
* `RunAlike P S R act act'` — from worlds that `P` relates the actions come to such results.
* Both pass from parts to the whole (`RunAlike.bind`, `RunAlike.tryCatch`).
* `AlikeChecks R e e'` — the same of what changes no world (`AlikeChecks.lifted`).
-/

namespace JobMeter

variable {α α' β β' ω ω' : Type} {P M S : ω → ω' → Prop} {R : α → α' → Prop} {T : β → β' → Prop}

/-! ## What changes no world -/

/-- Both are values that `R` relates, or both are the same failure. -/
inductive AlikeChecks (R : α → α' → Prop) : Except Failure α → Except Failure α' → Prop where
  | ok {a : α} {a' : α'} (h : R a a') : AlikeChecks R (.ok a) (.ok a')
  | error (f : Failure) : AlikeChecks R (.error f) (.error f)

namespace AlikeChecks

theorem refl (e : Except Failure α) : AlikeChecks Eq e e := by
  cases e with
  | error f => exact .error f
  | ok a => exact .ok rfl

theorem bind {e : Except Failure α} {e' : Except Failure α'} {f : α → Except Failure β}
    {f' : α' → Except Failure β'} (he : AlikeChecks R e e')
    (hf : ∀ a a', R a a' → AlikeChecks T (f a) (f' a')) :
    AlikeChecks T (e >>= f) (e' >>= f') := by
  cases he with
  | ok h => exact hf _ _ h
  | error g => exact .error g

end AlikeChecks

/-! ## Results of actions -/

/-- Both are values that `R` relates, or both are the same failure; and `S` relates the worlds. -/
inductive AlikeResults (R : α → α' → Prop) (S : ω → ω' → Prop) :
    EStateM.Result Failure ω α → EStateM.Result Failure ω' α' → Prop where
  | ok {a : α} {a' : α'} {w : ω} {w' : ω'} (h : R a a') (hw : S w w') :
    AlikeResults R S (.ok a w) (.ok a' w')
  | error {w : ω} {w' : ω'} (f : Failure) (hw : S w w') :
    AlikeResults R S (.error f w) (.error f w')

/-- From worlds that `P` relates the actions come to alike results. -/
def RunAlike (P S : ω → ω' → Prop) (R : α → α' → Prop) (act : EStateM Failure ω α)
    (act' : EStateM Failure ω' α') : Prop :=
  ∀ w w', P w w' → AlikeResults R S (act w) (act' w')

namespace RunAlike

theorem pure {a : α} {a' : α'} (hP : ∀ w w', P w w' → S w w') (h : R a a') :
    RunAlike P S R (Pure.pure a) (Pure.pure a') := fun w w' hw => .ok h (hP w w' hw)

theorem throw (hP : ∀ w w', P w w' → S w w') (f : Failure) :
    RunAlike P S R (MonadExcept.throw f) (MonadExcept.throw f) :=
  fun w w' hw => .error f (hP w w' hw)

theorem get : RunAlike S S S MonadState.get MonadState.get := fun _ _ hw => .ok hw hw

theorem modify {f : ω → ω} {f' : ω' → ω'} (h : ∀ w w', P w w' → S (f w) (f' w')) :
    RunAlike P S Eq (modify f) (modify f') := fun w w' hw => .ok rfl (h w w' hw)

theorem lifted {e : Except Failure α} {e' : Except Failure α'} (h : AlikeChecks R e e') :
    RunAlike P P R (Http.lifted e) (Http.lifted e') := by
  intro w w' hw
  cases h with
  | ok h => exact .ok h hw
  | error f => exact .error f hw

/-- The worlds between two actions have to be related like those at the end, since the first action
may be the last. -/
theorem bind {act : EStateM Failure ω α} {act' : EStateM Failure ω' α'}
    {f : α → EStateM Failure ω β} {f' : α' → EStateM Failure ω' β'}
    (ha : RunAlike P M R act act') (hM : ∀ w w', M w w' → S w w')
    (hf : ∀ a a', R a a' → RunAlike M S T (f a) (f' a')) :
    RunAlike P S T (act >>= f) (act' >>= f') := by
  intro w w' hw
  have hresults := ha w w' hw
  generalize hact : act w = x, hact' : act' w' = x' at hresults
  cases hresults with
  | ok h hv =>
    rw [bind_of_eq_ok hact, bind_of_eq_ok hact']
    exact hf _ _ h _ _ hv
  | error g hv =>
    rw [bind_of_eq_error hact, bind_of_eq_error hact']
    exact .error g (hM _ _ hv)

/-- A failure is handled in worlds that are related. -/
theorem tryCatch {act : EStateM Failure ω α} {act' : EStateM Failure ω' α'}
    {handle : Failure → EStateM Failure ω α} {handle' : Failure → EStateM Failure ω' α'}
    (ha : RunAlike P S R act act') (hh : ∀ f, RunAlike S S R (handle f) (handle' f)) :
    RunAlike P S R (tryCatch act handle) (tryCatch act' handle') := by
  intro w w' hw
  have hresults := ha w w' hw
  generalize hact : act w = x, hact' : act' w' = x' at hresults
  cases hresults with
  | ok h hv =>
    rw [tryCatch_of_eq_ok hact, tryCatch_of_eq_ok hact']
    exact .ok h hv
  | error g hv =>
    rw [tryCatch_of_eq_error hact, tryCatch_of_eq_error hact']
    exact hh g _ _ hv

theorem ite {c : Prop} [Decidable c] {act act₁ : EStateM Failure ω α}
    {act' act₁' : EStateM Failure ω' α'} (ha : RunAlike P S R act act')
    (ha₁ : RunAlike P S R act₁ act₁') :
    RunAlike P S R (if c then act else act₁) (if c then act' else act₁') := by
  by_cases hc : c
  · rw [if_pos hc, if_pos hc]
    exact ha
  · rw [if_neg hc, if_neg hc]
    exact ha₁

end RunAlike

end JobMeter
