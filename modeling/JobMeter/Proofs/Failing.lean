import JobMeter.Http.Exchange

/-!
# How something fails

To know how a composed action can fail it is enough to know it of its parts.

* `FailsAs P e` — if the result `e` is a failure, then one of a kind in `P`.
* `ActFailsAs P act` — if the action `act` fails, then with a failure of a kind in `P`, whatever it
  starts from.
* Both pass from parts to the whole (`bind`), and what handles the failures of an action decides how
  the whole fails (`ActFailsAs.tryCatch`).
-/

namespace JobMeter

variable {α β ω : Type} {P Q : FailureKind → Prop}

/-- A failure is of a kind in `P`. -/
def FailsAs (P : FailureKind → Prop) (e : Except Failure α) : Prop :=
  ∀ f, e = .error f → P f.kind

namespace FailsAs

theorem pure (a : α) : FailsAs P (Pure.pure a : Except Failure α) := fun _ h => nomatch h

theorem throw {f : Failure} (h : P f.kind) :
    FailsAs P (MonadExcept.throw f : Except Failure α) := by
  intro g hg
  obtain rfl := Except.error.inj hg
  exact h

theorem mono (hPQ : ∀ k, P k → Q k) {e : Except Failure α} (h : FailsAs P e) : FailsAs Q e :=
  fun f hf => hPQ _ (h f hf)

theorem bind {e : Except Failure α} {f : α → Except Failure β} (he : FailsAs P e)
    (hf : ∀ a, FailsAs P (f a)) : FailsAs P (e >>= f) := by
  intro g hg
  cases e with
  | error e' =>
    obtain rfl : e' = g := Except.error.inj hg
    exact he e' rfl
  | ok a => exact hf a g hg

theorem map (f : α → β) {e : Except Failure α} (he : FailsAs P e) : FailsAs P (f <$> e) := by
  intro g hg
  cases e with
  | error e' =>
    obtain rfl : e' = g := Except.error.inj hg
    exact he e' rfl
  | ok a => cases hg

theorem ite {c : Prop} [Decidable c] {e e' : Except Failure α} (he : FailsAs P e)
    (he' : FailsAs P e') : FailsAs P (if c then e else e') := by
  split
  · exact he
  · exact he'

/-- A check that is failed ends the rest. -/
theorem throwIf {c : Prop} [Decidable c] {f : Failure} {next : PUnit → Except Failure α}
    (hf : P f.kind) (hnext : FailsAs P (next ⟨⟩)) :
    FailsAs P (if c then MonadExcept.throw f >>= next else next ⟨⟩) :=
  .ite (.bind (.throw hf) fun _ => hnext) hnext

end FailsAs

/-- A failure of the action is of a kind in `P`. -/
def ActFailsAs (P : FailureKind → Prop) (act : EStateM Failure ω α) : Prop :=
  ∀ w f w', act w = .error f w' → P f.kind

/-- The kind of the failure that comes of an action, if one does. -/
def failureKind? : EStateM.Result Failure ω α → Option FailureKind
  | .ok _ _ => none
  | .error f _ => some f.kind

theorem exists_of_failureKind? {result : EStateM.Result Failure ω α} {k : FailureKind}
    (h : failureKind? result = some k) : ∃ f w, result = .error f w ∧ f.kind = k := by
  cases result with
  | ok a w => cases h
  | error f w => exact ⟨f, w, rfl, Option.some.inj h⟩

/-- What a check gives, its parts gave. -/
theorem exists_ok_of_bind_eq_ok {e : Except Failure α} {f : α → Except Failure β} {b : β}
    (h : (e >>= f) = .ok b) : ∃ a, e = .ok a ∧ f a = .ok b := by
  cases e with
  | error g => cases h
  | ok a => exact ⟨a, rfl, h⟩

/-- After an action that gives something, the rest goes on with that. -/
theorem bind_of_eq_ok {act : EStateM Failure ω α} {w s : ω} {a : α} (h : act w = .ok a s)
    (f : α → EStateM Failure ω β) : (act >>= f) w = f a s := by
  change EStateM.bind act f w = _
  unfold EStateM.bind
  rw [h]

theorem bind_of_eq_error {act : EStateM Failure ω α} {w s : ω} {e : Failure}
    (h : act w = .error e s) (f : α → EStateM Failure ω β) : (act >>= f) w = .error e s := by
  change EStateM.bind act f w = _
  unfold EStateM.bind
  rw [h]

/-- What an action gives, its parts gave. -/
theorem exists_of_bind_eq_ok {act : EStateM Failure ω α} {f : α → EStateM Failure ω β} {w w' : ω}
    {b : β} (h : (act >>= f) w = .ok b w') : ∃ a s, act w = .ok a s ∧ f a s = .ok b w' := by
  change EStateM.bind act f w = _ at h
  unfold EStateM.bind at h
  cases hact : act w with
  | ok a s =>
    rw [hact] at h
    exact ⟨a, s, rfl, h⟩
  | error e s =>
    rw [hact] at h
    cases h

theorem tryCatch_of_eq_ok {act : EStateM Failure ω α} {w s : ω} {a : α} (h : act w = .ok a s)
    (handle : Failure → EStateM Failure ω α) : tryCatch act handle w = .ok a s := by
  change EStateM.tryCatch act handle w = _
  unfold EStateM.tryCatch
  rw [h]

/-- A failure is handled in the world that it left. -/
theorem tryCatch_of_eq_error {act : EStateM Failure ω α} {w s : ω} {f : Failure}
    (h : act w = .error f s) (handle : Failure → EStateM Failure ω α) :
    tryCatch act handle w = handle f s := by
  change EStateM.tryCatch act handle w = _
  unfold EStateM.tryCatch
  rw [h]
  rfl

/-- What an action gives whose failures are handled, it gave itself, or what handles them. -/
theorem eq_ok_of_tryCatch_eq_ok {act : EStateM Failure ω α}
    {handle : Failure → EStateM Failure ω α} {w w' : ω} {a : α}
    (h : tryCatch act handle w = .ok a w') :
    act w = .ok a w' ∨ ∃ f s, handle f s = .ok a w' := by
  change EStateM.tryCatch act handle w = _ at h
  unfold EStateM.tryCatch at h
  cases hact : act w with
  | ok b s =>
    rw [hact] at h
    exact .inl h
  | error e s =>
    rw [hact] at h
    exact .inr ⟨e, _, h⟩

namespace ActFailsAs

theorem pure (a : α) : ActFailsAs P (Pure.pure a : EStateM Failure ω α) := fun _ _ _ h => nomatch h

theorem throw {f : Failure} (h : P f.kind) :
    ActFailsAs P (MonadExcept.throw f : EStateM Failure ω α) := by
  intro w g w' hg
  obtain rfl : f = g := (EStateM.Result.error.inj hg).1
  exact h

theorem mono (hPQ : ∀ k, P k → Q k) {act : EStateM Failure ω α} (h : ActFailsAs P act) :
    ActFailsAs Q act := fun w f w' hf => hPQ _ (h w f w' hf)

theorem get : ActFailsAs P (get : EStateM Failure ω ω) := fun _ _ _ h => nomatch h

theorem modify (f : ω → ω) : ActFailsAs P (modify f : EStateM Failure ω Unit) :=
  fun _ _ _ h => nomatch h

theorem lifted {e : Except Failure α} (h : FailsAs P e) :
    ActFailsAs P (Http.lifted e : EStateM Failure ω α) := by
  cases e with
  | ok a => exact pure a
  | error f => exact throw (h f rfl)

/-- Of what comes after an action only that matters which it can give. -/
theorem bind_of_ok {act : EStateM Failure ω α} {f : α → EStateM Failure ω β}
    (ha : ActFailsAs P act) (hf : ∀ w a w', act w = .ok a w' → ActFailsAs P (f a)) :
    ActFailsAs P (act >>= f) := by
  intro w g w' hg
  change EStateM.bind act f w = _ at hg
  unfold EStateM.bind at hg
  cases hact : act w with
  | ok a s =>
    rw [hact] at hg
    exact hf w a s hact s g w' hg
  | error e s =>
    rw [hact] at hg
    obtain rfl : e = g := (EStateM.Result.error.inj hg).1
    exact ha w e s hact

theorem bind {act : EStateM Failure ω α} {f : α → EStateM Failure ω β} (ha : ActFailsAs P act)
    (hf : ∀ a, ActFailsAs P (f a)) : ActFailsAs P (act >>= f) :=
  ha.bind_of_ok fun _ a _ _ => hf a

/-- What handles failures decides how the whole fails. -/
theorem tryCatch {act : EStateM Failure ω α} {handle : Failure → EStateM Failure ω α}
    (ha : ActFailsAs P act) (hh : ∀ f, P f.kind → ActFailsAs Q (handle f)) :
    ActFailsAs Q (tryCatch act handle) := by
  intro w g w' hg
  change EStateM.tryCatch act handle w = _ at hg
  unfold EStateM.tryCatch at hg
  cases hact : act w with
  | ok a s =>
    rw [hact] at hg
    cases hg
  | error e s =>
    rw [hact] at hg
    exact hh e (ha w e s hact) s g w' hg

theorem ite {c : Prop} [Decidable c] {act act' : EStateM Failure ω α} (ha : ActFailsAs P act)
    (ha' : ActFailsAs P act') : ActFailsAs P (if c then act else act') := by
  split
  · exact ha
  · exact ha'

end ActFailsAs

end JobMeter
