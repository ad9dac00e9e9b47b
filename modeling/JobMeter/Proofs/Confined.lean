import JobMeter.Log.Fetch
import JobMeter.Proofs.Failing

/-!
# Confined actions

An action is confined if it leads from states of a kind to such states only, whether it fails or
not, and if it fails in certain ways only.  The ways may depend on the kind of the states, so a
failure can be traced to what was in the state before.

* `Lands I P result` — the result leaves a state with `I`, and if it is a failure then one in `P`.
* `Confined I P act` — from states with `I` the action comes to such results.
* It passes from parts to the whole (`Confined.bind`, `Confined.tryCatch`, `Confined.forM`).
* `Confined.iff_actFailsAs` — where no state is left out, only the failures count.
-/

namespace JobMeter

variable {α β σ : Type} {I : σ → Prop} {P Q : Failure → Prop}

/-- The result leaves a state with `I`, and if it is a failure then one in `P`. -/
inductive Lands (I : σ → Prop) (P : Failure → Prop) : EStateM.Result Failure σ α → Prop where
  | ok {a : α} {s : σ} (hs : I s) : Lands I P (.ok a s)
  | error {f : Failure} {s : σ} (hs : I s) (hf : P f) : Lands I P (.error f s)

theorem Lands.exists_result {result : EStateM.Result Failure σ α} (h : Lands I P result) :
    (∃ a s, result = .ok a s ∧ I s) ∨ ∃ f s, result = .error f s ∧ I s ∧ P f := by
  cases h with
  | ok hs => exact .inl ⟨_, _, rfl, hs⟩
  | error hs hf => exact .inr ⟨_, _, rfl, hs, hf⟩

/-- From states with `I` the action leads to such states, and a failure of it is in `P`. -/
def Confined (I : σ → Prop) (P : Failure → Prop) (act : EStateM Failure σ α) : Prop :=
  ∀ s, I s → Lands I P (act s)

namespace Confined

theorem pure (a : α) : Confined I P (Pure.pure a : EStateM Failure σ α) := fun _ hs => .ok hs

theorem get : Confined I P (get : EStateM Failure σ σ) := fun _ hs => .ok hs

theorem modify {f : σ → σ} (h : ∀ s, I s → I (f s)) :
    Confined I P (modify f : EStateM Failure σ Unit) := fun s hs => .ok (h s hs)

theorem throw {f : Failure} (h : P f) :
    Confined I P (MonadExcept.throw f : EStateM Failure σ α) := fun _ hs => .error hs h

theorem bind {act : EStateM Failure σ α} {f : α → EStateM Failure σ β} (ha : Confined I P act)
    (hf : ∀ a, Confined I P (f a)) : Confined I P (act >>= f) := by
  intro s hs
  rcases (ha s hs).exists_result with ⟨a, t, hact, ht⟩ | ⟨e, t, hact, ht, he⟩
  · rw [bind_of_eq_ok hact]
    exact hf a t ht
  · rw [bind_of_eq_error hact]
    exact .error ht he

theorem map (f : α → β) {act : EStateM Failure σ α} (ha : Confined I P act) :
    Confined I P (f <$> act) := by
  rw [map_eq_pure_bind]
  exact ha.bind fun a => pure (f a)

/-- What handles failures decides how the whole fails. -/
theorem tryCatch {act : EStateM Failure σ α} {handle : Failure → EStateM Failure σ α}
    (ha : Confined I P act) (hh : ∀ f, P f → Confined I Q (handle f)) :
    Confined I Q (tryCatch act handle) := by
  intro s hs
  rcases (ha s hs).exists_result with ⟨a, t, hact, ht⟩ | ⟨e, t, hact, ht, he⟩
  · rw [tryCatch_of_eq_ok hact]
    exact .ok ht
  · rw [tryCatch_of_eq_error hact]
    exact hh e he t ht

theorem ite {c : Prop} [Decidable c] {act act' : EStateM Failure σ α} (ha : Confined I P act)
    (ha' : Confined I P act') : Confined I P (if c then act else act') := by
  split
  · exact ha
  · exact ha'

theorem forM {l : List α} {f : α → EStateM Failure σ PUnit} (h : ∀ a, Confined I P (f a)) :
    Confined I P (l.forM f) := by
  induction l with
  | nil => exact pure _
  | cons a l ih => exact (h a).bind fun _ => ih

/-- How an action fails, whatever it starts from. -/
theorem iff_actFailsAs {K : FailureKind → Prop} {act : EStateM Failure σ α} :
    Confined (fun _ => True) (fun f => K f.kind) act ↔ ActFailsAs K act := by
  constructor
  · intro h s f t hact
    have hlands := h s trivial
    rw [hact] at hlands
    cases hlands with
    | error _ hf => exact hf
  · intro h s _
    cases hact : act s with
    | ok a t => exact .ok trivial
    | error f t => exact .error trivial (h s f t hact)

end Confined

theorem Lands.mono {J : σ → Prop} {result : EStateM.Result Failure σ α} (h : Lands I P result)
    (hIJ : ∀ s, I s → J s) (hPQ : ∀ f, P f → Q f) : Lands J Q result := by
  cases h with
  | ok hs => exact .ok (hIJ _ hs)
  | error hs hf => exact .error (hIJ _ hs) (hPQ _ hf)

theorem Lands.ending {act : EStateM Failure σ α} {last : σ → σ} {s : σ} (h : Lands I P (act s))
    (hlast : ∀ t, I t → I (last t)) : Lands I P (LogSource.ending act last s) := by
  rcases h.exists_result with ⟨a, t, hact, ht⟩ | ⟨e, t, hact, ht, he⟩
  · rw [LogSource.ending, hact]
    exact .ok (hlast t ht)
  · rw [LogSource.ending, hact]
    exact .error (hlast t ht) he

end JobMeter
