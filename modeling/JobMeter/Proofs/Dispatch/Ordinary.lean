import JobMeter.Proofs.Dispatch.Contained

/-!
# Failures that the loop survives

What a reader does fails only where its surroundings do: the sink refuses a measurement, the log of
a job cannot be had, or an object on the queue does not even tell its type.  So if nothing around it
demands the end of the process, then every failure of a dispatch or of an accrual is one that is
noted and goes no further, as long as items can be described.

* `FailsOrdinarily env` — the sink and the logs may fail in any way but that.
* `FailsOrdinarily.dispatchSafely_eq`, `FailsOrdinarily.accrueSafely_eq` — then with its failures
  noted what the reader does fails only if the item that it dispatches lets something escape
  (`FailsOrdinarily.escape?_of_error`).
-/

namespace JobMeter

/-- The kinds of failures that handlers see. -/
def FailureKind.Ordinary (k : FailureKind) : Prop := k.isOrdinary = true

namespace Reader

variable {τ ω α : Type}

/-- The sink and the logs may fail in any way, but they do not demand the end of the process. -/
structure FailsOrdinarily (env : Environment τ ω) : Prop where
  increase : ∀ m labels x, ActFailsAs FailureKind.Ordinary (env.increase m labels x)
  observe : ∀ m labels x, ActFailsAs FailureKind.Ordinary (env.observe m labels x)
  fetch : ∀ fetch, env.fetch? = some fetch → ∀ job, ActFailsAs FailureKind.Ordinary (fetch job)

/-- An action without a failure gives the reader after it. -/
theorem eq_ok_of_confined {I : ω → Prop} {P : Failure → Prop} {act : Act τ ω Unit}
    (h : ConfinedTo I P act) (hnone : ∀ f, ¬ P f) {r : Reader τ ω} (hr : I r.world) :
    act r = .ok () (after act r) := by
  rcases (h r hr).exists_result with ⟨u, s, hrun, -⟩ | ⟨f, s, -, -, hf⟩
  · rw [after_of_ok hrun, hrun]
  · exact absurd hf (hnone f)

namespace FailsOrdinarily

variable {env : Environment τ ω}

theorem contained (h : FailsOrdinarily env) :
    Contained env (fun _ => True) fun f => FailureKind.Ordinary f.kind where
  tick _ := id
  note _ _ := id
  increase m labels x := Confined.iff_actFailsAs.2 (h.increase m labels x)
  observe m labels x := Confined.iff_actFailsAs.2 (h.observe m labels x)
  fetch fetch hfetch job := Confined.iff_actFailsAs.2 (h.fetch fetch hfetch job)

variable [Quantity τ]

/-- With failures noted a dispatch does not fail, unless the item lets something escape. -/
theorem dispatchSafely_eq (h : FailsOrdinarily env) {i : Item} (hi : i.escape? = none)
    (r : Reader τ ω) : dispatchSafely env i r = .ok () (after (dispatchSafely env i) r) := by
  refine eq_ok_of_confined (h.contained.dispatchSafely i) (fun f hf => ?_) trivial
  rcases hf with ⟨hordinary, hnot⟩ | hescape
  · exact absurd (hordinary.symm.trans hnot) (by simp)
  · exact nomatch hi.symm.trans hescape

/-- If it fails, then because of the item, and nothing was done. -/
theorem escape?_of_error (h : FailsOrdinarily env) {i : Item} {r s : Reader τ ω} {f : Failure}
    (hrun : dispatchSafely env i r = .error f s) : i.escape? = some f ∧ s = r := by
  cases hescape : i.escape? with
  | none =>
    rw [h.dispatchSafely_eq hescape] at hrun
    cases hrun
  | some g =>
    cases i with
    | event e => cases hescape
    | other v => cases hescape
    | object o =>
      rcases dispatchSafely_object env o r with ⟨n, hnone, -⟩ | ⟨g', hsome, herror⟩
      · exact nomatch hnone.symm.trans hescape
      · obtain rfl : g' = g := Option.some.inj (hsome.symm.trans hescape)
        obtain ⟨rfl, rfl⟩ := EStateM.Result.error.inj (herror.symm.trans hrun)
        exact ⟨rfl, rfl⟩

theorem accrueSafely_eq (h : FailsOrdinarily env) (r : Reader τ ω) :
    accrueSafely env r = .ok () (after (accrueSafely env) r) :=
  eq_ok_of_confined h.contained.accrueSafely
    (fun _ hf => absurd (hf.1.symm.trans hf.2) (by simp)) trivial

end FailsOrdinarily

end Reader

end JobMeter
