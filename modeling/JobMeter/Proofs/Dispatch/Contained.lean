import JobMeter.Proofs.Act
import JobMeter.Proofs.Confined

/-!
# What a reader does is contained

A reader touches its world only by notices, looks at the clock, measurements and requests for logs.
So if these lead from worlds of a kind to such worlds and fail in certain ways only, then so does
all that a reader does.

* `Contained env I P` — what happens in the world leads from worlds with `I` to such worlds, and its
  failures are in `P`.
* `Contained.dispatchEvent`, `Contained.accrue` — then the same is true of dispatches of events and
  of accruals.
* `Item.escape?` — the failure that is left when an item is dispatched and failures are noted, if it
  is the item that fails and not what is around it (`dispatchSafely_object`).
* `Contained.dispatchSafely`, `Contained.accrueSafely` — what is left of the failures of dispatches
  and accruals when those that handlers see are noted.
-/

namespace JobMeter

/-- What passes out of the handler when an object is dispatched: the failure to describe it where
its type could not be told, or that first failure itself if handlers do not see it. -/
def Stranger.escape? (o : Stranger) : Option Failure :=
  match o.typeName with
  | .ok _ => none
  | .error f =>
    if f.isOrdinary then
      match o.description with
      | .ok _ => none
      | .error g => some g
    else some f

/-- What passes out of the handler because of the item that is dispatched. -/
def Item.escape? : Item → Option Failure
  | event _ | other _ => none
  | object o => o.escape?

namespace Reader

variable {τ ω α : Type} {I : ω → Prop} {P Q : Failure → Prop}

/-- What a reader does leads from worlds with `I` to such worlds, and a failure of it is in `P`. -/
abbrev ConfinedTo (I : ω → Prop) (P : Failure → Prop) (act : Act τ ω α) : Prop :=
  Confined (fun r => I r.world) P act

theorem confined_onWorld {x : EStateM Failure ω α} (h : Confined I P x) :
    ConfinedTo (τ := τ) I P (onWorld x) := by
  intro r hr
  rcases (h r.world hr).exists_result with ⟨a, w, hrun, hw⟩ | ⟨f, w, hrun, hw, hf⟩
  · rw [onWorld_of_ok hrun]
    exact .ok hw
  · rw [onWorld_of_error hrun]
    exact .error hw hf

/-- What happens in the world of a reader leads from worlds with `I` to such worlds, and its
failures are in `P`. -/
structure Contained (env : Environment τ ω) (I : ω → Prop) (P : Failure → Prop) : Prop where
  tick : ∀ w, I w → I (env.tick w)
  note : ∀ n w, I w → I (env.note n w)
  increase : ∀ m labels x, Confined I P (env.increase m labels x)
  observe : ∀ m labels x, Confined I P (env.observe m labels x)
  fetch : ∀ fetch, env.fetch? = some fetch → ∀ job, Confined I P (fetch job)

/-- With failures noted the dispatch of an object is one notice, unless something escapes. -/
theorem dispatchSafely_object [Quantity τ] (env : Environment τ ω) (o : Stranger)
    (r : Reader τ ω) :
    (∃ n, o.escape? = none ∧ dispatchSafely env (.object o) r = note env n r) ∨
      ∃ f, o.escape? = some f ∧ dispatchSafely env (.object o) r = .error f r := by
  obtain ⟨typeName, description⟩ := o
  cases typeName with
  | ok name => exact .inl ⟨.ignoredItem name, rfl, rfl⟩
  | error f =>
    have hdispatch : dispatchSafely env (.object ⟨.error f, description⟩) r =
        (if f.isOrdinary then noteFailed env (.object ⟨.error f, description⟩) f
          else throw f : Act τ ω Unit) r := rfl
    rw [Stranger.escape?, hdispatch]
    dsimp only
    cases f.isOrdinary with
    | false => exact .inr ⟨f, rfl, rfl⟩
    | true =>
      cases description with
      | ok d => exact .inl ⟨.processingFailed d f, rfl, rfl⟩
      | error g => exact .inr ⟨g, rfl, rfl⟩

namespace Contained

variable {env : Environment τ ω}

theorem noting (h : Contained env I P) (n : Notice) : ConfinedTo I Q (Reader.note env n) :=
  confined_onWorld (.modify (h.note n))

theorem now (h : Contained env I P) : ConfinedTo I P (now env) :=
  (confined_onWorld (.modify h.tick)).bind fun _ => .bind .get fun _ => .pure _

/-- Of the failures of what is guarded those remain that handlers do not see. -/
theorem guarded {act : Act τ ω Unit} (ha : ConfinedTo I P act) {handle : Failure → Act τ ω Unit}
    (hh : ∀ f, ConfinedTo I (fun f => P f ∧ f.isOrdinary = false) (handle f)) :
    ConfinedTo I (fun f => P f ∧ f.isOrdinary = false) (guarded handle act) := by
  refine ha.tryCatch fun f hf => ?_
  split
  · exact hh f
  · rename_i hordinary
    exact .throw ⟨hf, Bool.not_eq_true _ ▸ hordinary⟩

theorem readLog (h : Contained env I P) (e : Event) : ConfinedTo I P (readLog env e) := by
  unfold Reader.readLog
  split
  · exact .pure _
  · rename_i fetch hfetch
    split
    · exact (h.noting _).bind fun _ => .pure _
    · rename_i job _
      refine .tryCatch (.map _ (confined_onWorld (h.fetch fetch hfetch job))) fun f hf => ?_
      exact .ite ((h.noting _).bind fun _ => .pure _) (.throw hf)

variable [Quantity τ]

theorem countOne (h : Contained env I P) (m : Metric) (labels : Labels) :
    ConfinedTo I P (countOne env m labels) := confined_onWorld (h.increase m labels _)

theorem observeDuration (h : Contained env I P) (m : Metric) (labels : Labels) (d : Int) :
    ConfinedTo I P (observeDuration env m labels d) := confined_onWorld (h.observe m labels _)

omit [Quantity τ] in
theorem register (h : Contained env I P) (e : Event) : ConfinedTo I P (register env e) :=
  h.now.bind fun _ => .modify fun _ hr => hr

theorem startJob (h : Contained env I P) (e : Event) : ConfinedTo I P (startJob env e) := by
  refine (h.countOne _ _).bind fun _ => (h.register e).bind fun _ => ?_
  refine (h.readLog e).bind fun reading => ?_
  split
  · exact (h.noting _).bind fun _ => h.observeDuration _ _ _
  · exact .pure _

theorem countFailure (h : Contained env I P) (e : Event) (conclusion logged : Text) :
    ConfinedTo I P (countFailure env e conclusion logged) := by
  unfold Reader.countFailure
  exact .ite (h.countOne _ _) (.pure _)

theorem completeJob (h : Contained env I P) (e : Event) : ConfinedTo I P (completeJob env e) := by
  refine (h.countOne _ _).bind fun _ => .bind (.modify fun _ hr => hr) fun _ => ?_
  split
  · exact h.noting _
  · refine (h.countOne _ _).bind fun _ => (h.readLog e).bind fun reading => ?_
    split
    · exact .pure _
    · exact h.countFailure _ _ _
    · exact (h.noting _).bind fun _ => (h.countFailure _ _ _).bind fun _ =>
        h.observeDuration _ _ _

/-- **The dispatch of an event is contained like its surroundings.** -/
theorem dispatchEvent (h : Contained env I P) (e : Event) :
    ConfinedTo I P (dispatchEvent env e) := by
  unfold Reader.dispatchEvent
  exact .ite (h.countOne _ _) (.ite (h.startJob e) (.ite (h.completeJob e) (h.noting _)))

/-- **An accrual is contained like its surroundings.** -/
theorem accrue (h : Contained env I P) : ConfinedTo I P (accrue env) := by
  refine h.now.bind fun t => ?_
  rw [accrueAt_eq]
  exact .bind .get fun r => confined_onWorld (.forM fun p => h.increase _ _ _)

/-- **What a dispatch does not let pass.**  With failures noted it fails only by a failure of its
surroundings that handlers do not see, or because of the item. -/
theorem dispatchSafely (h : Contained env I P) (i : Item) :
    ConfinedTo I (fun f => (P f ∧ f.isOrdinary = false) ∨ i.escape? = some f)
      (dispatchSafely env i) := by
  cases i with
  | event e =>
    have hevent : ConfinedTo I _ (Reader.dispatchSafely env (.event e)) :=
      guarded (h.dispatchEvent e) fun f => h.noting (.processingFailed _ f)
    exact fun r hr => (hevent r hr).mono (fun _ => id) fun _ => .inl
  | other v => exact h.noting (.ignoredItem (Item.typeName v))
  | object o =>
    intro r hr
    rcases dispatchSafely_object env o r with ⟨n, -, hrun⟩ | ⟨f, hescape, hrun⟩ <;> rw [hrun]
    · exact h.noting n r hr
    · exact .error hr (.inr hescape)

theorem accrueSafely (h : Contained env I P) :
    ConfinedTo I (fun f => P f ∧ f.isOrdinary = false) (accrueSafely env) :=
  guarded h.accrue fun f => h.noting (.accrualFailed f)

end Contained

end Reader

end JobMeter
