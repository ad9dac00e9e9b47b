import JobMeter.Reader.Loop

/-!
# What an action leaves behind

An action may fail, and what it did before it failed stays done.  So laws of actions are laws of
`Reader.after act r`, the reader after the action, whatever came of it.

* `Keeps R act` — `R` relates the reader before the action to the reader after it.  For a preorder
  `R` it passes from the parts of an action to the whole (`Keeps.bind`, `Keeps.tryCatch`).
* `Outer env R` — `R` is kept by everything that happens in the world of the reader: a notice, a
  measurement, a look at the clock, the reading of a log.
* `OnlyWorld` — the readers differ in their worlds only, which is all that anything but the registry
  and the queue can bring about (`outer_onlyWorld`).  So `R` is kept by everything that happens in
  the world if it does not look at it (`Outer.of_onlyWorld`).
* `Steps env R` — `R` is kept by changes of the registry, too.  Then it is kept by every dispatch,
  by every accrual and by the loop as a whole (`Steps.dispatch`, `Steps.accrue`, `Steps.rounds`), so
  a property of runs needs to be checked on single steps only.
* `steps_queue`, `steps_labelled` — no step touches the queue, and the entries of the registry have
  the standard labels (`Registry.Labelled`).
* `accrueAt_eq` — an accrual is one increment for each entry of the registry, and nothing else.
-/

namespace JobMeter

namespace Reader

variable {τ ω α β : Type}

/-- The reader after an action, whether it failed or not. -/
def after (act : Act τ ω α) (r : Reader τ ω) : Reader τ ω :=
  match act r with
  | .ok _ s => s
  | .error _ s => s

theorem after_of_ok {act : Act τ ω α} {r s : Reader τ ω} {a : α} (h : act r = .ok a s) :
    after act r = s := by
  rw [after, h]

theorem after_of_error {act : Act τ ω α} {r s : Reader τ ω} {f : Failure}
    (h : act r = .error f s) : after act r = s := by
  rw [after, h]

theorem bind_apply (act : Act τ ω α) (f : α → Act τ ω β) (r : Reader τ ω) :
    (act >>= f) r = match act r with
      | .ok a s => f a s
      | .error e s => .error e s := by
  show EStateM.bind act f r = _
  unfold EStateM.bind
  cases act r <;> rfl

theorem map_apply (f : α → β) (act : Act τ ω α) (r : Reader τ ω) :
    (f <$> act) r = match act r with
      | .ok a s => .ok (f a) s
      | .error e s => .error e s := by
  show EStateM.map f act r = _
  unfold EStateM.map
  cases act r <;> rfl

theorem after_bind_of_ok {act : Act τ ω α} {f : α → Act τ ω β} {r s : Reader τ ω} {a : α}
    (h : act r = .ok a s) : after (act >>= f) r = after (f a) s := by
  rw [after, bind_apply, h, after]

theorem after_bind_of_error {act : Act τ ω α} {f : α → Act τ ω β} {r s : Reader τ ω}
    {e : Failure} (h : act r = .error e s) : after (act >>= f) r = s := by
  rw [after, bind_apply, h]

theorem tryCatch_apply (act : Act τ ω α) (handle : Failure → Act τ ω α) (r : Reader τ ω) :
    tryCatch act handle r = match act r with
      | .ok a s => .ok a s
      | .error e s => handle e s := by
  show EStateM.tryCatch act handle r = _
  unfold EStateM.tryCatch
  cases act r <;> rfl

/-! ## Relations that an action keeps -/

/-- Whatever comes of the action, `R` relates the reader before it to the reader after it. -/
def Keeps (R : Reader τ ω → Reader τ ω → Prop) (act : Act τ ω α) : Prop :=
  ∀ r, R r (after act r)

namespace Keeps

variable {R : Reader τ ω → Reader τ ω → Prop}

theorem pure (hr : ∀ r, R r r) (a : α) : Keeps R (Pure.pure a : Act τ ω α) := hr

theorem throw (hr : ∀ r, R r r) (f : Failure) : Keeps R (MonadExcept.throw f : Act τ ω α) := hr

theorem bind (ht : ∀ ⦃r s t⦄, R r s → R s t → R r t) {act : Act τ ω α} {f : α → Act τ ω β}
    (ha : Keeps R act) (hf : ∀ a, Keeps R (f a)) : Keeps R (act >>= f) := by
  intro r
  have h := ha r
  rw [after] at h
  rw [after, bind_apply]
  cases hact : act r with
  | ok a s =>
    rw [hact] at h
    exact ht h (hf a s)
  | error e s =>
    rw [hact] at h
    exact h

theorem map {act : Act τ ω α} (f : α → β) (ha : Keeps R act) : Keeps R (f <$> act) := by
  intro r
  have h := ha r
  rw [after] at h
  rw [after, map_apply]
  cases hact : act r <;> rw [hact] at h <;> exact h

theorem tryCatch (ht : ∀ ⦃r s t⦄, R r s → R s t → R r t) {act : Act τ ω α}
    {handle : Failure → Act τ ω α} (ha : Keeps R act) (hh : ∀ f, Keeps R (handle f)) :
    Keeps R (tryCatch act handle) := by
  intro r
  have h := ha r
  rw [after] at h
  rw [after, tryCatch_apply]
  cases hact : act r with
  | ok a s =>
    rw [hact] at h
    exact h
  | error e s =>
    rw [hact] at h
    exact ht h (hh e s)

end Keeps

/-! ## The world of a reader -/

theorem onWorld_of_ok {x : EStateM Failure ω α} {r : Reader τ ω} {a : α} {w : ω}
    (h : x r.world = .ok a w) : onWorld x r = .ok a { r with world := w } := by
  rw [onWorld, h]

theorem onWorld_of_error {x : EStateM Failure ω α} {r : Reader τ ω} {f : Failure} {w : ω}
    (h : x r.world = .error f w) : onWorld x r = .error f { r with world := w } := by
  rw [onWorld, h]

theorem onWorld_bind (x : EStateM Failure ω α) (f : α → EStateM Failure ω β) :
    (onWorld (x >>= f) : Act τ ω β) = onWorld x >>= fun a => onWorld (f a) := by
  funext r
  rw [bind_apply]
  show onWorld (EStateM.bind x f) r = _
  rw [onWorld, onWorld]
  unfold EStateM.bind
  cases x r.world <;> rfl

/-- `R` is kept by all that a reader does to its world. -/
structure Outer (env : Environment τ ω) (R : Reader τ ω → Reader τ ω → Prop) : Prop where
  refl : ∀ r, R r r
  trans : ∀ ⦃r s t⦄, R r s → R s t → R r t
  tick : Keeps R (onWorld (modify env.tick))
  note : ∀ n, Keeps R (Reader.note env n)
  increase : ∀ m labels x, Keeps R (onWorld (env.increase m labels x))
  observe : ∀ m labels x, Keeps R (onWorld (env.observe m labels x))
  fetch : ∀ fetch, env.fetch? = some fetch → ∀ job, Keeps R (onWorld (fetch job))

namespace Outer

variable {env : Environment τ ω} {R : Reader τ ω → Reader τ ω → Prop}

theorem now (h : Outer env R) : Keeps R (now env) :=
  .bind h.trans h.tick fun _ => .bind h.trans h.refl fun _ => .pure h.refl _

theorem stopped (h : Outer env R) : Keeps R (stopped env) :=
  .bind h.trans h.refl fun _ => .pure h.refl _

theorem guarded (h : Outer env R) {act : Act τ ω Unit} (ha : Keeps R act)
    {handle : Failure → Act τ ω Unit} (hh : ∀ f, Keeps R (handle f)) :
    Keeps R (guarded handle act) := by
  refine .tryCatch h.trans ha fun f => ?_
  split
  · exact hh f
  · exact .throw h.refl f

theorem dispatch_object [Quantity τ] (h : Outer env R) (o : Stranger) :
    Keeps R (dispatch env (.object o)) := by
  obtain ⟨typeName, description⟩ := o
  cases typeName with
  | ok name => exact h.note (.ignoredItem name)
  | error f => exact .throw h.refl f

theorem noteFailed (h : Outer env R) (i : Item) (f : Failure) : Keeps R (noteFailed env i f) := by
  unfold Reader.noteFailed
  split
  · exact h.note _
  · exact .throw h.refl _

theorem forM (h : Outer env R) {l : List α} {f : α → EStateM Failure ω Unit}
    (hf : ∀ a ∈ l, Keeps R (onWorld (f a))) : Keeps R (onWorld (l.forM f)) := by
  induction l with
  | nil => exact h.refl
  | cons a l ih =>
    show Keeps R (onWorld (f a >>= fun _ => l.forM f))
    rw [onWorld_bind]
    exact .bind h.trans (hf a List.mem_cons_self)
      fun _ => ih fun b hb => hf b (List.mem_cons_of_mem a hb)

theorem readLog (h : Outer env R) (e : Event) : Keeps R (readLog env e) := by
  unfold Reader.readLog
  split
  · exact .pure h.refl _
  · rename_i fetch hfetch
    split
    · exact .bind h.trans (h.note _) fun _ => .pure h.refl _
    · rename_i job _
      refine .tryCatch h.trans (.map _ (h.fetch fetch hfetch job)) fun f => ?_
      split
      · exact .bind h.trans (h.note _) fun _ => .pure h.refl _
      · exact .throw h.refl f

variable [Quantity τ]

theorem countOne (h : Outer env R) (m : Metric) (labels : Labels) :
    Keeps R (countOne env m labels) := h.increase m labels _

theorem observeDuration (h : Outer env R) (m : Metric) (labels : Labels) (d : Int) :
    Keeps R (observeDuration env m labels d) := h.observe m labels _

theorem countFailure (h : Outer env R) (e : Event) (conclusion logged : Text) :
    Keeps R (countFailure env e conclusion logged) := by
  unfold Reader.countFailure
  split
  · exact h.countOne _ _
  · exact .pure h.refl _

end Outer

/-- The readers differ in their worlds only. -/
def OnlyWorld (r s : Reader τ ω) : Prop := s.registry = r.registry ∧ s.queue = r.queue

theorem keeps_onlyWorld {α : Type} (x : EStateM Failure ω α) :
    Keeps (τ := τ) OnlyWorld (onWorld x) := by
  intro r
  unfold after onWorld
  cases x r.world <;> exact ⟨rfl, rfl⟩

theorem outer_onlyWorld (env : Environment τ ω) : Outer env OnlyWorld where
  refl _ := ⟨rfl, rfl⟩
  trans _ _ _ h h' := ⟨h'.1.trans h.1, h'.2.trans h.2⟩
  tick := keeps_onlyWorld _
  note _ := keeps_onlyWorld _
  increase _ _ _ := keeps_onlyWorld _
  observe _ _ _ := keeps_onlyWorld _
  fetch _ _ _ := keeps_onlyWorld _

/-- What does not look at the world is kept by everything that happens there. -/
theorem Outer.of_onlyWorld {R : Reader τ ω → Reader τ ω → Prop} (env : Environment τ ω)
    (ht : ∀ ⦃r s t⦄, R r s → R s t → R r t) (h : ∀ ⦃r s⦄, OnlyWorld r s → R r s) :
    Outer env R where
  refl _ := h ⟨rfl, rfl⟩
  trans := ht
  tick _ := h (keeps_onlyWorld _ _)
  note _ _ := h (keeps_onlyWorld _ _)
  increase _ _ _ _ := h (keeps_onlyWorld _ _)
  observe _ _ _ _ := h (keeps_onlyWorld _ _)
  fetch _ _ _ _ := h (keeps_onlyWorld _ _)

/-! ## Accruals -/

section Accrual

variable [Quantity τ]

/-- The increment that an accrual makes for an entry of the registry. -/
def chargeEntry (env : Environment τ ω) (t : τ) (p : Int × Running τ) :
    EStateM Failure ω Unit :=
  env.increase .inProgressDuration p.2.labels (charge env.interval t p.2)

theorem forM_cons_of_ok {f : α → EStateM Failure ω Unit} {a : α} {w w' : ω}
    (h : f a w = .ok () w') (l : List α) : (a :: l).forM f w = l.forM f w' := by
  show EStateM.bind (f a) (fun _ => l.forM f) w = _
  unfold EStateM.bind
  rw [h]

theorem forM_cons_of_error {f : α → EStateM Failure ω Unit} {a : α} {w w' : ω} {e : Failure}
    (h : f a w = .error e w') (l : List α) : (a :: l).forM f w = .error e w' := by
  show EStateM.bind (f a) (fun _ => l.forM f) w = _
  unfold EStateM.bind
  rw [h]

theorem chargeJob_of_ok {env : Environment τ ω} {t : τ} {p : Int × Running τ} {w w' : ω}
    (h : chargeEntry env t p w = .ok () w') : chargeJob env t p.1 p.2 w = (.ok (), p.2, w') := by
  rw [chargeEntry] at h
  rw [chargeJob, h]

theorem chargeJob_of_error {env : Environment τ ω} {t : τ} {p : Int × Running τ} {w w' : ω}
    {f : Failure} (h : chargeEntry env t p w = .error f w') :
    chargeJob env t p.1 p.2 w = (.error f, p.2, w') := by
  rw [chargeEntry] at h
  rw [chargeJob, h]

theorem visit_chargeJob_of_ok {env : Environment τ ω} {t : τ} {ps : List (Int × Running τ)}
    {w w' : ω} (h : ps.forM (chargeEntry env t) w = .ok () w') :
    Registry.visit (chargeJob env t) ps w = (.ok (), ps, w') := by
  induction ps generalizing w with
  | nil =>
    injection h with _ hw
    rw [← hw]
    rfl
  | cons p ps ih =>
    cases hrun : chargeEntry env t p w with
    | ok u w₁ =>
      rw [forM_cons_of_ok hrun] at h
      rw [Registry.visit, chargeJob_of_ok hrun]
      simp only [ih h]
    | error f w₁ =>
      rw [forM_cons_of_error hrun] at h
      cases h

theorem visit_chargeJob_of_error {env : Environment τ ω} {t : τ} {ps : List (Int × Running τ)}
    {w w' : ω} {f : Failure} (h : ps.forM (chargeEntry env t) w = .error f w') :
    Registry.visit (chargeJob env t) ps w = (.error f, ps, w') := by
  induction ps generalizing w with
  | nil => cases h
  | cons p ps ih =>
    cases hrun : chargeEntry env t p w with
    | ok u w₁ =>
      rw [forM_cons_of_ok hrun] at h
      rw [Registry.visit, chargeJob_of_ok hrun]
      simp only [ih h]
    | error g w₁ =>
      rw [forM_cons_of_error hrun] at h
      injection h with hfailure hw
      rw [Registry.visit, chargeJob_of_error hrun, ← hfailure, ← hw]

/-- **An accrual is a round of increments.**  Every entry of the registry is charged in turn, until
an increment fails, and the registry stays as it is. -/
theorem accrueAt_eq (env : Environment τ ω) (t : τ) :
    accrueAt env t = get >>= fun r => onWorld (r.registry.entries.forM (chargeEntry env t)) := by
  funext r
  show accrueAt env t r = onWorld (r.registry.entries.forM (chargeEntry env t)) r
  rw [accrueAt, Registry.forEach, onWorld]
  cases hrun : r.registry.entries.forM (chargeEntry env t) r.world with
  | ok u w => simp only [visit_chargeJob_of_ok hrun]
  | error f w => simp only [visit_chargeJob_of_error hrun]

end Accrual

theorem Outer.accrueAt [Quantity τ] {env : Environment τ ω}
    {R : Reader τ ω → Reader τ ω → Prop} (h : Outer env R) (t : τ) : Keeps R (accrueAt env t) := by
  rw [accrueAt_eq]
  exact .bind h.trans h.refl fun r => h.forM fun p _ => h.increase .inProgressDuration p.2.labels _

theorem Outer.accrue [Quantity τ] {env : Environment τ ω}
    {R : Reader τ ω → Reader τ ω → Prop} (h : Outer env R) : Keeps R (accrue env) :=
  .bind h.trans h.now fun t => h.accrueAt t

theorem Outer.accrueSafely [Quantity τ] {env : Environment τ ω}
    {R : Reader τ ω → Reader τ ω → Prop} (h : Outer env R) : Keeps R (accrueSafely env) :=
  h.guarded h.accrue fun _ => h.note _

theorem Outer.accrueIfDue [Quantity τ] {env : Environment τ ω}
    {R : Reader τ ω → Reader τ ω → Prop} (h : Outer env R) (due : τ) :
    Keeps R (accrueIfDue env due) := by
  refine .bind h.trans h.now fun t => ?_
  split
  · exact .bind h.trans h.accrueSafely fun _ => .bind h.trans h.now fun _ => .pure h.refl _
  · exact .pure h.refl _

/-! ## Dispatches and the loop -/

/-- `R` is kept by all that a reader does to its world and to its registry. -/
structure Steps [Quantity τ] (env : Environment τ ω) (R : Reader τ ω → Reader τ ω → Prop) : Prop
    extends Outer env R where
  register : ∀ e, Keeps R (Reader.register env e)
  deregister : ∀ e, Keeps R (Reader.deregister e)

namespace Steps

variable [Quantity τ] {env : Environment τ ω} {R : Reader τ ω → Reader τ ω → Prop}

theorem startJob (h : Steps env R) (e : Event) : Keeps R (startJob env e) := by
  refine .bind h.trans (h.countOne _ _) fun _ => .bind h.trans (h.register e) fun _ =>
    .bind h.trans (h.readLog e) fun reading => ?_
  split
  · exact .bind h.trans (h.note _) fun _ => h.observeDuration _ _ _
  · exact .pure h.refl _

theorem completeJob (h : Steps env R) (e : Event) : Keeps R (completeJob env e) := by
  refine .bind h.trans (h.countOne _ _) fun _ => .bind h.trans (h.deregister e) fun _ => ?_
  split
  · exact h.note _
  · refine .bind h.trans (h.countOne _ _) fun _ => .bind h.trans (h.readLog e) fun reading => ?_
    split
    · exact .pure h.refl _
    · exact h.countFailure _ _ _
    · exact .bind h.trans (h.note _) fun _ => .bind h.trans (h.countFailure _ _ _) fun _ =>
        h.observeDuration _ _ _

theorem dispatch (h : Steps env R) (i : Item) : Keeps R (dispatch env i) := by
  cases i with
  | other v => exact h.note _
  | object o => exact h.dispatch_object o
  | event e =>
    show Keeps R (dispatchEvent env e)
    unfold dispatchEvent
    split
    · exact h.countOne _ _
    · split
      · exact h.startJob e
      · split
        · exact h.completeJob e
        · exact h.note _

theorem dispatchSafely (h : Steps env R) (i : Item) : Keeps R (dispatchSafely env i) :=
  h.guarded (h.dispatch i) (h.noteFailed i)

theorem process (h : Steps env R) (i : Option Item) : Keeps R (process env i) := by
  unfold Reader.process
  split
  · split
    · exact .pure h.refl _
    · exact h.dispatchSafely _
  · exact .pure h.refl _

variable {wait : Wait τ ω}

theorem turn (h : Steps env R) (hw : ∀ due t, Keeps R (wait (timeout due t))) (due : τ) :
    Keeps R (turn env wait due) := by
  refine .bind h.trans h.stopped fun stop => ?_
  split
  · exact .pure h.refl _
  · refine .bind h.trans h.now fun t => .bind h.trans (hw _ _) fun slot => ?_
    split
    · exact .pure h.refl _
    · exact .bind h.trans (h.process _) fun _ => .pure h.refl _
    · exact .bind h.trans (h.process _) fun _ => .pure h.refl _

theorem round (h : Steps env R) (hw : ∀ due t, Keeps R (wait (timeout due t))) (due : τ) :
    Keeps R (round env wait due) := by
  refine .bind h.trans (h.turn hw due) fun goes => ?_
  split
  · exact .map _ (h.accrueIfDue due)
  · exact .pure h.refl _

/-- **What every step keeps, every run keeps.** -/
theorem rounds (h : Steps env R) (hw : ∀ due t, Keeps R (wait (timeout due t))) (fuel : Nat)
    (due : τ) : Keeps R (rounds env wait fuel due) := by
  induction fuel generalizing due with
  | zero => exact .pure h.refl _
  | succ fuel ih =>
    refine .bind h.trans (h.round hw due) fun next => ?_
    split
    · exact ih _
    · exact .pure h.refl _

end Steps

/-! ## Items for the queue -/

section Submit

variable [Quantity τ] {env : Environment τ ω} {i : Item} {r : Reader τ ω} {q : EventQueue}

/-- An item that is dropped is noted and counted, if it can be described. -/
def drop (env : Environment τ ω) (i : Item) : EStateM Failure ω Bool :=
  match i.describe with
  | .ok description => do
    modify (env.note (.queueFull description))
    env.increase .eventsDropped [] Quantity.one
    return false
  | .error f => throw f

theorem drop_of_ok {description : Text} (h : i.describe = .ok description)
    (env : Environment τ ω) (w : ω) :
    drop env i w =
      match env.increase .eventsDropped [] Quantity.one (env.note (.queueFull description) w) with
      | .ok () w' => .ok false w'
      | .error f w' => .error f w' := by
  rw [drop, h]
  show EStateM.bind (env.increase .eventsDropped [] Quantity.one) (fun _ => pure false)
    (env.note (.queueFull description) w) = _
  unfold EStateM.bind
  cases env.increase .eventsDropped [] Quantity.one (env.note (.queueFull description) w) <;> rfl

theorem drop_of_error {f : Failure} (h : i.describe = .error f) (env : Environment τ ω) (w : ω) :
    drop env i w = .error f w := by
  rw [drop, h]
  rfl

theorem Outer.drop {R : Reader τ ω → Reader τ ω → Prop} (h : Outer env R) (i : Item) :
    Keeps R (onWorld (drop env i)) := by
  unfold Reader.drop
  split
  · rw [onWorld_bind]
    refine .bind h.trans (h.note _) fun _ => ?_
    rw [onWorld_bind]
    exact .bind h.trans (h.increase _ _ _) fun _ => h.refl
  · exact h.refl

theorem submit_of_some (h : r.queue.put? (.item i) = some q) :
    submit env i r = .ok true { r with queue := q } := by
  have hget : (get : Act τ ω _) r = .ok r r := rfl
  rw [submit, bind_apply, hget]
  dsimp only
  rw [h]
  rfl

theorem submit_of_none (h : r.queue.put? (.item i) = none) :
    submit env i r = onWorld (drop env i) r := by
  have hget : (get : Act τ ω _) r = .ok r r := rfl
  rw [submit, bind_apply, hget, drop]
  dsimp only
  rw [h]
  cases i.describe with
  | ok description =>
    simp only [onWorld_bind]
    rfl
  | error f => rfl

/-- Whether an item is dropped or not, the registry stays as it is. -/
theorem registry_submit (env : Environment τ ω) (i : Item) (r : Reader τ ω) :
    (after (submit env i) r).registry = r.registry := by
  cases hput : r.queue.put? (.item i) with
  | some q => rw [after_of_ok (submit_of_some hput)]
  | none =>
    rw [after, submit_of_none hput]
    exact (keeps_onlyWorld (drop env i) r).1

theorem queue_submit (env : Environment τ ω) (i : Item) (r : Reader τ ω) :
    (after (submit env i) r).queue = (r.queue.put? (.item i)).getD r.queue := by
  cases hput : r.queue.put? (.item i) with
  | some q => rw [after_of_ok (submit_of_some hput), Option.getD_some]
  | none =>
    rw [after, submit_of_none hput]
    exact (keeps_onlyWorld (drop env i) r).2

end Submit

/-! ## The queue, and the labels in the registry -/

end Reader

/-- All entries have the standard labels. -/
def Registry.Labelled {τ : Type} (g : Registry τ) : Prop :=
  ∀ p ∈ g.entries, p.2.labels.map Prod.fst = Labels.standard

namespace Registry.Labelled

variable {τ : Type} {g : Registry τ}

theorem empty : (⟨[], by simp⟩ : Registry τ).Labelled := fun _ hp => absurd hp List.not_mem_nil

theorem add (h : g.Labelled) (t : τ) (e : Event) : (g.add e.job.id t e.labels).Labelled := by
  intro p hp
  rcases eq_or_mem_of_mem_add hp with rfl | hold
  · exact e.map_fst_labels
  · exact h p hold

theorem remove (h : g.Labelled) (id : Int) : (g.remove id).Labelled :=
  fun p hp => h p (mem_of_mem_remove hp)

end Registry.Labelled

namespace Reader

variable {τ ω : Type} [Quantity τ]

/-- No step touches the queue. -/
theorem steps_queue (env : Environment τ ω) : Steps env fun r s => s.queue = r.queue where
  toOuter := .of_onlyWorld env (fun _ _ _ hrs hst => hst.trans hrs) fun _ _ h => h.2
  register _ _ := rfl
  deregister _ _ := rfl

/-- Only jobs of events are registered. -/
theorem steps_labelled (env : Environment τ ω) :
    Steps env fun r s => r.registry.Labelled → s.registry.Labelled where
  toOuter := .of_onlyWorld env (fun _ _ _ hrs hst hr => hst (hrs hr)) fun r s h hr => by
    rw [h.1]
    exact hr
  register e _ hr := hr.add _ e
  deregister e _ hr := hr.remove e.job.id

end Reader

end JobMeter
