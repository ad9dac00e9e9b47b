import JobMeter.Proofs.Dispatch.Calls
import JobMeter.Proofs.Loop.Accruals

/-!
# What a run is paid

Time in progress is charged by accruals and by nothing else.  To say so, let a ledger be kept in the
world of the reader: `paid` tells what was paid so far, each increment of the time in progress adds
its labels and its amount, and all else leaves the ledger as it is (`Ledger`).

* `Ledger.paid_of_isDone` — an accrual is paid for, and no other deed is.
* `paid_run` — so what is paid after a run is what was paid before and, in their order, the charges
  of its accruals; and the same is true up to each of them (`PaidByAccruals`).
* `Trial.ledger_watched` — the calls of a sink under watch are such a ledger.
-/

namespace JobMeter

/-- The environment in which no time in progress is measured. -/
def Environment.silenced {τ ω : Type} (env : Environment τ ω) : Environment τ ω :=
  { env with
    increase := fun m labels x =>
      if m = .inProgressDuration then pure () else env.increase m labels x
    observe := fun m labels x =>
      if m = .inProgressDuration then pure () else env.observe m labels x }

/-- What an accrual adds to a ledger. -/
def Accrual.payments {τ : Type} (a : Accrual τ) : List (Labels × τ) :=
  a.charges.map fun c => (c.entry.2.labels, c.amount)

namespace Reader

section Silenced

variable {τ ω : Type} [Quantity τ] (env : Environment τ ω)

/-- A dispatch measures no time in progress. -/
theorem dispatchSafely_silenced (i : Item) :
    dispatchSafely env.silenced i = dispatchSafely env i := by
  cases i <;> rfl

end Silenced

variable {ω : Type} {env : Environment Rat ω} {wait : Wait Rat ω}
  {paid : ω → List (Labels × Rat)}

/-- Nothing is paid from one reader to the other. -/
def SamePaid (paid : ω → List (Labels × Rat)) (r s : Reader Rat ω) : Prop :=
  paid s.world = paid r.world

/-- The world keeps a ledger of the time in progress that was paid. -/
structure Ledger (env : Environment Rat ω) (wait : Wait Rat ω) (paid : ω → List (Labels × Rat)) :
    Prop where
  outer : Outer env.silenced (SamePaid paid)
  charge : ∀ labels x (r : Reader Rat ω),
    paid (after (onWorld (env.increase .inProgressDuration labels x)) r).world =
      paid r.world ++ [(labels, x)]
  wait : ∀ due t, Keeps (SamePaid paid) (wait (timeout due t))

namespace Ledger

/-- Neither a look at the clock nor a wait is paid for. -/
theorem idle (h : Ledger env wait paid) : Idle env wait (SamePaid paid) :=
  ⟨h.outer.refl, h.outer.trans, h.outer.now, h.wait⟩

theorem dispatchSafely (h : Ledger env wait paid) (i : Item) :
    Keeps (SamePaid paid) (dispatchSafely env i) := by
  have hsteps : Steps env.silenced (SamePaid paid) :=
    { toOuter := h.outer
      register := fun _ r => h.outer.tick r
      deregister := fun _ _ => rfl }
  rw [← dispatchSafely_silenced]
  exact hsteps.dispatchSafely i

/-- Increments are paid one by one. -/
theorem forM_chargeEntry (h : Ledger env wait paid) (t : Rat) (ps : List (Int × Running Rat))
    (r : Reader Rat ω) :
    paid (after (onWorld (ps.forM (chargeEntry env t))) r).world =
      paid r.world ++ (charges env t ps r.world).map fun c => (c.entry.2.labels, c.amount) := by
  induction ps generalizing r with
  | nil => exact (List.append_nil _).symm
  | cons p ps ih =>
    have hpaid : paid (after (onWorld (chargeEntry env t p)) r).world =
        paid r.world ++ [(p.2.labels, Reader.charge env.interval t p.2)] := h.charge _ _ r
    show paid (after (onWorld (chargeEntry env t p >>= fun _ => ps.forM (chargeEntry env t)))
      r).world = _
    rw [onWorld_bind, charges]
    cases hrun : chargeEntry env t p r.world with
    | ok u w =>
      have hok := onWorld_of_ok hrun
      rw [after_of_ok hok] at hpaid
      rw [after_bind_of_ok hok, ih, hpaid, List.append_assoc]
      rfl
    | error f w =>
      have herror := onWorld_of_error hrun
      rw [after_of_error herror] at hpaid
      rw [after_bind_of_error herror, hpaid]
      rfl

theorem accrueSafely (h : Ledger env wait paid) (r : Reader Rat ω) :
    paid (after (accrueSafely env) r).world =
      paid r.world ++ (accrual env (ticked env r)).payments := by
  have htick : paid (ticked env r).world = paid r.world := h.outer.tick r
  have haccrue : paid (after (accrueAt env (clock env (ticked env r))) (ticked env r)).world =
      paid r.world ++ (accrual env (ticked env r)).payments := by
    rw [accrueAt_eq, ← htick]
    exact h.forM_chargeEntry _ _ (ticked env r)
  rw [after, accrueSafely_apply, guarded, tryCatch_apply]
  cases hrun : accrueAt env (clock env (ticked env r)) (ticked env r) with
  | ok u s =>
    rw [after_of_ok hrun] at haccrue
    exact haccrue
  | error f s =>
    rw [after_of_error hrun] at haccrue
    dsimp only
    by_cases hf : f.isOrdinary
    · rw [if_pos hf]
      exact (h.outer.note (.accrualFailed f) s).trans haccrue
    · rw [if_neg hf]
      exact haccrue

/-- An accrual is paid for, and no other deed is. -/
theorem paid_of_isDone (h : Ledger env wait paid) {m : Moment Rat ω} (hm : m.IsDone env wait) :
    paid m.after.world =
      paid m.before.world ++ (accrualOf? env m).toList.flatMap Accrual.payments := by
  obtain ⟨deed, due, r, s⟩ := m
  cases deed with
  | wait slot? =>
    have hwait := h.wait due (env.now r.world) r
    rw [after_of_ok hm] at hwait
    exact hwait.trans (List.append_nil _).symm
  | dispatch i =>
    obtain rfl : s = after (Reader.dispatchSafely env i) r := hm
    exact (h.dispatchSafely i r).trans (List.append_nil _).symm
  | accrue =>
    obtain rfl : s = after (Reader.accrueSafely env) r := hm
    exact (h.accrueSafely r).trans (congrArg _ (List.append_nil _).symm)

variable {ms : List (Moment Rat ω)} {r s : Reader Rat ω}

/-- What is paid for a list of deeds, all together. -/
theorem paid_of_linked (h : Ledger env wait paid) (hlinked : Linked (SamePaid paid) r ms s)
    (hms : ∀ m ∈ ms, m.IsDone env wait) :
    paid s.world = paid r.world ++ (ms.filterMap (accrualOf? env)).flatMap Accrual.payments := by
  induction hlinked with
  | nil hsame => exact hsame.trans (List.append_nil _).symm
  | @cons r s m ms hbefore hrest ih =>
    rw [List.forall_mem_cons] at hms
    have hsame : paid m.before.world = paid r.world := hbefore
    rw [ih hms.2, h.paid_of_isDone hms.1, hsame, List.append_assoc]
    cases haccrual : accrualOf? env m <;> simp [haccrual]

/-- What is paid for a list of deeds up to one of its accruals. -/
theorem exists_paid_of_linked (h : Ledger env wait paid) (hlinked : Linked (SamePaid paid) r ms s)
    (hms : ∀ m ∈ ms, m.IsDone env wait) {n : Nat} {a : Accrual Rat}
    (ha : (ms.filterMap (accrualOf? env))[n]? = some a) :
    ∃ m ∈ ms, accrualOf? env m = some a ∧ paid m.after.world = paid r.world ++
      ((ms.filterMap (accrualOf? env)).take (n + 1)).flatMap Accrual.payments := by
  induction hlinked generalizing n with
  | nil => cases ha
  | @cons r s m ms hbefore hrest ih =>
    rw [List.forall_mem_cons] at hms
    have hsame : paid m.before.world = paid r.world := hbefore
    have hpaid := h.paid_of_isDone hms.1
    rw [hsame] at hpaid
    cases haccrual : accrualOf? env m with
    | none =>
      rw [haccrual, Option.toList_none, List.flatMap_nil, List.append_nil] at hpaid
      rw [List.filterMap_cons_none haccrual] at ha ⊢
      obtain ⟨m', hm', hma, hlater⟩ := ih hms.2 ha
      exact ⟨m', List.mem_cons_of_mem m hm', hma, hpaid ▸ hlater⟩
    | some b =>
      rw [haccrual, Option.toList_some, List.flatMap_singleton] at hpaid
      rw [List.filterMap_cons_some haccrual] at ha ⊢
      cases n with
      | zero =>
        obtain rfl := Option.some.inj ha
        exact ⟨m, List.mem_cons_self, haccrual, by simpa using hpaid⟩
      | succ n =>
        obtain ⟨m', hm', hma, hlater⟩ := ih hms.2 ha
        refine ⟨m', List.mem_cons_of_mem m hm', hma, ?_⟩
        rw [hlater, hpaid, List.take_succ_cons, List.flatMap_cons, List.append_assoc]

end Ledger

/-- A run is paid for by its accruals, in their order, and by nothing else: up to the end of the
run, and up to the end of each accrual. -/
structure PaidByAccruals (env : Environment Rat ω) (wait : Wait Rat ω) (fuel : Nat)
    (r : Reader Rat ω) (paid : ω → List (Labels × Rat)) : Prop where
  total : paid (after (run env wait fuel) r).world =
    paid r.world ++ (accruals env wait fuel r).flatMap Accrual.payments
  upTo : ∀ (n : Nat) (a : Accrual Rat), (accruals env wait fuel r)[n]? = some a →
    ∃ m ∈ moments env wait fuel r, m.deed = .accrue ∧ a = accrual env (ticked env m.before) ∧
      paid m.after.world =
        paid r.world ++ ((accruals env wait fuel r).take (n + 1)).flatMap Accrual.payments

/-- **Accruals are all that charges time in progress.**  What is paid after a run of the loop is
what was paid before it and the charges of its accruals, in their order. -/
theorem paid_run (h : Ledger env wait paid) (fuel : Nat) (r : Reader Rat ω) :
    PaidByAccruals env wait fuel r paid := by
  have hbegun : paid (begun env r).world = paid r.world :=
    h.outer.trans (h.outer.note _ r) (h.outer.tick _)
  have hlinked := linked_momentsFrom h.idle fuel (firstDue env r) (begun env r)
  have hms : ∀ m ∈ moments env wait fuel r, m.IsDone env wait := fun _ hm =>
    (course_momentsFrom fuel (firstDue env r) (begun env r)).isDone_of_mem hm
  constructor
  · have hrounds := h.paid_of_linked hlinked hms
    rw [hbegun] at hrounds
    rw [accruals, moments, ← hrounds, after, run_eq_rounds, after]
    cases rounds env wait fuel (firstDue env r) (begun env r) with
    | error f s => rfl
    | ok finished s =>
      cases finished with
      | true => exact h.outer.note _ s
      | false => rfl
  · intro n a ha
    obtain ⟨m, hm, hma, hpaid⟩ := h.exists_paid_of_linked hlinked hms ha
    obtain ⟨haccrual, rfl⟩ := accrualOf?_eq_some.1 hma
    rw [hbegun] at hpaid
    exact ⟨m, hm, Deed.eq_accrue haccrual, rfl, hpaid⟩

end Reader

namespace Trial

open Reader

variable {σ : Type}

/-- The time in progress that the sink was called for. -/
def paidTime (w : Watched Rat σ) : List (Labels × Rat) :=
  (w.sink.2.reverse.filter fun c => c.measurement.metric = .inProgressDuration).map fun c =>
    (c.measurement.labels, c.measurement.amount)

/-- A call of a sink under watch adds what it is called for. -/
theorem paidTime_call {c : Sink.Call Rat} {r : Reader Rat (Watched Rat σ)}
    {f : σ × List (Sink.Call Rat) → Except Failure Unit × σ × List (Sink.Call Rat)}
    (h : (f r.world.sink).2.2 = c :: r.world.sink.2) :
    paidTime (after (onWorld (measure f)) r).world = paidTime r.world ++
      if c.measurement.metric = .inProgressDuration then
        [(c.measurement.labels, c.measurement.amount)] else [] := by
  have hsink : (after (onWorld (measure f)) r).world.sink = (f r.world.sink).2 := by
    rw [after, onWorld, measure]
    rcases f r.world.sink with ⟨_ | _, s⟩ <;> rfl
  rw [paidTime, hsink, h, List.reverse_cons, List.filter_append, List.map_append, paidTime]
  by_cases hm : c.measurement.metric = .inProgressDuration <;> simp [hm]

/-- **The calls of a sink under watch are a ledger**, whatever comes of them. -/
theorem ledger_watched (sink : Sink Rat σ) (interval : Rat) (logs : Bool) (sleep : Rat → Rat) :
    Ledger (environment sink.watched interval logs) (wait sleep) paidTime where
  outer :=
    { refl := fun _ => rfl
      trans := fun _ _ _ hrs hst => hst.trans hrs
      tick := fun _ => rfl
      note := fun _ _ => rfl
      increase := fun m labels x r => paidTime_silenced fun hm => by
        have hcall := paidTime_call (f := sink.watched.increase m labels x) (r := r) rfl
        rw [if_neg hm, List.append_nil] at hcall
        exact hcall
      observe := fun m labels x r => paidTime_silenced fun hm => by
        have hcall := paidTime_call (f := sink.watched.observe m labels x) (r := r) rfl
        rw [if_neg hm, List.append_nil] at hcall
        exact hcall
      fetch := fun fetch hfetch job r => by
        have hfetch' : (environment sink.watched interval logs).fetch? = some fetch := hfetch
        rw [SamePaid, after_fetch hfetch'] }
  charge labels x r := by
    have hcall := paidTime_call (f := sink.watched.increase .inProgressDuration labels x) (r := r)
      rfl
    rw [if_pos rfl] at hcall
    exact hcall
  wait due t r := by
    rw [SamePaid, (after_wait sleep _ r).2]
    rfl
where
  paidTime_silenced {m : Metric} {act : EStateM Failure (Watched Rat σ) Unit}
      {r : Reader Rat (Watched Rat σ)}
      (h : m ≠ .inProgressDuration → paidTime (after (onWorld act) r).world = paidTime r.world) :
      paidTime (after (onWorld (if m = .inProgressDuration then pure () else act)) r).world =
        paidTime r.world := by
    split
    · rfl
    · rename_i hm
      exact h hm

end Trial

end JobMeter
