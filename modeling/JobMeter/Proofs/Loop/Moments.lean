import JobMeter.Proofs.Queue.Traffic

/-!
# The moments of a run

What the loop does is written down here deed by deed: it waits, it dispatches an item, it accrues.
A `Moment` is a deed with the reader before and after it.  The account follows the loop:
`momentsFrom` goes from round to round by `Reader.round` itself, and looks into each round.

* `TurnCase`, `AccrualCase`, `RoundCase` — all that can come of the two parts of a round, and of the
  round itself, with the moments (`turnCase`, `accrualCase`, `roundCase`).
* `RoundsCase` — the rounds of a loop of which none fails (`exists_roundsCase`), or none before the
  last (`exists_roundsCase_of_error`).
* `Course` — the rounds of a loop of which the last may fail (`course_momentsFrom`).
* `rounds_of_some`, `momentsFrom_of_some` and the like — what came of a round decides on the rounds
  after it; if a stop was requested before, nothing is done (`momentsFrom_of_stopped`).
* `RoundCase.countP_le` — there is at most one dispatch and at most one accrual in a round.
* `Leads`, `leads_of_run` — **the account is complete**: the moments of a run, one after the other,
  lead from its beginning to its end.
* `RoundCase.before_of_mem` — what every step of a reader keeps is kept from the beginning of each
  deed to the end of the round.
-/

namespace JobMeter

/-- What the loop does. -/
inductive Deed where
  /-- It waits, and takes a slot off the queue if there is one. -/
  | wait (slot? : Option Slot)
  | dispatch (i : Item)
  | accrue

namespace Deed

/-- It waits. -/
def isWait : Deed → Bool
  | wait _ => true
  | dispatch _ | accrue => false

/-- It dispatches an item. -/
def isDispatch : Deed → Bool
  | dispatch _ => true
  | wait _ | accrue => false

/-- It accrues. -/
def isAccrual : Deed → Bool
  | accrue => true
  | wait _ | dispatch _ => false

theorem eq_accrue {d : Deed} (h : d.isAccrual = true) : d = accrue := by
  cases d with
  | wait | dispatch => cases h
  | accrue => rfl

end Deed

/-- The marker was taken. -/
def Slot.isMarker? : Option Slot → Bool
  | some .stop => true
  | some (.item _) | none => false

theorem Slot.isMarker?_of_passed {slot? : Option Slot} {i : Item}
    (h : slot?.bind Slot.passed? = some i) : isMarker? slot? = false := by
  rcases slot? with _ | ⟨j⟩ | _
  · rfl
  · rfl
  · cases h

theorem Slot.eq_item_of_passed {slot? : Option Slot} {i : Item}
    (h : slot?.bind Slot.passed? = some i) : slot? = some (.item i) := by
  rcases slot? with _ | ⟨j⟩ | _
  · cases h
  · rw [Option.bind_some, Slot.passed?] at h
    split at h
    · cases h
    · rw [Option.some.inj h]
  · cases h

/-- Something that the loop did. -/
structure Moment (τ ω : Type) where
  deed : Deed
  /-- When the next accrual was due. -/
  due : τ
  before : Reader τ ω
  after : Reader τ ω

namespace Reader

variable {τ ω : Type} [Quantity τ]

section

variable (env : Environment τ ω) (wait : Wait τ ω)

/-! ## The account -/

/-- What comes of the wait of a turn. -/
def waitIn (due : τ) (r : Reader τ ω) : EStateM.Result Failure (Reader τ ω) (Option Slot) :=
  wait (timeout due (env.now (after (now env) r).world)) (after (now env) r)

/-- The moments of the first part of a round.  A wait that fails is none. -/
def turnMoments (due : τ) (r : Reader τ ω) : List (Moment τ ω) :=
  if env.stopped r.world then [] else
    match waitIn env wait due r with
    | .ok slot? s =>
      ⟨.wait slot?, due, after (now env) r, s⟩ :: match slot?.bind Slot.passed? with
        | some i => [⟨.dispatch i, due, s, after (dispatchSafely env i) s⟩]
        | none => []
    | .error _ _ => []

/-- The moments of the second part of a round. -/
def accrualMoments (due : τ) (r : Reader τ ω) : List (Moment τ ω) :=
  let s := after (now env) r
  if Quantity.le due (env.now s.world) then [⟨.accrue, due, s, after (accrueSafely env) s⟩] else []

/-- The moments of a round. -/
def roundMoments (due : τ) (r : Reader τ ω) : List (Moment τ ω) :=
  turnMoments env wait due r ++ match turn env wait due r with
    | .ok true s => accrualMoments env due s
    | _ => []

/-- The moments of the rounds of a loop. -/
def momentsFrom : Nat → τ → Reader τ ω → List (Moment τ ω)
  | 0, _, _ => []
  | fuel + 1, due, r =>
    roundMoments env wait due r ++ match round env wait due r with
      | .ok (some due') s => momentsFrom fuel due' s
      | _ => []

/-- A reader of which the loop is about to enter its first round. -/
def begun (r : Reader τ ω) : Reader τ ω := after (now env) (after (note env .loopStarted) r)

/-- When the first accrual is due. -/
def firstDue (r : Reader τ ω) : τ := Quantity.add (env.now (begun env r).world) env.interval

/-- The moments of a run of the loop, as far as the fuel goes. -/
def moments (fuel : Nat) (r : Reader τ ω) : List (Moment τ ω) :=
  momentsFrom env wait fuel (firstDue env r) (begun env r)

/-- A run of the loop is its rounds, and a notice if they came to an end. -/
theorem run_eq_rounds (fuel : Nat) (r : Reader τ ω) :
    run env wait fuel r = match rounds env wait fuel (firstDue env r) (begun env r) with
      | .ok true s => .ok true (after (note env .loopStopped) s)
      | .ok false s => .ok false s
      | .error f s => .error f s := by
  have hrun : run env wait fuel r = (do
      let finished ← rounds env wait fuel (firstDue env r)
      if finished then note env .loopStopped
      return finished) (begun env r) := rfl
  rw [hrun, bind_apply]
  cases rounds env wait fuel (firstDue env r) (begun env r) with
  | error f s => rfl
  | ok finished s => cases finished <;> rfl

/-! ## What can come of a part of a round -/

/-- What can come of a turn, with its moments. -/
inductive TurnCase (due : τ) (r : Reader τ ω) :
    List (Moment τ ω) → EStateM.Result Failure (Reader τ ω) Bool → Prop where
  /-- A stop was requested before. -/
  | stopped (hstop : env.stopped r.world = true) : TurnCase due r [] (.ok false r)
  | waitFailed (hgoes : env.stopped r.world = false) {f : Failure} {s : Reader τ ω}
      (hwait : waitIn env wait due r = .error f s) : TurnCase due r [] (.error f s)
  /-- The marker is taken. -/
  | ended (hgoes : env.stopped r.world = false) {s : Reader τ ω}
      (hwait : waitIn env wait due r = .ok (some .stop) s) :
      TurnCase due r [⟨.wait (some .stop), due, after (now env) r, s⟩] (.ok false s)
  /-- There is nothing to dispatch. -/
  | passedOver (hgoes : env.stopped r.world = false) {slot? : Option Slot} {s : Reader τ ω}
      (hwait : waitIn env wait due r = .ok slot? s) (hnone : slot?.bind Slot.passed? = none)
      (hmarker : Slot.isMarker? slot? = false) :
      TurnCase due r [⟨.wait slot?, due, after (now env) r, s⟩] (.ok true s)
  | dispatched (hgoes : env.stopped r.world = false) {slot? : Option Slot} {i : Item}
      {s u : Reader τ ω} (hwait : waitIn env wait due r = .ok slot? s)
      (hsome : slot?.bind Slot.passed? = some i) (hdispatch : dispatchSafely env i s = .ok () u) :
      TurnCase due r [⟨.wait slot?, due, after (now env) r, s⟩, ⟨.dispatch i, due, s, u⟩]
        (.ok true u)
  | dispatchFailed (hgoes : env.stopped r.world = false) {slot? : Option Slot} {i : Item}
      {s u : Reader τ ω} {f : Failure} (hwait : waitIn env wait due r = .ok slot? s)
      (hsome : slot?.bind Slot.passed? = some i) (hdispatch : dispatchSafely env i s = .error f u) :
      TurnCase due r [⟨.wait slot?, due, after (now env) r, s⟩, ⟨.dispatch i, due, s, u⟩]
        (.error f u)

/-- What can come of the second part of a round, with its moments. -/
inductive AccrualCase (due : τ) (r : Reader τ ω) :
    List (Moment τ ω) → EStateM.Result Failure (Reader τ ω) τ → Prop where
  | notDue (hdue : Quantity.le due (env.now (after (now env) r).world) = false) :
      AccrualCase due r [] (.ok due (after (now env) r))
  | accrued (hdue : Quantity.le due (env.now (after (now env) r).world) = true) {s : Reader τ ω}
      (haccrue : accrueSafely env (after (now env) r) = .ok () s) :
      AccrualCase due r [⟨.accrue, due, after (now env) r, s⟩]
        (.ok (Quantity.add (env.now (after (now env) s).world) env.interval) (after (now env) s))
  | accrualFailed (hdue : Quantity.le due (env.now (after (now env) r).world) = true)
      {f : Failure} {s : Reader τ ω}
      (haccrue : accrueSafely env (after (now env) r) = .error f s) :
      AccrualCase due r [⟨.accrue, due, after (now env) r, s⟩] (.error f s)

/-- What can come of a round, with its moments. -/
inductive RoundCase (due : τ) (r : Reader τ ω) :
    List (Moment τ ω) → EStateM.Result Failure (Reader τ ω) (Option τ) → Prop where
  | turnFailed {ms : List (Moment τ ω)} {f : Failure} {s : Reader τ ω}
      (hturn : TurnCase env wait due r ms (.error f s)) : RoundCase due r ms (.error f s)
  /-- The loop is at its end. -/
  | last {ms : List (Moment τ ω)} {s : Reader τ ω}
      (hturn : TurnCase env wait due r ms (.ok false s)) : RoundCase due r ms (.ok none s)
  | accrualFailed {ms ms' : List (Moment τ ω)} {f : Failure} {u s : Reader τ ω}
      (hturn : TurnCase env wait due r ms (.ok true u))
      (haccrual : AccrualCase env due u ms' (.error f s)) :
      RoundCase due r (ms ++ ms') (.error f s)
  | goesOn {ms ms' : List (Moment τ ω)} {due' : τ} {u s : Reader τ ω}
      (hturn : TurnCase env wait due r ms (.ok true u))
      (haccrual : AccrualCase env due u ms' (.ok due' s)) :
      RoundCase due r (ms ++ ms') (.ok (some due') s)

/-- What can come of the rounds of a loop if none fails, with their moments, and with the time when
the next accrual is due then. -/
inductive RoundsCase :
    Nat → τ → Reader τ ω → List (Moment τ ω) → Bool → τ → Reader τ ω → Prop where
  | outOfFuel (due : τ) (r : Reader τ ω) : RoundsCase 0 due r [] false due r
  | last {fuel : Nat} {due : τ} {r s : Reader τ ω} {ms : List (Moment τ ω)}
      (hround : RoundCase env wait due r ms (.ok none s)) :
      RoundsCase (fuel + 1) due r ms true due s
  | goesOn {fuel : Nat} {due due' due'' : τ} {r s t : Reader τ ω} {ms ms' : List (Moment τ ω)}
      {finished : Bool} (hround : RoundCase env wait due r ms (.ok (some due') s))
      (hrest : RoundsCase fuel due' s ms' finished due'' t) :
      RoundsCase (fuel + 1) due r (ms ++ ms') finished due'' t

/-- What can come of the rounds of a loop, with their moments.  The last of them may fail. -/
inductive Course : τ → Reader τ ω → List (Moment τ ω) → Prop where
  | outOfFuel (due : τ) (r : Reader τ ω) : Course due r []
  | last {due : τ} {r : Reader τ ω} {ms : List (Moment τ ω)}
      {result : EStateM.Result Failure (Reader τ ω) (Option τ)}
      (hround : RoundCase env wait due r ms result) : Course due r ms
  | goesOn {due due' : τ} {r s : Reader τ ω} {ms ms' : List (Moment τ ω)}
      (hround : RoundCase env wait due r ms (.ok (some due') s)) (hrest : Course due' s ms') :
      Course due r (ms ++ ms')

theorem turn_of_stopped {due : τ} {r : Reader τ ω} (h : env.stopped r.world = true) :
    turn env wait due r = .ok false r := by
  have hstopped : stopped env r = .ok (env.stopped r.world) r := rfl
  rw [turn, bind_apply, hstopped]
  dsimp only
  rw [if_pos h]
  rfl

theorem turn_of_goes {due : τ} {r : Reader τ ω} (h : env.stopped r.world = false) :
    turn env wait due r = match waitIn env wait due r with
      | .ok slot? s => (do
          (slot?.bind Slot.passed?).forM (dispatchSafely env)
          return !Slot.isMarker? slot?) s
      | .error f s => .error f s := by
  have hstopped : stopped env r = .ok (env.stopped r.world) r := rfl
  have hnow : now env r = .ok (env.now (after (now env) r).world) (after (now env) r) := rfl
  rw [waitIn, turn_eq, bind_apply, hstopped]
  dsimp only
  rw [if_neg (by simp [h]), bind_apply, hnow]
  dsimp only
  rw [bind_apply]
  cases wait _ (after (now env) r) with
  | error f s => rfl
  | ok slot? s => rcases slot? with _ | _ | _ <;> rfl

theorem turnCase (due : τ) (r : Reader τ ω) :
    TurnCase env wait due r (turnMoments env wait due r) (turn env wait due r) := by
  rw [turnMoments]
  cases hstop : env.stopped r.world with
  | true =>
    rw [turn_of_stopped env wait hstop]
    exact .stopped hstop
  | false =>
    rw [turn_of_goes env wait hstop]
    cases hwait : waitIn env wait due r with
    | error f s => exact .waitFailed hstop hwait
    | ok slot? s =>
      dsimp only
      cases hpassed : slot?.bind Slot.passed? with
      | none =>
        rcases slot? with _ | ⟨i⟩ | _
        · exact .passedOver hstop hwait hpassed rfl
        · exact .passedOver hstop hwait hpassed rfl
        · exact .ended hstop hwait
      | some i =>
        show TurnCase env wait due r [_, _]
          ((dispatchSafely env i >>= fun _ => pure (!Slot.isMarker? slot?)) s)
        rw [bind_apply, Slot.isMarker?_of_passed hpassed]
        cases hdispatch : dispatchSafely env i s with
        | ok a u =>
          rw [after_of_ok hdispatch]
          exact .dispatched hstop hwait hpassed hdispatch
        | error f u =>
          rw [after_of_error hdispatch]
          exact .dispatchFailed hstop hwait hpassed hdispatch

theorem accrualCase (due : τ) (r : Reader τ ω) :
    AccrualCase env due r (accrualMoments env due r) (accrueIfDue env due r) := by
  have hnow : ∀ s, now env s = .ok (env.now (after (now env) s).world) (after (now env) s) :=
    fun _ => rfl
  rw [accrualMoments, accrueIfDue, bind_apply, hnow]
  dsimp only
  cases hdue : Quantity.le due (env.now (after (now env) r).world) with
  | false => exact .notDue hdue
  | true =>
    simp only [if_true]
    rw [bind_apply]
    cases haccrue : accrueSafely env (after (now env) r) with
    | ok a s =>
      rw [after_of_ok haccrue]
      exact .accrued hdue haccrue
    | error f s =>
      rw [after_of_error haccrue]
      exact .accrualFailed hdue haccrue

theorem roundCase (due : τ) (r : Reader τ ω) :
    RoundCase env wait due r (roundMoments env wait due r) (round env wait due r) := by
  have hturn := turnCase env wait due r
  rw [roundMoments, round, bind_apply]
  cases hrun : turn env wait due r with
  | error f s =>
    rw [hrun] at hturn
    rw [List.append_nil]
    exact .turnFailed hturn
  | ok goes s =>
    rw [hrun] at hturn
    cases goes with
    | false =>
      rw [List.append_nil]
      exact .last hturn
    | true =>
      have haccrual := accrualCase env due s
      dsimp only
      rw [if_pos rfl, map_apply]
      cases hdue : accrueIfDue env due s with
      | error f u =>
        rw [hdue] at haccrual
        exact .accrualFailed hturn haccrual
      | ok due' u =>
        rw [hdue] at haccrual
        exact .goesOn hturn haccrual

/-! ## Rounds -/

variable {env wait} {due due' : τ} {r s : Reader τ ω}

theorem rounds_of_error {f : Failure} (h : round env wait due r = .error f s) (fuel : Nat) :
    rounds env wait (fuel + 1) due r = .error f s := by
  rw [rounds, bind_apply, h]

theorem rounds_of_none (h : round env wait due r = .ok none s) (fuel : Nat) :
    rounds env wait (fuel + 1) due r = .ok true s := by
  rw [rounds, bind_apply, h]
  rfl

theorem rounds_of_some (h : round env wait due r = .ok (some due') s) (fuel : Nat) :
    rounds env wait (fuel + 1) due r = rounds env wait fuel due' s := by
  rw [rounds, bind_apply, h]

theorem momentsFrom_of_error {f : Failure} (h : round env wait due r = .error f s) (fuel : Nat) :
    momentsFrom env wait (fuel + 1) due r = roundMoments env wait due r := by
  rw [momentsFrom, h, List.append_nil]

theorem momentsFrom_of_none (h : round env wait due r = .ok none s) (fuel : Nat) :
    momentsFrom env wait (fuel + 1) due r = roundMoments env wait due r := by
  rw [momentsFrom, h, List.append_nil]

theorem momentsFrom_of_some (h : round env wait due r = .ok (some due') s) (fuel : Nat) :
    momentsFrom env wait (fuel + 1) due r =
      roundMoments env wait due r ++ momentsFrom env wait fuel due' s := by
  rw [momentsFrom, h]

/-- Rounds of which none fails are of one of these kinds. -/
theorem exists_roundsCase {fuel : Nat} {finished : Bool}
    (h : rounds env wait fuel due r = .ok finished s) :
    ∃ due', RoundsCase env wait fuel due r (momentsFrom env wait fuel due r) finished due' s := by
  induction fuel generalizing due r with
  | zero =>
    injection h with hfinished hs
    subst hfinished hs
    exact ⟨due, .outOfFuel due r⟩
  | succ fuel ih =>
    have hround := roundCase env wait due r
    cases hrun : round env wait due r with
    | error f u =>
      rw [rounds_of_error hrun] at h
      cases h
    | ok next? u =>
      rw [hrun] at hround
      cases next? with
      | none =>
        rw [rounds_of_none hrun] at h
        injection h with hfinished hs
        subst hfinished hs
        rw [momentsFrom_of_none hrun]
        exact ⟨due, .last hround⟩
      | some due' =>
        rw [rounds_of_some hrun] at h
        rw [momentsFrom_of_some hrun]
        obtain ⟨due'', hrest⟩ := ih h
        exact ⟨due'', .goesOn hround hrest⟩

/-- Rounds that fail are some of which none fails, and one more. -/
theorem exists_roundsCase_of_error {fuel : Nat} {f : Failure}
    (h : rounds env wait fuel due r = .error f s) :
    ∃ n before due' u last, RoundsCase env wait n due r before false due' u ∧
      RoundCase env wait due' u last (.error f s) ∧
      momentsFrom env wait fuel due r = before ++ last := by
  induction fuel generalizing due r with
  | zero => cases h
  | succ fuel ih =>
    have hround := roundCase env wait due r
    cases hrun : round env wait due r with
    | error g u =>
      rw [rounds_of_error hrun] at h
      obtain ⟨rfl, rfl⟩ := EStateM.Result.error.inj h
      rw [hrun] at hround
      exact ⟨0, [], due, r, _, .outOfFuel due r, hround, momentsFrom_of_error hrun fuel⟩
    | ok next? u =>
      rw [hrun] at hround
      cases next? with
      | none =>
        rw [rounds_of_none hrun] at h
        cases h
      | some due' =>
        rw [rounds_of_some hrun] at h
        obtain ⟨n, before, due'', v, last, hbefore, hlast, hmoments⟩ := ih h
        refine ⟨n + 1, _, due'', v, last, .goesOn hround hbefore, hlast, ?_⟩
        rw [momentsFrom_of_some hrun, hmoments, List.append_assoc]

/-- The moments of a run are of one of these kinds. -/
theorem course_momentsFrom (fuel : Nat) (due : τ) (r : Reader τ ω) :
    Course env wait due r (momentsFrom env wait fuel due r) := by
  induction fuel generalizing due r with
  | zero => exact .outOfFuel due r
  | succ fuel ih =>
    have hround := roundCase env wait due r
    cases hrun : round env wait due r with
    | error f s =>
      rw [momentsFrom_of_error hrun]
      exact .last hround
    | ok next? s =>
      cases next? with
      | none =>
        rw [momentsFrom_of_none hrun]
        exact .last hround
      | some due' =>
        rw [momentsFrom_of_some hrun]
        exact .goesOn (hrun ▸ hround) (ih due' s)

/-! ## A round after a stop was requested -/

theorem round_of_stopped (h : env.stopped r.world = true) :
    round env wait due r = .ok none r := by
  rw [round, bind_apply, turn_of_stopped env wait h]
  rfl

/-- If a stop was requested before, nothing is done. -/
theorem roundMoments_of_stopped (h : env.stopped r.world = true) :
    roundMoments env wait due r = [] := by
  rw [roundMoments, turn_of_stopped env wait h, turnMoments, if_pos h]
  rfl

theorem momentsFrom_of_stopped (h : env.stopped r.world = true) (fuel : Nat) :
    momentsFrom env wait fuel due r = [] := by
  cases fuel with
  | zero => rfl
  | succ fuel => rw [momentsFrom_of_none (round_of_stopped h), roundMoments_of_stopped h]

/-! ## The moments of a round -/

variable {ms ms' : List (Moment τ ω)}

theorem TurnCase.countP_isDispatch_le {result : EStateM.Result Failure (Reader τ ω) Bool}
    (h : TurnCase env wait due r ms result) : ms.countP (·.deed.isDispatch) ≤ 1 := by
  cases h <;> simp [Deed.isDispatch]

theorem TurnCase.countP_isAccrual {result : EStateM.Result Failure (Reader τ ω) Bool}
    (h : TurnCase env wait due r ms result) : ms.countP (·.deed.isAccrual) = 0 := by
  cases h <;> simp [Deed.isAccrual]

theorem AccrualCase.countP_isDispatch {result : EStateM.Result Failure (Reader τ ω) τ}
    (h : AccrualCase env due r ms result) : ms.countP (·.deed.isDispatch) = 0 := by
  cases h <;> simp [Deed.isDispatch]

theorem AccrualCase.countP_isAccrual_le {result : EStateM.Result Failure (Reader τ ω) τ}
    (h : AccrualCase env due r ms result) : ms.countP (·.deed.isAccrual) ≤ 1 := by
  cases h <;> simp [Deed.isAccrual]

/-- There is at most one dispatch and at most one accrual in a round. -/
theorem RoundCase.countP_le {result : EStateM.Result Failure (Reader τ ω) (Option τ)}
    (h : RoundCase env wait due r ms result) :
    ms.countP (·.deed.isDispatch) ≤ 1 ∧ ms.countP (·.deed.isAccrual) ≤ 1 := by
  cases h with
  | turnFailed hturn | last hturn =>
    rw [hturn.countP_isAccrual]
    exact ⟨hturn.countP_isDispatch_le, Nat.zero_le 1⟩
  | accrualFailed hturn haccrual | goesOn hturn haccrual =>
    rw [List.countP_append, List.countP_append, hturn.countP_isAccrual,
      haccrual.countP_isDispatch, Nat.add_zero, Nat.zero_add]
    exact ⟨hturn.countP_isDispatch_le, haccrual.countP_isAccrual_le⟩

section Members

variable {m : Moment τ ω}

theorem TurnCase.isAccrual_eq {result : EStateM.Result Failure (Reader τ ω) Bool}
    (h : TurnCase env wait due r ms result) (hm : m ∈ ms) : m.deed.isAccrual = false := by
  have hnone := List.countP_eq_zero.1 h.countP_isAccrual m hm
  simpa using hnone

theorem TurnCase.due_eq {result : EStateM.Result Failure (Reader τ ω) Bool}
    (h : TurnCase env wait due r ms result) (hm : m ∈ ms) : m.due = due := by
  cases h with
  | stopped | waitFailed => cases hm
  | ended | passedOver =>
    obtain rfl := List.mem_singleton.1 hm
    rfl
  | dispatched | dispatchFailed =>
    rcases List.mem_cons.1 hm with rfl | hm
    · rfl
    · obtain rfl := List.mem_singleton.1 hm
      rfl

theorem AccrualCase.due_eq {result : EStateM.Result Failure (Reader τ ω) τ}
    (h : AccrualCase env due r ms result) (hm : m ∈ ms) : m.due = due := by
  cases h with
  | notDue => cases hm
  | accrued | accrualFailed =>
    obtain rfl := List.mem_singleton.1 hm
    rfl

/-- All of a round happens while the same accrual is due next. -/
theorem RoundCase.due_eq {result : EStateM.Result Failure (Reader τ ω) (Option τ)}
    (h : RoundCase env wait due r ms result) (hm : m ∈ ms) : m.due = due := by
  cases h with
  | turnFailed hturn | last hturn => exact hturn.due_eq hm
  | accrualFailed hturn haccrual | goesOn hturn haccrual =>
    rcases List.mem_append.1 hm with hm | hm
    · exact hturn.due_eq hm
    · exact haccrual.due_eq hm

end Members

section Keeps

variable {R : Reader τ ω → Reader τ ω → Prop} {m : Moment τ ω}

theorem TurnCase.before_of_mem (hR : Steps env R) {goes : Bool}
    (h : TurnCase env wait due r ms (.ok goes s)) (hw : ∀ due t, Keeps R (wait (timeout due t)))
    (hm : m ∈ ms) : R m.before s := by
  have hwaited : ∀ {slot? u}, waitIn env wait due r = .ok slot? u → R (after (now env) r) u :=
    fun hwait => after_of_ok hwait ▸ hw _ _ _
  cases h with
  | stopped => cases hm
  | ended hgoes hwait | passedOver hgoes hwait =>
    obtain rfl := List.mem_singleton.1 hm
    exact hwaited hwait
  | dispatched hgoes hwait hsome hdispatch =>
    have hdispatched := after_of_ok hdispatch ▸ hR.dispatchSafely _ _
    rcases List.mem_cons.1 hm with rfl | hm
    · exact hR.trans (hwaited hwait) hdispatched
    · obtain rfl := List.mem_singleton.1 hm
      exact hdispatched

theorem AccrualCase.keeps (hR : Steps env R) (h : AccrualCase env due r ms (.ok due' s)) :
    R r s := by
  cases h with
  | notDue => exact hR.now r
  | accrued hdue haccrue =>
    have haccrued := after_of_ok haccrue ▸ hR.accrueSafely _
    exact hR.trans (hR.now r) (hR.trans haccrued (hR.now _))

theorem AccrualCase.before_of_mem (hR : Steps env R) (h : AccrualCase env due r ms (.ok due' s))
    (hm : m ∈ ms) : R m.before s := by
  cases h with
  | notDue => cases hm
  | accrued hdue haccrue =>
    obtain rfl := List.mem_singleton.1 hm
    have haccrued := after_of_ok haccrue ▸ hR.accrueSafely _
    exact hR.trans haccrued (hR.now _)

/-- What every step keeps is kept from the beginning of each deed to the end of the round. -/
theorem RoundCase.before_of_mem (hR : Steps env R) {next? : Option τ}
    (h : RoundCase env wait due r ms (.ok next? s))
    (hw : ∀ due t, Keeps R (wait (timeout due t))) (hm : m ∈ ms) : R m.before s := by
  cases h with
  | last hturn => exact hturn.before_of_mem hR hw hm
  | goesOn hturn haccrual =>
    rcases List.mem_append.1 hm with hm | hm
    · exact hR.trans (hturn.before_of_mem hR hw hm) (haccrual.keeps hR)
    · exact haccrual.before_of_mem hR hm

end Keeps

/-! ## The account is complete -/

/-- The moments, one after the other, lead from one reader to the other: each is what it says that
it is and does not fail, an accrual is due, and between them the loop only looks at the clock.
`due` and `due'` are the times when the next accrual is due then. -/
inductive Leads (env : Environment τ ω) (wait : Wait τ ω) :
    τ → Reader τ ω → List (Moment τ ω) → τ → Reader τ ω → Prop where
  | nil (due : τ) (r : Reader τ ω) : Leads env wait due r [] due r
  | look {due due' : τ} {r s : Reader τ ω} {ms : List (Moment τ ω)}
      (hrest : Leads env wait due (after (now env) r) ms due' s) : Leads env wait due r ms due' s
  | wait {due due' : τ} {r s u : Reader τ ω} {ms : List (Moment τ ω)} {slot? : Option Slot}
      (hwait : wait (timeout due (env.now r.world)) r = .ok slot? u)
      (hrest : Leads env wait due u ms due' s) :
      Leads env wait due r (⟨.wait slot?, due, r, u⟩ :: ms) due' s
  | dispatch {due due' : τ} {r s u : Reader τ ω} {ms : List (Moment τ ω)} {i : Item}
      (hdispatch : dispatchSafely env i r = .ok () u) (hrest : Leads env wait due u ms due' s) :
      Leads env wait due r (⟨.dispatch i, due, r, u⟩ :: ms) due' s
  | accrue {due due' : τ} {r s u : Reader τ ω} {ms : List (Moment τ ω)}
      (hdue : Quantity.le due (env.now r.world) = true)
      (haccrue : accrueSafely env r = .ok () u)
      (hrest : Leads env wait (Quantity.add (env.now (after (now env) u).world) env.interval)
        (after (now env) u) ms due' s) :
      Leads env wait due r (⟨.accrue, due, r, u⟩ :: ms) due' s

namespace Leads

theorem append {t : Reader τ ω} {due'' : τ} (h : Leads env wait due r ms due' s)
    (h' : Leads env wait due' s ms' due'' t) : Leads env wait due r (ms ++ ms') due'' t := by
  induction h with
  | nil => exact h'
  | look hrest ih => exact .look (ih h')
  | wait hwait hrest ih => exact .wait hwait (ih h')
  | dispatch hdispatch hrest ih => exact .dispatch hdispatch (ih h')
  | accrue hdue haccrue hrest ih => exact .accrue hdue haccrue (ih h')

/-- A moment of waiting is one. -/
theorem wait_of_mem (h : Leads env wait due r ms due' s) {m : Moment τ ω} (hm : m ∈ ms)
    {slot? : Option Slot} (hdeed : m.deed = .wait slot?) :
    ∃ t, wait t m.before = .ok slot? m.after := by
  induction h with
  | nil => cases hm
  | look hrest ih => exact ih hm
  | wait hwait hrest ih =>
    rcases List.mem_cons.1 hm with rfl | hm
    · injection hdeed with hslot
      exact ⟨_, hslot ▸ hwait⟩
    · exact ih hm
  | dispatch hdispatch hrest ih =>
    rcases List.mem_cons.1 hm with rfl | hm
    · cases hdeed
    · exact ih hm
  | accrue hdue haccrue hrest ih =>
    rcases List.mem_cons.1 hm with rfl | hm
    · cases hdeed
    · exact ih hm

end Leads

theorem TurnCase.leads {goes : Bool} (h : TurnCase env wait due r ms (.ok goes s)) :
    Leads env wait due r ms due s := by
  cases h with
  | stopped => exact .nil due r
  | ended hgoes hwait | passedOver hgoes hwait => exact .look (.wait hwait (.nil due s))
  | dispatched hgoes hwait hsome hdispatch =>
    exact .look (.wait hwait (.dispatch hdispatch (.nil due s)))

theorem AccrualCase.leads (h : AccrualCase env due r ms (.ok due' s)) :
    Leads env wait due r ms due' s := by
  cases h with
  | notDue => exact .look (.nil due _)
  | accrued hdue haccrue => exact .look (.accrue hdue haccrue (.nil _ _))

/-- The moments of the rounds lead from their beginning to their end. -/
theorem RoundsCase.leads {fuel : Nat} {finished : Bool}
    (h : RoundsCase env wait fuel due r ms finished due' s) : Leads env wait due r ms due' s := by
  induction h with
  | outOfFuel => exact .nil _ _
  | last hround =>
    cases hround with
    | last hturn => exact hturn.leads
  | goesOn hround hrest ih =>
    cases hround with
    | goesOn hturn haccrual => exact (hturn.leads.append haccrual.leads).append ih

theorem rounds_of_run {fuel : Nat} {finished : Bool} (h : run env wait fuel r = .ok finished s) :
    ∃ u, rounds env wait fuel (firstDue env r) (begun env r) = .ok finished u ∧
      s = if finished then after (note env .loopStopped) u else u := by
  rw [run_eq_rounds] at h
  cases hrounds : rounds env wait fuel (firstDue env r) (begun env r) with
  | error f u =>
    rw [hrounds] at h
    cases h
  | ok finished' u =>
    rw [hrounds] at h
    cases finished' with
    | true =>
      injection h with hfinished hs
      subst hfinished hs
      exact ⟨u, rfl, rfl⟩
    | false =>
      injection h with hfinished hs
      subst hfinished hs
      exact ⟨u, rfl, rfl⟩

/-- **The account of a run is complete.** -/
theorem leads_of_run {fuel : Nat} {finished : Bool} (h : run env wait fuel r = .ok finished s) :
    ∃ due u, Leads env wait (firstDue env r) (begun env r) (moments env wait fuel r) due u ∧
      s = if finished then after (note env .loopStopped) u else u := by
  obtain ⟨u, hrounds, hs⟩ := rounds_of_run h
  obtain ⟨due, hcase⟩ := exists_roundsCase hrounds
  exact ⟨due, u, hcase.leads, hs⟩

end

end Reader

end JobMeter
