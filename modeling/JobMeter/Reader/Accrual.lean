import JobMeter.Reader.Basic

/-!
# Accruing the time of running jobs

Time in progress is charged while a job runs, not when it ends.  Each accrual charges every job in
the registry with one interval, or with the time since it started if that is shorter.
-/

namespace JobMeter

/-- A job in the listing of the jobs in progress. -/
structure Listed (τ : Type) where
  id : Int
  labels : Labels
  running : τ

namespace Reader

variable {τ ω : Type} [Quantity τ]

/-- What an accrual at a time charges a job. -/
def charge (interval now : τ) (job : Running τ) : τ :=
  Quantity.atLeastZero
    (if Quantity.lt now (Quantity.add job.startTime interval) then Quantity.sub now job.startTime
      else interval)

/-- Charges one job. -/
def chargeJob (env : Environment τ ω) (now : τ) (_ : Int) (job : Running τ) (w : ω) :
    Except Failure Unit × Running τ × ω :=
  match env.increase .inProgressDuration job.labels (charge env.interval now job) w with
  | .ok () w' => (.ok (), job, w')
  | .error f w' => (.error f, job, w')

/-- Charges every job in progress at a time. -/
def accrueAt (env : Environment τ ω) (t : τ) : Act τ ω Unit := fun r =>
  match r.registry.forEach (chargeJob env t) r.world with
  | (.ok (), registry, w) => .ok () { r with registry := registry, world := w }
  | (.error f, registry, w) => .error f { r with registry := registry, world := w }

/-- Charges every job in progress. -/
def accrue (env : Environment τ ω) : Act τ ω Unit := do accrueAt env (← now env)

/-- Charges every job in progress; a failure is noted. -/
def accrueSafely (env : Environment τ ω) : Act τ ω Unit :=
  guarded (fun f => note env (.accrualFailed f)) (accrue env)

/-- The jobs in progress by their ids, with how long they have been running. -/
def inProgress (env : Environment τ ω) (r : Reader τ ω) : List (Listed τ) :=
  (r.registry.entries.mergeSort fun a b => decide (a.1 ≤ b.1)).map fun (id, job) =>
    ⟨id, job.labels, Quantity.sub (env.now r.world) job.startTime⟩

end Reader

end JobMeter
