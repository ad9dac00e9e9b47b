import JobMeter.Metric.Exposition
import JobMeter.Reader.Loop
import JobMeter.Service.Settings

/-!
# Assembling the service

A `Host` is what the service runs on: it has a clock, keeps the measurements, sends requests, takes
notices and carries the request to stop.  `Settings.environment` connects an event reader to it, and
`Settings.reader` is the reader as it starts.  Without a platform in the settings no logs are read,
and a notice says so.
-/

namespace JobMeter.Service

variable {ω : Type}

/-- What the service runs on. -/
structure Host (ω : Type) where
  now : ω → Float
  store : ω → Store Float
  setStore : Store Float → ω → ω
  transport : Http.Transport ω
  note : Notice → ω → ω
  stopped : ω → Bool
  requestStop : ω → ω

namespace Host

/-- A measurement in the store. -/
def measure (h : Host ω) (f : Store Float → Except Failure Unit × Store Float) :
    EStateM Failure ω Unit := fun w =>
  match f (h.store w) with
  | (.ok (), s) => .ok () (h.setStore s w)
  | (.error e, s) => .error e (h.setStore s w)

/-- The metrics as they are exposed. -/
def exposition (h : Host ω) (w : ω) : Except Failure Text := Exposition.render (h.store w)

end Host

namespace Settings

/-- Where logs come from. -/
def logs? (s : Settings) (h : Host ω) : Option (LogSource ω) :=
  s.platform.map fun p => p.client.logs h.transport h.stopped

/-- What the reader is connected to. -/
def environment (s : Settings) (h : Host ω) : Environment Float ω where
  interval := s.accrualInterval
  now := h.now
  increase m labels amount := h.measure fun store => store.increase m labels amount
  observe m labels value := h.measure fun store => store.observe m labels value
  fetch? := (s.logs? h).map fun source => source.fetch
  note := h.note
  stopped := h.stopped
  requestStop := h.requestStop

/-- The notices when the reader is made. -/
def notices (s : Settings) : List Notice := if s.platform.isSome then [] else [.logsDisabled]

/-- The reader as it starts. -/
def reader (s : Settings) (h : Host ω) (w : ω) : Reader Float ω where
  queue := ⟨s.queueSize.toNat, []⟩
  world := s.notices.foldl (fun w n => h.note n w) w

end Settings

end JobMeter.Service
