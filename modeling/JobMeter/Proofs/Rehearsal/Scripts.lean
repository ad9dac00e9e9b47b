import JobMeter.Proofs.Dispatch.Ordinary
import JobMeter.Proofs.Log.Releasing
import JobMeter.Rehearsal.Stage

/-!
# What scripts can do

In a rehearsal a reader writes calls and notices down, and it reads logs that scripts tell.  So what
it can do to the stage is limited, and whatever fails there can be traced to a script.

* `Stage.Recorded w v` — from one stage to the other calls and notices were written down, and that
  is all.
* `Stage.Proceeds w v` — the logs of some scripts were read, too.  They may have let time pass and
  requested a stop.
* `LogScript.Raises` — a script tells of a failure.
* `contained_scripts` — what a reader does lets a rehearsal proceed, and its failures are ordinary
  ones or a script tells of them.
* `dispatchSafely_cases`, `accrueSafely_recorded` — so a dispatch fails only if a script demands the
  end of the process or the item lets something escape, and an accrual does not fail.
-/

namespace JobMeter.Rehearsal

open Reader

variable {τ : Type}

/-! ## Stages -/

namespace Stage

/-- Calls and notices were written down, and that is all. -/
def Recorded (w v : Stage τ) : Prop := ∃ calls notices, v = { w with calls, notices }

/-- Logs of the scripts may have been read, too. -/
structure Proceeds (w v : Stage τ) : Prop where
  arrivals : v.arrivals = w.arrivals
  failing : v.failing = w.failing
  scripts : v.scripts ⊆ w.scripts
  stopped : w.stopped = true → v.stopped = true

theorem Recorded.refl (w : Stage τ) : Recorded w w := ⟨w.calls, w.notices, rfl⟩

theorem Recorded.trans {w v u : Stage τ} : Recorded w v → Recorded v u → Recorded w u := by
  rintro ⟨calls, notices, rfl⟩ ⟨calls', notices', rfl⟩
  exact ⟨calls', notices', rfl⟩

theorem recorded_record (c : Call τ) (w : Stage τ) : Recorded w (record c w) :=
  ⟨c :: w.calls, w.notices, rfl⟩

namespace Proceeds

theorem refl (w : Stage τ) : Proceeds w w := ⟨rfl, rfl, fun _ => id, id⟩

theorem trans {w v u : Stage τ} (h : Proceeds w v) (h' : Proceeds v u) : Proceeds w u where
  arrivals := h'.arrivals.trans h.arrivals
  failing := h'.failing.trans h.failing
  scripts := fun _ hs => h.scripts (h'.scripts hs)
  stopped hw := h'.stopped (h.stopped hw)

theorem of_recorded {w v : Stage τ} (h : Recorded w v) : Proceeds w v := by
  obtain ⟨calls, notices, rfl⟩ := h
  exact ⟨rfl, rfl, fun _ => id, id⟩

theorem requestStop (w : Stage τ) : Proceeds w w.requestStop :=
  ⟨rfl, rfl, fun _ => id, fun _ => rfl⟩

theorem advance [Quantity τ] (d : τ) (w : Stage τ) : Proceeds w (w.advance d) :=
  ⟨rfl, rfl, fun _ => id, id⟩

end Proceeds

/-- A measurement is written down, and it fails if its metric does. -/
theorem measure_eq (m : Metric) (c : Call τ) (s : Stage τ) :
    measure m c s = if m ∈ s.failing then
      .error (Failure.of (.foreign "RuntimeError") s!"sink failed: {m.name}") (record c s)
      else .ok () (record c s) := by
  have hmeasure : measure m c s = (if s.failing.contains m then
      throw (Failure.of (.foreign "RuntimeError") s!"sink failed: {m.name}") else pure () :
        EStateM Failure (Stage τ) Unit) (record c s) := rfl
  rw [hmeasure]
  simp only [List.contains_iff_mem]
  split <;> rfl

theorem confined_measure {I : Stage τ → Prop} {P : Failure → Prop} (m : Metric) (c : Call τ)
    (hI : ∀ w, I w → I (record c w)) (hP : ∀ f, f.isOrdinary = true → P f) :
    Confined I P (measure m c) := by
  intro w hw
  rw [measure_eq]
  split
  · exact .error (hI w hw) (hP _ rfl)
  · exact .ok (hI w hw)

end Stage

/-! ## Scripts -/

/-- The script tells of the failure. -/
def LogScript.Raises (s : LogScript τ) (f : Failure) : Prop :=
  s.locateFailure = some f ∨ s.retrieveFailure = some f ∨ Cue.fail f ∈ s.cues

/-- The failure is an ordinary one, or a script of the stage tells of it. -/
def Stage.Explains (w : Stage τ) (f : Failure) : Prop :=
  f.isOrdinary = true ∨ ∃ script ∈ w.scripts, script.Raises f

theorem Stage.Proceeds.explains {w v : Stage τ} (h : w.Proceeds v) {f : Failure}
    (hf : v.Explains f) : w.Explains f :=
  hf.imp_right fun ⟨script, hscript, hraises⟩ => ⟨script, h.scripts hscript, hraises⟩

theorem explains_openFailure {w : Stage τ} {f : Failure} (h : w.Explains f) (job : JobIdentity) :
    w.Explains (LogSource.openFailure job f) := by
  rw [LogSource.openFailure]
  split
  · exact .inl rfl
  · exact h

theorem explains_failureAt {w : Stage τ} (job : Int) {item : FeedItem (Stage τ)}
    (h : ∀ f, item = .fail f → w.Explains f) : w.Explains (LogSource.failureAt job item) := by
  cases item with
  | line l => exact .inl rfl
  | meanwhile f => exact .inl rfl
  | fail f =>
    rw [LogSource.failureAt]
    split
    · exact .inl rfl
    · exact h f rfl

/-- What a script gives to read. -/
def LogScript.feed [Quantity τ] (script : LogScript τ) (charset : Text) :
    List (FeedItem (Stage τ)) :=
  .meanwhile (Stage.record (.read charset)) :: script.cues.map Stage.feedItem

section Fetch

variable [Quantity τ]

/-- The stage when a script was taken to find a log. -/
def Stage.found (w : Stage τ) (job : JobIdentity) (script : LogScript τ)
    (rest : List (LogScript τ)) : Stage τ :=
  let v := { w.record (.located job) with scripts := rest, script := some script }
  script.delay.elim v v.advance

theorem Stage.script_found (w : Stage τ) (job : JobIdentity) (script : LogScript τ)
    (rest : List (LogScript τ)) : (w.found job script rest).script = some script := by
  rw [found]
  cases script.delay <;> rfl

theorem Stage.proceeds_found {w : Stage τ} {script : LogScript τ} {rest : List (LogScript τ)}
    (h : w.scripts = script :: rest) (job : JobIdentity) :
    w.Proceeds (w.found job script rest) := by
  have htaken :
      w.Proceeds { w.record (.located job) with scripts := rest, script := some script } :=
    ⟨rfl, rfl, fun s hs => h ▸ List.mem_cons_of_mem script hs, id⟩
  rw [found]
  cases script.delay with
  | none => exact htaken
  | some d => exact htaken.trans (.advance d _)

theorem locate_of_nil {w : Stage τ} (h : w.scripts = []) (job : JobIdentity) :
    Stage.locate job w = .error ⟨.platform .notFound, [], none⟩ (w.record (.located job)) := by
  obtain ⟨clock, stopped, failing, scripts⟩ := w
  obtain rfl : scripts = [] := h
  rfl

theorem locate_of_cons {w : Stage τ} {script : LogScript τ} {rest : List (LogScript τ)}
    (h : w.scripts = script :: rest) (job : JobIdentity) :
    Stage.locate job w = match script.locateFailure with
      | some f => .error f (w.found job script rest)
      | none => .ok (Stage.address job) (w.found job script rest) := by
  obtain ⟨clock, stopped, failing, scripts⟩ := w
  obtain ⟨delay, locateFailure⟩ := script
  obtain rfl : scripts = _ := h
  cases delay <;> cases locateFailure <;> rfl

theorem retrieve_of_some {w : Stage τ} {script : LogScript τ} (h : w.script = some script)
    (url : Text) :
    Stage.retrieve url w = match script.retrieveFailure with
      | some f => .error f (w.record (.opened url))
      | none => .ok ⟨script.charset, script.feed⟩ (w.record (.opened url)) := by
  obtain ⟨clock, stopped, failing, scripts, last⟩ := w
  obtain ⟨delay, locateFailure, retrieveFailure⟩ := script
  obtain rfl : last = _ := h
  cases retrieveFailure <;> rfl

/-- A log is opened as its script tells, or it cannot be had. -/
theorem openLog_cases (shared : Bool) (job : JobIdentity) (w : Stage τ) :
    (∃ f v, (Stage.logs shared).openLog job w = .error f v ∧ w.Proceeds v ∧ w.Explains f) ∨
      ∃ script ∈ w.scripts, ∃ v, w.Proceeds v ∧
        (Stage.logs shared).openLog job w = .ok ⟨script.charset, script.feed⟩ v := by
  have hlocate : (Stage.logs shared).locate job w = Stage.locate job w := rfl
  rw [LogSource.openLog_eq, hlocate]
  cases hscripts : w.scripts with
  | nil =>
    rw [locate_of_nil hscripts]
    exact .inl ⟨_, _, rfl, .of_recorded (Stage.recorded_record _ w), .inl rfl⟩
  | cons script rest =>
    have hmem : script ∈ w.scripts := hscripts ▸ List.mem_cons_self
    have hfound := Stage.proceeds_found hscripts job
    rw [locate_of_cons hscripts]
    cases hfailure : script.locateFailure with
    | some f =>
      have hraises : w.Explains f := .inr ⟨script, hmem, .inl hfailure⟩
      exact .inl ⟨_, _, rfl, hfound, explains_openFailure hraises job⟩
    | none =>
      have hopened : w.Proceeds ((w.found job script rest).record (.opened (Stage.address job))) :=
        hfound.trans (.of_recorded (Stage.recorded_record _ _))
      have hretrieve : (Stage.logs shared : LogSource (Stage τ)).retrieve = Stage.retrieve := rfl
      dsimp only
      rw [hretrieve, retrieve_of_some (w.script_found job script rest)]
      cases hfailure : script.retrieveFailure with
      | some f =>
        have hraises : w.Explains f := .inr ⟨script, hmem, .inr (.inl hfailure)⟩
        exact .inl ⟨_, _, rfl, hopened, explains_openFailure hraises job⟩
      | none => exact .inr ⟨script, List.mem_cons_self, _, hopened, rfl⟩

/-- What happens while a script is read lets the rehearsal proceed. -/
theorem proceeds_feedWorld {script : LogScript τ} {charset : Text}
    {feed : List (FeedItem (Stage τ))} (hfeed : ∀ item ∈ feed, item ∈ script.feed charset)
    (w : Stage τ) : w.Proceeds (feedWorld w feed) := by
  refine feedWorld_induction (P := w.Proceeds) (.refl w) fun f hf v hv => hv.trans ?_
  rcases List.mem_cons.1 (hfeed _ hf) with heq | hmem
  · obtain rfl := FeedItem.meanwhile.inj heq
    exact .of_recorded (Stage.recorded_record _ v)
  · obtain ⟨cue, -, hcue⟩ := List.mem_map.1 hmem
    cases cue with
    | line l => cases hcue
    | advance d =>
      obtain rfl := FeedItem.meanwhile.inj hcue
      exact .advance d v
    | stop =>
      obtain rfl := FeedItem.meanwhile.inj hcue
      exact .requestStop v
    | fail f => cases hcue

theorem raises_of_mem_feed {script : LogScript τ} {charset : Text} {f : Failure}
    (h : FeedItem.fail f ∈ script.feed charset) : script.Raises f := by
  rcases List.mem_cons.1 h with heq | hmem
  · cases heq
  · obtain ⟨cue, hcue, heq⟩ := List.mem_map.1 hmem
    cases cue with
    | line l => cases heq
    | advance d => cases heq
    | stop => cases heq
    | fail g =>
      obtain rfl := FeedItem.fail.inj heq
      exact .inr (.inr hcue)

/-- **Reading a log lets the rehearsal proceed**, and if it fails then ordinarily, or as a script
tells. -/
theorem lands_fetch (shared : Bool) (job : JobIdentity) (w : Stage τ) :
    Lands w.Proceeds w.Explains ((Stage.logs shared).fetch job w) := by
  rcases openLog_cases shared job w with ⟨f, v, hopen, hv, hf⟩ | ⟨script, hscript, v, hv, hopen⟩
  · have hfetch : (Stage.logs shared).fetch job w = .error f v := bind_of_eq_error hopen _
    rw [hfetch]
    exact .error hv hf
  · rw [LogSource.fetch_of_open hopen]
    refine Lands.ending ?_ fun t ht => ht.trans (.of_recorded (Stage.recorded_record _ t))
    obtain ⟨charset, hcharset⟩ : ∃ charset,
        LogSource.feedOf ⟨script.charset, script.feed⟩ = script.feed charset := ⟨_, rfl⟩
    rw [hcharset]
    rcases LogSource.free_or_stops (Stage.logs shared) v (script.feed charset) with
      hfree | ⟨before, item, after, hsplit, hbefore, hitem⟩
    · rw [LogSource.readFeed_of_free hfree]
      exact .ok (hv.trans (proceeds_feedWorld (fun _ => id) v))
    · have hmem {x} (hx : x ∈ before ∨ x = item) : x ∈ script.feed charset := by
        rw [hsplit, List.mem_append, List.mem_cons]
        exact hx.imp_right .inl
      rw [hsplit, LogSource.readFeed_of_stops hbefore hitem]
      refine .error (hv.trans (proceeds_feedWorld (fun x hx => hmem (.inl hx)) v)) ?_
      refine explains_failureAt _ fun f hf => .inr ⟨script, hscript, ?_⟩
      exact raises_of_mem_feed (hf ▸ hmem (.inr rfl))

end Fetch

/-! ## Readers on a stage -/

/-- The surroundings of a rehearsal.  Logs, if there are any, follow the scripts. -/
abbrev scripted [Quantity τ] (interval : τ) (shared? : Option Bool) : Environment τ (Stage τ) :=
  Stage.environment interval (shared?.map Stage.logs)

section Reader

variable [Quantity τ] (interval : τ) (shared? : Option Bool)

/-- **What a reader does lets the rehearsal proceed**, and it fails ordinarily or as a script
tells. -/
theorem contained_scripts (w : Stage τ) :
    Contained (scripted interval shared?) w.Proceeds w.Explains where
  tick _ := id
  note _ v hv := hv.trans (.of_recorded ⟨v.calls, _, rfl⟩)
  increase m _ _ := Stage.confined_measure m _
    (fun v hv => hv.trans (.of_recorded (Stage.recorded_record _ v))) fun _ => .inl
  observe m _ _ := Stage.confined_measure m _
    (fun v hv => hv.trans (.of_recorded (Stage.recorded_record _ v))) fun _ => .inl
  fetch fetch hfetch job v hv := by
    obtain ⟨source, hsource, rfl⟩ := Option.map_eq_some_iff.1 hfetch
    obtain ⟨shared, -, rfl⟩ := Option.map_eq_some_iff.1 hsource
    exact (lands_fetch shared job v).mono (fun _ => hv.trans) fun _ => hv.explains

omit [Quantity τ] in
/-- Where no log is read, calls and notices are all that a reader leaves on the stage. -/
theorem contained_recorded (w : Stage τ) :
    Contained (Stage.environment interval none) w.Recorded fun f => f.isOrdinary = true where
  tick _ := id
  note _ v hv := hv.trans ⟨v.calls, _, rfl⟩
  increase m _ _ := Stage.confined_measure m _
    (fun v hv => hv.trans (Stage.recorded_record _ v)) fun _ => id
  observe m _ _ := Stage.confined_measure m _
    (fun v hv => hv.trans (Stage.recorded_record _ v)) fun _ => id
  fetch _ hfetch := nomatch hfetch

/-- A dispatch leaves the queue as it is and lets the rehearsal proceed, unless a script demands the
end of the process or the item lets something escape. -/
theorem dispatchSafely_cases (i : Item) (r : Reader τ (Stage τ)) :
    (∃ s, dispatchSafely (scripted interval shared?) i r = .ok () s ∧ s.queue = r.queue ∧
        r.world.Proceeds s.world) ∨
      ∃ f s, dispatchSafely (scripted interval shared?) i r = .error f s ∧
        ((f.isOrdinary = false ∧ ∃ script ∈ r.world.scripts, script.Raises f) ∨
          i.escape? = some f) := by
  have hlands := (contained_scripts interval shared? r.world).dispatchSafely i r (.refl _)
  have hqueue := (steps_queue (scripted interval shared?)).dispatchSafely i r
  rcases hlands.exists_result with ⟨_, s, hrun, hs⟩ | ⟨f, s, hrun, -, ⟨hexplains, hf⟩ | hescape⟩
  · rw [after_of_ok hrun] at hqueue
    exact .inl ⟨s, hrun, hqueue, hs⟩
  · rcases hexplains with hordinary | hraises
    · exact absurd (hordinary.symm.trans hf) (by simp)
    · exact .inr ⟨f, s, hrun, .inl ⟨hf, hraises⟩⟩
  · exact .inr ⟨f, s, hrun, .inr hescape⟩

/-- An accrual does not fail, and it leaves the queue and the stage as they are. -/
theorem accrueSafely_recorded (r : Reader τ (Stage τ)) :
    ∃ s, accrueSafely (scripted interval shared?) r = .ok () s ∧ s.queue = r.queue ∧
      r.world.Recorded s.world := by
  -- An accrual reads no log, so it does not matter where logs come from.
  have hnone : accrueSafely (scripted interval shared?) =
    accrueSafely (Stage.environment interval none) := rfl
  have hlands := (contained_recorded interval r.world).accrueSafely r (.refl _)
  have hqueue := (steps_queue (scripted interval shared?)).accrueSafely r
  rw [← hnone] at hlands
  rcases hlands.exists_result with ⟨_, s, hrun, hs⟩ | ⟨f, s, hrun, hs, hordinary, hf⟩
  · rw [after_of_ok hrun] at hqueue
    exact ⟨s, hrun, hqueue, hs⟩
  · rw [hordinary] at hf
    cases hf

end Reader

end JobMeter.Rehearsal
