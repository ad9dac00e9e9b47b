import JobMeter.Log.Summary
import Mathlib.Data.List.Basic

/-!
# The last of each kind

A log is read line by line, and what it says of a job is set again and again.  In the end the last
line of each kind has been right.

* `dated?`, `entries` — what a valid line says, and what the valid lines of a log say.
* `FirstReport m d` — the first exit code that the message `m` reports is `d`; it is what
  `exitDigit?` searches for (`exitDigit?_eq_some`).
* `lastOf`, `lastInstant`, `LastReport` — the last valid line of a kind, its instant, and the exit
  code of the last error that reports one.
* `Progress.take_eq` — what a valid line overwrites.
* `get_foldl` — what is overwritten again and again ends with the last that was written.
* `summarize_lasts` — **a summary is made of the last line of each kind**, so neither lines that are
  not valid nor the order of lines of different kinds matter to it.
-/

namespace JobMeter.Log

open JobMeter.Text

/-! ## Valid lines -/

/-- What a valid line says, and when. -/
structure Entry where
  instant : Instant
  message : List Char
  deriving DecidableEq, Repr

/-- What a line says, if it is valid: it has the form of lines that count, and its timestamp names
an instant. -/
def dated? (line : List Char) : Option Entry :=
  (Line.parse? line).bind fun l => (instant? l.date l.fraction).map fun i => ⟨i, l.message⟩

/-- What the valid lines of a log say. -/
def entries (lines : List (List Char)) : List Entry := lines.filterMap dated?

/-- The kind of a line, if it is valid. -/
def kind? (line : List Char) : Option Kind := (dated? line).map fun e => Kind.ofMessage e.message

/-- Takes in what a valid line says. -/
def Progress.take (p : Progress) (e : Entry) : Progress := p.note e.instant e.message

/-- A line is taken in as what it says, if it is valid. -/
theorem Progress.step_eq (p : Progress) (line : List Char) :
    p.step line = (dated? line).elim p p.take := by
  rw [step, dated?]
  cases hline : Line.parse? line with
  | none => rfl
  | some l =>
    simp only [Option.bind_some]
    cases instant? l.date l.fraction with
    | none => rfl
    | some i => rfl

/-- Only the valid lines of a log are taken in. -/
theorem foldl_step (p : Progress) (lines : List (List Char)) :
    lines.foldl Progress.step p = (entries lines).foldl Progress.take p := by
  induction lines generalizing p with
  | nil => rfl
  | cons line lines ih =>
    rw [List.foldl_cons, Progress.step_eq, ih, entries, entries, List.filterMap_cons]
    cases dated? line with
    | none => rfl
    | some e => rfl

/-! ## Kinds of messages -/

namespace Kind

/-- How the messages of a kind start. -/
def Says (m : List Char) : Kind → Prop
  | error => errorLead <+: m
  | queued => queuedLead <+: m
  | started => startedLead <+: m
  | ordinary => ¬ errorLead <+: m ∧ ¬ queuedLead <+: m ∧ ¬ startedLead <+: m

/-- Two starts of which neither is the start of the other do not start the same message. -/
theorem starts_apart {a b m : List Char} (hab : ¬ a <+: b) (hba : ¬ b <+: a)
    (ha : a <+: m) : ¬ b <+: m := by
  intro hb
  rcases List.prefix_or_prefix_of_prefix ha hb with h | h
  · exact hab h
  · exact hba h

/-- The kind of a message is the one whose messages start like it. -/
theorem ofMessage_eq {m : List Char} {k : Kind} : ofMessage m = k ↔ k.Says m := by
  have herror : errorLead <+: m → ¬ queuedLead <+: m ∧ ¬ startedLead <+: m := fun h =>
    ⟨starts_apart (by decide) (by decide) h,
      starts_apart (by decide) (by decide) h⟩
  have hqueued : queuedLead <+: m → ¬ startedLead <+: m :=
    starts_apart (by decide) (by decide)
  simp only [ofMessage, List.isPrefixOf_iff_prefix]
  by_cases he : errorLead <+: m
  · cases k <;> simp [Says, he, herror he]
  · by_cases hq : queuedLead <+: m
    · cases k <;> simp [Says, he, hq, hqueued hq]
    · by_cases hs : startedLead <+: m <;> cases k <;> simp [Says, he, hq, hs]

instance (m : List Char) (k : Kind) : Decidable (k.Says m) :=
  decidable_of_iff _ ofMessage_eq

end Kind

/-! ## Exit codes -/

/-- The report of an exit code of one digit. -/
def exitReport (d : Char) : List Char := exitLead ++ [d, '.']

/-- The message reports the exit code behind `before`. -/
def ReportsAt (m before : List Char) (d : Char) : Prop :=
  isDecimal d ∧ before ++ exitReport d <+: m

/-- The first exit code that a message reports. -/
def FirstReport (m : List Char) (d : Char) : Prop :=
  ∃ before, ReportsAt m before d ∧
    ∀ before' d', ReportsAt m before' d' → before.length ≤ before'.length

theorem exitDigitHere?_eq_some {cs : List Char} {d : Char} :
    exitDigitHere? cs = some d ↔ ReportsAt cs [] d := by
  rw [exitDigitHere?, ReportsAt, List.nil_append, exitReport]
  constructor
  · intro h
    split at h
    · rename_i hlead
      obtain ⟨rest, rfl⟩ := List.isPrefixOf_iff_prefix.1 hlead
      rw [List.drop_left] at h
      split at h
      · rename_i c tail
        split at h
        · rename_i hc
          obtain rfl : c = d := Option.some.inj h
          exact ⟨hc, tail, by simp⟩
        · cases h
      · cases h
    · cases h
  · rintro ⟨hd, rest, rfl⟩
    rw [List.append_assoc, if_pos (List.isPrefixOf_iff_prefix.2 (List.prefix_append _ _)),
      List.drop_left]
    exact if_pos hd

theorem reportsAt_cons {b c d : Char} {cs before : List Char} :
    ReportsAt (c :: cs) (b :: before) d ↔ b = c ∧ ReportsAt cs before d := by
  rw [ReportsAt, ReportsAt, List.cons_append, List.cons_prefix_cons, and_left_comm]

theorem not_reportsAt_nil {before : List Char} {d : Char} : ¬ ReportsAt [] before d := by
  rintro ⟨-, h⟩
  have hlength := h.length_le
  rw [exitReport, List.length_append, List.length_append] at hlength
  exact absurd hlength (by simp)

/-- Where no report starts, the first report is the first one of the rest. -/
theorem firstReport_cons {c d : Char} {cs : List Char} (h : ∀ d', ¬ ReportsAt (c :: cs) [] d') :
    FirstReport (c :: cs) d ↔ FirstReport cs d := by
  constructor
  · rintro ⟨before, hreports, hfirst⟩
    cases before with
    | nil => exact absurd hreports (h d)
    | cons b before =>
      obtain ⟨rfl, hrest⟩ := reportsAt_cons.1 hreports
      exact ⟨before, hrest, fun before' d' h' =>
        Nat.le_of_succ_le_succ (hfirst (b :: before') d' (reportsAt_cons.2 ⟨rfl, h'⟩))⟩
  · rintro ⟨before, hreports, hfirst⟩
    refine ⟨c :: before, reportsAt_cons.2 ⟨rfl, hreports⟩, fun before' d' h' => ?_⟩
    cases before' with
    | nil => exact absurd h' (h d')
    | cons b before' => exact Nat.succ_le_succ (hfirst before' d' (reportsAt_cons.1 h').2)

/-- **The search for an exit code finds the first report.** -/
theorem exitDigit?_eq_some {m : List Char} {d : Char} :
    exitDigit? m = some d ↔ FirstReport m d := by
  induction m with
  | nil =>
    constructor
    · intro h
      cases h
    · rintro ⟨before, h, -⟩
      exact absurd h not_reportsAt_nil
  | cons c cs ih =>
    rw [exitDigit?]
    split
    · rename_i d' hhere
      have hreports := exitDigitHere?_eq_some.1 hhere
      constructor
      · intro h
        obtain rfl : d' = d := Option.some.inj h
        exact ⟨[], hreports, fun _ _ _ => Nat.zero_le _⟩
      · rintro ⟨before, h, hfirst⟩
        obtain rfl : before = [] := List.length_eq_zero_iff.1 (Nat.le_zero.1 (hfirst [] d' hreports))
        rw [← hhere, exitDigitHere?_eq_some.2 h]
    · rename_i hhere
      refine ih.trans (firstReport_cons fun d' h' => ?_).symm
      rw [exitDigitHere?_eq_some.2 h'] at hhere
      cases hhere

/-! ## The last line of each kind -/

/-- What the valid lines of a kind say. -/
def entriesOf (k : Kind) (lines : List (List Char)) : List Entry :=
  (entries lines).filter fun e => k.Says e.message

/-- What the last valid line of a kind says. -/
def lastOf (k : Kind) (lines : List (List Char)) : Option Entry := (entriesOf k lines).getLast?

/-- The instant of the last valid line of a kind, and the start of the year 1 if there is none. -/
def lastInstant (k : Kind) (lines : List (List Char)) : Instant :=
  (lastOf k lines).elim 0 Entry.instant

/-- Of the valid error lines that report an exit code the last one reports `d` first. -/
def LastReport (lines : List (List Char)) (d : Char) : Prop :=
  ∃ before e after, entries lines = before ++ e :: after ∧
    errorLead <+: e.message ∧ FirstReport e.message d ∧
    ∀ e' ∈ after, errorLead <+: e'.message → ∀ d', ¬ FirstReport e'.message d'

/-- What is overwritten by some of the steps ends as the last of these leaves it. -/
theorem get_foldl {σ α γ : Type} {step : σ → α → σ} {get : σ → γ} {writes : α → Bool} {f : α → γ}
    (h : ∀ s a, get (step s a) = if writes a then f a else get s) (s : σ) (as : List α) :
    get (as.foldl step s) = ((as.filter writes).getLast?).elim (get s) f := by
  induction as generalizing s with
  | nil => rfl
  | cons a as ih =>
    rw [List.foldl_cons, ih, h, List.filter_cons]
    split
    · rw [List.getLast?_cons]
      cases (as.filter writes).getLast? <;> rfl
    · rfl

/-- The last of the items with a property has no such item behind it. -/
theorem getLast?_filter_eq_some {α : Type} {p : α → Bool} {as : List α} {a : α} :
    (as.filter p).getLast? = some a ↔
      ∃ before after, as = before ++ a :: after ∧ p a ∧ ∀ a' ∈ after, ¬ p a' := by
  rw [List.getLast?_eq_some_iff]
  constructor
  · rintro ⟨kept, hkept⟩
    obtain ⟨before, rest, rfl, -, hrest⟩ := List.filter_eq_append_iff.1 hkept
    obtain ⟨skipped, after, rfl, hskipped, ha, hafter⟩ := List.filter_eq_cons_iff.1 hrest
    exact ⟨before ++ skipped, after, by simp, ha, List.filter_eq_nil_iff.1 hafter⟩
  · rintro ⟨before, after, rfl, ha, hafter⟩
    exact ⟨before.filter p, by
      rw [List.filter_append, List.filter_cons_of_pos ha, List.filter_eq_nil_iff.2 hafter]⟩

theorem lastOf_eq_some {k : Kind} {lines : List (List Char)} {e : Entry} :
    lastOf k lines = some e ↔ ∃ before after, entries lines = before ++ e :: after ∧
      k.Says e.message ∧ ∀ e' ∈ after, ¬ k.Says e'.message := by
  rw [lastOf, entriesOf, getLast?_filter_eq_some]
  simp only [decide_eq_true_eq]

/-- A line overwrites what the lines of its kind set; of errors only those with an exit code do. -/
theorem Progress.take_eq (p : Progress) (e : Entry) : p.take e =
    { exitCode :=
        if (exitDigit? e.message).isSome && decide (Kind.error.Says e.message) then
          exitDigit? e.message
        else p.exitCode
      queued := if Kind.queued.Says e.message then e.instant else p.queued
      started := if Kind.started.Says e.message then e.instant else p.started
      completed := if Kind.ordinary.Says e.message then e.instant else p.completed } := by
  simp only [← Kind.ofMessage_eq]
  rw [take, note]
  cases Kind.ofMessage e.message with
  | error => cases exitDigit? e.message <;> simp
  | _ => simp

/-- A field that is set to the instants of the valid lines of a kind ends with the last of them. -/
theorem instant_of_take {get : Progress → Instant} {k : Kind}
    (h : ∀ p e, get (p.take e) = if k.Says e.message then e.instant else get p)
    (hzero : get {} = 0) (lines : List (List Char)) :
    get (lines.foldl Progress.step {}) = lastInstant k lines := by
  have hstep (p : Progress) (e : Entry) : get (p.take e) =
      if decide (k.Says e.message) then e.instant else get p := by
    rw [h]
    simp only [decide_eq_true_eq]
  have hfold := get_foldl hstep {} (entries lines)
  rw [hzero, ← foldl_step] at hfold
  exact hfold

theorem queued_foldl (lines : List (List Char)) :
    (lines.foldl Progress.step {}).queued = lastInstant .queued lines :=
  instant_of_take (fun p e => by rw [Progress.take_eq]) rfl lines

theorem started_foldl (lines : List (List Char)) :
    (lines.foldl Progress.step {}).started = lastInstant .started lines :=
  instant_of_take (fun p e => by rw [Progress.take_eq]) rfl lines

theorem completed_foldl (lines : List (List Char)) :
    (lines.foldl Progress.step {}).completed = lastInstant .ordinary lines :=
  instant_of_take (fun p e => by rw [Progress.take_eq]) rfl lines

theorem queueTime_summarize (lines : List (List Char)) :
    (summarize lines).queueTime =
      (lastInstant .started lines : Int) - lastInstant .queued lines := by
  rw [← started_foldl, ← queued_foldl]
  rfl

theorem runTime_summarize (lines : List (List Char)) :
    (summarize lines).runTime =
      (lastInstant .ordinary lines : Int) - lastInstant .started lines := by
  rw [← completed_foldl, ← started_foldl]
  rfl

/-- The exit code of a log is the one that the last error with an exit code reports. -/
theorem exitCode_summarize (lines : List (List Char)) :
    (summarize lines).exitCode =
      (((entriesOf .error lines).filter fun e => (exitDigit? e.message).isSome).getLast?).elim
        none fun e => exitDigit? e.message := by
  have hstep (p : Progress) (e : Entry) : (p.take e).exitCode =
      if (exitDigit? e.message).isSome && decide (Kind.error.Says e.message) then
        exitDigit? e.message
      else p.exitCode := by
    rw [Progress.take_eq]
  have hfold := get_foldl hstep {} (entries lines)
  rw [← foldl_step] at hfold
  rw [entriesOf, List.filter_filter]
  exact hfold

theorem exitCode_eq_some {lines : List (List Char)} {d : Char} :
    (summarize lines).exitCode = some d ↔ LastReport lines d := by
  have hreports (e : Entry) :
      ((exitDigit? e.message).isSome && decide (Kind.error.Says e.message)) = true ↔
        errorLead <+: e.message ∧ ∃ d, FirstReport e.message d := by
    rw [Bool.and_eq_true, decide_eq_true_eq, and_comm, Option.isSome_iff_exists]
    simp only [exitDigit?_eq_some, Kind.Says]
  rw [exitCode_summarize, entriesOf, List.filter_filter]
  constructor
  · intro h
    cases hlast : ((entries lines).filter fun e =>
        (exitDigit? e.message).isSome && decide (Kind.error.Says e.message)).getLast? with
    | none =>
      rw [hlast] at h
      cases h
    | some e =>
      rw [hlast, Option.elim_some, exitDigit?_eq_some] at h
      obtain ⟨before, after, hentries, he, hafter⟩ := getLast?_filter_eq_some.1 hlast
      refine ⟨before, e, after, hentries, ((hreports e).1 he).1, h, fun e' he' herror d' h' => ?_⟩
      exact hafter e' he' ((hreports e').2 ⟨herror, d', h'⟩)
  · rintro ⟨before, e, after, hentries, herror, hfirst, hafter⟩
    have hlast : ((entries lines).filter fun e =>
        (exitDigit? e.message).isSome && decide (Kind.error.Says e.message)).getLast? = some e := by
      refine getLast?_filter_eq_some.2
        ⟨before, after, hentries, (hreports e).2 ⟨herror, d, hfirst⟩, fun e' he' h' => ?_⟩
      obtain ⟨herror', d', hfirst'⟩ := (hreports e').1 h'
      exact hafter e' he' herror' d' hfirst'
    rw [hlast]
    exact exitDigit?_eq_some.2 hfirst

/-! ## What a summary depends on -/

/-- A summary is found in what the lines of each kind say. -/
theorem summarize_congr {lines lines' : List (List Char)}
    (h : ∀ k, entriesOf k lines' = entriesOf k lines) : summarize lines' = summarize lines := by
  have hexit : (summarize lines').exitCode = (summarize lines).exitCode := by
    rw [exitCode_summarize, exitCode_summarize, h]
  have hqueue : (summarize lines').queueTime = (summarize lines).queueTime := by
    simp only [queueTime_summarize, lastInstant, lastOf, h]
  have hrun : (summarize lines').runTime = (summarize lines).runTime := by
    simp only [runTime_summarize, lastInstant, lastOf, h]
  calc summarize lines' = ⟨(summarize lines').exitCode, (summarize lines').queueTime,
        (summarize lines').runTime⟩ := rfl
    _ = ⟨(summarize lines).exitCode, (summarize lines).queueTime,
        (summarize lines).runTime⟩ := by rw [hexit, hqueue, hrun]
    _ = summarize lines := rfl

/-- What the lines of a kind say is said by these lines alone. -/
theorem entriesOf_eq (k : Kind) (lines : List (List Char)) :
    entriesOf k lines = (lines.filter fun l => kind? l = some k).filterMap dated? := by
  induction lines with
  | nil => rfl
  | cons l lines ih =>
    rw [entriesOf, entries] at ih ⊢
    cases hentry : dated? l with
    | none =>
      have hkind : kind? l ≠ some k := by
        rw [kind?, hentry]
        exact nofun
      rw [List.filterMap_cons_none hentry, ih, List.filter_cons_of_neg (by simpa using hkind)]
    | some e =>
      have hkind : kind? l = some k ↔ k.Says e.message := by
        rw [kind?, hentry, Option.map_some, Option.some.injEq, Kind.ofMessage_eq]
      rw [List.filterMap_cons_some hentry]
      by_cases hsaid : k.Says e.message
      · rw [List.filter_cons_of_pos (by simpa using hsaid), ih,
          List.filter_cons_of_pos (by simpa using hkind.2 hsaid), List.filterMap_cons_some hentry]
      · rw [List.filter_cons_of_neg (by simpa using hsaid), ih,
          List.filter_cons_of_neg (by simpa using fun h => hsaid (hkind.1 h))]

/-- **The last of each kind.**  The instants that a log is summed up from are those of its last
valid line of each kind, and its exit code is the one that the last error with an exit code reports
first.

* The queue time goes from the last line that a job was queued to the last line that it was started,
  and the run time from there to the last ordinary line; what no valid line says has happened at the
  start of the year 1.
* The exit code is `null` if no valid error line reports one.
* Lines that are not valid do not matter, wherever they stand, and neither does the order in which
  lines of different kinds stand to each other. -/
theorem summarize_lasts (lines : List (List Char)) :
    (summarize lines).queueTime = (lastInstant .started lines : Int) - lastInstant .queued lines ∧
    (summarize lines).runTime = (lastInstant .ordinary lines : Int) - lastInstant .started lines ∧
    (∀ d, LastReport lines d → (summarize lines).exitText = String.singleton d) ∧
    ((∀ d, ¬ LastReport lines d) → (summarize lines).exitText = "null") ∧
    (∀ before invalid after, lines = before ++ invalid ++ after →
      (∀ l ∈ invalid, dated? l = none) → summarize (before ++ after) = summarize lines) ∧
    ∀ lines' : List (List Char), (∀ k, (lines'.filter fun l => kind? l = some k) =
      lines.filter fun l => kind? l = some k) → summarize lines' = summarize lines := by
  refine ⟨queueTime_summarize lines, runTime_summarize lines, ?_, ?_, ?_, ?_⟩
  · intro d hd
    rw [Summary.exitText, exitCode_eq_some.2 hd]
  · intro hnone
    cases hcode : (summarize lines).exitCode with
    | none => rw [Summary.exitText, hcode, noExitCode]
    | some d => exact absurd (exitCode_eq_some.1 hcode) (hnone d)
  · rintro before invalid after rfl hinvalid
    have hentries : entries invalid = [] := List.filterMap_eq_nil_iff.2 hinvalid
    refine summarize_congr fun k => ?_
    rw [entries] at hentries
    rw [entriesOf, entriesOf, entries, entries, List.filterMap_append, List.filterMap_append,
      List.filterMap_append, hentries, List.append_nil]
  · intro lines' hlines
    refine summarize_congr fun k => ?_
    rw [entriesOf_eq, entriesOf_eq, hlines k]

/-- A log with a line of the 30th of February and with an error behind the one that reports an exit
code, and the same log in another order. -/
theorem summarize_lasts_reordered :
    let ordinary := "2024-02-29T10:00:00.5Z done".toList
    let invalid := "2024-02-30T10:00:01.5Z done".toList
    let failed := "2024-02-29T10:00:09.0Z ##[error]Process completed with exit code 7.".toList
    let silent := "2024-02-29T10:00:10.0Z ##[error]late".toList
    (summarize [ordinary, invalid, failed, silent]).runTime = 63844797600500000 ∧
      (summarize [ordinary, invalid, failed, silent]).exitText = "7" ∧
      (summarize [invalid]).exitText = "null" ∧
      summarize [ordinary, failed, silent] = summarize [ordinary, invalid, failed, silent] ∧
      summarize [failed, ordinary, silent] = summarize [ordinary, invalid, failed, silent] := by
  intro ordinary invalid failed silent
  obtain ⟨o, hordinary, ho⟩ : ∃ o, dated? ordinary = some ⟨63844797600500000, o⟩ ∧
      Kind.ofMessage o = .ordinary := ⟨"done".toList, by decide +kernel, by decide +kernel⟩
  obtain ⟨f, hfailed, hf, hfirst⟩ : ∃ f, dated? failed = some ⟨63844797609000000, f⟩ ∧
      Kind.ofMessage f = .error ∧ exitDigit? f = some '7' :=
    ⟨"##[error]Process completed with exit code 7.".toList, by decide +kernel, by decide +kernel,
      by decide +kernel⟩
  obtain ⟨s, hsilent, hs, hno⟩ : ∃ s, dated? silent = some ⟨63844797610000000, s⟩ ∧
      Kind.ofMessage s = .error ∧ exitDigit? s = none :=
    ⟨"##[error]late".toList, by decide +kernel, by decide +kernel, by decide +kernel⟩
  have hinvalid : dated? invalid = none := by decide +kernel
  have hentries : entries [ordinary, invalid, failed, silent] =
      [⟨63844797600500000, o⟩, ⟨63844797609000000, f⟩, ⟨63844797610000000, s⟩] := by
    simp only [entries, List.filterMap_cons, List.filterMap_nil, hordinary, hinvalid, hfailed,
      hsilent]
  obtain ⟨-, hrun, hreport, -, hwithout, hreordered⟩ :=
    summarize_lasts [ordinary, invalid, failed, silent]
  refine ⟨hrun.trans ?_, hreport '7' ?_, (summarize_lasts [invalid]).2.2.2.1 ?_, ?_, ?_⟩
  · simp [lastInstant, lastOf, entriesOf, hentries, ← Kind.ofMessage_eq, ho, hf, hs]
  · rw [← exitCode_eq_some, exitCode_summarize, entriesOf, hentries]
    simp [← Kind.ofMessage_eq, ho, hf, hs, hfirst, hno]
  · rintro d ⟨before, e, after, h, -⟩
    rw [entries, List.filterMap_cons_none hinvalid] at h
    cases before <;> cases h
  · exact hwithout [ordinary] [invalid] [failed, silent] rfl (by simpa using hinvalid)
  · refine hreordered [failed, ordinary, silent] fun k => ?_
    cases k <;> simp [kind?, hordinary, hinvalid, hfailed, hsilent, ho, hf, hs]

end JobMeter.Log
