import JobMeter.Proofs.Log.Lasts
import JobMeter.Proofs.Text.Padded

/-!
# Which exit codes a log can tell

The message of a failed process ends with its exit code and a full stop.  A summary tells the exit
code of such a message only if its numeral has one digit: a longer one is passed over as if its
line were not there.

* `exitMessage n` — the message that a process ended with the exit code `n`.
* `reportsAt_exitMessage` — it reports `n` if `n` is less than 10, and nothing otherwise.
* `exitCode_append` — of two parts of a log the second one decides, unless it reports nothing.
* `exitText_of_exit_line` — **a summary tells exit codes of one digit**.
-/

namespace JobMeter.Log

open JobMeter.Text

/-- The message that a process ended with an exit code. -/
def exitMessage (n : Nat) : List Char := exitLead ++ ((toString n).toList ++ ['.'])

/-! ## What the message reports -/

theorem toList_toString (n : Nat) : (toString n).toList = Nat.toDigits 10 n := by
  rw [Nat.toString_eq_repr, Nat.toList_repr]

/-- A report starts with the sign of an error, twice. -/
theorem mem_of_reportsAt {m before : List Char} {d : Char} (h : ReportsAt m before d) :
    '#' ∈ m.drop (before.length + 1) := by
  obtain ⟨-, rest, rfl⟩ := h
  have hlead : exitLead = '#' :: '#' :: exitLead.drop 2 := by decide
  rw [List.append_assoc, ← List.drop_drop, List.drop_left, exitReport, hlead]
  simp

/-- The sign does not stand behind the start of the message. -/
theorem not_mem_drop_exitMessage (n : Nat) : '#' ∉ (exitMessage n).drop 2 := by
  intro h
  rw [exitMessage, List.drop_append_of_le_length (by decide)] at h
  rcases List.mem_append.1 h with hlead | h
  · exact absurd hlead (by decide)
  · rcases List.mem_append.1 h with hnumeral | hstop
    · rw [toList_toString] at hnumeral
      exact absurd (Nat.isDigit_of_mem_toDigits (by decide) (by decide) hnumeral) (by decide)
    · exact absurd hstop (by decide)

/-- A numeral with a full stop starts with a digit and a full stop if it has one digit. -/
theorem prefix_numeral {n : Nat} {d : Char} (h : [d, '.'] <+: Nat.toDigits 10 n ++ ['.']) :
    n < 10 ∧ d = Nat.digitChar n := by
  have hdigit {c : Char} (hc : c ∈ Nat.toDigits 10 n) : c.isDigit = true :=
    Nat.isDigit_of_mem_toDigits (by decide) (by decide) hc
  cases hds : Nat.toDigits 10 n with
  | nil => exact absurd hds Nat.toDigits_ne_nil
  | cons c ds =>
    rw [hds, List.cons_append, List.cons_prefix_cons] at h
    cases ds with
    | nil =>
      have hlength : (Nat.toDigits 10 n).length ≤ 1 := by simp [hds]
      have hn : n < 10 := (Nat.length_toDigits_le_iff (by decide) Nat.one_pos).1 hlength
      rw [Nat.toDigits_of_lt_base hn, List.cons.injEq] at hds
      exact ⟨hn, h.1.trans hds.1.symm⟩
    | cons c' ds =>
      obtain rfl : '.' = c' := (List.cons_prefix_cons.1 h.2).1
      have hstop : '.' ∈ Nat.toDigits 10 n := by simp [hds]
      exact absurd (hdigit hstop) (by decide)

/-- The message reports a code of one digit at its start, and nothing else. -/
theorem reportsAt_exitMessage {n : Nat} {before : List Char} {d : Char} :
    ReportsAt (exitMessage n) before d ↔ before = [] ∧ n < 10 ∧ d = Nat.digitChar n := by
  constructor
  · intro h
    cases before with
    | nil =>
      obtain ⟨-, hprefix⟩ := h
      rw [exitMessage, exitReport, List.nil_append, List.prefix_append_right_inj,
        toList_toString] at hprefix
      exact ⟨rfl, prefix_numeral hprefix⟩
    | cons c before =>
      have hmem := mem_of_reportsAt h
      rw [List.length_cons, Nat.add_assoc, Nat.add_comm, ← List.drop_drop] at hmem
      exact absurd (List.mem_of_mem_drop hmem) (not_mem_drop_exitMessage n)
  · rintro ⟨rfl, hn, rfl⟩
    refine ⟨isDecimal_of_isAsciiDigit (isAsciiDigit_iff.2 ⟨n, hn, rfl⟩), ?_⟩
    rw [exitMessage, toList_toString, Nat.toDigits_of_lt_base hn, exitReport]
    exact List.prefix_rfl

theorem exitDigit?_exitMessage (n : Nat) :
    exitDigit? (exitMessage n) = if n < 10 then some (Nat.digitChar n) else none := by
  split
  · rename_i hn
    exact exitDigit?_eq_some.2 ⟨[], reportsAt_exitMessage.2 ⟨rfl, hn, rfl⟩,
      fun _ _ _ => Nat.zero_le _⟩
  · rename_i hn
    refine Option.eq_none_iff_forall_ne_some.2 fun d h => ?_
    obtain ⟨before, hreports, -⟩ := exitDigit?_eq_some.1 h
    exact hn (reportsAt_exitMessage.1 hreports).2.1

/-- The message is one of an error. -/
theorem error_of_exitMessage {m : List Char} {n : Nat} (h : m = exitMessage n) :
    errorLead <+: m := by
  rw [h, exitMessage]
  exact (show errorLead <+: exitLead by decide).trans (List.prefix_append _ _)

/-! ## The exit code of a log -/

/-- Of two parts of a log the second one decides, unless it reports nothing. -/
theorem exitCode_append (before after : List (List Char)) :
    (summarize (before ++ after)).exitCode =
      (summarize after).exitCode.or (summarize before).exitCode := by
  simp only [exitCode_summarize, entriesOf, entries, List.filterMap_append, List.filter_append,
    List.getLast?_append]
  cases hlast : (((after.filterMap dated?).filter fun e => Kind.error.Says e.message).filter
    fun e => (exitDigit? e.message).isSome).getLast? with
  | none => rfl
  | some e =>
    have he : (exitDigit? e.message).isSome = true :=
      (List.mem_filter.1 (List.mem_of_getLast? hlast)).2
    rw [Option.some_or, Option.elim_some, Option.or_of_isSome he]

/-- The line of an exit code tells it if it has one digit. -/
theorem exitCode_of_exit_line {line : List Char} {e : Entry} {n : Nat}
    (hline : dated? line = some e) (hmessage : e.message = exitMessage n) :
    (summarize [line]).exitCode = if n < 10 then some (Nat.digitChar n) else none := by
  have hsays : Kind.error.Says e.message := error_of_exitMessage hmessage
  have hentries : entriesOf .error [line] = [e] := by
    simp [entriesOf, entries, hline, hsays]
  rw [exitCode_summarize, hentries, ← exitDigit?_exitMessage, ← hmessage]
  cases hdigit : exitDigit? e.message <;> simp [hdigit]

theorem exitText_eq_null {s : Summary} : s.exitText = "null" ↔ s.exitCode = none := by
  rw [Summary.exitText]
  cases s.exitCode with
  | none => simp [noExitCode]
  | some d =>
    have hne : String.singleton d ≠ "null" := by
      intro h
      have := congrArg String.toList h
      simp at this
    simp [hne]

/-- An exit code as a text has one digit. -/
theorem lt_of_exitText {s : Summary} {n : Nat} (h : s.exitText = toString n) : n < 10 := by
  have hlist := congrArg String.toList h
  rw [toList_toString, Summary.exitText] at hlist
  cases hcode : s.exitCode with
  | none =>
    rw [hcode] at hlist
    have hmem : 'n' ∈ Nat.toDigits 10 n := by
      rw [← hlist]
      decide
    exact absurd (Nat.isDigit_of_mem_toDigits (by decide) (by decide) hmem) (by decide)
  | some d =>
    rw [hcode] at hlist
    have hlength : (Nat.toDigits 10 n).length ≤ 1 := by simp [← hlist]
    exact (Nat.length_toDigits_le_iff (by decide) Nat.one_pos).1 hlength

/-- A log has no exit code if none of its valid error lines reports one. -/
theorem exitCode_eq_none {lines : List (List Char)} :
    (summarize lines).exitCode = none ↔
      ∀ e ∈ entries lines, errorLead <+: e.message → ∀ d, ¬ FirstReport e.message d := by
  constructor
  · intro hnone e he herror d hreport
    have hfilter : e ∈ (entriesOf .error lines).filter fun e => (exitDigit? e.message).isSome := by
      rw [entriesOf]
      simp [he, Kind.Says, herror, exitDigit?_eq_some.2 hreport]
    cases hlast : ((entriesOf .error lines).filter fun e =>
        (exitDigit? e.message).isSome).getLast? with
    | none =>
      rw [List.getLast?_eq_none_iff.1 hlast] at hfilter
      exact absurd hfilter List.not_mem_nil
    | some last =>
      have hlast' := (List.mem_filter.1 (List.mem_of_getLast? hlast)).2
      rw [exitCode_summarize, hlast, Option.elim_some] at hnone
      rw [hnone] at hlast'
      cases hlast'
  · intro h
    refine Option.eq_none_iff_forall_ne_some.2 fun d hd => ?_
    obtain ⟨before, e, after, hentries, herror, hreport, -⟩ := exitCode_eq_some.1 hd
    exact h e (by simp [hentries]) herror d hreport

/-- **A summary tells exit codes of one digit.**  Let a log have the line of a process that ended
with the exit code `n`.

* If no line behind it reports an exit code, the summary tells `n` exactly if `n` is less than 10.
  Otherwise it is summed up as if the line were not there.
* If a line behind it reports an exit code, the lines behind it decide.
* The lines behind it report none exactly if there is no valid error line among them with a report
  of one digit in its message.
* The summary tells no exit code at all only if `n` is greater than 9. -/
theorem exitText_of_exit_line (before after : List (List Char)) {line : List Char} {e : Entry}
    {n : Nat} (hline : dated? line = some e) (hmessage : e.message = exitMessage n) :
    let lines := before ++ line :: after
    ((summarize after).exitText = "null" → ((summarize lines).exitText = toString n ↔ n < 10)) ∧
    ((summarize after).exitText = "null" → 10 ≤ n →
      (summarize lines).exitText = (summarize before).exitText) ∧
    ((summarize after).exitText ≠ "null" →
      (summarize lines).exitText = (summarize after).exitText) ∧
    ((summarize after).exitText = "null" ↔
      ∀ e ∈ entries after, errorLead <+: e.message → ∀ d, ¬ FirstReport e.message d) ∧
    ((summarize lines).exitText = "null" → 10 ≤ n) := by
  intro lines
  have hcode : (summarize lines).exitCode =
      ((summarize after).exitCode.or (if n < 10 then some (Nat.digitChar n) else none)).or
        (summarize before).exitCode := by
    rw [show lines = before ++ ([line] ++ after) from rfl, exitCode_append, exitCode_append,
      exitCode_of_exit_line hline hmessage]
  refine ⟨fun hafter => ⟨lt_of_exitText, fun hn => ?_⟩, fun hafter hn => ?_, fun hafter => ?_,
    exitText_eq_null.trans exitCode_eq_none, fun hnull => ?_⟩
  · rw [Summary.exitText, hcode, exitText_eq_null.1 hafter, if_pos hn]
    apply String.toList_injective
    simp [Nat.toDigits_of_lt_base hn]
  · rw [Summary.exitText, hcode, exitText_eq_null.1 hafter, if_neg hn.not_gt]
    rfl
  · obtain ⟨d, hd⟩ := Option.ne_none_iff_exists'.1 (mt exitText_eq_null.2 hafter)
    simp [Summary.exitText, hcode, hd]
  · by_contra hlt
    rw [exitText_eq_null, hcode, if_pos (by omega)] at hnull
    simp at hnull

/-- A process ends with 7 and one behind it with 127, of which only the first one is told. -/
theorem exitText_of_exit_line_twice :
    let seven := "2024-05-01T10:01:00.0Z ##[error]Process completed with exit code 7.".toList
    let longer := "2024-05-01T10:02:00.0Z ##[error]Process completed with exit code 127.".toList
    (summarize [seven, longer]).exitText = "7" ∧
      (summarize [seven, longer]).exitText = (summarize [seven]).exitText ∧
      (summarize [longer, seven]).exitText = (summarize [seven]).exitText := by
  intro seven longer
  have hseven : dated? seven = some ⟨63850154460000000, exitMessage 7⟩ := by decide
  have hlonger : dated? longer = some ⟨63850154520000000, exitMessage 127⟩ := by decide
  exact ⟨((exitText_of_exit_line [] [longer] hseven rfl).1 (by decide)).2 (by decide),
    (exitText_of_exit_line [seven] [] hlonger rfl).2.1 rfl (by decide),
    (exitText_of_exit_line [] [seven] hlonger rfl).2.2.1 (by decide)⟩

/-- The only process of a log ends with 127, and the summary tells no exit code. -/
theorem exitText_longer :
    let line := "2024-05-01T10:01:00.0Z ##[error]Process completed with exit code 127.".toList
    entries [line] = [⟨63850154460000000, exitMessage 127⟩] ∧
      (summarize [line]).exitText = "null" ∧ toString 127 ≠ "null" := by
  decide

end JobMeter.Log
