import JobMeter.Job.Labels
import JobMeter.Proofs.Text.Quoting

/-!
# The log context of an event

What log messages tell about an event stands on one line: names with quoted values.  The values come
from whoever sent the event, so one of them may look like another field, or like the end of the
line.

* `Labels.render_injOn` — labels whose names hold no equals sign are told apart by their lines.
* `Labels.isPrintable_of_mem_render` — if the names are printable, then so are the lines.
* `Event.logFields_names` — the names of log fields are such names.
* `context_unambiguous` — **no value can forge a field**: events with the same context have the same
  log fields, and the context stays on one line.
-/

namespace JobMeter

namespace Labels

/-- What stands behind an entry on the line of labels. -/
def renderRest : Labels → Text
  | [] => []
  | p :: rest => CodePoint.ofChar ' ' :: render (p :: rest)

theorem render_cons (p : Text × Text) (labels : Labels) :
    render (p :: labels) =
      p.1 ++ CodePoint.ofChar '=' :: (Text.quote p.2 ++ renderRest labels) := by
  cases labels with
  | nil => simp [render, renderRest, Text.joinWith, text, Text.ofString]
  | cons q labels =>
    simp [render, renderRest, Text.joinWith, text, Text.ofString, List.intercalate_cons_cons]

theorem render_cons_ne_nil (p : Text × Text) (labels : Labels) : render (p :: labels) ≠ [] := by
  rw [render_cons]
  exact List.append_ne_nil_of_right_ne_nil _ (List.cons_ne_nil _ _)

theorem renderRest_eq_iff {labels labels' : Labels} :
    renderRest labels = renderRest labels' ↔ render labels = render labels' := by
  cases labels with
  | nil =>
    cases labels' with
    | nil => exact ⟨fun _ => rfl, fun _ => rfl⟩
    | cons p' labels' =>
      exact ⟨fun h => (nomatch h), fun h => absurd h.symm (render_cons_ne_nil p' labels')⟩
  | cons p labels =>
    cases labels' with
    | nil => exact ⟨fun h => (nomatch h), fun h => absurd h (render_cons_ne_nil p labels)⟩
    | cons p' labels' =>
      exact ⟨fun h => (List.cons.inj h).2, fun h => congrArg (CodePoint.ofChar ' ' :: ·) h⟩

/-- **Labels are told apart by their lines**, if their names hold no equals sign. -/
theorem render_injOn {labels labels' : Labels}
    (hnames : ∀ p ∈ labels, Text.holds '=' p.1 = false)
    (hnames' : ∀ p ∈ labels', Text.holds '=' p.1 = false) (h : render labels = render labels') :
    labels = labels' := by
  induction labels generalizing labels' with
  | nil =>
    cases labels' with
    | nil => rfl
    | cons p' labels' => exact absurd h.symm (render_cons_ne_nil p' labels')
  | cons p labels ih =>
    cases labels' with
    | nil => exact absurd h (render_cons_ne_nil p labels)
    | cons p' labels' =>
      obtain ⟨hname, hnames⟩ := List.forall_mem_cons.1 hnames
      obtain ⟨hname', hnames'⟩ := List.forall_mem_cons.1 hnames'
      rw [render_cons, render_cons] at h
      -- the name ends at the first equals sign, and the value where its quote is closed
      have hcut := congrArg (Text.cut? '=') h
      rw [Text.cut?_append_of_not_holds hname, Text.cut?_append_of_not_holds hname'] at hcut
      obtain ⟨hfst, hquoted⟩ : p.1 = p'.1 ∧
          Text.quote p.2 ++ renderRest labels = Text.quote p'.2 ++ renderRest labels' := by
        simpa [Text.cut?, Text.cutWhere?, CodePoint.is] using hcut
      obtain ⟨hsnd, hrest⟩ := Text.quote_append_inj hquoted
      rw [Prod.ext hfst hsnd, ih hnames hnames' (renderRest_eq_iff.1 hrest)]

/-- The line of labels is printable, if their names are. -/
theorem isPrintable_of_mem_render {labels : Labels}
    (hnames : ∀ p ∈ labels, ∀ c ∈ p.1, Text.isPrintable c = true) {c : CodePoint}
    (hc : c ∈ render labels) : Text.isPrintable c = true := by
  induction labels with
  | nil => exact absurd hc List.not_mem_nil
  | cons p labels ih =>
    obtain ⟨hname, hnames⟩ := List.forall_mem_cons.1 hnames
    rw [render_cons, List.mem_append, List.mem_cons, List.mem_append] at hc
    rcases hc with hc | rfl | hc | hc
    · exact hname c hc
    · exact Text.isPrintable_of_ascii (by decide) (by decide)
    · exact Text.isPrintable_of_mem_quote hc
    · cases labels with
      | nil => exact absurd hc List.not_mem_nil
      | cons q labels =>
        rcases List.mem_cons.1 hc with rfl | hc
        · exact Text.isPrintable_of_ascii (by decide) (by decide)
        · exact ih hnames hc

end Labels

/-- The names of log fields are printable and hold no equals sign. -/
theorem Event.logFields_names (e : Event) :
    ∀ p ∈ e.logFields, Text.holds '=' p.1 = false ∧ ∀ c ∈ p.1, Text.isPrintable c = true := by
  have hnames : ((Labels.jobId :: Labels.standard).all fun name =>
      !Text.holds '=' name && name.all Text.isPrintable) = true := by decide +kernel
  simp only [List.all_eq_true, Bool.and_eq_true, Bool.not_eq_true'] at hnames
  intro p hp
  refine hnames p.1 ?_
  rcases List.mem_cons.1 hp with rfl | hp
  · exact List.mem_cons_self
  · exact List.mem_cons_of_mem _ (fst_mem_standard_of_mem_given hp)

/-- **No value can forge a field of the log context.**  Whatever stands in the names and values of
two events, quotes, blanks, equals signs, backslashes and whole fields included:

* their contexts are the same exactly if their log fields are, in names, values and order;
* the contexts hold nothing but printable code points, so they hold no line break. -/
theorem context_unambiguous (e e' : Event) :
    (e.context = e'.context ↔ e.logFields = e'.logFields) ∧
      ∀ c ∈ e.context, Text.isPrintable c = true ∧ Text.endsLine c = false := by
  constructor
  · constructor
    · exact Labels.render_injOn (fun p hp => (e.logFields_names p hp).1)
        fun p hp => (e'.logFields_names p hp).1
    · exact congrArg Labels.render
  · intro c hc
    have hprintable : Text.isPrintable c = true :=
      Labels.isPrintable_of_mem_render (fun p hp => (e.logFields_names p hp).2) hc
    exact ⟨hprintable, Text.endsLine_eq_false hprintable⟩

/-- A job whose name spells out a field of another job, and a line break in its branch. -/
theorem context_unambiguous_forged :
    let job (id : Int) (name branch : String) : Event :=
      ⟨text "queued", ⟨id, some (text name), [], none, some (text branch), none, []⟩, none, none⟩
    let forged := job 1 "x' job_id='9" "a\nb"
    let honest := job 1 "x" "a"
    forged.context =
        text "job_id='1' job_name=\"x' job_id='9\" head_branch='a\\nb'" ∧
      forged.context ≠ honest.context ∧
      CodePoint.ofChar '\\' ∈ forged.context ∧
      Text.isPrintable (CodePoint.ofChar '\\') = true := by
  intro job forged honest
  have hmem : CodePoint.ofChar '\\' ∈ forged.context := by decide +kernel
  refine ⟨by decide +kernel, ?_, hmem, ((context_unambiguous forged honest).2 _ hmem).1⟩
  exact fun h => absurd ((context_unambiguous forged honest).1.1 h) (by decide +kernel)

end JobMeter
