import Mathlib
import JobMeter.Job.Event
import JobMeter.Proofs.Http.Targets
import JobMeter.Proofs.Platform.Fetching
import JobMeter.Proofs.Platform.Watching

/-!
# Where logs are asked for

The platform is asked where the log of a job is under a URL that names the job.  Names stand in it
as they are, so it depends on them whether the URL is that of the job only.

* `PlainName` — a name that is one segment of a path, and stands for itself there.
* `JobIdentity.path_injective` — jobs with plain names have different paths.
* `asked_url_ne` — **logs of different jobs are asked for under different URLs**, if the names are
  plain.  Otherwise another job may be asked for (`asked_url_slashes`).
-/

namespace JobMeter

open Http

/-! ## Names -/

/-- The name is one segment of a path, no dots, and holds neither escapes nor what ends a path. -/
structure PlainName (t : Text) : Prop where
  slash : Text.holds '/' t = false
  query : Text.holds '?' t = false
  fragment : Text.holds '#' t = false
  percent : Text.holds '%' t = false
  dot : t ≠ text "."
  dots : t ≠ text ".."

/-- Numbers are written with digits and a minus sign. -/
theorem mem_text_toString {n : Int} {p : CodePoint} (hp : p ∈ text (toString n)) :
    ∃ c : Char, p = CodePoint.ofChar c ∧ (c.isDigit = true ∨ c = '-') := by
  have hdigit : ∀ n : Nat, ∀ c ∈ n.repr.toList, c.isDigit = true := by
    intro n c hc
    rw [Nat.repr_eq_ofList_toDigits, String.toList_ofList] at hc
    exact Nat.isDigit_of_mem_toDigits (by decide) (by decide) hc
  obtain ⟨c, hc, rfl⟩ := List.mem_map.1 hp
  refine ⟨c, rfl, ?_⟩
  rw [Int.toString_eq_repr, Int.repr_eq_if] at hc
  split at hc
  · exact .inl (hdigit _ c hc)
  · rw [String.toList_append, List.mem_append] at hc
    rcases hc with hc | hc
    · exact .inr (List.mem_singleton.1 hc)
    · exact .inl (hdigit _ c hc)

theorem plainName_toString (n : Int) : PlainName (text (toString n)) := by
  have hne : ∀ d : Char, d.isDigit = false → d ≠ '-' →
      ∀ p ∈ text (toString n), p ≠ CodePoint.ofChar d := by
    rintro d hdigit hminus p hp rfl
    obtain ⟨c, heq, hc⟩ := mem_text_toString hp
    obtain rfl := CodePoint.ofChar_injective heq
    rcases hc with hc | rfl
    · rw [hdigit] at hc
      cases hc
    · exact hminus rfl
  have hholds : ∀ d : Char, d.isDigit = false → d ≠ '-' →
      Text.holds d (text (toString n)) = false := fun d hdigit hminus =>
    Text.holds_eq_false.2 fun p hp => beq_eq_false_iff_ne.2 (hne d hdigit hminus p hp)
  have hdot : CodePoint.ofChar '.' ∉ text (toString n) := fun hp =>
    hne '.' (by decide) (by decide) _ hp rfl
  refine ⟨hholds _ (by decide) (by decide), hholds _ (by decide) (by decide),
    hholds _ (by decide) (by decide), hholds _ (by decide) (by decide), ?_, ?_⟩
  · intro heq
    rw [heq] at hdot
    exact hdot (by decide)
  · intro heq
    rw [heq] at hdot
    exact hdot (by decide)

/-! ## Paths -/

namespace JobIdentity

/-- The segments of the path under which the platform keeps the log of a job. -/
def segments (job : JobIdentity) : List Text :=
  [text "repos", job.owner, job.repository, text "actions", text "jobs", text (toString job.job),
    text "logs"]

/-- The path under which the platform keeps the log of a job. -/
def path (job : JobIdentity) : Text := Text.joinWith (text "/") job.segments

/-- The owner and the repository have plain names. -/
structure Plain (job : JobIdentity) : Prop where
  owner : PlainName job.owner
  repository : PlainName job.repository

variable {job job' : JobIdentity}

theorem Plain.segments (h : job.Plain) : ∀ s ∈ job.segments, PlainName s := by
  have hword : PlainName (text "repos") ∧ PlainName (text "actions") ∧ PlainName (text "jobs") ∧
      PlainName (text "logs") := by
    refine ⟨?_, ?_, ?_, ?_⟩ <;>
      exact ⟨by decide, by decide, by decide, by decide, by decide, by decide⟩
  have hjob := plainName_toString job.job
  simp only [JobIdentity.segments, List.forall_mem_cons, List.not_mem_nil, false_implies,
    implies_true, and_true]
  exact ⟨hword.1, h.owner, h.repository, hword.2.1, hword.2.2.1, hjob, hword.2.2.2⟩

theorem Plain.splitOn_path (h : job.Plain) : Text.splitOn '/' job.path = job.segments :=
  Text.splitOn_joinWith (by simp [JobIdentity.segments]) fun s hs => (h.segments s hs).slash

/-- A job with plain names has a plain path. -/
theorem Plain.plainPath (h : job.Plain) : PlainPath job.path where
  start := ⟨'r', _, rfl, by decide⟩
  query := Text.holds_joinWith (by decide) fun s hs => (h.segments s hs).query
  fragment := Text.holds_joinWith (by decide) fun s hs => (h.segments s hs).fragment
  percent := Text.holds_joinWith (by decide) fun s hs => (h.segments s hs).percent
  segments := by
    rw [h.splitOn_path]
    exact fun s hs => ⟨(h.segments s hs).dot, (h.segments s hs).dots⟩

/-- Jobs with plain names have different paths. -/
theorem path_injective (h : job.Plain) (h' : job'.Plain) (heq : job.path = job'.path) :
    job = job' := by
  have hsegments : job.segments = job'.segments := by
    rw [← h.splitOn_path, ← h'.splitOn_path, heq]
  obtain ⟨owner, repository, id⟩ := job
  obtain ⟨owner', repository', id'⟩ := job'
  simp only [JobIdentity.segments, List.cons.injEq, true_and, and_true] at hsegments
  obtain ⟨rfl, rfl, hid⟩ := hsegments
  rw [Int.repr_injective (text_inj.1 hid)]

end JobIdentity

/-! ## URLs -/

namespace Platform.Client

theorem logUrl_eq (c : Client) (job : JobIdentity) :
    c.logUrl job = c.baseUrl ++ CodePoint.ofChar '/' :: job.path := by
  have hrepos : text "/repos/" = CodePoint.ofChar '/' :: (text "repos" ++ text "/") := rfl
  have hjobs : text "/actions/jobs/" =
      text "/" ++ (text "actions" ++ (text "/" ++ (text "jobs" ++ text "/"))) := rfl
  have hlogs : text "/logs" = text "/" ++ text "logs" := rfl
  unfold logUrl JobIdentity.path JobIdentity.segments
  rw [hrepos, hjobs, hlogs]
  simp [Text.joinWith_cons, Text.joinWith_singleton]

theorem noSlashAtEnd_ofToken (token url : Text) (timeout : Timeout) :
    Url.NoSlashAtEnd (ofToken token url timeout).baseUrl := by
  intro hlast
  have hstripped := List.head?_dropWhile_not (CodePoint.is '/') url.reverse
  unfold ofToken Text.stripRight at hlast
  rw [List.getLast?_reverse] at hlast
  rw [hlast] at hstripped
  cases hstripped

/-- The URL of a request is the normal form of the URL that it is made for. -/
theorem requestUrl_of_prepare {r r' : Request} (h : prepare r = .ok r') :
    requestUrl r.url = .ok r'.url := by
  unfold prepare at h
  obtain ⟨_, -, h⟩ := exists_ok_of_bind_eq_ok h
  obtain ⟨url, htarget, h⟩ := exists_ok_of_bind_eq_ok h
  split at h
  · obtain ⟨given, -, h⟩ := exists_ok_of_bind_eq_ok h
    rw [htarget, ← Except.ok.inj h]
  · cases h

/-- Where the log of a job is asked for is told by the path of the job. -/
theorem requestUrl_of_asked {ω : Type} {c : Client} {transport : Transport ω} {job : JobIdentity}
    {w : ω} {r : Request} (hr : r ∈ c.asked transport job w) :
    requestUrl (c.baseUrl ++ CodePoint.ofChar '/' :: job.path) = .ok r.url := by
  rcases c.asked_eq transport job w with hnone | ⟨_, hprepare, hone⟩
  · rw [hnone] at hr
    cases hr
  · rw [hone] at hr
    obtain rfl := List.mem_singleton.1 hr
    rw [← logUrl_eq]
    exact requestUrl_of_prepare hprepare

end Platform.Client

open Platform

/-- **Logs of different jobs are asked for under different URLs**, whatever the base of the URLs is,
if the names of the jobs are plain. -/
theorem asked_url_ne {ω : Type} (token url : Text) (timeout : Timeout) (transport : Transport ω)
    {job job' : JobIdentity} (h : job.Plain) (h' : job'.Plain) (hne : job ≠ job') {w w' : ω}
    {r r' : Request} (hr : r ∈ (Client.ofToken token url timeout).asked transport job w)
    (hr' : r' ∈ (Client.ofToken token url timeout).asked transport job' w') : r.url ≠ r'.url := by
  intro hurl
  have hpath := requestUrl_injective (Client.noSlashAtEnd_ofToken token url timeout) h.plainPath
    h'.plainPath (Client.requestUrl_of_asked hr) (hurl ▸ Client.requestUrl_of_asked hr')
  exact hne (JobIdentity.path_injective h h' hpath)

/-- The place of a log is told at once. -/
def located : Reply Nat :=
  ⟨302, text "Found", [(text "Location", text "https://logs.example.com/job?sig=abc")],
    fun _ => []⟩

/-- Names that differ in what is escaped of them. -/
theorem asked_url_ne_escaped :
    let c := Client.ofToken (text "token") Client.usualUrl Client.usualTimeout
    let transport := Transport.prepared [located]
    let job : JobIdentity := ⟨text "owner", text "a b", 42⟩
    let job' : JobIdentity := ⟨text "owner", text "a\u00fcb", 42⟩
    job.Plain ∧ job'.Plain ∧ job ≠ job' ∧
      ∃ r ∈ c.asked transport job 0, ∃ r' ∈ c.asked transport job' 0, r.url ≠ r'.url := by
  intro c transport job job'
  have howner : PlainName (text "owner") :=
    ⟨by decide, by decide, by decide, by decide, by decide, by decide⟩
  have hblank : PlainName (text "a b") :=
    ⟨by decide, by decide, by decide, by decide, by decide, by decide⟩
  have humlaut : PlainName (text "a\u00fcb") :=
    ⟨by decide, by decide, by decide, by decide, by decide, by decide⟩
  have h : job.Plain := ⟨howner, hblank⟩
  have h' : job'.Plain := ⟨howner, humlaut⟩
  have hne : job ≠ job' := by decide
  have hasked : (c.asked transport job 0).length = 1 := by decide +kernel
  have hasked' : (c.asked transport job' 0).length = 1 := by decide +kernel
  obtain ⟨r, hr⟩ := List.length_eq_one_iff.1 hasked
  obtain ⟨r', hr'⟩ := List.length_eq_one_iff.1 hasked'
  have hmem : r ∈ c.asked transport job 0 := by simp [hr]
  have hmem' : r' ∈ c.asked transport job' 0 := by simp [hr']
  exact ⟨h, h', hne, r, hmem, r', hmem',
    asked_url_ne (text "token") Client.usualUrl Client.usualTimeout transport h h' hne hmem hmem'⟩

/-- Slashes in names are not told from those between them: the logs of two jobs may be asked for
under one URL. -/
theorem asked_url_slashes :
    let c := Client.ofToken (text "token") Client.usualUrl Client.usualTimeout
    let transport := Transport.prepared [located]
    let event (owner repository : String) : Event :=
      ⟨text "completed", ⟨1, none, [], none, none, none, []⟩,
        some ⟨some (text repository), none, some ⟨some (text owner)⟩⟩, none⟩
    ∃ job job' : JobIdentity, (event "a/b" "c").identity? = some job ∧
      (event "a" "b/c").identity? = some job' ∧ job ≠ job' ∧
      ∃ r ∈ c.asked transport job 0, ∃ r' ∈ c.asked transport job' 0, r.url = r'.url := by
  intro c transport event
  let job : JobIdentity := ⟨text "a/b", text "c", 1⟩
  let job' : JobIdentity := ⟨text "a", text "b/c", 1⟩
  have hasked : (c.asked transport job 0).length = 1 := by decide +kernel
  have hasked' : (c.asked transport job' 0).length = 1 := by decide +kernel
  have hurls : (c.asked transport job 0).map (·.url) = (c.asked transport job' 0).map (·.url) := by
    decide +kernel
  obtain ⟨r, hr⟩ := List.length_eq_one_iff.1 hasked
  obtain ⟨r', hr'⟩ := List.length_eq_one_iff.1 hasked'
  rw [hr, hr'] at hurls
  refine ⟨job, job', by decide, by decide, by decide, r, by simp [hr], r', by simp [hr'], ?_⟩
  exact (List.cons.inj hurls).1

end JobMeter
