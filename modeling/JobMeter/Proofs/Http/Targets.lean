import Mathlib.Data.List.TakeDrop
import JobMeter.Http.Url
import JobMeter.Proofs.Http.Escaping

/-!
# Paths behind a base

The URL of a request is often a base with a path behind it.  Whatever the base is, the path can be
told from the URL in its normal form, if the path is plain.

* `PlainPath` — a path that nothing in a URL is read out of but its segments.
* `Url.exists_removeDots` — its segments are kept when dot segments are removed.
* `Url.parse?_eq` — a URL is read in three steps: the scheme, the authority, and what follows.
* `requestUrl_injective` — **different plain paths behind a base give different URLs**.
-/

namespace JobMeter.Http

/-- A path that starts with a letter or a digit, has no dot segments, and holds neither escapes nor
what ends a path. -/
structure PlainPath (t : Text) : Prop where
  start : ∃ c r, t = CodePoint.ofChar c :: r ∧ c.isAlphanum = true
  query : Text.holds '?' t = false
  fragment : Text.holds '#' t = false
  percent : Text.holds '%' t = false
  segments : ∀ s ∈ Text.splitOn '/' t, s ≠ text "." ∧ s ≠ text ".."

namespace Url

/-! ## Dot segments -/

/-- Segments that are no dots are kept. -/
theorem follow_append (ss : List Text) {ss' : List Text}
    (h : ∀ s ∈ ss', s ≠ text "." ∧ s ≠ text "..") :
    Reference.follow (ss ++ ss') = ss'.reverse ++ Reference.follow ss := by
  unfold Reference.follow
  rw [List.foldl_append]
  generalize List.foldl _ [] ss = done
  induction ss' generalizing done with
  | nil => rfl
  | cons s ss' ih =>
    obtain ⟨hdot, hdots⟩ := h s List.mem_cons_self
    rw [List.foldl_cons, if_neg (by simpa using hdots), if_neg (by simpa using hdot),
      ih (fun s hs => h s (List.mem_cons_of_mem _ hs))]
    simp

/-- A path behind what is left of a base, if anything is. -/
def behind (d : Option Text) (t : Text) : Text :=
  match d with
  | none => t
  | some d => d ++ CodePoint.ofChar '/' :: t

theorem startsWith_slash {t u : Text} :
    (t ++ CodePoint.ofChar '/' :: u).startsWith "/" = (t.isEmpty || t.startsWith "/") := by
  cases t with
  | nil => rfl
  | cons p t => rfl

theorem isAlphanum_ne_slash {c : Char} (hc : c.isAlphanum = true) :
    CodePoint.is '/' (CodePoint.ofChar c) = false := by
  refine beq_eq_false_iff_ne.2 fun heq => ?_
  rw [CodePoint.ofChar_injective heq] at hc
  cases hc

theorem startsWith_slash_of_isAlphanum {c : Char} (hc : c.isAlphanum = true) {t : Text} :
    Text.startsWith "/" (CodePoint.ofChar c :: t) = false := by
  have hne : (CodePoint.ofChar '/' == CodePoint.ofChar c) = false := by
    rw [Bool.beq_comm]
    exact isAlphanum_ne_slash hc
  change (CodePoint.ofChar '/' == CodePoint.ofChar c && _) = false
  rw [hne, Bool.false_and]

/-- A plain path stays behind a base without its dot segments. -/
theorem exists_removeDots (b : Text) :
    ∃ d, ∀ t, PlainPath t → removeDots (b ++ CodePoint.ofChar '/' :: t) = behind d t := by
  let kept := (Reference.follow (Text.splitOn '/' b)).reverse
  let kept' := if (b.isEmpty || b.startsWith "/") && kept.head? != some [] then [] :: kept else kept
  refine ⟨if kept' = [] then none else some (Text.joinWith (text "/") kept'), fun t ht => ?_⟩
  have hne := Text.splitOn_ne_nil '/' t
  have hhead : ((kept ++ Text.splitOn '/' t).head? != some []) = (kept.head? != some []) := by
    obtain ⟨c, r, rfl, hc⟩ := ht.start
    rw [Text.splitOn, isAlphanum_ne_slash hc]
    cases hkept : kept with
    | nil => cases Text.splitOn '/' r <;> rfl
    | cons s ss => rfl
  have hlast : (Text.splitOn '/' (b ++ CodePoint.ofChar '/' :: t)).getLastD [] ∈
      Text.splitOn '/' t := by
    rw [Text.splitOn_append, List.getLastD_eq_getLast?, List.getLast?_append,
      List.getLast?_eq_some_getLast hne]
    exact List.getLast_mem hne
  have hfollow : (Reference.follow (Text.splitOn '/' (b ++ CodePoint.ofChar '/' :: t))).reverse =
      kept ++ Text.splitOn '/' t := by
    rw [Text.splitOn_append, follow_append _ ht.segments]
    simp [kept]
  have hpath : removeDots (b ++ CodePoint.ofChar '/' :: t) =
      Text.joinWith (text "/") (kept' ++ Text.splitOn '/' t) := by
    have hdots := ht.segments _ hlast
    unfold removeDots
    dsimp only
    rw [hfollow, startsWith_slash, hhead, if_neg]
    · congr 1
      simp only [kept']
      split <;> rfl
    · rw [beq_eq_false_iff_ne.2 hdots.1, beq_eq_false_iff_ne.2 hdots.2]
      simp
  rw [hpath]
  by_cases hkept : kept' = []
  · rw [hkept, if_pos rfl]
    exact Text.joinWith_splitOn '/' t
  · rw [if_neg hkept, Text.joinWith_append _ hkept hne]
    have hjoin : Text.joinWith (text "/") (Text.splitOn '/' t) = t := Text.joinWith_splitOn '/' t
    rw [hjoin, List.append_assoc]
    rfl

/-! ## Reading in three steps -/

/-- Are the components of the scheme normalized? -/
def isNormalized (scheme : Option Text) : Bool :=
  scheme == none || scheme == some (text "http") || scheme == some (text "https")

/-- The authority in what follows a scheme, and what follows the authority. -/
def cutAuthority (t : Text) : Text × Text :=
  if t.startsWith "//" then
    (t.drop 2).span fun p =>
      !(CodePoint.is '\\' p || CodePoint.is '/' p || CodePoint.is '?' p || CodePoint.is '#' p)
  else ([], t)

/-- The user, the host and the port that an authority gives. -/
def place? (normalized : Bool) (authority : Text) : Option (Text × Text × Option Nat) := do
  let (info, rest) := (Text.cutLast? '@' authority).getD ([], authority)
  let (host, port) ← if authority.isEmpty then some ([], none) else hostAndPort? rest
  if normalized then
    let host ← if Text.startsWith "[" host then lowerAddress? host else HostName.toAscii? host
    pure (escapeRest inUserInfo info, host, port)
  else pure (info, host, port)

/-- A component as it is kept. -/
def component (normalized : Bool) (allowed : ByteClass) (t : Text) : Text :=
  if normalized then escapeRest allowed t else t

/-- The URL with what follows its authority. -/
def assemble (scheme : Option Text) (place : Text × Text × Option Nat) (t : Text) : Url :=
  let (t, fragment) := Text.cut '#' t
  let (path, query) := Text.cut '?' t
  let normalized := isNormalized scheme
  ⟨scheme, place.1, place.2.1, place.2.2,
    component normalized inPath (if normalized then removeDots path else path),
    component normalized inQuery query, component normalized inQuery fragment⟩

/-- What the scheme of a URL is cut off from. -/
def absolute (t : Text) : Text := if startsPath t || t.isEmpty then t else text "//" ++ t

/-- A URL is read step by step. -/
theorem parse?_eq (t : Text) :
    parse? t =
      let (scheme, rest) := cutScheme (absolute t)
      let (authority, rest) := cutAuthority rest
      (place? (isNormalized scheme) authority).map fun place => assemble scheme place rest := by
  unfold parse? place? assemble component absolute cutAuthority isNormalized
  dsimp only
  generalize (cutScheme _) = s
  generalize (if Text.startsWith "//" s.2 = true then _ else _ : Text × Text) = a
  generalize (s.1 == none || s.1 == some (text "http") || s.1 == some (text "https")) = normalized
  by_cases hempty : a.1.isEmpty = true
  · rw [if_pos hempty, if_pos hempty]
    cases normalized with
    | false => rfl
    | true =>
      cases hhost : HostName.toAscii? [] <;> simp [hhost, Text.startsWith, text, Text.ofString]
  · rw [if_neg hempty, if_neg hempty]
    cases hostAndPort? _ with
    | none => rfl
    | some p =>
      cases normalized with
      | false => rfl
      | true =>
        by_cases hbracket : Text.startsWith "[" p.1 = true
        · cases hhost : lowerAddress? p.1 <;> simp [hbracket, hhost]
        · cases hhost : HostName.toAscii? p.1 <;> simp [hbracket, hhost]

/-- The path of a URL as it is written. -/
def slashed (path : Text) : Text :=
  if path.startsWith "/" then path else CodePoint.ofChar '/' :: path

/-- The URL up to its path as it is written. -/
def front (u : Url) : Text :=
  let port :=
    match u.port with
    | none | some 0 => []
    | some n => text ":" ++ text (toString n)
  let info := if u.userInfo.isEmpty then [] else u.userInfo ++ text "@"
  (u.scheme.getD []) ++ text "://" ++ info ++ u.host ++ port

theorem write_eq (u : Url) :
    u.write = u.front ++ slashed u.path ++ Reference.marked '?' u.query ++
      Reference.marked '#' u.fragment := rfl

/-! ## Classes of characters -/

/-- The class of what may stand in a component in which slashes may. -/
structure IsComponentClass (allowed : ByteClass) : Prop where
  percent : allowed '%' = false
  slash : allowed '/' = true
  unreserved : ∀ c, isUnreserved c = true → allowed c = true
  kept : ∀ c, allowed c = true → isUnreserved c = true ∨ isReserved c = true

theorem isReserved_of_isSubDelimiter {c : Char} (hc : isSubDelimiter c = true) :
    isReserved c = true := by
  have hall : "!$&'()*+,;=".toList.all isReserved = true := by decide
  exact List.all_eq_true.1 hall c (List.contains_iff_mem.1 hc)

theorem isComponentClass_inPath : IsComponentClass inPath where
  percent := by decide
  slash := by decide
  unreserved c hc := by simp [inPath, inUserInfo, hc]
  kept c hc := by
    simp only [inPath, inUserInfo, Bool.or_eq_true, beq_iff_eq] at hc
    rcases hc with (((hc | hc) | rfl) | rfl) | rfl
    · exact .inl hc
    · exact .inr (isReserved_of_isSubDelimiter hc)
    · exact .inr (by decide)
    · exact .inr (by decide)
    · exact .inr (by decide)

theorem isComponentClass_inQuery : IsComponentClass inQuery where
  percent := by decide
  slash := by decide
  unreserved c hc := by simp [inQuery, isComponentClass_inPath.unreserved c hc]
  kept c hc := by
    simp only [inQuery, Bool.or_eq_true, beq_iff_eq] at hc
    rcases hc with hc | rfl
    · exact isComponentClass_inPath.kept c hc
    · exact .inr (by decide)

/-! ## Writing -/

/-- A plain path as it is kept in a component. -/
def quoted (normalized : Bool) (allowed : ByteClass) (t : Text) : Text :=
  if normalized then escape allowed t else t

theorem component_append {allowed : ByteClass} (h : IsComponentClass allowed) (normalized : Bool)
    (d : Text) {t : Text} (ht : Text.holds '%' t = false) :
    component normalized allowed (d ++ CodePoint.ofChar '/' :: t) =
      component normalized allowed d ++ CodePoint.ofChar '/' :: quoted normalized allowed t := by
  cases normalized with
  | false => rfl
  | true =>
    have hescape := escape_cons_of_keep (by decide) h.slash t
    simp only [component, quoted, if_true]
    rw [escapeRest_append ht, hescape]

theorem slashed_append (d t : Text) :
    slashed (d ++ CodePoint.ofChar '/' :: t) =
      (if d.isEmpty then d else slashed d) ++ CodePoint.ofChar '/' :: t := by
  unfold slashed
  rw [startsWith_slash]
  cases d with
  | nil => rfl
  | cons p d =>
    by_cases hp : Text.startsWith "/" (p :: d) = true
    · simp [hp]
    · simp [hp]

/-- A plain path stands at the end of a written path. -/
theorem exists_slashed (normalized : Bool) (b : Text) :
    ∃ front, ∀ t, PlainPath t →
      slashed (component normalized inPath
        (if normalized then removeDots (b ++ CodePoint.ofChar '/' :: t)
          else b ++ CodePoint.ofChar '/' :: t)) =
        front ++ CodePoint.ofChar '/' :: quoted normalized inPath t := by
  have hbehind : ∀ d, ∃ front, ∀ t, PlainPath t →
      slashed (component normalized inPath (d ++ CodePoint.ofChar '/' :: t)) =
        front ++ CodePoint.ofChar '/' :: quoted normalized inPath t := fun d =>
    ⟨_, fun t ht => by rw [component_append isComponentClass_inPath _ _ ht.percent, slashed_append]⟩
  cases normalized with
  | false => exact hbehind b
  | true =>
    obtain ⟨d, hd⟩ := exists_removeDots b
    cases d with
    | some d =>
      obtain ⟨front, hfront⟩ := hbehind d
      exact ⟨front, fun t ht => by rw [if_pos rfl, hd t ht, behind, hfront t ht]⟩
    | none =>
      refine ⟨[], fun t ht => ?_⟩
      have hcomponent : component true inPath t = quoted true inPath t :=
        escapeRest_of_not_holds ht.percent
      obtain ⟨c, r, rfl, hc⟩ := ht.start
      have hascii := toNat_lt_of_isAlphanum hc
      have hkeep : inPath c = true :=
        isComponentClass_inPath.unreserved c (by simp [isUnreserved, hc])
      have hstart : (quoted true inPath (CodePoint.ofChar c :: r)).startsWith "/" = false := by
        rw [quoted, if_pos rfl, escape_cons_of_keep hascii hkeep]
        exact startsWith_slash_of_isAlphanum hc
      rw [if_pos rfl, hd _ ht, behind, hcomponent, slashed, hstart]
      rfl

theorem marked_append (c : Char) (d t : Text) :
    Reference.marked c (d ++ CodePoint.ofChar '/' :: t) =
      CodePoint.ofChar c :: d ++ CodePoint.ofChar '/' :: t := by
  simp [Reference.marked]

theorem marked_component_nil (c : Char) (normalized : Bool) (allowed : ByteClass) :
    Reference.marked c (component normalized allowed []) = [] := by
  cases normalized <;> rfl

theorem cut_behind {c : Char} {b t : Text} (hslash : CodePoint.is c (CodePoint.ofChar '/') = false)
    (hb : Text.holds c b = false) (ht : Text.holds c t = false) :
    Text.cut c (b ++ CodePoint.ofChar '/' :: t) = (b ++ CodePoint.ofChar '/' :: t, []) :=
  Text.cut_of_not_holds (by simp [hb, ht, hslash])

section Written

variable (scheme : Option Text) (place : Text × Text × Option Nat) {b : Text}

/-- Behind a base with a fragment a plain path is part of the fragment. -/
theorem exists_write_fragment (hfragment : Text.holds '#' b = true) :
    ∃ before, ∀ t, PlainPath t →
      (assemble scheme place (b ++ CodePoint.ofChar '/' :: t)).write =
        before ++ CodePoint.ofChar '/' :: quoted (isNormalized scheme) inQuery t := by
  let u := assemble scheme place b
  refine ⟨u.front ++ slashed u.path ++ Reference.marked '?' u.query ++
    CodePoint.ofChar '#' :: component (isNormalized scheme) inQuery (Text.cut '#' b).2,
    fun t ht => ?_⟩
  rw [write_eq, assemble, Text.cut_append hfragment]
  dsimp only
  rw [component_append isComponentClass_inQuery _ _ ht.percent, marked_append, ← List.append_assoc]
  rfl

/-- Behind a base with a query a plain path is part of the query. -/
theorem exists_write_query (hfragment : Text.holds '#' b = false)
    (hquery : Text.holds '?' b = true) :
    ∃ before, ∀ t, PlainPath t →
      (assemble scheme place (b ++ CodePoint.ofChar '/' :: t)).write =
        before ++ CodePoint.ofChar '/' :: quoted (isNormalized scheme) inQuery t := by
  let u := assemble scheme place b
  refine ⟨u.front ++ slashed u.path ++
    CodePoint.ofChar '?' :: component (isNormalized scheme) inQuery (Text.cut '?' b).2,
    fun t ht => ?_⟩
  have hb : Text.cut '#' b = (b, []) := Text.cut_of_not_holds hfragment
  rw [write_eq, assemble, cut_behind (by decide) hfragment ht.fragment]
  dsimp only
  rw [Text.cut_append hquery]
  dsimp only
  rw [component_append isComponentClass_inQuery _ _ ht.percent, marked_append,
    marked_component_nil, List.append_nil, ← List.append_assoc]
  simp only [u, assemble, hb]
  rfl

/-- Behind a base without a query and a fragment a plain path is part of the path. -/
theorem exists_write_path (hfragment : Text.holds '#' b = false)
    (hquery : Text.holds '?' b = false) :
    ∃ before, ∀ t, PlainPath t →
      (assemble scheme place (b ++ CodePoint.ofChar '/' :: t)).write =
        before ++ CodePoint.ofChar '/' :: quoted (isNormalized scheme) inPath t := by
  let u := assemble scheme place b
  obtain ⟨before, hbefore⟩ := exists_slashed (isNormalized scheme) b
  refine ⟨u.front ++ before, fun t ht => ?_⟩
  rw [write_eq, assemble, cut_behind (by decide) hfragment ht.fragment]
  dsimp only
  rw [cut_behind (by decide) hquery ht.query]
  dsimp only
  rw [hbefore t ht, marked_component_nil, marked_component_nil, List.append_nil, List.append_nil,
    List.append_assoc]
  rfl

/-- **A plain path stands behind a slash in a written URL**, as part of the path, of the query or of
the fragment. -/
theorem exists_write (b : Text) :
    ∃ before allowed, IsComponentClass allowed ∧ ∀ t, PlainPath t →
      (assemble scheme place (b ++ CodePoint.ofChar '/' :: t)).write =
        before ++ CodePoint.ofChar '/' :: quoted (isNormalized scheme) allowed t := by
  by_cases hfragment : Text.holds '#' b = true
  · obtain ⟨before, hbefore⟩ := exists_write_fragment scheme place hfragment
    exact ⟨before, inQuery, isComponentClass_inQuery, hbefore⟩
  rw [Bool.not_eq_true] at hfragment
  by_cases hquery : Text.holds '?' b = true
  · obtain ⟨before, hbefore⟩ := exists_write_query scheme place hfragment hquery
    exact ⟨before, inQuery, isComponentClass_inQuery, hbefore⟩
  rw [Bool.not_eq_true] at hquery
  obtain ⟨before, hbefore⟩ := exists_write_path scheme place hfragment hquery
  exact ⟨before, inPath, isComponentClass_inPath, hbefore⟩

end Written

/-! ## Bases -/

/-- The text does not end in a slash. -/
def NoSlashAtEnd (t : Text) : Prop := t.getLast? ≠ some (CodePoint.ofChar '/')

theorem NoSlashAtEnd.of_suffix {s t : Text} (h : NoSlashAtEnd t) (hs : s <:+ t) :
    NoSlashAtEnd s := by
  obtain ⟨r, rfl⟩ := hs
  intro hlast
  apply h
  rw [List.getLast?_append, hlast]
  rfl

variable {b : Text}

theorem exists_cons (h : Text.holds ':' b = true) : ∃ p r, b = p :: r := by
  cases b with
  | nil => cases h
  | cons p r => exact ⟨p, r, rfl⟩

theorem absolute_append (h : Text.holds ':' b = true) (u : Text) :
    absolute (b ++ u) = absolute b ++ u := by
  obtain ⟨scheme, rest, hcut⟩ := Text.exists_cut? h
  obtain ⟨p, r, rfl⟩ := exists_cons h
  have hcutAll := Text.cut?_append hcut u
  rw [List.cons_append] at hcutAll ⊢
  have hstarts : startsPath (p :: (r ++ u)) = startsPath (p :: r) := by
    unfold startsPath
    rw [hcutAll, hcut]
    rfl
  unfold absolute
  rw [hstarts]
  by_cases hpath : startsPath (p :: r) = true
  · simp [hpath]
  · simp [hpath]

theorem cutScheme_append (h : Text.holds ':' b = true) (u : Text) :
    cutScheme (b ++ u) = ((cutScheme b).1, (cutScheme b).2 ++ u) := by
  obtain ⟨scheme, rest, hcut⟩ := Text.exists_cut? h
  obtain ⟨p, r, rfl⟩ := exists_cons h
  have hcutAll := Text.cut?_append hcut u
  rw [List.cons_append] at hcutAll ⊢
  unfold cutScheme
  rw [hcutAll, hcut]
  dsimp only
  split
  · rfl
  · rfl

theorem cutScheme_suffix (t : Text) : (cutScheme t).2 <:+ t := by
  unfold cutScheme
  split
  · rename_i scheme rest hcut
    split
    · rw [Text.append_of_cut? hcut]
      exact ⟨scheme ++ [CodePoint.ofChar ':'], by simp⟩
    · exact List.suffix_refl _
  · exact List.suffix_refl _

/-- There is no scheme in front of a slash, if there is no colon. -/
theorem cutScheme_of_not_holds (h : Text.holds ':' b = false) (u : Text) :
    (cutScheme (b ++ CodePoint.ofChar '/' :: u)).1 = none := by
  have hslash : (CodePoint.ofChar '/').has Reference.isSchemeChar = false := by decide
  unfold cutScheme
  rw [Text.cut?_append_of_not_holds h]
  cases hcut : Text.cut? ':' (CodePoint.ofChar '/' :: u) with
  | none => split <;> simp_all
  | some p =>
    obtain ⟨scheme, rest⟩ := p
    obtain ⟨scheme', rfl⟩ : ∃ scheme', scheme = CodePoint.ofChar '/' :: scheme' := by
      have happend := Text.append_of_cut? hcut
      cases scheme with
      | nil => exact absurd (List.cons.inj happend).1 (by decide)
      | cons q scheme' => exact ⟨scheme', by rw [(List.cons.inj happend).1]⟩
    split
    · rename_i hsome
      obtain ⟨rfl, -⟩ := Prod.mk.inj (Option.some.inj hsome)
      rw [if_neg]
      simp [hslash]
    · rfl

theorem span_append {q : CodePoint → Bool} {p : CodePoint} (hp : q p = false) (t u : Text) :
    (t ++ p :: u).span q = ((t.span q).1, (t.span q).2 ++ p :: u) := by
  simp only [List.span_eq_takeWhile_dropWhile]
  induction t with
  | nil => simp [hp]
  | cons x t ih =>
    by_cases hx : q x = true
    · simpa [hx] using ih
    · simp [hx]

theorem cutAuthority_append {t : Text} (ht : NoSlashAtEnd t) {u : Text}
    (hu : u.startsWith "/" = false) :
    cutAuthority (t ++ CodePoint.ofChar '/' :: u) =
      ((cutAuthority t).1, (cutAuthority t).2 ++ CodePoint.ofChar '/' :: u) := by
  have hslashes : (t ++ CodePoint.ofChar '/' :: u).startsWith "//" = t.startsWith "//" := by
    have hslash : text "//" = [CodePoint.ofChar '/', CodePoint.ofChar '/'] := rfl
    unfold Text.startsWith at hu ⊢
    rw [hslash]
    match t with
    | [] => exact hu
    | [p] =>
      have hp : (CodePoint.ofChar '/' == p) = false := by
        refine beq_eq_false_iff_ne.2 fun heq => ht ?_
        rw [← heq]
        rfl
      change (CodePoint.ofChar '/' == p && _) = (CodePoint.ofChar '/' == p && _)
      rw [hp, Bool.false_and, Bool.false_and]
    | p :: p' :: t => rfl
  unfold cutAuthority
  rw [hslashes]
  by_cases h : t.startsWith "//" = true
  · have hdrop : (t ++ CodePoint.ofChar '/' :: u).drop 2 =
        t.drop 2 ++ CodePoint.ofChar '/' :: u := by
      match t with
      | [] => cases h
      | [p] =>
        change (CodePoint.ofChar '/' == p && false) = true at h
        rw [Bool.and_false] at h
        cases h
      | p :: p' :: t => rfl
    rw [if_pos h, if_pos h, hdrop]
    exact span_append (by decide) _ _
  · rw [if_neg h, if_neg h]

theorem startsWith_slash_of_plainPath {t : Text} (ht : PlainPath t) : t.startsWith "/" = false := by
  obtain ⟨c, r, rfl, hc⟩ := ht.start
  exact startsWith_slash_of_isAlphanum hc

/-- A URL without a scheme is read as one. -/
theorem scheme_of_parse? (hb : Text.holds ':' b = false) {t : Text} {u : Url}
    (h : parse? (b ++ CodePoint.ofChar '/' :: t) = some u) : u.scheme = none := by
  have hscheme : (cutScheme (absolute (b ++ CodePoint.ofChar '/' :: t))).1 = none := by
    unfold absolute
    split
    · exact cutScheme_of_not_holds hb t
    · have hslashes : Text.holds ':' (text "//" ++ b) = false := by
        simpa [hb] using by decide
      rw [← List.append_assoc]
      exact cutScheme_of_not_holds hslashes t
  rw [parse?_eq] at h
  obtain ⟨place, -, rfl⟩ := Option.map_eq_some_iff.1 h
  exact hscheme

theorem noSlashAtEnd_absolute (hcolon : Text.holds ':' b = true) (hb : NoSlashAtEnd b) :
    NoSlashAtEnd (absolute b) := by
  obtain ⟨p, r, rfl⟩ := exists_cons hcolon
  unfold absolute
  split
  · exact hb
  · intro hlast
    apply hb
    rw [List.getLast?_append, List.getLast?_cons] at hlast
    rw [List.getLast?_cons]
    exact hlast

/-- **A plain path stands behind a slash in every URL that has a scheme**, whatever base it is put
behind. -/
theorem exists_parse? (hb : NoSlashAtEnd b) :
    ∃ before allowed normalized, IsComponentClass allowed ∧
      ∀ t u, PlainPath t → parse? (b ++ CodePoint.ofChar '/' :: t) = some u → u.scheme ≠ none →
        u.write = before ++ CodePoint.ofChar '/' :: quoted normalized allowed t := by
  by_cases hcolon : Text.holds ':' b = true
  · have hend := (noSlashAtEnd_absolute hcolon hb).of_suffix (cutScheme_suffix (absolute b))
    have hcolon' : Text.holds ':' (absolute b) = true := by
      unfold absolute
      split
      · exact hcolon
      · simp [hcolon]
    let s := cutScheme (absolute b)
    let a := cutAuthority s.2
    have hparse : ∀ t, PlainPath t → parse? (b ++ CodePoint.ofChar '/' :: t) =
        (place? (isNormalized s.1) a.1).map fun place =>
          assemble s.1 place (a.2 ++ CodePoint.ofChar '/' :: t) := by
      intro t ht
      rw [parse?_eq, absolute_append hcolon, cutScheme_append hcolon']
      dsimp only
      rw [cutAuthority_append hend (startsWith_slash_of_plainPath ht)]
    cases hplace : place? (isNormalized s.1) a.1 with
    | none =>
      refine ⟨[], inPath, true, isComponentClass_inPath, fun t u ht h => ?_⟩
      rw [hparse t ht, hplace] at h
      cases h
    | some place =>
      obtain ⟨before, allowed, hallowed, hwrite⟩ := exists_write s.1 place a.2
      refine ⟨before, allowed, isNormalized s.1, hallowed, fun t u ht h _ => ?_⟩
      rw [hparse t ht, hplace] at h
      obtain rfl := Option.some.inj h
      exact hwrite t ht
  · rw [Bool.not_eq_true] at hcolon
    exact ⟨[], inPath, true, isComponentClass_inPath, fun t u _ h hscheme =>
      absurd (scheme_of_parse? hcolon h) hscheme⟩

end Url

/-! ## Targets of requests -/

/-- Is the URL left as it is? -/
def isForeign (t : Text) : Bool :=
  Text.holds ':' t && !(Text.lower (t.take 4)).startsWith "http"

theorem isForeign_append {b : Text} (h : Text.holds ':' b = true) (t : Text) :
    isForeign (b ++ CodePoint.ofChar '/' :: t) = isForeign b := by
  have hstart : (Text.lower ((b ++ CodePoint.ofChar '/' :: t).take 4)).startsWith "http" =
      (Text.lower (b.take 4)).startsWith "http" := by
    rw [List.take_append]
    cases 4 - b.length with
    | zero => simp
    | succ n =>
      unfold Text.lower Text.startsWith
      rw [List.take_succ_cons, List.map_append, List.map_cons]
      exact Text.isPrefixOf_append (by decide) _ _
  unfold isForeign
  rw [hstart, Text.holds_append, h, Bool.true_or]

/-- The target of a request is left as it is, or it has a scheme and is written in its normal
form. -/
theorem target_cases {t u : Text} (h : requestUrl t = .ok u) :
    (isForeign (Text.stripLeft (·.has Text.isBlank) t) = true ∧
        u = Text.stripLeft (·.has Text.isBlank) t) ∨
      (isForeign (Text.stripLeft (·.has Text.isBlank) t) = false ∧
        ∃ v, Url.parse? (Text.stripLeft (·.has Text.isBlank) t) = some v ∧ v.scheme ≠ none ∧
          u = requote v.write) := by
  unfold requestUrl at h
  dsimp only at h
  generalize Text.stripLeft (·.has Text.isBlank) t = t at h ⊢
  cases hforeign : isForeign t with
  | true =>
    unfold isForeign at hforeign
    rw [if_pos hforeign] at h
    exact .inl ⟨rfl, (Except.ok.inj h).symm⟩
  | false =>
    unfold isForeign at hforeign
    rw [if_neg (by simp [hforeign])] at h
    cases hparse : Url.parse? t with
    | none =>
      rw [hparse] at h
      cases h
    | some v =>
      rw [hparse] at h
      dsimp only at h
      by_cases hscheme : v.scheme.isNone = true
      · rw [if_pos hscheme] at h
        cases h
      · rw [if_neg hscheme] at h
        split at h
        · cases h
        · split at h
          · cases h
          · exact .inr ⟨rfl, v, rfl, by simpa using hscheme, (Except.ok.inj h).symm⟩

theorem plainEscapes?_quoted {allowed : ByteClass} (h : Url.IsComponentClass allowed)
    (normalized : Bool) {t : Text} (ht : PlainPath t) :
    plainEscapes? (Url.quoted normalized allowed t) = some (Url.quoted normalized allowed t) := by
  cases normalized with
  | false => exact plainEscapes?_of_not_holds ht.percent
  | true => exact plainEscapes?_escape h.percent h.unreserved t

theorem eq_of_quoted {allowed : ByteClass} (h : Url.IsComponentClass allowed) (normalized : Bool)
    {b t t' : Text} (ht : PlainPath t) (ht' : PlainPath t')
    (heq : escape (keptInUrl b) (Url.quoted normalized allowed t) =
      escape (keptInUrl b) (Url.quoted normalized allowed t')) : t = t' := by
  cases normalized with
  | false => exact eq_of_escape ht.percent ht'.percent heq
  | true => exact eq_of_escape_escape h.percent h.kept heq

/-- **Different plain paths behind a base give different URLs.** -/
theorem requestUrl_injective {b : Text} (hb : Url.NoSlashAtEnd b) {t t' u : Text} (ht : PlainPath t)
    (ht' : PlainPath t') (h : requestUrl (b ++ CodePoint.ofChar '/' :: t) = .ok u)
    (h' : requestUrl (b ++ CodePoint.ofChar '/' :: t') = .ok u) : t = t' := by
  let b' := Text.stripLeft (·.has Text.isBlank) b
  have hstrip : ∀ t, Text.stripLeft (·.has Text.isBlank) (b ++ CodePoint.ofChar '/' :: t) =
      b' ++ CodePoint.ofChar '/' :: t := Text.stripLeft_append (by decide) b
  have hb' : Url.NoSlashAtEnd b' := hb.of_suffix (List.dropWhile_suffix _)
  have hsame : ∀ t t' v, isForeign (b' ++ CodePoint.ofChar '/' :: t) = true →
      isForeign (b' ++ CodePoint.ofChar '/' :: t') = false →
      Url.parse? (b' ++ CodePoint.ofChar '/' :: t') = some v → v.scheme = none := by
    intro t t' v hforeign hforeign' hparse
    by_cases hcolon : Text.holds ':' b' = true
    · rw [isForeign_append hcolon] at hforeign hforeign'
      rw [hforeign] at hforeign'
      cases hforeign'
    · rw [Bool.not_eq_true] at hcolon
      exact Url.scheme_of_parse? hcolon hparse
  have hcases := target_cases h
  have hcases' := target_cases h'
  rw [hstrip] at hcases hcases'
  rcases hcases with ⟨hforeign, rfl⟩ | ⟨hforeign, v, hparse, hscheme, rfl⟩
  · rcases hcases' with ⟨-, heq⟩ | ⟨hforeign', v', hparse', hscheme', -⟩
    · exact (List.cons.inj (List.append_cancel_left heq)).2
    · exact absurd (hsame t t' v' hforeign hforeign' hparse') hscheme'
  · rcases hcases' with ⟨hforeign', -⟩ | ⟨-, v', hparse', hscheme', heq⟩
    · exact absurd (hsame t' t v hforeign' hforeign hparse) hscheme
    · obtain ⟨before, allowed, normalized, hallowed, hwrite⟩ := Url.exists_parse? hb'
      rw [hwrite t v ht hparse hscheme, hwrite t' v' ht' hparse' hscheme',
        requote_append (plainEscapes?_quoted hallowed normalized ht),
        requote_append (plainEscapes?_quoted hallowed normalized ht')] at heq
      exact eq_of_quoted hallowed normalized ht ht'
        (List.cons.inj (List.append_cancel_left heq)).2

end JobMeter.Http
