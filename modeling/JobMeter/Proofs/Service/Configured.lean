import JobMeter.Proofs.Failing
import JobMeter.Proofs.Number.Infinity
import JobMeter.Service.Settings

/-!
# Accepted settings

The numbers of settings that are read of a text are bounded: the interval and the timeout are above
zero, and the size of the queue is not below it.  Nothing checks that they are finite, so a text can
set the interval or the timeout to infinity, as a double or as a text that writes one.  It cannot
do so in another way: an integer that is too large for a double is refused, and what is not a number
is not above zero.

* `Schema.Checked.seq_eq_ok`, `Schema.withDefault_eq_ok_iff`, `Schema.above_eq_ok` and others — what
  passes a check.
* `Schema.SaysInfinity`, `Schema.asFloat_eq_infinity` — the values that are read as infinity.
* `Service.ends_of_withDefault` — a field with a default ends, unless what is written does not.
* `Service.Settings.ends_of_check` — the settings of a document.
* `Service.settings_bounded` — **accepted settings**, from the text on.
-/

namespace JobMeter

namespace Schema

variable {ε : Type} {α β : Type}

/-! ## What passes a check -/

namespace Checked

theorem seq_eq_ok {f : Checked (α → β)} {a : Checked α} {b : β} :
    f <*> a = .ok b ↔ ∃ g x, f = .ok g ∧ a = .ok x ∧ g x = b := by
  constructor
  · intro h
    cases f with
    | error es => cases a <;> cases h
    | ok g =>
      cases a with
      | error es => cases h
      | ok x => exact ⟨g, x, rfl, rfl, Except.ok.inj h⟩
  · rintro ⟨g, x, rfl, rfl, rfl⟩
    rfl

theorem map_eq_ok {f : α → β} {a : Checked α} {b : β} :
    f <$> a = .ok b ↔ ∃ x, a = .ok x ∧ f x = b := by
  constructor
  · intro h
    cases a with
    | error es => cases h
    | ok x => exact ⟨x, rfl, Except.ok.inj h⟩
  · rintro ⟨x, rfl, rfl⟩
    rfl

theorem andThen_eq_ok {a : Checked α} {f : α → Checked β} {b : β} :
    a.andThen f = .ok b ↔ ∃ x, a = .ok x ∧ f x = .ok b := by
  constructor
  · intro h
    cases a with
    | error es => cases h
    | ok x => exact ⟨x, rfl, h⟩
  · rintro ⟨x, rfl, h⟩
    exact h

theorem below_eq_ok {a : Checked α} {st : Step} {x : α} : a.below st = .ok x ↔ a = .ok x := by
  cases a with
  | ok y => exact Iff.rfl
  | error es => exact ⟨nofun, nofun⟩

end Checked

variable {check : Check ε α} {name : String} {fs : Fields ε}

theorem asRecord_eq_ok {check : Fields ε → Checked α} {v : Tree ε} {a : α} :
    asRecord check v = .ok a ↔ ∃ fs, v = .map fs ∧ check fs = .ok a := by
  cases v with
  | map fs => exact ⟨fun h => ⟨fs, rfl, h⟩, fun ⟨_, hfs, h⟩ => by cases hfs; exact h⟩
  | _ => exact ⟨nofun, nofun⟩

theorem withDefault_eq_ok_iff {default a : α} : withDefault name default check fs = .ok a ↔
    (Tree.find? (text name) fs = none ∧ a = default) ∨
      ∃ v, Tree.find? (text name) fs = some v ∧ check v = .ok a := by
  rw [withDefault]
  cases Tree.find? (text name) fs with
  | none =>
    constructor
    · exact fun h => .inl ⟨rfl, (Except.ok.inj h).symm⟩
    · rintro (⟨-, rfl⟩ | ⟨v, hv, -⟩)
      · rfl
      · cases hv
  | some v => simp [Checked.below_eq_ok]

theorem nullable_eq_ok {v : Tree ε} {o : Option α} (h : nullable check v = .ok o) :
    (v = .null ∧ o = none) ∨ ∃ a, check v = .ok a ∧ o = some a := by
  unfold nullable at h
  split at h
  · exact .inl ⟨rfl, (Except.ok.inj h).symm⟩
  · obtain ⟨a, ha, rfl⟩ := Checked.map_eq_ok.1 h
    exact .inr ⟨a, ha, rfl⟩

theorem above_eq_ok {bound x : Float} {check : Check ε Float} {v : Tree ε} :
    above bound check v = .ok x ↔ check v = .ok x ∧ bound < x := by
  rw [above, Checked.andThen_eq_ok]
  constructor
  · rintro ⟨y, hy, h⟩
    split at h
    · rename_i hlt
      cases h
      exact ⟨hy, hlt⟩
    · cases h
  · rintro ⟨hx, hlt⟩
    exact ⟨x, hx, if_pos hlt⟩

theorem atLeast_eq_ok {bound n : Int} {check : Check ε Int} {v : Tree ε} :
    atLeast bound check v = .ok n ↔ check v = .ok n ∧ bound ≤ n := by
  rw [atLeast, Checked.andThen_eq_ok]
  constructor
  · rintro ⟨y, hy, h⟩
    split at h
    · rename_i hle
      cases h
      exact ⟨hy, hle⟩
    · cases h
  · rintro ⟨hn, hle⟩
    exact ⟨n, hn, if_pos hle⟩

/-! ## What is read as infinity -/

section Infinity

variable [ByteScalar ε]

/-- The value is infinity, or a text that writes it. -/
def SaysInfinity : Tree ε → Prop
  | .float x => x = Number.infinity
  | .text t => floatOfText t = .ok Number.infinity
  | .leaf a => ∃ bs t, ByteScalar.bytes? a = some bs ∧ Text.Utf8.decode? false bs = some t ∧
      floatOfText t = .ok Number.infinity
  | _ => False

/-- No integer is read as infinity, however many digits it has. -/
theorem floatOfInteger_ne_infinity (n : Int) : floatOfInteger n ≠ .ok Number.infinity := by
  intro h
  rw [floatOfInteger] at h
  split at h
  · rename_i hfinite
    rw [Except.ok.inj h, Number.isFinite_infinity] at hfinite
    cases hfinite
  · cases h

theorem asFloat_eq_infinity {v : Tree ε} : asFloat v = .ok Number.infinity ↔ SaysInfinity v := by
  cases v with
  | float x => exact ⟨fun h => Except.ok.inj h, fun h => congrArg Except.ok h⟩
  | int n => exact ⟨fun h => floatOfInteger_ne_infinity n h, nofun⟩
  | text t => exact Iff.rfl
  | bool b =>
    refine ⟨fun h => ?_, nofun⟩
    have hb : (if b then 1 else 0) = Number.infinity := Except.ok.inj h
    have hne : ∀ b : Bool, (if b then 1 else 0) ≠ Number.infinity := by decide +kernel
    exact hne b hb
  | leaf a =>
    rw [asFloat, SaysInfinity]
    cases ByteScalar.bytes? a with
    | none =>
      refine ⟨nofun, ?_⟩
      rintro ⟨bs, t, ⟨⟩, -⟩
    | some bs =>
      dsimp only
      cases hbs : Text.Utf8.decode? false bs with
      | none =>
        refine ⟨nofun, ?_⟩
        rintro ⟨_, t, ⟨⟩, ht, -⟩
        rw [hbs] at ht
        cases ht
      | some t => simp [hbs]
  | _ => exact ⟨nofun, nofun⟩

instance : DecidableEq (Checked Float) :=
  inferInstanceAs (DecidableEq (Except (List Fault) Float))

instance : DecidablePred (SaysInfinity : Tree ε → Prop) := fun _ =>
  decidable_of_iff _ asFloat_eq_infinity

end Infinity

end Schema

/-! ## Accepted documents -/

open Schema

/-- The timeout is above zero. -/
def Http.Timeout.Positive : Http.Timeout → Prop
  | .whole n => 0 < n
  | .seconds x => 0 < x

/-- The timeout comes to an end. -/
def Http.Timeout.Finite : Http.Timeout → Prop
  | .whole _ => True
  | .seconds x => Number.isFinite x

namespace Service

/-- All numbers are in their bounds. -/
structure Settings.Bounded (s : Settings) : Prop where
  interval : 0 < s.accrualInterval
  queueSize : 0 ≤ s.queueSize
  timeout : ∀ p, s.platform = some p → p.timeout.Positive

/-- Every wait comes to an end. -/
structure Settings.Finite (s : Settings) : Prop where
  interval : Number.isFinite s.accrualInterval
  timeout : ∀ p, s.platform = some p → p.timeout.Finite

variable {ε : Type}

/-- The document has a field of this name, and its value is such. -/
def HasField (name : String) (P : Tree ε → Prop) (v : Tree ε) : Prop :=
  ∃ w, v.get? name = some w ∧ P w

instance (name : String) (P : Tree ε → Prop) [DecidablePred P] : DecidablePred (HasField name P) :=
  fun v =>
    match h : v.get? name with
    | some w => decidable_of_iff (P w) ⟨fun hw => ⟨w, h, hw⟩, fun ⟨_, h', hw⟩ =>
        Option.some.inj (h.symm.trans h') ▸ hw⟩
    | none => isFalse fun ⟨_, h', _⟩ => nomatch h.symm.trans h'

/-- What holds of a default and of each value that is read holds of a field, which ends unless its
value is such that it does not. -/
theorem ends_of_withDefault {α : Type} (Positive Ends : α → Prop) {check : Check ε α}
    {Endless : Tree ε → Prop} {name : String} {default a : α} {fs : Fields ε}
    (hdefault : Positive default ∧ Ends default)
    (hcheck : ∀ w b, check w = .ok b → Positive b ∧ (Ends b ↔ ¬Endless w))
    (h : withDefault name default check fs = .ok a) :
    Positive a ∧ (Ends a ↔ ¬HasField name Endless (.map fs)) := by
  rcases withDefault_eq_ok_iff.1 h with ⟨hmissing, rfl⟩ | ⟨w, hw, hread⟩
  · refine ⟨hdefault.1, fun _ => ?_, fun _ => hdefault.2⟩
    rintro ⟨w, hw, -⟩
    cases hmissing.symm.trans hw
  · obtain ⟨hpos, hends⟩ := hcheck w a hread
    refine ⟨hpos, hends.trans (not_congr ⟨fun hinf => ⟨w, hw, hinf⟩, ?_⟩)⟩
    rintro ⟨w', hw', hinf⟩
    rwa [Option.some.inj (hw.symm.trans hw')]

variable [ByteScalar ε]

/-- The document sets a wait to infinity. -/
def SetsEndless (v : Tree ε) : Prop :=
  HasField "accrual_interval" SaysInfinity v ∨
    HasField "github_config" (HasField "timeout" SaysInfinity) v

instance : DecidablePred (SetsEndless : Tree ε → Prop) := fun v =>
  inferInstanceAs (Decidable (HasField _ _ v ∨ HasField _ _ v))

/-- A double that is read as one above zero ends, unless it is written as infinity. -/
theorem ends_of_above {w : Tree ε} {x : Float} (h : above 0 asFloat w = .ok x) :
    0 < x ∧ (Number.isFinite x ↔ ¬SaysInfinity w) := by
  obtain ⟨hx, hpos⟩ := above_eq_ok.1 h
  rw [← asFloat_eq_infinity, hx]
  refine ⟨hpos, fun hfinite hinf => ?_, fun hne => ?_⟩
  · rw [Except.ok.inj hinf, Number.isFinite_infinity] at hfinite
    cases hfinite
  · by_contra hfinite
    rw [Bool.not_eq_true] at hfinite
    exact hne (congrArg Except.ok (Number.eq_infinity_of_not_isFinite hpos hfinite))

/-- An accepted timeout is above zero, and it ends unless infinity was written. -/
theorem PlatformSettings.ends_of_check {v : Tree ε} {p : PlatformSettings} (h : check v = .ok p) :
    p.timeout.Positive ∧ (p.timeout.Finite ↔ ¬HasField "timeout" SaysInfinity v) := by
  obtain ⟨fs, rfl, hfs⟩ := asRecord_eq_ok.1 h
  simp only [Checked.seq_eq_ok, Checked.map_eq_ok] at hfs
  obtain ⟨_, timeout, ⟨_, apiUrl, ⟨token, -, rfl⟩, -, rfl⟩, htimeout, rfl⟩ := hfs
  have husual : Platform.Client.usualTimeout.Positive ∧ Platform.Client.usualTimeout.Finite :=
    ⟨Int.lt_of_sub_pos (by decide), trivial⟩
  refine ends_of_withDefault Http.Timeout.Positive Http.Timeout.Finite husual ?_ htimeout
  intro w b hb
  obtain ⟨x, hx, rfl⟩ := Checked.map_eq_ok.1 hb
  exact ends_of_above hx

/-- The settings of the platform may be null, and then there is no wait to end. -/
theorem PlatformSettings.ends_of_nullable {v : Tree ε} {o : Option PlatformSettings}
    (h : nullable check v = .ok o) : (∀ p, o = some p → p.timeout.Positive) ∧
      ((∀ p, o = some p → p.timeout.Finite) ↔ ¬HasField "timeout" SaysInfinity v) := by
  rcases nullable_eq_ok h with ⟨rfl, rfl⟩ | ⟨p, hp, rfl⟩
  · refine ⟨by rintro _ ⟨⟩, fun _ => ?_, fun _ => by rintro _ ⟨⟩⟩
    rintro ⟨w, ⟨⟩, -⟩
  · obtain ⟨hpos, hends⟩ := ends_of_check hp
    constructor
    · rintro _ ⟨⟩
      exact hpos
    · rw [← hends]
      exact ⟨fun h => h p rfl, by rintro h _ ⟨⟩; exact h⟩

namespace Settings

/-- Accepted settings are bounded, and every wait ends unless infinity was written. -/
theorem ends_of_check {v : Tree ε} {s : Settings} (h : check v = .ok s) :
    s.Bounded ∧ (s.Finite ↔ ¬SetsEndless v) := by
  obtain ⟨fs, rfl, hfs⟩ := asRecord_eq_ok.1 h
  simp only [Checked.seq_eq_ok, Checked.map_eq_ok] at hfs
  obtain ⟨_, queueSize, ⟨_, interval, ⟨_, platform, ⟨name, -, rfl⟩, hplatform, rfl⟩, hinterval, rfl⟩,
    hqueue, rfl⟩ := hfs
  have hsize : 0 ≤ queueSize := by
    rcases withDefault_eq_ok_iff.1 hqueue with ⟨-, rfl⟩ | ⟨w, -, hw⟩
    · exact Int.le_refl 0
    · exact (atLeast_eq_ok.1 hw).2
  obtain ⟨hpos, hends⟩ := ends_of_withDefault (fun x : Float => 0 < x)
    (fun x : Float => Number.isFinite x = true) (by decide +kernel)
    (fun w b hb => ends_of_above hb) hinterval
  obtain ⟨htimeout, hplatformEnds⟩ := ends_of_withDefault
    (fun o : Option PlatformSettings => ∀ p, o = some p → p.timeout.Positive)
    (fun o : Option PlatformSettings => ∀ p, o = some p → p.timeout.Finite)
    ⟨by rintro _ ⟨⟩, by rintro _ ⟨⟩⟩ (fun _ _ => PlatformSettings.ends_of_nullable) hplatform
  refine ⟨⟨hpos, hsize, htimeout⟩, ?_⟩
  rw [SetsEndless, not_or, ← hends, ← hplatformEnds]
  exact ⟨fun h => ⟨h.interval, h.timeout⟩, fun h => ⟨h.1, h.2⟩⟩

theorem get?_of_isNothing {v : Yaml.Value} (h : isNothing v) (name : String) :
    v.get? name = none := by
  cases v with
  | map entries =>
    obtain rfl : entries = [] := List.isEmpty_iff.1 h
    rfl
  | _ => rfl

/-- What holds nothing sets nothing. -/
theorem setsEndless_of_isNothing {v : Yaml.Value} (h : isNothing v) : ¬SetsEndless v := by
  rintro (⟨w, hw, -⟩ | ⟨w, hw, -⟩)
  · cases (get?_of_isNothing h _).symm.trans hw
  · cases (get?_of_isNothing h _).symm.trans hw

theorem read_eq_ok {t : Text} {s : Settings} (h : read t = .ok s) :
    ∃ v, Yaml.Value.parse t = .ok v ∧ check (if isNothing v then .map [] else v) = .ok s := by
  obtain ⟨v, hv, h⟩ := exists_ok_of_bind_eq_ok h
  refine ⟨v, hv, ?_⟩
  split at h
  · rename_i hcheck
    rw [← Except.ok.inj h]
    exact hcheck
  · cases h

end Settings

/-- What can be evaluated of a result without a failure. -/
theorem exists_ok_of_any {α : Type} {r : Except Failure α} {p : α → Bool}
    (h : r.toOption.any p = true) : ∃ a, r = .ok a ∧ p a = true := by
  cases r with
  | ok a => exact ⟨a, rfl, h⟩
  | error f => cases h

/-- **Accepted settings.**  The interval and the timeout of settings that were read of a text are
above zero, and the size of the queue is not below it.  All waits end, unless the text sets one to
infinity. -/
theorem settings_bounded {t : Text} {s : Settings} (h : Settings.read t = .ok s) :
    s.Bounded ∧ ∃ v, Yaml.Value.parse t = .ok v ∧ (s.Finite ↔ ¬SetsEndless v) := by
  obtain ⟨v, hv, hcheck⟩ := Settings.read_eq_ok h
  obtain ⟨hbounded, hends⟩ := Settings.ends_of_check hcheck
  refine ⟨hbounded, v, hv, hends.trans (not_congr ?_)⟩
  split
  · rename_i hnothing
    have hempty : ¬SetsEndless (.map [] : Yaml.Value) :=
      Settings.setsEndless_of_isNothing (v := .map []) rfl
    exact iff_of_false hempty (Settings.setsEndless_of_isNothing hnothing)
  · exact Iff.rfl

/-- The waits of a text may end, also if its numbers are written as texts. -/
theorem settings_bounded_ending :
    ∃ s, Settings.read (text "accrual_interval: 1e1\ngithub_config:\n  token: t\n  timeout: '3'") =
      .ok s ∧ s.Bounded ∧ s.Finite := by
  obtain ⟨s, hs, -⟩ := exists_ok_of_any (p := fun _ => true) (r := Settings.read
    (text "accrual_interval: 1e1\ngithub_config:\n  token: t\n  timeout: '3'")) (by decide +kernel)
  obtain ⟨hbounded, v, hv, hends⟩ := settings_bounded hs
  obtain ⟨w, hw, hset⟩ := exists_ok_of_any (p := fun w => ¬SetsEndless w) (r := Yaml.Value.parse
    (text "accrual_interval: 1e1\ngithub_config:\n  token: t\n  timeout: '3'")) (by decide +kernel)
  obtain rfl : v = w := Except.ok.inj (hv.symm.trans hw)
  exact ⟨s, hs, hbounded, hends.2 (of_decide_eq_true hset)⟩

/-- A text may set an interval that does not end. -/
theorem settings_endless :
    ∃ s, Settings.read (text "accrual_interval: .inf\n") = .ok s ∧ ¬s.Finite := by
  obtain ⟨s, hs, hinf⟩ := exists_ok_of_any (p := fun s => !Number.isFinite s.accrualInterval)
    (r := Settings.read (text "accrual_interval: .inf\n")) (by decide +kernel)
  refine ⟨s, hs, fun h => ?_⟩
  rw [h.interval] at hinf
  cases hinf

end Service

end JobMeter
