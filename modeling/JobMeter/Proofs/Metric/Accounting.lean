import JobMeter.Proofs.Metric.Values
import Mathlib.Algebra.Order.Field.Basic
import Mathlib.Algebra.Order.Field.Rat
import Mathlib.Algebra.Order.Ring.Cast
import Mathlib.Data.List.Induction

/-!
# The account of a store

Whatever is called upon a store, in whatever order and with whatever labels, each of its series is
an account of the calls that were accepted for it.

* `Store.Call`, `Store.Call.Admitted` — a call, and what the store accepts: the metric is of the
  kind that is asked for, the labels have its label names, and no counter is to go down.
* `Series.Tells v kind xs` — the series of that kind tells of the amounts `xs`: it has their sum,
  and a histogram has their number up to each bound.
* `Store.Accounts s calls` — each series of the store tells of the accepted calls with its labels.
* `Store.accounts_perform` — a call is added to the account, or it is refused and starts a series at
  most.
* `calls_accounted` — **the account of a store**, after any calls.
-/

namespace JobMeter

/-! ## Buckets -/

namespace Series

/-- The value is not above the bound, which is given in microseconds and may be missing. -/
def UpTo (x : Rat) : Option Int → Prop
  | some bound => x ≤ bound / 1000000
  | none => True

instance (x : Rat) (b : Option Int) : Decidable (UpTo x b) :=
  match b with
  | some bound => inferInstanceAs (Decidable (x ≤ bound / 1000000))
  | none => inferInstanceAs (Decidable True)

theorem within_eq (x : Rat) (b : Option Int) : within x b = decide (UpTo x b) := by
  cases b with
  | some bound => rfl
  | none => exact decide_eq_true (le_refl x)

/-- The bound comes before the other one, or is the same. -/
def boundLe (b b' : Option Int) : Bool := b'.all fun bound' => b.any fun bound => bound ≤ bound'

theorem pairwise_bucketBounds : bucketBounds.Pairwise fun b b' => boundLe b b' := by
  decide

theorem UpTo.mono {x : Rat} {b b' : Option Int} (h : UpTo x b) (hb : boundLe b b') :
    UpTo x b' := by
  cases b' with
  | none => trivial
  | some bound' =>
    cases b with
    | none => cases hb
    | some bound =>
      have hle : bound ≤ bound' := of_decide_eq_true hb
      have hcast : (bound : Rat) ≤ bound' := Int.cast_le.2 hle
      exact le_trans h (div_le_div_of_nonneg_right hcast (by decide))

/-- What the numbers add up to, each with those before it. -/
def partialSums : Nat → List Nat → List Nat
  | _, [] => []
  | sum, n :: ns => (sum + n) :: partialSums (sum + n) ns

theorem partialSums_succ (sum : Nat) (ns : List Nat) :
    partialSums (sum + 1) ns = (partialSums sum ns).map (· + 1) := by
  induction ns generalizing sum with
  | nil => rfl
  | cons n ns ih =>
    rw [partialSums, partialSums, List.map_cons, ← ih, Nat.add_right_comm]

theorem cumulative_eq (v : Series Rat) : v.cumulative = partialSums 0 v.buckets := by
  have hfold : ∀ (ns : List Nat) (sum : Nat) (out : List Nat),
      (ns.foldl (fun p n => (p.1 + n, p.2 ++ [p.1 + n])) (sum, out)).2 =
        out ++ partialSums sum ns := by
    intro ns
    induction ns with
    | nil => exact fun _ out => (List.append_nil out).symm
    | cons n ns ih =>
      intro sum out
      rw [List.foldl_cons, ih, partialSums, List.append_assoc, List.singleton_append]
  exact hfold v.buckets 0 []

/-- A value that is counted is counted for each bound that it is not above. -/
theorem partialSums_count (x : Rat) {bs : List (Option Int)}
    (hbs : bs.Pairwise fun b b' => boundLe b b') {ns : List Nat} {sum : Nat} {f : Option Int → Nat}
    (h : partialSums sum ns = bs.map f) :
    partialSums sum (count x bs ns) = bs.map fun b => f b + if UpTo x b then 1 else 0 := by
  induction bs generalizing ns sum with
  | nil =>
    cases ns with
    | nil => rfl
    | cons n ns => cases h
  | cons b bs ih =>
    cases ns with
    | nil => cases h
    | cons n ns =>
      obtain ⟨hlater, hrest⟩ := List.pairwise_cons.1 hbs
      rw [partialSums, List.map_cons] at h
      obtain ⟨hhead, htail⟩ := List.cons.inj h
      rw [count, within_eq, List.map_cons]
      by_cases hb : UpTo x b
      · -- the value is not above any of the later bounds
        have hmap : bs.map (fun b' => f b' + if UpTo x b' then 1 else 0) =
            (bs.map f).map (· + 1) := by
          rw [List.map_map]
          exact List.map_congr_left fun b' hb' => by
            rw [if_pos (hb.mono (hlater b' hb')), Function.comp_apply]
        rw [decide_eq_true hb, if_pos rfl, if_pos hb, partialSums, ← Nat.add_assoc,
          partialSums_succ, htail, hhead, hmap]
      · rw [decide_eq_false hb, if_neg Bool.false_ne_true, if_neg hb, partialSums, hhead,
          Nat.add_zero, ih hrest (hhead ▸ htail)]

/-! ## What a series tells -/

/-- The series tells of these amounts, in their order. -/
structure Tells (v : Series Rat) (kind : Metric.Kind) (xs : List Rat) : Prop where
  /-- It has what they add up to. -/
  sum : v.sum = xs.sum
  /-- A histogram has the number of those up to each bound. -/
  cumulative : kind = .histogram →
    v.cumulative = bucketBounds.map fun b => xs.countP fun x => UpTo x b
  /-- A histogram has their number. -/
  number : kind = .histogram → v.cumulative.getLastD 0 = xs.length

/-- A series of which nothing is known tells of nothing. -/
theorem tells_empty (kind : Metric.Kind) : (empty kind : Series Rat).Tells kind [] where
  sum := rfl
  cumulative h := by
    subst h
    rfl
  number h := by
    subst h
    rfl

theorem Tells.add {v : Series Rat} {xs : List Rat} (h : v.Tells .counter xs) (x : Rat) :
    (v.add x).Tells .counter (xs ++ [x]) where
  sum := by
    rw [List.sum_append, List.sum_singleton, ← h.sum]
    rfl
  cumulative := nofun
  number := nofun

theorem Tells.record {v : Series Rat} {xs : List Rat} (h : v.Tells .histogram xs) (x : Rat) :
    (v.record x).Tells .histogram (xs ++ [x]) := by
  have hcumulative : (v.record x).cumulative =
      bucketBounds.map fun b => (xs ++ [x]).countP fun x => UpTo x b := by
    have hold := h.cumulative rfl
    rw [cumulative_eq] at hold
    rw [cumulative_eq]
    refine (partialSums_count x pairwise_bucketBounds hold).trans (List.map_congr_left fun b _ => ?_)
    rw [List.countP_append, List.countP_singleton]
    simp only [decide_eq_true_eq]
  refine ⟨?_, fun _ => hcumulative, fun _ => ?_⟩
  · rw [List.sum_append, List.sum_singleton, ← h.sum]
    rfl
  · -- the last bucket has no bound, so every value is up to it
    have hlast : bucketBounds = bucketBounds.dropLast ++ [none] := by decide
    rw [hcumulative, hlast, List.map_append, List.map_singleton, List.getLastD_concat]
    exact List.countP_eq_length.2 fun _ _ => decide_eq_true trivial

/-- A series with one more amount, which a histogram also counts. -/
def take (kind : Metric.Kind) (x : Rat) (v : Series Rat) : Series Rat :=
  match kind with
  | .counter => v.add x
  | .histogram => v.record x

theorem Tells.take {kind : Metric.Kind} {v : Series Rat} {xs : List Rat} (h : v.Tells kind xs)
    (x : Rat) : (v.take kind x).Tells kind (xs ++ [x]) := by
  cases kind with
  | counter => exact h.add x
  | histogram => exact h.record x

end Series

namespace Store

/-! ## Calls -/

/-- A call upon a store. -/
inductive Call where
  | increase (m : Metric) (labels : Labels) (amount : Rat)
  | observe (m : Metric) (labels : Labels) (value : Rat)

namespace Call

/-- The metric that is called upon. -/
def metric : Call → Metric
  | increase m _ _ => m
  | observe m _ _ => m

/-- The labels of the call. -/
def labels : Call → Labels
  | increase _ labels _ => labels
  | observe _ labels _ => labels

/-- The amount of the call, or its value. -/
def amount : Call → Rat
  | increase _ _ x => x
  | observe _ _ x => x

/-- The kind of the metrics that can be called upon like this. -/
def kind : Call → Metric.Kind
  | increase .. => .counter
  | observe .. => .histogram

/-- What a store accepts. -/
structure Admitted (c : Call) : Prop where
  /-- The metric is of the kind that is asked for. -/
  kind : c.metric.kind = c.kind
  /-- The labels have the label names of the metric, in any order. -/
  labels : (c.labels.map Prod.fst).Perm c.metric.labelNames
  /-- A counter does not go down. -/
  amount : c.kind = .counter → 0 ≤ c.amount

theorem admitted_iff (c : Call) :
    c.Admitted ↔ c.metric.kind = c.kind ∧ (c.labels.map Prod.fst).Perm c.metric.labelNames ∧
      (c.kind = .counter → 0 ≤ c.amount) :=
  ⟨fun h => ⟨h.kind, h.labels, h.amount⟩, fun h => ⟨h.1, h.2.1, h.2.2⟩⟩

instance : DecidablePred Admitted := fun c => decidable_of_iff _ (admitted_iff c).symm

/-- How a call that is not accepted fails. -/
def refusal (c : Call) : FailureKind :=
  if c.metric.kind = c.kind then .invalidValue else .unknownKey

/-- The call is one upon the series that these labels name. -/
def Concerns (c : Call) (m : Metric) (labels : Labels) : Prop :=
  m = c.metric ∧ labels.Perm c.labels

instance (c : Call) (m : Metric) (labels : Labels) : Decidable (c.Concerns m labels) :=
  inferInstanceAs (Decidable (_ ∧ _))

end Call

/-- Makes a call. -/
def perform (s : Store Rat) : Call → Except Failure Unit × Store Rat
  | .increase m labels x => s.increase m labels x
  | .observe m labels x => s.observe m labels x

/-- A new store after these calls. -/
def afterCalls (calls : List Call) : Store Rat :=
  calls.foldl (fun s c => (s.perform c).2) empty

/-- The amounts of the accepted calls upon the series that these labels name. -/
def accepted (calls : List Call) (m : Metric) (labels : Labels) : List Rat :=
  (calls.filter fun c => c.Admitted ∧ c.Concerns m labels).map Call.amount

/-- An accepted call upon a series is one more of its calls. -/
theorem accepted_concat (calls : List Call) {c : Call} {m : Metric} {labels : Labels}
    (h : c.Concerns m labels) :
    accepted (calls ++ [c]) m labels =
      accepted calls m labels ++ if c.Admitted then [c.amount] else [] := by
  by_cases hc : c.Admitted <;> simp [accepted, h, hc]

/-- Other calls are not. -/
theorem accepted_concat_of_not (calls : List Call) {c : Call} {m : Metric} {labels : Labels}
    (h : ¬(c.Admitted ∧ c.Concerns m labels)) :
    accepted (calls ++ [c]) m labels = accepted calls m labels := by
  simp [accepted, h]

/-! ## What a call does -/

theorem kind_of_key?_eq_error {m : Metric} {labels : Labels} {f : Failure}
    (h : key? m labels = .error f) : f.kind = .invalidValue := by
  unfold key? at h
  split at h
  · cases h
  · cases h
    rfl
  · cases h
    rfl
  · cases h
    rfl
  · split at h
    · cases h
    · cases h
      rfl

theorem perm_of_key?_eq_ok {m : Metric} {labels : Labels} {key : Metric × List Text}
    (h : key? m labels = .ok key) : (labels.map Prod.fst).Perm m.labelNames := by
  obtain ⟨-, hlen, hperm⟩ := key?_eq_ok.1 h
  have hnames := hperm.map Prod.fst
  rwa [List.map_fst_zip hlen.ge] at hnames

/-- An accepted call adds to its series. -/
theorem perform_of_admitted {c : Call} (hc : c.Admitted) (s : Store Rat) :
    ∃ key, key? c.metric c.labels = .ok key ∧
      s.perform c = (.ok (), s.modify key (Series.take c.kind c.amount)) := by
  obtain ⟨values, hkey⟩ := exists_key?_eq_ok hc.labels
  refine ⟨(c.metric, values), hkey, ?_⟩
  cases c with
  | increase m labels x => exact increase_eq hc.kind hkey (hc.amount rfl) s
  | observe m labels x => exact observe_eq hc.kind hkey x s

/-- A call upon a metric of the other kind is refused. -/
theorem perform_of_kind_ne {c : Call} (hc : c.metric.kind ≠ c.kind) (s : Store Rat) :
    s.perform c = (wrongKind c.metric, s) := by
  cases c with
  | increase m labels x => exact if_pos hc
  | observe m labels x => exact if_pos hc

/-- A call with labels that name no series is refused. -/
theorem perform_of_key?_eq_error {c : Call} (hkind : c.metric.kind = c.kind) {f : Failure}
    (hkey : key? c.metric c.labels = .error f) (s : Store Rat) : s.perform c = (.error f, s) := by
  cases c with
  | increase m labels x =>
    refine (if_neg (not_not.2 hkind)).trans ?_
    rw [show key? m labels = .error f from hkey]
  | observe m labels x =>
    refine (if_neg (not_not.2 hkind)).trans ?_
    rw [show key? m labels = .error f from hkey]

/-- A counter does not go down, but its series is looked up first. -/
theorem increase_of_lt {m : Metric} (hm : m.kind = .counter) {labels : Labels}
    {key : Metric × List Text} (hkey : key? m labels = .ok key) {x : Rat} (hx : x < 0)
    (s : Store Rat) :
    s.increase m labels x =
      (refused "Counters can only be incremented by non-negative amounts.", s.modify key id) := by
  refine (if_neg (not_not.2 hm)).trans ?_
  rw [hkey]
  exact if_pos (decide_eq_true hx)

/-- A call that is not accepted is refused, and it looks its series up at most. -/
theorem perform_of_not_admitted {c : Call} (hc : ¬c.Admitted) (s : Store Rat) :
    ∃ f : Failure, f.kind = c.refusal ∧ (s.perform c = (.error f, s) ∨
      ∃ key, key? c.metric c.labels = .ok key ∧ s.perform c = (.error f, s.modify key id)) := by
  by_cases hkind : c.metric.kind = c.kind
  · rw [Call.refusal, if_pos hkind]
    cases hkey : key? c.metric c.labels with
    | error f =>
      exact ⟨f, kind_of_key?_eq_error hkey, .inl (perform_of_key?_eq_error hkind hkey s)⟩
    | ok key =>
      cases c with
      | increase m labels x =>
        have hx : x < 0 := not_le.1 fun hx => hc ⟨hkind, perm_of_key?_eq_ok hkey, fun _ => hx⟩
        exact ⟨_, rfl, .inr ⟨key, rfl, increase_of_lt hkind hkey hx s⟩⟩
      | observe m labels x => exact absurd ⟨hkind, perm_of_key?_eq_ok hkey, nofun⟩ hc
  · rw [Call.refusal, if_neg hkind]
    exact ⟨_, rfl, .inl (perform_of_kind_ne hkind s)⟩

/-- To look a series up is to start it, if it is new. -/
theorem exists_modify_id (s : Store Rat) (key : Metric × List Text) :
    ∃ started : Option (Metric × List Text), s.modify key id =
      ⟨s.series ++ (started.map fun key => (key, Series.empty key.1.kind)).toList⟩ := by
  cases hfind : Tree.find? key s.series with
  | none =>
    have hkey : key ∉ s.series.map Prod.fst := by
      rw [← Tree.isSome_find?, hfind]
      exact Bool.false_ne_true
    refine ⟨some key, ?_⟩
    rw [modify, hfind, Tree.put_of_not_mem hkey]
    rfl
  | some v =>
    refine ⟨none, ?_⟩
    rw [modify, hfind]
    exact congrArg Store.mk ((Tree.put_of_find?_eq_some hfind).trans (List.append_nil _).symm)

/-! ## The account -/

/-- The series of the store tell of the accepted ones of these calls. -/
structure Accounts (s : Store Rat) (calls : List Call) : Prop where
  /-- Each series is exposed once. -/
  once : (s.series.map Prod.fst).Nodup
  /-- What is exposed are the series that labels name. -/
  named : ∀ m values v, ((m, values), v) ∈ s.series →
    values.length = m.labelNames.length ∧ s.series? m (m.labelNames.zip values) = some v
  /-- Each of them tells of the accepted calls upon it. -/
  told : ∀ m labels v, s.series? m labels = some v → v.Tells m.kind (accepted calls m labels)
  /-- There were none upon a series that is not there. -/
  missing : ∀ m labels, s.series? m labels = none → accepted calls m labels = []

namespace Accounts

variable {s : Store Rat} {calls : List Call}

/-- A series that was not started tells of nothing. -/
theorem tells (h : s.Accounts calls) (m : Metric) (labels : Labels) :
    ((s.series? m labels).getD (Series.empty m.kind)).Tells m.kind (accepted calls m labels) := by
  cases hv : s.series? m labels with
  | some v => exact h.told m labels v hv
  | none =>
    rw [h.missing m labels hv]
    exact Series.tells_empty m.kind

/-- A call that leaves the store alone is not one of the accepted ones. -/
theorem concat (h : s.Accounts calls) {c : Call} (hc : ¬c.Admitted) :
    s.Accounts (calls ++ [c]) := by
  have hsame : ∀ m labels, accepted (calls ++ [c]) m labels = accepted calls m labels :=
    fun m labels => accepted_concat_of_not calls fun h => hc h.1
  refine ⟨h.once, h.named, fun m labels => ?_, fun m labels => ?_⟩
  · rw [hsame]
    exact h.told m labels
  · rw [hsame]
    exact h.missing m labels

/-- A call changes its series only, which then tells of it if it was accepted. -/
theorem modify (h : s.Accounts calls) {c : Call} {key : Metric × List Text}
    (hkey : key? c.metric c.labels = .ok key) {f : Series Rat → Series Rat}
    (hf : ∀ v xs, v.Tells c.metric.kind xs →
      (f v).Tells c.metric.kind (xs ++ if c.Admitted then [c.amount] else [])) :
    (s.modify key f).Accounts (calls ++ [c]) := by
  have honce : ((s.modify key f).series.map Prod.fst).Nodup := Tree.nodup_put key _ h.once
  refine ⟨honce, fun m values v hmem => ?_, fun m labels v hv => ?_, fun m labels hv => ?_⟩
  · have hlen : values.length = m.labelNames.length := by
      rcases Tree.eq_or_mem_of_mem_put hmem with heq | hold
      · obtain ⟨hm, hlen, -⟩ := key?_eq_ok.1 hkey
        obtain rfl : (m, values) = key := congrArg Prod.fst heq
        rw [hlen, ← hm]
      · exact (h.named m values v hold).1
    have hkey' : key? m (m.labelNames.zip values) = .ok (m, values) :=
      key?_eq_ok.2 ⟨rfl, hlen, .refl _⟩
    exact ⟨hlen, (series?_of_key? hkey' _).trans (Tree.find?_eq_some_of_mem honce hmem)⟩
  · rw [series?_modify hkey] at hv
    split at hv
    · rename_i hnames
      have htells := hf _ _ (h.tells c.metric labels)
      rw [series?_perm hnames.2] at htells
      rw [← Option.some.inj hv, accepted_concat calls hnames, hnames.1]
      exact htells
    · rename_i hnames
      rw [accepted_concat_of_not calls fun h => hnames h.2]
      exact h.told m labels v hv
  · rw [series?_modify hkey] at hv
    split at hv
    · cases hv
    · rename_i hnames
      rw [accepted_concat_of_not calls fun h => hnames h.2]
      exact h.missing m labels hv

end Accounts

/-- Each call is added to the account, if it is accepted. -/
theorem accounts_perform {s : Store Rat} {calls : List Call} (h : s.Accounts calls) (c : Call) :
    (s.perform c).2.Accounts (calls ++ [c]) := by
  by_cases hc : c.Admitted
  · obtain ⟨key, hkey, hs⟩ := perform_of_admitted hc s
    rw [hs]
    refine h.modify hkey fun v xs hv => ?_
    rw [if_pos hc, ← hc.kind]
    exact hv.take c.amount
  · obtain ⟨f, -, hs | ⟨key, hkey, hs⟩⟩ := perform_of_not_admitted hc s
    · rw [hs]
      exact h.concat hc
    · rw [hs]
      refine h.modify hkey fun v xs hv => ?_
      rw [if_neg hc, List.append_nil]
      exact hv

theorem accounts_empty : (empty : Store Rat).Accounts [] where
  once := List.nodup_singleton _
  named m values v hmem := by
    cases List.mem_singleton.1 hmem
    exact ⟨rfl, rfl⟩
  told m labels v hv := by
    obtain ⟨rfl, rfl⟩ := eq_of_series?_empty hv
    exact Series.tells_empty _
  missing _ _ _ := rfl

theorem accounts_afterCalls (calls : List Call) : (afterCalls calls).Accounts calls := by
  induction calls using List.reverseRecOn with
  | nil => exact accounts_empty
  | append_singleton calls c ih =>
    rw [afterCalls, List.foldl_concat]
    exact accounts_perform ih c

/-- **The account of a store.**  After any calls upon a new store, the amounts of the accepted ones
with the same labels are what each series tells of.  A further call is accepted if it is admitted.
If it is not, it fails, and all series stay as they are; it starts a new one at zero at most. -/
theorem calls_accounted (calls : List Call) :
    (afterCalls calls).Accounts calls ∧ ∀ c : Call,
      (c.Admitted → ((afterCalls calls).perform c).1 = .ok ()) ∧
      (¬c.Admitted → ∃ (f : Failure) (started : Option (Metric × List Text)),
        f.kind = c.refusal ∧ (afterCalls calls).perform c = (.error f,
          ⟨(afterCalls calls).series ++
            (started.map fun key => (key, Series.empty key.1.kind)).toList⟩)) := by
  refine ⟨accounts_afterCalls calls, fun c => ⟨fun hc => ?_, fun hc => ?_⟩⟩
  · obtain ⟨key, -, hs⟩ := perform_of_admitted hc (afterCalls calls)
    rw [hs]
  · obtain ⟨f, hf, hs | ⟨key, -, hs⟩⟩ := perform_of_not_admitted hc (afterCalls calls)
    · refine ⟨f, none, hf, hs.trans ?_⟩
      rw [Option.map_none, Option.toList_none, List.append_nil]
    · obtain ⟨started, hstarted⟩ := exists_modify_id (afterCalls calls) key
      exact ⟨f, started, hf, by rw [hs, hstarted]⟩

/-- Labels in two orders name one series, whatever is refused between the two calls. -/
theorem calls_accounted_reordered :
    let labels := Labels.blank
    let calls : List Call := [.increase .jobsQueued labels 2, .increase .jobsQueued labels (-1),
      .observe .queueDuration labels 10, .observe .jobsQueued labels 7, .increase .jobsQueued [] 1,
      .increase .jobsQueued labels.reverse (1 / 2), .observe .queueDuration labels.reverse 11]
    (∃ v, (afterCalls calls).series? .jobsQueued labels = some v ∧ v.sum = 5 / 2) ∧
      (∃ v, (afterCalls calls).series? .queueDuration labels = some v ∧
        v.cumulative.getLastD 0 = 2) ∧
      ((afterCalls calls).perform (.increase .jobsQueued labels 3)).1 = .ok () ∧
      ∃ f, ((afterCalls calls).perform (.increase .jobsQueued labels (-1))).1 = .error f := by
  intro labels calls
  obtain ⟨haccounts, hfurther⟩ := calls_accounted calls
  have hqueued : accepted calls .jobsQueued labels = [2, 1 / 2] := by decide +kernel
  have hwaited : accepted calls .queueDuration labels = [10, 11] := by decide +kernel
  refine ⟨?_, ?_, (hfurther _).1 (by decide +kernel), ?_⟩
  · cases hv : (afterCalls calls).series? .jobsQueued labels with
    | none => exact absurd (hqueued.symm.trans (haccounts.missing _ _ hv)) (List.cons_ne_nil _ _)
    | some v =>
      refine ⟨v, rfl, ?_⟩
      rw [(haccounts.told _ _ v hv).sum, hqueued]
      decide +kernel
  · cases hv : (afterCalls calls).series? .queueDuration labels with
    | none => exact absurd (hwaited.symm.trans (haccounts.missing _ _ hv)) (List.cons_ne_nil _ _)
    | some v =>
      refine ⟨v, rfl, ?_⟩
      rw [(haccounts.told _ _ v hv).number rfl, hwaited]
      rfl
  · obtain ⟨f, started, -, hf⟩ :=
      (hfurther (.increase .jobsQueued labels (-1))).2 (by decide +kernel)
    exact ⟨f, by rw [hf]⟩

end Store

end JobMeter
