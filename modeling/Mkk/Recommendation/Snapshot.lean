import Mkk.Recommendation.Features
import Mkk.Lib.Unordered
import Mathlib.Algebra.BigOperators.Group.List.Basic
import Mathlib.Algebra.Order.Ring.Rat
import Mathlib.Tactic.Ring

/-!
# The snapshot in any order

Of a product's feature the snapshot sees the count, the total, the first place and what is stored for each
bucket (`FeatureView`), and a contribution changes these by sums, minima and maxima. Events accepted in
another order have the same snapshot (`snapshot_fold_perm`).
-/

namespace Mkk.Recommendation

open Lib MutableProductAttentionFeature

/-! ## What a feature says -/

/-- A feature without the order in which its buckets were met. -/
@[ext] structure FeatureView where
  count : ℕ
  total : ℚ
  first : ℤ ×ₗ ℕ
  bucketAt : BucketKey → Option AttentionBucket

namespace FeatureView

/-- A bucket with one more observation. -/
def widen (bucket : Option AttentionBucket) (c : Contribution) : AttentionBucket :=
  match bucket with
  | none => ⟨c.attentionShare, c.confidenceShare⟩
  | some b => ⟨max b.attentionShare c.attentionShare, max b.confidenceShare c.confidenceShare⟩

/-- The place of a contribution among all candidates. -/
def place (c : Contribution) : ℤ ×ₗ ℕ := toLex (c.sequence, c.candidateIndex)

/-- A feature with one more contribution. -/
def add (o : Option FeatureView) (c : Contribution) : FeatureView where
  count := (o.map count).getD 0 + 1
  total := (o.map total).getD 0 + c.confidenceShare
  first := match o with
    | none => place c
    | some v => min v.first (place c)
  bucketAt k := if c.bucketKey = some k then some (widen (o.bind (·.bucketAt k)) c)
    else o.bind (·.bucketAt k)

theorem widen_widen (bucket : Option AttentionBucket) (a b : Contribution) :
    widen (some (widen bucket a)) b = widen (some (widen bucket b)) a := by
  cases bucket with
  | none => simp only [widen, max_comm]
  | some bucket => simp only [widen, max_right_comm]

/-- Two contributions may be added in either order. -/
theorem add_add (o : Option FeatureView) (a b : Contribution) :
    add (some (add o a)) b = add (some (add o b)) a := by
  apply FeatureView.ext
  · rfl
  · simp only [add, Option.map_some, Option.getD_some, add_right_comm]
  · cases o with
    | none => simp only [add, min_comm]
    | some v => simp only [add, min_right_comm]
  · funext k
    simp only [add, Option.bind_some]
    by_cases atA : a.bucketKey = some k <;> by_cases atB : b.bucketKey = some k
    · simp only [atA, atB, if_true, widen_widen]
    · simp only [atA, atB, if_true, if_false]
    · simp only [atA, atB, if_true, if_false]
    · simp only [atA, atB, if_false]

end FeatureView

namespace MutableProductAttentionFeature

variable {f g : MutableProductAttentionFeature} {o : Option MutableProductAttentionFeature}
  {c : Contribution}

def view (f : MutableProductAttentionFeature) : FeatureView :=
  ⟨f.validAttentionCount, f.confidenceTotal, f.first, f.attentionBuckets.get?⟩

theorem view_recordFirstAttention (f : MutableProductAttentionFeature) (sequence : ℤ)
    (candidateIndex : ℕ) : (f.recordFirstAttention sequence candidateIndex).view =
      { f.view with first := min f.first (toLex (sequence, candidateIndex)) } := by
  unfold recordFirstAttention
  split
  next earlier =>
    rw [min_eq_right earlier.le]
    rfl
  next later =>
    rw [min_eq_left (not_lt.1 later)]
    rfl

theorem view_recordAttentionBucket (f : MutableProductAttentionFeature) (key : BucketKey)
    (c : Contribution) : (f.recordAttentionBucket key c.attentionShare c.confidenceShare).view =
      { f.view with bucketAt := fun k =>
          if key = k then some (FeatureView.widen (f.view.bucketAt k) c) else f.view.bucketAt k } := by
  have stored (bucket : AttentionBucket)
      (widened : bucket = FeatureView.widen (f.attentionBuckets.get? key) c) :
      (f.attentionBuckets.set key bucket).get? = fun k =>
        if key = k then some (FeatureView.widen (f.view.bucketAt k) c) else f.view.bucketAt k := by
    funext k
    rw [Dict.get?_set]
    by_cases same : k = key
    · rw [if_pos same, if_pos same.symm, widened, same]
      rfl
    · rw [if_neg same, if_neg (Ne.symm same)]
      rfl
  unfold recordAttentionBucket
  cases found : f.attentionBuckets.get? key with
  | none => exact FeatureView.ext rfl rfl rfl (stored _ (by rw [found]; rfl))
  | some existing => exact FeatureView.ext rfl rfl rfl (stored _ (by rw [found]; rfl))

theorem view_counted : (counted o c).view =
    { FeatureView.add (o.map view) c with bucketAt := fun k => (o.map view).bind (·.bucketAt k) } := by
  cases o with
  | none => exact FeatureView.ext rfl (zero_add _).symm rfl rfl
  | some f =>
    unfold counted
    rw [view_recordFirstAttention]
    rfl

/-- **One contribution** changes the view as `FeatureView.add` says. -/
theorem view_note : (note o c).view = FeatureView.add (o.map view) c := by
  unfold note
  cases bucket : c.bucketKey with
  | none =>
    refine view_counted.trans (FeatureView.ext rfl rfl rfl ?_)
    funext k
    simp only [FeatureView.add, bucket, reduceCtorEq, if_false]
  | some key =>
    dsimp only
    rw [view_recordAttentionBucket, view_counted]
    refine FeatureView.ext rfl rfl rfl ?_
    funext k
    simp only [FeatureView.add, bucket, Option.some.injEq]

theorem note_unordered : Dict.Unordered note view where
  congr c same := by rw [view_note, view_note, same]
  swap o a b := by
    rw [view_note, view_note, Option.map_some, Option.map_some, view_note, view_note]
    exact FeatureView.add_add _ a b

/-- The bucket that is stored under a key. -/
def bucketAt (f : MutableProductAttentionFeature) : BucketKey → Option AttentionBucket :=
  f.attentionBuckets.get?

/-- The stored buckets in two orders. -/
theorem buckets_perm (same : f.bucketAt = g.bucketAt) :
    f.attentionBuckets.entries.Perm g.attentionBuckets.entries :=
  Dict.entries_perm_of_get?_eq fun k => congrFun same k

end MutableProductAttentionFeature

/-! ## What the snapshot sees -/

section Snapshot

variable {features features' : Dict String MutableProductAttentionFeature}
  {scales scales' : Dict BucketKey ℚ} {f g : MutableProductAttentionFeature} {ms gap : ℕ}

/-- Two states of the features that say the same of each product. -/
def SameViews (features features' : Dict String MutableProductAttentionFeature) : Prop :=
  ∀ p, (features.get? p).map view = (features'.get? p).map view

/-- Two states of the features with the same buckets for each product. -/
def SameBuckets (features features' : Dict String MutableProductAttentionFeature) : Prop :=
  ∀ p, (features.get? p).map bucketAt = (features'.get? p).map bucketAt

theorem SameViews.buckets (same : SameViews features features') : SameBuckets features features' := by
  intro p
  have mapped := congrArg (Option.map FeatureView.bucketAt) (same p)
  rwa [Option.map_map, Option.map_map] at mapped

theorem bucketTotals_congr (same : SameBuckets features features') (k : BucketKey) :
    (bucketTotals features).get? k = (bucketTotals features').get? k := by
  refine Dict.get?_accumulate_perm ?_ ?_ k
  · intro o a b
    exact add_right_comm _ _ _
  · exact flatMap_perm_of_views (Dict.values_map_perm same) fun _ _ => buckets_perm

theorem bucketScales_congr (same : SameBuckets features features') (k : BucketKey) :
    (bucketScales features).get? k = (bucketScales features').get? k := by
  unfold bucketScales
  rw [Dict.get?_mapItems, Dict.get?_mapItems, bucketTotals_congr same]

/-- Each stored bucket has a scale. -/
theorem bucketScales_present (held : f ∈ features.values) {item : BucketKey × AttentionBucket}
    (stored : item ∈ f.attentionBuckets.entries) :
    ∃ scale, (bucketScales features).get? item.1 = some scale := by
  have listed : item.1 ∈ (bucketTotals features).keys :=
    (Dict.mem_keys_accumulate _ _).2
      (List.mem_map_of_mem (List.mem_flatMap.2 ⟨f, held, stored⟩))
  obtain ⟨total, found⟩ := Dict.mem_keys_iff.1 listed
  unfold bucketScales
  exact ⟨_, by rw [Dict.get?_mapItems, found]; rfl⟩

/-- The duration of a stored bucket, by what share is taken of it. -/
def scaledMs (ms : ℕ) (scales : Dict BucketKey ℚ) (share : AttentionBucket → ℚ)
    (item : BucketKey × AttentionBucket) : ℚ :=
  ms * share item.2 * (scales.get? item.1).getD 0

/-- The indexes of the buckets by their epoch. -/
def bucketsByEpoch (keys : List BucketKey) : Dict ℕ (List ℕ) :=
  Dict.accumulate (fun key : BucketKey => key.1) (fun indexes key => indexes.getD [] ++ [key.2]) keys

theorem foldlM_add {items : List (BucketKey × AttentionBucket)}
    (present : ∀ item ∈ items, ∃ scale, scales.get? item.1 = some scale) (s : BucketSummary) :
    items.foldlM (BucketSummary.add ms scales) s = .ok
      ⟨s.durationMs + (items.map (scaledMs ms scales AttentionBucket.attentionShare)).sum,
        s.confidenceWeightedDurationMs +
          (items.map (scaledMs ms scales AttentionBucket.confidenceShare)).sum,
        (items.map Prod.fst).foldl (Dict.insertWith (fun key : BucketKey => key.1)
          fun indexes key => indexes.getD [] ++ [key.2]) s.bucketsByEpoch⟩ := by
  induction items generalizing s with
  | nil => simp [pure, Except.pure]
  | cons item rest ih =>
    obtain ⟨scale, found⟩ := present item List.mem_cons_self
    have added : BucketSummary.add ms scales s item = .ok
        ⟨s.durationMs + scaledMs ms scales AttentionBucket.attentionShare item,
          s.confidenceWeightedDurationMs + scaledMs ms scales AttentionBucket.confidenceShare item,
          s.bucketsByEpoch.insertWith (fun key : BucketKey => key.1)
            (fun indexes key => indexes.getD [] ++ [key.2]) item.1⟩ := by
      simp only [BucketSummary.add, subscript, scaledMs, found, Option.getD_some]
      rfl
    rw [List.foldlM_cons, added]
    refine (ih (fun i member => present i (List.mem_cons_of_mem _ member)) _).trans ?_
    simp only [List.map_cons, List.sum_cons, List.foldl_cons, add_assoc]

/-- The runs over all epochs. -/
def totalRuns (gap : ℕ) (keys : List BucketKey) : ℕ :=
  ((bucketsByEpoch keys).values.map fun indexes => observationRuns gap none (sortOn id indexes)).sum

theorem summarizeAttentionBuckets_eq
    (present : ∀ item ∈ f.attentionBuckets.entries, ∃ scale, scales.get? item.1 = some scale) :
    summarizeAttentionBuckets ms gap scales f = .ok
      ((f.attentionBuckets.entries.map (scaledMs ms scales AttentionBucket.attentionShare)).sum,
        (f.attentionBuckets.entries.map (scaledMs ms scales AttentionBucket.confidenceShare)).sum,
        totalRuns gap f.attentionBuckets.keys - 1) := by
  unfold summarizeAttentionBuckets
  rw [foldlM_add present]
  simp only [zero_add]
  rfl

theorem indexes_unordered : Dict.Unordered (fun (indexes : Option (List ℕ)) (key : BucketKey) =>
    indexes.getD [] ++ [key.2]) Multiset.ofList := by
  have appended (o : Option (List ℕ)) (key : BucketKey) : Multiset.ofList (o.getD [] ++ [key.2]) =
      (o.map Multiset.ofList).getD 0 + {key.2} := by
    cases o <;> rfl
  constructor
  · intro o o' key same
    rw [appended, appended, same]
  · intro o a b
    rw [appended, appended, Option.map_some, Option.map_some, Option.getD_some, Option.getD_some,
      appended, appended, add_right_comm]

/-- The indexes of an epoch may be met in any order. -/
theorem totalRuns_perm {keys keys' : List BucketKey} (perm : keys.Perm keys') :
    totalRuns gap keys = totalRuns gap keys' := by
  refine (Dict.values_map_perm fun epoch => ?_).sum_eq
  have same := indexes_unordered.accumulate (fun key : BucketKey => key.1) perm epoch
  unfold bucketsByEpoch
  generalize (Dict.accumulate (fun key : BucketKey => key.1) _ keys).get? epoch = o at same ⊢
  generalize (Dict.accumulate (fun key : BucketKey => key.1) _ keys').get? epoch = o' at same ⊢
  cases o <;> cases o'
  · rfl
  · cases same
  · cases same
  · rename_i indexes indexes'
    have perm : indexes.Perm indexes' := Multiset.coe_eq_coe.1 (Option.some.inj same)
    have sorted : sortOn id indexes = sortOn id indexes' := sortOn_eq_of_perm perm fun _ _ _ _ eq => eq
    rw [Option.map_some, Option.map_some, sorted]

/-- What is summed over a feature's buckets depends on the buckets and on the scales' values. -/
theorem sum_scaledMs_congr (same : f.bucketAt = g.bucketAt)
    (scaled : ∀ k, scales.get? k = scales'.get? k) (share : AttentionBucket → ℚ) :
    (f.attentionBuckets.entries.map (scaledMs ms scales share)).sum =
      (g.attentionBuckets.entries.map (scaledMs ms scales' share)).sum := by
  have scaledAlike : scaledMs ms scales share = scaledMs ms scales' share := by
    funext item
    unfold scaledMs
    rw [scaled]
  rw [scaledAlike]
  exact ((buckets_perm same).map _).sum_eq

/-- What is summarised depends on the feature's buckets and on the scales' values. -/
theorem summarizeAttentionBuckets_congr (same : f.bucketAt = g.bucketAt)
    (scaled : ∀ k, scales.get? k = scales'.get? k)
    (present : ∀ item ∈ f.attentionBuckets.entries, ∃ scale, scales.get? item.1 = some scale) :
    summarizeAttentionBuckets ms gap scales f = summarizeAttentionBuckets ms gap scales' g := by
  have perm := buckets_perm same
  have runs : totalRuns gap f.attentionBuckets.keys = totalRuns gap g.attentionBuckets.keys :=
    totalRuns_perm (perm.map Prod.fst)
  rw [summarizeAttentionBuckets_eq present, summarizeAttentionBuckets_eq fun item member => by
    rw [← scaled]
    exact present item (perm.mem_iff.2 member)]
  rw [sum_scaledMs_congr same scaled, sum_scaledMs_congr same scaled, runs]

variable {acc acc' : ProductFeatureAccumulator}

/-- The item of a product that has a feature. -/
def ProductFeatureAccumulator.itemAt (acc : ProductFeatureAccumulator) (productId : String) :
    Except FeatureError ProductAttentionFeature :=
  match acc.features.get? productId with
  | some feature => snapshotItem acc (bucketScales acc.features) productId feature
  | none => .error .keyError

/-- The snapshot looks each product up. -/
theorem snapshot_eq_mapM (acc : ProductFeatureAccumulator) :
    acc.snapshot = (sortOn id acc.features.keys).mapM acc.itemAt := by
  have looked (item : String × MutableProductAttentionFeature)
      (member : item ∈ sortOn Prod.fst acc.features.entries) :
      acc.itemAt item.1 = snapshotItem acc (bucketScales acc.features) item.1 item.2 := by
    unfold ProductFeatureAccumulator.itemAt
    rw [Dict.mem_entries_iff.1 (mem_sortOn.1 member)]
  unfold ProductFeatureAccumulator.snapshot Dict.keys
  rw [← map_sortOn, List.mapM_map]
  dsimp only
  generalize sortOn Prod.fst acc.features.entries = items at looked
  induction items with
  | nil => rfl
  | cons item rest ih =>
    rw [List.mapM_cons, List.mapM_cons, ih fun i member => looked i (List.mem_cons_of_mem _ member),
      Function.comp_apply, looked item List.mem_cons_self]

/-- **The snapshot sees the views only.** -/
theorem snapshot_congr (bucketMs : acc.attentionBucketMs = acc'.attentionBucketMs)
    (maxGap : acc.maxContiguousBucketGap = acc'.maxContiguousBucketGap)
    (same : SameViews acc.features acc'.features) : acc.snapshot = acc'.snapshot := by
  have keys : sortOn id acc.features.keys = sortOn id acc'.features.keys :=
    sortOn_eq_of_perm (Dict.keys_perm same) fun _ _ _ _ eq => eq
  rw [snapshot_eq_mapM, snapshot_eq_mapM, keys]
  congr 1
  funext productId
  unfold ProductFeatureAccumulator.itemAt
  have alike := same productId
  cases found : acc.features.get? productId with
  | none =>
    cases found' : acc'.features.get? productId with
    | none => rfl
    | some g =>
      rw [found, found'] at alike
      cases alike
  | some f =>
    cases found' : acc'.features.get? productId with
    | none =>
      rw [found, found'] at alike
      cases alike
    | some g =>
      rw [found, found'] at alike
      have views : f.view = g.view := Option.some.inj alike
      have first : toLex (f.firstAttentionSequence, f.firstCandidateIndex) =
          toLex (g.firstAttentionSequence, g.firstCandidateIndex) := congrArg FeatureView.first views
      obtain ⟨sequences, indexes⟩ := Prod.mk.inj (toLex.injective first)
      have counts : f.validAttentionCount = g.validAttentionCount := congrArg FeatureView.count views
      have totals : f.confidenceTotal = g.confidenceTotal := congrArg FeatureView.total views
      have summaries : summarizeAttentionBuckets acc.attentionBucketMs acc.maxContiguousBucketGap
          (bucketScales acc.features) f = summarizeAttentionBuckets acc.attentionBucketMs
            acc.maxContiguousBucketGap (bucketScales acc'.features) g :=
        summarizeAttentionBuckets_congr (congrArg FeatureView.bucketAt views)
          (bucketScales_congr same.buckets)
          fun item stored => bucketScales_present (Dict.mem_values_iff.2 ⟨productId, found⟩) stored
      dsimp only
      unfold snapshotItem
      rw [← bucketMs, ← maxGap, summaries, counts, totals, sequences, indexes]

/-! ## Events in any order -/

/-- Folding contributions in another order. -/
theorem fold_perm {noted noted' : List Contribution} (perm : noted.Perm noted')
    (same : SameViews acc.features acc'.features) :
    SameViews (acc.fold noted).features (acc'.fold noted').features :=
  fun p => note_unordered.foldl_insertWith perm same p

/-- What an event contributes to an accumulator, if it does not raise. -/
def ProductFeatureAccumulator.noted (acc : ProductFeatureAccumulator) (event : ContractRecord) :
    List Contribution :=
  (contributions acc.knownProductIds acc.attentionBucketMs event).toOption.getD []

/-- The event is read without an exception. -/
def ProductFeatureAccumulator.Reads (acc : ProductFeatureAccumulator) (event : ContractRecord) : Prop :=
  ∃ noted, contributions acc.knownProductIds acc.attentionBucketMs event = .ok noted

theorem accept_of_reads {event : ContractRecord} (reads : acc.Reads event) :
    acc.accept event = .ok (acc.fold (acc.noted event)) := by
  obtain ⟨noted, read⟩ := reads
  unfold ProductFeatureAccumulator.accept ProductFeatureAccumulator.noted
  rw [read]
  rfl

theorem fold_fold (noted noted' : List Contribution) :
    (acc.fold noted).fold noted' = acc.fold (noted ++ noted') := by
  unfold ProductFeatureAccumulator.fold
  rw [List.foldl_append]

/-- What a list of events leaves when none of them raises. -/
theorem foldlM_accept {events : List ContractRecord} (reads : ∀ e ∈ events, acc.Reads e) :
    events.foldlM ProductFeatureAccumulator.accept acc = .ok (acc.fold (events.flatMap acc.noted)) := by
  induction events generalizing acc with
  | nil => rfl
  | cons event rest ih =>
    have readLater : ∀ e ∈ rest, (acc.fold (acc.noted event)).Reads e := fun e member =>
      reads e (List.mem_cons_of_mem _ member)
    have later := ih readLater
    rw [List.foldlM_cons, accept_of_reads (reads event List.mem_cons_self)]
    refine later.trans ?_
    rw [fold_fold]
    rfl

/-- An event that is accepted is read. -/
theorem reads_of_accept {event : ContractRecord} (accepted : acc.accept event = .ok acc') :
    acc.Reads event ∧ acc' = acc.fold (acc.noted event) := by
  have reads : acc.Reads event := by
    unfold ProductFeatureAccumulator.accept at accepted
    cases read : contributions acc.knownProductIds acc.attentionBucketMs event with
    | ok noted => exact ⟨noted, read⟩
    | error e =>
      rw [read] at accepted
      cases accepted
  rw [accept_of_reads reads] at accepted
  exact ⟨reads, (Except.ok.inj accepted).symm⟩

/-- Events that are accepted are all read. -/
theorem reads_of_foldlM {events : List ContractRecord}
    (accepted : events.foldlM ProductFeatureAccumulator.accept acc = .ok acc') :
    ∀ e ∈ events, acc.Reads e := by
  induction events generalizing acc with
  | nil => exact fun e member => absurd member List.not_mem_nil
  | cons event rest ih =>
    rw [List.foldlM_cons] at accepted
    cases first : acc.accept event with
    | error e =>
      rw [first] at accepted
      cases accepted
    | ok next =>
      rw [first] at accepted
      obtain ⟨reads, rfl⟩ := reads_of_accept first
      intro e member
      rcases List.mem_cons.1 member with rfl | later
      · exact reads
      · exact ih accepted e later

/-- **Events in any order** have the same snapshot. -/
theorem snapshot_fold_perm {noted noted' : List Contribution} (perm : noted.Perm noted') :
    (acc.fold noted).snapshot = (acc.fold noted').snapshot :=
  snapshot_congr rfl rfl (fold_perm perm fun _ => rfl)

/-- The snapshot raises no exception. -/
theorem snapshot_returns (acc : ProductFeatureAccumulator) : ∃ report, acc.snapshot = .ok report := by
  have held (item : String × MutableProductAttentionFeature)
      (member : item ∈ sortOn Prod.fst acc.features.entries) : item.2 ∈ acc.features.values :=
    List.mem_map_of_mem (mem_sortOn.1 member)
  unfold ProductFeatureAccumulator.snapshot
  dsimp only
  generalize sortOn Prod.fst acc.features.entries = items at held
  induction items with
  | nil => exact ⟨[], rfl⟩
  | cons item rest ih =>
    obtain ⟨report, made⟩ := ih fun i member => held i (List.mem_cons_of_mem _ member)
    rw [List.mapM_cons, made]
    unfold snapshotItem
    rw [summarizeAttentionBuckets_eq fun _ stored =>
      bucketScales_present (held item List.mem_cons_self) stored]
    exact ⟨_, rfl⟩

end Snapshot

end Mkk.Recommendation
