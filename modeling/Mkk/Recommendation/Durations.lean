import Mkk.Recommendation.Snapshot
import Mkk.Lib.Tally
import Mathlib.Algebra.Order.BigOperators.Group.List
import Mathlib.Algebra.BigOperators.Ring.List
import Mathlib.Algebra.Order.Field.Basic
import Mathlib.Tactic.Linarith

/-!
# Attention durations

The contributions of all products to one bucket add up to at most the bucket's length, a product's
confidence-weighted attention is at most its attention, and an event that was folded before adds nothing
to a duration.
-/

namespace Mkk.Recommendation

open Lib MutableProductAttentionFeature

/-! ## Buckets of the accumulator -/

/-- The bucket of a product under a key. -/
def ProductFeatureAccumulator.bucketOf (acc : ProductFeatureAccumulator) (productId : String)
    (key : BucketKey) : Option AttentionBucket :=
  (acc.features.get? productId).bind (·.bucketAt key)

section Buckets

variable {acc acc' : ProductFeatureAccumulator} {c c' : Contribution} {p : String} {k : BucketKey}
  {b : AttentionBucket}

theorem fold_cons (c : Contribution) (rest : List Contribution) :
    acc.fold (c :: rest) = (acc.fold [c]).fold rest :=
  (fold_fold [c] rest).symm

theorem get?_fold_one (c : Contribution) : (acc.fold [c]).features.get? p =
    if p = c.productId then some (note (acc.features.get? c.productId) c) else acc.features.get? p :=
  Dict.get?_set _ _ _ _

/-- **One contribution** widens the bucket it names. -/
theorem bucketOf_fold_one (c : Contribution) : (acc.fold [c]).bucketOf p k =
    if c.productId = p ∧ c.bucketKey = some k then some (FeatureView.widen (acc.bucketOf p k) c)
    else acc.bucketOf p k := by
  unfold ProductFeatureAccumulator.bucketOf
  rw [get?_fold_one]
  by_cases named : p = c.productId
  · subst named
    have widened : (note (acc.features.get? c.productId) c).bucketAt k =
        (FeatureView.add ((acc.features.get? c.productId).map view) c).bucketAt k :=
      congrFun (congrArg FeatureView.bucketAt view_note) k
    have mapped : ((acc.features.get? c.productId).map view).bind (·.bucketAt k) =
        (acc.features.get? c.productId).bind (·.bucketAt k) := by
      rw [Option.bind_map]
      rfl
    rw [if_pos rfl, Option.bind_some, widened]
    simp only [FeatureView.add, mapped, true_and]
  · rw [if_neg named, if_neg fun both => named both.1.symm]

/-- A contribution that its bucket already holds. -/
structure Held (acc : ProductFeatureAccumulator) (c : Contribution) : Prop where
  listed : (acc.features.get? c.productId).isSome = true
  bucket : ∀ k, c.bucketKey = some k → ∃ b, acc.bucketOf c.productId k = some b ∧
    c.attentionShare ≤ b.attentionShare ∧ c.confidenceShare ≤ b.confidenceShare

theorem le_widen (o : Option AttentionBucket) (c : Contribution) :
    c.attentionShare ≤ (FeatureView.widen o c).attentionShare ∧
      c.confidenceShare ≤ (FeatureView.widen o c).confidenceShare := by
  cases o with
  | none => exact ⟨le_rfl, le_rfl⟩
  | some b => exact ⟨le_max_right _ _, le_max_right _ _⟩

theorem widen_le (b : AttentionBucket) (c : Contribution) :
    b.attentionShare ≤ (FeatureView.widen (some b) c).attentionShare ∧
      b.confidenceShare ≤ (FeatureView.widen (some b) c).confidenceShare :=
  ⟨le_max_left _ _, le_max_left _ _⟩

theorem held_fold_one (c : Contribution) : Held (acc.fold [c]) c where
  listed := by rw [get?_fold_one, if_pos rfl]; rfl
  bucket k named := ⟨_, by rw [bucketOf_fold_one, if_pos ⟨rfl, named⟩], le_widen _ c⟩

theorem Held.fold_one (h : Held acc c) (c' : Contribution) : Held (acc.fold [c']) c where
  listed := by
    rw [get?_fold_one]
    split
    · rfl
    · exact h.listed
  bucket k named := by
    obtain ⟨b, found, share, confidence⟩ := h.bucket k named
    rw [bucketOf_fold_one]
    split
    · rw [found]
      exact ⟨_, rfl, share.trans (widen_le b c').1, confidence.trans (widen_le b c').2⟩
    · exact ⟨b, found, share, confidence⟩

theorem Held.fold (h : Held acc c) (noted : List Contribution) : Held (acc.fold noted) c := by
  induction noted generalizing acc with
  | nil => exact h
  | cons c' rest ih =>
    rw [fold_cons]
    exact ih (h.fold_one c')

/-- What is folded is held. -/
theorem held_fold {noted : List Contribution} (member : c ∈ noted) : Held (acc.fold noted) c := by
  induction noted generalizing acc with
  | nil => cases member
  | cons c' rest ih =>
    rw [fold_cons]
    rcases List.mem_cons.1 member with rfl | later
    · exact (held_fold_one c).fold rest
    · exact ih later

/-- Two accumulators with the same products and buckets. -/
structure SameAttention (acc acc' : ProductFeatureAccumulator) : Prop where
  bucketMs : acc.attentionBucketMs = acc'.attentionBucketMs
  listed : ∀ p, (acc.features.get? p).isSome = (acc'.features.get? p).isSome
  buckets : ∀ p k, acc.bucketOf p k = acc'.bucketOf p k

theorem Held.same (h : Held acc c) : SameAttention (acc.fold [c]) acc where
  bucketMs := rfl
  listed p := by
    rw [get?_fold_one]
    split
    next same => rw [same, h.listed]; rfl
    next => rfl
  buckets p k := by
    rw [bucketOf_fold_one]
    split
    next both =>
      obtain ⟨rfl, named⟩ := both
      obtain ⟨b, found, share, confidence⟩ := h.bucket k named
      rw [found]
      unfold FeatureView.widen
      dsimp only
      rw [max_eq_left share, max_eq_left confidence]
    next => rfl

/-- **Contributions that are held** add nothing. -/
theorem sameAttention_fold {noted : List Contribution} (held : ∀ c ∈ noted, Held acc c) :
    SameAttention (acc.fold noted) acc := by
  induction noted generalizing acc with
  | nil => exact ⟨rfl, fun _ => rfl, fun _ _ => rfl⟩
  | cons c rest ih =>
    rw [fold_cons]
    have first := (held c List.mem_cons_self).same
    have later := ih fun c' member => (held c' (List.mem_cons_of_mem _ member)).fold_one c
    exact ⟨later.bucketMs.trans first.bucketMs, fun p => (later.listed p).trans (first.listed p),
      fun p k => (later.buckets p k).trans (first.buckets p k)⟩

theorem SameAttention.sameBuckets (h : SameAttention acc acc') :
    SameBuckets acc.features acc'.features := by
  intro p
  have listed := h.listed p
  have buckets := h.buckets p
  unfold ProductFeatureAccumulator.bucketOf at buckets
  cases found : acc.features.get? p with
  | none =>
    cases found' : acc'.features.get? p with
    | none => rfl
    | some g => rw [found, found'] at listed; cases listed
  | some f =>
    cases found' : acc'.features.get? p with
    | none => rw [found, found'] at listed; cases listed
    | some g =>
      simp only [found, found', Option.bind_some] at buckets
      exact congrArg some (funext buckets)

end Buckets

/-! ## Durations of a snapshot -/

section Durations

variable {acc acc' : ProductFeatureAccumulator} {report report' : List ProductAttentionFeature}
  {f : MutableProductAttentionFeature} {p : String} {k : BucketKey} {share : AttentionBucket → ℚ}

/-- What a product's buckets give, by what share is taken of them. -/
def ProductFeatureAccumulator.duration (acc : ProductFeatureAccumulator) (share : AttentionBucket → ℚ)
    (productId : String) : ℚ :=
  match acc.features.get? productId with
  | some f => (f.attentionBuckets.entries.map
      (scaledMs acc.attentionBucketMs (bucketScales acc.features) share)).sum
  | none => 0

/-- What an item of the snapshot says of its product. -/
structure ItemOf (acc : ProductFeatureAccumulator) (p : String) (item : ProductAttentionFeature) : Prop where
  productId : item.productId = p
  duration : item.attentionDurationMs = acc.duration AttentionBucket.attentionShare p
  confidence : item.confidenceWeightedAttentionMs = acc.duration AttentionBucket.confidenceShare p

theorem itemAt_of_listed (found : acc.features.get? p = some f) :
    ∃ item, acc.itemAt p = .ok item ∧ ItemOf acc p item := by
  unfold ProductFeatureAccumulator.itemAt snapshotItem
  rw [found]
  dsimp only
  rw [summarizeAttentionBuckets_eq fun item stored =>
    bucketScales_present (Dict.mem_values_iff.2 ⟨p, found⟩) stored]
  refine ⟨_, rfl, rfl, ?_, ?_⟩
  · unfold ProductFeatureAccumulator.duration
    rw [found]
  · unfold ProductFeatureAccumulator.duration
    rw [found]

/-- **The items of a snapshot**, one for each product in order. -/
theorem snapshot_items (made : acc.snapshot = .ok report) :
    List.Forall₂ (ItemOf acc) (sortOn id acc.features.keys) report := by
  have listed (p : String) (member : p ∈ sortOn id acc.features.keys) :
      ∃ f, acc.features.get? p = some f := Dict.mem_keys_iff.1 (mem_sortOn.1 member)
  rw [snapshot_eq_mapM] at made
  generalize sortOn id acc.features.keys = keys at made listed
  induction keys generalizing report with
  | nil =>
    cases made
    exact .nil
  | cons p rest ih =>
    obtain ⟨f, found⟩ := listed p List.mem_cons_self
    obtain ⟨item, read, told⟩ := itemAt_of_listed found
    rw [List.mapM_cons, read] at made
    cases later : rest.mapM acc.itemAt with
    | error e =>
      rw [later] at made
      cases made
    | ok items =>
      rw [later] at made
      cases made
      exact .cons told (ih later fun p member => listed p (List.mem_cons_of_mem _ member))

end Durations

/-! ## The cap of a bucket -/

section Caps

variable {acc acc' : ProductFeatureAccumulator} {report : List ProductAttentionFeature} {p : String}
  {k : BucketKey} {share : AttentionBucket → ℚ}

/-- What a bucket gives to a product, by what share is taken of it. -/
def ProductFeatureAccumulator.contribution (acc : ProductFeatureAccumulator)
    (share : AttentionBucket → ℚ) (productId : String) (key : BucketKey) : ℚ :=
  ((acc.bucketOf productId key).map fun b =>
    scaledMs acc.attentionBucketMs (bucketScales acc.features) share (key, b)).getD 0

/-- The buckets that hold an observation of any product. -/
def ProductFeatureAccumulator.distinctBuckets (acc : ProductFeatureAccumulator) : Finset BucketKey :=
  (acc.features.values.flatMap (·.attentionBuckets.keys)).toFinset

/-- The products with a feature. -/
def ProductFeatureAccumulator.productIds (acc : ProductFeatureAccumulator) : Finset String :=
  acc.features.keys.toFinset

/-- A product's duration is what all buckets give to it. -/
theorem duration_eq_sum (acc : ProductFeatureAccumulator) (share : AttentionBucket → ℚ) (p : String) :
    acc.duration share p = ∑ k ∈ acc.distinctBuckets, acc.contribution share p k := by
  unfold ProductFeatureAccumulator.duration ProductFeatureAccumulator.contribution
    ProductFeatureAccumulator.bucketOf
  cases found : acc.features.get? p with
  | none => exact (Finset.sum_const_zero).symm
  | some f =>
    refine Dict.sum_entries_eq_sum_keys f.attentionBuckets (fun k b =>
      scaledMs acc.attentionBucketMs (bucketScales acc.features) share (k, b)) fun k member => ?_
    exact List.mem_toFinset.2 (List.mem_flatMap.2 ⟨f, Dict.mem_values_iff.2 ⟨p, found⟩, member⟩)

/-- A bucket's total is the sum of the shares its products hold. -/
theorem bucketTotal_eq (acc : ProductFeatureAccumulator) (k : BucketKey) :
    ((bucketTotals acc.features).get? k).getD 0 =
      ∑ p ∈ acc.productIds, ((acc.bucketOf p k).map AttentionBucket.attentionShare).getD 0 := by
  unfold bucketTotals
  rw [Dict.get?_accumulate, Dict.gather_add (fun item : BucketKey × AttentionBucket =>
    item.2.attentionShare) none, Option.getD_none, zero_add, List.filter_flatMap, List.map_flatMap,
    List.flatMap_def, List.sum_flatten, List.map_map]
  have each (f : MutableProductAttentionFeature) : ((f.attentionBuckets.entries.filter fun item =>
      item.1 = k).map fun item => item.2.attentionShare).sum =
        ((f.bucketAt k).map AttentionBucket.attentionShare).getD 0 :=
    Dict.sum_filter_key f.attentionBuckets AttentionBucket.attentionShare k
  simp only [Function.comp_def, each]
  rw [show acc.features.values = acc.features.entries.map Prod.snd from rfl, List.map_map]
  refine (Dict.sum_entries_eq_sum_keys acc.features (fun _ f =>
    ((f.bucketAt k).map AttentionBucket.attentionShare).getD 0)
    fun p member => (List.mem_toFinset.2 member : p ∈ acc.productIds)).trans ?_
  refine Finset.sum_congr rfl fun p _ => ?_
  unfold ProductFeatureAccumulator.bucketOf
  cases acc.features.get? p <;> rfl

/-- A scale brings its total to one at most, and is not negative. -/
theorem bucketScale_spec (features : Dict String MutableProductAttentionFeature) (k : BucketKey) :
    0 ≤ ((bucketScales features).get? k).getD 0 ∧
      ((bucketTotals features).get? k).getD 0 * ((bucketScales features).get? k).getD 0 ≤ 1 := by
  unfold bucketScales
  rw [Dict.get?_mapItems]
  cases (bucketTotals features).get? k with
  | none => exact ⟨le_rfl, by simp⟩
  | some total =>
    simp only [Option.map_some, Option.getD_some]
    split
    next within => exact ⟨zero_le_one, by rwa [mul_one]⟩
    next exceeds =>
      have positive : 0 < total := zero_lt_one.trans (not_le.1 exceeds)
      exact ⟨(one_div_pos.2 positive).le, (mul_one_div_cancel positive.ne').le⟩

/-- **The cap of a bucket**: its products share its length. -/
theorem sum_contribution_le (acc : ProductFeatureAccumulator) (k : BucketKey) :
    ∑ p ∈ acc.productIds, acc.contribution AttentionBucket.attentionShare p k ≤
      acc.attentionBucketMs := by
  have taken (p : String) : acc.contribution AttentionBucket.attentionShare p k =
      acc.attentionBucketMs * ((bucketScales acc.features).get? k).getD 0 *
        ((acc.bucketOf p k).map AttentionBucket.attentionShare).getD 0 := by
    unfold ProductFeatureAccumulator.contribution scaledMs
    cases acc.bucketOf p k with
    | none => exact (mul_zero _).symm
    | some b => exact mul_right_comm _ _ _
  obtain ⟨-, capped⟩ := bucketScale_spec acc.features k
  calc ∑ p ∈ acc.productIds, acc.contribution AttentionBucket.attentionShare p k
      = acc.attentionBucketMs * (((bucketTotals acc.features).get? k).getD 0 *
          ((bucketScales acc.features).get? k).getD 0) := by
        rw [bucketTotal_eq, Finset.sum_congr rfl fun p _ => taken p, ← Finset.mul_sum, mul_assoc,
          mul_comm (((bucketScales acc.features).get? k).getD 0)]
    _ ≤ acc.attentionBucketMs * 1 := mul_le_mul_of_nonneg_left capped (Nat.cast_nonneg _)
    _ = acc.attentionBucketMs := mul_one _

/-- What an item says of its product's durations. -/
def ProductAttentionFeature.durations (item : ProductAttentionFeature) : String × ℚ × ℚ :=
  (item.productId, item.attentionDurationMs, item.confidenceWeightedAttentionMs)

theorem report_durations (made : acc.snapshot = .ok report) :
    report.map (·.durations) = (sortOn id acc.features.keys).map fun p =>
      (p, acc.duration AttentionBucket.attentionShare p, acc.duration AttentionBucket.confidenceShare p) := by
  have items := snapshot_items made
  generalize sortOn id acc.features.keys = keys at items
  clear made
  induction items with
  | nil => rfl
  | cons told _ ih =>
    rw [List.map_cons, List.map_cons, ih, ProductAttentionFeature.durations, told.productId,
      told.duration, told.confidence]

/-- The snapshot's durations are those of the products. -/
theorem sum_report (made : acc.snapshot = .ok report) :
    (report.map (·.attentionDurationMs)).sum =
      ∑ p ∈ acc.productIds, acc.duration AttentionBucket.attentionShare p := by
  have durations : report.map (·.attentionDurationMs) =
      (sortOn id acc.features.keys).map (acc.duration AttentionBucket.attentionShare) := by
    have told := congrArg (List.map fun item : String × ℚ × ℚ => item.2.1) (report_durations made)
    rw [List.map_map, List.map_map] at told
    exact told
  rw [durations, ((sortOn_perm id acc.features.keys).map _).sum_eq]
  exact (List.sum_toFinset _ acc.features.nodup).symm

/-- **The cap of a snapshot**: no more than the length of its buckets. -/
theorem sum_report_le (made : acc.snapshot = .ok report) :
    (report.map (·.attentionDurationMs)).sum ≤ acc.attentionBucketMs * acc.distinctBuckets.card := by
  calc (report.map (·.attentionDurationMs)).sum
      = ∑ k ∈ acc.distinctBuckets, ∑ p ∈ acc.productIds,
          acc.contribution AttentionBucket.attentionShare p k := by
        rw [sum_report made, Finset.sum_congr rfl fun p _ => duration_eq_sum acc _ p, Finset.sum_comm]
    _ ≤ ∑ _k ∈ acc.distinctBuckets, (acc.attentionBucketMs : ℚ) :=
        Finset.sum_le_sum fun k _ => sum_contribution_le acc k
    _ = acc.attentionBucketMs * acc.distinctBuckets.card := by
        rw [Finset.sum_const, nsmul_eq_mul, mul_comm]

end Caps

/-! ## Confidence and repeated events -/

section Accepted

variable {acc acc' acc'' : ProductFeatureAccumulator} {report report' : List ProductAttentionFeature}
  {p : String} {k : BucketKey} {c : Contribution} {event : ContractRecord} {events : List ContractRecord}

/-- The event's confidence, when it is read, is between zero and one. -/
def ConfidenceInUnit (event : ContractRecord) : Prop :=
  ∀ q, confidenceOf event = .ok q → 0 ≤ q ∧ q ≤ 1

/-- A share of confidence is at most the share of attention it goes with. -/
structure Weighted (attentionShare confidenceShare : ℚ) : Prop where
  nonneg : 0 ≤ confidenceShare
  le : confidenceShare ≤ attentionShare

theorem contributions_weighted (confident : ConfidenceInUnit event) {known : Finset String} {ms : ℕ}
    {noted : List Contribution} (read : contributions known ms event = .ok noted) :
    ∀ c ∈ noted, Weighted c.attentionShare c.confidenceShare := by
  unfold contributions at read
  split at read
  · cases read
    exact fun c member => absurd member List.not_mem_nil
  · split at read
    next sequence candidates _ _ =>
      cases confidence : confidenceOf event with
      | error e =>
        rw [confidence] at read
        cases read
      | ok q =>
        obtain ⟨nonneg, le⟩ := confident q confidence
        rw [confidence] at read
        simp only [bind, Except.bind, pure, Except.pure] at read
        split at read
        · cases read
          exact fun c member => absurd member List.not_mem_nil
        · cases read
          intro c member
          obtain ⟨item, -, rfl⟩ := List.mem_map.1 member
          have share : (0 : ℚ) ≤ 1 / (candidateProducts known candidates).length :=
            div_nonneg zero_le_one (Nat.cast_nonneg _)
          exact ⟨mul_nonneg nonneg share, mul_le_of_le_one_left share le⟩
    next =>
      cases read
      exact fun c member => absurd member List.not_mem_nil

/-- All buckets are weighted. -/
def ProductFeatureAccumulator.BucketsWeighted (acc : ProductFeatureAccumulator) : Prop :=
  ∀ p k b, acc.bucketOf p k = some b → Weighted b.attentionShare b.confidenceShare

theorem BucketsWeighted.fold_one (h : acc.BucketsWeighted)
    (weighted : Weighted c.attentionShare c.confidenceShare) : (acc.fold [c]).BucketsWeighted := by
  intro p k b found
  rw [bucketOf_fold_one] at found
  split at found
  · cases found
    unfold FeatureView.widen
    cases stored : acc.bucketOf p k with
    | none => exact weighted
    | some b =>
      have held := h p k b stored
      exact ⟨le_max_of_le_left held.nonneg, max_le_max held.le weighted.le⟩
  · exact h p k b found

theorem BucketsWeighted.fold {noted : List Contribution} (h : acc.BucketsWeighted)
    (weighted : ∀ c ∈ noted, Weighted c.attentionShare c.confidenceShare) :
    (acc.fold noted).BucketsWeighted := by
  induction noted generalizing acc with
  | nil => exact h
  | cons c rest ih =>
    rw [fold_cons]
    exact ih (BucketsWeighted.fold_one h (weighted c List.mem_cons_self)) fun c' member =>
      weighted c' (List.mem_cons_of_mem _ member)

/-- **Weighted attention** is between zero and the attention it weighs. -/
theorem duration_weighted (h : acc.BucketsWeighted) (p : String) :
    Weighted (acc.duration AttentionBucket.attentionShare p)
      (acc.duration AttentionBucket.confidenceShare p) := by
  have each (k : BucketKey) : Weighted (acc.contribution AttentionBucket.attentionShare p k)
      (acc.contribution AttentionBucket.confidenceShare p k) := by
    unfold ProductFeatureAccumulator.contribution
    cases found : acc.bucketOf p k with
    | none => exact ⟨le_rfl, le_rfl⟩
    | some b =>
      have held := h p k b found
      have scale := (bucketScale_spec acc.features k).1
      have length : (0 : ℚ) ≤ acc.attentionBucketMs := Nat.cast_nonneg _
      exact ⟨mul_nonneg (mul_nonneg length held.nonneg) scale,
        mul_le_mul_of_nonneg_right (mul_le_mul_of_nonneg_left held.le length) scale⟩
  rw [duration_eq_sum, duration_eq_sum]
  exact ⟨Finset.sum_nonneg fun k _ => (each k).nonneg, Finset.sum_le_sum fun k _ => (each k).le⟩

theorem report_weighted (h : acc.BucketsWeighted) (made : acc.snapshot = .ok report) :
    ∀ item ∈ report, Weighted item.attentionDurationMs item.confidenceWeightedAttentionMs := by
  have items := snapshot_items made
  generalize sortOn id acc.features.keys = keys at items
  clear made
  induction items with
  | nil => exact fun item member => absurd member List.not_mem_nil
  | cons told _ ih =>
    intro item member
    rcases List.mem_cons.1 member with rfl | later
    · rw [told.duration, told.confidence]
      exact duration_weighted h _
    · exact ih item later

theorem report_duration (made : acc.snapshot = .ok report) : ∀ item ∈ report,
    item.attentionDurationMs = acc.duration AttentionBucket.attentionShare item.productId := by
  have items := snapshot_items made
  generalize sortOn id acc.features.keys = keys at items
  clear made
  induction items with
  | nil => exact fun item member => absurd member List.not_mem_nil
  | cons told _ ih =>
    intro item member
    rcases List.mem_cons.1 member with rfl | later
    · rw [told.duration, told.productId]
    · exact ih item later

theorem SameAttention.duration (same : SameAttention acc acc') (share : AttentionBucket → ℚ) (p : String) :
    acc.duration share p = acc'.duration share p := by
  have buckets := same.sameBuckets
  have alike := buckets p
  unfold ProductFeatureAccumulator.duration
  rw [same.bucketMs]
  cases found : acc.features.get? p with
  | none =>
    cases found' : acc'.features.get? p with
    | none => rfl
    | some g => rw [found, found'] at alike; cases alike
  | some f =>
    cases found' : acc'.features.get? p with
    | none => rw [found, found'] at alike; cases alike
    | some g =>
      rw [found, found'] at alike
      exact sum_scaledMs_congr (Option.some.inj alike) (bucketScales_congr buckets) share

theorem SameAttention.durations (same : SameAttention acc acc') (made : acc.snapshot = .ok report)
    (made' : acc'.snapshot = .ok report') : report.map (·.durations) = report'.map (·.durations) := by
  have keys : sortOn id acc.features.keys = sortOn id acc'.features.keys :=
    sortOn_eq_of_perm (Dict.keys_perm same.sameBuckets) fun _ _ _ _ eq => eq
  rw [report_durations made, report_durations made', keys]
  simp only [same.duration]

/-- What accepted events leave. -/
theorem eq_fold_of_foldlM (accepted : events.foldlM ProductFeatureAccumulator.accept acc = .ok acc') :
    acc' = acc.fold (events.flatMap acc.noted) :=
  Except.ok.inj (accepted.symm.trans (foldlM_accept (reads_of_foldlM accepted)))

theorem init_bucketsWeighted {known : Finset String} {attentionBucketMs revisitGapMs : Value}
    (opened : ProductFeatureAccumulator.init known attentionBucketMs revisitGapMs = .ok acc) :
    acc.BucketsWeighted := by
  have empty : acc.features = .empty := by
    unfold ProductFeatureAccumulator.init at opened
    split at opened
    · split at opened
      · cases opened
      · split at opened
        · split at opened
          · cases opened
          · cases opened
            rfl
        · cases opened
    · cases opened
  intro p k b found
  unfold ProductFeatureAccumulator.bucketOf at found
  rw [empty] at found
  cases found

theorem bucketsWeighted_of_foldlM (h : acc.BucketsWeighted)
    (accepted : events.foldlM ProductFeatureAccumulator.accept acc = .ok acc')
    (confident : ∀ e ∈ events, ConfidenceInUnit e) : acc'.BucketsWeighted := by
  rw [eq_fold_of_foldlM accepted]
  refine BucketsWeighted.fold h fun c member => ?_
  obtain ⟨e, present, noted⟩ := List.mem_flatMap.1 member
  obtain ⟨told, read⟩ := reads_of_foldlM accepted e present
  unfold ProductFeatureAccumulator.noted at noted
  rw [read] at noted
  exact contributions_weighted (confident e present) read c noted

/-- **An event that was folded before** adds nothing. -/
theorem sameAttention_of_repeated
    (accepted : events.foldlM ProductFeatureAccumulator.accept acc = .ok acc') (member : event ∈ events)
    (again : acc'.accept event = .ok acc'') : SameAttention acc'' acc' := by
  obtain ⟨-, left⟩ := reads_of_accept again
  have folded := eq_fold_of_foldlM accepted
  have noted : acc'.noted event = acc.noted event := by
    rw [folded]
    rfl
  rw [left, noted]
  refine sameAttention_fold fun c told => ?_
  rw [folded]
  exact held_fold (List.mem_flatMap.2 ⟨event, member, told⟩)

/-- An event that was accepted once is accepted again. -/
theorem accept_again (accepted : events.foldlM ProductFeatureAccumulator.accept acc = .ok acc')
    (member : event ∈ events) : ∃ acc'', acc'.accept event = .ok acc'' := by
  have reads : acc'.Reads event := by
    rw [eq_fold_of_foldlM accepted]
    exact reads_of_foldlM accepted event member
  exact ⟨_, accept_of_reads reads⟩

end Accepted

end Mkk.Recommendation
