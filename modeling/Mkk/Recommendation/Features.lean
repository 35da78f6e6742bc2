import Mkk.Lib.Dict
import Mkk.Lib.Sorting
import Mkk.Lib.Value
import Mathlib.Data.Prod.Lex

/-!
# Product attention features

`ProductFeatureAccumulator` of `features.py`. A public event is a `ContractRecord`; what it says of the
catalog products it names is folded into one feature for each product and is not kept. Numbers the source
holds as floats are exact rationals; a confidence that is infinite or not a number is no exact rational and
is reported as `notExact`.
-/

namespace Mkk.Recommendation

open Lib

/-- `ContractRecord` -/
abbrev ContractRecord : Type := List (String × Value)

inductive FeatureError where
  | typeError (message : String)
  | valueError (message : String)
  | overflowError
  | keyError
  | notExact
  deriving DecidableEq, Repr

/-- `_AttentionBucket` -/
structure AttentionBucket where
  attentionShare : ℚ
  confidenceShare : ℚ
  deriving DecidableEq

/-- The key of a bucket: `(playback_epoch, bucket_index)`. -/
abbrev BucketKey : Type := ℕ × ℕ

/-- `_MutableProductAttentionFeature` -/
structure MutableProductAttentionFeature where
  validAttentionCount : ℕ
  confidenceTotal : ℚ
  firstAttentionSequence : ℤ
  firstCandidateIndex : ℕ
  attentionBuckets : Dict BucketKey AttentionBucket

structure ProductFeatureAccumulator where
  knownProductIds : Finset String
  attentionBucketMs : ℕ
  maxContiguousBucketGap : ℕ
  features : Dict String MutableProductAttentionFeature
  bucketPositive : 0 < attentionBucketMs

theorem toNat_pos_of_not_le {n : ℤ} (positive : ¬n ≤ 0) : 0 < n.toNat := by omega

/-- `ProductFeatureAccumulator.__init__` -/
def ProductFeatureAccumulator.init (knownProductIds : Finset String)
    (attentionBucketMs revisitGapMs : Value) : Except FeatureError ProductFeatureAccumulator :=
  match attentionBucketMs with
  | .int bucketMs =>
    if positive : bucketMs ≤ 0 then .error (.valueError "attention_bucket_ms must be positive")
    else match revisitGapMs with
      | .int gapMs =>
        if gapMs < bucketMs then
          .error (.valueError "revisit_gap_ms must be at least attention_bucket_ms")
        else .ok ⟨knownProductIds, bucketMs.toNat, ((gapMs + bucketMs - 1) / bucketMs).toNat, .empty,
          toNat_pos_of_not_le positive⟩
      | _ => .error (.typeError "revisit_gap_ms must be an integer")
  | _ => .error (.typeError "attention_bucket_ms must be an integer")

/-- The accumulator with `DEFAULT_ATTENTION_BUCKET_MS` and `DEFAULT_REVISIT_GAP_MS`. -/
def ProductFeatureAccumulator.ofProducts (knownProductIds : Finset String) :
    ProductFeatureAccumulator :=
  ⟨knownProductIds, 100, 3, .empty, by decide⟩

theorem init_defaults (knownProductIds : Finset String) :
    ProductFeatureAccumulator.init knownProductIds (.int 100) (.int 300) =
      .ok (.ofProducts knownProductIds) := rfl

/-! ## Reading an event -/

/-- `_is_valid_attention` -/
def isValidAttention (event : ContractRecord) : Bool :=
  match Value.get event "source_gaze_event_id", Value.get event "valid",
    Value.get event "outside_video" with
  | .str _, .bool true, .bool false => true
  | _, _, _ => false

/-- `_sequence` -/
def sequenceOf (event : ContractRecord) : Option ℤ :=
  match Value.get event "sequence" with
  | .int n => some n
  | _ => none

/-- `_confidence` -/
def confidenceOf (event : ContractRecord) : Except FeatureError ℚ :=
  match Value.get event "confidence" with
  | .int n => match toDouble n with
    | some q => .ok q
    | none => .error .overflowError
  | .float (.finite q) => .ok q
  | .float _ => .error .notExact
  | _ => .ok 0

/-- `_non_negative_int` -/
def nonNegativeInt (event : ContractRecord) (fieldName : String) : Option ℕ :=
  match Value.get event fieldName with
  | .int n => if n < 0 then none else some n.toNat
  | _ => none

/-- `_attention_bucket_key` -/
def attentionBucketKey (attentionBucketMs : ℕ) (event : ContractRecord) : Option BucketKey :=
  match nonNegativeInt event "video_time_ms", nonNegativeInt event "playback_epoch" with
  | some videoTimeMs, some playbackEpoch => some (playbackEpoch, videoTimeMs / attentionBucketMs)
  | _, _ => none

/-- The candidates read so far, and the products they name. -/
structure CandidateScan where
  candidateProducts : List (String × ℕ)
  productIdsInEvent : Finset String

/-- One turn of the loop over `enumerate(candidates)`. -/
def CandidateScan.read (knownProductIds : Finset String) (scan : CandidateScan) (item : Value × ℕ) :
    CandidateScan :=
  match item.1 with
  | .dict candidate =>
    match Value.get candidate "product_id" with
    | .str productId =>
      if productId ∉ knownProductIds ∨ productId ∈ scan.productIdsInEvent then scan
      else ⟨scan.candidateProducts ++ [(productId, item.2)], insert productId scan.productIdsInEvent⟩
    | _ => scan
  | _ => scan

/-- The products an event names, each with the place of its first candidate. -/
def candidateProducts (knownProductIds : Finset String) (candidates : List Value) :
    List (String × ℕ) :=
  (candidates.zipIdx.foldl (CandidateScan.read knownProductIds) ⟨[], ∅⟩).candidateProducts

/-- What one event says of one product: the locals of the last loop of `accept`. -/
structure Contribution where
  productId : String
  sequence : ℤ
  candidateIndex : ℕ
  bucketKey : Option BucketKey
  attentionShare : ℚ
  confidenceShare : ℚ

/-- `accept` up to its last loop. -/
def contributions (knownProductIds : Finset String) (attentionBucketMs : ℕ) (event : ContractRecord) :
    Except FeatureError (List Contribution) :=
  if isValidAttention event = false then .ok []
  else match sequenceOf event, Value.get event "candidates" with
    | some sequence, .list candidates => do
      let confidence ← confidenceOf event
      let bucketKey := attentionBucketKey attentionBucketMs event
      let candidateProducts := candidateProducts knownProductIds candidates
      if candidateProducts = [] then
        return []
      let attentionShare : ℚ := 1 / candidateProducts.length
      let confidenceShare := confidence * attentionShare
      return candidateProducts.map fun (productId, candidateIndex) =>
        ⟨productId, sequence, candidateIndex, bucketKey, attentionShare, confidenceShare⟩
    | _, _ => .ok []

/-! ## Folding an event -/

namespace MutableProductAttentionFeature

/-- `(first_attention_sequence, first_candidate_index)` as a tuple is compared. -/
def first (feature : MutableProductAttentionFeature) : ℤ ×ₗ ℕ :=
  toLex (feature.firstAttentionSequence, feature.firstCandidateIndex)

/-- `_record_first_attention` -/
def recordFirstAttention (feature : MutableProductAttentionFeature) (sequence : ℤ)
    (candidateIndex : ℕ) : MutableProductAttentionFeature :=
  if toLex (sequence, candidateIndex) < feature.first then
    { feature with firstAttentionSequence := sequence, firstCandidateIndex := candidateIndex }
  else feature

/-- `_record_attention_bucket` -/
def recordAttentionBucket (feature : MutableProductAttentionFeature) (bucketKey : BucketKey)
    (attentionShare confidenceShare : ℚ) : MutableProductAttentionFeature :=
  match feature.attentionBuckets.get? bucketKey with
  | none => { feature with
      attentionBuckets := feature.attentionBuckets.set bucketKey ⟨attentionShare, confidenceShare⟩ }
  | some existing => { feature with
      attentionBuckets := feature.attentionBuckets.set bucketKey
        ⟨max existing.attentionShare attentionShare, max existing.confidenceShare confidenceShare⟩ }

/-- A product's feature once a contribution is counted. -/
def counted (feature : Option MutableProductAttentionFeature) (c : Contribution) :
    MutableProductAttentionFeature :=
  match feature with
  | none => ⟨1, c.confidenceShare, c.sequence, c.candidateIndex, .empty⟩
  | some feature =>
    { feature with
      validAttentionCount := feature.validAttentionCount + 1
      confidenceTotal := feature.confidenceTotal + c.confidenceShare }.recordFirstAttention
        c.sequence c.candidateIndex

/-- The body of the last loop of `accept`. -/
def note (feature : Option MutableProductAttentionFeature) (c : Contribution) :
    MutableProductAttentionFeature :=
  match c.bucketKey with
  | some bucketKey =>
    (counted feature c).recordAttentionBucket bucketKey c.attentionShare c.confidenceShare
  | none => counted feature c

end MutableProductAttentionFeature

/-- The last loop of `accept`. -/
def ProductFeatureAccumulator.fold (acc : ProductFeatureAccumulator) (noted : List Contribution) :
    ProductFeatureAccumulator :=
  { acc with
    features := noted.foldl (Dict.insertWith (·.productId) MutableProductAttentionFeature.note)
      acc.features }

/-- `ProductFeatureAccumulator.accept` -/
def ProductFeatureAccumulator.accept (acc : ProductFeatureAccumulator) (event : ContractRecord) :
    Except FeatureError ProductFeatureAccumulator :=
  (contributions acc.knownProductIds acc.attentionBucketMs event).map acc.fold

/-! ## The snapshot -/

/-- `ProductAttentionFeature` -/
structure ProductAttentionFeature where
  productId : String
  validAttentionCount : ℕ
  confidenceTotal : ℚ
  attentionDurationMs : ℚ
  confidenceWeightedAttentionMs : ℚ
  revisitCount : ℕ
  firstAttentionSequence : ℤ
  firstCandidateIndex : ℕ
  deriving DecidableEq

/-- The totals of `_bucket_scales`. -/
def bucketTotals (features : Dict String MutableProductAttentionFeature) : Dict BucketKey ℚ :=
  Dict.accumulate Prod.fst (fun total item => total.getD 0 + item.2.attentionShare)
    (features.values.flatMap (·.attentionBuckets.entries))

/-- `_bucket_scales` -/
def bucketScales (features : Dict String MutableProductAttentionFeature) : Dict BucketKey ℚ :=
  (bucketTotals features).mapItems fun _ total => if total ≤ 1 then 1 else 1 / total

/-- `mapping[key]` -/
def subscript {K V : Type} [DecidableEq K] (mapping : Dict K V) (key : K) : Except FeatureError V :=
  match mapping.get? key with
  | some value => .ok value
  | none => .error .keyError

/-- The locals of `_summarize_attention_buckets`. -/
structure BucketSummary where
  durationMs : ℚ
  confidenceWeightedDurationMs : ℚ
  bucketsByEpoch : Dict ℕ (List ℕ)

/-- One turn of its first loop. -/
def BucketSummary.add (attentionBucketMs : ℕ) (bucketScales : Dict BucketKey ℚ) (s : BucketSummary)
    (item : BucketKey × AttentionBucket) : Except FeatureError BucketSummary := do
  let bucketScale ← subscript bucketScales item.1
  return {
    durationMs := s.durationMs + attentionBucketMs * item.2.attentionShare * bucketScale
    confidenceWeightedDurationMs :=
      s.confidenceWeightedDurationMs + attentionBucketMs * item.2.confidenceShare * bucketScale
    bucketsByEpoch := s.bucketsByEpoch.insertWith (fun key : BucketKey => key.1)
      (fun indexes key => indexes.getD [] ++ [key.2]) item.1 }

/-- The runs of one epoch; `previous` is `previous_bucket`. -/
def observationRuns (gap : ℕ) (previous : Option ℕ) : List ℕ → ℕ
  | [] => 0
  | bucketIndex :: rest =>
    (if previous.all fun p => p + gap < bucketIndex then 1 else 0) +
      observationRuns gap (some bucketIndex) rest

/-- `_summarize_attention_buckets` -/
def summarizeAttentionBuckets (attentionBucketMs gap : ℕ) (bucketScales : Dict BucketKey ℚ)
    (feature : MutableProductAttentionFeature) : Except FeatureError (ℚ × ℚ × ℕ) := do
  let s ← feature.attentionBuckets.entries.foldlM (BucketSummary.add attentionBucketMs bucketScales)
    ⟨0, 0, .empty⟩
  let runs := (s.bucketsByEpoch.values.map fun indexes =>
    observationRuns gap none (sortOn id indexes)).sum
  return (s.durationMs, s.confidenceWeightedDurationMs, runs - 1)

/-- One item of the snapshot. -/
def snapshotItem (acc : ProductFeatureAccumulator) (bucketScales : Dict BucketKey ℚ)
    (productId : String) (feature : MutableProductAttentionFeature) :
    Except FeatureError ProductAttentionFeature := do
  let (attentionDurationMs, confidenceWeightedAttentionMs, revisitCount) ←
    summarizeAttentionBuckets acc.attentionBucketMs acc.maxContiguousBucketGap bucketScales feature
  return ⟨productId, feature.validAttentionCount, feature.confidenceTotal, attentionDurationMs,
    confidenceWeightedAttentionMs, revisitCount, feature.firstAttentionSequence,
    feature.firstCandidateIndex⟩

/-- `ProductFeatureAccumulator.snapshot` -/
def ProductFeatureAccumulator.snapshot (acc : ProductFeatureAccumulator) :
    Except FeatureError (List ProductAttentionFeature) :=
  let bucketScales := bucketScales acc.features
  (sortOn Prod.fst acc.features.entries).mapM fun (productId, feature) =>
    snapshotItem acc bucketScales productId feature

end Mkk.Recommendation
