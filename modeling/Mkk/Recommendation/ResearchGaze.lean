import Mkk.Api.Contract
import Mkk.Lib.Rounding
import Mkk.Recommendation.Durations
import Mathlib.Data.List.DropRight
import Mathlib.Data.String.Basic

/-!
# The gaze score engine

`ResearchGazeScoreEngine` of `research_gaze.py` and the `RecommendationResult` of `schemas.py` that its run
is validated as. Weights and scores are exact rationals; a division and a `max` say when they raise.
-/

namespace Mkk.Recommendation

open Lib Mkk.Api

/-- A `ZeroDivisionError`, or the `ValueError` of `max` over nothing. -/
inductive EngineError where
  | zeroDivision
  | emptyMax
  deriving DecidableEq, Repr

/-- `a / b` -/
def divide (a b : ℚ) : Except EngineError ℚ := if b = 0 then .error .zeroDivision else .ok (a / b)

/-- `max(...)` over an iterable. -/
def maxOf {α : Type} [LinearOrder α] : List α → Except EngineError α
  | [] => .error .emptyMax
  | a :: rest => .ok (rest.foldl max a)

section

variable {a b : ℚ} {α : Type} [LinearOrder α] {l : List α}

/-- A part of a positive whole. -/
theorem divide_part (nonneg : 0 ≤ a) (le : a ≤ b) (positive : 0 < b) :
    ∃ q, divide a b = .ok q ∧ 0 ≤ q ∧ q ≤ 1 :=
  ⟨a / b, if_neg positive.ne', div_nonneg nonneg positive.le, (div_le_one positive).2 le⟩

theorem le_foldl_max (a : α) (rest : List α) :
    a ≤ rest.foldl max a ∧ ∀ b ∈ rest, b ≤ rest.foldl max a := by
  induction rest generalizing a with
  | nil => exact ⟨le_rfl, fun b member => absurd member List.not_mem_nil⟩
  | cons c rest ih =>
    obtain ⟨first, later⟩ := ih (max a c)
    refine ⟨(le_max_left a c).trans first, fun b member => ?_⟩
    rcases List.mem_cons.1 member with rfl | member
    · exact (le_max_right a b).trans first
    · exact later b member

/-- The maximum of what is not empty. -/
theorem maxOf_ok (nonempty : l ≠ []) : ∃ m, maxOf l = .ok m ∧ ∀ a ∈ l, a ≤ m := by
  cases l with
  | nil => exact absurd rfl nonempty
  | cons a rest =>
    obtain ⟨first, later⟩ := le_foldl_max a rest
    refine ⟨_, rfl, fun b member => ?_⟩
    rcases List.mem_cons.1 member with rfl | member
    · exact first
    · exact later b member

end

/-! ## Weights -/

def gazeScoreVersionPrefix : String := "gaze-score-v0"

/-- The digits of a natural number below ten to the power `places`, with leading zeros. -/
def paddedDigits : ℕ → ℕ → List Char
  | 0, _ => []
  | places + 1, n => (n / 10 ^ places % 10).digitChar :: paddedDigits places n

/-- `f"{value:.6f}"` of a number that is not negative. -/
def sixDecimals (value : ℚ) : List Char :=
  let units := (roundHalfEven (value * 10 ^ 6)).toNat
  (toString (units / 10 ^ 6)).toList ++ '.' :: paddedDigits 6 units

/-- `_format_weight` -/
def formatWeight (value : ℚ) : String :=
  String.ofList ((((sixDecimals value).rdropWhile (· = '0')).rdropWhile (· = '.')).map fun c =>
    if c = '.' then 'p' else c)

/-- `GazeScoreWeights` -/
structure GazeScoreWeights where
  attentionDuration : ℚ
  attentionConfidence : ℚ
  revisitCount : ℚ
  nonneg : 0 ≤ attentionDuration ∧ 0 ≤ attentionConfidence ∧ 0 ≤ revisitCount
  addUp : |attentionDuration + attentionConfidence + revisitCount - 1| ≤ 1 / 10 ^ 9

namespace GazeScoreWeights

/-- `__post_init__` of three finite numbers. -/
def ofValues (attentionDuration attentionConfidence revisitCount : ℚ) : Except String GazeScoreWeights :=
  if nonneg : 0 ≤ attentionDuration ∧ 0 ≤ attentionConfidence ∧ 0 ≤ revisitCount then
    if addUp : |attentionDuration + attentionConfidence + revisitCount - 1| ≤ 1 / 10 ^ 9 then
      .ok ⟨attentionDuration, attentionConfidence, revisitCount, nonneg, addUp⟩
    else .error "gaze score weights must add up to 1"
  else .error "gaze score weights must be finite non-negative numbers"

/-- The weights of `GazeScoreWeights()`. -/
def default : GazeScoreWeights :=
  ⟨65 / 100, 25 / 100, 10 / 100, by norm_num, by norm_num⟩

/-- The sum of the weights. -/
def total (w : GazeScoreWeights) : ℚ := w.attentionDuration + w.attentionConfidence + w.revisitCount

def algorithmRevision (w : GazeScoreWeights) : String :=
  gazeScoreVersionPrefix ++ "-b100" ++ "-g300" ++ "-w" ++ formatWeight w.attentionDuration ++ "-c" ++
    formatWeight w.attentionConfidence ++ "-r" ++ formatWeight w.revisitCount

end GazeScoreWeights

theorem length_paddedDigits (places n : ℕ) : (paddedDigits places n).length = places := by
  induction places with
  | zero => rfl
  | succ places ih => rw [paddedDigits, List.length_cons, ih]

/-- A weight is written in eight characters at most. -/
theorem length_formatWeight {value : ℚ} (le : value ≤ 1 + 1 / 10 ^ 9) :
    (formatWeight value).length ≤ 8 := by
  have rounded : roundHalfEven (value * 10 ^ 6) ≤ 1000000 := by
    refine roundHalfEven_le ?_
    push_cast
    linarith
  have whole : (roundHalfEven (value * 10 ^ 6)).toNat / 10 ^ 6 = 0 ∨
      (roundHalfEven (value * 10 ^ 6)).toNat / 10 ^ 6 = 1 := by
    omega
  have decimals : (sixDecimals value).length = 8 := by
    unfold sixDecimals
    dsimp only
    rw [List.length_append, List.length_cons, length_paddedDigits]
    rcases whole with zero | one
    · rw [zero]
      rfl
    · rw [one]
      rfl
  unfold formatWeight
  rw [String.length_ofList, List.length_map]
  calc (((sixDecimals value).rdropWhile (· = '0')).rdropWhile (· = '.')).length
      ≤ ((sixDecimals value).rdropWhile (· = '0')).length := (List.rdropWhile_prefix _ _).length_le
    _ ≤ (sixDecimals value).length := (List.rdropWhile_prefix _ _).length_le
    _ = 8 := decimals

/-- The revision of any weights fits the contract. -/
theorem GazeScoreWeights.isRevision_algorithmRevision (w : GazeScoreWeights) :
    isRevision w.algorithmRevision = true := by
  obtain ⟨nonnegD, nonnegC, nonnegR⟩ := w.nonneg
  have sum := (abs_le.1 w.addUp).2
  have duration := @length_formatWeight w.attentionDuration (by linarith)
  have confidence := @length_formatWeight w.attentionConfidence (by linarith)
  have revisit := @length_formatWeight w.revisitCount (by linarith)
  have fixed : gazeScoreVersionPrefix.length = 13 ∧ "-b100".length = 5 ∧ "-g300".length = 5 ∧
      "-w".length = 2 ∧ "-c".length = 2 ∧ "-r".length = 2 := by decide
  unfold isRevision GazeScoreWeights.algorithmRevision
  simp only [String.length_append, fixed, Bool.and_eq_true, decide_eq_true_eq]
  omega

/-! ## Runs -/

/-- `engine_mode` -/
inductive EngineMode where
  | mock
  | researchVersion
  deriving DecidableEq, Repr

inductive RecommendationStatus where
  | pending
  | completed
  | insufficientData
  | failed
  deriving DecidableEq, Repr

structure RecommendationItem where
  rank : ℤ
  productId : String
  deriving DecidableEq, Repr

/-- The ids and the version an engine is called with. -/
structure RunSubject where
  recommendationId : String
  sessionId : String
  videoId : String
  manifestVersion : String
  deriving DecidableEq, Repr

structure RecommendationRun where
  subject : RunSubject
  algorithmVersion : String
  engineMode : EngineMode
  status : RecommendationStatus
  items : List RecommendationItem
  reason : Option String
  deriving DecidableEq, Repr

/-- `first_seen_key` -/
def ProductAttentionFeature.firstSeenKey (f : ProductAttentionFeature) : ℤ ×ₗ ℕ ×ₗ String :=
  toLex (f.firstAttentionSequence, toLex (f.firstCandidateIndex, f.productId))

/-- `average_attention_confidence` -/
def ProductAttentionFeature.averageAttentionConfidence (f : ProductAttentionFeature) :
    Except EngineError ℚ :=
  if f.attentionDurationMs ≤ 0 then .ok 0 else divide f.confidenceWeightedAttentionMs f.attentionDurationMs

/-- `known_products` -/
def knownProducts (products : List ContractRecord) : List String :=
  products.filterMap fun product =>
    match Value.get product "product_id" with
    | .str productId => some productId
    | _ => none

structure ResearchGazeScoreEngine where
  weights : GazeScoreWeights

namespace ResearchGazeScoreEngine

/-- `_score` -/
def score (engine : ResearchGazeScoreEngine) (feature : ProductAttentionFeature) (maxDuration : ℚ)
    (maxRunCandidateCount : ℕ) : Except EngineError ℚ := do
  let durationScore ← divide feature.attentionDurationMs maxDuration
  let confidenceScore ← feature.averageAttentionConfidence
  let revisitScore ← (if maxRunCandidateCount = 0 then pure 0
    else divide feature.revisitCount maxRunCandidateCount)
  return engine.weights.attentionDuration * durationScore +
    engine.weights.attentionConfidence * confidenceScore + engine.weights.revisitCount * revisitScore

/-- `candidates` of `run`. -/
def candidates (products : List ContractRecord) (features : List ProductAttentionFeature) :
    List ProductAttentionFeature :=
  features.filter fun feature =>
    feature.productId ∈ knownProducts products ∧ 0 < feature.attentionDurationMs

/-- A candidate with the key it is sorted by. -/
def keyed (engine : ResearchGazeScoreEngine) (maxDuration : ℚ) (maxRunCandidateCount : ℕ)
    (feature : ProductAttentionFeature) :
    Except EngineError (ProductAttentionFeature × (ℚ ×ₗ ℤ ×ₗ ℕ ×ₗ String)) := do
  let score ← engine.score feature maxDuration maxRunCandidateCount
  return (feature, toLex (-score, feature.firstSeenKey))

/-- `run` -/
def run (engine : ResearchGazeScoreEngine) (subject : RunSubject)
    (features : List ProductAttentionFeature) (products : List ContractRecord) :
    Except EngineError RecommendationRun := do
  let candidates := candidates products features
  if candidates.length < 2 then
    return ⟨subject, engine.weights.algorithmRevision, .researchVersion, .insufficientData, [],
      some "not_enough_scored_attention"⟩
  let maxDuration ← maxOf (candidates.map (·.attentionDurationMs))
  let maxRunCandidateCount ← maxOf (candidates.map (·.revisitCount))
  let keys ← candidates.mapM (engine.keyed maxDuration maxRunCandidateCount)
  let ranked := (sortOn Prod.snd keys).map Prod.fst
  return ⟨subject, engine.weights.algorithmRevision, .researchVersion, .completed,
    ((ranked.take 2).zipIdx 1).map fun (feature, rank) => ⟨rank, feature.productId⟩, none⟩

end ResearchGazeScoreEngine

/-! ## The result -/

/-- `RecommendationResult`, with the fields of the run's payload. -/
structure RecommendationResult where
  payload : RecommendationRun
  deriving DecidableEq, Repr

/-- The fields of `RecommendationItem`. -/
abbrev RecommendationItem.Valid (item : RecommendationItem) : Prop :=
  1 ≤ item.rank ∧ item.rank ≤ 2 ∧ isIdentifier item.productId = true

/-- `enforce_result_shape` -/
abbrev ResultShape (run : RecommendationRun) : Prop :=
  if run.status = .completed then
    run.items.map (·.rank) = [1, 2] ∧ (run.items.map (·.productId)).dedup.length = 2 ∧ run.reason = none
  else run.items = [] ∧
    (run.status = .insufficientData ∨ run.status = .failed → run.reason ≠ none) ∧
    (run.status = .pending → run.reason = none)

instance : ContractModel RecommendationResult where
  modelName := "RecommendationResult"
  FieldsValid r := isIdentifier r.payload.subject.recommendationId = true ∧
    isIdentifier r.payload.subject.sessionId = true ∧ isIdentifier r.payload.subject.videoId = true ∧
    isRevision r.payload.subject.manifestVersion = true ∧
    isRevision r.payload.algorithmVersion = true ∧ (∀ item ∈ r.payload.items, item.Valid) ∧
    ReasonOk r.payload.reason ∧ ResultShape r.payload
  decidable _ := inferInstance

/-- `RecommendationResult.model_validate(run.to_payload())` -/
def RecommendationResult.modelValidate (run : RecommendationRun) : Except PyError RecommendationResult :=
  construct ⟨run⟩

/-! ## Scores -/

section Scores

variable {engine : ResearchGazeScoreEngine} {features : List ProductAttentionFeature}
  {products : List ContractRecord} {feature : ProductAttentionFeature} {subject : RunSubject}

theorem GazeScoreWeights.total_of_parts (w : GazeScoreWeights) {d c r : ℚ} (duration : 0 ≤ d ∧ d ≤ 1)
    (confidence : 0 ≤ c ∧ c ≤ 1) (revisit : 0 ≤ r ∧ r ≤ 1) :
    0 ≤ w.attentionDuration * d + w.attentionConfidence * c + w.revisitCount * r ∧
      w.attentionDuration * d + w.attentionConfidence * c + w.revisitCount * r ≤ w.total := by
  obtain ⟨nonnegD, nonnegC, nonnegR⟩ := w.nonneg
  constructor
  · exact add_nonneg (add_nonneg (mul_nonneg nonnegD duration.1) (mul_nonneg nonnegC confidence.1))
      (mul_nonneg nonnegR revisit.1)
  · exact add_le_add (add_le_add (mul_le_of_le_one_right nonnegD duration.2)
      (mul_le_of_le_one_right nonnegC confidence.2)) (mul_le_of_le_one_right nonnegR revisit.2)

/-- The average confidence of weighted attention. -/
theorem averageAttentionConfidence_ok
    (weighted : Weighted feature.attentionDurationMs feature.confidenceWeightedAttentionMs) :
    ∃ q, feature.averageAttentionConfidence = .ok q ∧ 0 ≤ q ∧ q ≤ 1 := by
  unfold ProductAttentionFeature.averageAttentionConfidence
  split
  · exact ⟨0, rfl, le_rfl, zero_le_one⟩
  next positive => exact divide_part weighted.nonneg weighted.le (not_le.1 positive)

/-- **A score** divides by no zero and lies between zero and the sum of the weights. -/
theorem score_ok (weighted : Weighted feature.attentionDurationMs feature.confidenceWeightedAttentionMs)
    {maxDuration : ℚ} {maxRunCandidateCount : ℕ} (positive : 0 < feature.attentionDurationMs)
    (duration : feature.attentionDurationMs ≤ maxDuration)
    (revisits : feature.revisitCount ≤ maxRunCandidateCount) :
    ∃ s, engine.score feature maxDuration maxRunCandidateCount = .ok s ∧ 0 ≤ s ∧
      s ≤ engine.weights.total := by
  obtain ⟨d, dividedD, partD⟩ := divide_part positive.le duration (positive.trans_le duration)
  obtain ⟨c, dividedC, partC⟩ := averageAttentionConfidence_ok weighted
  have revisit : ∃ r, (if maxRunCandidateCount = 0 then pure 0
      else divide feature.revisitCount maxRunCandidateCount) = .ok r ∧ 0 ≤ r ∧ r ≤ 1 := by
    split
    · exact ⟨0, rfl, le_rfl, zero_le_one⟩
    next nonzero =>
      exact divide_part (Nat.cast_nonneg _) (Nat.cast_le.2 revisits)
        (Nat.cast_pos.2 (Nat.pos_of_ne_zero nonzero))
  obtain ⟨r, dividedR, partR⟩ := revisit
  refine ⟨_, ?_, engine.weights.total_of_parts partD partC partR⟩
  unfold ResearchGazeScoreEngine.score
  rw [bind_ok dividedD, bind_ok dividedC, bind_ok dividedR]
  rfl

/-- The features of a snapshot the engine can be run on. -/
structure Scorable (features : List ProductAttentionFeature) : Prop where
  weighted : ∀ f ∈ features, Weighted f.attentionDurationMs f.confidenceWeightedAttentionMs
  distinct : (features.map (·.productId)).Nodup

/-- Two different products that are known, first and second. -/
structure TopTwo (known : List String) (items : List RecommendationItem) (first second : String) :
    Prop where
  items : items = [⟨1, first⟩, ⟨2, second⟩]
  distinct : first ≠ second
  firstKnown : first ∈ known
  secondKnown : second ∈ known

/-- What a run gives: too little data, or two products. -/
structure Answer (engine : ResearchGazeScoreEngine) (subject : RunSubject) (known : List String)
    (run : RecommendationRun) : Prop where
  subject : run.subject = subject
  algorithmVersion : run.algorithmVersion = engine.weights.algorithmRevision
  outcome :
    (run.status = .insufficientData ∧ run.items = [] ∧ run.reason = some "not_enough_scored_attention") ∨
    (run.status = .completed ∧ run.reason = none ∧ ∃ first second, TopTwo known run.items first second)

/-- The two products that rank first among candidates. -/
theorem topTwo_of_ranked {ranked : List ProductAttentionFeature}
    (perm : ranked.Perm (ResearchGazeScoreEngine.candidates products features))
    (distinct : (features.map (·.productId)).Nodup) (enough : 2 ≤ ranked.length) :
    ∃ first second, TopTwo (knownProducts products)
      (((ranked.take 2).zipIdx 1).map fun (feature, rank) => ⟨rank, feature.productId⟩) first second := by
  have known (f : ProductAttentionFeature) (member : f ∈ ranked) :
      f.productId ∈ knownProducts products :=
    (of_decide_eq_true (List.mem_filter.1 (perm.mem_iff.1 member)).2).1
  have nodup : (ranked.map (·.productId)).Nodup :=
    ((perm.map (·.productId)).nodup_iff).2 ((List.filter_sublist.map _).nodup distinct)
  obtain ⟨a, b, rest, rfl⟩ : ∃ a b rest, ranked = a :: b :: rest := by
    match ranked, enough with
    | a :: b :: rest, _ => exact ⟨a, b, rest, rfl⟩
  refine ⟨a.productId, b.productId, rfl, fun same => ?_, known a List.mem_cons_self,
    known b (List.mem_cons_of_mem _ List.mem_cons_self)⟩
  exact (List.nodup_cons.1 nodup).1 (List.mem_cons.2 (.inl same))

/-- **A run returns**, with too little data or with two products. -/
theorem run_ok (scorable : Scorable features) :
    ∃ run, engine.run subject features products = .ok run ∧
      Answer engine subject (knownProducts products) run := by
  unfold ResearchGazeScoreEngine.run
  dsimp only
  split
  · exact ⟨_, rfl, rfl, rfl, .inl ⟨rfl, rfl, rfl⟩⟩
  next many =>
    have enough : 2 ≤ (ResearchGazeScoreEngine.candidates products features).length := not_lt.1 many
    have nonempty {α : Type} (f : ProductAttentionFeature → α) :
        (ResearchGazeScoreEngine.candidates products features).map f ≠ [] := by
      intro none
      rw [List.map_eq_nil_iff.1 none] at enough
      exact absurd enough (by decide)
    obtain ⟨maxDuration, longest, durations⟩ := maxOf_ok (nonempty (·.attentionDurationMs))
    obtain ⟨maxRun, most, revisits⟩ := maxOf_ok (nonempty (·.revisitCount))
    have each (f : ProductAttentionFeature)
        (member : f ∈ ResearchGazeScoreEngine.candidates products features) :
        ∃ keyed, engine.keyed maxDuration maxRun f = .ok keyed ∧ keyed.1 = f := by
      obtain ⟨present, taken⟩ := List.mem_filter.1 member
      obtain ⟨s, scored, -⟩ := @score_ok engine _ (scorable.weighted f present) _ _
        (of_decide_eq_true taken).2 (durations _ (List.mem_map_of_mem member))
        (revisits _ (List.mem_map_of_mem member))
      exact ⟨_, by unfold ResearchGazeScoreEngine.keyed; rw [bind_ok scored]; rfl, rfl⟩
    obtain ⟨keys, mapped, told⟩ := mapM_ok each
    have unkeyed : keys.map Prod.fst = ResearchGazeScoreEngine.candidates products features := by
      have same := List.forall₂_map_left_iff (f := Prod.fst).2 told.flip
      rwa [List.forall₂_eq_eq_eq] at same
    have perm : ((sortOn Prod.snd keys).map Prod.fst).Perm
        (ResearchGazeScoreEngine.candidates products features) := by
      rw [← unkeyed]
      exact (sortOn_perm Prod.snd keys).map Prod.fst
    obtain ⟨first, second, top⟩ := topTwo_of_ranked perm scorable.distinct (perm.length_eq ▸ enough)
    rw [bind_ok longest, bind_ok most, bind_ok mapped]
    exact ⟨_, rfl, rfl, rfl, .inr ⟨rfl, rfl, first, second, top⟩⟩

end Scores

/-! ## Accepted as a result -/

section Accepted

/-- What the callers of `run` promise of the ids they pass. -/
structure SubjectValid (subject : RunSubject) : Prop where
  recommendationId : isIdentifier subject.recommendationId = true
  sessionId : isIdentifier subject.sessionId = true
  videoId : isIdentifier subject.videoId = true
  manifestVersion : isRevision subject.manifestVersion = true

variable {engine : ResearchGazeScoreEngine} {subject : RunSubject} {known : List String}
  {run : RecommendationRun} {acc acc' : ProductFeatureAccumulator}
  {report : List ProductAttentionFeature} {events : List ContractRecord}

/-- **An answer is a result.** -/
theorem Answer.accepted (answer : Answer engine subject known run) (valid : SubjectValid subject)
    (products : ∀ p ∈ known, isIdentifier p = true) :
    RecommendationResult.modelValidate run = .ok ⟨run⟩ := by
  refine construct_ok ⟨?_, ?_, ?_, ?_, ?_, ?_⟩
  · exact answer.subject ▸ valid.recommendationId
  · exact answer.subject ▸ valid.sessionId
  · exact answer.subject ▸ valid.videoId
  · exact answer.subject ▸ valid.manifestVersion
  · exact answer.algorithmVersion ▸ engine.weights.isRevision_algorithmRevision
  · rcases answer.outcome with ⟨status, items, reason⟩ | ⟨status, reason, first, second, top⟩
    · refine ⟨fun item member => ?_, fun r told => ?_, ?_⟩
      · rw [items] at member
        exact absurd member List.not_mem_nil
      · rw [reason] at told
        cases told
        decide
      · unfold ResultShape
        rw [status, if_neg (by decide)]
        exact ⟨items, fun _ => by rw [reason]; exact Option.some_ne_none _, nofun⟩
    · refine ⟨fun item member => ?_, fun r told => ?_, ?_⟩
      · rw [top.items] at member
        rcases List.mem_cons.1 member with rfl | member
        · exact ⟨le_rfl, one_le_two, products first top.firstKnown⟩
        · rw [List.mem_singleton.1 member]
          exact ⟨one_le_two, le_rfl, products second top.secondKnown⟩
      · rw [reason] at told
        cases told
      · unfold ResultShape
        rw [status, if_pos rfl, top.items]
        refine ⟨rfl, ?_, reason⟩
        rw [List.map_cons, List.map_cons, List.map_nil, List.Nodup.dedup]
        · rfl
        · exact List.nodup_cons.2 ⟨fun member => top.distinct (List.mem_singleton.1 member),
            List.nodup_singleton _⟩

/-- The features of a snapshot are of different products. -/
theorem report_distinct (made : acc.snapshot = .ok report) : (report.map (·.productId)).Nodup := by
  have ids : report.map (·.productId) = sortOn id acc.features.keys := by
    have told := congrArg (List.map fun item : String × ℚ × ℚ => item.1) (report_durations made)
    rw [List.map_map, List.map_map] at told
    exact told.trans (List.map_id _)
  rw [ids]
  exact ((sortOn_perm id _).nodup_iff).2 acc.features.nodup

/-- What holds of an accumulator that accepted events, and of its snapshot. -/
structure SoundAttention (acc : ProductFeatureAccumulator) (events : List ContractRecord)
    (report : List ProductAttentionFeature) : Prop where
  bucket : ∀ k, ∑ p ∈ acc.productIds, acc.contribution AttentionBucket.attentionShare p k ≤
    acc.attentionBucketMs
  contributed : ∀ item ∈ report, item.attentionDurationMs =
    ∑ k ∈ acc.distinctBuckets, acc.contribution AttentionBucket.attentionShare item.productId k
  total : (report.map (·.attentionDurationMs)).sum ≤ acc.attentionBucketMs * acc.distinctBuckets.card
  weighted : ∀ item ∈ report, 0 ≤ item.confidenceWeightedAttentionMs ∧
    item.confidenceWeightedAttentionMs ≤ item.attentionDurationMs
  repeated : ∀ e ∈ events, ∃ acc' report', acc.accept e = .ok acc' ∧ acc'.snapshot = .ok report' ∧
    report'.map (·.durations) = report.map (·.durations)

/-- What holds of every run of an engine on a snapshot. -/
structure SoundEngine (engine : ResearchGazeScoreEngine) (report : List ProductAttentionFeature) :
    Prop where
  scored : ∀ products, ∀ f ∈ ResearchGazeScoreEngine.candidates products report, ∀ maxDuration maxRun,
    maxOf ((ResearchGazeScoreEngine.candidates products report).map (·.attentionDurationMs)) =
      .ok maxDuration →
    maxOf ((ResearchGazeScoreEngine.candidates products report).map (·.revisitCount)) = .ok maxRun →
    ∃ s, engine.score f maxDuration maxRun = .ok s ∧ 0 ≤ s ∧ s ≤ engine.weights.total
  answered : ∀ subject products, ∃ run, engine.run subject report products = .ok run ∧
    Answer engine subject (knownProducts products) run ∧
    (SubjectValid subject → (∀ p ∈ knownProducts products, isIdentifier p = true) →
      RecommendationResult.modelValidate run = .ok ⟨run⟩)

theorem soundEngine (scorable : Scorable report) : SoundEngine engine report where
  scored products f member maxDuration maxRun longest most := by
    obtain ⟨present, taken⟩ := List.mem_filter.1 member
    have nonempty {α : Type} (g : ProductAttentionFeature → α) :
        (ResearchGazeScoreEngine.candidates products report).map g ≠ [] :=
      List.ne_nil_of_mem (List.mem_map_of_mem member)
    obtain ⟨d, longest', durations⟩ := maxOf_ok (nonempty (·.attentionDurationMs))
    obtain ⟨r, most', revisits⟩ := maxOf_ok (nonempty (·.revisitCount))
    cases longest.symm.trans longest'
    cases most.symm.trans most'
    exact score_ok (scorable.weighted f present) (of_decide_eq_true taken).2
      (durations _ (List.mem_map_of_mem member)) (revisits _ (List.mem_map_of_mem member))
  answered subject products := by
    obtain ⟨run, returned, answer⟩ := @run_ok engine _ products subject scorable
    exact ⟨run, returned, answer, answer.accepted⟩

/-- **Accepted attention is sound**: no bucket gives more than its length, weighted attention stays below
attention, an event counts once, and the engine ranks what the snapshot says without an exception. -/
theorem accepted_attention_sound {known : Finset String} {attentionBucketMs revisitGapMs : Value}
    (opened : ProductFeatureAccumulator.init known attentionBucketMs revisitGapMs = .ok acc)
    (accepted : events.foldlM ProductFeatureAccumulator.accept acc = .ok acc')
    (confident : ∀ e ∈ events, ConfidenceInUnit e) : ∃ report, acc'.snapshot = .ok report ∧
      SoundAttention acc' events report ∧ ∀ engine, SoundEngine engine report := by
  obtain ⟨report, made⟩ := snapshot_returns acc'
  have weighted := report_weighted
    (bucketsWeighted_of_foldlM (init_bucketsWeighted opened) accepted confident) made
  refine ⟨report, made, ⟨sum_contribution_le acc', ?_, sum_report_le made, ?_, ?_⟩, fun engine =>
    soundEngine ⟨weighted, report_distinct made⟩⟩
  · intro item member
    rw [← duration_eq_sum]
    exact report_duration made item member
  · exact fun item member => ⟨(weighted item member).nonneg, (weighted item member).le⟩
  · intro e member
    obtain ⟨acc'', again⟩ := accept_again accepted member
    obtain ⟨report', made'⟩ := snapshot_returns acc''
    exact ⟨acc'', report', again, made',
      (sameAttention_of_repeated accepted member again).durations made' made⟩

/-- A gaze event of the first half second that names these products. -/
def gazeEvent (sourceGazeEventId : String) (sequence : ℤ) (productIds : List String) : ContractRecord :=
  [("source_gaze_event_id", .str sourceGazeEventId), ("valid", .bool true), ("outside_video", .bool false),
    ("sequence", .int sequence), ("confidence", .float (.finite (1 / 2))), ("video_time_ms", .int 250),
    ("playback_epoch", .int 0),
    ("candidates", .list (productIds.map fun productId => .dict [("product_id", .str productId)]))]

theorem confidence_gazeEvent {sourceGazeEventId : String} {sequence : ℤ} {productIds : List String} :
    ConfidenceInUnit (gazeEvent sourceGazeEventId sequence productIds) := by
  intro q confidence
  cases confidence
  norm_num

/-- Both products and then one of them in the same bucket, and the first event again. -/
def sharedBucket : List ContractRecord :=
  [gazeEvent "gaze-1" 0 ["bag", "belt"], gazeEvent "gaze-2" 1 ["bag"], gazeEvent "gaze-1" 0 ["bag", "belt"]]

/-- The shares of the bucket add up to more than its length, and are scaled down to it. -/
theorem accepted_attention_sound_shared : ∃ acc report,
    sharedBucket.foldlM ProductFeatureAccumulator.accept (.ofProducts {"bag", "belt"}) = .ok acc ∧
    acc.snapshot = .ok report ∧ report.map (·.attentionDurationMs) = [200 / 3, 100 / 3] ∧
    SoundAttention acc sharedBucket report ∧ ∀ engine, SoundEngine engine report := by
  have reads : ∀ e ∈ sharedBucket, (ProductFeatureAccumulator.ofProducts {"bag", "belt"}).Reads e := by
    simp only [sharedBucket, List.forall_mem_cons]
    exact ⟨⟨_, rfl⟩, ⟨_, rfl⟩, ⟨_, rfl⟩, nofun⟩
  have accepted := foldlM_accept reads
  have confident : ∀ e ∈ sharedBucket, ConfidenceInUnit e := by
    simp only [sharedBucket, List.forall_mem_cons]
    exact ⟨confidence_gazeEvent, confidence_gazeEvent, confidence_gazeEvent, nofun⟩
  obtain ⟨report, made, sound⟩ :=
    accepted_attention_sound (init_defaults {"bag", "belt"}) accepted confident
  have shares : (((ProductFeatureAccumulator.ofProducts {"bag", "belt"}).fold (sharedBucket.flatMap
      (ProductFeatureAccumulator.ofProducts {"bag", "belt"}).noted)).snapshot.toOption.map
        fun report => report.map (·.attentionDurationMs)) = some [200 / 3, 100 / 3] := by decide +kernel
  rw [made] at shares
  exact ⟨_, report, accepted, made, Option.some.inj shares, sound⟩

end Accepted

end Mkk.Recommendation
