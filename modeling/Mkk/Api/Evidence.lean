import Mkk.Api.SourceAoi

/-!
# Aggregated evidence of a session

`summarize_observations` of `v2_evidence.py` and the models it fills. The frames are read
once in analysis order: each frame is attributed to at most one product, a break in
playback closes the current evidence window, and per product the loop gathers dwell time,
movement, returns and expression changes. The per-product dictionaries of the source are
one dictionary of records here.
-/

namespace Mkk.Api

open Lib

inductive InputVariant where
  | a | b | c
  deriving DecidableEq, Repr

/-- `FEATURE_VERSION` -/
def featureVersion : String := "central-evidence-v2-demo-2"

/-- `MAX_CONTINUOUS_GAP_MS` -/
def maxContinuousGapMs : ℚ := 1000

/-! ## The evidence models -/

structure EyeSignalVersionV2 where
  producerId : String
  modelRevision : String
  deriving DecidableEq

instance : ContractModel EyeSignalVersionV2 where
  modelName := "EyeSignalVersionV2"
  FieldsValid v := isIdentifier v.producerId = true ∧ isRevision v.modelRevision = true
  decidable _ := inferInstance

structure FaceSignalVersionV2 where
  producerId : String
  modelRevision : String
  taxonomyVersion : String
  deriving DecidableEq

instance : ContractModel FaceSignalVersionV2 where
  modelName := "FaceSignalVersionV2"
  FieldsValid v := isIdentifier v.producerId = true ∧ isRevision v.modelRevision = true ∧
    isRevision v.taxonomyVersion = true
  decidable _ := inferInstance

structure SignalVersionsV2 where
  eye : Option EyeSignalVersionV2
  eyeReason : Option String
  face : Option FaceSignalVersionV2
  faceReason : Option String
  aoiMapperRevision : String
  deriving DecidableEq

@[mk_iff] structure SignalVersionsV2.Valid (v : SignalVersionsV2) : Prop where
  eyeReasonOk : ReasonOk v.eyeReason
  faceReasonOk : ReasonOk v.faceReason
  eyeXorReason : ValueXorReason v.eye v.eyeReason
  faceXorReason : ValueXorReason v.face v.faceReason
  aoiMapperRevision : isRevision v.aoiMapperRevision = true

instance (v : SignalVersionsV2) : Decidable v.Valid :=
  decidable_of_iff _ (SignalVersionsV2.valid_iff v).symm

instance : ContractModel SignalVersionsV2 where
  modelName := "SignalVersionsV2"
  FieldsValid := SignalVersionsV2.Valid
  decidable := inferInstance

structure RecommendationDataQualityV2 where
  expectedObservationCount : ℕ
  gazeValidRatio : ℚ
  expressionValidRatio : ℚ
  matchedFrameRatio : ℚ
  ambiguousProductRatio : ℚ
  deriving DecidableEq

@[mk_iff] structure RecommendationDataQualityV2.Valid (q : RecommendationDataQualityV2) : Prop where
  gazeValidRatio : InUnit q.gazeValidRatio
  expressionValidRatio : InUnit q.expressionValidRatio
  matchedFrameRatio : InUnit q.matchedFrameRatio
  ambiguousProductRatio : InUnit q.ambiguousProductRatio

instance (q : RecommendationDataQualityV2) : Decidable q.Valid :=
  decidable_of_iff _ (RecommendationDataQualityV2.valid_iff q).symm

instance : ContractModel RecommendationDataQualityV2 where
  modelName := "RecommendationDataQualityV2"
  FieldsValid := RecommendationDataQualityV2.Valid
  decidable := inferInstance

structure GazeSummaryV2 where
  validObservationCount : ℕ
  observedAttentionMs : ℚ
  attentionRatio : ℚ
  averageConfidence : ℚ
  returnCandidateCount : Option ℕ
  returnCandidateReason : Option String
  movementDistanceNorm : Option ℚ
  meanSpeedNormPerS : Option ℚ
  movementReason : Option String
  deriving DecidableEq

@[mk_iff] structure GazeSummaryV2.Valid (g : GazeSummaryV2) : Prop where
  observedAttentionMs : 0 ≤ g.observedAttentionMs
  attentionRatio : InUnit g.attentionRatio
  averageConfidence : InUnit g.averageConfidence
  movementDistanceNorm : ∀ m ∈ g.movementDistanceNorm, 0 ≤ m
  meanSpeedNormPerS : ∀ m ∈ g.meanSpeedNormPerS, 0 ≤ m
  returnCandidateReasonOk : ReasonOk g.returnCandidateReason
  movementReasonOk : ReasonOk g.movementReason
  returnXorReason : ValueXorReason g.returnCandidateCount g.returnCandidateReason
  movementTogether : g.movementDistanceNorm.isNone = g.meanSpeedNormPerS.isNone
  movementXorReason : ValueXorReason g.movementDistanceNorm g.movementReason

instance (g : GazeSummaryV2) : Decidable g.Valid :=
  decidable_of_iff _ (GazeSummaryV2.valid_iff g).symm

instance : ContractModel GazeSummaryV2 where
  modelName := "GazeSummaryV2"
  FieldsValid := GazeSummaryV2.Valid
  decidable := inferInstance

/-- `_validate_actions` on the items of a map with `min_length=1`. -/
def ActionsValid (lower upper : ℚ) (actions : List (String × ℚ)) : Prop :=
  actions ≠ [] ∧ ∀ e ∈ actions, isLabel e.1 = true ∧ lower ≤ e.2 ∧ e.2 ≤ upper

instance (lower upper : ℚ) (actions : List (String × ℚ)) :
    Decidable (ActionsValid lower upper actions) :=
  inferInstanceAs (Decidable (_ ∧ _))

/-- The change maps are held by their items in label order. -/
structure ExpressionSummaryV2 where
  matchedObservationCount : ℕ
  validCoverage : ℚ
  actionChanges : Option (List (String × ℚ))
  actionChangeRatesPerS : Option (List (String × ℚ))
  changeReason : Option String
  sustainedActions : List SustainedActionV2
  deriving DecidableEq

@[mk_iff] structure ExpressionSummaryV2.Valid (e : ExpressionSummaryV2) : Prop where
  validCoverage : InUnit e.validCoverage
  actionChanges : ∀ m ∈ e.actionChanges, ActionsValid (-1) 1 m
  actionChangeRatesPerS : ∀ m ∈ e.actionChangeRatesPerS, ActionsValid (-1000) 1000 m
  changeReasonOk : ReasonOk e.changeReason
  sustainedBounded : e.sustainedActions.length ≤ 64
  changesTogether : e.actionChanges.isNone = e.actionChangeRatesPerS.isNone
  changesXorReason : ValueXorReason e.actionChanges e.changeReason

instance (e : ExpressionSummaryV2) : Decidable e.Valid :=
  decidable_of_iff _ (ExpressionSummaryV2.valid_iff e).symm

instance : ContractModel ExpressionSummaryV2 where
  modelName := "ExpressionSummaryV2"
  FieldsValid := ExpressionSummaryV2.Valid
  decidable := inferInstance

structure ProductEvidenceSummaryV2 where
  productId : String
  exposureDurationMs : ℚ
  observedComponentCodes : List ComponentCode
  observedVisualTagIds : List ControlledTag
  gaze : Option GazeSummaryV2
  gazeReason : Option String
  expression : Option ExpressionSummaryV2
  expressionReason : Option String
  deriving DecidableEq

@[mk_iff] structure ProductEvidenceSummaryV2.Valid (p : ProductEvidenceSummaryV2) : Prop where
  productId : isIdentifier p.productId = true
  exposureDurationMs : 0 ≤ p.exposureDurationMs
  componentsUnique : p.observedComponentCodes.Nodup
  tagsUnique : p.observedVisualTagIds.Nodup
  gazeReasonOk : ReasonOk p.gazeReason
  expressionReasonOk : ReasonOk p.expressionReason
  gazeXorReason : ValueXorReason p.gaze p.gazeReason
  expressionXorReason : ValueXorReason p.expression p.expressionReason

instance (p : ProductEvidenceSummaryV2) : Decidable p.Valid :=
  decidable_of_iff _ (ProductEvidenceSummaryV2.valid_iff p).symm

instance : ContractModel ProductEvidenceSummaryV2 where
  modelName := "ProductEvidenceSummaryV2"
  FieldsValid := ProductEvidenceSummaryV2.Valid
  decidable := inferInstance

/-- The codes of a window and, with `productTagMatch`, of a decision's evidence items. -/
inductive EvidenceCode where
  | observedAttention | returnCandidate | gazeMovement | faceActionChange | productTagMatch
  | dataQuality
  deriving DecidableEq, Repr

def EvidenceCode.value : EvidenceCode → String
  | .observedAttention => "observed_attention" | .returnCandidate => "return_candidate"
  | .gazeMovement => "gaze_movement" | .faceActionChange => "face_action_change"
  | .productTagMatch => "product_tag_match" | .dataQuality => "data_quality"

theorem EvidenceCode.value_injective : Function.Injective EvidenceCode.value := by
  intro a b h
  cases a <;> cases b <;> first | rfl | exact absurd h (by decide)

instance : LinearOrder EvidenceCode :=
  LinearOrder.lift' EvidenceCode.value EvidenceCode.value_injective

structure EvidenceWindowV2 where
  windowId : String
  productId : String
  startOffsetMs : ℚ
  endOffsetMs : ℚ
  videoStartMs : ℕ
  videoEndMs : ℕ
  playbackEpoch : ℕ
  observedComponentCodes : List ComponentCode
  observedVisualTagIds : List ControlledTag
  evidenceCodes : List EvidenceCode
  deriving DecidableEq

@[mk_iff] structure EvidenceWindowV2.Valid (w : EvidenceWindowV2) : Prop where
  windowId : isIdentifier w.windowId = true
  productId : isIdentifier w.productId = true
  startOffsetMs : 0 ≤ w.startOffsetMs
  endOffsetMs : 0 ≤ w.endOffsetMs
  codesNonempty : w.evidenceCodes ≠ []
  codesOfWindows : EvidenceCode.productTagMatch ∉ w.evidenceCodes
  componentsUnique : w.observedComponentCodes.Nodup
  tagsUnique : w.observedVisualTagIds.Nodup
  codesUnique : w.evidenceCodes.Nodup
  forward : w.startOffsetMs ≤ w.endOffsetMs ∧ w.videoStartMs ≤ w.videoEndMs

instance (w : EvidenceWindowV2) : Decidable w.Valid :=
  decidable_of_iff _ (EvidenceWindowV2.valid_iff w).symm

instance : ContractModel EvidenceWindowV2 where
  modelName := "EvidenceWindowV2"
  FieldsValid := EvidenceWindowV2.Valid
  decidable := inferInstance

structure RecommendationEvidenceV2 where
  decisionRequestId : String
  inputVariant : InputVariant
  sessionId : String
  videoId : String
  manifestVersion : String
  catalogVersion : String
  featureVersion : String
  signalVersions : SignalVersionsV2
  dataQuality : RecommendationDataQualityV2
  summary : List ProductEvidenceSummaryV2
  evidenceWindows : Option (List EvidenceWindowV2)
  timeline : Option (List FrameObservationV2)
  deriving DecidableEq

/-- `variant_has_expected_payload`: whether windows and timeline belong to a variant. -/
def InputVariant.payload : InputVariant → Bool × Bool
  | .a => (true, true)
  | .b => (false, true)
  | .c => (true, false)

@[mk_iff] structure RecommendationEvidenceV2.Valid (e : RecommendationEvidenceV2) : Prop where
  decisionRequestId : isIdentifier e.decisionRequestId = true
  sessionId : isIdentifier e.sessionId = true
  videoId : isIdentifier e.videoId = true
  manifestVersion : isRevision e.manifestVersion = true
  catalogVersion : isRevision e.catalogVersion = true
  featureVersion : isRevision e.featureVersion = true
  summary : LengthWithin 1 10 e.summary
  evidenceWindows : ∀ w ∈ e.evidenceWindows, LengthWithin 1 128 w
  timeline : ∀ t ∈ e.timeline, LengthWithin 1 512 t
  payload : (e.evidenceWindows.isSome, e.timeline.isSome) = e.inputVariant.payload

instance (e : RecommendationEvidenceV2) : Decidable e.Valid :=
  decidable_of_iff _ (RecommendationEvidenceV2.valid_iff e).symm

instance : ContractModel RecommendationEvidenceV2 where
  modelName := "RecommendationEvidenceV2"
  FieldsValid := RecommendationEvidenceV2.Valid
  decidable := inferInstance

/-- `EvidenceSummary`; the set of eligible products is held in catalog order. -/
structure EvidenceSummary where
  evidence : RecommendationEvidenceV2
  eligibleProductIds : List String
  continuityResetCount : ℕ
  missingGazeCount : ℕ
  missingExpressionCount : ℕ
  ambiguousAttentionCount : ℕ
  deriving DecidableEq

def EvidenceSummary.dataQuality (s : EvidenceSummary) : RecommendationDataQualityV2 :=
  s.evidence.dataQuality

end Mkk.Api
