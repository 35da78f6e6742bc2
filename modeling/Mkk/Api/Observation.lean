import Mkk.Api.Contract
import Mkk.Lib.Dict

/-!
# Frame observations and their batches

The derived signals of one camera frame (`FrameObservationV2`) and the batch the Kiosk
posts. A `Valid` predicate collects what the pydantic model checks when it reads the
JSON; a batch carries the proof that its frames passed, since an unchecked batch never
reaches the store. Merged frames are built by `model_copy`, which checks nothing, so a
frame on its own carries no such proof.
-/

namespace Mkk.Api

open Lib

/-- `ControlledTag`, ordered by its spelling. -/
inductive ControlledTag where
  | backpack | bold | boston | classic | compact | crossbody | daily | evening | hobo
  | leather | lightweight | minimal | modern | monogram | neutral | recycledMaterial
  | shoulder | shopper | soft | spacious | sporty | structured | tambourine | topHandle
  | tote | travel | triangle | weekender | work
  deriving DecidableEq, Repr

def ControlledTag.value : ControlledTag → String
  | .backpack => "backpack" | .bold => "bold" | .boston => "boston" | .classic => "classic"
  | .compact => "compact" | .crossbody => "crossbody" | .daily => "daily"
  | .evening => "evening" | .hobo => "hobo" | .leather => "leather"
  | .lightweight => "lightweight" | .minimal => "minimal" | .modern => "modern"
  | .monogram => "monogram" | .neutral => "neutral"
  | .recycledMaterial => "recycled_material" | .shoulder => "shoulder"
  | .shopper => "shopper" | .soft => "soft" | .spacious => "spacious" | .sporty => "sporty"
  | .structured => "structured" | .tambourine => "tambourine" | .topHandle => "top_handle"
  | .tote => "tote" | .travel => "travel" | .triangle => "triangle"
  | .weekender => "weekender" | .work => "work"

theorem ControlledTag.value_injective : Function.Injective ControlledTag.value := by
  intro a b h
  cases a <;> cases b <;> first | rfl | exact absurd h (by decide)

instance : LinearOrder ControlledTag :=
  LinearOrder.lift' ControlledTag.value ControlledTag.value_injective

/-- `ComponentCodeV2`, ordered by its spelling. -/
inductive ComponentCode where
  | wholeProduct | body | handle | strap | closure | hardware | pocket | trim | logo
  deriving DecidableEq, Repr

def ComponentCode.value : ComponentCode → String
  | .wholeProduct => "whole_product" | .body => "body" | .handle => "handle"
  | .strap => "strap" | .closure => "closure" | .hardware => "hardware"
  | .pocket => "pocket" | .trim => "trim" | .logo => "logo"

theorem ComponentCode.value_injective : Function.Injective ComponentCode.value := by
  intro a b h
  cases a <;> cases b <;> first | rfl | exact absurd h (by decide)

instance : LinearOrder ComponentCode :=
  LinearOrder.lift' ComponentCode.value ComponentCode.value_injective

/-! ## The modalities of one frame -/

structure GazeObservationV2 where
  screenXNorm : ℚ
  screenYNorm : ℚ
  confidence : ℚ
  producerId : String
  modelRevision : String
  calibrationId : String
  deriving DecidableEq

@[mk_iff] structure GazeObservationV2.Valid (g : GazeObservationV2) : Prop where
  screenXNorm : InUnit g.screenXNorm
  screenYNorm : InUnit g.screenYNorm
  confidence : InUnit g.confidence
  producerId : isIdentifier g.producerId = true
  modelRevision : isRevision g.modelRevision = true
  calibrationId : isIdentifier g.calibrationId = true

instance (g : GazeObservationV2) : Decidable g.Valid :=
  decidable_of_iff _ (GazeObservationV2.valid_iff g).symm

structure ExpressionObservationV2 where
  scores : SortedDict String ℚ
  quality : ℚ
  confidence : ℚ
  producerId : String
  modelRevision : String
  taxonomyVersion : String
  deriving DecidableEq

/-- Labels are taxonomy keys and values lie in the closed range. -/
def LabelledWithin (lower upper : ℚ) (d : SortedDict String ℚ) : Prop :=
  ∀ e ∈ d.entries, isLabel e.1 = true ∧ lower ≤ e.2 ∧ e.2 ≤ upper

instance (lower upper : ℚ) (d : SortedDict String ℚ) : Decidable (LabelledWithin lower upper d) :=
  inferInstanceAs (Decidable (∀ e ∈ d.entries, isLabel e.1 = true ∧ lower ≤ e.2 ∧ e.2 ≤ upper))

@[mk_iff] structure ExpressionObservationV2.Valid (e : ExpressionObservationV2) : Prop where
  scoresNonempty : e.scores.entries ≠ []
  scores : LabelledWithin 0 1 e.scores
  quality : InUnit e.quality
  confidence : InUnit e.confidence
  producerId : isIdentifier e.producerId = true
  modelRevision : isRevision e.modelRevision = true
  taxonomyVersion : isRevision e.taxonomyVersion = true

instance (e : ExpressionObservationV2) : Decidable e.Valid :=
  decidable_of_iff _ (ExpressionObservationV2.valid_iff e).symm

structure AttentionCandidateV2 where
  exposureId : String
  productId : String
  priority : ℕ
  parentAoiId : Option String
  specificityRank : Option ℕ
  componentCode : Option ComponentCode
  observedVisualTagIds : List ControlledTag
  deriving DecidableEq

@[mk_iff] structure AttentionCandidateV2.Valid (c : AttentionCandidateV2) : Prop where
  exposureId : isIdentifier c.exposureId = true
  productId : isIdentifier c.productId = true
  parentAoiId : ∀ p ∈ c.parentAoiId, isIdentifier p = true
  specificityRank : ∀ r ∈ c.specificityRank, r ≤ 32
  tagsBounded : c.observedVisualTagIds.length ≤ 32
  tagsUnique : c.observedVisualTagIds.Nodup

instance (c : AttentionCandidateV2) : Decidable c.Valid :=
  decidable_of_iff _ (AttentionCandidateV2.valid_iff c).symm

instance : ContractModel AttentionCandidateV2 where
  modelName := "AttentionCandidateV2"
  FieldsValid := AttentionCandidateV2.Valid
  decidable := inferInstance

structure AttentionObservationV2 where
  outsideVideo : Bool
  videoXNorm : Option ℚ
  videoYNorm : Option ℚ
  confidence : ℚ
  producerId : String
  modelRevision : String
  manifestVersion : String
  candidates : List AttentionCandidateV2
  deriving DecidableEq

/-- `preserve_coordinate_semantics`: a coordinate that was sent as null counts as sent, so
outside-video attention carries neither. -/
@[mk_iff] structure AttentionObservationV2.Valid (a : AttentionObservationV2) : Prop where
  videoXNorm : ∀ x ∈ a.videoXNorm, InUnit x
  videoYNorm : ∀ y ∈ a.videoYNorm, InUnit y
  confidence : InUnit a.confidence
  producerId : isIdentifier a.producerId = true
  modelRevision : isRevision a.modelRevision = true
  manifestVersion : isRevision a.manifestVersion = true
  candidatesBounded : a.candidates.length ≤ 32
  candidates : ∀ c ∈ a.candidates, c.Valid
  outside : a.outsideVideo = true → a.videoXNorm = none ∧ a.videoYNorm = none ∧ a.candidates = []
  inside : a.outsideVideo = false → a.videoXNorm.isSome = true ∧ a.videoYNorm.isSome = true

instance (a : AttentionObservationV2) : Decidable a.Valid :=
  decidable_of_iff _ (AttentionObservationV2.valid_iff a).symm

structure GazeMovementV2 where
  distanceNorm : ℚ
  speedNormPerS : ℚ
  deriving DecidableEq

structure GazeDerivedV2 where
  movement : Option GazeMovementV2
  movementReason : Option String
  continuousObservationMs : ℚ
  returnCandidate : Option Bool
  returnCandidateReason : Option String
  deriving DecidableEq

@[mk_iff] structure GazeDerivedV2.Valid (g : GazeDerivedV2) : Prop where
  movement : ∀ m ∈ g.movement, 0 ≤ m.distanceNorm ∧ 0 ≤ m.speedNormPerS
  continuousObservationMs : 0 ≤ g.continuousObservationMs
  movementReasonOk : ReasonOk g.movementReason
  returnCandidateReasonOk : ReasonOk g.returnCandidateReason
  movementXorReason : ValueXorReason g.movement g.movementReason
  returnCandidateXorReason : ValueXorReason g.returnCandidate g.returnCandidateReason

instance (g : GazeDerivedV2) : Decidable g.Valid :=
  decidable_of_iff _ (GazeDerivedV2.valid_iff g).symm

structure SustainedActionV2 where
  signal : String
  durationMs : ℚ
  deriving DecidableEq

@[mk_iff] structure SustainedActionV2.Valid (s : SustainedActionV2) : Prop where
  signal : isLabel s.signal = true
  durationMs : 0 ≤ s.durationMs

instance (s : SustainedActionV2) : Decidable s.Valid :=
  decidable_of_iff _ (SustainedActionV2.valid_iff s).symm

instance : ContractModel SustainedActionV2 where
  modelName := "SustainedActionV2"
  FieldsValid := SustainedActionV2.Valid
  decidable := inferInstance

structure ExpressionDerivedV2 where
  scoreChanges : Option (SortedDict String ℚ)
  scoreChangeRatesPerS : Option (SortedDict String ℚ)
  changeReason : Option String
  sustainedActions : List SustainedActionV2
  deriving DecidableEq

/-- The two change maps are present together, but nothing ties their labels. -/
@[mk_iff] structure ExpressionDerivedV2.Valid (e : ExpressionDerivedV2) : Prop where
  scoreChanges : ∀ d ∈ e.scoreChanges, LabelledWithin (-1) 1 d
  scoreChangeRatesPerS : ∀ d ∈ e.scoreChangeRatesPerS, LabelledWithin (-1000) 1000 d
  changeReasonOk : ReasonOk e.changeReason
  sustainedBounded : e.sustainedActions.length ≤ 64
  sustainedActions : ∀ s ∈ e.sustainedActions, s.Valid
  changesTogether : e.scoreChanges.isNone = e.scoreChangeRatesPerS.isNone
  changesXorReason : ValueXorReason e.scoreChanges e.changeReason

instance (e : ExpressionDerivedV2) : Decidable e.Valid :=
  decidable_of_iff _ (ExpressionDerivedV2.valid_iff e).symm

structure DerivedObservationV2 where
  gaze : Option GazeDerivedV2
  gazeReason : Option String
  expression : Option ExpressionDerivedV2
  expressionReason : Option String
  deriving DecidableEq

@[mk_iff] structure DerivedObservationV2.Valid (d : DerivedObservationV2) : Prop where
  gaze : ∀ g ∈ d.gaze, g.Valid
  expression : ∀ e ∈ d.expression, e.Valid
  gazeReasonOk : ReasonOk d.gazeReason
  expressionReasonOk : ReasonOk d.expressionReason
  gazeXorReason : ValueXorReason d.gaze d.gazeReason
  expressionXorReason : ValueXorReason d.expression d.expressionReason

instance (d : DerivedObservationV2) : Decidable d.Valid :=
  decidable_of_iff _ (DerivedObservationV2.valid_iff d).symm

/-! ## Frames and batches -/

structure FrameObservationV2 where
  frameId : String
  sequence : ℕ
  capturedAtMonoMs : ℚ
  sessionOffsetMs : ℚ
  videoTimeMs : ℕ
  playbackEpoch : ℕ
  gaze : Option GazeObservationV2
  gazeReason : Option String
  attention : Option AttentionObservationV2
  attentionReason : Option String
  expression : Option ExpressionObservationV2
  expressionReason : Option String
  derived : Option DerivedObservationV2
  derivedReason : Option String
  deriving DecidableEq

namespace FrameObservationV2

/-- `require_value_xor_reason` -/
@[mk_iff] structure ValueXorReasons (o : FrameObservationV2) : Prop where
  gaze : ValueXorReason o.gaze o.gazeReason
  attention : ValueXorReason o.attention o.attentionReason
  expression : ValueXorReason o.expression o.expressionReason
  derived : ValueXorReason o.derived o.derivedReason

instance (o : FrameObservationV2) : Decidable o.ValueXorReasons :=
  decidable_of_iff _ (valueXorReasons_iff o).symm

@[mk_iff] structure Valid (o : FrameObservationV2) : Prop where
  frameId : isIdentifier o.frameId = true
  capturedAtMonoMs : 0 ≤ o.capturedAtMonoMs
  sessionOffsetMs : 0 ≤ o.sessionOffsetMs
  gaze : ∀ g ∈ o.gaze, g.Valid
  attention : ∀ a ∈ o.attention, a.Valid
  expression : ∀ e ∈ o.expression, e.Valid
  derived : ∀ d ∈ o.derived, d.Valid
  gazeReasonOk : ReasonOk o.gazeReason
  attentionReasonOk : ReasonOk o.attentionReason
  expressionReasonOk : ReasonOk o.expressionReason
  derivedReasonOk : ReasonOk o.derivedReason
  xor : o.ValueXorReasons

instance (o : FrameObservationV2) : Decidable o.Valid :=
  decidable_of_iff _ (valid_iff o).symm

/-- The dictionary key of a frame: `(playback_epoch, frame_id)`. -/
def key (o : FrameObservationV2) : ℕ × String := (o.playbackEpoch, o.frameId)

/-- The analysis order `(playback_epoch, captured_at_mono_ms, sequence, frame_id)`. -/
def analysisKey (o : FrameObservationV2) : ℕ ×ₗ ℚ ×ₗ ℕ ×ₗ String :=
  toLex (o.playbackEpoch, toLex (o.capturedAtMonoMs, toLex (o.sequence, o.frameId)))

theorem key_eq_of_analysisKey_eq {o o' : FrameObservationV2} (h : o.analysisKey = o'.analysisKey) :
    o.key = o'.key := by
  simp only [analysisKey, EmbeddingLike.apply_eq_iff_eq, Prod.mk.injEq] at h
  simp [key, h]

end FrameObservationV2

/-- `_ordered` of `v2_evidence.py`; `append_batch` and `build_source_visual_evidence` sort by
the same key. -/
def ordered (observations : List FrameObservationV2) : List FrameObservationV2 :=
  sortOn FrameObservationV2.analysisKey observations

structure ObservationBatchV2 where
  batchId : String
  batchSequence : ℕ
  sessionId : String
  videoId : String
  observations : List FrameObservationV2
  batchIdOk : isIdentifier batchId = true
  sessionIdOk : isIdentifier sessionId = true
  videoIdOk : isIdentifier videoId = true
  bounded : 1 ≤ observations.length ∧ observations.length ≤ 256
  framesValid : ∀ o ∈ observations, o.Valid
  deriving DecidableEq

inductive AppendStatus where
  | accepted | duplicate
  deriving DecidableEq, Repr

structure ObservationBatchAcceptedV2 where
  batchId : String
  status : AppendStatus
  deriving DecidableEq

end Mkk.Api
