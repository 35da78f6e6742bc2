import Mkk.Api.Evidence

/-!
# Products, outputs and decisions

The catalog items, what the central model returns and what a session's outcome is. A
catalog item carries the proof that it was validated when the catalog was loaded. The
models the store fills itself are `ContractModel`s, so their constructors can refuse.
-/

namespace Mkk.Api

open Lib

/-- `ProductRecommendationItemV2`, the fields the recommendation reads. -/
structure ProductRecommendationItemV2 where
  productId : String
  controlledTags : List ControlledTag
  productIdOk : isIdentifier productId = true
  tagsBounded : LengthWithin 3 12 controlledTags
  tagsUnique : controlledTags.Nodup

instance : DecidableEq ProductRecommendationItemV2 := fun a b =>
  decidable_of_iff (a.productId = b.productId ∧ a.controlledTags = b.controlledTags)
    (by cases a; cases b; simp)

inductive RefKind where
  | window | frame
  deriving DecidableEq, Repr

structure EvidenceReferenceV2 where
  kind : RefKind
  refId : String
  deriving DecidableEq

instance : ContractModel EvidenceReferenceV2 where
  modelName := "EvidenceReferenceV2"
  FieldsValid r := isIdentifier r.refId = true
  decidable _ := inferInstance

structure DecisionEvidenceItemV2 where
  code : EvidenceCode
  productId : String
  evidenceRefs : List EvidenceReferenceV2
  statement : String
  deriving DecidableEq

@[mk_iff] structure DecisionEvidenceItemV2.Valid (i : DecisionEvidenceItemV2) : Prop where
  productId : isIdentifier i.productId = true
  refsBounded : LengthWithin 1 12 i.evidenceRefs
  refsUnique : i.evidenceRefs.Nodup
  statement : TextUpTo 240 i.statement

instance (i : DecisionEvidenceItemV2) : Decidable i.Valid :=
  decidable_of_iff _ (DecisionEvidenceItemV2.valid_iff i).symm

instance : ContractModel DecisionEvidenceItemV2 where
  modelName := "DecisionEvidenceItemV2"
  FieldsValid := DecisionEvidenceItemV2.Valid
  decidable := inferInstance

structure RecommendationStyleV2 where
  matchedTags : List ControlledTag
  summary : String
  deriving DecidableEq

@[mk_iff] structure RecommendationStyleV2.Valid (s : RecommendationStyleV2) : Prop where
  tagsBounded : LengthWithin 1 8 s.matchedTags
  tagsUnique : s.matchedTags.Nodup
  summary : TextUpTo 240 s.summary

instance (s : RecommendationStyleV2) : Decidable s.Valid :=
  decidable_of_iff _ (RecommendationStyleV2.valid_iff s).symm

instance : ContractModel RecommendationStyleV2 where
  modelName := "RecommendationStyleV2"
  FieldsValid := RecommendationStyleV2.Valid
  decidable := inferInstance

/-- The reason codes of an output and of a completed decision. -/
inductive ReasonCode where
  | observedAttentionLead | returnCandidateSupport | movementPatternSupport
  | observableActionSupport | catalogTagAlignment | sufficientDataQuality
  deriving DecidableEq, Repr

def ReasonCode.value : ReasonCode → String
  | .observedAttentionLead => "observed_attention_lead"
  | .returnCandidateSupport => "return_candidate_support"
  | .movementPatternSupport => "movement_pattern_support"
  | .observableActionSupport => "observable_action_support"
  | .catalogTagAlignment => "catalog_tag_alignment"
  | .sufficientDataQuality => "sufficient_data_quality"

inductive ExplorationTendencyCode where
  | focusedSingleProduct | comparativeExploration | broadExploration
  deriving DecidableEq, Repr

def ExplorationTendencyCode.value : ExplorationTendencyCode → String
  | .focusedSingleProduct => "focused_single_product"
  | .comparativeExploration => "comparative_exploration"
  | .broadExploration => "broad_exploration"

structure CentralRecommendationOutputV2 where
  productId : String
  reason : String
  reasonCodes : List ReasonCode
  evidence : List DecisionEvidenceItemV2
  style : RecommendationStyleV2
  explorationTendencyCode : ExplorationTendencyCode
  deriving DecidableEq

/-- What `model_validate` checks of an output, its nested models included. -/
@[mk_iff] structure CentralRecommendationOutputV2.Valid (o : CentralRecommendationOutputV2) : Prop where
  productId : isIdentifier o.productId = true
  reason : TextUpTo 400 o.reason
  codesBounded : LengthWithin 1 6 o.reasonCodes
  codesUnique : o.reasonCodes.Nodup
  evidenceBounded : LengthWithin 1 12 o.evidence
  evidence : ∀ i ∈ o.evidence, i.Valid ∧ ∀ r ∈ i.evidenceRefs, isIdentifier r.refId = true
  style : o.style.Valid

instance (o : CentralRecommendationOutputV2) : Decidable o.Valid :=
  decidable_of_iff _ (CentralRecommendationOutputV2.valid_iff o).symm

inductive DecisionReasonCode where
  | groundedProductMatch | insufficientValidSignal | noEligibleProduct | modelUnavailable
  | invalidModelOutput | catalogMismatch
  deriving DecidableEq, Repr

structure DecisionReasonV2 where
  code : DecisionReasonCode
  explanation : String
  deriving DecidableEq

instance : ContractModel DecisionReasonV2 where
  modelName := "DecisionReasonV2"
  FieldsValid r := TextUpTo 400 r.explanation
  decidable _ := inferInstance

structure RecommendationVersionV2 where
  modelId : String
  modelRevision : String
  promptVersion : String
  featureVersion : String
  catalogVersion : String
  inputVariant : InputVariant
  deriving DecidableEq

@[mk_iff] structure RecommendationVersionV2.Valid (v : RecommendationVersionV2) : Prop where
  modelId : TextUpTo 128 v.modelId
  modelRevision : isRevision v.modelRevision = true
  promptVersion : isRevision v.promptVersion = true
  featureVersion : isRevision v.featureVersion = true
  catalogVersion : isRevision v.catalogVersion = true

instance (v : RecommendationVersionV2) : Decidable v.Valid :=
  decidable_of_iff _ (RecommendationVersionV2.valid_iff v).symm

instance : ContractModel RecommendationVersionV2 where
  modelName := "RecommendationVersionV2"
  FieldsValid := RecommendationVersionV2.Valid
  decidable := inferInstance

structure RecommendationAcceptedV2 where
  recommendationId : String
  decisionRequestId : String
  deriving DecidableEq

instance : ContractModel RecommendationAcceptedV2 where
  modelName := "RecommendationAcceptedV2"
  FieldsValid a := isIdentifier a.recommendationId = true ∧ isIdentifier a.decisionRequestId = true
  decidable _ := inferInstance

inductive DecisionStatus where
  | completed | insufficientData | failed
  deriving DecidableEq, Repr

structure RecommendationDecisionV2 where
  recommendationId : String
  decisionRequestId : String
  status : DecisionStatus
  selectedProductId : Option String
  reason : DecisionReasonV2
  reasonCodes : List ReasonCode
  evidence : List DecisionEvidenceItemV2
  style : Option RecommendationStyleV2
  explorationTendencyCode : Option ExplorationTendencyCode
  dataQuality : RecommendationDataQualityV2
  version : RecommendationVersionV2
  deriving DecidableEq

/-- The reference kind that belongs to an input variant. -/
def InputVariant.refKind : InputVariant → RefKind
  | .b => .frame
  | _ => .window

/-- The product parts of a completed decision are all present. -/
@[mk_iff] structure RecommendationDecisionV2.Completed (d : RecommendationDecisionV2) : Prop where
  selected : d.selectedProductId.isSome = true
  reason : d.reason.code = .groundedProductMatch
  reasonCodes : d.reasonCodes ≠ []
  evidence : d.evidence ≠ []
  style : d.style.isSome = true
  tendency : d.explorationTendencyCode.isSome = true

/-- The product parts of any other decision are all absent. -/
@[mk_iff] structure RecommendationDecisionV2.WithoutProduct (d : RecommendationDecisionV2) : Prop where
  selected : d.selectedProductId = none
  reasonCodes : d.reasonCodes = []
  evidence : d.evidence = []
  style : d.style = none
  tendency : d.explorationTendencyCode = none

instance (d : RecommendationDecisionV2) : Decidable d.Completed :=
  decidable_of_iff _ (RecommendationDecisionV2.completed_iff d).symm

instance (d : RecommendationDecisionV2) : Decidable d.WithoutProduct :=
  decidable_of_iff _ (RecommendationDecisionV2.withoutProduct_iff d).symm

/-- The limits of the fields and `enforce_top_one`. -/
@[mk_iff] structure RecommendationDecisionV2.Valid (d : RecommendationDecisionV2) : Prop where
  recommendationId : isIdentifier d.recommendationId = true
  decisionRequestId : isIdentifier d.decisionRequestId = true
  selectedProductId : ∀ p ∈ d.selectedProductId, isIdentifier p = true
  codesBounded : d.reasonCodes.length ≤ 6
  codesUnique : d.reasonCodes.Nodup
  evidenceBounded : d.evidence.length ≤ 12
  completed : d.status = .completed → d.Completed
  withoutProduct : d.status ≠ .completed → d.WithoutProduct
  insufficient : d.status = .insufficientData →
    d.reason.code ∈ [.insufficientValidSignal, .noEligibleProduct]
  failed : d.status = .failed →
    d.reason.code ∈ [.modelUnavailable, .invalidModelOutput, .catalogMismatch]
  refKinds : ∀ i ∈ d.evidence, ∀ r ∈ i.evidenceRefs, r.kind = d.version.inputVariant.refKind

instance (d : RecommendationDecisionV2) : Decidable d.Valid :=
  decidable_of_iff _ (RecommendationDecisionV2.valid_iff d).symm

instance : ContractModel RecommendationDecisionV2 where
  modelName := "RecommendationDecisionV2"
  FieldsValid := RecommendationDecisionV2.Valid
  decidable := inferInstance

/-- A decision without a product, with what `enforce_top_one` asks of it. -/
def outcomeWithoutProduct (accepted : RecommendationAcceptedV2) (status : DecisionStatus)
    (reason : DecisionReasonV2) (quality : RecommendationDataQualityV2)
    (version : RecommendationVersionV2) : RecommendationDecisionV2 where
  recommendationId := accepted.recommendationId
  decisionRequestId := accepted.decisionRequestId
  status := status
  selectedProductId := none
  reason := reason
  reasonCodes := []
  evidence := []
  style := none
  explorationTendencyCode := none
  dataQuality := quality
  version := version

/-- Constructing a decision without a product. -/
def decideWithoutProduct (accepted : RecommendationAcceptedV2) (status : DecisionStatus)
    (code : DecisionReasonCode) (explanation : String) (quality : RecommendationDataQualityV2)
    (version : RecommendationVersionV2) : Except PyError RecommendationDecisionV2 := do
  let reason ← construct { code, explanation : DecisionReasonV2 }
  construct (outcomeWithoutProduct accepted status reason quality version)

/-- A decision without a product is accepted when its reason belongs to its status. -/
theorem decideWithoutProduct_ok {accepted : RecommendationAcceptedV2} {status : DecisionStatus}
    {code : DecisionReasonCode} {explanation : String}
    (ids : ContractModel.FieldsValid accepted) (text : TextUpTo 400 explanation)
    (reason : status = .insufficientData ∧ code ∈ [.insufficientValidSignal, .noEligibleProduct] ∨
      status = .failed ∧ code ∈ [.modelUnavailable, .invalidModelOutput, .catalogMismatch])
    (quality : RecommendationDataQualityV2) (version : RecommendationVersionV2) :
    decideWithoutProduct accepted status code explanation quality version =
      .ok (outcomeWithoutProduct accepted status ⟨code, explanation⟩ quality version) := by
  refine (bind_ok (construct_ok text) _).trans (construct_ok {
    recommendationId := ids.1
    decisionRequestId := ids.2
    selectedProductId := fun _ h => nomatch h
    codesBounded := Nat.zero_le _
    codesUnique := List.nodup_nil
    evidenceBounded := Nat.zero_le _
    completed := fun h => ?_
    withoutProduct := fun _ => ⟨rfl, rfl, rfl, rfl, rfl⟩
    insufficient := fun h => ?_
    failed := fun h => ?_
    refKinds := fun _ h => nomatch h })
  all_goals
    simp only [outcomeWithoutProduct] at h
    rcases reason with ⟨hs, hc⟩ | ⟨hs, hc⟩ <;> rw [hs] at h <;> first | exact hc | cases h

/-- The completed decision of an accepted output. -/
def outcomeWithProduct (accepted : RecommendationAcceptedV2) (output : CentralRecommendationOutputV2)
    (quality : RecommendationDataQualityV2) (version : RecommendationVersionV2) :
    RecommendationDecisionV2 where
  recommendationId := accepted.recommendationId
  decisionRequestId := accepted.decisionRequestId
  status := .completed
  selectedProductId := some output.productId
  reason := ⟨.groundedProductMatch, output.reason⟩
  reasonCodes := output.reasonCodes
  evidence := output.evidence
  style := some output.style
  explorationTendencyCode := some output.explorationTendencyCode
  dataQuality := quality
  version := version

/-- Constructing the completed decision of an accepted output. -/
def decideWithProduct (accepted : RecommendationAcceptedV2) (output : CentralRecommendationOutputV2)
    (quality : RecommendationDataQualityV2) (version : RecommendationVersionV2) :
    Except PyError RecommendationDecisionV2 := do
  let _ ← construct { code := .groundedProductMatch, explanation := output.reason : DecisionReasonV2 }
  construct (outcomeWithProduct accepted output quality version)

/-- A valid output makes a decision when its references are of the version's kind. -/
theorem decideWithProduct_ok {accepted : RecommendationAcceptedV2}
    {output : CentralRecommendationOutputV2} {version : RecommendationVersionV2}
    (ids : ContractModel.FieldsValid accepted) (valid : output.Valid)
    (kinds : ∀ i ∈ output.evidence, ∀ r ∈ i.evidenceRefs, r.kind = version.inputVariant.refKind)
    (quality : RecommendationDataQualityV2) :
    decideWithProduct accepted output quality version =
      .ok (outcomeWithProduct accepted output quality version) := by
  refine (bind_ok (construct_ok valid.reason) _).trans (construct_ok {
    recommendationId := ids.1
    decisionRequestId := ids.2
    selectedProductId := fun _ h => by cases h; exact valid.productId
    codesBounded := valid.codesBounded.2
    codesUnique := valid.codesUnique
    evidenceBounded := valid.evidenceBounded.2
    completed := fun _ => ⟨rfl, rfl, List.length_pos_iff.1 valid.codesBounded.1,
      List.length_pos_iff.1 valid.evidenceBounded.1, rfl, rfl⟩
    withoutProduct := fun h => (h rfl).elim
    insufficient := fun h => nomatch h
    failed := fun h => nomatch h
    refKinds := kinds })

end Mkk.Api
