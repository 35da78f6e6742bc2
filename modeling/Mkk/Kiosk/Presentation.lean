import Mkk.Api.Decision

/-!
# What the Kiosk shows

`presentCentralRecommendation` of `recommendation-presentation.ts`. It throws unless the
decision is a completed one that is grounded in the selected product, and unless it can tell
the customer something: a local demo fallback, a low-signal result, or at least one observed
reaction. `presentCentralRecommendation_ok_iff` says exactly when it returns.
-/

namespace Mkk.Kiosk

open Lib Mkk.Api

inductive PresentationMode where
  | centralV2 | centralLowSignalV2 | demoFallbackV2 | replayV2 | mockV1
  deriving DecidableEq, Repr

structure RecommendationPresentation where
  recommendationId : String
  productId : String
  tendency : String
  reason : String
  mode : PresentationMode
  deriving DecidableEq

/-- `TENDENCY_COPY` -/
def tendencyCopy : ExplorationTendencyCode → String
  | .focusedSingleProduct => "한 상품에 시선이 오래 머문 흐름"
  | .comparativeExploration => "몇 가지 상품 사이를 오가며 비교한 흐름"
  | .broadExploration => "여러 상품을 폭넓게 둘러본 흐름"

/-- `REACTION_COPY`: customer-facing phrasing for signals that were actually observed. -/
def reactionCopy : ReasonCode → String
  | .observedAttentionLead => "이 상품에 가장 오래 머문 시선"
  | .returnCandidateSupport => "다른 상품을 보신 뒤 다시 돌아온 시선"
  | .movementPatternSupport => "이 상품을 따라 이어진 시선의 흐름"
  | .observableActionSupport => "이 상품을 보실 때 함께 나타난 표정의 미세한 변화"
  | .catalogTagAlignment => "살펴보신 방향과 상품 특성의 일치"
  | .sufficientDataQuality => "안정적으로 이어진 시선"

/-- `TAG_COPY` -/
def tagCopy : ControlledTag → String
  | .backpack => "백팩" | .bold => "대담한 인상" | .boston => "보스턴 실루엣" | .classic => "클래식"
  | .compact => "컴팩트" | .crossbody => "크로스바디" | .daily => "데일리" | .evening => "이브닝"
  | .hobo => "호보 실루엣" | .leather => "가죽" | .lightweight => "가벼운 구성" | .minimal => "미니멀"
  | .modern => "모던" | .monogram => "모노그램" | .neutral => "뉴트럴" | .recycledMaterial => "재생 소재"
  | .shoulder => "숄더" | .shopper => "쇼퍼" | .soft => "부드러운 실루엣" | .spacious => "넉넉한 수납"
  | .sporty => "스포티" | .structured => "구조적인 형태" | .tambourine => "탬버린 실루엣"
  | .topHandle => "탑 핸들" | .tote => "토트" | .travel => "여행" | .triangle => "트라이앵글 실루엣"
  | .weekender => "위켄더" | .work => "업무용"

/-- `requireCopy`: a missing text throws. -/
def requireCopy (copy code label : String) : Except String String :=
  if copy = "" then .error ("Unsupported " ++ label ++ ": " ++ code) else .ok copy

/-- The reason codes the sentence quotes: the first two that are not about the catalog. -/
def quotedCodes (decision : RecommendationDecisionV2) : List ReasonCode :=
  (decision.reasonCodes.filter fun c => c ≠ .catalogTagAlignment).take 2

/-- The only reason code is the catalog's, and no gaze was valid. -/
def catalogOnly (decision : RecommendationDecisionV2) : Prop :=
  decision.dataQuality.gazeValidRatio = 0 ∧ decision.reasonCodes = [.catalogTagAlignment]

instance (decision : RecommendationDecisionV2) : Decidable (catalogOnly decision) :=
  inferInstanceAs (Decidable (_ ∧ _))

def isLocalDemoFallback (decision : RecommendationDecisionV2) : Prop :=
  decision.version.modelId = "deterministic-test-stub" ∧ catalogOnly decision

instance (decision : RecommendationDecisionV2) : Decidable (isLocalDemoFallback decision) :=
  inferInstanceAs (Decidable (_ ∧ _))

def isCentralLowSignal (decision : RecommendationDecisionV2) : Prop :=
  decision.version.inputVariant = .b ∧ catalogOnly decision ∧
    ∃ i ∈ decision.evidence, i.code = .dataQuality

instance (decision : RecommendationDecisionV2) : Decidable (isCentralLowSignal decision) :=
  inferInstanceAs (Decidable (_ ∧ _ ∧ _))

/-- The evidence is there and belongs to the product. -/
def groundedIn (decision : RecommendationDecisionV2) (product : ProductRecommendationItemV2) : Prop :=
  decision.evidence ≠ [] ∧
    ∀ i ∈ decision.evidence, i.productId = product.productId ∧ i.evidenceRefs ≠ []

instance (decision : RecommendationDecisionV2) (product : ProductRecommendationItemV2) :
    Decidable (groundedIn decision product) :=
  inferInstanceAs (Decidable (_ ∧ _))

/-- `presentCentralRecommendation` -/
def presentCentralRecommendation (decision : RecommendationDecisionV2)
    (product : ProductRecommendationItemV2) : Except String RecommendationPresentation :=
  match decision.selectedProductId, decision.style, decision.explorationTendencyCode with
  | some selectedProductId, some style, some tendencyCode =>
    if decision.status ≠ .completed ∨ selectedProductId = "" then
      .error "Only a grounded completed v2 decision can be presented."
    else if selectedProductId ≠ product.productId then
      .error "The selected product does not match the reviewed catalog item."
    else if ¬ groundedIn decision product then
      .error "Recommendation evidence is not grounded in the selected product."
    else if style.matchedTags = [] ∨ ∃ t ∈ style.matchedTags, t ∉ product.controlledTags then
      .error "Recommendation tags are not grounded in the reviewed catalog."
    else do
      let tags ← (style.matchedTags.take 3).mapM fun t =>
        requireCopy (tagCopy t) t.value "controlled product tag"
      let reactions ← (quotedCodes decision).mapM fun c =>
        requireCopy (reactionCopy c) c.value "reason code"
      let catalogReason :=
        String.intercalate "·" tags ++ " 방향이 이번 룩북에서 가장 잘 맞아 이 상품을 골랐습니다."
      if isLocalDemoFallback decision then
        return {
          recommendationId := decision.recommendationId
          productId := product.productId
          tendency := "스타일 취향 중심의 선택"
          reason := catalogReason
          mode := .demoFallbackV2 }
      else if isCentralLowSignal decision then
        return {
          recommendationId := decision.recommendationId
          productId := product.productId
          tendency := "스타일 취향 중심의 선택"
          reason := catalogReason
          mode := .centralLowSignalV2 }
      else if reactions = [] then
        .error "A completed decision needs an observation reason code."
      else do
        let tendency ← requireCopy (tendencyCopy tendencyCode) tendencyCode.value
          "exploration tendency"
        return {
          recommendationId := decision.recommendationId
          productId := product.productId
          tendency := tendency
          reason := "룩북을 보시는 동안 " ++ String.intercalate "과 " reactions ++
            "이 나타났습니다. 무의식적으로 드러난 이 신호를 " ++ String.intercalate "·" tags ++
            " 취향으로 읽어 이 상품을 골랐습니다."
          mode := .centralV2 }
  | _, _, _ => .error "Only a grounded completed v2 decision can be presented."

/-! ## When something is shown -/

theorem requireCopy_ok {copy : String} (h : copy ≠ "") (code label : String) :
    requireCopy copy code label = .ok copy := if_neg h

theorem tagCopy_ne (t : ControlledTag) : tagCopy t ≠ "" := by cases t <;> decide

theorem reactionCopy_ne (c : ReasonCode) : reactionCopy c ≠ "" := by cases c <;> decide

theorem tendencyCopy_ne (c : ExplorationTendencyCode) : tendencyCopy c ≠ "" := by cases c <;> decide

/-- A decision the Kiosk has something to say about. -/
def Presentable (decision : RecommendationDecisionV2) : Prop :=
  isLocalDemoFallback decision ∨ isCentralLowSignal decision ∨ quotedCodes decision ≠ []

/-- A completed decision that belongs to the product. -/
structure Shown (decision : RecommendationDecisionV2) (product : ProductRecommendationItemV2) : Prop where
  status : decision.status = .completed
  selected : decision.selectedProductId = some product.productId
  style : ∃ style, decision.style = some style ∧ style.matchedTags ≠ [] ∧
    ∀ t ∈ style.matchedTags, t ∈ product.controlledTags
  tendency : ∃ code, decision.explorationTendencyCode = some code
  grounded : groundedIn decision product

theorem productId_ne (product : ProductRecommendationItemV2) : product.productId ≠ "" := by
  intro h
  have := product.productIdOk
  rw [h] at this
  exact absurd this (by decide)

/-- A completed decision for the product is presented exactly when there is something to say. -/
theorem presentCentralRecommendation_ok_iff {decision : RecommendationDecisionV2}
    {product : ProductRecommendationItemV2} (h : Shown decision product) :
    (presentCentralRecommendation decision product).isOk = true ↔ Presentable decision := by
  obtain ⟨style, hstyle, htags, hcontrolled⟩ := h.style
  obtain ⟨code, hcode⟩ := h.tendency
  have tags : (style.matchedTags.take 3).mapM (fun t =>
      requireCopy (tagCopy t) t.value "controlled product tag") =
      .ok ((style.matchedTags.take 3).map tagCopy) :=
    mapM_eq_ok fun t _ => requireCopy_ok (tagCopy_ne t) _ _
  have reactions : (quotedCodes decision).mapM (fun c =>
      requireCopy (reactionCopy c) c.value "reason code") =
      .ok ((quotedCodes decision).map reactionCopy) :=
    mapM_eq_ok fun c _ => requireCopy_ok (reactionCopy_ne c) _ _
  unfold presentCentralRecommendation
  rw [h.selected, hstyle, hcode]
  dsimp only
  rw [if_neg (by simp [h.status, productId_ne]), if_neg (by simp), if_neg (by simpa using h.grounded),
    if_neg (by simpa [htags] using hcontrolled), bind_ok tags, bind_ok reactions]
  unfold Presentable
  by_cases hdemo : isLocalDemoFallback decision
  · rw [if_pos hdemo]
    simp [hdemo, pure, Except.pure, Except.isOk, Except.toBool]
  · rw [if_neg hdemo]
    by_cases hlow : isCentralLowSignal decision
    · rw [if_pos hlow]
      simp [hlow, pure, Except.pure, Except.isOk, Except.toBool]
    · rw [if_neg hlow]
      by_cases hq : quotedCodes decision = []
      · simp [hdemo, hlow, hq, Except.isOk, Except.toBool]
      · rw [if_neg (by simpa using hq), bind_ok (requireCopy_ok (tendencyCopy_ne code) _ _)]
        simp [hq, pure, Except.pure, Except.isOk, Except.toBool]

end Mkk.Kiosk
