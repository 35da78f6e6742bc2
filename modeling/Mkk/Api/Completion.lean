import Mkk.Api.Session
import Mkk.Api.Summary

/-!
# Starting and finishing a completion

`begin_completion` on the state of one session, the local demo fallback, and the decisions a
job can end in. `begin_completion` marks the session pending and drops its buffer before it
aggregates the evidence, so a constructor that refuses afterwards leaves the session changed;
`V2SessionState.begin` therefore returns the state beside the result.
-/

namespace Mkk.Api

open Lib

/-! ## Identifiers -/

/-- `sha256(f"{run_scope}:{session_id}").hexdigest()[:32]` -/
def idempotencyDigest (hashing : Hashing) (config : StoreConfig) (sessionId : String) : String :=
  String.ofList ((hashing.sha256Hex (config.runScope ++ ":" ++ sessionId)).toList.take 32)

def recommendationId (hashing : Hashing) (config : StoreConfig) (sessionId : String) : String :=
  "recommendation-v2-" ++ idempotencyDigest hashing config sessionId

def decisionRequestId (hashing : Hashing) (config : StoreConfig) (sessionId : String) : String :=
  "decision-v2-" ++ idempotencyDigest hashing config sessionId

/-- `client.model_id` of the deterministic stub. -/
def stubModelId : String := "deterministic-test-stub"

/-- `client.model_id` of the model that also reads a timeline without gaze. -/
def lunaModelId : String := "gpt-5.6-luna"

/-! ## The local demo fallback -/

/-- The reference the fallback cites and the product it is about. -/
def fallbackGround (context : SessionRecommendationContext) (evidence : RecommendationEvidenceV2)
    (product : ProductRecommendationItemV2) :
    Option (EvidenceReferenceV2 × ProductRecommendationItemV2) :=
  if evidence.inputVariant = .b then
    match evidence.timeline.getD [] with
    | [] => none
    | frame :: _ => some (⟨.frame, frame.frameId⟩, product)
  else match evidence.evidenceWindows.getD [] with
    | [] => none
    | window :: _ => some (⟨.window, window.windowId⟩,
        (context.products.find? fun item => item.productId = window.productId).getD product)

/-- The fields of the fallback's decision. -/
def fallbackDecision (accepted : RecommendationAcceptedV2) (reference : EvidenceReferenceV2)
    (product : ProductRecommendationItemV2) (quality : RecommendationDataQualityV2)
    (version : RecommendationVersionV2) : RecommendationDecisionV2 where
  recommendationId := accepted.recommendationId
  decisionRequestId := accepted.decisionRequestId
  status := .completed
  selectedProductId := some product.productId
  reason := ⟨.groundedProductMatch, "로컬 제출 데모에서 유효 시선 신호가 부족해 검수된 상품 " ++
    "카탈로그의 결정론적 기본 추천을 표시했습니다."⟩
  reasonCodes := [.catalogTagAlignment]
  evidence := [{
    code := .productTagMatch
    productId := product.productId
    evidenceRefs := [reference]
    statement := "실제 프레임 수신은 확인됐지만 시선 품질이 부족해 " ++
      "관찰 근거 대신 로컬 데모 fallback을 사용했습니다." }]
  style := some ⟨product.controlledTags.take 3, "검수된 카탈로그 태그 기반 로컬 제출 데모 fallback"⟩
  explorationTendencyCode := some .focusedSingleProduct
  dataQuality := quality
  version := version

/-- `_demo_fallback_decision` -/
def demoFallbackDecision (config : StoreConfig) (context : SessionRecommendationContext)
    (client : CentralRecommendationClient) (accepted : RecommendationAcceptedV2)
    (summary : EvidenceSummary) (version : RecommendationVersionV2) :
    Except PyError (Option RecommendationDecisionV2) :=
  match context.products with
  | [] => .ok none
  | product :: _ =>
    if config.allowInsufficientSignalDemo = false ∨ client.modelId ≠ stubModelId then .ok none
    else match fallbackGround context summary.evidence product with
      | none => .ok none
      | some (reference, product) => do
        let decision := fallbackDecision accepted reference product summary.dataQuality version
        let _ ← construct reference
        let _ ← construct decision.reason
        let _ ← decision.evidence.mapM construct
        let _ ← decision.style.mapM construct
        return some (← construct decision)

/-! ## Aggregating the buffer -/

/-- What the buffer of a session was reduced to. -/
structure Prepared where
  summary : EvidenceSummary
  source : Option SourceVisualEvidenceV1
  version : RecommendationVersionV2
  deriving DecidableEq

/-- The arguments `summarize_observations` is called with. -/
def summaryParams (config : StoreConfig) (context : SessionRecommendationContext)
    (accepted : RecommendationAcceptedV2) : SummaryParams where
  decisionRequestId := accepted.decisionRequestId
  sessionId := context.sessionId
  videoId := context.videoId
  manifestVersion := context.manifestVersion
  catalogVersion := context.catalogVersion
  aoiMetadata := if context.sourceAoiMetadata.isSome then none else context.aoiMetadata
  productIds := context.products.map (·.productId)
  expectedObservationCount := none
  inputVariant := config.inputVariant

/-- `min(1.0, count / expected)` -/
def cappedRatio (count expected : ℕ) : ℚ := min 1 ((count : ℚ) / expected)

/-- The quality of the source path; a copy that is not validated again. -/
def sourceQuality (quality : RecommendationDataQualityV2) (source : Option SourceVisualEvidenceV1) :
    RecommendationDataQualityV2 :=
  let expected := if quality.expectedObservationCount = 0 then 1 else quality.expectedObservationCount
  { quality with
    matchedFrameRatio := cappedRatio ((source.map (·.totalHitCount)).getD 0) expected
    ambiguousProductRatio := cappedRatio ((source.map (·.ambiguousFrameCount)).getD 0) expected }

/-- Both aggregators, and the version with the variant the summary ended in. -/
def prepare (config : StoreConfig) (context : SessionRecommendationContext)
    (accepted : RecommendationAcceptedV2) (version : RecommendationVersionV2)
    (snapshot : List FrameObservationV2) (hits : Dict (ℕ × String) (List ResolvedSourceAoiHit)) :
    Except PyError Prepared := do
  let summary ← summarizeObservations snapshot (summaryParams config context accepted)
  match context.sourceAoiMetadata with
  | none => return ⟨summary, none, { version with inputVariant := summary.evidence.inputVariant }⟩
  | some metadata =>
    let source ← buildSourceVisualEvidence snapshot hits metadata
    let evidence := { summary.evidence with
      dataQuality := sourceQuality summary.evidence.dataQuality source }
    return ⟨{ summary with evidence := evidence }, source,
      { version with inputVariant := evidence.inputVariant }⟩

/-- One of the three paths to the central model is open. -/
def Prepared.ready (p : Prepared) (context : SessionRecommendationContext)
    (client : CentralRecommendationClient) : Bool :=
  (context.sourceAoiMetadata.isSome && p.source.isSome &&
    decide (0 < p.summary.dataQuality.gazeValidRatio)) ||
  (context.sourceAoiMetadata.isNone && decide (0 < p.summary.dataQuality.gazeValidRatio) &&
    !p.summary.eligibleProductIds.isEmpty) ||
  (decide (client.modelId = lunaModelId) && decide (p.summary.evidence.inputVariant = .b) &&
    !(p.summary.evidence.timeline.getD []).isEmpty)

/-- The decision of a session whose evidence does not reach the central model. -/
def Prepared.insufficient (p : Prepared) (context : SessionRecommendationContext)
    (accepted : RecommendationAcceptedV2) : Except PyError RecommendationDecisionV2 :=
  if p.summary.dataQuality.gazeValidRatio = 0 then
    decideWithoutProduct accepted .insufficientData .insufficientValidSignal
      "추천에 필요한 유효한 시선 신호가 충분하지 않습니다." p.summary.dataQuality p.version
  else
    decideWithoutProduct accepted .insufficientData .noEligibleProduct
      (if context.sourceAoiMetadata.isSome then
        "승인된 source AOI에 안전하게 연결할 수 있는 시선 근거가 없습니다."
      else "하나의 상품에 안전하게 연결할 수 있는 관찰 근거가 없습니다.")
      p.summary.dataQuality p.version

/-- The decision that needs no model: the demo fallback or the insufficient outcome. -/
def Prepared.decide (p : Prepared) (config : StoreConfig) (context : SessionRecommendationContext)
    (client : CentralRecommendationClient) (accepted : RecommendationAcceptedV2) :
    Except PyError RecommendationDecisionV2 := do
  match ← demoFallbackDecision config context client accepted p.summary p.version with
  | some decision => return decision
  | none => p.insufficient context accepted

/-- The request of a job. -/
def Prepared.request (p : Prepared) (context : SessionRecommendationContext)
    (client : CentralRecommendationClient) (accepted : RecommendationAcceptedV2) :
    CentralRecommendationRequestV2 where
  decisionRequestId := accepted.decisionRequestId
  sessionId := context.sessionId
  videoId := context.videoId
  promptVersion := client.promptVersion
  evidenceVersion := featureVersion
  evidence := p.summary.evidence
  products := context.products
  sourceVisualEvidence := p.source.map Payload.readable
  matchingProducts :=
    match context.matchingCatalog, p.source with
    | some catalog, some _ => some (catalog.products.map Payload.readable)
    | _, _ => none

/-- The quality of a session without a single frame. -/
def noQuality : RecommendationDataQualityV2 := ⟨0, 0, 0, 0, 0⟩

/-! ## `begin_completion` -/

/-- The identifiers of the session's outcome and the version before the buffer is read. -/
def startIds (hashing : Hashing) (config : StoreConfig) (context : SessionRecommendationContext)
    (client : CentralRecommendationClient) :
    Except PyError (RecommendationAcceptedV2 × RecommendationVersionV2) := do
  let accepted ← construct {
    recommendationId := recommendationId hashing config context.sessionId
    decisionRequestId := decisionRequestId hashing config context.sessionId
    : RecommendationAcceptedV2 }
  let version ← construct {
    modelId := client.modelId
    modelRevision := client.modelRevision
    promptVersion := client.promptVersion
    featureVersion := featureVersion
    catalogVersion := context.catalogVersion
    inputVariant := config.inputVariant : RecommendationVersionV2 }
  return (accepted, version)

/-- The session flips to pending and loses its buffer. -/
def V2SessionState.flip (s : V2SessionState) (config : StoreConfig)
    (accepted : RecommendationAcceptedV2) (now : ℚ) : V2SessionState :=
  { s.clearTransient with
    status := .pending
    accepted := some accepted
    expiresAt := now + config.pendingTtl }

/-- A decision is published in the state. -/
def V2SessionState.settle (s : V2SessionState) (config : StoreConfig)
    (decision : RecommendationDecisionV2) (now : ℚ) : V2SessionState :=
  { s with
    status := .terminal
    decision := some decision
    expiresAt := now + config.decisionTtl }

/-- What `begin_completion` returns. -/
abbrev Begun : Type := RecommendationAcceptedV2 × Option CompletionJob

/-- A decision made under the lock, or the exception its construction raised. -/
def V2SessionState.settleWith (s : V2SessionState) (config : StoreConfig)
    (accepted : RecommendationAcceptedV2) (now : ℚ) :
    Except PyError RecommendationDecisionV2 → Except PyError Begun × V2SessionState
  | .error e => (.error e, s)
  | .ok decision => (.ok (accepted, none), s.settle config decision now)

/-- The job is handed out; its id is kept before the request is built. -/
def V2SessionState.startJob (s : V2SessionState) (context : SessionRecommendationContext)
    (client : CentralRecommendationClient) (accepted : RecommendationAcceptedV2) (p : Prepared)
    (jobId : String) : Except PyError Begun × V2SessionState :=
  match construct (p.request context client accepted) with
  | .error e => (.error e, { s with activeJobId := some jobId })
  | .ok request =>
    let job : CompletionJob := ⟨context.sessionId, jobId, accepted, request, p.summary, p.version⟩
    (.ok (accepted, some job), { s with activeJobId := some jobId, activeJob := some job })

/-- From the flip on, with the buffer as it was. -/
def V2SessionState.conclude (s : V2SessionState) (config : StoreConfig)
    (context : SessionRecommendationContext) (client : CentralRecommendationClient)
    (accepted : RecommendationAcceptedV2) (version : RecommendationVersionV2) (now : ℚ)
    (jobId : String) : Except PyError Begun × V2SessionState :=
  let flipped := s.flip config accepted now
  if s.observations.values = [] then
    flipped.settleWith config accepted now (do
      let quality ← construct noQuality
      decideWithoutProduct accepted .insufficientData .insufficientValidSignal
        "추천에 필요한 유효한 관찰 신호가 없습니다." quality version)
  else match prepare config context accepted version s.observations.values s.resolvedSourceHits with
    | .error e => (.error e, flipped)
    | .ok p =>
      if p.ready context client then flipped.startJob context client accepted p jobId
      else flipped.settleWith config accepted now (p.decide config context client accepted)

/-- The part of `begin_completion` that holds the lock, on the state of the session. -/
def V2SessionState.begin (s : V2SessionState) (hashing : Hashing) (config : StoreConfig)
    (context : SessionRecommendationContext) (client : CentralRecommendationClient)
    (alreadyCompletedV1 : Bool) (now : ℚ) (jobId : String) :
    Except PyError Begun × V2SessionState :=
  if s.status ≠ .collecting then
    match s.accepted with
    | none => (.error (.domain 500 "recommendation_missing" "v2 job metadata is missing"), s)
    | some accepted => (.ok (accepted, none), s)
  else if alreadyCompletedV1 then
    (.error (.domain 409 "session_completed" "session has already been completed"), s)
  else match startIds hashing config context client with
    | .error e => (.error e, s)
    | .ok (accepted, version) => s.conclude config context client accepted version now jobId

/-! ## What a job ends in -/

/-- How the model call of a job ends; a cancelled call decides nothing. -/
inductive ModelReply where
  | returned (raw : RawOutput)
  | refused (e : CentralModelError)
  | crashed
  deriving DecidableEq

/-- The failed decision of a job. -/
def CompletionJob.fail (job : CompletionJob) (code : DecisionReasonCode) (explanation : String) :
    Except PyError RecommendationDecisionV2 :=
  decideWithoutProduct job.accepted .failed code explanation job.summary.dataQuality job.version

/-- The decision of a `CentralModelError`. -/
def CompletionJob.refuse (job : CompletionJob) (e : CentralModelError) :
    Except PyError RecommendationDecisionV2 :=
  if e.reasonCode = "model_unavailable" then
    job.fail .modelUnavailable "추천 모델에 연결할 수 없습니다."
  else if e.reasonCode = "catalog_mismatch" then
    job.fail .catalogMismatch "추천 모델 응답이 현재 상품 카탈로그와 일치하지 않습니다."
  else job.fail .invalidModelOutput "추천 모델 응답을 안전하게 검증할 수 없습니다."

/-- The decision of any other exception. -/
def CompletionJob.crash (job : CompletionJob) : Except PyError RecommendationDecisionV2 :=
  job.fail .modelUnavailable "추천 모델 실행 중 안전하게 처리할 수 없는 오류가 발생했습니다."

/-- The decision `_run_completion_inner` makes of a reply. -/
def CompletionJob.run (job : CompletionJob) (casefold : Casefold) :
    ModelReply → Except PyError RecommendationDecisionV2
  | .refused e => job.refuse e
  | .crashed => job.crash
  | .returned raw =>
    match validateCentralOutput casefold raw job.request with
    | .error e => job.refuse e
    | .ok output =>
      match decideWithProduct job.accepted output job.summary.dataQuality job.version with
      | .error _ => job.crash
      | .ok decision => .ok decision

/-- `_job_start_failure` on a job that still has its summary. -/
def CompletionJob.startFailure (job : CompletionJob) : Except PyError RecommendationDecisionV2 :=
  job.fail .modelUnavailable "추천 작업을 안전하게 시작할 수 없습니다."

end Mkk.Api
