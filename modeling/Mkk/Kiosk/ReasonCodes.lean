import Mkk.Api.Central
import Mkk.Kiosk.Presentation

/-!
# What the reason codes claim

The reason codes are chosen by the central model and are what the customer reads: the Kiosk
phrases the first two of them as signals "that were actually observed". The gate holds the
evidence items to the request, but the codes only in the low-signal mode.
`reasonCodes_supported_iff` says for which requests every accepted output claims supported
signals only.
-/

namespace Mkk.Kiosk

open Lib Mkk.Api

/-- The request's windows or timeline contain what an evidence code speaks of. -/
def derivedSignal (request : CentralRecommendationRequestV2) (code : EvidenceCode) : Prop :=
  (∃ w ∈ request.evidence.evidenceWindows.getD [], code ∈ w.evidenceCodes) ∨
    ∃ f ∈ request.evidence.timeline.getD [], f.contains code = true

instance (request : CentralRecommendationRequestV2) (code : EvidenceCode) :
    Decidable (derivedSignal request code) :=
  inferInstanceAs (Decidable (_ ∨ _))

/-- A return was counted for a product or for a source AOI, or is in a window or a frame. -/
def countedReturn (request : CentralRecommendationRequestV2) : Prop :=
  (∃ p ∈ request.evidence.summary, ∃ g ∈ p.gaze, ∃ n ∈ g.returnCandidateCount, 0 < n) ∨
    derivedSignal request .returnCandidate ∨
    ∃ e, request.sourceVisualEvidence = some (.readable e) ∧ ∃ a ∈ e.sourceAois, 0 < a.returnCount

def derivedMovementSeen (request : CentralRecommendationRequestV2) : Prop :=
  (∃ p ∈ request.evidence.summary, ∃ g ∈ p.gaze, g.movementDistanceNorm.isSome = true) ∨
    derivedSignal request .gazeMovement

def scoreChangeSeen (request : CentralRecommendationRequestV2) : Prop :=
  (∃ p ∈ request.evidence.summary, ∃ e ∈ p.expression, e.actionChanges.isSome = true) ∨
    derivedSignal request .faceActionChange

/-- The signal that a reason code tells the customer about is in the request. -/
def Supported (request : CentralRecommendationRequestV2) : ReasonCode → Prop
  | .observedAttentionLead | .sufficientDataQuality =>
    0 < request.evidence.dataQuality.gazeValidRatio
  | .returnCandidateSupport => countedReturn request
  | .movementPatternSupport => derivedMovementSeen request
  | .observableActionSupport => scoreChangeSeen request
  | .catalogTagAlignment => True

/-- Every code of the output, and every code the Kiosk quotes from the decision it becomes,
speaks of a signal in the request. -/
def ClaimsSupported (request : CentralRecommendationRequestV2)
    (output : CentralRecommendationOutputV2) : Prop :=
  (∀ c ∈ output.reasonCodes, Supported request c) ∧
    ∀ accepted quality version decision, decideWithProduct accepted output quality version =
      .ok decision → ∀ c ∈ quotedCodes decision, Supported request c

/-- What the Kiosk quotes from the decision of an output is among the output's codes. -/
theorem quotedCodes_mem {accepted : RecommendationAcceptedV2}
    {output : CentralRecommendationOutputV2} {quality : RecommendationDataQualityV2}
    {version : RecommendationVersionV2} {decision : RecommendationDecisionV2}
    (h : decideWithProduct accepted output quality version = .ok decision) {c : ReasonCode}
    (hc : c ∈ quotedCodes decision) : c ∈ output.reasonCodes := by
  obtain ⟨-, -, h⟩ := bind_eq_ok_iff.1 h
  obtain ⟨rfl, -⟩ := construct_eq_ok_iff.1 h
  exact (List.mem_filter.1 (List.mem_of_mem_take hc)).1

theorem claimsSupported_of_codes {request : CentralRecommendationRequestV2}
    {output : CentralRecommendationOutputV2} (h : ∀ c ∈ output.reasonCodes, Supported request c) :
    ClaimsSupported request output :=
  ⟨h, fun _ _ _ _ hd _ hc => h _ (quotedCodes_mem hd hc)⟩

/-! ## Requests that an output can be grounded in -/

/-- A product whose profile shares features with the observed source AOIs, and a frame to cite. -/
def SourceGroundable (request : CentralRecommendationRequestV2)
    (payload : Payload SourceVisualEvidenceV1) : Prop :=
  ∃ evidence, payload = .readable evidence ∧
    (∃ matching, (request.matchingProducts.getD []).mapM Payload.read = .ok matching ∧
      sortedSet (matching.map (·.productId)) = sortedSet (request.products.map (·.productId)) ∧
      ∃ profile ∈ (indexBy (·.productId) request.products).values, ∃ selected,
        (indexBy (·.productId) matching).get? profile.productId = some selected ∧
        0 < (productFeatureMatchScore selected evidence).1 ∧
        (productFeatureMatchScore selected evidence).2 ≠ []) ∧
    ∃ frameId ∈ evidence.groundedFrameIds, isIdentifier frameId = true

/-- An eligible product of the catalog, and a frame that shows it or a window of it to cite. -/
def StandardGroundable (request : CentralRecommendationRequestV2) : Prop :=
  ∃ profile ∈ (indexBy (·.productId) request.products).values,
    profile.productId ∈ request.eligibleProductIds ∧
    if request.evidence.inputVariant = .b then
      ∃ frame ∈ (indexBy (·.frameId) (request.evidence.timeline.getD [])).values,
        isIdentifier frame.frameId = true ∧ frame.showsOnly profile.productId = true
    else
      ∃ window ∈ (indexBy (·.windowId) (request.evidence.evidenceWindows.getD [])).values,
        isIdentifier window.windowId = true ∧ window.productId = profile.productId

/-- The request holds what an output of its mode must cite. -/
def Groundable (request : CentralRecommendationRequestV2) : Prop :=
  match request.sourceVisualEvidence with
  | some payload => SourceGroundable request payload
  | none => StandardGroundable request

section Groundable

variable {casefold : Casefold} {request : CentralRecommendationRequestV2}
  {output : CentralRecommendationOutputV2}

/-- An accepted output outside the low-signal mode cites what it is grounded in. -/
theorem groundable_of_accepts (h : Accepts casefold request output) (hlow : ¬ request.lowSignal) :
    Groundable request := by
  obtain ⟨profile, hprofile, -, -⟩ := h.profile
  obtain ⟨-, hown⟩ := get?_indexBy hprofile
  obtain ⟨source, mode, hrefs⟩ := h.grounded
  obtain ⟨item, hitem⟩ := List.exists_mem_of_length_pos h.valid.evidenceBounded.1
  obtain ⟨itemValid, refsOk⟩ := h.valid.evidence item hitem
  obtain ⟨ref, href⟩ := List.exists_mem_of_length_pos itemValid.refsBounded.1
  have hground := hrefs item hitem ref href
  have hid := refsOk ref href
  have hvalue : profile ∈ (indexBy (·.productId) request.products).values :=
    mem_values_indexBy.2 (hown ▸ hprofile)
  unfold ModeAccepts at mode
  split at mode <;> rename_i hsource
  · obtain ⟨evidence, rfl, rfl, accepts⟩ := mode
    obtain ⟨matching, selected, hm, hset, hsel, hscore, hfeatures⟩ := accepts.product
    rw [Groundable, hsource]
    exact ⟨evidence, rfl, ⟨matching, hm, hset, profile, hvalue, selected, hown ▸ hsel, hscore,
      hfeatures⟩, ref.refId, hground.2, hid⟩
  · obtain ⟨rfl, eligible⟩ := mode
    rw [if_neg hlow] at eligible
    rw [Groundable, hsource]
    refine ⟨profile, hvalue, hown ▸ eligible, ?_⟩
    simp only [RefGrounded] at hground
    split at hground <;> rename_i hb
    · rw [if_pos hb]
      obtain ⟨-, frame, hframe, hshows⟩ := hground
      have hkey := (get?_indexBy hframe).2
      refine ⟨frame, mem_values_indexBy.2 (hkey ▸ hframe), hkey ▸ hid, ?_⟩
      rcases hshows with ⟨hzero, -⟩ | ⟨hshows, -⟩
      · exact (hlow ⟨hsource, hb, hzero⟩).elim
      · exact hown ▸ hshows
    · rw [if_neg hb]
      obtain ⟨-, window, hwindow, hproduct, -⟩ := hground
      have hkey := (get?_indexBy hwindow).2
      exact ⟨window, mem_values_indexBy.2 (hkey ▸ hwindow), hkey ▸ hid, hproduct.trans hown.symm⟩

/-- Every reason code there is. -/
def allReasonCodes : List ReasonCode :=
  [.observedAttentionLead, .returnCandidateSupport, .movementPatternSupport,
    .observableActionSupport, .catalogTagAlignment, .sufficientDataQuality]

theorem mem_allReasonCodes (c : ReasonCode) : c ∈ allReasonCodes := by cases c <;> decide

/-- An output that claims every signal and cites one reference under the given codes. -/
def claimsEverything (codes : List EvidenceCode) (productId : String) (tag : ControlledTag)
    (ref : EvidenceReferenceV2) : CentralRecommendationOutputV2 where
  productId := productId
  reason := "ok"
  reasonCodes := allReasonCodes
  evidence := codes.map fun code => { code, productId, evidenceRefs := [ref], statement := "ok" }
  style := { matchedTags := [tag], summary := "ok" }
  explorationTendencyCode := .focusedSingleProduct

theorem ok_text {n : ℕ} (h : 2 ≤ n) : TextUpTo n "ok" := ⟨by decide, h⟩

theorem claimsEverything_valid {codes : List EvidenceCode} {productId : String} {tag : ControlledTag}
    {ref : EvidenceReferenceV2} (bounded : LengthWithin 1 12 codes)
    (product : isIdentifier productId = true) (id : isIdentifier ref.refId = true) :
    (claimsEverything codes productId tag ref).Valid where
  productId := product
  reason := ok_text (by omega)
  codesBounded := show LengthWithin 1 6 allReasonCodes by decide
  codesUnique := show allReasonCodes.Nodup by decide
  evidenceBounded := by simpa only [claimsEverything, LengthWithin, List.length_map] using bounded
  evidence := by
    intro i hi
    obtain ⟨code, -, rfl⟩ := List.mem_map.1 hi
    exact ⟨⟨product, ⟨by simp, by simp⟩, by simp, ok_text (by omega)⟩, by simpa using id⟩
  style := ⟨⟨by simp [claimsEverything], by simp [claimsEverything]⟩, by simp [claimsEverything],
    ok_text (by omega)⟩

/-- Plain lower-case English text that has no diagnosis term. -/
theorem claimsEverything_undiagnosed (casefold : Casefold) {codes : List EvidenceCode}
    (h : codes.length ≤ 3) (productId : String) (tag : ControlledTag) (ref : EvidenceReferenceV2) :
    diagnoses casefold (claimsEverything codes productId tag ref) = false := by
  let texts := ["ok ok ok ok ok", "ok ok ok ok", "ok ok ok", "ok ok"]
  have caseless : ∀ t ∈ texts ++ diagnosisTerms, t.toList.all isCaseless = true := by decide +kernel
  have foreign : ∀ t ∈ diagnosisTerms, ∀ s ∈ texts, ¬ t.toList <:+: s.toList := by decide +kernel
  have text : combinedText (claimsEverything codes productId tag ref) ∈ texts := by
    rcases codes with _ | ⟨a, _ | ⟨b, _ | ⟨c, _ | ⟨d, rest⟩⟩⟩⟩
    · exact List.mem_of_mem_getLast? rfl
    · exact List.mem_cons_of_mem _ (List.mem_cons_of_mem _ List.mem_cons_self)
    · exact List.mem_cons_of_mem _ List.mem_cons_self
    · exact List.mem_cons_self
    · simp only [List.length_cons] at h
      omega
  unfold diagnoses
  rw [List.any_eq_false]
  intro term hterm
  rw [casefold.fold_caseless term (caseless term (List.mem_append_right _ hterm)),
    casefold.fold_caseless _ (caseless _ (List.mem_append_left _ text))]
  simpa using foreign term hterm _ text

theorem exists_controlledTag (profile : ProductRecommendationItemV2) :
    ∃ t, t ∈ profile.controlledTags := by
  have bounded := profile.tagsBounded.1
  exact List.exists_mem_of_length_pos (by omega)

/-- In the source-AOI mode, any grounded frame may be cited under any codes that include the two
that are asked for. -/
theorem exists_claims_of_source (casefold : Casefold) {payload : Payload SourceVisualEvidenceV1}
    (hsource : request.sourceVisualEvidence = some payload) (h : SourceGroundable request payload) :
    ∃ evidence productId tag, payload = .readable evidence ∧
      ∀ codes : List EvidenceCode, codes.length ≤ 3 → .observedAttention ∈ codes →
        .productTagMatch ∈ codes → ∀ frameId ∈ evidence.groundedFrameIds,
          isIdentifier frameId = true →
            Accepts casefold request (claimsEverything codes productId tag ⟨.frame, frameId⟩) := by
  obtain ⟨evidence, rfl, ⟨matching, hm, hset, profile, hprofile, selected, hsel, hscore,
    hfeatures⟩, -⟩ := h
  obtain ⟨t, ht⟩ := exists_controlledTag profile
  refine ⟨evidence, profile.productId, t, rfl, fun codes few attention tagMatch frameId hframe hid => ?_⟩
  have nonempty : 1 ≤ codes.length := List.length_pos_of_mem attention
  have cited : ∀ c : EvidenceCode, c ∈ codes →
      c ∈ (claimsEverything codes profile.productId t ⟨.frame, frameId⟩).evidence.map (·.code) := by
    intro c hc
    simpa [claimsEverything] using hc
  exact {
    valid := claimsEverything_valid ⟨nonempty, by omega⟩ profile.productIdOk hid
    profile := ⟨profile, mem_values_indexBy.1 hprofile, by simp [claimsEverything], by
      simpa [claimsEverything] using ht⟩
    undiagnosed := claimsEverything_undiagnosed casefold few _ _ _
    ownProduct := by simp [claimsEverything]
    grounded := by
      refine ⟨some evidence, ?_, fun i hi r hr => ?_⟩
      · rw [ModeAccepts, hsource]
        exact ⟨evidence, rfl, rfl, ⟨matching, selected, hm, hset, hsel, hscore, hfeatures⟩,
          ⟨mem_allReasonCodes _, mem_allReasonCodes _⟩, cited _ attention, cited _ tagMatch⟩
      · obtain ⟨code, -, rfl⟩ := List.mem_map.1 hi
        obtain rfl := List.mem_singleton.1 hr
        exact ⟨rfl, hframe⟩ }

/-- Outside the low-signal mode, a groundable request has an accepted output that claims
every signal. -/
theorem exists_claimsEverything (casefold : Casefold) (h : Groundable request)
    (hlow : ¬ request.lowSignal) :
    ∃ output, Accepts casefold request output ∧ output.reasonCodes = allReasonCodes := by
  unfold Groundable at h
  split at h <;> rename_i hsource
  · obtain ⟨evidence, productId, tag, rfl, accepts⟩ := exists_claims_of_source casefold hsource h
    obtain ⟨_, he, -, frameId, hframe, hid⟩ := h
    cases he
    exact ⟨_, accepts [.observedAttention, .productTagMatch] (by decide) (by decide) (by decide)
      frameId hframe hid, rfl⟩
  · obtain ⟨profile, hprofile, eligible, hcite⟩ := h
    obtain ⟨t, ht⟩ := exists_controlledTag profile
    obtain ⟨ref, hid, hground⟩ : ∃ ref : EvidenceReferenceV2, isIdentifier ref.refId = true ∧
        RefGrounded request none profile.productId .productTagMatch ref := by
      simp only [RefGrounded]
      split at hcite <;> rename_i hb
      · obtain ⟨frame, hframe, hid, hshows⟩ := hcite
        refine ⟨⟨.frame, frame.frameId⟩, hid, ?_⟩
        rw [if_pos hb]
        exact ⟨rfl, frame, mem_values_indexBy.1 hframe, .inr ⟨hshows, rfl⟩⟩
      · obtain ⟨window, hwindow, hid, hproduct⟩ := hcite
        refine ⟨⟨.window, window.windowId⟩, hid, ?_⟩
        rw [if_neg hb]
        exact ⟨rfl, window, mem_values_indexBy.1 hwindow, hproduct, fun h => by cases h⟩
    refine ⟨claimsEverything [.productTagMatch] profile.productId t ref, ?_, rfl⟩
    exact {
      valid := claimsEverything_valid (by decide) profile.productIdOk hid
      profile := ⟨profile, mem_values_indexBy.1 hprofile, by simp [claimsEverything], by
        simpa [claimsEverything] using ht⟩
      undiagnosed := claimsEverything_undiagnosed casefold (by decide) _ _ _
      ownProduct := by simp [claimsEverything]
      grounded := by
        refine ⟨none, ?_, by simpa [claimsEverything] using hground⟩
        rw [ModeAccepts, hsource]
        exact ⟨rfl, by rw [if_neg hlow]; exact eligible⟩ }

/-- **The reason codes.** The gate accepts only outputs whose codes, and whose sentence at the
Kiosk, speak of signals in the request exactly when the request is of the low-signal mode, or
contains every signal there is, or nothing can be grounded in it. -/
theorem reasonCodes_supported_iff (casefold : Casefold) (request : CentralRecommendationRequestV2) :
    (∀ raw output, validateCentralOutput casefold raw request = .ok output →
      ClaimsSupported request output) ↔
      request.lowSignal ∨ (∀ code, Supported request code) ∨ ¬ Groundable request := by
  constructor
  · intro h
    by_cases hlow : request.lowSignal
    · exact .inl hlow
    by_cases hground : Groundable request
    · obtain ⟨output, accepts, codes⟩ := exists_claimsEverything casefold hground hlow
      have claims := (h _ _ (validateCentralOutput_ok_iff.2 ⟨rfl, accepts⟩)).1
      exact .inr (.inl fun c => claims c (codes ▸ mem_allReasonCodes c))
    · exact .inr (.inr hground)
  · rintro h raw output ho
    obtain ⟨-, accepts⟩ := validateCentralOutput_ok_iff.1 ho
    refine claimsSupported_of_codes fun c hc => ?_
    by_cases hlow : request.lowSignal
    · -- the low-signal mode alone restricts the codes
      obtain ⟨source, mode, -⟩ := accepts.grounded
      rw [ModeAccepts, hlow.1] at mode
      have low := mode.2
      rw [if_pos hlow] at low
      rw [low.onlyCatalog c hc]
      trivial
    · rcases h with h | h | h
      · exact (hlow h).elim
      · exact h c
      · exact (h (groundable_of_accepts accepts hlow)).elim

end Groundable

/-! ## A claimed return that nobody saw -/

theorem plainTags_bounded : LengthWithin 3 12 [ControlledTag.classic, .leather, .minimal] := by decide

theorem plainTags_nodup : [ControlledTag.classic, .leather, .minimal].Nodup := by decide

def plainBag : ProductRecommendationItemV2 where
  productId := "bag-1"
  controlledTags := [.classic, .leather, .minimal]
  productIdOk := by decide
  tagsBounded := plainTags_bounded
  tagsUnique := plainTags_nodup

/-- One product was looked at once; nothing else was observed. -/
def oneGlance : CentralRecommendationRequestV2 where
  decisionRequestId := "request-1"
  sessionId := "session-1"
  videoId := "video-1"
  promptVersion := "prompt-1"
  evidenceVersion := featureVersion
  evidence := {
    decisionRequestId := "request-1"
    inputVariant := .c
    sessionId := "session-1"
    videoId := "video-1"
    manifestVersion := "manifest-1"
    catalogVersion := "catalog-1"
    featureVersion := featureVersion
    signalVersions := {
      eye := some ⟨"eye-1", "eye-model-1"⟩, eyeReason := none
      face := none, faceReason := some "face_signal_missing", aoiMapperRevision := "mapper-1" }
    dataQuality := {
      expectedObservationCount := 1, gazeValidRatio := 1, expressionValidRatio := 0
      matchedFrameRatio := 1, ambiguousProductRatio := 0 }
    summary := [{
      productId := "bag-1", exposureDurationMs := 1000
      observedComponentCodes := [], observedVisualTagIds := []
      gaze := some {
        validObservationCount := 1, observedAttentionMs := 0, attentionRatio := 0
        averageConfidence := 1, returnCandidateCount := some 0, returnCandidateReason := none
        movementDistanceNorm := none, meanSpeedNormPerS := none
        movementReason := some "gaze_movement_missing" }
      gazeReason := none, expression := none
      expressionReason := some "no_valid_expression_for_product" }]
    evidenceWindows := some [{
      windowId := "window-0-0", productId := "bag-1", startOffsetMs := 0, endOffsetMs := 0
      videoStartMs := 0, videoEndMs := 0, playbackEpoch := 0
      observedComponentCodes := [], observedVisualTagIds := []
      evidenceCodes := [.observedAttention] }]
    timeline := none }
  products := [plainBag]
  sourceVisualEvidence := none
  matchingProducts := none

/-- An output that claims a return. -/
def claimsReturn : CentralRecommendationOutputV2 where
  productId := "bag-1"
  reason := "ok"
  reasonCodes := [.returnCandidateSupport]
  evidence := [{ code := .observedAttention, productId := "bag-1"
                 evidenceRefs := [⟨.window, "window-0-0"⟩], statement := "ok" }]
  style := { matchedTags := [.classic], summary := "ok" }
  explorationTendencyCode := .focusedSingleProduct

/-- The gate accepts a return that was not counted, and the Kiosk tells the customer of it. -/
theorem uncounted_return_accepted :
    oneGlance.Valid ∧ oneGlance.evidence.Valid ∧
    validateCentralOutput foldedText (.shaped claimsReturn) oneGlance = .ok claimsReturn ∧
    .returnCandidateSupport ∈ claimsReturn.reasonCodes ∧
    ¬ Supported oneGlance .returnCandidateSupport ∧
    (presentCentralRecommendation (outcomeWithProduct ⟨"recommendation-1", "request-1"⟩ claimsReturn
        oneGlance.evidence.dataQuality ⟨"model-1", "model-1", "prompt-1", featureVersion, "catalog-1",
          .c⟩) plainBag).map (·.reason) =
      .ok ("룩북을 보시는 동안 다른 상품을 보신 뒤 다시 돌아온 시선이 나타났습니다. " ++
        "무의식적으로 드러난 이 신호를 클래식 취향으로 읽어 이 상품을 골랐습니다.") := by
  refine ⟨by decide +kernel, by decide +kernel, by decide +kernel, by decide, ?_,
    by decide +kernel⟩
  simp [Supported, countedReturn, derivedSignal, oneGlance]

end Mkk.Kiosk
