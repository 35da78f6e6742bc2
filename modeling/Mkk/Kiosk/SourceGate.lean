import Mkk.Api.OutputSchema
import Mkk.Api.Store
import Mkk.Kiosk.ReasonCodes

/-!
# What the source-AOI mode lets through

In the source-AOI mode the gate holds a reference to the grounded frames and looks no further,
where the other modes hold the evidence code to the signals of the frame or the window and the
low-signal mode also restricts the codes. `evidenceSignals_present_iff` says for which requests
every accepted evidence item names a signal that is there, and `accepted_conforms_iff` for which
requests the gate is as strict as the schema that was sent to the provider.
-/

namespace Mkk.Kiosk

open Lib Mkk.Api

/-- The evidence codes that claim a derived signal. -/
def derivedCodes : List EvidenceCode := [.returnCandidate, .gazeMovement, .faceActionChange]

/-- A source AOI that was looked at in the frame counted a return; its summary holds no movement
and no score change. -/
def summarySignal (evidence : SourceVisualEvidenceV1) (frameId : String) : EvidenceCode → Bool
  | .returnCandidate =>
    evidence.sourceAois.any fun a => a.frameIds.contains frameId && decide (0 < a.returnCount)
  | _ => false

/-- The frame of that id in the request's timeline contains the signal. -/
def frameSignal (request : CentralRecommendationRequestV2) (frameId : String) (code : EvidenceCode) :
    Bool :=
  ((indexBy (·.frameId) (request.evidence.timeline.getD [])).get? frameId).any fun frame =>
    frame.contains code

/-- The window of that id in the request names the signal. -/
def windowSignal (request : CentralRecommendationRequestV2) (windowId : String) (code : EvidenceCode) :
    Bool :=
  ((indexBy (·.windowId) (request.evidence.evidenceWindows.getD [])).get? windowId).any fun window =>
    window.evidenceCodes.contains code

/-- The signal is in the grounded frame or in the summary of a source AOI that cites it. -/
def sourceSignal (request : CentralRecommendationRequestV2) (evidence : SourceVisualEvidenceV1)
    (frameId : String) (code : EvidenceCode) : Bool :=
  frameSignal request frameId code || summarySignal evidence frameId code

/-- What a reference names contains the signal. -/
def signalPresent (request : CentralRecommendationRequestV2) (code : EvidenceCode)
    (ref : EvidenceReferenceV2) : Bool :=
  match request.sourceVisualEvidence, ref.kind with
  | some (.readable evidence), _ => sourceSignal request evidence ref.refId code
  | some .malformed, _ => false
  | none, .frame => frameSignal request ref.refId code
  | none, .window => windowSignal request ref.refId code

/-- Every derived signal the output cites is in what it cites. -/
def SignalsPresent (request : CentralRecommendationRequestV2)
    (output : CentralRecommendationOutputV2) : Prop :=
  ∀ i ∈ output.evidence, i.code ∈ derivedCodes → ∀ r ∈ i.evidenceRefs,
    signalPresent request i.code r = true

section Gate

variable {casefold : Casefold} {request : CentralRecommendationRequestV2}
  {output : CentralRecommendationOutputV2}

theorem derivedCodes_required {code : EvidenceCode} (h : code ∈ derivedCodes) :
    code.requiredInWindow = true ∧ code ∉ [EvidenceCode.dataQuality, .productTagMatch] := by
  revert code
  decide

/-- Outside the source-AOI mode a reference is held to the signal. -/
theorem signalPresent_of_grounded {productId : String} {code : EvidenceCode}
    {ref : EvidenceReferenceV2} (hsource : request.sourceVisualEvidence = none)
    (h : RefGrounded request none productId code ref) (derived : code ∈ derivedCodes) :
    signalPresent request code ref = true := by
  obtain ⟨required, other⟩ := derivedCodes_required derived
  simp only [RefGrounded] at h
  unfold signalPresent
  rw [hsource]
  split at h
  · obtain ⟨kind, frame, hframe, low | ⟨-, contains⟩⟩ := h
    · exact (other low.2).elim
    · rw [kind]
      simpa only [frameSignal, hframe, Option.any_some] using contains
  · obtain ⟨kind, window, hwindow, -, codes⟩ := h
    rw [kind]
    simpa only [windowSignal, hwindow, Option.any_some, List.contains_iff_mem] using codes required

/-- **The evidence items.** Every derived signal an accepted output cites is in what it cites
exactly when the request is not of the source-AOI mode, or no output can be grounded in it, or
each of its grounded frames carries all three signals. -/
theorem evidenceSignals_present_iff (casefold : Casefold) (request : CentralRecommendationRequestV2) :
    (∀ raw output, validateCentralOutput casefold raw request = .ok output →
      SignalsPresent request output) ↔
      request.sourceVisualEvidence = none ∨ ¬ Groundable request ∨
        ∀ evidence, request.sourceVisualEvidence = some (.readable evidence) →
          ∀ frameId ∈ evidence.groundedFrameIds, isIdentifier frameId = true →
            ∀ code ∈ derivedCodes, sourceSignal request evidence frameId code = true := by
  constructor
  · intro h
    cases hsource : request.sourceVisualEvidence with
    | none => exact .inl rfl
    | some payload =>
      refine .inr (or_iff_not_imp_left.2 fun ground => ?_)
      rw [not_not, Groundable, hsource] at ground
      obtain ⟨evidence, productId, tag, rfl, accepts⟩ :=
        exists_claims_of_source casefold hsource ground
      intro evidence' same frameId hframe hid code derived
      cases same
      -- the two codes that are asked for, and the signal that may be missing
      have accepted := accepts [.observedAttention, .productTagMatch, code] (Nat.le_refl 3)
        (by simp) (by simp) frameId hframe hid
      have present := h _ _ (validateCentralOutput_ok_iff.2 ⟨rfl, accepted⟩)
        ⟨code, productId, [⟨.frame, frameId⟩], "ok"⟩ (by simp [claimsEverything]) derived
        ⟨.frame, frameId⟩ List.mem_cons_self
      simpa only [signalPresent, hsource] using present
  · intro h raw output accepted i hi derived r hr
    obtain ⟨-, accepts⟩ := validateCentralOutput_ok_iff.1 accepted
    obtain ⟨source, mode, grounded⟩ := accepts.grounded
    have ground := grounded i hi r hr
    cases hsource : request.sourceVisualEvidence with
    | none =>
      rw [ModeAccepts, hsource] at mode
      obtain ⟨rfl, -⟩ := mode
      exact signalPresent_of_grounded hsource ground derived
    | some payload =>
      have notLow : ¬ request.lowSignal := by
        intro low
        rw [low.1] at hsource
        cases hsource
      rw [ModeAccepts, hsource] at mode
      obtain ⟨evidence, rfl, rfl, -⟩ := mode
      rcases h with h | h | h
      · rw [h] at hsource
        cases hsource
      · exact (h (groundable_of_accepts accepts notLow)).elim
      · have hid := (accepts.valid.evidence i hi).2 r hr
        simpa only [signalPresent, hsource] using h evidence hsource r.refId ground.2 hid i.code derived

/-- **The schema.** The outputs the gate accepts all conform to the schema that was sent to the
provider exactly when the request is not of the source-AOI mode, or no output can be grounded
in it. -/
theorem accepted_conforms_iff (casefold : Casefold) {schema : OutputSchema}
    (hschema : openaiOutputSchema request = .ok schema) :
    (∀ raw output, validateCentralOutput casefold raw request = .ok output →
      Conforms schema output) ↔
      request.sourceVisualEvidence = none ∨ ¬ Groundable request := by
  constructor
  · intro h
    cases hsource : request.sourceVisualEvidence with
    | none => exact .inl rfl
    | some payload =>
      refine .inr fun ground => ?_
      rw [Groundable, hsource] at ground
      obtain ⟨evidence, productId, tag, rfl, accepts⟩ :=
        exists_claims_of_source casefold hsource ground
      obtain ⟨_, same, -, frameId, hframe, hid⟩ := ground
      cases same
      have conforms := h _ _ (validateCentralOutput_ok_iff.2 ⟨rfl,
        accepts [.observedAttention, .productTagMatch] (by decide) (by decide) (by decide) frameId
          hframe hid⟩)
      have kinds := conforms.refKinds
      have codes := conforms.reasonCodes .observableActionSupport (mem_allReasonCodes _)
      obtain ⟨enums, -⟩ := openaiOutputSchema_ok hschema
      generalize schema.toSchemaEnums = e at enums kinds codes
      cases enums with
      | windows variant =>
        -- the gate asks for frames, the schema for windows
        have kind := kinds ⟨.observedAttention, productId, [⟨.frame, frameId⟩], "ok"⟩
          (by simp [claimsEverything]) ⟨.frame, frameId⟩ List.mem_cons_self
        cases kind
      | source _ _ _ => simp [sourceEnums] at codes
      | lowSignal _ _ => simp [lowSignalEnums] at codes
  · intro h raw output accepted
    obtain ⟨-, accepts⟩ := validateCentralOutput_ok_iff.1 accepted
    rcases h with h | h
    · exact conforms_of_accepts hschema h accepts
    · by_cases hsource : request.sourceVisualEvidence = none
      · exact conforms_of_accepts hschema hsource accepts
      · exact (h (groundable_of_accepts accepts fun low => hsource low.1)).elim

end Gate

/-! ## A face action that nobody saw -/

def plainTote : VisualFeaturesV1 where
  colorPrimary := "cognac"
  colorFamily := .brown
  silhouette := .tote
  categoryType := .toteBag
  patterns := [.monogram]
  bagAccessories := []

/-- One glance at one source AOI. -/
def oneSourceAoi : SourceVisualEvidenceV1 where
  metadataVersion := "aoi-1"
  featureTaxonomyVersion := "taxonomy-1"
  totalHitCount := 1
  ambiguousFrameCount := 0
  sourceAois := [{
    sourceAoiId := "source-1", hitCount := 1, attentionMs := 0, returnCount := 0
    frameIds := ["frame-1"], visualFeatures := plainTote }]
  colorPrimaryScores := [⟨"cognac", 1, 0, ["source-1"]⟩]
  colorFamilyScores := [⟨"brown", 1, 0, ["source-1"]⟩]
  silhouetteScores := [⟨"tote", 1, 0, ["source-1"]⟩]
  categoryTypeScores := [⟨"tote_bag", 1, 0, ["source-1"]⟩]
  patternScores := [⟨"monogram", 1, 0, ["source-1"]⟩]
  bagAccessoryScores := []

/-- The request of a session in which one frame was gazed at and no expression was found. -/
def sourceGlance : CentralRecommendationRequestV2 where
  decisionRequestId := "request-1"
  sessionId := "session-0001"
  videoId := "mcm-lookbook-v2"
  promptVersion := "prompt-1"
  evidenceVersion := featureVersion
  evidence := {
    decisionRequestId := "request-1"
    inputVariant := .b
    sessionId := "session-0001"
    videoId := "mcm-lookbook-v2"
    manifestVersion := "manifest-1"
    catalogVersion := "catalog-1"
    featureVersion := featureVersion
    signalVersions := {
      eye := some ⟨"eye-1", "eye-model-1"⟩, eyeReason := none
      face := none, faceReason := some "no_valid_expression", aoiMapperRevision := "unavailable" }
    dataQuality := {
      expectedObservationCount := 1, gazeValidRatio := 1, expressionValidRatio := 0
      matchedFrameRatio := 1, ambiguousProductRatio := 0 }
    summary := (List.ofFn smallProduct).map fun p => {
      productId := p.productId, exposureDurationMs := 0
      observedComponentCodes := [], observedVisualTagIds := []
      gaze := none, gazeReason := some "no_valid_gaze_for_product"
      expression := none, expressionReason := some "no_matched_expression" }
    evidenceWindows := none
    timeline := some [glance "frame-1" 0 1000] }
  products := List.ofFn smallProduct
  sourceVisualEvidence := some (.readable oneSourceAoi)
  matchingProducts := some ((List.ofFn smallProduct).map fun p =>
    .readable ⟨p.productId, plainTote, p.controlledTags.map (·.value)⟩)

/-- An output that claims a change of the face. -/
def claimsFaceAction : CentralRecommendationOutputV2 where
  productId := "bag-0"
  reason := "ok"
  reasonCodes := [.observedAttentionLead, .catalogTagAlignment, .observableActionSupport]
  evidence := [.observedAttention, .productTagMatch, .faceActionChange].map fun code =>
    { code, productId := "bag-0", evidenceRefs := [⟨.frame, "frame-1"⟩], statement := "ok" }
  style := { matchedTags := [.classic], summary := "ok" }
  explorationTendencyCode := .focusedSingleProduct

/-- The gate accepts a face action for a frame without an expression. -/
theorem unseen_faceAction_accepted :
    sourceGlance.Valid ∧ sourceGlance.evidence.Valid ∧ oneSourceAoi.Valid ∧
    validateCentralOutput foldedText (.shaped claimsFaceAction) sourceGlance = .ok claimsFaceAction ∧
    ∃ i ∈ claimsFaceAction.evidence, i.code ∈ derivedCodes ∧ ∃ r ∈ i.evidenceRefs,
      signalPresent sourceGlance i.code r = false := by
  decide +kernel

/-- The same output is outside the schema that was sent to the provider. -/
theorem unseen_faceAction_outside_schema :
    ∃ schema, openaiOutputSchema sourceGlance = .ok schema ∧
      validateCentralOutput foldedText (.shaped claimsFaceAction) sourceGlance =
        .ok claimsFaceAction ∧
      (∃ i ∈ claimsFaceAction.evidence, i.code ∉ schema.evidenceCodeEnum) ∧
      ¬ Conforms schema claimsFaceAction := by
  obtain ⟨schema, hschema, accepted, outside⟩ : ∃ schema,
      openaiOutputSchema sourceGlance = .ok schema ∧
      validateCentralOutput foldedText (.shaped claimsFaceAction) sourceGlance =
        .ok claimsFaceAction ∧
      ∃ i ∈ claimsFaceAction.evidence, i.code ∉ schema.evidenceCodeEnum := by
    refine ⟨{
      toSchemaEnums := sourceEnums oneSourceAoi [glance "frame-1" 0 1000]
      productIds := sourceGlance.products.map (·.productId)
      tags := sortedSet (sourceGlance.products.flatMap (·.controlledTags)) }, ?_⟩
    decide +kernel
  refine ⟨schema, hschema, accepted, outside, fun conforms => ?_⟩
  obtain ⟨i, hi, absent⟩ := outside
  exact absent (conforms.evidenceCodes i hi)

/-- The same session with windows in place of the source AOIs. -/
def windowGlance : CentralRecommendationRequestV2 :=
  { sourceGlance with
    evidence := { sourceGlance.evidence with
      inputVariant := .c
      evidenceWindows := oneGlance.evidence.evidenceWindows
      timeline := none }
    sourceVisualEvidence := none
    matchingProducts := none }

/-- With windows the gate is as strict as the schema. -/
theorem accepted_conforms_windows :
    ∃ schema, openaiOutputSchema windowGlance = .ok schema ∧ ∀ raw output,
      validateCentralOutput foldedText raw windowGlance = .ok output → Conforms schema output := by
  refine ⟨{
    toSchemaEnums := windowEnums (oneGlance.evidence.evidenceWindows.getD [])
    productIds := windowGlance.products.map (·.productId)
    tags := sortedSet (windowGlance.products.flatMap (·.controlledTags)) }, by decide +kernel, ?_⟩
  exact (accepted_conforms_iff foldedText (by decide +kernel)).2 (.inl rfl)

end Mkk.Kiosk
