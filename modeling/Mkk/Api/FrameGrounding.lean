import Mkk.Api.EvidenceWindows
import Mkk.Api.AoiHierarchy

/-!
# Grounding an output in a frame

In variant B an output cites the frames of the timeline. The aggregator attributes a frame to a product
when all its AOI candidates name it; the gate wants the frame to have one candidate. The gate also looks a
frame up by its id, which the frames of two playback epochs can share. Its verdict is the attribution
exactly when neither makes a difference (`frame_grounding`).
-/

namespace Mkk.Api

open Lib

/-- How many AOI candidates a frame has. -/
def FrameObservationV2.candidateCount (frame : FrameObservationV2) : ℕ :=
  (frame.attention.map (·.candidates.length)).getD 0

/-- The frame the gate finds under the id of a frame: the last one with that id. -/
def groundingFrame (timeline : List FrameObservationV2) (frame : FrameObservationV2) :
    FrameObservationV2 :=
  ((indexBy (·.frameId) timeline).get? frame.frameId).getD frame

/-- The reference to a frame. -/
def frameRef (frame : FrameObservationV2) : EvidenceReferenceV2 := ⟨.frame, frame.frameId⟩

/-- An output that keeps every rule of variant B other than that an observed attention may cite the
frame. -/
structure AcceptsBut (casefold : Casefold) (request : CentralRecommendationRequestV2)
    (output : CentralRecommendationOutputV2) (frame : FrameObservationV2) : Prop where
  valid : output.Valid
  profile : ∃ profile, (indexBy (·.productId) request.products).get? output.productId = some profile ∧
    output.style.matchedTags ≠ [] ∧ ∀ t ∈ output.style.matchedTags, t ∈ profile.controlledTags
  undiagnosed : diagnoses casefold output = false
  ownProduct : ∀ i ∈ output.evidence, i.productId = output.productId
  eligible : output.productId ∈ request.eligibleProductIds
  grounded : ∀ i ∈ output.evidence, ∀ r ∈ i.evidenceRefs,
    (i.code = .observedAttention ∧ r = frameRef frame) ∨
      RefGrounded request none output.productId i.code r

/-- The gate's verdict on citing a frame is the aggregator's attribution of it. -/
structure GroundedAsAttributed (casefold : Casefold) (request : CentralRecommendationRequestV2)
    (output : CentralRecommendationOutputV2) (item : DecisionEvidenceItemV2)
    (frame : FrameObservationV2) : Prop where
  check : (checkRef request none output item (frameRef frame)).isOk = true ↔
    mappedProductId frame = some output.productId
  whole : AcceptsBut casefold request output frame →
    (validateCentralOutput casefold (.shaped output) request = .ok output ↔
      mappedProductId frame = some output.productId)

/-- No other candidate and no other frame of the id stands in the way. -/
structure Unmistaken (timeline : List FrameObservationV2) (frame : FrameObservationV2)
    (productId : String) : Prop where
  candidates : mappedProductId frame = some productId →
    (groundingFrame timeline frame).candidateCount = 1
  found : (groundingFrame timeline frame).candidateCount = 1 →
    (mappedProductId frame = some productId ↔
      mappedProductId (groundingFrame timeline frame) = some productId)

section Gate

variable {observations : List FrameObservationV2} {params : SummaryParams} {summary : EvidenceSummary}
  {timeline : List FrameObservationV2} {frame f : FrameObservationV2} {productId : String}
  {casefold : Casefold} {request : CentralRecommendationRequestV2}
  {output : CentralRecommendationOutputV2} {item : DecisionEvidenceItemV2}

/-- What the gate looks for is an attribution by one candidate. -/
theorem showsOnly_iff : frame.showsOnly productId = true ↔
    mappedProductId frame = some productId ∧ frame.candidateCount = 1 := by
  unfold FrameObservationV2.showsOnly mappedProductId FrameObservationV2.candidateCount
  cases frame.attention with
  | none => simp
  | some attention =>
    dsimp only [Option.map_some, Option.getD_some]
    generalize attention.candidates = candidates
    match candidates with
    | [] => simp
    | [candidate] => simp
    | _ :: _ :: _ => simp

theorem get?_groundingFrame (member : frame ∈ timeline) :
    (indexBy (·.frameId) timeline).get? frame.frameId = some (groundingFrame timeline frame) := by
  have listed : frame.frameId ∈ (indexBy (·.frameId) timeline).keys :=
    (Dict.mem_keys_accumulate _ _).2 (List.mem_map_of_mem member)
  obtain ⟨g, found⟩ := Dict.mem_keys_iff.1 listed
  rw [groundingFrame, found, Option.getD_some]

/-- Where the ids are unique the gate finds the frame itself. -/
theorem groundingFrame_self (unique : (timeline.map (·.frameId)).Nodup) (member : frame ∈ timeline) :
    groundingFrame timeline frame = frame := by
  obtain ⟨inside, same⟩ := get?_indexBy (get?_groundingFrame member)
  exact List.inj_on_of_nodup_map unique inside member same

/-- **The verdict on a frame** in variant B. -/
theorem refGrounded_frame_iff (variant : request.evidence.inputVariant = .b)
    (member : frame ∈ request.evidence.timeline.getD []) :
    RefGrounded request none productId .observedAttention (frameRef frame) ↔
      mappedProductId (groundingFrame (request.evidence.timeline.getD []) frame) = some productId ∧
        (groundingFrame (request.evidence.timeline.getD []) frame).candidateCount = 1 := by
  unfold RefGrounded
  dsimp only
  rw [if_pos variant, ← showsOnly_iff]
  have found := get?_groundingFrame member
  constructor
  · rintro ⟨-, g, named, ⟨-, other⟩ | ⟨shows, -⟩⟩
    · simp at other
    · rw [frameRef, found] at named
      cases named
      exact shows
  · exact fun shows => ⟨rfl, _, found, .inr ⟨shows, rfl⟩⟩

/-- The verdict on an output that keeps every other rule is the verdict on the frame. -/
theorem AcceptsBut.validates_iff (h : AcceptsBut casefold request output frame)
    (legacy : request.sourceVisualEvidence = none)
    (gaze : 0 < request.evidence.dataQuality.gazeValidRatio)
    (listed : item ∈ output.evidence) (code : item.code = .observedAttention)
    (cited : frameRef frame ∈ item.evidenceRefs) :
    validateCentralOutput casefold (.shaped output) request = .ok output ↔
      RefGrounded request none output.productId .observedAttention (frameRef frame) := by
  rw [validateCentralOutput_ok_iff]
  constructor
  · rintro ⟨-, accepts⟩
    obtain ⟨source, mode, grounded⟩ := accepts.grounded
    unfold ModeAccepts at mode
    rw [legacy] at mode
    obtain ⟨rfl, -⟩ := mode
    rw [← code]
    exact grounded item listed _ cited
  · intro grounded
    have notLow : ¬ request.lowSignal := fun low => gaze.ne' low.2.2
    refine ⟨rfl, h.valid, h.profile, h.undiagnosed, h.ownProduct, none, ?_, fun i hi r hr => ?_⟩
    · unfold ModeAccepts
      rw [legacy]
      exact ⟨rfl, by rw [if_neg notLow]; exact h.eligible⟩
    · rcases h.grounded i hi r hr with ⟨attention, rfl⟩ | other
      · rw [attention]
        exact grounded
      · exact other

theorem unmistaken_iff : (mappedProductId (groundingFrame timeline frame) = some productId ∧
      (groundingFrame timeline frame).candidateCount = 1 ↔ mappedProductId frame = some productId) ↔
    Unmistaken timeline frame productId := by
  constructor
  · intro same
    exact {
      candidates := fun mapped => (same.2 mapped).2
      found := fun one => ⟨fun mapped => (same.2 mapped).1, fun found => same.1 ⟨found, one⟩⟩ }
  · intro h
    constructor
    · exact fun ⟨found, one⟩ => (h.found one).2 found
    · exact fun mapped => ⟨(h.found (h.candidates mapped)).1 mapped, h.candidates mapped⟩

/-- **The gate grounds an output as the aggregator attributes** exactly when neither nesting nor a
shared id makes a difference. -/
theorem frame_grounding (summarized : summarizeObservations observations params = .ok summary)
    (evidence : request.evidence = summary.evidence) (legacy : request.sourceVisualEvidence = none)
    (variant : request.evidence.inputVariant = .b)
    (gaze : 0 < request.evidence.dataQuality.gazeValidRatio)
    (member : frame ∈ enrichedFrames observations params.aoiMetadata)
    (listed : item ∈ output.evidence) (code : item.code = .observedAttention)
    (cited : frameRef frame ∈ item.evidenceRefs) :
    GroundedAsAttributed casefold request output item frame ↔
      Unmistaken (enrichedFrames observations params.aoiMetadata) frame output.productId := by
  obtain ⟨s, windows, made⟩ := summarizeObservations_made summarized
  have timeline : request.evidence.timeline.getD [] =
      enrichedFrames observations params.aoiMetadata := by
    have published := made.timeline
    rw [← evidence, variant] at published
    rw [published]
    rfl
  have verdict : RefGrounded request none output.productId .observedAttention (frameRef frame) ↔ _ :=
    refGrounded_frame_iff variant (by rw [timeline]; exact member)
  rw [timeline] at verdict
  rw [← unmistaken_iff, ← verdict]
  constructor
  · intro same
    rw [← code, ← checkRef_isOk_iff]
    exact same.check
  · intro same
    exact {
      check := by rw [checkRef_isOk_iff, code]; exact same
      whole := fun h => (h.validates_iff legacy gaze listed code cited).trans same }

end Gate

/-! ## A bag and its clasp -/

/-- Reviewed metadata of a bag with its clasp. -/
def bagMetadata : LookbookAoiMetadataV2 :=
  { smallMetadata with exposures := bagExposures, exposuresValid := by decide }

/-- A request of variant B about the bag with its clasp. -/
def bagParams : SummaryParams :=
  { glanceParams with aoiMetadata := some bagMetadata, inputVariant := .b }

/-- A glance at the bag before its clasp can be seen, and one at both. -/
def bagGlances : List FrameObservationV2 :=
  [glance "frame-1" 0 1000, { glance "frame-2" 1 2000 with videoTimeMs := 1000 }]

def bagRequest (evidence : RecommendationEvidenceV2) : CentralRecommendationRequestV2 where
  decisionRequestId := "decision-1"
  sessionId := "session-0001"
  videoId := "mcm-lookbook-v2"
  promptVersion := "prompt-1"
  evidenceVersion := "evidence-1"
  evidence := evidence
  products := List.ofFn smallProduct
  sourceVisualEvidence := none
  matchingProducts := none

/-- An item that cites a frame for observed attention to the bag. -/
def bagItem (frameId : String) : DecisionEvidenceItemV2 where
  code := .observedAttention
  productId := "bag-0"
  evidenceRefs := [⟨.frame, frameId⟩]
  statement := "ok"

def bagOutput (frameId : String) : CentralRecommendationOutputV2 where
  productId := "bag-0"
  reason := "ok"
  reasonCodes := [.observedAttentionLead]
  evidence := [bagItem frameId]
  style := { matchedTags := [.classic], summary := "ok" }
  explorationTendencyCode := .focusedSingleProduct

theorem bagGlances_summarized : ∃ summary, summarizeObservations bagGlances bagParams = .ok summary ∧
    summary.evidence.inputVariant = .b ∧ 0 < summary.evidence.dataQuality.gazeValidRatio ∧
    "bag-0" ∈ (bagRequest summary.evidence).eligibleProductIds := by
  have returned : (match summarizeObservations bagGlances bagParams with
    | .ok summary => decide (summary.evidence.inputVariant = .b ∧
        0 < summary.evidence.dataQuality.gazeValidRatio ∧
        "bag-0" ∈ (bagRequest summary.evidence).eligibleProductIds)
    | .error _ => false) = true := by decide +kernel
  split at returned
  · exact ⟨_, ‹_›, of_decide_eq_true returned⟩
  · cases returned

theorem frame_grounding_bag : ∃ summary, summarizeObservations bagGlances bagParams = .ok summary ∧
    ∀ frame ∈ enrichedFrames bagGlances bagParams.aoiMetadata,
      GroundedAsAttributed foldedText (bagRequest summary.evidence) (bagOutput frame.frameId)
          (bagItem frame.frameId) frame ↔
        Unmistaken (enrichedFrames bagGlances bagParams.aoiMetadata) frame "bag-0" := by
  obtain ⟨summary, summarized, variant, gaze, -⟩ := bagGlances_summarized
  exact ⟨summary, summarized, fun frame member => frame_grounding summarized rfl rfl variant gaze
    member (List.mem_singleton.2 rfl) rfl (List.mem_singleton.2 rfl)⟩

/-- The glance at both the bag and its clasp is attributed to the bag, and cannot be cited for it. -/
theorem nested_frame_refused : validateApprovalAndHierarchy .approved 60000 bagExposures = .ok () ∧
    ∃ summary frame, summarizeObservations bagGlances bagParams = .ok summary ∧
      frame ∈ enrichedFrames bagGlances bagParams.aoiMetadata ∧
      mappedProductId frame = some "bag-0" ∧
      AcceptsBut foldedText (bagRequest summary.evidence) (bagOutput frame.frameId) frame ∧
      validateCentralOutput foldedText (.shaped (bagOutput frame.frameId))
        (bagRequest summary.evidence) =
          .error (invalidOutput "central model referenced an ungrounded frame") := by
  constructor
  · have checked : checkExposures 60000 bagExposures bagExposures = .ok () := by decide +kernel
    have unique : (bagExposures.map (·.aoiId)).Nodup := by decide
    unfold validateApprovalAndHierarchy
    rw [if_neg (by decide), if_neg (by decide), if_neg (not_not.2 unique), checked]
    exact walkParents_ok (exposuresChecked checked) unique
  · have returned : ((summarizeObservations bagGlances bagParams).toOption.any fun summary =>
        (enrichedFrames bagGlances bagParams.aoiMetadata)[1]?.any fun frame =>
          decide ("bag-0" ∈ (bagRequest summary.evidence).eligibleProductIds ∧
            mappedProductId frame = some "bag-0" ∧ frame.frameId = "frame-2" ∧
            validateCentralOutput foldedText (.shaped (bagOutput "frame-2"))
              (bagRequest summary.evidence) =
                .error (invalidOutput "central model referenced an ungrounded frame"))) = true := by
      decide +kernel
    obtain ⟨summary, summarized, returned⟩ := any_toOption_iff.1 returned
    obtain ⟨frame, second, returned⟩ := (Option.any_eq_true _ _).1 returned
    obtain ⟨eligible, mapped, named, refused⟩ := of_decide_eq_true returned
    have profile : (indexBy (·.productId) (List.ofFn smallProduct)).get? "bag-0" =
        some (smallProduct 0) := by decide +kernel
    refine ⟨summary, frame, summarized, List.mem_of_getElem? second, mapped, ?_, ?_⟩
    · rw [named]
      exact {
        valid := by decide +kernel
        profile := ⟨smallProduct 0, profile, by decide, by decide⟩
        undiagnosed := by decide +kernel
        ownProduct := by decide
        eligible := eligible
        grounded := fun i hi r hr => by
          obtain rfl := List.mem_singleton.1 hi
          obtain rfl := List.mem_singleton.1 hr
          exact .inl ⟨rfl, by rw [frameRef, named]⟩ }
    · rw [named]
      exact refused

end Mkk.Api
