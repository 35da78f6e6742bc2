import Mkk.Api.Central

/-!
# The schema sent to the provider

`_openai_output_schema` of `v2_central.py`: a strict JSON schema whose enumerations are
narrowed to one request. What a schema-conforming output may contain differs for evidence
windows, for the source-AOI timeline and for a timeline without gaze. Outside the source-AOI
mode whatever the gate accepts also conforms.
-/

namespace Mkk.Api

open Lib

/-- The enumerations that depend on the kind of the request. -/
structure SchemaEnums where
  referenceKind : RefKind
  referenceIds : List String
  reasonCodeEnum : List ReasonCode
  evidenceCodeEnum : List EvidenceCode
  deriving DecidableEq

/-- Variant C cites windows and may claim anything. -/
def windowEnums (windows : List EvidenceWindowV2) : SchemaEnums where
  referenceKind := .window
  referenceIds := windows.map (·.windowId)
  reasonCodeEnum := [.observedAttentionLead, .returnCandidateSupport, .movementPatternSupport,
    .observableActionSupport, .catalogTagAlignment, .sufficientDataQuality]
  evidenceCodeEnum := [.observedAttention, .returnCandidate, .gazeMovement, .faceActionChange,
    .productTagMatch, .dataQuality]

/-- The source-AOI timeline cites grounded frames and claims no face action. -/
def sourceEnums (evidence : SourceVisualEvidenceV1) (frames : List FrameObservationV2) :
    SchemaEnums where
  referenceKind := .frame
  referenceIds := sortedSet (evidence.groundedFrameIds.filter (· ∈ frames.map (·.frameId)))
  reasonCodeEnum := [.observedAttentionLead, .returnCandidateSupport, .movementPatternSupport,
    .catalogTagAlignment, .sufficientDataQuality]
  evidenceCodeEnum := [.observedAttention, .returnCandidate, .gazeMovement, .productTagMatch,
    .dataQuality]

/-- A timeline without gaze supports the catalog only. -/
def lowSignalEnums (frames : List FrameObservationV2) : SchemaEnums where
  referenceKind := .frame
  referenceIds := frames.map (·.frameId)
  reasonCodeEnum := [.catalogTagAlignment]
  evidenceCodeEnum := [.productTagMatch, .dataQuality]

/-- The source-AOI branch of the schema builder. -/
def buildSourceEnums (request : CentralRecommendationRequestV2)
    (payload : Payload SourceVisualEvidenceV1) (items : List (Payload ProductMatchingItemV1)) :
    Except CentralModelError SchemaEnums := do
  let windows := request.evidence.evidenceWindows.getD []
  let frames := request.evidence.timeline.getD []
  let _ ← ensure (frames ≠ [] ∧ windows = [])
    (invalidOutput "source-AOI variant B requires a derived timeline only")
  let evidence ← payload.read
  let matching ← items.mapM Payload.read
  let _ ← ensure (sortedSet (matching.map (·.productId)) = sortedSet (request.products.map (·.productId)))
    (catalogMismatch "matching profiles differ from the canonical catalog")
  let _ ← ensure ((sourceEnums evidence frames).referenceIds ≠ [])
    (invalidOutput "source-AOI evidence has no grounded timeline frame")
  return sourceEnums evidence frames

/-- The enumerations of a request's kind. -/
def buildEnums (request : CentralRecommendationRequestV2) : Except CentralModelError SchemaEnums :=
  let windows := request.evidence.evidenceWindows.getD []
  let frames := request.evidence.timeline.getD []
  match request.evidence.inputVariant, request.sourceVisualEvidence, request.matchingProducts with
  | .c, _, _ =>
    if windows = [] ∨ frames ≠ [] then
      .error (invalidOutput "variant C requires evidence windows only")
    else .ok (windowEnums windows)
  | .b, some payload, some items => buildSourceEnums request payload items
  | .b, _, _ =>
    if request.evidence.dataQuality.gazeValidRatio = 0 then
      if frames = [] ∨ windows ≠ [] then
        .error (invalidOutput "variant B requires a derived timeline only")
      else .ok (lowSignalEnums frames)
    else .error (invalidOutput "Luna production input must be variant B or C")
  | .a, _, _ => .error (invalidOutput "Luna production input must be variant B or C")

/-- The enumerations of the schema; all tendency codes are always allowed. -/
structure OutputSchema extends SchemaEnums where
  productIds : List String
  tags : List ControlledTag
  deriving DecidableEq

/-- `_openai_output_schema` -/
def openaiOutputSchema (request : CentralRecommendationRequestV2) :
    Except CentralModelError OutputSchema := do
  let _ ← ensure (request.products.length = 10 ∧ (request.products.map (·.productId)).Nodup)
    (catalogMismatch "central model catalog must contain exactly ten products")
  let enums ← buildEnums request
  return {
    toSchemaEnums := enums
    productIds := request.products.map (·.productId)
    tags := sortedSet (request.products.flatMap (·.controlledTags)) }

/-- The output lies in the schema's enumerations. -/
structure Conforms (schema : OutputSchema) (output : CentralRecommendationOutputV2) : Prop where
  product : output.productId ∈ schema.productIds
  reasonCodes : ∀ c ∈ output.reasonCodes, c ∈ schema.reasonCodeEnum
  evidenceCodes : ∀ i ∈ output.evidence, i.code ∈ schema.evidenceCodeEnum
  evidenceProducts : ∀ i ∈ output.evidence, i.productId ∈ schema.productIds
  refKinds : ∀ i ∈ output.evidence, ∀ r ∈ i.evidenceRefs, r.kind = schema.referenceKind
  refIds : ∀ i ∈ output.evidence, ∀ r ∈ i.evidenceRefs, r.refId ∈ schema.referenceIds
  tags : ∀ t ∈ output.style.matchedTags, t ∈ schema.tags

section Schema

variable {casefold : Casefold} {request : CentralRecommendationRequestV2}
  {output : CentralRecommendationOutputV2} {schema : OutputSchema}

/-- The three kinds of requests that have a schema. -/
inductive EnumsOf (request : CentralRecommendationRequestV2) : SchemaEnums → Prop where
  | windows (variant : request.evidence.inputVariant = .c) :
      EnumsOf request (windowEnums (request.evidence.evidenceWindows.getD []))
  | source (evidence : SourceVisualEvidenceV1) (variant : request.evidence.inputVariant = .b)
      (payload : request.sourceVisualEvidence = some (.readable evidence)) :
      EnumsOf request (sourceEnums evidence (request.evidence.timeline.getD []))
  | lowSignal (variant : request.evidence.inputVariant = .b)
      (ratio : request.evidence.dataQuality.gazeValidRatio = 0) :
      EnumsOf request (lowSignalEnums (request.evidence.timeline.getD []))

theorem buildEnums_cases {enums : SchemaEnums} (h : buildEnums request = .ok enums) :
    EnumsOf request enums := by
  unfold buildEnums at h
  dsimp only at h
  split at h
  · rename_i variant
    split at h <;> cases h
    exact .windows variant
  · rename_i payload items variant hsource _
    unfold buildSourceEnums at h
    simp only [bind_eq_ok_iff, ensure_eq_ok_iff, Payload.read_eq_ok_iff] at h
    obtain ⟨-, -, evidence, rfl, matching, -, -, -, -, -, h⟩ := h
    cases h
    exact .source evidence variant hsource
  · rename_i variant _
    split at h
    · rename_i ratio
      split at h <;> cases h
      exact .lowSignal variant ratio
    · cases h
  · cases h

/-- A schema's product ids and tags are those of the request's catalog. -/
theorem openaiOutputSchema_ok (h : openaiOutputSchema request = .ok schema) :
    EnumsOf request schema.toSchemaEnums ∧ schema.productIds = request.products.map (·.productId) ∧
      schema.tags = sortedSet (request.products.flatMap (·.controlledTags)) := by
  unfold openaiOutputSchema at h
  simp only [bind_eq_ok_iff, ensure_eq_ok_iff] at h
  obtain ⟨-, -, enums, henums, h⟩ := h
  cases h
  exact ⟨buildEnums_cases henums, rfl, rfl⟩

/-- Every reason code and every evidence code is allowed for windows. -/
theorem windowEnums_all (windows : List EvidenceWindowV2) :
    (∀ c, c ∈ (windowEnums windows).reasonCodeEnum) ∧
      ∀ c, c ∈ (windowEnums windows).evidenceCodeEnum := by
  constructor
  · intro c; cases c <;> simp [windowEnums]
  · intro c; cases c <;> simp [windowEnums]

/-- **Outside the source-AOI mode** an accepted output conforms to the schema. -/
theorem conforms_of_accepts (hschema : openaiOutputSchema request = .ok schema)
    (hsource : request.sourceVisualEvidence = none) (h : Accepts casefold request output) :
    Conforms schema output := by
  obtain ⟨enums, productIds, tags⟩ := openaiOutputSchema_ok hschema
  obtain ⟨profile, hprofile, -, htags⟩ := h.profile
  obtain ⟨mem, own⟩ := get?_indexBy hprofile
  obtain ⟨source, mode, grounded⟩ := h.grounded
  have product : output.productId ∈ schema.productIds := by
    rw [productIds, ← own]
    exact List.mem_map_of_mem mem
  rw [ModeAccepts, hsource] at mode
  obtain ⟨rfl, mode⟩ := mode
  have codes : (∀ c ∈ output.reasonCodes, c ∈ schema.reasonCodeEnum) ∧
      ∀ i ∈ output.evidence, i.code ∈ schema.evidenceCodeEnum := by
    generalize schema.toSchemaEnums = e at enums
    cases enums with
    | windows variant =>
      exact ⟨fun c _ => (windowEnums_all _).1 c, fun i _ => (windowEnums_all _).2 i.code⟩
    | source evidence variant payload =>
      rw [hsource] at payload
      cases payload
    | lowSignal variant ratio =>
      -- the gate's own lists of allowed codes are the enumerations
      rw [if_pos ⟨hsource, variant, ratio⟩] at mode
      refine ⟨fun c hc => ?_, fun i hi => ?_⟩
      · simpa [lowSignalEnums] using mode.onlyCatalog c hc
      · simpa [lowSignalEnums, or_comm] using mode.onlyQuality i hi
  have refs : ∀ i ∈ output.evidence, ∀ r ∈ i.evidenceRefs,
      r.kind = schema.referenceKind ∧ r.refId ∈ schema.referenceIds := by
    intro i hi r hr
    have ground := grounded i hi r hr
    simp only [RefGrounded] at ground
    generalize schema.toSchemaEnums = e at enums
    cases enums with
    | windows variant =>
      rw [variant, if_neg (by decide)] at ground
      obtain ⟨kind, window, hwindow, -⟩ := ground
      obtain ⟨hmem, hkey⟩ := get?_indexBy hwindow
      exact ⟨kind, hkey ▸ List.mem_map_of_mem hmem⟩
    | source evidence variant payload =>
      rw [hsource] at payload
      cases payload
    | lowSignal variant ratio =>
      rw [if_pos variant] at ground
      obtain ⟨kind, frame, hframe, -⟩ := ground
      obtain ⟨hmem, hkey⟩ := get?_indexBy hframe
      exact ⟨kind, hkey ▸ List.mem_map_of_mem hmem⟩
  exact {
    product := product
    reasonCodes := codes.1
    evidenceCodes := codes.2
    evidenceProducts := fun i hi => by rw [h.ownProduct i hi]; exact product
    refKinds := fun i hi r hr => (refs i hi r hr).1
    refIds := fun i hi r hr => (refs i hi r hr).2
    tags := fun t ht => by
      rw [tags, mem_sortedSet]
      exact List.mem_flatMap.2 ⟨profile, mem, htags t ht⟩ }

end Schema

end Mkk.Api
