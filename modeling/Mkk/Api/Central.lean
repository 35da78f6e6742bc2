import Mkk.Api.Decision

/-!
# The gate on the central model's output

`validate_central_output` of `v2_central.py`: the output's schema, the grounding rules of
the three modes (source AOI, low signal, standard), the text filter, and one rule for each
evidence reference. `validateCentralOutput_ok_iff` says what an accepted output is.
-/

namespace Mkk.Api

open Lib

/-- `CentralModelError`: its reason code and sanitized message. -/
structure CentralModelError where
  reasonCode : String
  message : String
  deriving DecidableEq, Repr

/-- A JSON object as the dedicated model reads it. -/
inductive Payload (α : Type) where
  | readable (a : α)
  | malformed
  deriving DecidableEq

structure CentralRecommendationRequestV2 where
  decisionRequestId : String
  sessionId : String
  videoId : String
  promptVersion : String
  evidenceVersion : String
  evidence : RecommendationEvidenceV2
  products : List ProductRecommendationItemV2
  sourceVisualEvidence : Option (Payload SourceVisualEvidenceV1)
  matchingProducts : Option (List (Payload ProductMatchingItemV1))
  deriving DecidableEq

@[mk_iff] structure CentralRecommendationRequestV2.Valid (r : CentralRecommendationRequestV2) :
    Prop where
  decisionRequestId : isIdentifier r.decisionRequestId = true
  sessionId : isIdentifier r.sessionId = true
  videoId : isIdentifier r.videoId = true
  promptVersion : isRevision r.promptVersion = true
  evidenceVersion : isRevision r.evidenceVersion = true
  products : LengthWithin 1 10 r.products
  matchingProducts : ∀ m ∈ r.matchingProducts, LengthWithin 10 10 m
  jointPresence : r.sourceVisualEvidence.isNone = r.matchingProducts.isNone

instance (r : CentralRecommendationRequestV2) : Decidable r.Valid :=
  decidable_of_iff _ (CentralRecommendationRequestV2.valid_iff r).symm

instance : ContractModel CentralRecommendationRequestV2 where
  modelName := "CentralRecommendationRequestV2"
  FieldsValid := CentralRecommendationRequestV2.Valid
  decidable := inferInstance

/-! ## The untrusted output -/

/-- What a client returns: no mapping at all, a mapping that lacks the output's shape, or one
with its keys, types and literals, whose limits are still unchecked. -/
inductive RawOutput where
  | notMapping
  | wrongShape
  | shaped (output : CentralRecommendationOutputV2)
  deriving DecidableEq

/-- ASCII other than capital letters, and Hangul syllables. -/
def isCaseless (c : Char) : Bool :=
  (decide (c.toNat < 128) && !c.isUpper) || (decide (0xAC00 ≤ c.toNat) && decide (c.toNat ≤ 0xD7A3))

/-- `str.casefold`: caseless and lower-case text is left alone. -/
structure Casefold where
  fold : String → String
  fold_caseless : ∀ s, s.toList.all isCaseless = true → fold s = s

/-- Folding of text that is folded already. -/
def foldedText : Casefold := ⟨id, fun _ _ => rfl⟩

/-- `_DIAGNOSIS_TERMS` -/
def diagnosisTerms : List String :=
  ["성격", "심리", "감정", "우울", "불안", "충동", "내향", "외향", "구매 의도", "personality", "psycholog",
   "emotion", "depress", "anxious", "anxiety", "introvert", "extrovert", "purchase intent",
   "행복", "슬픔", "슬퍼", "분노", "화가 났", "스트레스", "호감", "좋아한다", "좋아하", "싫어하",
   "구매할 의향", "구매하려", "구매하고 싶", "살 의향", "사고 싶", "is happy", "feels happy", "is sad",
   "feels sad", "is angry", "feels angry", "is stressed", "feels stressed", "likes this product",
   "wants to buy", "will purchase"]

/-- `combined_text` before it is folded. -/
def combinedText (output : CentralRecommendationOutputV2) : String :=
  String.intercalate " "
    ([output.reason, output.style.summary] ++ output.evidence.map (·.statement))

/-- `any(term.casefold() in combined_text for term in _DIAGNOSIS_TERMS)` -/
def diagnoses (casefold : Casefold) (output : CentralRecommendationOutputV2) : Bool :=
  diagnosisTerms.any fun term =>
    decide ((casefold.fold term).toList <:+: (casefold.fold (combinedText output)).toList)

/-! ## The gate -/

/-- Raise the error unless the condition holds. -/
def ensure (condition : Prop) [Decidable condition] (e : CentralModelError) :
    Except CentralModelError Unit :=
  if condition then .ok () else .error e

def invalidOutput (message : String) : CentralModelError := ⟨"invalid_model_output", message⟩

def catalogMismatch (message : String) : CentralModelError := ⟨"catalog_mismatch", message⟩

/-- Reading the raw output as `CentralRecommendationOutputV2`. -/
def RawOutput.read : RawOutput → Except CentralModelError CentralRecommendationOutputV2
  | .notMapping => .error (invalidOutput "central model output must be a JSON object")
  | .wrongShape => .error (invalidOutput "central model output violated its schema")
  | .shaped output =>
    if output.Valid then .ok output
    else .error (invalidOutput "central model output violated its schema")

/-- `{item.id: item for item in items}`: the last item of an id counts. -/
def indexBy {α : Type} (id : α → String) (items : List α) : Dict String α :=
  Dict.accumulate id (fun _ item => item) items

theorem get?_indexBy {α : Type} {id : α → String} {items : List α} {k : String} {a : α}
    (h : (indexBy id items).get? k = some a) : a ∈ items ∧ id a = k := by
  obtain ⟨b, hb, hk, -, rfl⟩ := Dict.accumulate_eq_some _ _ h
  exact ⟨hb, hk⟩

/-- The indexed items are those found under their own id. -/
theorem mem_values_indexBy {α : Type} {id : α → String} {items : List α} {a : α} :
    a ∈ (indexBy id items).values ↔ (indexBy id items).get? (id a) = some a := by
  rw [Dict.mem_values_iff]
  constructor
  · rintro ⟨k, hk⟩
    rwa [(get?_indexBy hk).2]
  · exact fun h => ⟨_, h⟩

/-- Reading one payload. -/
def Payload.read {α : Type} : Payload α → Except CentralModelError α
  | .readable a => .ok a
  | .malformed => .error (invalidOutput "source matching input violated its schema")

/-- The source-AOI mode: the selected product shares features with what was observed. -/
def checkSource (request : CentralRecommendationRequestV2) (output : CentralRecommendationOutputV2)
    (payload : Payload SourceVisualEvidenceV1) : Except CentralModelError SourceVisualEvidenceV1 := do
  let evidence ← payload.read
  let matching ← (request.matchingProducts.getD []).mapM Payload.read
  let _ ← ensure (sortedSet (matching.map (·.productId)) = sortedSet (request.products.map (·.productId)))
    (catalogMismatch "matching profiles differ from the canonical catalog")
  match (indexBy (·.productId) matching).get? output.productId with
  | none => .error (catalogMismatch "selected product has no matching profile")
  | some selected =>
    let score := productFeatureMatchScore selected evidence
    let _ ← ensure (0 < score.1 ∧ score.2 ≠ [])
      (invalidOutput "central model selected a product without grounded feature overlap")
    let _ ← ensure (.observedAttentionLead ∈ output.reasonCodes ∧
        .catalogTagAlignment ∈ output.reasonCodes)
      (invalidOutput "source-AOI recommendation requires attention and catalog grounding")
    let _ ← ensure (.observedAttention ∈ output.evidence.map (·.code) ∧
        .productTagMatch ∈ output.evidence.map (·.code))
      (invalidOutput "source-AOI recommendation requires observation and product-match evidence")
    return evidence

/-- The request's low-signal mode: variant B without any valid gaze. -/
def CentralRecommendationRequestV2.lowSignal (request : CentralRecommendationRequestV2) : Prop :=
  request.sourceVisualEvidence = none ∧ request.evidence.inputVariant = .b ∧
    request.evidence.dataQuality.gazeValidRatio = 0

instance (request : CentralRecommendationRequestV2) : Decidable request.lowSignal :=
  inferInstanceAs (Decidable (_ ∧ _ ∧ _))

/-- The low-signal mode: only the catalog may be cited. -/
def checkLowSignal (request : CentralRecommendationRequestV2)
    (output : CentralRecommendationOutputV2) : Except CentralModelError Unit := do
  let _ ← ensure (request.evidence.timeline.getD [] ≠ [])
    (invalidOutput "low-signal recommendation requires a real derived timeline")
  let _ ← ensure (.catalogTagAlignment ∈ output.reasonCodes)
    (invalidOutput "low-signal recommendation requires catalog grounding")
  let _ ← ensure (.dataQuality ∈ output.evidence.map (·.code))
    (invalidOutput "low-signal recommendation requires data-quality evidence")
  ensure ((∀ c ∈ output.reasonCodes, c = .catalogTagAlignment) ∧
      ∀ i ∈ output.evidence, i.code ∈ [.dataQuality, .productTagMatch])
    (invalidOutput "low-signal recommendation claimed unavailable observations")

/-- The products with valid gaze. -/
def CentralRecommendationRequestV2.eligibleProductIds (request : CentralRecommendationRequestV2) :
    List String :=
  (request.evidence.summary.filter fun item =>
    item.gaze.any fun g => decide (0 < g.validObservationCount)).map (·.productId)

/-- The standard mode: the selected product was looked at. -/
def checkStandard (request : CentralRecommendationRequestV2)
    (output : CentralRecommendationOutputV2) : Except CentralModelError Unit :=
  ensure (output.productId ∈ request.eligibleProductIds)
    (invalidOutput "central model selected a product without observation evidence")

/-- The mode's rule; the source evidence is kept for the references. -/
def checkMode (request : CentralRecommendationRequestV2) (output : CentralRecommendationOutputV2) :
    Except CentralModelError (Option SourceVisualEvidenceV1) :=
  match request.sourceVisualEvidence with
  | some payload => some <$> checkSource request output payload
  | none =>
    if request.lowSignal then do
      checkLowSignal request output
      return none
    else do
      checkStandard request output
      return none

/-- Whether a frame shows the product and nothing else. -/
def FrameObservationV2.showsOnly (frame : FrameObservationV2) (productId : String) : Bool :=
  match frame.attention with
  | none => false
  | some attention => match attention.candidates with
    | [candidate] => candidate.productId == productId
    | _ => false

/-- Whether a frame's derived signals contain what an evidence code speaks of. -/
def FrameObservationV2.contains (frame : FrameObservationV2) : EvidenceCode → Bool
  | .returnCandidate =>
    frame.derived.any fun d => d.gaze.any fun g => g.returnCandidate == some true
  | .gazeMovement => frame.derived.any fun d => d.gaze.any fun g => g.movement.isSome
  | .faceActionChange =>
    frame.derived.any fun d => d.expression.any fun e => e.scoreChanges.isSome
  | _ => true

/-- The window code that an evidence code requires. -/
def EvidenceCode.requiredInWindow : EvidenceCode → Bool
  | .observedAttention | .returnCandidate | .gazeMovement | .faceActionChange => true
  | _ => false

/-- One reference of one evidence item. -/
def checkRef (request : CentralRecommendationRequestV2) (source : Option SourceVisualEvidenceV1)
    (output : CentralRecommendationOutputV2) (item : DecisionEvidenceItemV2)
    (ref : EvidenceReferenceV2) : Except CentralModelError Unit :=
  match source with
  | some evidence =>
    ensure (ref.kind = .frame ∧ ref.refId ∈ evidence.groundedFrameIds)
      (invalidOutput "central model referenced an ungrounded source AOI frame")
  | none =>
    if request.evidence.inputVariant = .b then do
      let _ ← ensure (ref.kind = .frame)
        (invalidOutput "variant B requires frame evidence references")
      match (indexBy (·.frameId) (request.evidence.timeline.getD [])).get? ref.refId with
      | none => .error (invalidOutput "central model referenced an ungrounded frame")
      | some frame =>
        if request.evidence.dataQuality.gazeValidRatio = 0 ∧
            item.code ∈ [.dataQuality, .productTagMatch] then .ok ()
        else do
          let _ ← ensure (frame.showsOnly output.productId = true)
            (invalidOutput "central model referenced an ungrounded frame")
          ensure (frame.contains item.code = true) (invalidOutput
            (match item.code with
              | .returnCandidate => "frame did not contain return-candidate evidence"
              | .gazeMovement => "frame did not contain gaze-movement evidence"
              | _ => "frame did not contain face-action evidence"))
    else do
      let _ ← ensure (ref.kind = .window)
        (invalidOutput "variants A and C require window evidence references")
      match (indexBy (·.windowId) (request.evidence.evidenceWindows.getD [])).get? ref.refId with
      | none => .error (invalidOutput "central model referenced an unknown evidence window")
      | some window =>
        let _ ← ensure (window.productId = output.productId)
          (invalidOutput "central model referenced an unknown evidence window")
        ensure (item.code.requiredInWindow = true → item.code ∈ window.evidenceCodes)
          (invalidOutput "central model evidence code was not present in its window")

/-- `validate_central_output` -/
def validateCentralOutput (casefold : Casefold) (raw : RawOutput)
    (request : CentralRecommendationRequestV2) :
    Except CentralModelError CentralRecommendationOutputV2 := do
  let output ← raw.read
  match (indexBy (·.productId) request.products).get? output.productId with
  | none => .error (catalogMismatch "central model selected an unknown product")
  | some profile =>
    let source ← checkMode request output
    let _ ← ensure (diagnoses casefold output = false)
      (invalidOutput "central model output contained a psychological diagnosis")
    let _ ← ensure (output.style.matchedTags ≠ [] ∧
        ∀ t ∈ output.style.matchedTags, t ∈ profile.controlledTags)
      (invalidOutput "central model returned uncontrolled tags")
    let _ ← ensure (∀ i ∈ output.evidence, i.productId = output.productId)
      (invalidOutput "central model evidence referenced another product")
    let _ ← output.evidence.mapM fun item =>
      item.evidenceRefs.mapM fun ref => checkRef request source output item ref
    return output

/-! ## What is accepted -/

section Accepted

variable {casefold : Casefold} {raw : RawOutput} {request : CentralRecommendationRequestV2}
  {output : CentralRecommendationOutputV2}

theorem ensure_eq_ok_iff {condition : Prop} [Decidable condition] {e : CentralModelError} {u : Unit} :
    ensure condition e = .ok u ↔ condition := by
  unfold ensure
  split <;> rename_i h <;> simp [h]

/-- The rule of the source-AOI mode. -/
structure SourceAccepts (request : CentralRecommendationRequestV2)
    (output : CentralRecommendationOutputV2) (evidence : SourceVisualEvidenceV1) : Prop where
  product : ∃ matching selected, (request.matchingProducts.getD []).mapM Payload.read = .ok matching ∧
    sortedSet (matching.map (·.productId)) = sortedSet (request.products.map (·.productId)) ∧
    (indexBy (·.productId) matching).get? output.productId = some selected ∧
    0 < (productFeatureMatchScore selected evidence).1 ∧
    (productFeatureMatchScore selected evidence).2 ≠ []
  codes : .observedAttentionLead ∈ output.reasonCodes ∧ .catalogTagAlignment ∈ output.reasonCodes
  evidence : .observedAttention ∈ output.evidence.map (·.code) ∧
    .productTagMatch ∈ output.evidence.map (·.code)

/-- The rule of the low-signal mode. -/
structure LowSignalAccepts (request : CentralRecommendationRequestV2)
    (output : CentralRecommendationOutputV2) : Prop where
  timeline : request.evidence.timeline.getD [] ≠ []
  catalog : .catalogTagAlignment ∈ output.reasonCodes
  quality : .dataQuality ∈ output.evidence.map (·.code)
  onlyCatalog : ∀ c ∈ output.reasonCodes, c = .catalogTagAlignment
  onlyQuality : ∀ i ∈ output.evidence, i.code ∈ [.dataQuality, .productTagMatch]

/-- The rule of the mode the request is in, with the source evidence the references are held to. -/
def ModeAccepts (request : CentralRecommendationRequestV2) (output : CentralRecommendationOutputV2)
    (source : Option SourceVisualEvidenceV1) : Prop :=
  match request.sourceVisualEvidence with
  | some payload => ∃ evidence, payload = .readable evidence ∧ source = some evidence ∧
      SourceAccepts request output evidence
  | none => source = none ∧
      if request.lowSignal then LowSignalAccepts request output
      else output.productId ∈ request.eligibleProductIds

/-- A reference that is grounded in the request. -/
def RefGrounded (request : CentralRecommendationRequestV2) (source : Option SourceVisualEvidenceV1)
    (productId : String) (code : EvidenceCode) (ref : EvidenceReferenceV2) : Prop :=
  match source with
  | some evidence => ref.kind = .frame ∧ ref.refId ∈ evidence.groundedFrameIds
  | none =>
    if request.evidence.inputVariant = .b then
      ref.kind = .frame ∧ ∃ frame,
        (indexBy (·.frameId) (request.evidence.timeline.getD [])).get? ref.refId = some frame ∧
        ((request.evidence.dataQuality.gazeValidRatio = 0 ∧ code ∈ [.dataQuality, .productTagMatch]) ∨
          (frame.showsOnly productId = true ∧ frame.contains code = true))
    else
      ref.kind = .window ∧ ∃ window,
        (indexBy (·.windowId) (request.evidence.evidenceWindows.getD [])).get? ref.refId =
          some window ∧
        window.productId = productId ∧ (code.requiredInWindow = true → code ∈ window.evidenceCodes)

/-- An output the gate accepts. -/
structure Accepts (casefold : Casefold) (request : CentralRecommendationRequestV2)
    (output : CentralRecommendationOutputV2) : Prop where
  valid : output.Valid
  profile : ∃ profile, (indexBy (·.productId) request.products).get? output.productId = some profile ∧
    output.style.matchedTags ≠ [] ∧ ∀ t ∈ output.style.matchedTags, t ∈ profile.controlledTags
  undiagnosed : diagnoses casefold output = false
  ownProduct : ∀ i ∈ output.evidence, i.productId = output.productId
  grounded : ∃ source, ModeAccepts request output source ∧
    ∀ i ∈ output.evidence, ∀ r ∈ i.evidenceRefs, RefGrounded request source output.productId i.code r

theorem RawOutput.read_eq_ok_iff : raw.read = .ok output ↔ raw = .shaped output ∧ output.Valid := by
  unfold RawOutput.read
  cases raw with
  | notMapping => simp
  | wrongShape => simp
  | shaped o =>
    dsimp only
    split
    · rename_i h
      constructor
      · intro e; cases e; exact ⟨rfl, h⟩
      · rintro ⟨e, -⟩; cases e; rfl
    · rename_i h
      constructor
      · intro e; cases e
      · rintro ⟨e, h'⟩; cases e; exact (h h').elim

theorem Payload.read_eq_ok_iff {α : Type} {payload : Payload α} {a : α} :
    payload.read = .ok a ↔ payload = .readable a := by
  cases payload <;> simp [Payload.read]

theorem checkSource_eq_ok_iff {payload : Payload SourceVisualEvidenceV1}
    {evidence : SourceVisualEvidenceV1} :
    checkSource request output payload = .ok evidence ↔
      payload = .readable evidence ∧ SourceAccepts request output evidence := by
  unfold checkSource
  simp only [bind_eq_ok_iff, Payload.read_eq_ok_iff, ensure_eq_ok_iff]
  constructor
  · rintro ⟨e, rfl, matching, hm, -, hset, h⟩
    split at h
    · cases h
    · rename_i selected hs
      simp only [bind_eq_ok_iff, ensure_eq_ok_iff] at h
      obtain ⟨-, hscore, -, hcodes, -, hevidence, h⟩ := h
      cases h
      exact ⟨rfl, ⟨matching, selected, hm, hset, hs, hscore.1, hscore.2⟩, hcodes, hevidence⟩
  · rintro ⟨rfl, ⟨matching, selected, hm, hset, hs, hscore⟩, hcodes, hevidence⟩
    refine ⟨evidence, rfl, matching, hm, (), hset, ?_⟩
    rw [hs]
    simp only [bind_eq_ok_iff, ensure_eq_ok_iff]
    exact ⟨(), hscore, (), hcodes, (), hevidence, rfl⟩

theorem checkLowSignal_eq_ok_iff {u : Unit} :
    checkLowSignal request output = .ok u ↔ LowSignalAccepts request output := by
  unfold checkLowSignal
  simp only [bind_eq_ok_iff, ensure_eq_ok_iff]
  constructor
  · rintro ⟨-, h₁, -, h₂, -, h₃, h₄, h₅⟩
    exact ⟨h₁, h₂, h₃, h₄, h₅⟩
  · rintro ⟨h₁, h₂, h₃, h₄, h₅⟩
    exact ⟨(), h₁, (), h₂, (), h₃, h₄, h₅⟩

theorem checkMode_eq_ok_iff {source : Option SourceVisualEvidenceV1} :
    checkMode request output = .ok source ↔ ModeAccepts request output source := by
  unfold checkMode ModeAccepts
  cases request.sourceVisualEvidence with
  | some payload =>
    dsimp only
    constructor
    · intro h
      cases hc : checkSource request output payload with
      | error e => rw [hc] at h; cases h
      | ok evidence =>
        rw [hc] at h
        cases h
        obtain ⟨rfl, accepts⟩ := checkSource_eq_ok_iff.1 hc
        exact ⟨evidence, rfl, rfl, accepts⟩
    · rintro ⟨evidence, rfl, rfl, accepts⟩
      rw [checkSource_eq_ok_iff.2 ⟨rfl, accepts⟩]
      rfl
  | none =>
    dsimp only
    split
    · simp only [bind_eq_ok_iff, checkLowSignal_eq_ok_iff]
      constructor
      · rintro ⟨-, h, e⟩; cases e; exact ⟨rfl, h⟩
      · rintro ⟨rfl, h⟩; exact ⟨(), h, rfl⟩
    · simp only [bind_eq_ok_iff, checkStandard, ensure_eq_ok_iff]
      constructor
      · rintro ⟨-, h, e⟩; cases e; exact ⟨rfl, h⟩
      · rintro ⟨rfl, h⟩; exact ⟨(), h, rfl⟩

theorem checkRef_isOk_iff {source : Option SourceVisualEvidenceV1} {item : DecisionEvidenceItemV2}
    {ref : EvidenceReferenceV2} :
    (checkRef request source output item ref).isOk = true ↔
      RefGrounded request source output.productId item.code ref := by
  rw [isOk_iff_exists]
  unfold checkRef RefGrounded
  cases source with
  | some evidence => simp [ensure_eq_ok_iff]
  | none =>
    dsimp only
    split
    · simp only [bind_eq_ok_iff, ensure_eq_ok_iff]
      cases (indexBy (·.frameId) (request.evidence.timeline.getD [])).get? ref.refId with
      | none => simp
      | some frame =>
        dsimp only
        split
        · rename_i h; simp [h]
        · rename_i h
          simp only [bind_eq_ok_iff, ensure_eq_ok_iff, h, false_or, Option.some.injEq,
            exists_eq_left', exists_const]
    · simp only [bind_eq_ok_iff, ensure_eq_ok_iff]
      cases (indexBy (·.windowId) (request.evidence.evidenceWindows.getD [])).get? ref.refId with
      | none => simp
      | some window => simp [bind_eq_ok_iff, ensure_eq_ok_iff]

/-- **The gate** accepts a raw output exactly when it is an output that keeps every rule. -/
theorem validateCentralOutput_ok_iff :
    validateCentralOutput casefold raw request = .ok output ↔
      raw = .shaped output ∧ Accepts casefold request output := by
  have refs (source : Option SourceVisualEvidenceV1) :
      (∃ u, (output.evidence.mapM fun item =>
          item.evidenceRefs.mapM fun ref => checkRef request source output item ref) = .ok u) ↔
        ∀ i ∈ output.evidence, ∀ r ∈ i.evidenceRefs,
          RefGrounded request source output.productId i.code r := by
    rw [← isOk_iff_exists, mapM_isOk_iff]
    simp only [mapM_isOk_iff, checkRef_isOk_iff]
  unfold validateCentralOutput
  rw [bind_eq_ok_iff]
  constructor
  · rintro ⟨o, ho, h⟩
    obtain ⟨rfl, valid⟩ := RawOutput.read_eq_ok_iff.1 ho
    split at h
    · cases h
    · rename_i profile hp
      simp only [bind_eq_ok_iff, checkMode_eq_ok_iff, ensure_eq_ok_iff] at h
      obtain ⟨source, hmode, -, hdiag, -, htags, -, hown, u, hrefs, h⟩ := h
      cases h
      exact ⟨rfl, valid, ⟨profile, hp, htags.1, htags.2⟩, hdiag, hown, source, hmode,
        (refs source).1 ⟨u, hrefs⟩⟩
  · rintro ⟨rfl, valid, ⟨profile, hp, htags⟩, hdiag, hown, source, hmode, hrefs⟩
    refine ⟨output, RawOutput.read_eq_ok_iff.2 ⟨rfl, valid⟩, ?_⟩
    obtain ⟨u, hu⟩ := (refs source).2 hrefs
    rw [hp]
    simp only [bind_eq_ok_iff, checkMode_eq_ok_iff, ensure_eq_ok_iff]
    exact ⟨source, hmode, (), hdiag, (), htags, (), hown, u, hu, rfl⟩

end Accepted

end Mkk.Api
