import Mkk.Api.FrameGrounding
import Mkk.Api.JobDecision
import Mkk.Api.CompletionLimits

/-!
# The deterministic stub

`DeterministicCentralStub` recommends the product that was looked at most, or the one that shares most with
the observed source AOIs, and cites the first frame or window of it. The gate looks the same references
up by its own indexes. For every job that `begin_completion` hands out the stub refuses or its output is
accepted, unless a later frame has the id of the frame it cites and does not show the product alone
(`stub_served`).
-/

namespace Mkk.Api

open Lib

/-! ## The stub -/

/-- The client `DeterministicCentralStub`. -/
def deterministicCentralStub : CentralRecommendationClient :=
  ⟨stubModelId, "test-only-v1", "test-only-prompt-v1"⟩

/-- The exploration tendency by the number of candidates. -/
def tendencyOf (count : ℕ) : ExplorationTendencyCode :=
  if count = 1 then .focusedSingleProduct
  else if count ≤ 3 then .comparativeExploration
  else .broadExploration

/-- `ranked`, the best match first. -/
def rankedMatches (matching : List ProductMatchingItemV1) (evidence : SourceVisualEvidenceV1) :
    List ProductMatchingItemV1 :=
  sortOn (fun product =>
    (toLex (-(productFeatureMatchScore product evidence).1, product.productId) : ℚ ×ₗ String)) matching

/-- `matched_tags`: the tags that were observed, else the first that the two catalogs share. -/
def matchedTags (profile : ProductRecommendationItemV2) (product : ProductMatchingItemV1)
    (matchedValues : List String) : List ControlledTag :=
  match profile.controlledTags.filter fun tag => tag.value ∈ matchedValues with
  | [] => (profile.controlledTags.filter fun tag => tag.value ∈ product.controlledTags).take 1
  | tags => tags

/-- What the stub returns for source evidence. -/
def sourceOutput (productId : String) (tags : List ControlledTag) (frameId : String) (sourceCount : ℕ) :
    CentralRecommendationOutputV2 where
  productId := productId
  reason := "승인된 source AOI에서 관찰된 시선 특징과 상품 정보를 함께 고려한 추천입니다."
  reasonCodes := [.observedAttentionLead, .catalogTagAlignment]
  evidence := [
    { code := .observedAttention
      productId := productId
      evidenceRefs := [⟨.frame, frameId⟩]
      statement := "승인된 source AOI 안에서 유효 시선 frame이 관찰됐습니다." },
    { code := .productTagMatch
      productId := productId
      evidenceRefs := [⟨.frame, frameId⟩]
      statement := "관찰된 source AOI의 시각 특징과 검수된 상품 태그가 일치했습니다." }]
  style := {
    matchedTags := tags
    summary := "세션에서 관찰된 시각 특징과 연결되는 검수된 상품 특성입니다." }
  explorationTendencyCode := tendencyOf sourceCount

/-- `recommend` of a request with source evidence. -/
def recommendSource (request : CentralRecommendationRequestV2)
    (payload : Payload SourceVisualEvidenceV1) : ModelReply :=
  match payload.read, (request.matchingProducts.getD []).mapM Payload.read with
  | .ok evidence, .ok matching =>
    match rankedMatches matching evidence with
    | [] => .refused (invalidOutput "test source input has no matching catalog product")
    | product :: _ =>
      let (score, matchedValues) := productFeatureMatchScore product evidence
      if score ≤ 0 then .refused (invalidOutput "test source input has no matching catalog product")
      else match request.products.find? fun item => item.productId = product.productId with
        | none => .crashed
        | some profile =>
          match matchedTags profile product matchedValues, sortedSet evidence.groundedFrameIds with
          | [], _ => .refused (invalidOutput "matching product has no grounded catalog tag")
          | _, [] => .crashed
          | tags, frameId :: _ =>
            .returned (.shaped (sourceOutput profile.productId tags frameId evidence.sourceAois.length))
  | _, _ => .refused (invalidOutput "test source input violated its schema")

/-- The summaries of the products with valid gaze. -/
def CentralRecommendationRequestV2.signals (request : CentralRecommendationRequestV2) :
    List ProductEvidenceSummaryV2 :=
  request.evidence.summary.filter fun item =>
    item.gaze.any fun g => decide (0 < g.validObservationCount)

/-- What the signals are sorted by. -/
def signalKey (item : ProductEvidenceSummaryV2) : ℤ ×ₗ ℚ ×ₗ ℤ ×ₗ String :=
  toLex (-((item.gaze.map (·.validObservationCount)).getD 0 : ℤ),
    toLex (-(item.gaze.map (·.observedAttentionMs)).getD 0,
      toLex (-((item.gaze.bind (·.returnCandidateCount)).getD 0 : ℤ), item.productId)))

/-- `evidence_ref`: the first frame that shows the product alone, or its first window. -/
def stubReference (request : CentralRecommendationRequestV2) (productId : String) :
    Except CentralModelError EvidenceReferenceV2 :=
  if request.evidence.inputVariant = .b then
    match (request.evidence.timeline.getD []).find? (·.showsOnly productId) with
    | none => .error (invalidOutput "test input has no grounded frame")
    | some frame => .ok ⟨.frame, frame.frameId⟩
  else
    match (request.evidence.evidenceWindows.getD []).find? (·.productId = productId) with
    | none => .error (invalidOutput "test input has no evidence window")
    | some window => .ok ⟨.window, window.windowId⟩

/-- What the stub returns for the product with the strongest signal. -/
def signalOutput (productId : String) (tag : ControlledTag) (reference : EvidenceReferenceV2)
    (eligibleCount : ℕ) : CentralRecommendationOutputV2 where
  productId := productId
  reason := "관찰된 시선 반응과 상품 정보를 함께 고려한 추천입니다."
  reasonCodes := [.observedAttentionLead, .catalogTagAlignment]
  evidence := [{
    code := .observedAttention
    productId := productId
    evidenceRefs := [reference]
    statement := "이 상품 영역에서 유효한 시선 반응이 관찰되었습니다." }]
  style := {
    matchedTags := [tag]
    summary := "관찰된 반응과 연결되는 상품 특성입니다." }
  explorationTendencyCode := tendencyOf eligibleCount

/-- `recommend` of any other request; `"observed"` is not a controlled tag. -/
def recommendSignal (request : CentralRecommendationRequestV2) : ModelReply :=
  match sortOn signalKey request.signals with
  | [] => .refused (invalidOutput "test input has no eligible product")
  | signal :: _ =>
    match request.products.find? fun item => item.productId = signal.productId with
    | none => .crashed
    | some profile =>
      match stubReference request signal.productId with
      | .error e => .refused e
      | .ok reference =>
        match profile.controlledTags with
        | [] => .returned .wrongShape
        | tag :: _ =>
          .returned (.shaped (signalOutput signal.productId tag reference request.signals.length))

/-- `DeterministicCentralStub.recommend`. -/
def recommend (request : CentralRecommendationRequestV2) : ModelReply :=
  match request.sourceVisualEvidence with
  | some payload => recommendSource request payload
  | none => recommendSignal request

/-! ## When the gate agrees -/

/-- The model refused, or the gate accepts what it returned. -/
def ModelReply.Served (casefold : Casefold) (request : CentralRecommendationRequestV2) : ModelReply → Prop
  | .returned raw => ∃ output, validateCentralOutput casefold raw request = .ok output
  | .refused _ => True
  | .crashed => False

/-- The product has a signal, and no other has a stronger one. -/
def CentralRecommendationRequestV2.Leads (request : CentralRecommendationRequestV2) (productId : String) :
    Prop :=
  ∃ item ∈ request.signals, item.productId = productId ∧
    ∀ other ∈ request.signals, signalKey item ≤ signalKey other

/-- In variant B, the first frame that shows the leading product alone shares its id with the frame the gate
finds, which does not. -/
structure Misled (request : CentralRecommendationRequestV2) : Prop where
  legacy : request.sourceVisualEvidence = none
  variant : request.evidence.inputVariant = .b
  shared : ∃ productId frame, request.Leads productId ∧
    (request.evidence.timeline.getD []).find? (·.showsOnly productId) = some frame ∧
    (groundingFrame (request.evidence.timeline.getD []) frame).showsOnly productId = false

/-- `str.casefold` lowers the capital letters of ASCII and leaves Hangul syllables alone. -/
def Casefold.LowersAscii (casefold : Casefold) : Prop :=
  ∀ s, s.toList.all (fun c => isCaseless c || c.isUpper) = true →
    casefold.fold s = String.ofList (s.toList.map Char.toLower)

/-- The matching catalog was loaded: its ids are distinct, and those of the catalog. -/
def SessionRecommendationContext.CatalogsMatch (context : SessionRecommendationContext) : Prop :=
  ∀ catalog ∈ context.matchingCatalog, (catalog.products.map (·.productId)).Nodup ∧
    ∀ id, id ∈ catalog.products.map (·.productId) ↔ id ∈ context.products.map (·.productId)

/-- What the source part of a job's request promises. -/
structure SourceRequest (request : CentralRecommendationRequestV2)
    (evidence : SourceVisualEvidenceV1) (matching : List ProductMatchingItemV1) : Prop where
  payload : request.sourceVisualEvidence = some (.readable evidence)
  products : request.matchingProducts = some (matching.map Payload.readable)
  unique : (matching.map (·.productId)).Nodup
  catalog : ∀ id, id ∈ matching.map (·.productId) ↔ id ∈ request.products.map (·.productId)
  grounded : evidence.groundedFrameIds ≠ []
  identifiers : ∀ id ∈ evidence.groundedFrameIds, isIdentifier id = true

/-- What the request of a job promises. -/
structure CentralRecommendationRequestV2.Regular (request : CentralRecommendationRequestV2) : Prop where
  products : (request.products.map (·.productId)).Nodup
  gaze : 0 < request.evidence.dataQuality.gazeValidRatio
  summary : ∀ item ∈ request.evidence.summary, item.productId ∈ request.products.map (·.productId)
  frames : ∀ frame ∈ request.evidence.timeline.getD [], isIdentifier frame.frameId = true
  windows : ∀ window ∈ request.evidence.evidenceWindows.getD [],
    isIdentifier window.windowId = true ∧ .observedAttention ∈ window.evidenceCodes
  windowIds : ((request.evidence.evidenceWindows.getD []).map (·.windowId)).Nodup
  source : request.sourceVisualEvidence.isSome = true →
    ∃ evidence matching, SourceRequest request evidence matching

/-! ## The texts -/

theorem toLower_caseless {c : Char} (caseless : isCaseless c = true) : c.toLower = c := by
  have small : ¬(c.val ≥ 'A'.val ∧ c.val ≤ 'Z'.val) := by
    intro capital
    rw [isCaseless, Bool.or_eq_true, Bool.and_eq_true, Bool.and_eq_true] at caseless
    rcases caseless with ⟨-, lower⟩ | ⟨hangul, -⟩
    · have capital' : c.isUpper = true := decide_eq_true capital
      rw [capital'] at lower
      cases lower
    · have above := of_decide_eq_true hangul
      have below : c.toNat ≤ 90 := UInt32.le_iff_toNat_le.1 capital.2
      omega
  rw [Char.toLower, dif_neg small]

section Texts

variable {casefold : Casefold} {output : CentralRecommendationOutputV2}

/-- Texts that are spelled out are spelled out with a separator between them. -/
theorem intercalate_spelled {separator text next : String} {rest : List String} {ls lt lr : List Char}
    (between : separator = String.ofList ls) (first : text = String.ofList lt)
    (others : separator.intercalate (next :: rest) = String.ofList lr) :
    separator.intercalate (text :: next :: rest) = String.ofList (lt ++ ls ++ lr) := by
  rw [String.intercalate_cons_cons, others, between, first, String.ofList_append, String.ofList_append]

/-- Text of ASCII and Hangul is diagnosed by its lowered letters. -/
theorem undiagnosed_of_lowered (lowers : casefold.LowersAscii) {spelled : List Char}
    (text : combinedText output = String.ofList spelled)
    (plain : spelled.all (fun c => isCaseless c || c.isUpper) = true)
    (foreign : diagnosisTerms.all (fun term => !decide (term.toList <:+: spelled.map Char.toLower)) = true) :
    diagnoses casefold output = false := by
  have caseless : diagnosisTerms.all (fun term => term.toList.all isCaseless) = true := by decide +kernel
  have letters : (combinedText output).toList = spelled := by rw [text, String.toList_ofList]
  unfold diagnoses
  rw [List.any_eq_false]
  intro term listed
  have own := List.all_eq_true.1 caseless term listed
  have absent := List.all_eq_true.1 foreign term listed
  rw [casefold.fold_caseless term own, lowers _ (by rw [letters]; exact plain), String.toList_ofList, letters]
  simpa using absent

theorem signalOutput_undiagnosed (lowers : casefold.LowersAscii) (productId : String)
    (tag : ControlledTag) (reference : EvidenceReferenceV2) (count : ℕ) :
    diagnoses casefold (signalOutput productId tag reference count) = false := by
  -- the texts are the reason, the summary and one statement
  refine undiagnosed_of_lowered lowers (intercalate_spelled rfl rfl (intercalate_spelled rfl rfl
    (String.intercalate_singleton.trans rfl))) ?_ ?_
  · decide +kernel
  · decide +kernel

theorem sourceOutput_undiagnosed (lowers : casefold.LowersAscii) (productId : String)
    (tags : List ControlledTag) (frameId : String) (count : ℕ) :
    diagnoses casefold (sourceOutput productId tags frameId count) = false := by
  refine undiagnosed_of_lowered lowers (intercalate_spelled rfl rfl (intercalate_spelled rfl rfl
    (intercalate_spelled rfl rfl (String.intercalate_singleton.trans rfl)))) ?_ ?_
  · decide +kernel
  · decide +kernel

end Texts

/-! ## The outputs are valid -/

section Valid

variable {productId : String} {count : ℕ}

theorem signalOutput_valid {tag : ControlledTag} {reference : EvidenceReferenceV2}
    (product : isIdentifier productId = true) (id : isIdentifier reference.refId = true) :
    (signalOutput productId tag reference count).Valid := by
  -- the texts and the counts are those of any other output of the stub
  have sample : (signalOutput "bag" .bold ⟨.frame, "frame"⟩ 0).Valid := by decide +kernel
  exact {
    productId := product
    reason := sample.reason
    codesBounded := sample.codesBounded
    codesUnique := sample.codesUnique
    evidenceBounded := sample.evidenceBounded
    evidence := by
      intro item listed
      obtain rfl := List.mem_singleton.1 listed
      have statement := (sample.evidence _ List.mem_cons_self).1.statement
      refine ⟨⟨product, ⟨le_rfl, by simp⟩, List.nodup_singleton _, statement⟩, ?_⟩
      simpa using id
    style := ⟨⟨le_rfl, by simp [signalOutput]⟩, List.nodup_singleton _, sample.style.summary⟩ }

theorem sourceOutput_valid {tags : List ControlledTag} {frameId : String}
    (product : isIdentifier productId = true) (id : isIdentifier frameId = true)
    (bounded : LengthWithin 1 8 tags) (unique : tags.Nodup) :
    (sourceOutput productId tags frameId count).Valid := by
  have sample : (sourceOutput "bag" [.bold] "frame" 0).Valid := by decide +kernel
  exact {
    productId := product
    reason := sample.reason
    codesBounded := sample.codesBounded
    codesUnique := sample.codesUnique
    evidenceBounded := sample.evidenceBounded
    evidence := by
      have observed := (sample.evidence _ List.mem_cons_self).1.statement
      have matched := (sample.evidence _ (List.mem_cons_of_mem _ List.mem_cons_self)).1.statement
      intro item listed
      simp only [sourceOutput, List.mem_cons, List.not_mem_nil, or_false] at listed
      rcases listed with rfl | rfl
      · exact ⟨⟨product, ⟨le_rfl, by simp⟩, List.nodup_singleton _, observed⟩, by simpa using id⟩
      · exact ⟨⟨product, ⟨le_rfl, by simp⟩, List.nodup_singleton _, matched⟩, by simpa using id⟩
    style := ⟨bounded, unique, sample.style.summary⟩ }

end Valid

/-! ## The tags -/

section Tags

variable {profile : ProductRecommendationItemV2} {product : ProductMatchingItemV1}
  {evidence : SourceVisualEvidenceV1} {values : List String}

theorem matchedTags_sublist : (matchedTags profile product values).Sublist profile.controlledTags := by
  unfold matchedTags
  split
  · exact (List.take_sublist _ _).trans List.filter_sublist
  · exact List.filter_sublist

/-- A matched value is one of the product's own. -/
theorem mem_matchedValues {v : String} (matched : v ∈ (productFeatureMatchScore product evidence).2) :
    v ∈ [product.recommendationProfile.colorPrimary, product.recommendationProfile.colorFamily.value,
        product.recommendationProfile.silhouette.value, product.recommendationProfile.categoryType.value] ∨
      v ∈ Pattern.all.map Pattern.value ∨ v ∈ BagAccessory.all.map BagAccessory.value := by
  unfold productFeatureMatchScore at matched
  rw [mem_sortedSet] at matched
  obtain ⟨hit, found, rfl⟩ := List.mem_map.1 matched
  obtain ⟨earned, listed, hit⟩ := List.mem_filterMap.1 found
  obtain ⟨_, -, rfl⟩ := Option.map_eq_some_iff.1 hit
  rcases List.mem_append.1 listed with category | accessory
  · rcases List.mem_append.1 (List.mem_filter.1 category).1 with single | pattern
    · left
      simp only [List.mem_cons, List.not_mem_nil, or_false] at single ⊢
      rcases single with rfl | rfl | rfl | rfl <;> simp
    · obtain ⟨p, -, rfl⟩ := List.mem_map.1 pattern
      exact .inr (.inl (List.mem_map_of_mem p.mem_all))
  · obtain ⟨a, -, rfl⟩ := List.mem_map.1 accessory
    exact .inr (.inr (List.mem_map_of_mem a.mem_all))

/-- Two controlled tags are spelled like a pattern or an accessory. -/
theorem tag_of_pattern_or_accessory {tag : ControlledTag} (h : tag.value ∈ Pattern.all.map Pattern.value ∨
    tag.value ∈ BagAccessory.all.map BagAccessory.value) : tag.value ∈ ["monogram", "top_handle"] := by
  revert h
  cases tag <;> decide

/-- **The matched tags** fit into the style of an output. -/
theorem length_matchedTags_le :
    (matchedTags profile product (productFeatureMatchScore product evidence).2).length ≤ 8 := by
  unfold matchedTags
  split
  · exact (List.length_take_le _ _).trans (by decide)
  · have distinct : ((profile.controlledTags.filter fun tag =>
        tag.value ∈ (productFeatureMatchScore product evidence).2).map ControlledTag.value).Nodup :=
      (profile.tagsUnique.filter _).map ControlledTag.value_injective
    have few : (profile.controlledTags.filter fun tag =>
          tag.value ∈ (productFeatureMatchScore product evidence).2).map ControlledTag.value ⊆
        [product.recommendationProfile.colorPrimary, product.recommendationProfile.colorFamily.value,
          product.recommendationProfile.silhouette.value,
          product.recommendationProfile.categoryType.value] ++ ["monogram", "top_handle"] := by
      intro v listed
      obtain ⟨tag, kept, rfl⟩ := List.mem_map.1 listed
      rcases mem_matchedValues (of_decide_eq_true (List.mem_filter.1 kept).2) with single | other
      · exact List.mem_append_left _ single
      · exact List.mem_append_right _ (tag_of_pattern_or_accessory other)
    have counted := (List.subperm_of_subset distinct few).length_le
    rw [List.length_map] at counted
    exact counted.trans (by simp)

/-- A product that scores has matched something. -/
theorem matchedValues_ne_nil (scores : 0 < (productFeatureMatchScore product evidence).1) :
    (productFeatureMatchScore product evidence).2 ≠ [] := by
  unfold productFeatureMatchScore at *
  dsimp only at *
  intro none
  rw [sortedSet_eq_nil, List.map_eq_nil_iff] at none
  rw [none] at scores
  exact lt_irrefl _ scores

end Tags

/-! ## What the stub refers to -/

section References

variable {casefold : Casefold} {request : CentralRecommendationRequestV2} {productId : String}

theorem head_sortOn {α β : Type} [LinearOrder β] {key : α → β} {l rest : List α} {a : α}
    (sorted : sortOn key l = a :: rest) : a ∈ l ∧ ∀ b ∈ l, key a ≤ key b := by
  have listed (b : α) : b ∈ l ↔ b ∈ a :: rest := by rw [← sorted, mem_sortOn]
  have ordered := pairwise_sortOn key l
  rw [sorted, List.pairwise_cons] at ordered
  refine ⟨(listed a).2 List.mem_cons_self, fun b member => ?_⟩
  rcases List.mem_cons.1 ((listed b).1 member) with rfl | later
  · exact le_rfl
  · exact ordered.1 b later

/-- Where the ids are distinct an item is found under its own. -/
theorem get?_indexBy_self {α : Type} {id : α → String} {items : List α} {a : α}
    (unique : (items.map id).Nodup) (member : a ∈ items) : (indexBy id items).get? (id a) = some a := by
  have listed : id a ∈ (indexBy id items).keys :=
    (Dict.mem_keys_accumulate _ _).2 (List.mem_map_of_mem member)
  obtain ⟨b, found⟩ := Dict.mem_keys_iff.1 listed
  obtain ⟨inside, same⟩ := get?_indexBy found
  rw [found, List.inj_on_of_nodup_map unique inside member same]

/-- The product of an id in the catalog is found by the stub and by the gate. -/
theorem exists_profile (unique : (request.products.map (·.productId)).Nodup)
    (listed : productId ∈ request.products.map (·.productId)) :
    ∃ profile, (request.products.find? fun item => item.productId = productId) = some profile ∧
      profile.productId = productId ∧
      (indexBy (·.productId) request.products).get? productId = some profile := by
  obtain ⟨item, member, same⟩ := List.mem_map.1 listed
  cases found : request.products.find? fun item => item.productId = productId with
  | none =>
    have absent := List.find?_eq_none.1 found item member
    exact absurd same (by simpa using absent)
  | some profile =>
    have own : profile.productId = productId := by simpa using List.find?_some found
    refine ⟨profile, rfl, own, ?_⟩
    rw [← own]
    exact get?_indexBy_self unique (List.mem_of_find?_eq_some found)

theorem leads_unique {a b : String} (ha : request.Leads a) (hb : request.Leads b) : a = b := by
  obtain ⟨item, listed, rfl, least⟩ := ha
  obtain ⟨other, listed', rfl, least'⟩ := hb
  have same := le_antisymm (least other listed') (least' item listed)
  unfold signalKey at same
  simp only [EmbeddingLike.apply_eq_iff_eq, Prod.mk.injEq] at same
  exact same.2.2.2

/-- The stub's reference is an identifier of the request. -/
theorem stubReference_identifier (regular : request.Regular) {reference : EvidenceReferenceV2}
    (chosen : stubReference request productId = .ok reference) : isIdentifier reference.refId = true := by
  unfold stubReference at chosen
  split_ifs at chosen
  · split at chosen
    · cases chosen
    · rename_i frame first
      cases chosen
      exact regular.frames frame (List.mem_of_find?_eq_some first)
  · split at chosen
    · cases chosen
    · rename_i window first
      cases chosen
      exact (regular.windows window (List.mem_of_find?_eq_some first)).1

/-- **The gate grounds the stub's reference** unless it finds another frame under the id. -/
theorem stubReference_grounded_iff (regular : request.Regular) {reference : EvidenceReferenceV2}
    (chosen : stubReference request productId = .ok reference) :
    RefGrounded request none productId .observedAttention reference ↔
      ∀ frame, request.evidence.inputVariant = .b →
        (request.evidence.timeline.getD []).find? (·.showsOnly productId) = some frame →
        (groundingFrame (request.evidence.timeline.getD []) frame).showsOnly productId = true := by
  unfold stubReference at chosen
  split_ifs at chosen with variant
  · split at chosen
    · cases chosen
    · rename_i frame first
      cases chosen
      rw [← frameRef, refGrounded_frame_iff variant (List.mem_of_find?_eq_some first), ← showsOnly_iff]
      constructor
      · intro shows other _ again
        rw [first] at again
        cases again
        exact shows
      · exact fun agreed => agreed frame variant first
  · split at chosen
    · cases chosen
    · rename_i window first
      cases chosen
      have member := List.mem_of_find?_eq_some first
      have own : window.productId = productId := by simpa using List.find?_some first
      constructor
      · exact fun _ _ b => absurd b variant
      · intro _
        unfold RefGrounded
        dsimp only
        rw [if_neg variant]
        exact ⟨rfl, window, get?_indexBy_self regular.windowIds member, own,
          fun _ => (regular.windows window member).2⟩

end References

/-! ## The verdict on the stub -/

section Verdict

variable {casefold : Casefold} {request : CentralRecommendationRequestV2} {productId : String}

/-- An output for the leading product is accepted when its reference is grounded. -/
theorem signalOutput_accepted_iff (lowers : casefold.LowersAscii) (regular : request.Regular)
    (legacy : request.sourceVisualEvidence = none) (leads : request.Leads productId)
    {profile : ProductRecommendationItemV2}
    (found : (indexBy (·.productId) request.products).get? productId = some profile)
    {tag : ControlledTag} (controlled : tag ∈ profile.controlledTags) {reference : EvidenceReferenceV2}
    (id : isIdentifier reference.refId = true) (count : ℕ) :
    (∃ output, validateCentralOutput casefold
        (.shaped (signalOutput productId tag reference count)) request = .ok output) ↔
      RefGrounded request none productId .observedAttention reference := by
  constructor
  · rintro ⟨output, accepted⟩
    obtain ⟨same, accepts⟩ := validateCentralOutput_ok_iff.1 accepted
    cases same
    obtain ⟨source, mode, grounded⟩ := accepts.grounded
    unfold ModeAccepts at mode
    rw [legacy] at mode
    obtain ⟨rfl, -⟩ := mode
    exact grounded _ List.mem_cons_self _ List.mem_cons_self
  · intro grounded
    obtain ⟨listed, own⟩ := get?_indexBy found
    have product : isIdentifier productId = true := by rw [← own]; exact profile.productIdOk
    have notLow : ¬request.lowSignal := fun low => regular.gaze.ne' low.2.2
    refine ⟨_, validateCentralOutput_ok_iff.2 ⟨rfl, {
      valid := signalOutput_valid product id
      profile := ⟨profile, found, List.cons_ne_nil _ _, ?_⟩
      undiagnosed := signalOutput_undiagnosed lowers _ _ _ _
      ownProduct := ?_
      grounded := ⟨none, ?_, ?_⟩ }⟩⟩
    · intro t listed
      obtain rfl := List.mem_singleton.1 listed
      exact controlled
    · intro item listed
      obtain rfl := List.mem_singleton.1 listed
      rfl
    · unfold ModeAccepts
      rw [legacy]
      refine ⟨rfl, ?_⟩
      rw [if_neg notLow]
      obtain ⟨item, member, rfl, -⟩ := leads
      exact List.mem_map_of_mem member
    · intro item listed ref cited
      obtain rfl := List.mem_singleton.1 listed
      obtain rfl := List.mem_singleton.1 cited
      exact grounded

/-- The reply of the stub when a product leads. -/
theorem recommendSignal_of_leads (regular : request.Regular) (leads : request.Leads productId) :
    ∃ profile tag, (indexBy (·.productId) request.products).get? productId = some profile ∧
      tag ∈ profile.controlledTags ∧
      recommendSignal request = match stubReference request productId with
        | .error e => .refused e
        | .ok reference =>
          .returned (.shaped (signalOutput productId tag reference request.signals.length)) := by
  have known : productId ∈ request.products.map (·.productId) := by
    obtain ⟨item, member, rfl, -⟩ := leads
    exact regular.summary item (List.mem_filter.1 member).1
  obtain ⟨profile, chosen, -, found⟩ := exists_profile regular.products known
  cases tags : profile.controlledTags with
  | nil =>
    have enough := profile.tagsBounded.1
    rw [tags] at enough
    cases enough
  | cons tag rest =>
    refine ⟨profile, tag, found, by rw [tags]; exact List.mem_cons_self, ?_⟩
    unfold recommendSignal
    split
    · rename_i none
      obtain ⟨item, member, -⟩ := leads
      rw [sortOn_eq_nil.1 none] at member
      cases member
    · rename_i signal others sorted
      obtain ⟨member, least⟩ := head_sortOn sorted
      obtain rfl : signal.productId = productId := leads_unique ⟨signal, member, rfl, least⟩ leads
      rw [chosen]
      dsimp only
      cases stubReference request signal.productId with
      | error e => rfl
      | ok reference => dsimp only; rw [tags]

theorem recommendSignal_served_iff (lowers : casefold.LowersAscii) (regular : request.Regular)
    (legacy : request.sourceVisualEvidence = none) :
    (recommendSignal request).Served casefold request ↔ ¬Misled request := by
  by_cases leading : ∃ productId, request.Leads productId
  · obtain ⟨productId, leads⟩ := leading
    obtain ⟨profile, tag, found, controlled, replied⟩ := recommendSignal_of_leads regular leads
    rw [replied]
    cases chosen : stubReference request productId with
    | error e =>
      refine ⟨fun _ misled => ?_, fun _ => trivial⟩
      obtain ⟨other, frame, leads', first, -⟩ := misled.shared
      obtain rfl := leads_unique leads leads'
      rw [stubReference, if_pos misled.variant, first] at chosen
      cases chosen
    | ok reference =>
      rw [ModelReply.Served, signalOutput_accepted_iff lowers regular legacy leads found controlled
        (stubReference_identifier regular chosen), stubReference_grounded_iff regular chosen]
      constructor
      · intro agreed misled
        obtain ⟨other, frame, leads', first, hidden⟩ := misled.shared
        obtain rfl := leads_unique leads leads'
        rw [agreed frame misled.variant first] at hidden
        cases hidden
      · intro fair frame variant first
        by_contra hidden
        exact fair ⟨legacy, variant, productId, frame, leads, first, Bool.eq_false_iff.2 hidden⟩
  · refine ⟨fun _ misled => ?_, fun _ => ?_⟩
    · obtain ⟨productId, frame, leads, -⟩ := misled.shared
      exact leading ⟨productId, leads⟩
    · unfold recommendSignal
      split
      · trivial
      · rename_i signal others sorted
        obtain ⟨member, least⟩ := head_sortOn sorted
        exact absurd ⟨signal.productId, signal, member, rfl, least⟩ leading

theorem SourceRequest.read {evidence : SourceVisualEvidenceV1} {matching : List ProductMatchingItemV1}
    (source : SourceRequest request evidence matching) :
    (request.matchingProducts.getD []).mapM Payload.read = .ok matching := by
  rw [source.products, Option.getD_some, List.mapM_map]
  exact (mapM_eq_ok fun _ _ => rfl).trans (by rw [List.map_id'])

/-- An output for source evidence is accepted. -/
theorem sourceOutput_accepted (lowers : casefold.LowersAscii) {evidence : SourceVisualEvidenceV1}
    {matching : List ProductMatchingItemV1} (source : SourceRequest request evidence matching)
    {product : ProductMatchingItemV1} (listed : product ∈ matching)
    (scores : 0 < (productFeatureMatchScore product evidence).1)
    {profile : ProductRecommendationItemV2} (own : profile.productId = product.productId)
    (found : (indexBy (·.productId) request.products).get? product.productId = some profile)
    (tagged : matchedTags profile product (productFeatureMatchScore product evidence).2 ≠ [])
    {frameId : String} (grounded : frameId ∈ evidence.groundedFrameIds) (count : ℕ) :
    ∃ output, validateCentralOutput casefold (.shaped (sourceOutput profile.productId
      (matchedTags profile product (productFeatureMatchScore product evidence).2) frameId count)) request =
        .ok output := by
  refine ⟨_, validateCentralOutput_ok_iff.2 ⟨rfl, {
    valid := sourceOutput_valid profile.productIdOk (source.identifiers _ grounded)
      ⟨List.length_pos_iff.2 tagged, length_matchedTags_le⟩
      (matchedTags_sublist.nodup profile.tagsUnique)
    profile := ⟨profile, own ▸ found, tagged, fun t ht => matchedTags_sublist.subset ht⟩
    undiagnosed := sourceOutput_undiagnosed lowers _ _ _ _
    ownProduct := ?_
    grounded := ⟨some evidence, ?_, ?_⟩ }⟩⟩
  · intro item listed
    simp only [sourceOutput, List.mem_cons, List.not_mem_nil, or_false] at listed
    rcases listed with rfl | rfl <;> rfl
  · have same : sortedSet (matching.map (·.productId)) =
        sortedSet (request.products.map (·.productId)) := sortedSet_eq_of_mem_iff source.catalog
    have selected := get?_indexBy_self source.unique listed
    unfold ModeAccepts
    rw [source.payload]
    refine ⟨evidence, rfl, rfl, ⟨matching, product, source.read, same, ?_, scores,
      matchedValues_ne_nil scores⟩, ⟨by simp [sourceOutput], by simp [sourceOutput]⟩,
      by simp [sourceOutput], by simp [sourceOutput]⟩
    change (indexBy (·.productId) matching).get? profile.productId = some product
    rw [own]
    exact selected
  · intro item listed ref cited
    simp only [sourceOutput, List.mem_cons, List.not_mem_nil, or_false] at listed
    rcases listed with rfl | rfl
    · obtain rfl := List.mem_singleton.1 cited
      exact ⟨rfl, grounded⟩
    · obtain rfl := List.mem_singleton.1 cited
      exact ⟨rfl, grounded⟩

theorem recommendSource_served (lowers : casefold.LowersAscii) (regular : request.Regular)
    {evidence : SourceVisualEvidenceV1} {matching : List ProductMatchingItemV1}
    (source : SourceRequest request evidence matching) :
    (recommendSource request (.readable evidence)).Served casefold request := by
  unfold recommendSource
  rw [source.read]
  dsimp only [Payload.read]
  split
  · trivial
  rename_i product others ranked
  obtain ⟨listed, -⟩ := head_sortOn ranked
  split_ifs with none
  · trivial
  have scores := not_le.1 none
  obtain ⟨profile, chosen, own, found⟩ := exists_profile regular.products
    ((source.catalog _).1 (List.mem_map_of_mem listed))
  rw [chosen]
  dsimp only
  split
  · trivial
  · rename_i empty _
    exact absurd (sortedSet_eq_nil.1 empty) source.grounded
  · rename_i tags frameId rest sorted tagged
    have grounded : frameId ∈ evidence.groundedFrameIds := by
      rw [← mem_sortedSet, sorted]
      exact List.mem_cons_self
    exact sourceOutput_accepted lowers source listed scores own found tagged grounded _

/-- **The stub is served** for a request of a job, unless it is misled. -/
theorem recommend_served_iff (lowers : casefold.LowersAscii) (regular : request.Regular) :
    (recommend request).Served casefold request ↔ ¬Misled request := by
  unfold recommend
  cases payload : request.sourceVisualEvidence with
  | none => exact recommendSignal_served_iff lowers regular payload
  | some p =>
    obtain ⟨evidence, matching, source⟩ := regular.source (by rw [payload]; rfl)
    have same := source.payload
    rw [payload] at same
    cases same
    refine ⟨fun _ misled => ?_, fun _ => recommendSource_served lowers regular source⟩
    have legacy := misled.legacy
    rw [payload] at legacy
    cases legacy

end Verdict

/-! ## The requests of jobs -/

section Windows

theorem windowId_injective : Function.Injective windowId := by
  have read (n : ℕ) : Nat.ofDigitChars 10 ((windowId n).toList.drop 7) 0 = n := by
    have digits : (windowId n).toList = "window-".toList ++
        (List.replicate (4 - (toString n).length) '0' ++ Nat.toDigits 10 n) := by
      simp only [windowId, String.toList_append, String.toList_ofList, List.append_assoc,
        Nat.toString_eq_repr, Nat.toList_repr]
    have named : "window-".toList.length = 7 := by decide
    rw [digits, List.drop_left' named, Nat.ofDigitChars_append, Nat.ofDigitChars_replicate_zero,
      Nat.mul_zero, Nat.ofDigitChars_ten_toDigits]
  intro m n same
  rw [← read m, same, read n]

variable {maxGapMs : ℚ} {frames : List FrameObservationV2} {windows : List EvidenceWindowV2}

/-- The windows carry their numbers as ids. -/
theorem evidenceWindows_ids (built : evidenceWindows maxGapMs frames = .ok windows) :
    (windows.map (·.windowId)).Nodup ∧ ∀ w ∈ windows, isIdentifier w.windowId = true := by
  obtain ⟨s, -, made⟩ := bind_eq_ok_iff.1 built
  have models := mapM_forall₂ made
  have numbered : (s.closeWindow.windowsRaw.zipIdx 1).map (windowId ∘ Prod.snd) =
      windows.map (·.windowId) := by
    rw [← List.forall₂_eq_eq_eq, List.forall₂_map_left_iff, List.forall₂_map_right_iff]
    refine models.imp fun e w built => ?_
    obtain ⟨rfl, -⟩ := construct_eq_ok_iff.1 built
    rfl
  refine ⟨?_, fun w listed => ?_⟩
  · rw [← numbered, ← List.map_map, List.zipIdx_map_snd]
    exact (List.nodup_range').map windowId_injective
  · obtain ⟨e, -, built⟩ := mapM_mem made listed
    obtain ⟨rfl, valid⟩ := construct_eq_ok_iff.1 built
    exact valid.windowId

theorem observed_mem_evidenceCodes (built : evidenceWindows maxGapMs frames = .ok windows)
    {w : EvidenceWindowV2} (listed : w ∈ windows) : .observedAttention ∈ w.evidenceCodes := by
  obtain ⟨r, -, -, codes⟩ := forall₂_mem_right (evidenceWindows_describe built) listed
  exact (codes .observedAttention).2 trivial

end Windows

section Job

variable {config : StoreConfig} {context : SessionRecommendationContext}
  {accepted : RecommendationAcceptedV2} {version : RecommendationVersionV2} {s : V2SessionState}
  {summary : EvidenceSummary}

/-- What the summary of a buffer puts into a request. -/
structure SummaryRegular (context : SessionRecommendationContext) (evidence : RecommendationEvidenceV2) :
    Prop where
  summary : ∀ item ∈ evidence.summary, item.productId ∈ context.products.map (·.productId)
  frames : ∀ frame ∈ evidence.timeline.getD [], isIdentifier frame.frameId = true
  windows : ∀ window ∈ evidence.evidenceWindows.getD [],
    isIdentifier window.windowId = true ∧ .observedAttention ∈ window.evidenceCodes
  windowIds : ((evidence.evidenceWindows.getD []).map (·.windowId)).Nodup

theorem summary_regular (ready : BufferReady s.observations.values)
    (summarized : summarizeObservations s.observations.values (summaryParams config context accepted) =
      .ok summary) : SummaryRegular context summary.evidence := by
  obtain ⟨fold, windows, made⟩ := summarizeObservations_made summarized
  obtain ⟨distinct, identifiers⟩ := evidenceWindows_ids made.built
  have some : context.products.map (·.productId) ≠ [] := by
    intro none
    have ten := context.tenProducts
    rw [List.map_eq_nil_iff.1 none] at ten
    cases ten
  refine { summary := ?_, frames := ?_, windows := ?_, windowIds := ?_ }
  · intro item listed
    obtain ⟨id, known, published⟩ := forall₂_mem_right made.products listed
    rw [published.productId]
    rw [catalogIds, mem_sortedSet] at known
    split_ifs at known with none
    · exact absurd none some
    · exact known
  · intro frame listed
    rw [made.timeline] at listed
    split_ifs at listed
    · cases listed
    · obtain ⟨o, known, rfl⟩ := List.mem_map.1 listed
      rw [enrich_frameId]
      exact (ready.valid o (mem_sortOn.1 known)).frameId
  · intro window listed
    rw [made.published] at listed
    split_ifs at listed
    · cases listed
    · exact ⟨identifiers window listed, observed_mem_evidenceCodes made.built listed⟩
  · rw [made.published]
    split_ifs
    · exact List.nodup_nil
    · exact distinct

/-- The source evidence of a buffer cites frames of the buffer. -/
theorem source_grounded {hits : Dict (ℕ × String) (List ResolvedSourceAoiHit)}
    {metadata : SourceAoiMetadataV1} {evidence : SourceVisualEvidenceV1}
    (ready : BufferReady s.observations.values)
    (known : ∀ f ∈ s.observations.values, HitsKnown hits metadata f)
    (built : buildSourceVisualEvidence s.observations.values hits metadata = .ok (some evidence)) :
    evidence.groundedFrameIds ≠ [] ∧
      ∀ id ∈ evidence.groundedFrameIds, isIdentifier id = true := by
  rcases buildSourceVisualEvidence_cases known ready.bounded.2 with ⟨none, -⟩ | ⟨made, sound, eq, -⟩
  · rw [none] at built
    cases built
  rw [eq] at built
  obtain ⟨constructed, checked, built⟩ := bind_eq_ok_iff.1 built
  obtain ⟨rfl, valid⟩ := construct_eq_ok_iff.1 checked
  cases built
  constructor
  · obtain ⟨item, listed⟩ := List.exists_mem_of_length_pos valid.sourceAois.1
    obtain ⟨id, cited⟩ := List.exists_mem_of_length_pos (sound.sourceAois item listed).valid.frameIds.1
    exact List.ne_nil_of_mem (List.mem_flatMap.2 ⟨item, listed, cited⟩)
  · intro id cited
    obtain ⟨item, listed, cited⟩ := List.mem_flatMap.1 cited
    obtain ⟨f, member, rfl, -⟩ := (sound.sourceAois item listed).frames id cited
    exact (ready.valid f member).frameId

/-- The request of a buffer that is ready for the stub. -/
theorem Prepared.request_regular {p : Prepared} (catalogs : context.CatalogsMatch)
    (inv : BufferInv context s) (approved : ∀ m ∈ context.sourceAoiMetadata, m.approvalStatus = .approved)
    (prepared : prepare config context accepted version s.observations.values s.resolvedSourceHits = .ok p)
    (ready : p.ready context deterministicCentralStub = true) :
    (p.request context deterministicCentralStub accepted).Regular := by
  obtain ⟨summary, summarized, source⟩ := bind_eq_ok_iff.1 prepared
  have nonempty : s.observations.values ≠ [] := by
    intro none
    rw [none] at summarized
    cases summarized
  have buffered := inv.ready nonempty
  have regular := summary_regular buffered summarized
  have gaze : 0 < p.summary.dataQuality.gazeValidRatio := by
    have other : deterministicCentralStub.modelId ≠ lunaModelId := by decide
    simp only [Prepared.ready, Bool.or_eq_true, Bool.and_eq_true, decide_eq_true_eq] at ready
    rcases ready with (⟨-, gaze⟩ | ⟨⟨-, gaze⟩, -⟩) | ⟨⟨luna, -⟩, -⟩
    · exact gaze
    · exact gaze
    · exact absurd luna other
  cases found : context.sourceAoiMetadata with
  | none =>
    rw [found] at source
    cases source
    exact { regular with
      products := context.productsUnique
      gaze := gaze
      source := fun some => by cases some }
  | some metadata =>
    rw [found] at source
    obtain ⟨evidence, built, source⟩ := bind_eq_ok_iff.1 source
    cases source
    refine {
      products := context.productsUnique
      gaze := gaze
      summary := regular.summary
      frames := regular.frames
      windows := regular.windows
      windowIds := regular.windowIds
      source := fun some => ?_ }
    cases evidence with
    | none => cases some
    | some evidence =>
      have loaded := context.matching
      rw [found] at loaded
      obtain ⟨catalog, loaded⟩ := Option.isSome_iff_exists.1 loaded
      obtain ⟨unique, same⟩ := catalogs catalog loaded
      obtain ⟨grounded, identifiers⟩ :=
        source_grounded buffered (inv.hitsKnown found (approved metadata found)) built
      exact ⟨evidence, catalog.products, {
        payload := rfl
        products := by rw [Prepared.request, loaded]
        unique := unique
        catalog := same
        grounded := grounded
        identifiers := identifiers }⟩

/-- **The stub and the gate agree** on every job that a reachable store hands out for the stub, exactly
when the stub is not misled by a shared frame id. -/
theorem stub_served {env : StoreEnv} {w : World} (reachable : Reachable env w)
    (lowers : env.casefold.LowersAscii)
    (catalogs : ∀ sessionId, ∀ context ∈ env.context sessionId, context.CatalogsMatch)
    {sessionId : String} {record : Option Bool} {jobId : String} {job : CompletionJob} {states' : Sessions}
    (begun : beginCompletion env w.states w.clock sessionId record deterministicCentralStub jobId =
      (.ok (accepted, some job), states')) :
    (recommend job.request).Served env.casefold job.request ↔ ¬Misled job.request := by
  refine recommend_served_iff lowers ?_
  rcases beginCompletion_cases env begun with
    ⟨e, -, refused, -⟩ | ⟨context, completed, s', checked, begins, -⟩
  · cases refused
  obtain ⟨own, -, approved⟩ := checkBegin_eq_ok env checked
  cases begin_cases begins with
  | started _ version p status incomplete ids prepared ready valid =>
    obtain ⟨parts, tracks⟩ := (Tracked.of_reachable reachable).current own status
    exact Prepared.request_regular (catalogs sessionId context own) tracks.bufferInv approved prepared ready

end Job

/-! ## Two frames of one id -/

/-- Folding of ASCII. -/
def asciiFold : Casefold where
  fold s := String.ofList (s.toList.map Char.toLower)
  fold_caseless s caseless := by
    have kept : s.toList.map Char.toLower = s.toList := by
      refine (List.map_congr_left fun c listed => ?_).trans (List.map_id _)
      have own := List.all_eq_true.1 caseless c listed
      exact toLower_caseless own
    rw [kept, String.ofList_toList]

/-- The small store in variant B. -/
def stubEnv : StoreEnv := { smallEnv .b false with casefold := asciiFold }

theorem stubEnv_catalogs : ∀ sessionId, ∀ context ∈ stubEnv.context sessionId, context.CatalogsMatch := by
  intro sessionId context found catalog loaded
  have small : (smallEnv .b false).context sessionId = some context := found
  simp only [smallEnv] at small
  split_ifs at small <;> cases small <;> cases loaded

/-- A job is handed out for the stub after some events, and passes a test. -/
theorem exists_stub_job (events : List Event) (test : CompletionJob → Bool)
    (h : ((Lts.runAll (step stubEnv) {} events).any fun w => (handedOut (beginCompletion stubEnv w.states
      w.clock "session-0001" (some false) deterministicCentralStub "job-1").1).any test) = true) :
    ∃ w accepted job states', Reachable stubEnv w ∧
      beginCompletion stubEnv w.states w.clock "session-0001" (some false) deterministicCentralStub
        "job-1" = (.ok (accepted, some job), states') ∧ test job = true := by
  obtain ⟨w, run, passes⟩ := Lts.exists_steps_of_any h
  obtain ⟨result, states', begun⟩ : ∃ r t, beginCompletion stubEnv w.states w.clock "session-0001"
    (some false) deterministicCentralStub "job-1" = (r, t) := ⟨_, _, rfl⟩
  rw [begun] at passes
  match result, passes, begun with
  | .ok (accepted, some job), passes, begun =>
    exact ⟨w, accepted, job, states', ⟨_, run⟩, begun, by simpa [handedOut] using passes⟩
  | .ok (_, none), passes, _ => cases passes
  | .error _, passes, _ => cases passes

/-- The stub is served after a glance at a bag. -/
theorem stub_served_glance : ∃ w accepted job states', Reachable stubEnv w ∧
    beginCompletion stubEnv w.states w.clock "session-0001" (some false) deterministicCentralStub "job-1" =
      (.ok (accepted, some job), states') ∧
    (recommend job.request).Served stubEnv.casefold job.request ∧ ¬Misled job.request := by
  obtain ⟨w, accepted, job, states', reachable, begun, passes⟩ := exists_stub_job
    [.append "session-0001" (some false) glanceBatch]
    (fun job => decide ((job.request.evidence.timeline.getD []).map fun frame : FrameObservationV2 =>
      frame.frameId).Nodup) (by decide +kernel)
  have clear : ¬Misled job.request := by
    rintro ⟨-, -, productId, frame, -, found, other⟩
    rw [groundingFrame_self (of_decide_eq_true passes) (List.mem_of_find?_eq_some found),
      List.find?_some found] at other
    cases other
  exact ⟨w, accepted, job, states', reachable, begun,
    (stub_served reachable (fun _ _ => rfl) stubEnv_catalogs begun).2 clear, clear⟩

/-- A frame without gaze, of the next epoch and with the id of the glance. -/
def unseenFrame : FrameObservationV2 :=
  { glance "frame-1" 1 2000 with
    playbackEpoch := 1
    gaze := none
    gazeReason := some "face_not_found"
    attention := none
    attentionReason := some "face_not_found" }

def unseenBatch : ObservationBatchV2 :=
  batchOf "session-0001" "batch-2" 1 unseenFrame sessionId_ok secondBatchId_ok (by decide +kernel)

/-- The gate refuses what the stub returns: it finds the frame without gaze under the id of the glance. -/
theorem shared_frame_id_refused : ∃ w accepted job states' output, Reachable stubEnv w ∧
    beginCompletion stubEnv w.states w.clock "session-0001" (some false) deterministicCentralStub "job-1" =
      (.ok (accepted, some job), states') ∧
    recommend job.request = .returned (.shaped output) ∧
    validateCentralOutput stubEnv.casefold (.shaped output) job.request =
      .error (invalidOutput "central model referenced an ungrounded frame") := by
  obtain ⟨w, accepted, job, states', reachable, begun, passes⟩ := exists_stub_job
    [.append "session-0001" (some false) glanceBatch, .append "session-0001" (some false) unseenBatch]
    (fun job => match recommend job.request with
      | .returned (.shaped output) =>
        decide (validateCentralOutput stubEnv.casefold (.shaped output) job.request =
          .error (invalidOutput "central model referenced an ungrounded frame"))
      | _ => false) (by decide +kernel)
  split at passes
  · rename_i output reply
    exact ⟨w, accepted, job, states', output, reachable, begun, reply, of_decide_eq_true passes⟩
  · cases passes

end Mkk.Api
