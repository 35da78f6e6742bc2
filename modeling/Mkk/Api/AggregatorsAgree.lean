import Mkk.Api.SourceConservation

/-!
# The two aggregators side by side

`summarize_observations` and `build_source_visual_evidence` fold the same frames. Where both resolve
every frame to corresponding items they count the same frames and the same attention. Two frames of one
capture time, though, break the source aggregator and do not break the other, so they count the same
returns exactly when no such pair lies between a return and what it returns to
(`aggregators_agree`).
-/

namespace Mkk.Api

open Lib

/-! ## What either reports about an item -/

def ProductEvidenceSummaryV2.frameCount (item : ProductEvidenceSummaryV2) : ℕ :=
  (item.gaze.map (·.validObservationCount)).getD 0

def ProductEvidenceSummaryV2.returnCount (item : ProductEvidenceSummaryV2) : ℕ :=
  (item.gaze.bind (·.returnCandidateCount)).getD 0

/-- The summary of a source AOI; there is none without frames. -/
def sourceItem (source : Option SourceVisualEvidenceV1) (id : String) :
    Option SourceAoiEvidenceSummaryV1 :=
  source.bind fun evidence => evidence.sourceAois.find? fun item => item.sourceAoiId = id

/-- Both report the same about corresponding items. -/
structure Agrees (item : ProductEvidenceSummaryV2) (source : Option SourceVisualEvidenceV1)
    (id : String) : Prop where
  frames : item.frameCount = ((sourceItem source id).map (·.hitCount)).getD 0
  attention : item.attentionMs = ((sourceItem source id).map (·.attentionMs)).getD 0
  returns : item.returnCount = ((sourceItem source id).map (·.returnCount)).getD 0

section Reports

variable {observations : List FrameObservationV2} {params : SummaryParams} {summary : EvidenceSummary}
  {resolvedHits : Dict (ℕ × String) (List ResolvedSourceAoiHit)} {metadata : SourceAoiMetadataV1}
  {source : Option SourceVisualEvidenceV1}

theorem buildSourceVisualEvidence_summaries
    (h : buildSourceVisualEvidence observations resolvedHits metadata = .ok source) :
    ∃ s, (ordered observations).foldlM (SourceFold.step metadata resolvedHits) {} = .ok s ∧
      ∀ id, sourceItem source id = (s.summaries.get? id).map (·.summary id) := by
  cases source with
  | none =>
    unfold buildSourceVisualEvidence at h
    obtain ⟨s, looped, h⟩ := bind_eq_ok_iff.1 h
    refine ⟨s, looped, fun id => ?_⟩
    split at h
    · rename_i empty
      have none : s.summaries.get? id = none := by
        rw [Dict.get?_none_iff, Dict.keys, empty]
        exact List.not_mem_nil
      rw [none]
      rfl
    · simp only [bind_eq_ok_iff] at h
      obtain ⟨_, _, _, _, _, _, _, _, _, _, _, _, _, _, _, _, h⟩ := h
      cases h
  | some evidence =>
    obtain ⟨s, made⟩ := buildSourceVisualEvidence_made h
    refine ⟨s, made.looped, fun id => ?_⟩
    have ids := s.ids_sourceSummaries
    unfold sourceItem
    rw [Option.bind_some, made.sourceAois]
    cases found : s.summaries.get? id with
    | none =>
      rw [Option.map_none, List.find?_eq_none]
      intro item member named
      have key := ids.mem_iff.1 (List.mem_map_of_mem (f := (·.sourceAoiId)) member)
      rw [show item.sourceAoiId = id by simpa using named] at key
      exact Dict.get?_none_iff.1 found key
    | some t =>
      have member : t.summary id ∈ s.sourceSummaries :=
        List.mem_map.2 ⟨(id, t), mem_sortOn.2 (Dict.mem_entries_iff.2 found), rfl⟩
      have distinct : (s.sourceSummaries.map (·.sourceAoiId)).Nodup :=
        ids.nodup_iff.2 s.summaries.nodup
      obtain ⟨item, first⟩ : ∃ item, s.sourceSummaries.find? (fun item => item.sourceAoiId = id) =
          some item := by
        rw [← Option.isSome_iff_exists, List.find?_isSome]
        exact ⟨_, member, by simp [SourceTally.summary]⟩
      have named : item.sourceAoiId = id := by simpa using List.find?_some first
      rw [first, Option.map_some]
      exact congrArg some (List.inj_on_of_nodup_map distinct (List.mem_of_find?_eq_some first) member
        named)

/-- What the source evidence says about an item, whether it has a summary or not. -/
theorem sourceItem_reads
    (h : buildSourceVisualEvidence observations resolvedHits metadata = .ok source) (id : String) :
    ((sourceItem source id).map (·.hitCount)).getD 0 =
        ((ordered observations).filter fun f => soleHit resolvedHits f = some id).length ∧
      ((sourceItem source id).map (·.attentionMs)).getD 0 =
        (sourceAttribution resolvedHits (ordered observations)).attention
          (capturedAt (ordered observations)) id (ordered observations).length ∧
      ((sourceItem source id).map (·.returnCount)).getD 0 =
        (sourceAttribution resolvedHits (ordered observations)).returns id
          (ordered observations).length := by
  obtain ⟨s, looped, items⟩ := buildSourceVisualEvidence_summaries h
  have scans := sourceLoop_scans looped
  obtain ⟨definition, -⟩ := List.exists_mem_of_length_pos metadata.bounded.1
  have tallied := scans.tallies id definition
  rw [items, ← tallied.attentionMs, ← tallied.returnCount]
  have count : ((ordered observations).filter fun f => soleHit resolvedHits f = some id).length =
      ((s.summaries.get? id).getD { definition }).frameIds.length := by
    rw [tallied.frameIds, List.length_map, List.take_length]
  rw [count]
  cases s.summaries.get? id with
  | none => exact ⟨rfl, rfl, rfl⟩
  | some t => exact ⟨rfl, rfl, rfl⟩

/-- A frame that is attributed to a product has gaze. -/
theorem gaze_of_mapped {metadata : Option LookbookAoiMetadataV2} {f : FrameObservationV2}
    (member : f ∈ enrichedFrames observations metadata) (mapped : (mappedProductId f).isSome = true) :
    f.gaze.isSome = true := by
  obtain ⟨o, -, rfl⟩ := List.mem_map.1 member
  cases hg : o.gaze with
  | some g => simp [hg]
  | none =>
    have unmatched : (frameMapping metadata o).matched = false := by
      cases metadata with
      | none => rfl
      | some m => exact aoiMapping_noGaze m hg
    rw [mappedProductId_unmatched o unmatched] at mapped
    cases mapped

/-- What the summary says about a product, whether it has gaze or not. -/
theorem productSummary_reads (h : summarizeObservations observations params = .ok summary)
    {item : ProductEvidenceSummaryV2} (member : item ∈ summary.evidence.summary) :
    item.frameCount = ((enrichedFrames observations params.aoiMetadata).filter fun f =>
        mappedProductId f = some item.productId).length ∧
      item.attentionMs = (attribution params.maxContinuousGapMs
        (enrichedFrames observations params.aoiMetadata)).attention
          (capturedAt (enrichedFrames observations params.aoiMetadata)) item.productId
          (enrichedFrames observations params.aoiMetadata).length ∧
      item.returnCount = (attribution params.maxContinuousGapMs
        (enrichedFrames observations params.aoiMetadata)).returns item.productId
          (enrichedFrames observations params.aoiMetadata).length := by
  obtain ⟨s, windows, made⟩ := summarizeObservations_made h
  obtain ⟨p, -, published⟩ := forall₂_mem_right made.products member
  obtain rfl := published.productId
  have gathered := (summaryLoop_scans made.looped).products item.productId
  have reads := gathered.reads
  rw [List.take_length] at reads
  rw [← gathered.dwellMs, ← gathered.returns, ← reads]
  have withGaze : ∀ f ∈ (s.productAcc item.productId).frames, f.gaze.isSome = true := by
    intro f hf
    rw [reads] at hf
    obtain ⟨inside, mapped⟩ := List.mem_filter.1 hf
    exact gaze_of_mapped inside (by rw [of_decide_eq_true mapped]; rfl)
  have all : (s.productAcc item.productId).frames.filter (·.gaze.isSome) =
      (s.productAcc item.productId).frames := List.filter_eq_self.2 withGaze
  unfold ProductEvidenceSummaryV2.frameCount ProductEvidenceSummaryV2.attentionMs
    ProductEvidenceSummaryV2.returnCount
  cases hg : item.gaze with
  | some g =>
    refine ⟨?_, published.attention g hg, ?_⟩
    · change g.validObservationCount = _
      rw [published.observed g hg, all]
    · change g.returnCandidateCount.getD 0 = _
      rw [published.returns g hg]
      have compared := gathered.compared
      split
      · rfl
      · change 0 = _
        omega
  | none =>
    have nothing : (s.productAcc item.productId).frames = [] := by
      have has := published.hasGaze
      rw [hg, ProductAcc.hasGaze, eq_comm, Option.isSome_none, List.any_eq_false] at has
      exact List.eq_nil_iff_forall_not_mem.2 fun f hf => has f hf (withGaze f hf)
    -- without a frame of the product nothing was added for it
    have unlabelled : ∀ k < (enrichedFrames observations params.aoiMetadata).length,
        (attribution params.maxContinuousGapMs
          (enrichedFrames observations params.aoiMetadata)).label k ≠ some item.productId := by
      intro k inside labelled
      rw [attribution_label (List.getElem?_eq_getElem inside)] at labelled
      have listed : (enrichedFrames observations params.aoiMetadata)[k] ∈
          (s.productAcc item.productId).frames := by
        rw [reads]
        exact List.mem_filter.2 ⟨List.getElem_mem inside, by simpa using labelled⟩
      rw [nothing] at listed
      cases listed
    refine ⟨by rw [nothing]; rfl, ?_, ?_⟩
    · rw [gathered.dwellMs]
      refine (Finset.sum_eq_zero fun k inside => if_neg fun both => ?_).symm
      exact unlabelled k (Finset.mem_range.1 inside) both.2
    · rw [gathered.returns]
      refine ((Nat.count_iff_forall_not).2 fun k inside returns => ?_).symm
      exact unlabelled k inside returns.1

end Reports

/-! ## Continuity in either loop -/

/-- The frame has the capture time of the frame before it. -/
def stall (frames : List FrameObservationV2) (k : ℕ) : Bool :=
  frames[k]?.any fun f => (previousAt frames k).any fun p => f.capturedAtMonoMs = p.capturedAtMonoMs

/-- Either aggregator resolves every frame to the same item, up to the name of the item. -/
structure Corresponds (observations : List FrameObservationV2) (params : SummaryParams)
    (resolvedHits : Dict (ℕ × String) (List ResolvedSourceAoiHit)) (σ : String → String) : Prop where
  gap : params.maxContinuousGapMs = maxContinuousGapMs
  items : ∀ f ∈ observations, soleHit resolvedHits f =
    (mappedProductId (enrichFrameWithAoi f (frameMapping params.aoiMetadata f))).map σ
  injective : Function.Injective σ

/-- What the frames of a history are resolved to and where the legacy loop breaks. -/
def legacyAttribution (observations : List FrameObservationV2) (params : SummaryParams) :
    Labelling String :=
  attribution params.maxContinuousGapMs (enrichedFrames observations params.aoiMetadata)

/-- Between every return to a product and an earlier frame of it the capture times are all distinct,
with no break. -/
def ReturnsMoving (observations : List FrameObservationV2) (params : SummaryParams)
    (productId : String) : Prop :=
  ∀ k < observations.length, (legacyAttribution observations params).ReturnsAt productId k →
    ∃ i < k, (legacyAttribution observations params).label i = some productId ∧
      ∀ m ≤ k, i < m → (legacyAttribution observations params).cut m = false ∧
        stall (ordered observations) m = false

section Continuity

variable {observations : List FrameObservationV2} {params : SummaryParams}
  {resolvedHits : Dict (ℕ × String) (List ResolvedSourceAoiHit)} {σ : String → String}
  {metadata : Option LookbookAoiMetadataV2} {p f : FrameObservationV2} {k : ℕ}

theorem enrichedFrames_getElem? (observations : List FrameObservationV2)
    (metadata : Option LookbookAoiMetadataV2) (k : ℕ) :
    (enrichedFrames observations metadata)[k]? =
      (ordered observations)[k]?.map fun f => enrichFrameWithAoi f (frameMapping metadata f) :=
  List.getElem?_map

theorem previousAt_enrichedFrames (observations : List FrameObservationV2)
    (metadata : Option LookbookAoiMetadataV2) (k : ℕ) :
    previousAt (enrichedFrames observations metadata) k =
      (previousAt (ordered observations) k).map fun f =>
        enrichFrameWithAoi f (frameMapping metadata f) := by
  cases k with
  | zero => rfl
  | succ k => exact enrichedFrames_getElem? observations metadata k

theorem capturedAt_enrichedFrames (observations : List FrameObservationV2)
    (metadata : Option LookbookAoiMetadataV2) :
    capturedAt (enrichedFrames observations metadata) = capturedAt (ordered observations) := by
  funext k
  unfold capturedAt
  rw [enrichedFrames_getElem?, Option.map_map]
  congr 2
  funext f
  exact enrich_capturedAtMonoMs f _

/-- The source loop breaks where the other does, and at a pair of one capture time. -/
theorem sourceDiscontinuity_eq (p f : FrameObservationV2) (r r' : AoiMappingResultV2) :
    sourceDiscontinuity (some p) f =
      (discontinuity maxContinuousGapMs (some (enrichFrameWithAoi p r)) (enrichFrameWithAoi f r') ||
        decide (f.capturedAtMonoMs = p.capturedAtMonoMs)) := by
  have notLater : decide (f.capturedAtMonoMs - p.capturedAtMonoMs ≤ 0) =
      (decide (f.capturedAtMonoMs - p.capturedAtMonoMs < 0) ||
        decide (f.capturedAtMonoMs = p.capturedAtMonoMs)) := by
    rw [← Bool.decide_or, decide_eq_decide, le_iff_lt_or_eq, sub_eq_zero]
  unfold sourceDiscontinuity discontinuity
  simp only [enrich_playbackEpoch, enrich_videoTimeMs, enrich_sequence, enrich_capturedAtMonoMs,
    notLater, maxContinuousGapMs]
  simp only [Bool.or_assoc, Bool.or_left_comm, Bool.or_comm]

theorem Corresponds.stalls (h : Corresponds observations params resolvedHits σ) :
    (legacyAttribution observations params).Stalls
      (sourceAttribution resolvedHits (ordered observations)) σ (stall (ordered observations)) where
  label k := by
    change (ordered observations)[k]?.bind _ =
      ((enrichedFrames observations params.aoiMetadata)[k]?.bind mappedProductId).map σ
    rw [enrichedFrames_getElem?]
    cases found : (ordered observations)[k]? with
    | none => rfl
    | some f =>
      exact h.items f ((mem_sortOn).1 (List.mem_of_getElem? found))
  cut k after := by
    change (ordered observations)[k]?.any _ =
      ((enrichedFrames observations params.aoiMetadata)[k]?.any _ || stall (ordered observations) k)
    rw [enrichedFrames_getElem?, previousAt_enrichedFrames, h.gap]
    unfold stall
    cases found : (ordered observations)[k]? with
    | none => rfl
    | some f =>
      obtain ⟨m, rfl⟩ := Nat.exists_eq_succ_of_ne_zero after.ne'
      obtain ⟨inside, -⟩ := List.getElem?_eq_some_iff.1 found
      have previous : previousAt (ordered observations) (m + 1) = some (ordered observations)[m] :=
        List.getElem?_eq_getElem _
      rw [previous]
      exact sourceDiscontinuity_eq _ f _ _
  injective := h.injective

/-- A pair of one capture time adds no time. -/
theorem capturedAt_stall (stalled : stall (ordered observations) k = true) :
    capturedAt (ordered observations) k = capturedAt (ordered observations) (k - 1) := by
  obtain ⟨f, found, p, previous, same⟩ : ∃ f, (ordered observations)[k]? = some f ∧
      ∃ p, previousAt (ordered observations) k = some p ∧ f.capturedAtMonoMs = p.capturedAtMonoMs := by
    simpa [stall, Option.any_eq_true] using stalled
  cases k with
  | zero => cases previous
  | succ k => rw [capturedAt_eq found, Nat.add_sub_cancel, capturedAt_eq previous, same]

end Continuity

/-! ## The comparison -/

/-- **The aggregators agree** about an item exactly when no break of the source aggregator alone lies
between a return and what it returns to. -/
theorem aggregators_agree {observations : List FrameObservationV2} {params : SummaryParams}
    {summary : EvidenceSummary} {resolvedHits : Dict (ℕ × String) (List ResolvedSourceAoiHit)}
    {metadata : SourceAoiMetadataV1} {source : Option SourceVisualEvidenceV1} {σ : String → String}
    (summarized : summarizeObservations observations params = .ok summary)
    (built : buildSourceVisualEvidence observations resolvedHits metadata = .ok source)
    (corresponds : Corresponds observations params resolvedHits σ) :
    ∀ item ∈ summary.evidence.summary, Agrees item source (σ item.productId) ↔
      ReturnsMoving observations params item.productId := by
  intro item member
  obtain ⟨frames, attention, returns⟩ := productSummary_reads summarized member
  obtain ⟨frames', attention', returns'⟩ := sourceItem_reads built (σ item.productId)
  have stalls := corresponds.stalls
  have length : (enrichedFrames observations params.aoiMetadata).length = observations.length := by
    rw [enrichedFrames, List.length_map, ordered, length_sortOn]
  have length' : (ordered observations).length = observations.length := length_sortOn _ _
  have sameTime : item.attentionMs =
      ((sourceItem source (σ item.productId)).map (·.attentionMs)).getD 0 := by
    rw [attention, attention', length, length', capturedAt_enrichedFrames]
    exact (stalls.attention_eq fun k _ stalled => capturedAt_stall stalled).symm
  have sameFrames : item.frameCount =
      ((sourceItem source (σ item.productId)).map (·.hitCount)).getD 0 := by
    rw [frames, frames', enrichedFrames, List.filter_map, List.length_map]
    refine congrArg List.length (List.filter_congr fun f hf => ?_)
    rw [corresponds.items f (mem_sortOn.1 hf), Function.comp_apply, decide_eq_decide,
      Option.map_eq_some_iff]
    constructor
    · exact fun mapped => ⟨_, mapped, rfl⟩
    · rintro ⟨productId, mapped, named⟩
      rw [mapped, corresponds.injective named]
  have sameReturns : item.returnCount =
      ((sourceItem source (σ item.productId)).map (·.returnCount)).getD 0 ↔
        ReturnsMoving observations params item.productId := by
    rw [returns, returns', length, length', eq_comm]
    exact stalls.returns_eq_iff
  exact ⟨fun agrees => sameReturns.1 agrees.returns,
    fun moving => ⟨sameFrames, sameTime, sameReturns.2 moving⟩⟩

/-- A frame without attention between two glances, at the capture time of the second. -/
def crowdedGlances : List FrameObservationV2 :=
  [glance "frame-1" 0 1000,
    { glance "frame-2" 1 1100 with attention := none, attentionReason := some "gaze_not_found" },
    glance "frame-3" 2 1100]

/-- The hits of the frames with attention. -/
def crowdedHits : Dict (ℕ × String) (List ResolvedSourceAoiHit) :=
  Dict.accumulate FrameObservationV2.key
    (fun _ _ => [⟨"bag-0", ["bag-1"], ["body"],
      (smallSourceMetadata.sourceAois.head smallSourceAois_ne).visualFeatures⟩])
    (crowdedGlances.filter (·.attention.isSome))

theorem aggregators_agree_gapped : ∃ summary source,
    summarizeObservations gappedGlances glanceParams = .ok summary ∧
    buildSourceVisualEvidence gappedGlances bagHits smallSourceMetadata = .ok source ∧
    ∀ item ∈ summary.evidence.summary, Agrees item source (id item.productId) ↔
      ReturnsMoving gappedGlances glanceParams item.productId := by
  obtain ⟨summary, summarized, -⟩ := gappedGlances_summarized
  obtain ⟨source, built⟩ := isOk_iff_exists.1 (show
    (buildSourceVisualEvidence gappedGlances bagHits smallSourceMetadata).isOk = true by
      decide +kernel)
  have corresponds : Corresponds gappedGlances glanceParams bagHits id := {
    gap := rfl
    items := by decide +kernel
    injective := Function.injective_id }
  exact ⟨summary, source, summarized, built, aggregators_agree summarized built corresponds⟩

/-- The summary has a return, the source evidence none. -/
theorem crowded_returns_differ : ∃ summary source,
    summarizeObservations crowdedGlances glanceParams = .ok summary ∧
    buildSourceVisualEvidence crowdedGlances crowdedHits smallSourceMetadata = .ok source ∧
    Corresponds crowdedGlances glanceParams crowdedHits id ∧
    (∀ f ∈ crowdedGlances, f.Valid ∧ (frameHits crowdedHits f).length ≤ 1) ∧
    ∃ item ∈ summary.evidence.summary, item.returnCount = 1 ∧
      (sourceItem source (id item.productId)).map (·.returnCount) = some 0 := by
  have compared : ((summarizeObservations crowdedGlances glanceParams).toOption.any fun summary =>
      (buildSourceVisualEvidence crowdedGlances crowdedHits smallSourceMetadata).toOption.any fun source =>
        summary.evidence.summary.any fun item => item.returnCount = 1 ∧
          (sourceItem source (id item.productId)).map (·.returnCount) = some 0) = true := by decide +kernel
  obtain ⟨summary, summarized, compared⟩ := any_toOption_iff.1 compared
  obtain ⟨source, built, compared⟩ := any_toOption_iff.1 compared
  refine ⟨summary, source, summarized, built, ?_, by decide +kernel, ?_⟩
  · exact { gap := rfl, items := by decide +kernel, injective := Function.injective_id }
  · simpa using compared

end Mkk.Api
