import Mkk.Api.Observation

/-!
# Approved lookbook AOIs and the mapping of a frame to a product

`map_frame_to_aoi` and `enrich_frame_with_aoi` of `v2_aoi.py` with the polygon test they
rest on. A polygon carries its vertex count, so the closing edge always exists. A mapping
of reviewed metadata never raises (`mapFrameToAoi_ok`), and the product it attributes a
frame to is one the metadata names (`mappedProductId_isIdentifier`).
-/

namespace Mkk.Api

open Lib

/-- `1e-9` -/
def segmentEpsilon : ℚ := 1 / 1000000000

/-- `AoiShapeV2` and `ManifestExposureShape`: normalized vertices, at least three of them. -/
structure Polygon where
  points : List (ℚ × ℚ)
  atLeastThree : 3 ≤ points.length
  normalized : ∀ p ∈ points, InUnit p.1 ∧ InUnit p.2
  deriving DecidableEq

/-- The vertex the closing edge starts from. -/
def Polygon.last (p : Polygon) : ℚ × ℚ :=
  p.points.getLast fun h => by have := p.atLeastThree; simp [h] at this

/-- `_point_on_segment` -/
def pointOnSegment (point start stop : ℚ × ℚ) : Bool :=
  let cross := (point.2 - start.2) * (stop.1 - start.1) - (point.1 - start.1) * (stop.2 - start.2)
  if |cross| > segmentEpsilon then false
  else
    decide (min start.1 stop.1 - segmentEpsilon ≤ point.1) &&
    decide (point.1 ≤ max start.1 stop.1 + segmentEpsilon) &&
    decide (min start.2 stop.2 - segmentEpsilon ≤ point.2) &&
    decide (point.2 ≤ max start.2 stop.2 + segmentEpsilon)

/-- The loop of `_point_in_polygon` from the edge `previous` to the next vertex on. -/
def pointInPolygonFrom (point : ℚ × ℚ) : ℚ × ℚ → List (ℚ × ℚ) → Bool → Bool
  | _, [], inside => inside
  | previous, current :: rest, inside =>
    if pointOnSegment point previous current then true
    else if decide (current.2 > point.2) != decide (previous.2 > point.2) then
      let crossingX := (previous.1 - current.1) * (point.2 - current.2) /
        (previous.2 - current.2) + current.1
      pointInPolygonFrom point current rest (if point.1 < crossingX then !inside else inside)
    else pointInPolygonFrom point current rest inside

/-- `_point_in_polygon` -/
def pointInPolygon (point : ℚ × ℚ) (shape : Polygon) : Bool :=
  pointInPolygonFrom point shape.last shape.points false

/-! ## Reviewed metadata -/

structure AoiExposureV2 where
  aoiId : String
  parentAoiId : Option String
  specificityRank : ℕ
  startMs : ℕ
  endMs : ℕ
  shape : Polygon
  productId : String
  componentCode : ComponentCode
  observedVisualTagIds : List ControlledTag
  deriving DecidableEq

@[mk_iff] structure AoiExposureV2.Valid (e : AoiExposureV2) : Prop where
  aoiId : isIdentifier e.aoiId = true
  parentAoiId : ∀ p ∈ e.parentAoiId, isIdentifier p = true
  specificityRank : e.specificityRank ≤ 32
  endMs : 1 ≤ e.endMs
  productId : isIdentifier e.productId = true
  tagsBounded : 1 ≤ e.observedVisualTagIds.length ∧ e.observedVisualTagIds.length ≤ 32
  tagsUnique : e.observedVisualTagIds.Nodup
  forward : e.startMs < e.endMs

instance (e : AoiExposureV2) : Decidable e.Valid :=
  decidable_of_iff _ (AoiExposureV2.valid_iff e).symm

inductive ApprovalStatus where
  | pendingReview | approved
  deriving DecidableEq, Repr

/-- `LookbookAoiMetadataV2`; of the media identity only the duration is read here. -/
structure LookbookAoiMetadataV2 where
  videoId : String
  manifestVersion : String
  metadataRevision : String
  approvalStatus : ApprovalStatus
  durationMs : ℕ
  exposures : List AoiExposureV2
  metadataRevisionOk : isRevision metadataRevision = true
  exposuresValid : ∀ e ∈ exposures, e.Valid
  deriving DecidableEq

inductive MappingStatus where
  | matched | aoiMetadataUnapproved | gazeUnavailable | videoPointUnavailable | outsideVideo
  | videoTimeOutOfRange | noAoiMatch | ambiguousProduct
  deriving DecidableEq, Repr

structure AoiMappingResultV2 where
  status : MappingStatus
  productId : Option String := none
  aoiIds : List String := []
  componentCodes : List ComponentCode := []
  observedVisualTagIds : List ControlledTag := []
  candidates : List AttentionCandidateV2 := []
  deriving DecidableEq

def AoiMappingResultV2.matched (r : AoiMappingResultV2) : Bool := r.status == .matched

/-- The exposures that are active at the frame's video time and contain its video point. -/
def activeExposures (metadata : LookbookAoiMetadataV2) (videoTimeMs : ℕ) (point : ℚ × ℚ) :
    List AoiExposureV2 :=
  metadata.exposures.filter fun e =>
    decide (e.startMs ≤ videoTimeMs) && decide (videoTimeMs < e.endMs) && pointInPolygon point e.shape

/-- The candidate an exposure contributes. -/
def AoiExposureV2.candidate (e : AoiExposureV2) : AttentionCandidateV2 where
  exposureId := e.aoiId
  productId := e.productId
  priority := 0
  parentAoiId := e.parentAoiId
  specificityRank := some e.specificityRank
  componentCode := some e.componentCode
  observedVisualTagIds := e.observedVisualTagIds

/-- `sorted(matches, key=lambda item: (item.specificity_rank, item.aoi_id))` -/
def bySpecificity (l : List AoiExposureV2) : List AoiExposureV2 :=
  sortOn (fun e : AoiExposureV2 => (toLex (e.specificityRank, e.aoiId) : ℕ ×ₗ String)) l

/-- The end of `map_frame_to_aoi`, once the exposures under the point are known. -/
def mapMatches (found : List AoiExposureV2) : Except PyError AoiMappingResultV2 :=
  match (found.map (·.productId)).dedup with
  | [] => .ok { status := .noAoiMatch }
  | [productId] => do
    let inOrder := bySpecificity found
    let candidates ← inOrder.mapM fun e => construct e.candidate
    return {
      status := .matched
      productId := some productId
      aoiIds := inOrder.map (·.aoiId)
      componentCodes := sortedSet (inOrder.map (·.componentCode))
      observedVisualTagIds := sortedSet (inOrder.flatMap (·.observedVisualTagIds))
      candidates := candidates }
  | _ => .ok { status := .ambiguousProduct }

/-- `map_frame_to_aoi` -/
def mapFrameToAoi (frame : FrameObservationV2) (metadata : LookbookAoiMetadataV2) :
    Except PyError AoiMappingResultV2 :=
  if metadata.approvalStatus ≠ .approved then .ok { status := .aoiMetadataUnapproved }
  else if frame.gaze.isNone then .ok { status := .gazeUnavailable }
  else match frame.attention with
    | none => .ok { status := .videoPointUnavailable }
    | some attention =>
      if attention.outsideVideo then .ok { status := .outsideVideo }
      else match attention.videoXNorm, attention.videoYNorm with
        | some x, some y =>
          if frame.videoTimeMs ≥ metadata.durationMs then .ok { status := .videoTimeOutOfRange }
          else mapMatches (activeExposures metadata frame.videoTimeMs (x, y))
        | _, _ => .ok { status := .videoPointUnavailable }

/-- `enrich_frame_with_aoi` -/
def enrichFrameWithAoi (frame : FrameObservationV2) (result : AoiMappingResultV2) :
    FrameObservationV2 :=
  match frame.attention with
  | none => frame
  | some attention =>
    { frame with
      attention := some { attention with
        candidates := if result.matched then result.candidates else [] } }

/-- `_mapped_product_id` -/
def mappedProductId (frame : FrameObservationV2) : Option String :=
  match frame.attention with
  | none => none
  | some attention =>
    match (attention.candidates.map (·.productId)).dedup with
    | [productId] => some productId
    | _ => none

/-! ## The mapping never raises -/

theorem AoiExposureV2.Valid.candidate {e : AoiExposureV2} (h : e.Valid) : e.candidate.Valid where
  exposureId := h.aoiId
  productId := h.productId
  parentAoiId := h.parentAoiId
  specificityRank r hr := by
    obtain rfl : e.specificityRank = r := by simpa [AoiExposureV2.candidate] using hr
    exact h.specificityRank
  tagsBounded := h.tagsBounded.2
  tagsUnique := h.tagsUnique

theorem mem_activeExposures {metadata : LookbookAoiMetadataV2} {t : ℕ} {p : ℚ × ℚ}
    {e : AoiExposureV2} (h : e ∈ activeExposures metadata t p) : e ∈ metadata.exposures :=
  (List.mem_filter.1 h).1

/-- The mapping a call of `map_frame_to_aoi` returns. -/
def aoiMapping (frame : FrameObservationV2) (metadata : LookbookAoiMetadataV2) :
    AoiMappingResultV2 :=
  match mapFrameToAoi frame metadata with
  | .ok r => r
  | .error _ => { status := .aoiMetadataUnapproved }

theorem candidates_construct {found : List AoiExposureV2} (h : ∀ e ∈ found, e.Valid) :
    ((bySpecificity found).mapM fun e => construct e.candidate) =
      .ok ((bySpecificity found).map AoiExposureV2.candidate) :=
  mapM_eq_ok fun e he => construct_ok (h e (mem_sortOn.1 he)).candidate

/-- What a mapping of reviewed exposures can be: nothing matched, or candidates that are the
reviewed exposures in specificity order. -/
theorem mapMatches_ok {found : List AoiExposureV2} (h : ∀ e ∈ found, e.Valid) :
    ∃ r, mapMatches found = .ok r ∧
      (r.matched = true → r.candidates = (bySpecificity found).map AoiExposureV2.candidate) := by
  unfold mapMatches
  split
  · exact ⟨_, rfl, by simp [AoiMappingResultV2.matched]⟩
  · simp only [candidates_construct h]
    exact ⟨_, rfl, fun _ => rfl⟩
  · exact ⟨_, rfl, by simp [AoiMappingResultV2.matched]⟩

/-- Reviewed metadata maps every frame, and a match only names valid products. -/
theorem mapFrameToAoi_returns (frame : FrameObservationV2) (metadata : LookbookAoiMetadataV2) :
    ∃ r, mapFrameToAoi frame metadata = .ok r ∧
      (r.matched = true → ∀ c ∈ r.candidates, isIdentifier c.productId = true) := by
  unfold mapFrameToAoi
  repeat' split
  case h_1.isFalse x y _ _ _ =>
    have valid : ∀ e ∈ activeExposures metadata frame.videoTimeMs (x, y), e.Valid :=
      fun e he => metadata.exposuresValid e (mem_activeExposures he)
    obtain ⟨r, hr, hc⟩ := mapMatches_ok valid
    refine ⟨r, hr, fun hm c hmem => ?_⟩
    rw [hc hm] at hmem
    obtain ⟨e, he, rfl⟩ := List.mem_map.1 hmem
    exact (valid e (mem_sortOn.1 he)).productId
  all_goals exact ⟨_, rfl, by simp [AoiMappingResultV2.matched]⟩

theorem mapFrameToAoi_ok (frame : FrameObservationV2) (metadata : LookbookAoiMetadataV2) :
    mapFrameToAoi frame metadata = .ok (aoiMapping frame metadata) := by
  obtain ⟨r, hr, -⟩ := mapFrameToAoi_returns frame metadata
  simp only [aoiMapping, hr]

theorem aoiMapping_noGaze {frame : FrameObservationV2} (metadata : LookbookAoiMetadataV2)
    (h : frame.gaze = none) : (aoiMapping frame metadata).matched = false := by
  unfold aoiMapping mapFrameToAoi
  split_ifs <;> simp_all [AoiMappingResultV2.matched]

/-! ## What enrichment keeps -/

section Enrich

variable (frame : FrameObservationV2) (result : AoiMappingResultV2)

@[simp] theorem enrich_frameId : (enrichFrameWithAoi frame result).frameId = frame.frameId := by
  unfold enrichFrameWithAoi; split <;> rfl

@[simp] theorem enrich_sequence : (enrichFrameWithAoi frame result).sequence = frame.sequence := by
  unfold enrichFrameWithAoi; split <;> rfl

@[simp] theorem enrich_capturedAtMonoMs :
    (enrichFrameWithAoi frame result).capturedAtMonoMs = frame.capturedAtMonoMs := by
  unfold enrichFrameWithAoi; split <;> rfl

@[simp] theorem enrich_sessionOffsetMs :
    (enrichFrameWithAoi frame result).sessionOffsetMs = frame.sessionOffsetMs := by
  unfold enrichFrameWithAoi; split <;> rfl

@[simp] theorem enrich_videoTimeMs :
    (enrichFrameWithAoi frame result).videoTimeMs = frame.videoTimeMs := by
  unfold enrichFrameWithAoi; split <;> rfl

@[simp] theorem enrich_playbackEpoch :
    (enrichFrameWithAoi frame result).playbackEpoch = frame.playbackEpoch := by
  unfold enrichFrameWithAoi; split <;> rfl

@[simp] theorem enrich_gaze : (enrichFrameWithAoi frame result).gaze = frame.gaze := by
  unfold enrichFrameWithAoi; split <;> rfl

@[simp] theorem enrich_expression :
    (enrichFrameWithAoi frame result).expression = frame.expression := by
  unfold enrichFrameWithAoi; split <;> rfl

@[simp] theorem enrich_derived : (enrichFrameWithAoi frame result).derived = frame.derived := by
  unfold enrichFrameWithAoi; split <;> rfl

end Enrich

/-- A frame whose mapping did not match is attributed to no product. -/
theorem mappedProductId_unmatched (frame : FrameObservationV2) {result : AoiMappingResultV2}
    (h : result.matched = false) : mappedProductId (enrichFrameWithAoi frame result) = none := by
  unfold enrichFrameWithAoi
  cases ha : frame.attention with
  | none => simp [mappedProductId, ha]
  | some a => simp [mappedProductId, h]

/-- A product a frame is attributed to is one of the mapping's candidates. -/
theorem mappedProductId_candidate {frame : FrameObservationV2} {result : AoiMappingResultV2}
    {p : String} (h : mappedProductId (enrichFrameWithAoi frame result) = some p) :
    result.matched = true ∧ ∃ c ∈ result.candidates, c.productId = p := by
  cases hm : result.matched with
  | false => rw [mappedProductId_unmatched frame hm] at h; cases h
  | true =>
    refine ⟨rfl, ?_⟩
    unfold enrichFrameWithAoi at h
    cases ha : frame.attention with
    | none => simp [mappedProductId, ha] at h
    | some a =>
      simp only [mappedProductId, ha, hm, if_true] at h
      split at h
      · rename_i q hq
        cases h
        have hmem : p ∈ (result.candidates.map (·.productId)).dedup := by rw [hq]; simp
        simpa using List.mem_dedup.1 hmem
      · cases h

theorem mappedProductId_isIdentifier {frame : FrameObservationV2}
    {metadata : LookbookAoiMetadataV2} {p : String}
    (h : mappedProductId (enrichFrameWithAoi frame (aoiMapping frame metadata)) = some p) :
    isIdentifier p = true := by
  obtain ⟨hm, c, hc, rfl⟩ := mappedProductId_candidate h
  obtain ⟨r, hr, hid⟩ := mapFrameToAoi_returns frame metadata
  rw [mapFrameToAoi_ok] at hr
  cases hr
  exact hid hm c hc

end Mkk.Api
