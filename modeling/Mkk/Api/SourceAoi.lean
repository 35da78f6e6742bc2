import Mkk.Api.Aoi

/-!
# Source AOIs: hit testing and visual evidence

`source_aoi.py`: the reviewed source AOIs of a lookbook, the hits of a frame's video point
and the aggregate of the hits of a whole buffer. The aggregate is a fold over the frames in
analysis order; a frame counts for the one source AOI it hits, and a frame that hits more is
ambiguous.
-/

namespace Mkk.Api

open Lib

/-! ## Visual features -/

inductive ColorFamily where
  | beige | black | brown | metallic | pink | unknown
  deriving DecidableEq, Repr

def ColorFamily.value : ColorFamily → String
  | .beige => "beige" | .black => "black" | .brown => "brown" | .metallic => "metallic"
  | .pink => "pink" | .unknown => "unknown"

inductive Silhouette where
  | backpack | boston | eastWestShoulder | pouch | shopper | tambourine | tote | vanityCase
  | weekender
  deriving DecidableEq, Repr

def Silhouette.value : Silhouette → String
  | .backpack => "backpack" | .boston => "boston" | .eastWestShoulder => "east_west_shoulder"
  | .pouch => "pouch" | .shopper => "shopper" | .tambourine => "tambourine" | .tote => "tote"
  | .vanityCase => "vanity_case" | .weekender => "weekender"

inductive CategoryType where
  | backpack | crossbodyBag | pouch | shoulderBag | topHandleBag | toteBag | travelBag | vanityCase
  deriving DecidableEq, Repr

def CategoryType.value : CategoryType → String
  | .backpack => "backpack" | .crossbodyBag => "crossbody_bag" | .pouch => "pouch"
  | .shoulderBag => "shoulder_bag" | .topHandleBag => "top_handle_bag" | .toteBag => "tote_bag"
  | .travelBag => "travel_bag" | .vanityCase => "vanity_case"

inductive Pattern where
  | crystal | grainedLeather | monogram | solid | studded | unknown
  deriving DecidableEq, Repr

def Pattern.value : Pattern → String
  | .crystal => "crystal" | .grainedLeather => "grained_leather" | .monogram => "monogram"
  | .solid => "solid" | .studded => "studded" | .unknown => "unknown"

inductive BagAccessory where
  | frontPocket | lock | logoPlaque | shoulderStrap | sideStuds | tag | topHandle | zipper
  deriving DecidableEq, Repr

def BagAccessory.value : BagAccessory → String
  | .frontPocket => "front_pocket" | .lock => "lock" | .logoPlaque => "logo_plaque"
  | .shoulderStrap => "shoulder_strap" | .sideStuds => "side_studs" | .tag => "tag"
  | .topHandle => "top_handle" | .zipper => "zipper"

/-- The pattern `^[a-z][a-z0-9_]*$` over at most `n` characters. -/
def isFeatureText (n : ℕ) (s : String) : Bool :=
  match s.toList with
  | [] => false
  | c :: rest => c.isLower && rest.all (fun d => d.isLower || d.isDigit || d == '_') &&
      decide (rest.length < n)

structure VisualFeaturesV1 where
  colorPrimary : String
  colorFamily : ColorFamily
  silhouette : Silhouette
  categoryType : CategoryType
  patterns : List Pattern
  bagAccessories : List BagAccessory
  deriving DecidableEq

@[mk_iff] structure VisualFeaturesV1.Valid (f : VisualFeaturesV1) : Prop where
  colorPrimary : isFeatureText 32 f.colorPrimary = true
  patternsBounded : 1 ≤ f.patterns.length ∧ f.patterns.length ≤ 6
  patternsUnique : f.patterns.Nodup
  accessoriesBounded : f.bagAccessories.length ≤ 8
  accessoriesUnique : f.bagAccessories.Nodup

instance (f : VisualFeaturesV1) : Decidable f.Valid :=
  decidable_of_iff _ (VisualFeaturesV1.valid_iff f).symm

/-! ## Metadata, catalog and manifest -/

structure SourceAoiDefinitionV1 where
  sourceAoiId : String
  exposureIdPrefixes : List String
  visualFeatures : VisualFeaturesV1
  deriving DecidableEq

structure SourceAoiMetadataV1 where
  videoId : String
  manifestVersion : String
  metadataVersion : String
  featureTaxonomyVersion : String
  approvalStatus : ApprovalStatus
  sourceAois : List SourceAoiDefinitionV1
  metadataVersionOk : isRevision metadataVersion = true
  featureTaxonomyVersionOk : isRevision featureTaxonomyVersion = true
  bounded : 1 ≤ sourceAois.length ∧ sourceAois.length ≤ 64
  idsUnique : (sourceAois.map (·.sourceAoiId)).Nodup
  idsOk : ∀ d ∈ sourceAois, isIdentifier d.sourceAoiId = true
  featuresValid : ∀ d ∈ sourceAois, d.visualFeatures.Valid

instance : DecidableEq SourceAoiMetadataV1 := fun a b =>
  decidable_of_iff (a.videoId = b.videoId ∧ a.manifestVersion = b.manifestVersion ∧
    a.metadataVersion = b.metadataVersion ∧ a.featureTaxonomyVersion = b.featureTaxonomyVersion ∧
    a.approvalStatus = b.approvalStatus ∧ a.sourceAois = b.sourceAois) (by cases a; cases b; simp)

/-- `ProductMatchingItemV1`, the fields the matching reads. -/
structure ProductMatchingItemV1 where
  productId : String
  recommendationProfile : VisualFeaturesV1
  controlledTags : List String
  deriving DecidableEq

inductive ProductPart where
  | handle | body | accessory
  deriving DecidableEq, Repr

def ProductPart.value : ProductPart → String
  | .handle => "handle" | .body => "body" | .accessory => "accessory"

structure ManifestExposure where
  exposureId : String
  productId : String
  productPart : Option ProductPart
  startMs : ℕ
  endMs : ℕ
  shape : Polygon
  deriving DecidableEq

structure LookbookManifest where
  videoId : String
  manifestVersion : String
  exposures : List ManifestExposure
  deriving DecidableEq

structure BoundSourceAoi where
  exposure : ManifestExposure
  definition : SourceAoiDefinitionV1
  deriving DecidableEq

/-- The source AOIs one of whose prefixes the exposure id starts with. -/
def sourceAoiMatches (metadata : SourceAoiMetadataV1) (exposure : ManifestExposure) :
    List SourceAoiDefinitionV1 :=
  metadata.sourceAois.filter fun d => d.exposureIdPrefixes.any fun p =>
    p.toList.isPrefixOf exposure.exposureId.toList

/-- `bind_source_aois` -/
def bindSourceAois (manifest : LookbookManifest) (metadata : SourceAoiMetadataV1) :
    Except PyError (List BoundSourceAoi) :=
  if metadata.videoId ≠ manifest.videoId ∨ metadata.manifestVersion ≠ manifest.manifestVersion then
    .error (.valueError "source AOI metadata does not match the lookbook manifest")
  else manifest.exposures.mapM fun exposure =>
    match sourceAoiMatches metadata exposure with
    | [definition] => .ok { exposure, definition }
    | _ => .error (.valueError
        ("manifest exposure '" ++ exposure.exposureId ++ "' must match exactly one source AOI"))

/-! ## Hit testing -/

/-- `_point_is_on_segment` -/
def pointIsOnSegment (point start stop : ℚ × ℚ) : Bool :=
  let cross := (point.1 - start.1) * (stop.2 - start.2) - (point.2 - start.2) * (stop.1 - start.1)
  if |cross| > segmentEpsilon then false
  else
    decide (min start.1 stop.1 - segmentEpsilon ≤ point.1) &&
    decide (point.1 ≤ max start.1 stop.1 + segmentEpsilon) &&
    decide (min start.2 stop.2 - segmentEpsilon ≤ point.2) &&
    decide (point.2 ≤ max start.2 stop.2 + segmentEpsilon)

/-- The loop of `point_is_inside_polygon`. -/
def pointIsInsidePolygonFrom (point : ℚ × ℚ) : ℚ × ℚ → List (ℚ × ℚ) → Bool → Bool
  | _, [], inside => inside
  | previous, current :: rest, inside =>
    if pointIsOnSegment point previous current then true
    else if decide (current.2 > point.2) != decide (previous.2 > point.2) then
      let intersectionX := (previous.1 - current.1) * (point.2 - current.2) /
        (previous.2 - current.2) + current.1
      pointIsInsidePolygonFrom point current rest
        (if point.1 < intersectionX then !inside else inside)
    else pointIsInsidePolygonFrom point current rest inside

/-- `point_is_inside_polygon` -/
def pointIsInsidePolygon (point : ℚ × ℚ) (shape : Polygon) : Bool :=
  pointIsInsidePolygonFrom point shape.last shape.points false

structure ResolvedSourceAoiHit where
  sourceAoiId : String
  exposureIds : List String
  productParts : List String
  visualFeatures : VisualFeaturesV1
  deriving DecidableEq

/-- The bindings active at the video time whose polygon contains the point. -/
def activeBindings (bindings : List BoundSourceAoi) (videoTimeMs : ℕ) (point : ℚ × ℚ) :
    List BoundSourceAoi :=
  bindings.filter fun b =>
    decide (b.exposure.startMs ≤ videoTimeMs) && decide (videoTimeMs < b.exposure.endMs) &&
      pointIsInsidePolygon point b.exposure.shape

/-- The hit of one source AOI: `items` are its bindings under the point, in binding order. -/
def hitOf (sourceAoiId : String) (items : List BoundSourceAoi) : Option ResolvedSourceAoiHit :=
  items.head?.map fun first => {
    sourceAoiId := sourceAoiId
    exposureIds := sortOn id (items.map (·.exposure.exposureId))
    productParts := sortedSet (items.filterMap fun b => b.exposure.productPart.map ProductPart.value)
    visualFeatures := first.definition.visualFeatures }

/-- The bindings under a video point, grouped by source AOI. -/
def hitsAt (bindings : List BoundSourceAoi) (videoTimeMs : ℕ) (point : ℚ × ℚ) :
    List ResolvedSourceAoiHit :=
  let found := activeBindings bindings videoTimeMs point
  (sortedSet (found.map (·.definition.sourceAoiId))).filterMap fun sourceAoiId =>
    hitOf sourceAoiId (found.filter fun b => b.definition.sourceAoiId = sourceAoiId)

/-- `resolve_source_aoi_hits` -/
def resolveSourceAoiHits (observation : FrameObservationV2) (bindings : List BoundSourceAoi) :
    Except PyError (List ResolvedSourceAoiHit) :=
  match observation.attention with
  | none => .ok []
  | some attention =>
    if attention.outsideVideo then .ok []
    else match attention.videoXNorm, attention.videoYNorm with
      | some x, some y => .ok (hitsAt bindings observation.videoTimeMs (x, y))
      | _, _ => .error .assertionError

/-! ## Evidence -/

structure FeatureScoreV1 where
  value : String
  score : ℕ
  attentionMs : ℚ
  sourceAoiIds : List String
  deriving DecidableEq

@[mk_iff] structure FeatureScoreV1.Valid (f : FeatureScoreV1) : Prop where
  value : isFeatureText 64 f.value = true
  score : 1 ≤ f.score
  attentionMs : 0 ≤ f.attentionMs
  sourceAoiIds : 1 ≤ f.sourceAoiIds.length ∧ f.sourceAoiIds.length ≤ 64

instance (f : FeatureScoreV1) : Decidable f.Valid :=
  decidable_of_iff _ (FeatureScoreV1.valid_iff f).symm

instance : ContractModel FeatureScoreV1 where
  modelName := "FeatureScoreV1"
  FieldsValid := FeatureScoreV1.Valid
  decidable := inferInstance

structure SourceAoiEvidenceSummaryV1 where
  sourceAoiId : String
  hitCount : ℕ
  attentionMs : ℚ
  returnCount : ℕ
  frameIds : List String
  visualFeatures : VisualFeaturesV1
  deriving DecidableEq

@[mk_iff] structure SourceAoiEvidenceSummaryV1.Valid (s : SourceAoiEvidenceSummaryV1) : Prop where
  sourceAoiId : isIdentifier s.sourceAoiId = true
  hitCount : 1 ≤ s.hitCount
  attentionMs : 0 ≤ s.attentionMs
  frameIds : 1 ≤ s.frameIds.length ∧ s.frameIds.length ≤ 512

instance (s : SourceAoiEvidenceSummaryV1) : Decidable s.Valid :=
  decidable_of_iff _ (SourceAoiEvidenceSummaryV1.valid_iff s).symm

instance : ContractModel SourceAoiEvidenceSummaryV1 where
  modelName := "SourceAoiEvidenceSummaryV1"
  FieldsValid := SourceAoiEvidenceSummaryV1.Valid
  decidable := inferInstance

structure SourceVisualEvidenceV1 where
  metadataVersion : String
  featureTaxonomyVersion : String
  totalHitCount : ℕ
  ambiguousFrameCount : ℕ
  sourceAois : List SourceAoiEvidenceSummaryV1
  colorPrimaryScores : List FeatureScoreV1
  colorFamilyScores : List FeatureScoreV1
  silhouetteScores : List FeatureScoreV1
  categoryTypeScores : List FeatureScoreV1
  patternScores : List FeatureScoreV1
  bagAccessoryScores : List FeatureScoreV1
  deriving DecidableEq

/-- A list field with `min_length=a, max_length=b`. -/
abbrev LengthWithin {α : Type*} (a b : ℕ) (l : List α) : Prop := a ≤ l.length ∧ l.length ≤ b

@[mk_iff] structure SourceVisualEvidenceV1.Valid (e : SourceVisualEvidenceV1) : Prop where
  metadataVersion : isRevision e.metadataVersion = true
  featureTaxonomyVersion : isRevision e.featureTaxonomyVersion = true
  totalHitCount : 1 ≤ e.totalHitCount
  sourceAois : LengthWithin 1 64 e.sourceAois
  colorPrimaryScores : LengthWithin 1 32 e.colorPrimaryScores
  colorFamilyScores : LengthWithin 1 16 e.colorFamilyScores
  silhouetteScores : LengthWithin 1 16 e.silhouetteScores
  categoryTypeScores : LengthWithin 1 16 e.categoryTypeScores
  patternScores : LengthWithin 1 32 e.patternScores
  bagAccessoryScores : LengthWithin 0 32 e.bagAccessoryScores

instance (e : SourceVisualEvidenceV1) : Decidable e.Valid :=
  decidable_of_iff _ (SourceVisualEvidenceV1.valid_iff e).symm

instance : ContractModel SourceVisualEvidenceV1 where
  modelName := "SourceVisualEvidenceV1"
  FieldsValid := SourceVisualEvidenceV1.Valid
  decidable := inferInstance

/-- `grounded_frame_ids` -/
def SourceVisualEvidenceV1.groundedFrameIds (e : SourceVisualEvidenceV1) : List String :=
  e.sourceAois.flatMap (·.frameIds)

/-- `_MutableSourceSummary` -/
structure SourceTally where
  definition : SourceAoiDefinitionV1
  frameIds : List String := []
  attentionMs : ℚ := 0
  returnCount : ℕ := 0
  deriving DecidableEq

/-- The local variables of the loop in `build_source_visual_evidence`. -/
structure SourceFold where
  summaries : Dict String SourceTally := Dict.empty
  ambiguousFrameCount : ℕ := 0
  previousFrame : Option FrameObservationV2 := none
  previousSourceId : Option String := none
  seenSourceIds : List String := []

/-- The loop's break between two frames; the first frame breaks too. -/
def sourceDiscontinuity (previous : Option FrameObservationV2) (frame : FrameObservationV2) : Bool :=
  match previous with
  | none => true
  | some p =>
    frame.playbackEpoch != p.playbackEpoch ||
    decide (frame.videoTimeMs < p.videoTimeMs) ||
    decide (frame.sequence ≤ p.sequence) ||
    decide (frame.capturedAtMonoMs - p.capturedAtMonoMs ≤ 0) ||
    decide (frame.capturedAtMonoMs - p.capturedAtMonoMs > 1000)

/-- Time and returns a frame with the single hit `sourceId` adds to its summary. -/
def SourceTally.record (t : SourceTally) (s : SourceFold) (frame : FrameObservationV2)
    (sourceId : String) : SourceTally :=
  let t := { t with frameIds := t.frameIds ++ [frame.frameId] }
  match s.previousFrame with
  | some p =>
    if s.previousSourceId = some sourceId then
      { t with attentionMs := t.attentionMs + (frame.capturedAtMonoMs - p.capturedAtMonoMs) }
    else if sourceId ∈ s.seenSourceIds then { t with returnCount := t.returnCount + 1 }
    else t
  | none => if sourceId ∈ s.seenSourceIds then { t with returnCount := t.returnCount + 1 } else t

/-- A frame with the hits it resolved to, after the break has been handled. -/
def SourceFold.visit (metadata : SourceAoiMetadataV1) (s : SourceFold) (frame : FrameObservationV2) :
    List ResolvedSourceAoiHit → Except PyError SourceFold
  | [] => .ok { s with previousSourceId := none, previousFrame := some frame }
  | [hit] =>
    match metadata.sourceAois.find? fun d => d.sourceAoiId = hit.sourceAoiId with
    | none => .error .stopIteration
    | some definition =>
      let tally := (s.summaries.get? hit.sourceAoiId).getD { definition }
      .ok { s with
        summaries := s.summaries.set hit.sourceAoiId (tally.record s frame hit.sourceAoiId)
        seenSourceIds := hit.sourceAoiId :: s.seenSourceIds
        previousSourceId := some hit.sourceAoiId
        previousFrame := some frame }
  | _ :: _ :: _ => .ok { s with
      ambiguousFrameCount := s.ambiguousFrameCount + 1
      previousSourceId := none
      previousFrame := some frame }

/-- One iteration: a break forgets the previous source AOI and the ones seen. -/
def SourceFold.step (metadata : SourceAoiMetadataV1)
    (resolvedHits : Dict (ℕ × String) (List ResolvedSourceAoiHit)) (s : SourceFold)
    (frame : FrameObservationV2) : Except PyError SourceFold :=
  let s' := if sourceDiscontinuity s.previousFrame frame then
      { s with previousSourceId := none, seenSourceIds := [] } else s
  s'.visit metadata frame ((resolvedHits.get? frame.key).getD [])

/-- What `feature_scores` accumulates for one feature value. -/
structure FeatureTally where
  score : ℕ := 0
  attentionMs : ℚ := 0
  sourceIds : List String := []

/-- What one source AOI adds to the tally of a feature value. -/
def FeatureTally.add (t : Option FeatureTally) (e : String × SourceAoiEvidenceSummaryV1) :
    FeatureTally where
  score := (t.getD {}).score + e.2.hitCount
  attentionMs := (t.getD {}).attentionMs + e.2.attentionMs
  sourceIds := (t.getD {}).sourceIds ++ [e.2.sourceAoiId]

/-- `feature_scores`: one score per value, the most frequent first. -/
def featureScores (values : List (String × SourceAoiEvidenceSummaryV1)) :
    Except PyError (List FeatureScoreV1) :=
  let byValue := Dict.accumulate Prod.fst FeatureTally.add values
  let inOrder := sortOn (fun e : String × FeatureTally =>
    (toLex (-(e.2.score : ℤ), e.1) : ℤ ×ₗ String)) byValue.entries
  inOrder.mapM fun e => construct {
    value := e.1, score := e.2.score, attentionMs := e.2.attentionMs
    sourceAoiIds := sortedSet e.2.sourceIds : FeatureScoreV1 }

/-- `build_source_visual_evidence` -/
def buildSourceVisualEvidence (observations : List FrameObservationV2)
    (resolvedHits : Dict (ℕ × String) (List ResolvedSourceAoiHit)) (metadata : SourceAoiMetadataV1) :
    Except PyError (Option SourceVisualEvidenceV1) := do
  let s ← (ordered observations).foldlM (SourceFold.step metadata resolvedHits) {}
  if s.summaries.entries = [] then return none
  let sourceSummaries ← (sortOn Prod.fst s.summaries.entries).mapM fun e => construct {
    sourceAoiId := e.1
    hitCount := e.2.frameIds.length
    attentionMs := e.2.attentionMs
    returnCount := e.2.returnCount
    frameIds := e.2.frameIds
    visualFeatures := e.2.definition.visualFeatures : SourceAoiEvidenceSummaryV1 }
  let colorPrimaryScores ← featureScores
    (sourceSummaries.map fun item => (item.visualFeatures.colorPrimary, item))
  let colorFamilyScores ← featureScores
    (sourceSummaries.map fun item => (item.visualFeatures.colorFamily.value, item))
  let silhouetteScores ← featureScores
    (sourceSummaries.map fun item => (item.visualFeatures.silhouette.value, item))
  let categoryTypeScores ← featureScores
    (sourceSummaries.map fun item => (item.visualFeatures.categoryType.value, item))
  let patternScores ← featureScores
    (sourceSummaries.flatMap fun item => item.visualFeatures.patterns.map fun v => (v.value, item))
  let bagAccessoryScores ← featureScores
    (sourceSummaries.flatMap fun item =>
      item.visualFeatures.bagAccessories.map fun v => (v.value, item))
  let evidence ← construct {
    metadataVersion := metadata.metadataVersion
    featureTaxonomyVersion := metadata.featureTaxonomyVersion
    totalHitCount := (sourceSummaries.map (·.hitCount)).sum
    ambiguousFrameCount := s.ambiguousFrameCount
    sourceAois := sourceSummaries
    colorPrimaryScores, colorFamilyScores, silhouetteScores, categoryTypeScores
    patternScores, bagAccessoryScores : SourceVisualEvidenceV1 }
  return some evidence

/-- The score a profile value earns from one feature list, unless it is `unknown`. -/
def observedScore (scores : List FeatureScoreV1) (value : String) : Option ℕ :=
  (scores.find? fun item => item.value = value).map (·.score)

/-- `product_feature_match_score` -/
def productFeatureMatchScore (product : ProductMatchingItemV1) (evidence : SourceVisualEvidenceV1) :
    ℚ × List String :=
  let profile := product.recommendationProfile
  let categories : List (String × List FeatureScoreV1 × ℚ) :=
    [(profile.colorPrimary, evidence.colorPrimaryScores, 2),
     (profile.colorFamily.value, evidence.colorFamilyScores, 3),
     (profile.silhouette.value, evidence.silhouetteScores, 4),
     (profile.categoryType.value, evidence.categoryTypeScores, 2)] ++
    profile.patterns.map fun p => (p.value, evidence.patternScores, 2)
  let accessories := profile.bagAccessories.map fun a => (a.value, evidence.bagAccessoryScores, (1 : ℚ))
  let earned := (categories.filter fun c => c.1 ≠ "unknown") ++ accessories
  let hits := earned.filterMap fun c => (observedScore c.2.1 c.1).map fun n => (c.1, (n : ℚ) * c.2.2)
  ((hits.map Prod.snd).sum, sortedSet (hits.map Prod.fst))

end Mkk.Api
