import Mkk.Api.Evidence

/-!
# Reading the frames: `summarize_observations`

The single pass over the frames in analysis order. `SummaryFold` holds the loop's local
variables and `ProductAcc` what the per-product dictionaries hold for one product. Only the
constructors of the evidence models can fail; the pass itself is a plain fold.
-/

namespace Mkk.Api

open Lib

/-! ## One product -/

structure ProductAcc where
  frames : List FrameObservationV2 := []
  dwellMs : ℚ := 0
  movement : List ℚ := []
  speeds : List ℚ := []
  returns : ℕ := 0
  returnComparisons : ℕ := 0
  confidences : List ℚ := []
  changes : Dict String (List ℚ) := Dict.empty
  changeRates : Dict String (List ℚ) := Dict.empty
  sustained : Dict String ℚ := Dict.empty
  components : List ComponentCode := []
  visualTags : List ControlledTag := []

/-- `by_signal[signal].append(value)` -/
def appendValue (values : Option (List ℚ)) (e : String × ℚ) : List ℚ := values.getD [] ++ [e.2]

/-- Every value of a label map appended under its label. -/
def appendValues (d : Dict String (List ℚ)) (m : SortedDict String ℚ) : Dict String (List ℚ) :=
  m.entries.foldl (Dict.insertWith Prod.fst appendValue) d

/-- Producer values are cumulative since the action began, so the largest one counts. -/
def maxDuration (longest : Option ℚ) (action : SustainedActionV2) : ℚ :=
  max (longest.getD 0) action.durationMs

def candidatesOf (frame : FrameObservationV2) : List AttentionCandidateV2 :=
  match frame.attention with
  | some attention => attention.candidates
  | none => []

def frameComponents (frame : FrameObservationV2) : List ComponentCode :=
  (candidatesOf frame).filterMap (·.componentCode)

def frameVisualTags (frame : FrameObservationV2) : List ControlledTag :=
  (candidatesOf frame).flatMap (·.observedVisualTagIds)

/-- The frame itself, what is visible in it and the confidence of its gaze. -/
def ProductAcc.attend (acc : ProductAcc) (frame : FrameObservationV2) : ProductAcc :=
  { acc with
    components := acc.components ++ frameComponents frame
    visualTags := acc.visualTags ++ frameVisualTags frame
    frames := acc.frames ++ [frame]
    confidences := acc.confidences ++ (frame.gaze.map (·.confidence)).toList }

/-- Dwell time and returns against the frame before; `previousProduct` is that frame's product. -/
def ProductAcc.compare (acc : ProductAcc) (productId : String) (previous : Option FrameObservationV2)
    (discontinuity : Bool) (previousProduct : Option String) (seenProducts : List String)
    (frame : FrameObservationV2) : ProductAcc :=
  match previous with
  | none => acc
  | some p =>
    if discontinuity then acc
    else
      let returned := decide (previousProduct ≠ some productId) && decide (productId ∈ seenProducts)
      { acc with
        dwellMs := if previousProduct = some productId then
            acc.dwellMs + (frame.capturedAtMonoMs - p.capturedAtMonoMs) else acc.dwellMs
        returnComparisons := acc.returnComparisons + 1
        returns := if returned then acc.returns + 1 else acc.returns }

/-- Derived gaze movement. -/
def ProductAcc.addGaze (acc : ProductAcc) (gaze : Option GazeDerivedV2) : ProductAcc :=
  match gaze.bind (·.movement) with
  | none => acc
  | some m =>
    { acc with
      movement := acc.movement ++ [m.distanceNorm]
      speeds := acc.speeds ++ [m.speedNormPerS] }

/-- The change maps of a derived expression; `SummaryFold.turn` has asserted that changes come
with their rates. -/
def ProductAcc.addChanges (acc : ProductAcc) (expression : ExpressionDerivedV2) : ProductAcc :=
  match expression.scoreChanges, expression.scoreChangeRatesPerS with
  | some changes, some rates =>
    { acc with
      changes := appendValues acc.changes changes
      changeRates := appendValues acc.changeRates rates }
  | _, _ => acc

/-- Derived expression changes and sustained actions. -/
def ProductAcc.addExpression (acc : ProductAcc) (expression : Option ExpressionDerivedV2) :
    ProductAcc :=
  match expression with
  | none => acc
  | some e =>
    { acc.addChanges e with
      sustained := e.sustainedActions.foldl (Dict.insertWith (·.signal) maxDuration) acc.sustained }

/-- The derived signals of a frame, unless a break precedes it. -/
def ProductAcc.addDerived (acc : ProductAcc) (discontinuity : Bool) (frame : FrameObservationV2) :
    ProductAcc :=
  if discontinuity then acc
  else match frame.derived with
    | none => acc
    | some derived => (acc.addGaze derived.gaze).addExpression derived.expression

/-- The codes a frame contributes to its window, from all that was gathered for the product. -/
def ProductAcc.codes (acc : ProductAcc) : List EvidenceCode :=
  [.observedAttention] ++
  (if acc.returns = 0 then [] else [.returnCandidate]) ++
  (if acc.movement = [] then [] else [.gazeMovement]) ++
  (if acc.changes.entries = [] then [] else [.faceActionChange])

/-! ## The pass over the frames -/

/-- An open evidence window. -/
structure WindowAcc where
  productId : String
  start : FrameObservationV2
  stop : FrameObservationV2
  codes : List EvidenceCode
  components : List ComponentCode
  visualTags : List ControlledTag

structure SummaryFold where
  byProduct : Dict String ProductAcc := Dict.empty
  windowsRaw : List WindowAcc := []
  window : Option WindowAcc := none
  previous : Option FrameObservationV2 := none
  previousProduct : Option String := none
  seenProducts : List String := []
  continuityResetCount : ℕ := 0

def SummaryFold.productAcc (s : SummaryFold) (productId : String) : ProductAcc :=
  (s.byProduct.get? productId).getD {}

/-- The loop's break between two frames; the first frame does not break. -/
def discontinuity (maxGapMs : ℚ) (previous : Option FrameObservationV2) (frame : FrameObservationV2) :
    Bool :=
  match previous with
  | none => false
  | some p =>
    frame.playbackEpoch != p.playbackEpoch ||
    decide (frame.videoTimeMs < p.videoTimeMs) ||
    decide (frame.sequence ≤ p.sequence) ||
    decide (frame.capturedAtMonoMs - p.capturedAtMonoMs < 0) ||
    decide (frame.capturedAtMonoMs - p.capturedAtMonoMs > maxGapMs)

/-- `close_window` -/
def SummaryFold.closeWindow (s : SummaryFold) : SummaryFold :=
  { s with windowsRaw := s.windowsRaw ++ s.window.toList, window := none }

/-- The window after a frame of `productId`: extended, or closed and opened at the frame. -/
def SummaryFold.extendWindow (s : SummaryFold) (productId : String) (frame : FrameObservationV2)
    (codes : List EvidenceCode) : SummaryFold :=
  match s.window with
  | some w =>
    if w.productId = productId then
      { s with window := some { w with
          stop := frame
          codes := w.codes ++ codes
          components := w.components ++ frameComponents frame
          visualTags := w.visualTags ++ frameVisualTags frame } }
    else
      { s.closeWindow with window := some {
          productId, start := frame, stop := frame, codes
          components := frameComponents frame, visualTags := frameVisualTags frame } }
  | none =>
    { s.closeWindow with window := some {
        productId, start := frame, stop := frame, codes
        components := frameComponents frame, visualTags := frameVisualTags frame } }

/-- Leaving the previous frame behind. -/
def SummaryFold.breakAt (s : SummaryFold) : SummaryFold :=
  { s with
    continuityResetCount := s.continuityResetCount + 1
    previousProduct := none
    seenProducts := [] }.closeWindow

/-- A frame that is attributed to `productId`. -/
def SummaryFold.visit (s : SummaryFold) (discontinuity : Bool) (productId : String)
    (frame : FrameObservationV2) : SummaryFold :=
  let acc := (((s.productAcc productId).attend frame).compare productId s.previous discontinuity
    s.previousProduct s.seenProducts frame).addDerived discontinuity frame
  let s := { s with
    byProduct := s.byProduct.set productId acc
    seenProducts := productId :: s.seenProducts }
  s.extendWindow productId frame acc.codes

/-- A frame, once a break before it has been handled. -/
def SummaryFold.read (s : SummaryFold) (broken : Bool) (frame : FrameObservationV2) : SummaryFold :=
  match mappedProductId frame with
  | some productId =>
    { s.visit broken productId frame with previousProduct := some productId, previous := some frame }
  | none => { s.closeWindow with previousProduct := none, previous := some frame }

/-- One iteration over an enriched frame. -/
def SummaryFold.step (maxGapMs : ℚ) (s : SummaryFold) (frame : FrameObservationV2) : SummaryFold :=
  (if discontinuity maxGapMs s.previous frame then s.breakAt else s).read
    (discontinuity maxGapMs s.previous frame) frame

/-- The loop's assertion: a frame that is read for its changes carries their rates. -/
def ratesMissing (broken : Bool) (frame : FrameObservationV2) : Bool :=
  !broken && (mappedProductId frame).isSome &&
    match frame.derived with
    | none => false
    | some derived => match derived.expression with
      | none => false
      | some e => e.scoreChanges.isSome && e.scoreChangeRatesPerS.isNone

def SummaryFold.turn (maxGapMs : ℚ) (s : SummaryFold) (frame : FrameObservationV2) :
    Except PyError SummaryFold :=
  if ratesMissing (discontinuity maxGapMs s.previous frame) frame then .error .assertionError
  else .ok (s.step maxGapMs frame)

/-! ## Filling the models -/

/-- `n / (d or 1)` -/
def ratioOf (n d : ℕ) : ℚ := (n : ℚ) / (if d = 0 then 1 else d)

/-- The means of a dictionary of value lists, in label order. -/
def meanItems (d : Dict String (List ℚ)) : Except PyError (List (String × ℚ)) :=
  (sortOn Prod.fst d.entries).mapM fun e => do
    let mean ← fmean e.2
    return (e.1, mean)

def ProductAcc.gazeSummary (acc : ProductAcc) (unambiguousCount : ℕ) : Except PyError GazeSummaryV2 := do
  let averageConfidence ← fmean acc.confidences
  let meanSpeed ← onlyIf (acc.movement ≠ []) (fmean acc.speeds)
  construct {
    validObservationCount := (acc.frames.filter (·.gaze.isSome)).length
    observedAttentionMs := acc.dwellMs
    attentionRatio := ratioOf acc.frames.length unambiguousCount
    averageConfidence := averageConfidence
    returnCandidateCount := if 0 < acc.returnComparisons then some acc.returns else none
    returnCandidateReason :=
      if 0 < acc.returnComparisons then none else some "no_comparable_gaze_observation"
    movementDistanceNorm := if acc.movement = [] then none else some acc.movement.sum
    meanSpeedNormPerS := meanSpeed
    movementReason := if acc.movement = [] then some "no_comparable_gaze_observation" else none }

def ProductAcc.expressionSummary (acc : ProductAcc) : Except PyError ExpressionSummaryV2 := do
  let hasChanges := decide (acc.changes.entries ≠ [])
  let actionChanges ← onlyIf hasChanges (meanItems acc.changes)
  let actionChangeRates ← onlyIf hasChanges (meanItems acc.changeRates)
  let sustainedActions ← (sortOn Prod.fst acc.sustained.entries).mapM fun e =>
    construct { signal := e.1, durationMs := e.2 : SustainedActionV2 }
  construct {
    matchedObservationCount := (acc.frames.filter (·.expression.isSome)).length
    validCoverage := ratioOf (acc.frames.filter (·.expression.isSome)).length acc.frames.length
    actionChanges := actionChanges
    actionChangeRatesPerS := actionChangeRates
    changeReason := if hasChanges then none else some "no_comparable_expression_observation"
    sustainedActions := sustainedActions }

def ProductAcc.hasGaze (acc : ProductAcc) : Bool := acc.frames.any (·.gaze.isSome)

def ProductAcc.hasExpression (acc : ProductAcc) : Bool := acc.frames.any (·.expression.isSome)

def ProductAcc.summary (acc : ProductAcc) (productId : String) (unambiguousCount : ℕ) :
    Except PyError ProductEvidenceSummaryV2 := do
  let gaze ← onlyIf acc.hasGaze (acc.gazeSummary unambiguousCount)
  let expression ← onlyIf acc.hasExpression acc.expressionSummary
  construct {
    productId := productId
    exposureDurationMs := acc.dwellMs
    observedComponentCodes := sortedSet acc.components
    observedVisualTagIds := sortedSet acc.visualTags
    gaze := gaze
    gazeReason := if acc.hasGaze then none else some "no_valid_gaze_for_product"
    expression := expression
    expressionReason := if acc.hasExpression then none else some "no_matched_expression" }

/-- `f"window-{index:04d}"` -/
def windowId (index : ℕ) : String :=
  "window-" ++ String.ofList (List.replicate (4 - (toString index).length) '0') ++ toString index

def WindowAcc.window (w : WindowAcc) (index : ℕ) : Except PyError EvidenceWindowV2 :=
  construct {
    windowId := windowId index
    productId := w.productId
    startOffsetMs := w.start.sessionOffsetMs
    endOffsetMs := w.stop.sessionOffsetMs
    videoStartMs := w.start.videoTimeMs
    videoEndMs := w.stop.videoTimeMs
    playbackEpoch := w.start.playbackEpoch
    observedComponentCodes := sortedSet w.components
    observedVisualTagIds := sortedSet w.visualTags
    evidenceCodes := sortedSet w.codes }

/-- `max(values) - min(values) + 1` -/
def spread (values : List ℕ) : ℕ := values.max?.getD 0 - values.min?.getD 0 + 1

/-- The sequence numbers of each epoch. -/
def epochSequences (frames : List FrameObservationV2) : Dict ℕ (List ℕ) :=
  Dict.accumulate (·.playbackEpoch) (fun values (frame : FrameObservationV2) =>
    values.getD [] ++ [frame.sequence]) frames

/-- The frames a producer should have sent: the gaps in each epoch's sequence count too. -/
def expectedCount (frames : List FrameObservationV2) (expectedObservationCount : Option ℕ) : ℕ :=
  max frames.length (match expectedObservationCount with
    | none => ((epochSequences frames).values.map spread).sum
    | some expected => expected)

/-- `_data_quality` -/
def dataQuality (frames : List FrameObservationV2) (mappings : List AoiMappingResultV2)
    (expectedObservationCount : Option ℕ) : Except PyError RecommendationDataQualityV2 :=
  let expected := expectedCount frames expectedObservationCount
  construct {
    expectedObservationCount := expected
    gazeValidRatio := ratioOf (frames.countP (·.gaze.isSome)) expected
    expressionValidRatio := ratioOf (frames.countP (·.expression.isSome)) expected
    matchedFrameRatio := ratioOf (frames.countP fun f => f.gaze.isSome && f.expression.isSome) expected
    ambiguousProductRatio :=
      ratioOf (mappings.countP fun m => m.status == .ambiguousProduct) expected }

/-- The distinct producers of the frames' gaze. -/
def eyeVersions (frames : List FrameObservationV2) : List EyeSignalVersionV2 :=
  (frames.filterMap fun f => f.gaze.map fun g => ⟨g.producerId, g.modelRevision⟩).dedup

/-- The distinct producers of the frames' expressions. -/
def faceVersions (frames : List FrameObservationV2) : List FaceSignalVersionV2 :=
  (frames.filterMap fun f => f.expression.map fun e =>
    ⟨e.producerId, e.modelRevision, e.taxonomyVersion⟩).dedup

/-- A version and its reason: the value when there is exactly one. -/
def versionOrReason {α : Type} [ContractModel α] (missing mixed : String) :
    List α → Except PyError (Option α × Option String)
  | [] => .ok (none, some missing)
  | [v] => do return (some (← construct v), none)
  | _ => .ok (none, some mixed)

/-- `aoi_mapper_revision` -/
def aoiMapperRevision : Option LookbookAoiMetadataV2 → String
  | some m => if m.approvalStatus = .approved then m.metadataRevision else "unavailable"
  | none => "unavailable"

/-- `_signal_versions` -/
def signalVersions (frames : List FrameObservationV2) (aoiMetadata : Option LookbookAoiMetadataV2) :
    Except PyError SignalVersionsV2 := do
  let eye ← versionOrReason "no_valid_gaze" "mixed_eye_versions" (eyeVersions frames)
  let face ← versionOrReason "no_valid_expression" "mixed_face_versions" (faceVersions frames)
  construct {
    eye := eye.1
    eyeReason := eye.2
    face := face.1
    faceReason := face.2
    aoiMapperRevision := aoiMapperRevision aoiMetadata }

structure SummaryParams where
  decisionRequestId : String
  sessionId : String
  videoId : String
  manifestVersion : String
  catalogVersion : String
  aoiMetadata : Option LookbookAoiMetadataV2
  productIds : List String
  expectedObservationCount : Option ℕ := none
  maxContinuousGapMs : ℚ := Mkk.Api.maxContinuousGapMs
  inputVariant : InputVariant

/-- The mapping of a frame, `aoi_metadata_unapproved` without metadata. -/
def mapFrame (aoiMetadata : Option LookbookAoiMetadataV2) (frame : FrameObservationV2) :
    Except PyError AoiMappingResultV2 :=
  match aoiMetadata with
  | some metadata => mapFrameToAoi frame metadata
  | none => .ok { status := .aoiMetadataUnapproved }

/-- The catalog of a request, else every product a frame's candidates name. -/
def catalogIds (productIds : List String) (frames : List FrameObservationV2) : List String :=
  sortedSet (if productIds = [] then frames.flatMap fun f => (candidatesOf f).map (·.productId)
    else productIds)

/-- The end of `summarize_observations`: the models are filled from what the loop gathered. -/
def fillEvidence (params : SummaryParams) (frames : List FrameObservationV2)
    (mappings : List AoiMappingResultV2) (catalog : List String) (s : SummaryFold) :
    Except PyError EvidenceSummary := do
  let unambiguousCount := (s.byProduct.values.map (·.frames.length)).sum
  let summaries ← catalog.mapM fun productId =>
    (s.productAcc productId).summary productId unambiguousCount
  let windows ← (s.windowsRaw.zipIdx 1).mapM fun e => e.1.window e.2
  let quality ← dataQuality frames mappings params.expectedObservationCount
  let variant := if windows = [] then .b else params.inputVariant
  let versions ← signalVersions frames params.aoiMetadata
  let evidence ← construct {
    decisionRequestId := params.decisionRequestId
    inputVariant := variant
    sessionId := params.sessionId
    videoId := params.videoId
    manifestVersion := params.manifestVersion
    catalogVersion := params.catalogVersion
    featureVersion := featureVersion
    signalVersions := versions
    dataQuality := quality
    summary := summaries
    evidenceWindows := if variant = .b then none else some windows
    timeline := if variant = .c then none else some frames : RecommendationEvidenceV2 }
  return {
    evidence := evidence
    eligibleProductIds := catalog.filter fun productId => (s.productAcc productId).hasGaze
    continuityResetCount := s.continuityResetCount
    missingGazeCount := frames.countP (·.gaze.isNone)
    missingExpressionCount := frames.countP (·.expression.isNone)
    ambiguousAttentionCount := mappings.countP fun m => m.status == .ambiguousProduct }

/-- `summarize_observations` -/
def summarizeObservations (observations : List FrameObservationV2) (params : SummaryParams) :
    Except PyError EvidenceSummary :=
  let rawOrdered := ordered observations
  if rawOrdered = [] then
    .error (.valueError "at least one observation is required to build v2 evidence")
  else if rawOrdered.length > 512 then
    .error (.valueError "v2 evidence timeline is bounded to 512 observations")
  else do
    let mappings ← rawOrdered.mapM (mapFrame params.aoiMetadata)
    let frames := rawOrdered.zipWith enrichFrameWithAoi mappings
    let catalog := catalogIds params.productIds frames
    if catalog = [] then
      .error (.valueError "at least one catalog product is required to build v2 evidence")
    else if catalog.length > 10 then
      .error (.valueError "v2 evidence supports at most 10 catalog products")
    else do
      let s ← frames.foldlM (SummaryFold.turn params.maxContinuousGapMs) {}
      fillEvidence params frames mappings catalog s.closeWindow

end Mkk.Api
