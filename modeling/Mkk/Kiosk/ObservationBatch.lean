import Mkk.Kiosk.VideoLayout
import Mkk.Lib.Dict
import Mkk.Lib.Roots
import Mkk.Lib.Sorting

/-!
# Observation batches

`buildObservationBatchesV2` fuses the gaze, the missing gaze and the expression of each frame, puts the
frames in the order of their sequence, derives from each what it adds to the frames before, and cuts the
observations into batches. What is derived carries two continuities along, one of the gaze and one of
the expression. Strings collate by a key in a linear order.
-/

namespace Mkk.Kiosk

open Lib

/-! ## Samples -/

/-- What a frame is known by; the context in which it was captured. -/
structure FrameStamp where
  frameId : String
  sequence : ℕ
  capturedAtMonoMs : ℚ
  videoTimeMs : ℕ
  playbackEpoch : ℕ
deriving DecidableEq

/-- The key of a frame in the map of fused frames. -/
def FrameStamp.key (stamp : FrameStamp) : String := toString stamp.playbackEpoch ++ ":" ++ stamp.frameId

def ObservationBase.stamp (s : ObservationBase) : FrameStamp where
  frameId := s.frameId
  sequence := s.sequence
  capturedAtMonoMs := s.capturedAtMonoMs
  videoTimeMs := s.videoTimeMs
  playbackEpoch := s.playbackEpoch

inductive ExpressionOutcome where
  | valid (scores : Dict String ℚ)
  | invalid (faceDetected : Bool) (faceCount : ℕ) (reason : String)
deriving DecidableEq

/-- `ExpressionSample`. -/
structure ExpressionSample extends ObservationBase where
  taxonomyVersion : String
  quality : ℚ
  outcome : ExpressionOutcome
deriving DecidableEq

/-- `GazeUnavailableSample`. -/
structure GazeUnavailableSample extends FrameStamp where
  sessionId : String
  videoId : String
  reason : String
deriving DecidableEq

/-- A gaze sample that is valid. -/
structure ValidGaze where
  sample : GazeSample
  screenXNorm : ℚ
  screenYNorm : ℚ
  valid : sample.outcome = .valid screenXNorm screenYNorm

/-- An expression sample that is valid. -/
structure ValidExpression where
  sample : ExpressionSample
  scores : Dict String ℚ
  valid : sample.outcome = .valid scores

def GazeSample.valid? (s : GazeSample) : Option ValidGaze :=
  match h : s.outcome with
  | .valid x y => some ⟨s, x, y, h⟩
  | .invalid _ => none

def ExpressionSample.valid? (s : ExpressionSample) : Option ValidExpression :=
  match h : s.outcome with
  | .valid scores => some ⟨s, scores, h⟩
  | .invalid _ _ _ => none

/-- `BuildObservationBatchesV2Options`, with what is read of the manifest. -/
structure BuildOptions where
  batchId : String
  batchSequence : ℕ
  sessionId : String
  manifestVideoId : String
  manifestVersion : String
  gazeSamples : List GazeSample
  gazeUnavailableSamples : List GazeUnavailableSample := []
  expressionSamples : List ExpressionSample
  /-- `videoLayoutsByFrameId?.get`. -/
  videoLayout : String → Option VideoLayout

/-! ## Fusing frames -/

/-- `FusedFrame`. -/
structure FusedFrame extends FrameStamp where
  gaze : Option GazeSample := none
  gazeReason : Option String := none
  expression : Option ExpressionSample := none

/-- `if (!condition) throw new Error(text)`. -/
def check (condition : Bool) (text : String) : Except String Unit :=
  if condition then .ok () else .error text

section
variable (options : BuildOptions) (frames : Dict String FusedFrame)

/-- `requireMatchingContext`. -/
def requireMatchingContext (s : ObservationBase) : Except String Unit := do
  check (s.sessionId = options.sessionId) "Observation sample must match the batch session_id."
  check (s.videoId = options.manifestVideoId) "Observation sample must match the manifest video_id."

/-- `requireSameFrameContext`. -/
def requireSameFrameContext (frame stamp : FrameStamp) : Except String Unit :=
  check (frame.capturedAtMonoMs = stamp.capturedAtMonoMs && frame.videoTimeMs = stamp.videoTimeMs &&
    frame.playbackEpoch = stamp.playbackEpoch)
    "Signals with the same frame_id must preserve one capture context."

/-- The frame a sample belongs to, which is new if there is none yet. -/
def frameFor (stamp : FrameStamp) : Except String FusedFrame :=
  match frames.get? stamp.key with
  | none => .ok { toFrameStamp := stamp }
  | some frame => do
    requireSameFrameContext frame.toFrameStamp stamp
    check (frame.sequence = stamp.sequence)
      "Signals with the same frame_id must preserve one frame sequence."
    return frame

/-- `addSampleToFrames` with `gaze`. Two samples are one where their JSON is. -/
def addGazeSample (sample : GazeSample) : Except String (Dict String FusedFrame) := do
  requireMatchingContext options sample.toObservationBase
  let frame ← frameFor frames sample.stamp
  match frame.gaze with
  | some gaze => do
    check (gaze = sample) "Multiple gaze samples for one frame cannot be represented without loss."
    return frames
  | none => return frames.set sample.stamp.key { frame with gaze := some sample }

/-- `addSampleToFrames` with `expression`. -/
def addExpressionSample (sample : ExpressionSample) : Except String (Dict String FusedFrame) := do
  requireMatchingContext options sample.toObservationBase
  let frame ← frameFor frames sample.stamp
  match frame.expression with
  | some expression => do
    check (expression = sample)
      "Multiple expression samples for one frame cannot be represented without loss."
    return frames
  | none => return frames.set sample.stamp.key { frame with expression := some sample }

/-- A text is true when it is not empty. -/
def isTruthy : Option String → Bool
  | some s => s ≠ ""
  | none => false

/-- `addUnavailableGazeToFrames`. -/
def addUnavailableGaze (sample : GazeUnavailableSample) : Except String (Dict String FusedFrame) := do
  check (sample.sessionId = options.sessionId)
    "Unavailable gaze sample must match the batch session_id."
  check (sample.videoId = options.manifestVideoId)
    "Unavailable gaze sample must match the manifest video_id."
  let stamp := sample.toFrameStamp
  match frames.get? stamp.key with
  | some existing => do
    check (existing.capturedAtMonoMs = stamp.capturedAtMonoMs &&
      existing.videoTimeMs = stamp.videoTimeMs && existing.playbackEpoch = stamp.playbackEpoch &&
      existing.sequence = stamp.sequence) "Unavailable gaze must preserve one capture context."
    check (!(existing.gaze.isSome ||
      (isTruthy existing.gazeReason && existing.gazeReason ≠ some sample.reason)))
      "One frame cannot contain conflicting gaze results."
    return frames.set stamp.key { existing with gazeReason := some sample.reason }
  | none => return frames.set stamp.key { toFrameStamp := stamp, gazeReason := some sample.reason }

/-- The map of frames after the three loops of `fuseByFrameId`. -/
def collectFrames : Except String (Dict String FusedFrame) := do
  let frames ← options.gazeSamples.foldlM (addGazeSample options) Dict.empty
  let frames ← options.gazeUnavailableSamples.foldlM (addUnavailableGaze options) frames
  options.expressionSamples.foldlM (addExpressionSample options) frames

/-- The loop over `sequenceOwners`. -/
def checkOwners : Dict ℕ String → List FusedFrame → Except String Unit
  | _, [] => .ok ()
  | owners, frame :: rest => do
    let owner := owners.get? frame.sequence
    check (!(isTruthy owner && owner ≠ some frame.key))
      "Different frames cannot share one source sequence."
    checkOwners (owners.set frame.sequence frame.key) rest

variable {C : Type} [LinearOrder C] (collate : String → C)

/-- The key the frames are sorted by. -/
def frameRank (frame : FusedFrame) : ℕ ×ₗ ℚ ×ₗ C :=
  toLex (frame.sequence, toLex (frame.capturedAtMonoMs, collate frame.key))

/-- `fuseByFrameId`. -/
def fuseByFrameId : Except String (List FusedFrame) := do
  let frames ← collectFrames options
  let fusedFrames := sortOn (frameRank collate) frames.values
  checkOwners Dict.empty fusedFrames
  return fusedFrames

end

/-! ## Attention -/

/-- `AttentionObservationV2`, without its empty `candidates`. -/
structure AttentionObservation where
  outsideVideo : Bool
  videoNorm : Option (PyFloat × PyFloat)
  confidence : ℚ
  producerId : String := "kiosk-video-coordinate-v1"
  modelRevision : String := "video-coordinate-v1"
  manifestVersion : String

/-- `mapAttention`: the attention and the reason there is none. -/
def mapAttention (options : BuildOptions) (sample : GazeSample) :
    Except String (Option AttentionObservation × Option String) :=
  match options.videoLayout sample.frameId with
  | none => .ok (none, some "capture_layout_unavailable")
  | some layout => do
    let videoPoint ← mapGazeToVideoPoint sample layout
    let attention (outsideVideo : Bool) (videoNorm : Option (PyFloat × PyFloat)) :
        AttentionObservation :=
      { outsideVideo, videoNorm, confidence := sample.confidence,
        manifestVersion := options.manifestVersion }
    return match videoPoint with
    | .invalid reason => (none, some reason)
    | .outside => (some (attention true none), none)
    | .point x y => (some (attention false (some (x, y))), none)

/-! ## Continuity -/

/-- `CONTINUITY_GAP_MS`. -/
def continuityGapMs : ℚ := 1000

/-- `SUSTAINED_ACTION_THRESHOLD`. -/
def sustainedActionThreshold : ℚ := 1 / 2

/-- `isContinuityReset`. -/
def isContinuityReset (previous frame : FrameStamp) : Bool :=
  let elapsedMs := frame.capturedAtMonoMs - previous.capturedAtMonoMs
  frame.playbackEpoch ≠ previous.playbackEpoch || elapsedMs ≤ 0 || continuityGapMs < elapsedMs ||
    frame.videoTimeMs < previous.videoTimeMs

/-- Why there is no derived value on a reset. -/
def resetReason (forcedReset previous : Bool) : String :=
  if forcedReset || previous then "continuity_reset" else "no_previous_observation"

structure Movement where
  distanceNorm : Root
  speedNormPerS : Root

/-- `GazeDerivedV2`, whose `return_candidate` is always missing. -/
structure GazeDerived where
  movement : Option Movement
  movementReason : Option String
  continuousObservationMs : ℚ
  returnCandidateReason : String

/-- `GazeContinuity`. -/
structure GazeContinuity where
  gaze : ValidGaze
  runStartedAtMonoMs : ℚ

/-- `buildGazeDerived`. -/
def buildGazeDerived (gaze : ValidGaze) (frame : FrameStamp) (previous : Option GazeContinuity)
    (forcedReset : Bool) : GazeDerived × GazeContinuity :=
  let reason := resetReason forcedReset previous.isSome
  let restart : GazeDerived × GazeContinuity :=
    ({ movement := none, movementReason := some reason, continuousObservationMs := 0,
       returnCandidateReason := reason },
      { gaze, runStartedAtMonoMs := frame.capturedAtMonoMs })
  match previous with
  | none => restart
  | some previous =>
    if forcedReset || isContinuityReset previous.gaze.sample.stamp frame then restart
    else
      let elapsedMs := frame.capturedAtMonoMs - previous.gaze.sample.capturedAtMonoMs
      let distance := Root.hypot (gaze.screenXNorm - previous.gaze.screenXNorm)
        (gaze.screenYNorm - previous.gaze.screenYNorm)
      ({ movement := some
           { distanceNorm := distance, speedNormPerS := distance.div (Root.ofRat (elapsedMs / 1000)) }
         movementReason := none
         continuousObservationMs := frame.capturedAtMonoMs - previous.runStartedAtMonoMs
         returnCandidateReason := "backend_aoi_required" },
        { gaze, runStartedAtMonoMs := previous.runStartedAtMonoMs })

/-! ## Expression -/

/-- The names every object inherits. -/
def objectPrototypeNames : List String :=
  ["constructor", "__defineGetter__", "__defineSetter__", "hasOwnProperty", "__lookupGetter__",
    "__lookupSetter__", "isPrototypeOf", "propertyIsEnumerable", "toString", "valueOf", "__proto__",
    "toLocaleString"]

/-- `label in scores`, which is true of inherited names as well. -/
def inScores (label : String) (scores : Dict String ℚ) : Bool :=
  (scores.get? label).isSome || objectPrototypeNames.contains label

structure SustainedAction where
  signal : String
  durationMs : ℚ

/-- `ExpressionDerivedV2`; a change that is not a number is none. -/
structure ExpressionDerived where
  scoreChanges : Option (List (String × Option ℚ))
  scoreChangeRatesPerS : Option (List (String × Option ℚ))
  changeReason : Option String
  sustainedActions : List SustainedAction

/-- `ExpressionContinuity`. -/
structure ExpressionContinuity where
  expression : ValidExpression
  sustainedStartedAtMonoMs : Dict String ℚ

/-- The first loop over `sustainedStartedAt`, at the score of a label. -/
def sustainLabel (capturedAt : ℚ) (started : Dict String ℚ) (entry : String × ℚ) : Dict String ℚ :=
  let started :=
    if sustainedActionThreshold ≤ entry.2 ∧ started.get? entry.1 = none then
      started.set entry.1 capturedAt
    else started
  if entry.2 < sustainedActionThreshold then started.pop entry.1 else started

/-- `sustainedStartedAt` after the loops over the scores and over its own keys. -/
def sustainedAfter (capturedAt : ℚ) (started scores : Dict String ℚ) : Dict String ℚ :=
  (scores.entries.foldl (sustainLabel capturedAt) started).filter fun label _ => inScores label scores

/-- The changes of the shared labels; an assignment to `__proto__` is not kept. -/
def scoreChangesOf (scores previousScores : Dict String ℚ) : List (String × Option ℚ) :=
  (scores.entries.filter fun e => inScores e.1 previousScores && e.1 ≠ "__proto__").map fun e =>
    (e.1, (previousScores.get? e.1).map (e.2 - ·))

section
variable {C : Type} [LinearOrder C] (collate : String → C)

/-- `buildExpressionDerived`. -/
def buildExpressionDerived (expression : ValidExpression) (frame : FrameStamp)
    (previous : Option ExpressionContinuity) (forcedReset : Bool) :
    ExpressionDerived × ExpressionContinuity :=
  let scores := expression.scores
  let restart : ExpressionDerived × ExpressionContinuity :=
    ({ scoreChanges := none, scoreChangeRatesPerS := none,
       changeReason := some (resetReason forcedReset previous.isSome), sustainedActions := [] },
      { expression, sustainedStartedAtMonoMs := sustainedAfter frame.capturedAtMonoMs .empty scores })
  match previous with
  | none => restart
  | some previous =>
    if forcedReset || isContinuityReset previous.expression.sample.stamp frame then restart
    else
      let elapsedMs := frame.capturedAtMonoMs - previous.expression.sample.capturedAtMonoMs
      let previousScores := previous.expression.scores
      let changes := scoreChangesOf scores previousScores
      let rates := changes.map fun e => (e.1, e.2.map (· / (elapsedMs / 1000)))
      let hasSharedLabels := scores.entries.any fun e => inScores e.1 previousScores
      let ratesAreInContractRange := rates.all fun e => e.2.any fun rate => |rate| ≤ 1000
      let calculable := hasSharedLabels && ratesAreInContractRange
      let started := sustainedAfter frame.capturedAtMonoMs previous.sustainedStartedAtMonoMs scores
      ({ scoreChanges := if calculable then some changes else none
         scoreChangeRatesPerS := if calculable then some rates else none
         changeReason :=
           if !hasSharedLabels then some "no_shared_taxonomy_signal"
           else if ratesAreInContractRange then none else some "rate_out_of_range"
         sustainedActions := (sortOn (fun e => collate e.1) started.entries).map fun e =>
           { signal := e.1, durationMs := frame.capturedAtMonoMs - e.2 } },
        { expression, sustainedStartedAtMonoMs := started })

end

/-! ## Observations -/

structure GazeObservation where
  screenXNorm : ℚ
  screenYNorm : ℚ
  confidence : ℚ
  producerId : String
  modelRevision : String
  calibrationId : String

structure ExpressionObservation where
  scores : Dict String ℚ
  quality : ℚ
  confidence : ℚ
  producerId : String
  modelRevision : String
  taxonomyVersion : String

/-- `FrameObservationV2`. -/
structure FrameObservation extends FrameStamp where
  sessionOffsetMs : ℚ
  gaze : Option GazeObservation
  gazeReason : Option String
  attention : Option AttentionObservation
  attentionReason : Option String
  expression : Option ExpressionObservation
  expressionReason : Option String
  derivedGaze : Option GazeDerived
  derivedGazeReason : Option String
  derivedExpression : Option ExpressionDerived
  derivedExpressionReason : Option String

def ValidGaze.observation (gaze : ValidGaze) : GazeObservation where
  screenXNorm := gaze.screenXNorm
  screenYNorm := gaze.screenYNorm
  confidence := gaze.sample.confidence
  producerId := gaze.sample.producerId
  modelRevision := gaze.sample.modelRevision
  calibrationId := gaze.sample.calibrationId

def ValidExpression.observation (expression : ValidExpression) : ExpressionObservation where
  scores := expression.scores
  quality := expression.sample.quality
  confidence := expression.sample.confidence
  producerId := expression.sample.producerId
  modelRevision := expression.sample.modelRevision
  taxonomyVersion := expression.sample.taxonomyVersion

namespace FusedFrame

variable (frame : FusedFrame)

def validGaze : Option ValidGaze := frame.gaze.bind GazeSample.valid?

def validExpression : Option ValidExpression := frame.expression.bind ExpressionSample.valid?

/-- `gazeSample?.reason ?? frame.gaze_reason ?? "not_observed"`, of a frame without a valid gaze. -/
def missingGaze : String :=
  match frame.gaze.map fun sample => sample.outcome with
  | some (GazeOutcome.invalid reason) => reason
  | _ => frame.gazeReason.getD "not_observed"

/-- `expressionSample?.reason ?? "not_observed"`, of a frame without a valid expression. -/
def missingExpression : String :=
  match frame.expression.map fun sample => sample.outcome with
  | some (ExpressionOutcome.invalid _ _ reason) => reason
  | _ => "not_observed"

end FusedFrame

/-- The variables `buildObservations` carries along. -/
structure BuildState where
  gazeContinuity : Option GazeContinuity := none
  expressionContinuity : Option ExpressionContinuity := none
  gazeWasReset : Bool := false
  expressionWasReset : Bool := false
  lastSessionOffsetMs : ℚ := 0

/-- A value where there is none of another, and none where there is one. -/
def reasonUnless {α β : Type} (value : Option α) (reason : β) : Option β :=
  match value with
  | some _ => none
  | none => some reason

section
variable (options : BuildOptions) {C : Type} [LinearOrder C] (collate : String → C)

/-- What `buildObservations` makes of a frame. -/
def observe (firstCapturedAt : ℚ) (s : BuildState) (frame : FusedFrame) :
    Except String (FrameObservation × BuildState) := do
  let (attention, attentionReason) ← match frame.validGaze with
    | some gaze => mapAttention options gaze.sample
    | none => .ok (none, some "source_gaze_unavailable")
  let gaze := frame.validGaze.map fun gaze =>
    buildGazeDerived gaze frame.toFrameStamp s.gazeContinuity s.gazeWasReset
  let expression := frame.validExpression.map fun expression =>
    buildExpressionDerived collate expression frame.toFrameStamp s.expressionContinuity
      s.expressionWasReset
  let capturedOffset := max 0 (frame.capturedAtMonoMs - firstCapturedAt)
  let lastSessionOffsetMs := max s.lastSessionOffsetMs capturedOffset
  return (
    { toFrameStamp := frame.toFrameStamp
      sessionOffsetMs := lastSessionOffsetMs
      gaze := frame.validGaze.map (·.observation)
      gazeReason := reasonUnless frame.validGaze frame.missingGaze
      attention
      attentionReason := attention.elim attentionReason fun _ => none
      expression := frame.validExpression.map (·.observation)
      expressionReason := reasonUnless frame.validExpression frame.missingExpression
      derivedGaze := gaze.map (·.1)
      derivedGazeReason := reasonUnless gaze "source_gaze_unavailable"
      derivedExpression := expression.map (·.1)
      derivedExpressionReason := reasonUnless expression "source_expression_unavailable" },
    { gazeContinuity := gaze.map (·.2)
      expressionContinuity := expression.map (·.2)
      gazeWasReset := gaze.isNone
      expressionWasReset := expression.isNone
      lastSessionOffsetMs })

/-- The observations of the frames that are left. -/
def observeAll (firstCapturedAt : ℚ) : BuildState → List FusedFrame → Except String (List FrameObservation)
  | _, [] => .ok []
  | s, frame :: rest => do
    let (observation, next) ← observe options collate firstCapturedAt s frame
    let observations ← observeAll firstCapturedAt next rest
    return observation :: observations

/-- `buildObservations`. -/
def buildObservations : Except String (List FrameObservation) := do
  let frames ← fuseByFrameId options collate
  let firstCapturedAt := (frames.head?.map (·.capturedAtMonoMs)).getD 0
  observeAll options collate firstCapturedAt {} frames

/-! ## Batches -/

/-- `MAX_OBSERVATIONS_PER_BATCH`. -/
def maxObservationsPerBatch : ℕ := 256

/-- The slices of a list. -/
def chunks {α : Type} : List α → List (List α)
  | [] => []
  | a :: rest =>
    (a :: rest).take maxObservationsPerBatch :: chunks ((a :: rest).drop maxObservationsPerBatch)
termination_by l => l.length
decreasing_by
  rw [List.length_drop, List.length_cons, maxObservationsPerBatch]
  omega

/-- `ObservationBatchV2`. -/
structure ObservationBatch where
  batchId : String
  batchSequence : ℕ
  sessionId : String
  videoId : String
  observations : List FrameObservation

/-- The batch of a chunk, by its index. -/
def batchOf (chunk : List FrameObservation) (chunkIndex : ℕ) : ObservationBatch where
  batchId :=
    if chunkIndex = 0 then options.batchId else options.batchId ++ "-" ++ toString (chunkIndex + 1)
  batchSequence := options.batchSequence + chunkIndex
  sessionId := options.sessionId
  videoId := options.manifestVideoId
  observations := chunk

/-- `buildObservationBatchesV2`. -/
def buildObservationBatchesV2 : Except String (List ObservationBatch) := do
  let observations ← buildObservations options collate
  return (chunks observations).mapIdx fun chunkIndex chunk => batchOf options chunk chunkIndex

end

end Mkk.Kiosk
