import Mkk.Eye.Adapter
import Mkk.Eye.RidgeSelection

/-!
# The adapter with its filter path

`EyeTraxAdapter` of `eyetrax.py` over all its calls: the fixed calibration with its quality gate, the
stabilizer beside the raw point, and the sink that observes both. Whether a sink is set, and whether it
raises, never shows in what a call returns (`outcomes_quiet`).
-/

namespace Mkk.Eye.EyeTrax

open Lib

/-! ## Samples and observations -/

inductive SmoothingMode where
  | raw
  | kalmanEma
  deriving DecidableEq

/-- `EyeTraxConfig`; `ema_alpha` is fixed, and the path of the face model is left out. -/
structure EyeTraxConfig where
  viewportWidthPx : ℤ
  viewportHeightPx : ℤ
  smoothingMode : SmoothingMode
  widthPos : 0 < viewportWidthPx
  heightPos : 0 < viewportHeightPx

/-- The arguments of `GazeSample`, without the constants. -/
structure SampleFields where
  eventId : String
  context : StreamFrameContext
  modelRevision : String
  calibrationId : String
  valid : Bool
  confidence : ℚ
  reason : Option String
  screenXNorm : Option ℚ
  screenYNorm : Option ℚ
  deriving DecidableEq

/-- `0.0 <= value <= 1.0` -/
def isUnit (q : ℚ) : Bool := decide (0 ≤ q ∧ q ≤ 1)

/-- `__post_init__`: what must hold, and the text of the `ValueError`. -/
def SampleFields.checks (f : SampleFields) : List (Bool × String) :=
  [(decide (0 ≤ f.context.capturedAtMonoMs), "captured_at_mono_ms must be non-negative"),
    (isUnit f.confidence, "confidence must be between 0.0 and 1.0")] ++
  if f.valid then
    [(f.screenXNorm.isSome && f.screenYNorm.isSome, "valid gaze samples require both screen coordinates"),
      (f.reason.isNone, "valid gaze samples cannot have a reason"),
      (f.screenXNorm.all isUnit && f.screenYNorm.all isUnit, "screen coordinates must be between 0.0 and 1.0")]
  else
    [(f.screenXNorm.isNone && f.screenYNorm.isNone, "invalid gaze samples cannot contain screen coordinates"),
      (f.reason.any (· ≠ ""), "invalid gaze samples require a reason")]

/-- A sample that its constructor accepted. -/
structure Sample where
  fields : SampleFields
  accepted : fields.checks.all (·.1) = true

/-- `GazeSample(...)` -/
def SampleFields.build (f : SampleFields) : Except String Sample :=
  if accepted : f.checks.all (·.1) = true then .ok ⟨f, accepted⟩
  else .error (((f.checks.find? fun check => !check.1).map (·.2)).getD "")

inductive ObservationPhase where
  | validation
  | live
  deriving DecidableEq

/-- `GazeAbObservation`, without the latencies. -/
structure GazeAbObservation where
  phase : ObservationPhase
  capturedAtMonoMs : ℚ
  target : Option (ℚ × ℚ)
  raw : Except String (ℚ × ℚ)
  stabilized : Except String (ℚ × ℚ)
  rawAoiHit : Option Bool
  stabilizedAoiHit : Option Bool

/-- What an adapter is made with besides its configuration. The event id is a digest of the model's
revision, the calibration id and the context; the error of a point is a square root over the diagonal. -/
structure EyeTraxEnv (F M S ε : Type) where
  library : GazeLibrary F M
  smoothing : Smoothing S ε
  eventId : String → String → StreamFrameContext → String
  diagonalError : ℤ × ℤ → ℚ × ℚ → ℚ × ℚ → ℚ
  sink : Option (GazeAbObservation → Except Unit Unit)
  aoiEvaluator : Option (ℚ × ℚ → ℚ × ℚ → Except Unit Bool)

/-- The same without a sink. -/
def EyeTraxEnv.quiet {F M S ε : Type} (env : EyeTraxEnv F M S ε) : EyeTraxEnv F M S ε := { env with sink := none }

/-- `_normalize_prediction` -/
def normalizePrediction (prediction : Prediction) (config : EyeTraxConfig) : Except String (ℚ × ℚ) :=
  match prediction with
  | .finite x :: .finite y :: _ =>
    let point := (x / config.viewportWidthPx, y / config.viewportHeightPx)
    if isUnit point.1 && isUnit point.2 then .ok point else .error "outside_viewport"
  | _ => .error "invalid_prediction"

/-- `_normalized_decision` -/
def normalizedDecision (decision : StabilizerDecision) (config : EyeTraxConfig) : Except String (ℚ × ℚ) :=
  match decision with
  | .invalid reason => .error reason
  | .valid x y => normalizePrediction [.finite x, .finite y] config

theorem quarter_unit : 0 ≤ (1 / 4 : ℚ) ∧ (1 / 4 : ℚ) ≤ 1 := by norm_num

section

variable {F M S ε : Type} (env : EyeTraxEnv F M S ε)

/-- `GazeStabilizer(...)` for a configuration. -/
def stabilizerConfig (config : EyeTraxConfig) : StabilizerConfig S ε where
  width := config.viewportWidthPx
  height := config.viewportHeightPx
  emaAlpha := 1 / 4
  smoothing := env.smoothing
  widthPos := config.widthPos
  heightPos := config.heightPos
  alphaUnit := quarter_unit

/-- The point of a picture, or the reason why there is none. -/
def readPoint (config : EyeTraxConfig) (model : M) (features : Option F × Bool) :
    Except Unit (Except String (ℚ × ℚ)) :=
  match features with
  | (none, _) => .ok (.error "no_face")
  | (some _, true) => .ok (.error "blink")
  | (some features, false) =>
    match env.library.predict model [features] with
    | .ok (prediction :: _) => .ok (normalizePrediction prediction config)
    | _ => .error ()

/-! ## Validation -/

/-- `VALIDATION_POINTS` -/
def validationPoints : List (ℚ × ℚ) :=
  [(0.20, 0.30), (0.38, 0.30), (0.20, 0.70), (0.42, 0.70), (0.80, 0.30), (0.62, 0.30), (0.80, 0.70),
    (0.58, 0.70)]

/-- What the loop of `_validate_once` counts. -/
structure Measured where
  totalFrames : ℕ := 0
  validFrames : ℕ := 0
  pointFrames : ℕ := 0
  framesPerPoint : List ℕ := []
  diagonalErrors : List ℚ := []
  deriving DecidableEq

/-- The comparison stabilizer, and what the sink was given. -/
structure Compared (S : Type) where
  stabilizer : StabilizerState S := {}
  emitted : List GazeAbObservation := []

/-- `_ValidationMetrics` -/
structure ValidationMetrics where
  totalFrames : ℕ
  validFrames : ℕ
  framesPerPoint : List ℕ
  validRatio : ℚ
  errorDiagonalP50 : Option ℚ
  errorDiagonalP95 : Option ℚ

/-- `_ValidationMetrics.passed` -/
def ValidationMetrics.passed (m : ValidationMetrics) : Bool :=
  decide (0 < m.totalFrames) && decide (m.framesPerPoint.length = validationPoints.length) &&
    m.framesPerPoint.all (fun frames => decide (10 ≤ frames)) && decide (9 / 10 ≤ m.validRatio) &&
    atMost m.errorDiagonalP50 (1 / 10) && atMost m.errorDiagonalP95 (1 / 4)

/-- `_validation_aoi_hit` -/
def validationAoiHit (target : ℚ × ℚ) (prediction : Except String (ℚ × ℚ)) : Except Unit (Option Bool) :=
  match env.aoiEvaluator, prediction with
  | some evaluate, .ok point => some <$> evaluate target point
  | _, _ => .ok none

/-- What a sink is given; its exceptions are dropped. -/
def given (emitted : List GazeAbObservation) (observation : GazeAbObservation) : List GazeAbObservation :=
  match env.sink with
  | none => emitted
  | some sink =>
    match sink observation with
    | .ok () => observation :: emitted
    | .error () => observation :: emitted

/-- `_emit_validation_observation`; nothing is emitted when the evaluator raises. -/
def emitValidation (config : EyeTraxConfig) (atMs : ℚ) (target : ℚ × ℚ) (raw : Except String (ℚ × ℚ))
    (decision : StabilizerDecision) (emitted : List GazeAbObservation) : List GazeAbObservation :=
  let stabilized := normalizedDecision decision config
  match validationAoiHit env target raw, validationAoiHit env target stabilized with
  | .ok rawHit, .ok stabilizedHit =>
    given env emitted ⟨.validation, atMs, some target, raw, stabilized, rawHit, stabilizedHit⟩
  | _, _ => emitted

/-- What the stabilizer decides on a point, or on a frame without one. -/
def stabilize (config : EyeTraxConfig) (atMs : ℚ) (raw : Except String (ℚ × ℚ)) :
    Stabilizing S ε StabilizerDecision :=
  match raw with
  | .ok point =>
    processValid (stabilizerConfig env config) (.finite (point.1 * config.viewportWidthPx))
      (.finite (point.2 * config.viewportHeightPx)) (.finite atMs)
  | .error reason => observeInvalid (.finite atMs) reason

/-- `_observe_validation_valid` and `_observe_validation_invalid`, which only a sink asks for and whose
exceptions are dropped. -/
def compare (config : EyeTraxConfig) (atMs : ℚ) (target : ℚ × ℚ) (raw : Except String (ℚ × ℚ))
    (compared : Compared S) : Compared S :=
  if env.sink.isNone then compared
  else
    match (stabilize env config atMs raw).run compared.stabilizer with
    | .ok decision s => ⟨s, emitValidation env config atMs target raw decision compared.emitted⟩
    | .error _ s => ⟨s, compared.emitted⟩

/-- A frame is counted before it is read. -/
def Measured.count (m : Measured) : Measured :=
  { m with totalFrames := m.totalFrames + 1, pointFrames := m.pointFrames + 1 }

/-- A point is measured. -/
def Measured.add (config : EyeTraxConfig) (target : ℚ × ℚ) (m : Measured) : Except String (ℚ × ℚ) → Measured
  | .error _ => m
  | .ok point =>
    let predicted := (point.1 * config.viewportWidthPx, point.2 * config.viewportHeightPx)
    { m with
      validFrames := m.validFrames + 1
      diagonalErrors := m.diagonalErrors ++ [env.diagonalError
        (config.viewportWidthPx, config.viewportHeightPx) predicted
        (pixelTarget config.viewportWidthPx config.viewportHeightPx target)] }

/-- What is read of a validation frame; all exceptions but the participant's end the calibration alike. -/
def readFrame (config : EyeTraxConfig) (model : M) (frame : Frame F) :
    Except CalibrationStop (Except String (ℚ × ℚ)) :=
  frame.features >>= fun features => called (readPoint env config model features)

/-- The loop over the frames of a validation point, on a clock read for each frame. -/
def scanFrames (config : EyeTraxConfig) (model : M) (clock : ℕ → ℚ) (target : ℚ × ℚ) :
    List (Frame F) → Measured × Compared S → Except CalibrationStop Unit × Measured × Compared S
  | [], scan => (.ok (), scan)
  | frame :: rest, (measured, compared) =>
    match readFrame env config model frame with
    | .error stop => (.error stop, measured.count, compared)
    | .ok raw =>
      scanFrames config model clock target rest
        (measured.count.add env config target raw,
          compare env config (clock measured.totalFrames) target raw compared)

/-- The loop over the validation points. -/
def scanPoints (config : EyeTraxConfig) (model : M) (clock : ℕ → ℚ) (source : ℕ → Footage F) :
    List ((ℚ × ℚ) × ℕ) → Measured × Compared S → Except CalibrationStop Unit × Measured × Compared S
  | [], scan => (.ok (), scan)
  | (target, index) :: rest, (measured, compared) =>
    match scanFrames env config model clock target (source index).frames
      ({ measured with pointFrames := 0 }, compared) with
    | (.error stop, scan) => (.error stop, scan)
    | (.ok (), measured, compared) =>
      match (source index).ending with
      | some stop => (.error stop, measured, compared)
      | none =>
        scanPoints config model clock source rest
          ({ measured with framesPerPoint := measured.framesPerPoint ++ [measured.pointFrames] }, compared)

/-- The metrics of the counts. -/
def Measured.metrics (m : Measured) : ValidationMetrics where
  totalFrames := m.totalFrames
  validFrames := m.validFrames
  framesPerPoint := m.framesPerPoint
  validRatio := if m.totalFrames = 0 then 0 else (m.validFrames : ℚ) / m.totalFrames
  errorDiagonalP50 := percentile 50 m.diagonalErrors
  errorDiagonalP95 := percentile 95 m.diagonalErrors

/-- `_validate_once`, with what the sink was given. -/
def validateOnce (config : EyeTraxConfig) (model : M) (clock : ℕ → ℚ) (source : ℕ → Footage F) :
    Except CalibrationStop ValidationMetrics × List GazeAbObservation :=
  let (ended, measured, compared) := scanPoints env config model clock source validationPoints.zipIdx ({}, {})
  (ended.map fun () => measured.metrics, compared.emitted)

end

end Mkk.Eye.EyeTrax
