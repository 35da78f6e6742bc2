import Mkk.Eye.FilterPath

/-!
# The calls of the adapter

The state of `EyeTraxAdapter` and its calls, each with the exceptions it raises and the state it leaves.
-/

namespace Mkk.Eye.EyeTrax

open Lib

/-- The exceptions of the calls: `AdapterStateError`, `EyeTraxModelError`, `EyeTraxRuntimeError`, the refusal
of a frame, and the `ValueError` of a sample. -/
inductive AdapterError where
  | state
  | model
  | runtime
  | frame
  | value (message : String)
  deriving DecidableEq

/-- `CalibrationResult` -/
structure CalibrationResult where
  calibrationId : String
  valid : Bool
  reason : Option String
  deriving DecidableEq

structure Adapter (S M : Type) where
  config : EyeTraxConfig
  modelRevision : String
  stabilizer : StabilizerState S := {}
  /-- The ridge model of `_estimator`, when there is an estimator. -/
  estimator : Option M := none
  initialized : Bool := false
  warmed : Bool := false
  calibrating : Bool := false
  calibrated : Bool := false
  calibrationId : Option String := none
  calibrationConfidence : ℚ := 1
  streamIdentity : Option (String × String × ℕ) := none
  lastOrder : Option (ℚ × ℕ) := none
  sampleCache : Dict String Sample := Dict.empty
  /-- What the sink was given, the latest first. -/
  emitted : List GazeAbObservation := []

/-- `EYETRAX_SOURCE_REVISION` -/
def sourceRevision : String := "84e13a16af168ac7c383f7d50ec901cd6c0ad61d"

def SmoothingMode.suffix : SmoothingMode → String
  | raw => "raw-v1"
  | kalmanEma => "gaze-filter-v1"

/-- What `SessionCalibration.run` ends with: a fitted model for a viewport, its failure, or another
exception. -/
inductive EngineOutcome (M : Type) where
  | passed (model : M) (width height : ℤ) (widthPos : 0 < width) (heightPos : 0 < height) (qualityValid : Bool)
  | failed (reason : String)
  | error

section

variable {F M S ε : Type} (env : EyeTraxEnv F M S ε)

namespace Adapter

/-- `__init__` -/
def new (config : EyeTraxConfig) : Adapter S M where
  config := config
  modelRevision := sourceRevision ++ "+" ++ config.smoothingMode.suffix

/-- `_reset_runtime_state` -/
def resetRuntimeState (a : Adapter S M) : Adapter S M :=
  { a with
    stabilizer := a.stabilizer.reset .asked
    streamIdentity := none
    lastOrder := none
    sampleCache := Dict.empty }

/-- `initialize`, with the model an estimator starts with, or why there is none. -/
def initializeAdapter (created : Except AdapterError M) (a : Adapter S M) : Except AdapterError Unit × Adapter S M :=
  if a.initialized then (.ok (), a)
  else
    match created with
    | .error e => (.error e, a)
    | .ok model =>
      (.ok (), { a with
        estimator := some model, initialized := true, warmed := false, calibrated := false
        calibrationId := none }.resetRuntimeState)

/-- `dispose` -/
def dispose (closed : Except Unit Unit) (a : Adapter S M) : Except AdapterError Unit × Adapter S M :=
  let left := { a with
    estimator := none, initialized := false, warmed := false, calibrating := false, calibrated := false
    calibrationId := none }.resetRuntimeState
  match a.estimator, closed with
  | some _, .error () => (.error .runtime, left)
  | _, _ => (.ok (), left)

/-- `warmup`; when `extract_features` raises on the black frame the adapter is disposed. -/
def warmup (extracted : Except Unit Unit) (closed : Except Unit Unit) (a : Adapter S M) :
    Except AdapterError Unit × Adapter S M :=
  if !a.initialized then (.error .state, a)
  else if a.warmed then (.ok (), a)
  else
    match a.estimator, extracted with
    | none, _ => (.error .state, a)
    | some _, .error () => (.error .runtime, (a.dispose closed).2)
    | some _, .ok () => (.ok (), { a with warmed := true })

/-- The start of a calibration. -/
def startCalibration (a : Adapter S M) (calibrationId : String) : Adapter S M :=
  { a.resetRuntimeState with
    calibrationId := some calibrationId, calibrated := false, calibrationConfidence := 1, calibrating := true }

/-- The `finally` of `calibrate` after a failure: a fresh model, but the id stays. -/
def failCalibration (a : Adapter S M) : Adapter S M :=
  { a with calibrating := false, estimator := some (env.library.createModel 1) }

/-- `calibrate` -/
def calibrate (calibrationId : String) (training validation : ℕ → Footage F) (clock : ℕ → ℚ)
    (a : Adapter S M) : Except AdapterError CalibrationResult × Adapter S M :=
  if !(a.initialized && a.warmed) then (.error .state, a)
  else
    let begun := a.startCalibration calibrationId
    let refused (reason : String) (a : Adapter S M) : Except AdapterError CalibrationResult × Adapter S M :=
      (.ok ⟨calibrationId, false, some reason⟩, a.failCalibration env)
    match a.estimator with
    | none => (.error .state, { begun with calibrating := false })
    | some _ =>
      match trainOnce env.library a.config.viewportWidthPx a.config.viewportHeightPx training with
      | .error .cancelled => refused "calibration_cancelled" begun
      | .error .failed => refused "calibration_error" begun
      | .ok none => refused "no_face" begun
      | .ok (some model) =>
        let validated := validateOnce env a.config model clock validation
        let observed := { begun with emitted := validated.2 ++ begun.emitted }
        match validated.1 with
        | .error .cancelled => refused "calibration_cancelled" observed
        | .error .failed => refused "calibration_error" observed
        | .ok metrics =>
          if metrics.passed then
            (.ok ⟨calibrationId, true, none⟩,
              { observed with calibrating := false, calibrated := true, estimator := some model })
          else refused "quality_gate_failed" observed

/-- `calibrate_synchronized` -/
def calibrateSynchronized (calibrationId : String) (outcome : EngineOutcome M) (a : Adapter S M) :
    Except AdapterError CalibrationResult × Adapter S M :=
  if !(a.initialized && a.warmed) then (.error .state, a)
  else
    let begun := a.startCalibration calibrationId
    let refused (reason : String) : Except AdapterError CalibrationResult × Adapter S M :=
      (.ok ⟨calibrationId, false, some reason⟩,
        { begun with
          calibrating := false, estimator := some (env.library.createModel 1), calibrationId := none })
    match a.estimator, outcome with
    | none, _ => (.error .state, begun)
    | some _, .failed reason => refused reason
    | some _, .error => refused "calibration_error"
    | some _, .passed model width height widthPos heightPos qualityValid =>
      (.ok ⟨calibrationId, true, none⟩,
        { begun with
          calibrating := false
          calibrated := true
          estimator := some model
          config := { a.config with
            viewportWidthPx := width, viewportHeightPx := height, widthPos := widthPos, heightPos := heightPos }
          stabilizer := {}
          modelRevision := sourceRevision ++ "+" ++ a.config.smoothingMode.suffix ++ "+calibration-v2" ++
            (if qualityValid then "" else "+low-confidence") })

/-- `discard_calibration` -/
def discardCalibration (a : Adapter S M) : Except AdapterError Unit × Adapter S M :=
  let left := { a.resetRuntimeState with calibrationId := none, calibrated := false, calibrationConfidence := 1 }
  match a.estimator with
  | none => (.error .state, left)
  | some _ => (.ok (), { left with estimator := some (env.library.createModel 1) })

/-! ## Inference -/

/-- `_SAMPLE_CACHE_LIMIT` -/
def sampleCacheLimit : ℕ := 64

/-- The end of a call: the sample is made and cached, and the oldest one goes when there are too many. -/
def answer (fields : SampleFields) (a : Adapter S M) : Except AdapterError Sample × Adapter S M :=
  match fields.build with
  | .error message => (.error (.value message), a)
  | .ok sample =>
    let cache := a.sampleCache.set fields.eventId sample
    let cache :=
      match cache.keys with
      | [] => cache
      | oldest :: _ => if sampleCacheLimit < cache.size then cache.pop oldest else cache
    (.ok sample, { a with sampleCache := cache })

/-- The fields of a sample: a point, or the reason why there is none. -/
def sampleFields (a : Adapter S M) (eventId calibrationId : String) (context : StreamFrameContext)
    (point : Except String (ℚ × ℚ)) : SampleFields where
  eventId := eventId
  context := context
  modelRevision := a.modelRevision
  calibrationId := calibrationId
  valid := point.isOk
  confidence := if point.isOk then a.calibrationConfidence else 0
  reason := match point with
    | .ok _ => none
    | .error reason => some reason
  screenXNorm := point.toOption.map (·.1)
  screenYNorm := point.toOption.map (·.2)

/-- `_filter_path_enabled` -/
def filterPathEnabled (a : Adapter S M) : Bool :=
  decide (a.config.smoothingMode = .kalmanEma) || env.sink.isSome

/-- The stabilizer beside the raw point; when it raises it is reset. -/
def filter (a : Adapter S M) (atMs : ℚ) (raw : Except String (ℚ × ℚ)) :
    Except String (ℚ × ℚ) × Adapter S M :=
  if a.filterPathEnabled env then
    match (stabilize env a.config atMs raw).run a.stabilizer with
    | .ok decision s => (normalizedDecision decision a.config, { a with stabilizer := s })
    | .error _ s => (.error "gaze_unavailable", { a with stabilizer := s.reset .asked })
  else
    match raw with
    | .ok point =>
      (normalizedDecision (.valid (roundHalfEven (point.1 * a.config.viewportWidthPx))
        (roundHalfEven (point.2 * a.config.viewportHeightPx))) a.config, a)
    | .error reason => (.error reason, a)

/-- The stabilizer is all that changes. -/
theorem filter_beside (a : Adapter S M) (atMs : ℚ) (raw : Except String (ℚ × ℚ)) :
    ∃ s, (a.filter env atMs raw).2 = { a with stabilizer := s } := by
  unfold filter
  split
  · cases (stabilize env a.config atMs raw).run a.stabilizer with
    | ok decision s => exact ⟨s, rfl⟩
    | error e s => exact ⟨s.reset .asked, rfl⟩
  · cases raw <;> exact ⟨a.stabilizer, rfl⟩

/-- `_emit_observation` of a live frame. -/
def emit (a : Adapter S M) (atMs : ℚ) (raw stabilized : Except String (ℚ × ℚ)) : Adapter S M :=
  { a with emitted := given env a.emitted ⟨.live, atMs, none, raw, stabilized, none, none⟩ }

/-- `_invalid_runtime_sample` -/
def invalidRuntimeSample (a : Adapter S M) (eventId calibrationId : String) (context : StreamFrameContext)
    (reason : String) : Except AdapterError Sample × Adapter S M :=
  let (stabilized, filtered) := a.filter env context.capturedAtMonoMs (.error reason)
  (filtered.emit env context.capturedAtMonoMs (.error reason) stabilized).answer
    (a.sampleFields eventId calibrationId context (.error reason))

/-- The sample of a usable point. -/
def pointSample (a : Adapter S M) (eventId calibrationId : String) (context : StreamFrameContext)
    (normalized : ℚ × ℚ) : Except AdapterError Sample × Adapter S M :=
  let (stabilized, filtered) := a.filter env context.capturedAtMonoMs (.ok normalized)
  let shown := match a.config.smoothingMode with
    | .raw => .ok normalized
    | .kalmanEma => stabilized.mapError fun reason => if reason = "" then "invalid_prediction" else reason
  (filtered.emit env context.capturedAtMonoMs (.ok normalized) stabilized).answer
    (a.sampleFields eventId calibrationId context shown)

/-- `_invalid_runtime_sample` inside the `try`, where an exception of the sample is an error of the
inference. -/
def invalidRead (a : Adapter S M) (eventId calibrationId : String) (context : StreamFrameContext)
    (reason : String) : Except AdapterError Sample × Adapter S M :=
  match a.invalidRuntimeSample env eventId calibrationId context reason with
  | (.ok sample, a) => (.ok sample, a)
  | (.error _, a) => a.invalidRuntimeSample env eventId calibrationId context "inference_error"

/-- A frame of another stream resets the runtime state. -/
def enterStream (a : Adapter S M) (context : StreamFrameContext) : Adapter S M :=
  let identity := (context.sessionId, context.videoId, context.playbackEpoch)
  if a.streamIdentity = some identity then a
  else { a.resetRuntimeState with streamIdentity := some identity }

/-- A frame captured or numbered before the last one. -/
def outOfOrder (a : Adapter S M) (context : StreamFrameContext) : Bool :=
  a.lastOrder.any fun last => decide (context.capturedAtMonoMs < last.1) || decide (context.sequence < last.2)

/-- The reading of a frame that came in order. -/
def read (a : Adapter S M) (eventId calibrationId : String) (context : StreamFrameContext) (frame : Frame F) :
    Except AdapterError Sample × Adapter S M :=
  match frame, a.estimator with
  | .malformed, _ => (.error .frame, a)
  | .extracted _, none => (.error .state, a)
  | .extracted result, some model =>
    match result >>= readPoint env a.config model with
    | .error () => a.invalidRuntimeSample env eventId calibrationId context "inference_error"
    | .ok (.error reason) => a.invalidRead env eventId calibrationId context reason
    | .ok (.ok normalized) => a.pointSample env eventId calibrationId context normalized

/-- `infer` -/
def infer (frame : Frame F) (context : StreamFrameContext) (a : Adapter S M) :
    Except AdapterError Sample × Adapter S M :=
  if !(a.initialized && a.warmed) then (.error .state, a)
  else
    match a.calibrationId with
    | none => (.error .state, a)
    | some calibrationId =>
      let eventId := env.eventId a.modelRevision calibrationId context
      match a.sampleCache.get? eventId with
      | some sample => (.ok sample, a)
      | none =>
        let a := a.enterStream context
        if a.outOfOrder context then
          a.answer (a.sampleFields eventId calibrationId context (.error "out_of_order"))
        else
          let a := { a with lastOrder := some (context.capturedAtMonoMs, context.sequence) }
          if a.calibrating || !a.calibrated then
            a.answer (a.sampleFields eventId calibrationId context (.error "gaze_unavailable"))
          else a.read env eventId calibrationId context frame

end Adapter

/-! ## Runs -/

/-- The calls, with what the library and the camera give. -/
inductive Call (F M : Type) where
  | initializeAdapter (created : Except AdapterError M)
  | warmup (extracted closed : Except Unit Unit)
  | calibrate (calibrationId : String) (training validation : ℕ → Footage F) (clock : ℕ → ℚ)
  | calibrateSynchronized (calibrationId : String) (outcome : EngineOutcome M)
  | discardCalibration
  | infer (frame : Frame F) (context : StreamFrameContext)
  | dispose (closed : Except Unit Unit)

/-- What a call ends with. -/
inductive Outcome where
  | done (result : Except AdapterError Unit)
  | calibrated (result : Except AdapterError CalibrationResult)
  | sampled (result : Except AdapterError Sample)

/-- A call on an adapter. -/
def step (a : Adapter S M) : Call F M → Outcome × Adapter S M
  | .initializeAdapter created => let (result, a) := a.initializeAdapter created; (.done result, a)
  | .warmup extracted closed => let (result, a) := a.warmup extracted closed; (.done result, a)
  | .calibrate calibrationId training validation clock =>
    let (result, a) := a.calibrate env calibrationId training validation clock
    (.calibrated result, a)
  | .calibrateSynchronized calibrationId outcome =>
    let (result, a) := a.calibrateSynchronized env calibrationId outcome
    (.calibrated result, a)
  | .discardCalibration => let (result, a) := a.discardCalibration env; (.done result, a)
  | .infer frame context => let (result, a) := a.infer env frame context; (.sampled result, a)
  | .dispose closed => let (result, a) := a.dispose closed; (.done result, a)

/-- What the calls end with, in order. -/
def outcomes (a : Adapter S M) : List (Call F M) → List Outcome
  | [] => []
  | call :: rest => (step env a call).1 :: outcomes (step env a call).2 rest

end

end Mkk.Eye.EyeTrax
