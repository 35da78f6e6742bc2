import Mkk.Lib.Dict
import Mathlib.Data.Rat.Defs

/-!
# The gaze adapter

`EyeTraxAdapter` between its calls: the calibration it answers for, the model, the stream it is in
and the cached samples. The features of a picture and the prediction are read from the model outside
this program, so a call is given a `Reading`. Two fields only record: the number of the calibration
that set the id, and the frames the model was fitted on.
-/

namespace Mkk.Eye

open Lib

/-- `StreamFrameContext`. -/
structure StreamFrameContext where
  sessionId : String
  videoId : String
  frameId : String
  sequence : ℕ
  capturedAtMonoMs : ℚ
  videoTimeMs : ℕ
  playbackEpoch : ℕ
deriving DecidableEq

/-- `GazeSample`, with the calibration it was predicted for and the frames of the model. The event
id and the producer's constants are left out. -/
structure GazeSample where
  context : StreamFrameContext
  calibrationId : String
  calibration : ℕ
  fittedOn : List StreamFrameContext
  valid : Bool
  confidence : ℚ
  reason : Option String
  screen : Option (ℚ × ℚ)
deriving DecidableEq

/-- What the model gives for one picture: no face, closed eyes, a prediction that is refused, an
exception, or a point of the viewport. -/
inductive Reading where
  | noFace
  | blink
  | refused (reason : String)
  | error
  | point (x y : ℚ)

structure EyeTraxAdapter where
  disposed : Bool := false
  calibrating : Bool := false
  calibrated : Bool := false
  /-- `_calibration_id`, with the number of the calibration that set it. -/
  calibration : Option (String × ℕ) := none
  confidence : ℚ := 1
  /-- The frames the ridge model was trained on; a fresh model has none. -/
  fittedOn : List StreamFrameContext := []
  streamIdentity : Option (String × String × ℕ) := none
  lastOrder : Option (ℚ × ℕ) := none
  sampleCache : Dict (String × StreamFrameContext) GazeSample := Dict.empty

namespace EyeTraxAdapter

/-- `_SAMPLE_CACHE_LIMIT`. -/
def sampleCacheLimit : ℕ := 64

/-- `_reset_runtime_state`. -/
def resetRuntimeState (a : EyeTraxAdapter) : EyeTraxAdapter :=
  { a with streamIdentity := none, lastOrder := none, sampleCache := Dict.empty }

/-- The start of `calibrate` and of `calibrate_synchronized`. -/
def startCalibration (a : EyeTraxAdapter) (calibrationId : String) (number : ℕ) : EyeTraxAdapter :=
  { a.resetRuntimeState with
    calibration := some (calibrationId, number)
    calibrated := false
    confidence := 1
    calibrating := true }

/-- Their end. A failed calibration leaves a fresh model, and a synchronized one also clears the
id. -/
def endCalibration (a : EyeTraxAdapter) (synchronized valid : Bool)
    (frames : List StreamFrameContext) : EyeTraxAdapter :=
  if valid then { a with calibrating := false, calibrated := true, fittedOn := frames }
  else
    { a with
      calibrating := false
      fittedOn := []
      calibration := if synchronized then none else a.calibration }

/-- `discard_calibration`; it raises without an estimator. -/
def discardCalibration (a : EyeTraxAdapter) : Option EyeTraxAdapter :=
  if a.disposed then none
  else
    some { a.resetRuntimeState with
      calibration := none
      calibrated := false
      confidence := 1
      fittedOn := [] }

/-- `dispose`. -/
def dispose (a : EyeTraxAdapter) : EyeTraxAdapter :=
  { a.resetRuntimeState with
    disposed := true
    calibrating := false
    calibrated := false
    calibration := none }

/-- `_cache_sample`: the oldest entry goes when the cache is over its limit. -/
def cacheSample (a : EyeTraxAdapter) (sample : GazeSample) : GazeSample × EyeTraxAdapter :=
  let cache := a.sampleCache.set (sample.calibrationId, sample.context) sample
  let cache :=
    match cache.keys with
    | [] => cache
    | oldest :: _ => if sampleCacheLimit < cache.size then cache.pop oldest else cache
  (sample, { a with sampleCache := cache })

/-- `_invalid_sample`. -/
def invalidSample (calibration : String × ℕ) (context : StreamFrameContext) (reason : String) :
    GazeSample where
  context := context
  calibrationId := calibration.1
  calibration := calibration.2
  fittedOn := []
  valid := false
  confidence := 0
  reason := some reason
  screen := none

/-- The sample of a picture, in the mode without a filter. -/
def readSample (a : EyeTraxAdapter) (calibration : String × ℕ) (context : StreamFrameContext) :
    Reading → GazeSample
  | .noFace => invalidSample calibration context "no_face"
  | .blink => invalidSample calibration context "blink"
  | .refused reason => invalidSample calibration context reason
  | .error => invalidSample calibration context "inference_error"
  | .point x y =>
    { context
      calibrationId := calibration.1
      calibration := calibration.2
      fittedOn := a.fittedOn
      valid := true
      confidence := a.confidence
      reason := none
      screen := some (x, y) }

/-- A frame captured or numbered before the last one. -/
def outOfOrder (a : EyeTraxAdapter) (context : StreamFrameContext) : Bool :=
  match a.lastOrder with
  | none => false
  | some (capturedAtMs, sequence) =>
    context.capturedAtMonoMs < capturedAtMs || context.sequence < sequence

/-- A frame of another stream resets the runtime state. -/
def enterStream (a : EyeTraxAdapter) (context : StreamFrameContext) : EyeTraxAdapter :=
  let identity := (context.sessionId, context.videoId, context.playbackEpoch)
  if a.streamIdentity = some identity then a
  else { a.resetRuntimeState with streamIdentity := some identity }

/-- `infer`; it raises when the adapter is disposed or answers for no calibration. The event id is
the calibration id with the context: the revision of the model changes with a reset only. -/
def infer (a : EyeTraxAdapter) (context : StreamFrameContext) (reading : Reading) :
    Option (GazeSample × EyeTraxAdapter) :=
  if a.disposed then none
  else
    match a.calibration with
    | none => none
    | some calibration =>
      match a.sampleCache.get? (calibration.1, context) with
      | some sample => some (sample, a)
      | none =>
        let a := a.enterStream context
        if a.outOfOrder context then
          some (a.cacheSample (invalidSample calibration context "out_of_order"))
        else
          let a := { a with lastOrder := some (context.capturedAtMonoMs, context.sequence) }
          if a.calibrating || !a.calibrated then
            some (a.cacheSample (invalidSample calibration context "gaze_unavailable"))
          else some (a.cacheSample (a.readSample calibration context reading))

end EyeTraxAdapter

end Mkk.Eye
