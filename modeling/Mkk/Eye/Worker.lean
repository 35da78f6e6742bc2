import Mkk.Eye.Adapter
import Mkk.Lib.Lts

/-!
# The Eye worker runtime

`EyeWorkerRuntime` as a transition system. Every section under `_state_lock` or under both locks is
one step; the adapter section of a calibration is several, since frames reach its queue while it
holds `_adapter_call_lock`. A call waits between its sections with what it read in the earlier one.
A queued picture stands for the context of its frame. The calibration summary, the progress messages
and the texts of a calibration's result are left out.
-/

namespace Mkk.Eye

open Lib

/-- The session and the video a call names; a legacy calibration may leave either out. -/
abbrev Binding := Option String × Option String

/-- The session and the video of a frame. -/
def StreamFrameContext.binding (frame : StreamFrameContext) : Binding :=
  (some frame.sessionId, some frame.videoId)

/-! ## Requests -/

/-- `PROFILES`. -/
def profiles : List String := ["adaptive-dense5-v2", "adaptive-sparse16-v2", "fixed-dense5-v2"]

/-- The points of a grid, row by row and back. -/
def gridPoints (axis : List ℚ) : List (ℚ × ℚ) :=
  axis.zipIdx.flatMap fun (y, row) =>
    (if row % 2 = 0 then axis else axis.reverse).map fun x => (x, y)

/-- `DENSE_POINTS`. -/
def densePoints : List (ℚ × ℚ) := gridPoints [0.1, 0.3, 0.5, 0.7, 0.9]

/-- `SPARSE_POINTS`. -/
def sparsePoints : List (ℚ × ℚ) := gridPoints [0.1, 0.366667, 0.633333, 0.9]

/-- The body of a calibration request; a field that is not of its type is absent. -/
structure CalibrationPayload where
  calibrationId : Option String
  patternId : Option String
  points : List (ℚ × ℚ)
  sessionId : Option String
  videoId : Option String
deriving DecidableEq

def CalibrationPayload.binding (payload : CalibrationPayload) : Binding :=
  (payload.sessionId, payload.videoId)

/-- The checks of `run_calibration` before its lock: the id and whether frames carry markers. -/
def CalibrationPayload.checked (payload : CalibrationPayload) : Except String (String × Bool) :=
  match payload.calibrationId, payload.patternId with
  | some calibrationId, some profileId =>
    if profileId ∈ profiles then
      let expected := if profileId = "adaptive-sparse16-v2" then sparsePoints else densePoints
      if payload.points ≠ expected then .error "invalid_calibration_request"
      else if payload.sessionId.isNone ∨ payload.videoId.isNone then
        .error "invalid_calibration_request"
      else .ok (calibrationId, true)
    else if profileId = "dense5-validation-v1" then .ok (calibrationId, false)
    else .error "unsupported_calibration_profile"
  | _, _ => .error "invalid_calibration_request"

/-- `infer`'s answer. -/
structure InferReply where
  gazeSample : Option GazeSample
  gazeReason : Option String
deriving DecidableEq

/-! ## State -/

/-- A calibration that was run. -/
structure Calibration where
  calibrationId : String
  synchronized : Bool
  binding : Binding
deriving DecidableEq

/-- Where a `run_calibration` call is: before its adapter section, inside it with the frames it
took, or after it with its result. -/
inductive CalibrationStage where
  | begun
  | running (taken : List StreamFrameContext)
  | left (valid : Bool)
deriving DecidableEq

structure CalibrationCall where
  number : ℕ
  calibration : Calibration
  stage : CalibrationStage
deriving DecidableEq

/-- Where an `infer` call is: before the check of a marked frame, before the queue, or before the
adapter. -/
inductive InferStage where
  | accept (queue : ℕ) (binding : Option Binding)
  | enqueue (queue : ℕ)
  | predict
deriving DecidableEq

structure InferCall where
  frame : StreamFrameContext
  stage : InferStage
deriving DecidableEq

/-- `CALIBRATION_QUEUE_SIZE`. -/
def calibrationQueueSize : ℕ := 4

structure EyeWorkerRuntime where
  ready : Bool := true
  calibrated : Bool := false
  inferenceReady : Bool := false
  calibrationId : Option String := none
  /-- `_adapter` is not `None`; a calibration keeps its own reference. -/
  hasAdapter : Bool := true
  adapter : EyeTraxAdapter := {}
  /-- The queue, known by the number of its calibration. -/
  calibrationQueue : Option (ℕ × List StreamFrameContext) := none
  calibrationCancel : Bool := false
  synchronizedSource : Option ℕ := none
  binding : Option Binding := none
  calibratedBinding : Option Binding := none
  summaryBinding : Option Binding := none
  lastCalibrationSequence : ℤ := -1
  /-- The calls between two sections. -/
  calibrating : Option CalibrationCall := none
  inferring : List InferCall := []
  ending : List Binding := []
  closing : ℕ := 0
  /-- What was run, queued and answered so far. -/
  calibrations : List Calibration := []
  queued : List (ℕ × StreamFrameContext) := []
  replies : List (StreamFrameContext × InferReply) := []

namespace EyeWorkerRuntime

/-- After `__init__`, which leaves no adapter when the model does not load. -/
def start (loaded : Bool) : EyeWorkerRuntime :=
  { ready := loaded, hasAdapter := loaded }

/-- No calibration is inside its adapter section. -/
def adapterFree (s : EyeWorkerRuntime) : Bool :=
  match s.calibrating with
  | some ⟨_, _, .running _⟩ => false
  | _ => true

/-- An `infer` call ends with an answer without a sample. -/
def answer (s : EyeWorkerRuntime) (frame : StreamFrameContext) (reason : String) : EyeWorkerRuntime :=
  { s with replies := s.replies ++ [(frame, ⟨none, some reason⟩)] }

/-! ## `run_calibration` -/

/-- Its first section. -/
def beginCalibration (s : EyeWorkerRuntime) (payload : CalibrationPayload) :
    Except String EyeWorkerRuntime := do
  let (calibrationId, synchronized) ← payload.checked
  if !s.ready || !s.hasAdapter then .error "eye_not_connected"
  else if s.calibrationQueue.isSome then .error "calibration_in_progress"
  else
    let number := s.calibrations.length
    let calibration : Calibration := { calibrationId, synchronized, binding := payload.binding }
    return { s with
      calibrated := false
      inferenceReady := false
      calibratedBinding := none
      calibrationId := some calibrationId
      calibrationCancel := false
      calibrationQueue := some (number, [])
      binding := some payload.binding
      summaryBinding := some payload.binding
      lastCalibrationSequence := -1
      synchronizedSource := if synchronized then some number else s.synchronizedSource
      calibrating := some { number, calibration, stage := .begun }
      calibrations := s.calibrations ++ [calibration] }

/-- It enters the adapter; an empty id or a disposed adapter raises, which counts as a failure. -/
def enterCalibration (s : EyeWorkerRuntime) (c : CalibrationCall) : EyeWorkerRuntime :=
  if c.calibration.calibrationId = "" ∨ s.adapter.disposed then
    { s with calibrating := some { c with stage := .left false } }
  else
    { s with
      adapter := s.adapter.startCalibration c.calibration.calibrationId c.number
      calibrating := some { c with stage := .running [] } }

/-- The adapter takes the oldest picture of the queue. -/
def takeFrame (s : EyeWorkerRuntime) (c : CalibrationCall) (taken : List StreamFrameContext) :
    Option EyeWorkerRuntime :=
  match s.calibrationQueue with
  | some (number, frame :: rest) =>
    if number = c.number then
      some { s with
        calibrationQueue := some (number, rest)
        calibrating := some { c with stage := .running (taken ++ [frame]) } }
    else none
  | _ => none

/-- The adapter is done; a synchronized source drains its queue. -/
def leaveCalibration (s : EyeWorkerRuntime) (c : CalibrationCall) (taken : List StreamFrameContext)
    (valid : Bool) : EyeWorkerRuntime :=
  { s with
    adapter := s.adapter.endCalibration c.calibration.synchronized valid taken
    calibrationQueue :=
      if c.calibration.synchronized then s.calibrationQueue.map fun (number, _) => (number, [])
      else s.calibrationQueue
    calibrating := some { c with stage := .left valid } }

/-- The final section. A cancelled or failed calibration is discarded, which raises when the adapter
is disposed. -/
def finishCalibration (s : EyeWorkerRuntime) (c : CalibrationCall) (valid : Bool) : EyeWorkerRuntime :=
  let valid := valid && !s.calibrationCancel
  match if valid then some s.adapter else s.adapter.discardCalibration with
  | none => { s with calibrating := none }
  | some adapter =>
    { s with
      adapter
      calibrated := valid
      inferenceReady := valid
      calibrationId := if valid then some c.calibration.calibrationId else none
      calibratedBinding := if valid then s.binding else none
      calibrationQueue := none
      synchronizedSource := none
      binding := none
      calibrating := none }

/-! ## `infer` -/

/-- Its first section: what the call read decides which section comes next. -/
def inferSnapshot (s : EyeWorkerRuntime) (frame : StreamFrameContext) : EyeWorkerRuntime :=
  if !s.ready || !s.hasAdapter then s.answer frame "eye_not_connected"
  else
    match s.calibrationQueue with
    | some (number, _) =>
      let stage := if s.synchronizedSource.isSome then .accept number s.binding else .enqueue number
      { s with inferring := s.inferring ++ [{ frame, stage }] }
    | none =>
      if !s.inferenceReady then s.answer frame "gaze_unavailable"
      else if s.calibratedBinding ≠ some frame.binding then s.answer frame "gaze_context_mismatch"
      else { s with inferring := s.inferring ++ [{ frame, stage := .predict }] }

/-- A marked frame is admitted when the queue, the session and the video are still the ones that were
read. -/
def admitFrame (s : EyeWorkerRuntime) (i : ℕ) (frame : StreamFrameContext) (queue : ℕ)
    (binding : Option Binding) : EyeWorkerRuntime :=
  if s.calibrationQueue.map (·.1) = some queue ∧ binding = some frame.binding ∧
      frame.playbackEpoch = 0 ∧ s.lastCalibrationSequence < frame.sequence then
    { s with
      lastCalibrationSequence := frame.sequence
      inferring := s.inferring.set i { frame, stage := .enqueue queue } }
  else { s with inferring := s.inferring.eraseIdx i }.answer frame "gaze_context_mismatch"

/-- The frame goes into the queue it was read for; a full queue loses its oldest picture. -/
def enqueueFrame (s : EyeWorkerRuntime) (i : ℕ) (frame : StreamFrameContext) (queue : ℕ) :
    EyeWorkerRuntime :=
  let s := { s with inferring := s.inferring.eraseIdx i }
  match s.calibrationQueue with
  | some (number, frames) =>
    if number = queue then
      let kept := if calibrationQueueSize ≤ frames.length then frames.tail else frames
      { s with
        calibrationQueue := some (number, kept ++ [frame])
        queued := s.queued ++ [(number, frame)] }.answer frame "calibration_in_progress"
    else s.answer frame "gaze_unavailable"
  | none => s.answer frame "gaze_unavailable"

/-- The adapter section of `infer`. -/
def predictGaze (s : EyeWorkerRuntime) (i : ℕ) (frame : StreamFrameContext) (reading : Reading) :
    EyeWorkerRuntime :=
  let s := { s with inferring := s.inferring.eraseIdx i }
  match s.adapter.infer frame reading with
  | none => s
  | some (sample, adapter) =>
    { s with
      adapter
      replies := s.replies ++
        [(frame, ⟨some sample, if sample.valid then none else sample.reason⟩)] }

/-! ## Ending, cancelling, closing -/

/-- One of the bindings `end_session` looks at is the caller's. -/
def concerns (s : EyeWorkerRuntime) (binding : Binding) : Bool :=
  some binding ∈ [s.binding, s.calibratedBinding, s.summaryBinding]

/-- `end_session` up to its second section, where it waits when the session is concerned. -/
def endSession (s : EyeWorkerRuntime) (binding : Binding) : EyeWorkerRuntime :=
  if s.concerns binding then { s with calibrationCancel := true, ending := s.ending ++ [binding] }
  else s

/-- The second section of `end_session`. -/
def endSessionLocked (s : EyeWorkerRuntime) (i : ℕ) (binding : Binding) : EyeWorkerRuntime :=
  let s := { s with ending := s.ending.eraseIdx i }
  if !s.concerns binding then s
  else if s.binding ≠ some binding ∧ s.binding ≠ none then s
  else
    { s with
      calibrated := false
      inferenceReady := false
      calibrationId := none
      calibratedBinding := none
      summaryBinding := none
      adapter := if s.hasAdapter then (s.adapter.discardCalibration).getD s.adapter else s.adapter }

/-- `cancel_matching_calibration`. -/
def cancelMatchingCalibration (s : EyeWorkerRuntime) (calibrationId : Option String)
    (binding : Binding) : EyeWorkerRuntime :=
  if calibrationId = s.calibrationId ∧ s.binding = some binding then
    { s with calibrationCancel := true }
  else s

/-- The locked part of `close`. -/
def closeLocked (s : EyeWorkerRuntime) : EyeWorkerRuntime :=
  { s with
    closing := s.closing - 1
    hasAdapter := false
    ready := false
    synchronizedSource := none
    binding := none
    calibratedBinding := none
    summaryBinding := none
    calibrated := false
    inferenceReady := false
    calibrationQueue := none
    adapter := if s.hasAdapter then s.adapter.dispose else s.adapter }

end EyeWorkerRuntime

/-! ## Steps -/

inductive EyeWorkerStep where
  | begin (payload : CalibrationPayload)
  | enter
  | take
  | leave (valid : Bool)
  | finish
  | infer (frame : StreamFrameContext)
  | accept (call : ℕ)
  | enqueue (call : ℕ)
  | predict (call : ℕ) (reading : Reading)
  /-- The picture of a call cannot be decoded. -/
  | undecodable (call : ℕ)
  | endSession (sessionId videoId : String)
  | endSessionLocked (call : ℕ)
  | cancel (calibrationId : Option String) (binding : Binding)
  | close
  | closeLocked

open EyeWorkerRuntime in
/-- One step; `none` when the call is not at that section or a lock is held. -/
def eyeWorkerStep (s : EyeWorkerRuntime) : EyeWorkerStep → Option EyeWorkerRuntime
  | .begin payload =>
    match s.beginCalibration payload with
    | .error _ => some s
    | .ok t => some t
  | .enter =>
    match s.calibrating with
    | some ⟨number, calibration, .begun⟩ => some (s.enterCalibration ⟨number, calibration, .begun⟩)
    | _ => none
  | .take =>
    match s.calibrating with
    | some ⟨number, calibration, .running taken⟩ =>
      s.takeFrame ⟨number, calibration, .running taken⟩ taken
    | _ => none
  | .leave valid =>
    match s.calibrating with
    | some ⟨number, calibration, .running taken⟩ =>
      some (s.leaveCalibration ⟨number, calibration, .running taken⟩ taken valid)
    | _ => none
  | .finish =>
    match s.calibrating with
    | some ⟨number, calibration, .left valid⟩ =>
      some (s.finishCalibration ⟨number, calibration, .left valid⟩ valid)
    | _ => none
  | .infer frame => some (s.inferSnapshot frame)
  | .accept i =>
    match s.inferring[i]? with
    | some ⟨frame, .accept queue binding⟩ => some (s.admitFrame i frame queue binding)
    | _ => none
  | .enqueue i =>
    match s.inferring[i]? with
    | some ⟨frame, .enqueue queue⟩ => some (s.enqueueFrame i frame queue)
    | _ => none
  | .predict i reading =>
    match s.inferring[i]? with
    | some ⟨frame, .predict⟩ => if s.adapterFree then some (s.predictGaze i frame reading) else none
    | _ => none
  | .undecodable i =>
    s.inferring[i]?.map fun _ => { s with inferring := s.inferring.eraseIdx i }
  | .endSession sessionId videoId => some (s.endSession (some sessionId, some videoId))
  | .endSessionLocked i =>
    if s.adapterFree then s.ending[i]?.map (s.endSessionLocked i) else none
  | .cancel calibrationId binding => some (s.cancelMatchingCalibration calibrationId binding)
  | .close => some { s with calibrationCancel := true, closing := s.closing + 1 }
  | .closeLocked => if s.adapterFree ∧ 0 < s.closing then some s.closeLocked else none

end Mkk.Eye
