import Mkk.Gateway.VisionStream

/-!
# Processing one frame in the Gateway

The three coroutines that process a frame, as a transition system of one frame: the coroutine at one
of its awaits, the tasks it started, and which of them wait in `pending_tasks` for their callback. When
a task ends, what it returns or raises, and whether a timeout comes first are parameters of the steps.
A return value whose attributes cannot be read is one without a sample, or without a reply of Eye.
-/

namespace Mkk.Gateway

open Lib
open Eye (StreamFrameContext)

/-! ## Messages -/

/-- The reasons `_drop` is called with. -/
inductive DropReason where
  | duplicateFrame
  | staleEpoch
  | outOfOrder
  | fpsLimited
  | inFlight
  | sessionClosing
  | decodeTimeout
  | inferenceTimeout
deriving DecidableEq

/-- The codes `_error` is called with. -/
inductive ErrorCode where
  | invalidMessage
  | visionUnavailable
deriving DecidableEq

/-- What is checked of the gaze sample of Eye: the seven context fields, where it has all of them, and
`valid`, where it is a Boolean. -/
structure GazePayload where
  frame : Option StreamFrameContext
  valid : Option Bool
deriving DecidableEq

/-- `EyeInferenceResult`. -/
structure EyeInferenceResult where
  gazeSample : Option GazePayload
  reason : Option String
  calibrationProgress : Option Members

/-- The payload of a `_FrameOutcome` after the context of its frame. -/
inductive FrameOutcome where
  | result (progress : Option Members) (gaze : Option GazePayload) (gazeReason : Option String)
      (expression : Option StreamFrameContext) (expressionReason : Option String)
  | drop (reason : DropReason) (retryable : Bool)
  | error (code : ErrorCode) (retryable : Bool)

/-- An outcome with a sample. -/
def FrameOutcome.hasSample : FrameOutcome → Bool
  | .result _ gaze _ expression _ => gaze.isSome || expression.isSome
  | _ => false

/-! ## State -/

/-- What a task raises. -/
inductive TaskError where
  | timeout
  | other
deriving DecidableEq

inductive TaskState (α : Type) where
  | absent
  | running
  | done (result : Except TaskError α)

namespace TaskState

variable {α : Type}

def isRunning : TaskState α → Bool
  | .running => true
  | _ => false

def isDone : TaskState α → Bool
  | .done _ => true
  | _ => false

end TaskState

/-- What is read of an `ExpressionSample`. -/
structure ExpressionSample where
  context : StreamFrameContext
  reason : Option String
deriving DecidableEq

/-- `WorkerObservation`; whether it has an `adapter_completion`. -/
structure Observation where
  sample : Option ExpressionSample
  frameCleanupDeferred : Bool
  adapterCompletion : Bool
deriving DecidableEq

/-- The coroutine that processes the frame. -/
inductive ProcessPath where
  | calibration
  | face
  | gazeOnly
deriving DecidableEq

/-- What the coroutine waits for; it ended with an outcome or raised. -/
inductive ProcessStage where
  | start
  | decode
  | worker
  | eye
  | ended (outcome : Option FrameOutcome)

/-- The tasks of a frame that can wait in `pending_tasks`. -/
inductive TaskName where
  | decode
  | worker
  | eye
  | adapter
deriving DecidableEq

/-- One frame in processing. -/
structure FrameProcess where
  context : StreamFrameContext
  /-- It carries a `calibration_target`; a calibration was in progress when it was accepted. -/
  marked : Bool
  calibrating : Bool
  path : ProcessPath
  stage : ProcessStage := .start
  decodeTask : TaskState Unit := .absent
  workerTask : TaskState Observation := .absent
  eyeTask : TaskState (Option EyeInferenceResult) := .absent
  /-- The adapter call the observation handed over. -/
  adapter : TaskState Unit := .absent
  pending : List TaskName := []
  expression : Option StreamFrameContext := none
  /-- `frame` is not `None`. -/
  frame : Bool := false
  frameCleanupDeferred : Bool := false
  /-- How often the Gateway closed the frame. -/
  closed : ℕ := 0

namespace FrameProcess

variable (p : FrameProcess)

def ended : Bool :=
  match p.stage with
  | .ended _ => true
  | _ => false

/-- `pending_tasks.add`. -/
def addPending (task : TaskName) : FrameProcess :=
  if task ∈ p.pending then p else { p with pending := p.pending ++ [task] }

/-- `pending_tasks.discard`. -/
def discardPending (task : TaskName) : FrameProcess :=
  { p with pending := p.pending.filter (· ≠ task) }

/-- The end of a coroutine with its `finally` clause; without an outcome it raises. -/
def finish (outcome : Option FrameOutcome) : FrameProcess :=
  { p with
    stage := .ended outcome
    closed := if p.frame && !p.frameCleanupDeferred then p.closed + 1 else p.closed
    frame := false }

def drop (reason : DropReason) (retryable : Bool) : FrameProcess :=
  p.finish (some (.drop reason retryable))

def error (code : ErrorCode) (retryable : Bool) : FrameProcess :=
  p.finish (some (.error code retryable))

/-- `defer_eye_cleanup`. -/
def deferEyeCleanup : FrameProcess :=
  if p.eyeTask.isRunning then p.addPending .eye else p

/-- A coroutine up to its first await. -/
def begin (inferenceStarted : Bool) : FrameProcess :=
  match p.path with
  | .calibration => { p with eyeTask := .running, stage := .eye }
  | .face =>
    if !inferenceStarted then p.drop .sessionClosing false
    else { p with decodeTask := .running, stage := .decode }
  | .gazeOnly =>
    if !inferenceStarted then p.drop .sessionClosing false
    else { p with eyeTask := .running, stage := .eye }

/-- `_process_frame` after the decoder. -/
def decodeResumed : Except TaskError Unit → FrameProcess
  | .error .timeout => (p.addPending .decode).drop .decodeTimeout true
  | .error .other => p.error .invalidMessage false
  | .ok () =>
    { p with
      frame := true
      eyeTask := .running
      workerTask := .running
      stage := .worker }

/-- `_process_frame` after the observation was received. -/
def observed (observation : Observation) : FrameProcess :=
  let held : FrameProcess := { p with frameCleanupDeferred := observation.frameCleanupDeferred }
  let held := if observation.adapterCompletion then held.addPending .adapter else held
  match observation.sample with
  | none => held.finish none
  | some sample =>
    if sample.context ≠ p.context then held.error .visionUnavailable true
    else if sample.reason = some "timeout" then held.deferEyeCleanup.drop .inferenceTimeout true
    else { held with expression := some sample.context, stage := .eye }

/-- `_process_frame` after the Face worker. -/
def workerResumed : Except TaskError Observation → FrameProcess
  | .error .timeout =>
    { p.deferEyeCleanup.addPending .worker with frameCleanupDeferred := true }.drop .inferenceTimeout true
  | .error .other => p.deferEyeCleanup.error .visionUnavailable true
  | .ok observation => p.observed observation

/-- Python's `reason or default`. -/
def orDefault (reason : Option String) (default : String) : String :=
  match reason with
  | some reason => if reason = "" then default else reason
  | none => default

/-- The sample of a reply of Eye, or the reason there is none. -/
def readGaze (context : StreamFrameContext) (reply : EyeInferenceResult) : Except String GazePayload :=
  match reply.gazeSample with
  | none => .error (orDefault reply.reason "gaze_unavailable")
  | some candidate =>
    if candidate.frame ≠ some context then .error "gaze_context_mismatch"
    else if candidate.valid.isNone then .error "eye_worker_invalid_response"
    else .ok candidate

/-- What `_process_frame` and `_process_gaze_only_frame` make of Eye's answer. -/
def gazeOf (context : StreamFrameContext) :
    Except TaskError (Option EyeInferenceResult) → Except String GazePayload
  | .error .timeout => .error "eye_worker_timeout"
  | .error .other | .ok none => .error "eye_worker_unavailable"
  | .ok (some reply) => readGaze context reply

/-- Their result. -/
def gazeResult (gaze : Except String GazePayload) (expressionReason : Option String) : FrameProcess :=
  match gaze with
  | .ok sample => p.finish (some (.result none (some sample) none p.expression expressionReason))
  | .error reason => p.finish (some (.result none none (some reason) p.expression expressionReason))

/-- `_process_calibration_frame` after Eye. -/
def calibrationResumed : Except TaskError (Option EyeInferenceResult) → FrameProcess
  | .error .timeout => (p.addPending .eye).drop .inferenceTimeout true
  | .error .other =>
    p.finish (some (.result none none (some "eye_worker_unavailable") none
      (some "calibration_in_progress")))
  | .ok none => p.finish none
  | .ok (some reply) =>
    let reason := if reply.calibrationProgress.isSome then "calibration_in_progress"
      else orDefault reply.reason "calibration_in_progress"
    p.finish (some (.result reply.calibrationProgress none (some reason) none
      (some "calibration_in_progress")))

/-- A coroutine after Eye. -/
def eyeResumed (reply : Except TaskError (Option EyeInferenceResult)) : FrameProcess :=
  let held := match reply with
    | .error .timeout => p.addPending .eye
    | _ => p
  match p.path with
  | .calibration => p.calibrationResumed reply
  | .face => held.gazeResult (gazeOf p.context reply) none
  | .gazeOnly => held.gazeResult (gazeOf p.context reply) (some "not_observed")

/-- What an await gives: the timeout, or what the task returns or raises once it is done. -/
def awaited {α : Type} (timedOut : Bool) (task : TaskState α) : Option (Except TaskError α) :=
  match timedOut, task with
  | true, _ => some (.error .timeout)
  | false, .done result => some result
  | false, _ => none

/-- The coroutine goes on. -/
def resume (timedOut : Bool) : Option FrameProcess :=
  match p.stage with
  | .decode => (awaited timedOut p.decodeTask).map p.decodeResumed
  | .worker => (awaited timedOut p.workerTask).map p.workerResumed
  | .eye => (awaited timedOut p.eyeTask).map p.eyeResumed
  | _ => none

/-- `_finish_worker_frame`. -/
def finishWorkerFrame : Except TaskError Observation → FrameProcess
  | .ok observation =>
    let held := if observation.adapterCompletion then p.addPending .adapter else p
    if observation.frameCleanupDeferred then held else { held with closed := held.closed + 1 }
  | .error _ => { p with closed := p.closed + 1 }

/-- The callback of a pending task that is done. -/
def callback (task : TaskName) : Option FrameProcess :=
  if task ∉ p.pending then none
  else
    let next := p.discardPending task
    match task with
    | .decode =>
      match p.decodeTask with
      | .done (.ok ()) => some { next with closed := next.closed + 1 }
      | .done (.error _) => some next
      | _ => none
    | .worker =>
      match p.workerTask with
      | .done result => some (next.finishWorkerFrame result)
      | _ => none
    | .eye => if p.eyeTask.isDone then some next else none
    | .adapter => if p.adapter.isDone then some next else none

end FrameProcess

/-! ## Steps -/

inductive ProcessStep where
  | begin
  | decodeDone (result : Except TaskError Unit)
  | workerDone (result : Except TaskError Observation)
  | eyeDone (result : Except TaskError (Option EyeInferenceResult))
  | adapterDone
  | resume (timedOut : Bool)
  | callback (task : TaskName)

/-- The adapter call an observation hands over. -/
def Observation.adapterOf : Except TaskError Observation → TaskState Unit
  | .ok observation => if observation.adapterCompletion then .running else .absent
  | .error _ => .absent

/-- One step of a frame while inference is started or not; `none` when it is not at that point. -/
def processStep (inferenceStarted : Bool) (p : FrameProcess) : ProcessStep → Option FrameProcess
  | .begin =>
    match p.stage with
    | .start => some (p.begin inferenceStarted)
    | _ => none
  | .decodeDone result =>
    if p.decodeTask.isRunning then some { p with decodeTask := .done result } else none
  | .workerDone result =>
    if p.workerTask.isRunning then
      some { p with workerTask := .done result, adapter := Observation.adapterOf result }
    else none
  | .eyeDone result => if p.eyeTask.isRunning then some { p with eyeTask := .done result } else none
  | .adapterDone => if p.adapter.isRunning then some { p with adapter := .done (.ok ()) } else none
  | .resume timedOut => p.resume timedOut
  | .callback task => p.callback task

end Mkk.Gateway
