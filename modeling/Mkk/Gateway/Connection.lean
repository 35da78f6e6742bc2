import Mkk.Gateway.FrameProcess
import Mkk.Lib.Lts
import Mkk.Lib.Places

/-!
# One connection of the Gateway

`VisionStreamApp._handle` from its loop on, with `_StreamState`. The handler waits for the next message,
the frame in processing and the calibration; when it wakes it deals with those that are done in this
order. A step ends a task, wakes the handler, or runs one of its parts, with the clock readings the part
makes. Frames are known by their place in the order they were accepted; what was sent and which frames
were taken up is kept as a history.
-/

namespace Mkk.Gateway

open Lib
open Eye (StreamFrameContext)

/-! ## Messages -/

/-- `_CONTROL_ACTIONS`. -/
inductive ControlAction where
  | startCalibration
  | startInference
  | stopInference
  | stopSession
deriving DecidableEq

/-- What `_control_message` returns; `pattern` is the `pattern_id` of a calibration. -/
structure ControlMessage where
  requestId : String
  action : ControlAction
  pattern : Option String
deriving DecidableEq

/-- A message as the handler reads it: a binary one with what `decode_binary_frame` returns or raises,
a text with what `_control_message` returns, or nothing where it raises a protocol error, or another
error. -/
inductive Incoming where
  | disconnect
  | binary (decoded : Except DecodeError DecodedBinaryFrame)
  | text (control : Option ControlMessage)
  | unreadable
  | other

/-- A message of the Gateway. -/
inductive GatewayMessage where
  | controlResult (requestId : String) (action : ControlAction) (valid : Bool) (reason : Option String)
      (calibrationId : Option String)
  | frame (context : StreamFrameContext) (outcome : FrameOutcome)
  | invalidMessage
  | close (code : ℕ) (reason : String)

/-- The frame a message answers. -/
def GatewayMessage.answers : GatewayMessage → Option StreamFrameContext
  | .frame context _ => some context
  | _ => none

def GatewayMessage.isClose : GatewayMessage → Bool
  | .close _ _ => true
  | _ => false

/-! ## State -/

/-- What a connection is opened with: the claims of its token, the encoding that was selected, the limit
of the app, whether there is a Face worker, and how a long `request_id` is shortened. -/
structure Settings where
  sessionId : String
  videoId : String
  selectedEncoding : String
  maxFps : ℚ
  faceWorker : Bool
  digest : String → String

/-- How the handler ended. -/
inductive HandlerEnd where
  | normal
  | protocolError
  | frameTooLarge
  | disconnected
  | raised
deriving DecidableEq

/-- The handler waits, has still to deal with the calibration, the frame and the message that were done
when it woke, or has ended. -/
inductive HandlerStage where
  | select
  | handling (calibration process message : Bool)
  | finished (reason : HandlerEnd)
deriving DecidableEq

/-- `calibration_task` with `calibration_request`. -/
structure CalibrationTask where
  requestId : String
  calibrationId : String
  task : TaskState (Bool × Option String) := .running

structure Connection where
  stage : HandlerStage := .select
  /-- The message `receive_task` has ended with. -/
  received : Option Incoming := none
  processTask : Option ℕ := none
  calibrationTask : Option CalibrationTask := none
  /-- `close_requested`, by its `request_id`. -/
  closeRequested : Option String := none
  inferenceStarted : Bool := false
  calibrationStarted : Bool := false
  maxFps : ℚ
  currentEpoch : Option ℕ := none
  lastSequence : ℤ := -1
  lastReceivedAt : Option ℚ := none
  frameKeys : Finset (ℕ × String) := ∅
  frameOrder : List (ℕ × String) := []
  frames : List FrameProcess := []
  sent : List GatewayMessage := []
  /-- The frames of this session the handler took up. -/
  taken : List StreamFrameContext := []

/-- The key of a frame. -/
def frameKey (context : StreamFrameContext) : ℕ × String := (context.playbackEpoch, context.frameId)

/-- `maxlen` of `frame_order`. -/
def frameWindow : ℕ := 512

/-- `_CALIBRATION_MAX_FPS`. -/
def calibrationMaxFps : ℚ := 20

/-- `_CALIBRATION_UNAVAILABLE_PREFIX`. -/
def calibrationUnavailablePrefix : String := "calibration-unavailable-"

/-- `_calibration_unavailable_id`. -/
def calibrationUnavailableId (settings : Settings) (requestId : String) : String :=
  if requestId.length ≤ 128 - calibrationUnavailablePrefix.length then
    calibrationUnavailablePrefix ++ requestId
  else calibrationUnavailablePrefix ++ settings.digest requestId

namespace Connection

variable (settings : Settings) (s : Connection)

def send (message : GatewayMessage) : Connection := { s with sent := s.sent ++ [message] }

def finish (reason : HandlerEnd) : Connection := { s with stage := .finished reason }

/-- `_send_close` and the end of the handler. -/
def close (code : ℕ) (text : String) (reason : HandlerEnd) : Connection :=
  (s.send (.close code text)).finish reason

/-- The answer to a message that breaks the protocol. -/
def protocolError : Connection :=
  (s.send .invalidMessage).close 1002 "protocol_error" .protocolError

/-- The end after `stop_session`. -/
def closeNormally (requestId : String) : Connection :=
  (s.send (.controlResult requestId .stopSession true none none)).close 1000 "normal" .normal

/-! ## Frames -/

/-- `validate`. -/
def validates (metadata : FrameMetadata) : Bool :=
  metadata.context.sessionId == settings.sessionId && metadata.context.videoId == settings.videoId &&
    metadata.encoding == settings.selectedEncoding

/-- `rejection_reason`. -/
def rejectionReason (context : StreamFrameContext) : Option DropReason :=
  if frameKey context ∈ s.frameKeys then some .duplicateFrame
  else if s.currentEpoch.any (context.playbackEpoch < ·) then some .staleEpoch
  else if (context.sequence : ℤ) ≤ s.lastSequence then some .outOfOrder
  else none

/-- `has_pending_work`. -/
def hasPendingWork : Bool := s.frames.any fun p => !p.pending.isEmpty

/-- `rate_rejection_reason` at a clock reading. -/
def rateLimited (now : ℚ) : Bool := s.lastReceivedAt.any fun last => now - last < 1 / s.maxFps

/-- `accept` at a clock reading. -/
def accept (context : StreamFrameContext) (now : ℚ) : Connection :=
  let key := frameKey context
  let order := if s.frameOrder.length = frameWindow then s.frameOrder.tail else s.frameOrder
  let keys := if s.frameOrder.length = frameWindow then
      s.frameOrder.head?.elim s.frameKeys s.frameKeys.erase
    else s.frameKeys
  { s with
    lastReceivedAt := some now
    currentEpoch := some (max (s.currentEpoch.elim context.playbackEpoch fun epoch =>
      if epoch = 0 then context.playbackEpoch else epoch) context.playbackEpoch)
    lastSequence := context.sequence
    frameOrder := order ++ [key]
    frameKeys := insert key keys }

/-- The processing of an accepted frame is started. -/
def startProcess (metadata : FrameMetadata) : Connection :=
  let path : ProcessPath :=
    if s.calibrationStarted && !s.inferenceStarted then .calibration
    else if settings.faceWorker then .face
    else .gazeOnly
  { s with
    frames := s.frames ++ [{
      context := metadata.context
      marked := metadata.calibrationTarget.isSome
      calibrating := s.calibrationStarted
      path }]
    processTask := some s.frames.length }

def drop (context : StreamFrameContext) (reason : DropReason) (retryable : Bool) : Connection :=
  s.send (.frame context (.drop reason retryable))

/-- The handler deals with a frame of its session, at the clock readings of the rate limit and of
`accept`. -/
def takeFrame (metadata : FrameMetadata) (rateAt acceptAt : ℚ) : Connection :=
  let s : Connection := { s with taken := s.taken ++ [metadata.context] }
  match s.rejectionReason metadata.context with
  | some reason => s.drop metadata.context reason true
  | none =>
    if s.processTask.isSome || s.hasPendingWork then s.drop metadata.context .inFlight true
    else if s.rateLimited rateAt then s.drop metadata.context .fpsLimited true
    else if metadata.calibrationTarget.isSome && !s.calibrationStarted then
      s.drop metadata.context .sessionClosing false
    else if !s.inferenceStarted && !s.calibrationStarted then s.drop metadata.context .sessionClosing true
    else (s.accept metadata.context acceptAt).startProcess settings metadata

/-- The handler deals with a binary message. -/
def binaryMessage (decoded : Except DecodeError DecodedBinaryFrame) (rateAt acceptAt : ℚ) : Connection :=
  match decoded with
  | .error (.tooLarge _) => s.close 1009 "frame_too_large" .frameTooLarge
  | .error (.protocol _) => s.protocolError
  | .error .overflow => s.finish .raised
  | .ok binary =>
    if validates settings binary.metadata then s.takeFrame settings binary.metadata rateAt acceptAt
    else s.protocolError

/-! ## Controls -/

/-- The calibration is over. -/
def endCalibration : Connection :=
  { s with calibrationTask := none, calibrationStarted := false, maxFps := settings.maxFps }

/-- `start_inference`. -/
def startInference (requestId : String) : Connection :=
  if s.calibrationStarted then
    s.send (.controlResult requestId .startInference false (some "calibration_in_progress") none)
  else
    { s with inferenceStarted := true }.send (.controlResult requestId .startInference true none none)

/-- `stop_inference`. -/
def stopInference (requestId : String) : Connection :=
  { s with inferenceStarted := false }.send (.controlResult requestId .stopInference true none none)

/-- `start_calibration`. -/
def startCalibration (requestId : String) : Connection :=
  if s.calibrationTask.isSome then
    s.send (.controlResult requestId .startCalibration false (some "calibration_in_progress")
      (some (calibrationUnavailableId settings requestId)))
  else
    { s with
      calibrationStarted := true
      maxFps := max settings.maxFps calibrationMaxFps
      calibrationTask := some { requestId, calibrationId := "calibration-" ++ requestId } }

/-- `stop_session`. -/
def stopSession (requestId : String) : Connection :=
  let s := if s.calibrationTask.isSome then s.endCalibration settings else s
  if s.processTask.isNone then s.closeNormally requestId
  else { s with closeRequested := some requestId }

/-- The handler deals with a control message. -/
def controlMessage (control : ControlMessage) : Connection :=
  match control.action with
  | .startInference => s.startInference control.requestId
  | .stopInference => s.stopInference control.requestId
  | .startCalibration => s.startCalibration settings control.requestId
  | .stopSession => s.stopSession settings control.requestId

/-! ## The handler -/

/-- The message that is done. -/
def messagePart (rateAt acceptAt : ℚ) : Connection :=
  let next : Connection := { s with received := none, stage := .select }
  match s.received with
  | none => next
  | some .disconnect => next.finish .disconnected
  | some (.binary decoded) => next.binaryMessage settings decoded rateAt acceptAt
  | some (.text (some control)) => next.controlMessage settings control
  | some (.text none) => next.protocolError
  | some .unreadable => next.finish .raised
  | some .other => next

/-- What the handler does after a part: the next one, or it waits again. -/
def afterPart (process message : Bool) : Connection :=
  { s with stage := if process || message then .handling false process message else .select }

/-- The outcome of the calibration: what the worker returned, or that it is unavailable. -/
def calibrationOutcome : Except TaskError (Bool × Option String) → Bool × Option String
  | .ok outcome => outcome
  | .error _ => (false, "eye_worker_unavailable")

/-- The calibration that is done. -/
def calibrationPart (process message : Bool) (calibration : CalibrationTask)
    (result : Except TaskError (Bool × Option String)) : Connection :=
  let (valid, reason) := calibrationOutcome result
  let next := (s.endCalibration settings).send
    (.controlResult calibration.requestId .startCalibration valid (if valid then none else reason)
      (some (if valid then calibration.calibrationId
        else calibrationUnavailableId settings calibration.requestId)))
  match s.closeRequested, s.processTask with
  | some requestId, none => next.closeNormally requestId
  | _, _ => next.afterPart process message

/-- The frame that is done. -/
def processPart (message : Bool) (process : FrameProcess) (outcome : Option FrameOutcome) : Connection :=
  match outcome with
  | none => { s with processTask := none }.finish .raised
  | some outcome =>
    let next := { s with processTask := none }.send (.frame process.context outcome)
    match s.closeRequested with
    | some requestId => next.closeNormally requestId
    | none => next.afterPart false message

/-- The frame in processing. -/
def process : Option FrameProcess := s.processTask.bind (s.frames[·]?)

/-- The handler deals with the next of what was done when it woke. -/
def handle (rateAt acceptAt : ℚ) : Option Connection :=
  match s.stage with
  | .handling true process message =>
    match s.calibrationTask with
    | some { requestId, calibrationId, task := .done result } =>
      some (s.calibrationPart settings process message { requestId, calibrationId } result)
    | _ => none
  | .handling false true message =>
    match s.process with
    | some process =>
      match process.stage with
      | .ended outcome => some (s.processPart message process outcome)
      | _ => none
    | none => none
  | .handling false false true => some (s.messagePart settings rateAt acceptAt)
  | _ => none

/-- The handler wakes with all that is done. -/
def wake : Option Connection :=
  let calibration := s.calibrationTask.any (·.task.isDone)
  let process := s.process.any (·.ended)
  let message := s.received.isSome
  if s.stage = .select ∧ (calibration || process || message) then
    some { s with stage := .handling calibration process message }
  else none

end Connection

/-! ## Steps -/

inductive ConnectionStep where
  | receive (message : Incoming)
  | calibrated (result : Except TaskError (Bool × Option String))
  | frame (process : ℕ) (step : ProcessStep)
  | wake
  | handle (rateAt acceptAt : ℚ)

def HandlerStage.isFinished : HandlerStage → Bool
  | .finished _ => true
  | _ => false

/-- One step; `none` when what it names is not at that point. -/
def connectionStep (settings : Settings) (s : Connection) : ConnectionStep → Option Connection
  | .receive message =>
    if s.received.isNone && !s.stage.isFinished then some { s with received := some message } else none
  | .calibrated result =>
    s.calibrationTask.bind fun calibration =>
      if calibration.task.isRunning then
        some { s with calibrationTask := some { calibration with task := .done result } }
      else none
  | .frame j step =>
    s.frames[j]?.bind fun p =>
      (processStep s.inferenceStarted p step).map fun q => { s with frames := s.frames.set j q }
  | .wake => s.wake
  | .handle rateAt acceptAt => s.handle settings rateAt acceptAt

/-- The connection when its loop begins. -/
def Settings.start (settings : Settings) : Connection := { maxFps := settings.maxFps }

/-! ## Small sessions -/

/-- A session with a Face worker, or without one. -/
def visitorSettings (faceWorker : Bool) : Settings where
  sessionId := "visitor-a"
  videoId := "video-0001"
  selectedEncoding := "image/jpeg"
  maxFps := 4
  faceWorker
  digest := id

/-- The context of a frame, by its sequence. -/
def contextOf (n : ℕ) : StreamFrameContext where
  sessionId := "visitor-a"
  videoId := "video-0001"
  frameId := "frame-" ++ toString n
  sequence := n
  capturedAtMonoMs := n
  videoTimeMs := n
  playbackEpoch := 0

/-- A small frame of the session. -/
def frameOf (context : StreamFrameContext) (target : Option Members) : DecodedBinaryFrame where
  metadata := { smallMetadata with context, calibrationTarget := target }
  imageBytes := smallImage

/-- A message arrives and the handler deals with it, a second after the last one. -/
def arrives (message : Incoming) (second : ℚ) : List ConnectionStep :=
  [.receive message, .wake, .handle second second]

def controlArrives (action : ControlAction) (second : ℚ) : List ConnectionStep :=
  arrives (.text (some { requestId := "control-1", action, pattern := none })) second

def frameArrives (n : ℕ) (second : ℚ) : List ConnectionStep :=
  arrives (.binary (.ok (frameOf (contextOf n) none))) second

end Mkk.Gateway
