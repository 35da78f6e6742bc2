import Mkk.Eye.Adapter
import Mkk.Lib.Lts
import Mkk.Lib.Places

/-!
# The Vision client of the Kiosk

`LocalVisionStreamClient` as a transition system. A coroutine is cut at its awaits: a step runs one
part of a call to its next await, or one event of a websocket. What the token provider and the frame
encoder give, and when, is a parameter of the step that resumes after them. Calls, websockets and
control requests are known by their place in the order they were made; what was sent and what the
listeners were told is kept as a history. The texts of errors are left out: nothing reads them, and
`terminalError` is cleared by the same `failTransport` that sets it.
-/

namespace Mkk.Kiosk

open Lib
open Eye (StreamFrameContext)

/-! ## Data -/

/-- `VisionSessionContext`. -/
structure VisionSessionContext where
  sessionId : String
  videoId : String
deriving DecidableEq

/-- `CalibrationMarker`. -/
structure CalibrationMarker where
  calibrationId : String
  targetId : String
  presentedAtMonoMs : ℚ
deriving DecidableEq

/-- `FrameContext`, without the layout, which the client only passes on. -/
structure FrameContext extends StreamFrameContext where
  calibrationTarget : Option CalibrationMarker
deriving DecidableEq

/-- `VisionDropReason`. -/
inductive VisionDropReason where
  | inFlight
  | duplicateFrame
  | outOfOrder
  | staleEpoch
  | fpsLimited
  | frameTooLarge
  | decodeTimeout
  | inferenceTimeout
  | serverOverloaded
  | sessionClosing
deriving DecidableEq

/-- `FrameDeliveryResult`, for the frame of the call. -/
inductive FrameDeliveryResult where
  | accepted
  | dropped (reason : VisionDropReason)
deriving DecidableEq

/-- `CalibrationAction`. -/
inductive CalibrationAction where
  | startCalibration
  | startInference
  | stopInference
  | stopSession
deriving DecidableEq

/-- `ControlResultMessage`. -/
structure ControlResult where
  action : CalibrationAction
  valid : Bool
  reason : Option String
  calibrationId : Option String
deriving DecidableEq

/-- What a calibration's progress says of its identity. -/
structure CalibrationProgress where
  calibrationId : String
  profileId : String
deriving DecidableEq

/-! ## Messages -/

/-- A message the client sends; `call` is the `sendFrame` call behind a frame. -/
inductive ClientMessage where
  | hello (context : VisionSessionContext)
  | control (requestId : String) (action : CalibrationAction) (patternId : Option String)
  | frame (call : ℕ) (context : FrameContext) (byteLength : ℕ)
deriving DecidableEq

/-- A sample of a result: `null` with a reason that is well formed or not, or a record with the frame
it names, if that can be read. -/
inductive SampleField where
  | absent (reason : Option String)
  | sample (frame : Option StreamFrameContext) (valid : Bool)
deriving DecidableEq

structure ResultMessage where
  frame : StreamFrameContext
  /-- The member `calibration_progress`, if there, and what its parser returns. -/
  progress : Option (Option CalibrationProgress)
  expression : SampleField
  gaze : SampleField
deriving DecidableEq

/-- A message the client receives. `refused` is any text a reader refuses before it changes anything;
a part that may be refused later is optional. -/
inductive ServerMessage where
  | refused
  | ready (session : VisionSessionContext) (maxFrameBytes : Option ℕ)
  | controlResult (requestId : String) (body : Option ControlResult)
  | result (message : ResultMessage)
  | drop (frame : StreamFrameContext) (reason : Option VisionDropReason)
  | error (frame : Option StreamFrameContext)
  | close
deriving DecidableEq

/-- What a listener is told. -/
inductive Notification where
  | progress (progress : CalibrationProgress)
  | expression (frame : StreamFrameContext)
  | gaze (frame : StreamFrameContext) (valid : Bool)
  | gazeUnavailable (frame : StreamFrameContext) (reason : String)
deriving DecidableEq

/-! ## State -/

/-- `Deferred`. -/
inductive Deferred (α : Type) where
  | pending
  | resolved (value : α)
  | rejected
deriving DecidableEq

namespace Deferred

variable {α : Type}

def settled : Deferred α → Bool
  | pending => false
  | _ => true

def resolve (deferred : Deferred α) (value : α) : Deferred α :=
  if deferred.settled then deferred else .resolved value

def reject (deferred : Deferred α) : Deferred α :=
  if deferred.settled then deferred else .rejected

end Deferred

/-- `readyState`. -/
inductive ReadyState where
  | connecting
  | open
  | closing
  | closed
deriving DecidableEq

/-- A websocket and the session `startSession` opened it for. -/
structure VisionSocket where
  session : VisionSessionContext
  readyState : ReadyState := .connecting
  /-- The listeners of the client are attached. -/
  attached : Bool := true
deriving DecidableEq

/-- `close`. -/
def VisionSocket.close (socket : VisionSocket) : VisionSocket :=
  if socket.readyState = .connecting ∨ socket.readyState = .open then
    { socket with readyState := .closing }
  else socket

/-- What a `startSession` call waits for. -/
inductive StartStage where
  | token
  | open (socket : ℕ)
  | handshake (socket : ℕ)
  | ended
deriving DecidableEq

/-- A `startSession` call; `aborted` says whether its signal, if any, was aborted. -/
structure StartCall where
  context : VisionSessionContext
  signal : Bool
  aborted : Bool := false
  stage : StartStage := .token
  openWaiter : Deferred Unit := .pending
  readyWaiter : Deferred ℕ := .pending
deriving DecidableEq

/-- What a `sendFrame` call waits for. -/
inductive FrameStage where
  | encode
  | deliver
  | ended
deriving DecidableEq

/-- A `sendFrame` call with its `PendingFrame`, the limit of the handshake it read, and what `socket`
was when it was checked against the session. -/
structure FrameCall where
  context : FrameContext
  socket : Option ℕ
  maxFrameBytes : ℕ
  signal : Bool
  aborted : Bool := false
  stage : FrameStage := .encode
  deferred : Deferred FrameDeliveryResult := .pending
  sent : Bool := false
  callerAborted : Bool := false
deriving DecidableEq

/-- A `sendControl` call; it waits, and its timeout is set or has fired. -/
structure ControlCall where
  action : CalibrationAction
  waiter : Deferred ControlResult := .pending
  waits : Bool := true
  timeout : Bool := true
deriving DecidableEq

structure VisionClient where
  sockets : List VisionSocket := []
  starts : List StartCall := []
  frames : List FrameCall := []
  controls : List ControlCall := []
  sessionContext : Option VisionSessionContext := none
  socket : Option ℕ := none
  socketOpenWaiter : Option ℕ := none
  readyWaiter : Option ℕ := none
  /-- `ready`, by its `max_frame_bytes`. -/
  ready : Option ℕ := none
  pendingFrame : Option ℕ := none
  frameCaptureActive : Bool := false
  calibrationProfile : Option String := none
  calibrationIdentity : Option String := none
  /-- The requests in `controlWaiters`. -/
  controlWaiters : List ℕ := []
  transmitted : List (ℕ × ClientMessage) := []
  notified : List Notification := []
deriving DecidableEq

namespace VisionClient

def modifySocket (s : VisionClient) (k : ℕ) (f : VisionSocket → VisionSocket) : VisionClient :=
  { s with sockets := s.sockets.modify k f }

def modifyStart (s : VisionClient) (i : ℕ) (f : StartCall → StartCall) : VisionClient :=
  { s with starts := s.starts.modify i f }

def modifyFrame (s : VisionClient) (j : ℕ) (f : FrameCall → FrameCall) : VisionClient :=
  { s with frames := s.frames.modify j f }

def modifyControl (s : VisionClient) (c : ℕ) (f : ControlCall → ControlCall) : VisionClient :=
  { s with controls := s.controls.modify c f }

/-- `send` on a websocket, which discards what comes after its close. -/
def send (s : VisionClient) (k : ℕ) (message : ClientMessage) : VisionClient :=
  if s.sockets[k]?.any (·.readyState = .open) then
    { s with transmitted := s.transmitted ++ [(k, message)] }
  else s

def notify (s : VisionClient) (notification : Notification) : VisionClient :=
  { s with notified := s.notified ++ [notification] }

/-! ## Closing -/

/-- `detachSocket`. -/
def detachSocket (s : VisionClient) : VisionClient :=
  match s.socket with
  | none => s
  | some k => s.modifySocket k fun socket => { socket with attached := false }

/-- `rejectWaiters`. -/
def rejectWaiters (s : VisionClient) : VisionClient :=
  { s with
    starts := s.starts.mapIdx fun i call =>
      { call with
        openWaiter := if s.socketOpenWaiter = some i then call.openWaiter.reject else call.openWaiter
        readyWaiter := if s.readyWaiter = some i then call.readyWaiter.reject else call.readyWaiter }
    socketOpenWaiter := none
    readyWaiter := none
    controls := s.controls.mapIdx fun c call =>
      if c ∈ s.controlWaiters then { call with waiter := call.waiter.reject } else call
    controlWaiters := []
    frames := s.frames.mapIdx fun j call =>
      if s.pendingFrame = some j then { call with deferred := call.deferred.reject } else call
    pendingFrame := none }

/-- `clearSessionState`. -/
def clearSessionState (s : VisionClient) : VisionClient :=
  { s with
    sessionContext := none
    calibrationProfile := none
    calibrationIdentity := none
    ready := none
    frameCaptureActive := false
    pendingFrame := none
    socketOpenWaiter := none
    readyWaiter := none }

/-- The end of `closeSocket` and of `failTransport`: the browser is asked to close. -/
def closeBrowserSocket (s : VisionClient) : Option ℕ → VisionClient
  | none => s
  | some k => s.modifySocket k VisionSocket.close

/-- `closeSocket`. -/
def closeSocket (s : VisionClient) : VisionClient :=
  let detached : VisionClient := { s.detachSocket with socket := none }
  detached.rejectWaiters.clearSessionState.closeBrowserSocket s.socket

/-- `failTransport`. -/
def failTransport (s : VisionClient) : VisionClient :=
  let detached : VisionClient := { s.rejectWaiters.detachSocket with socket := none }
  detached.clearSessionState.closeBrowserSocket s.socket

/-! ## Controls -/

/-- The `request_id` of a control request. -/
def requestId (c : ℕ) : String := "control-" ++ toString (c + 1)

/-- The websocket `requireOpenSocket` returns. -/
def openSocket (s : VisionClient) : Option ℕ :=
  s.socket.filter fun k => s.sockets[k]?.any fun socket => socket.readyState = .open

/-- `sendControl` up to its await; `none` when it throws. -/
def sendControl (s : VisionClient) (action : CalibrationAction) (patternId : Option String) :
    Option VisionClient :=
  match s.openSocket with
  | none => none
  | some k =>
    if s.ready.isNone then none
    else
      let c := s.controls.length
      let waiting : VisionClient :=
        { s with controls := s.controls ++ [{ action }], controlWaiters := s.controlWaiters ++ [c] }
      some (waiting.send k (.control (requestId c) action patternId))

/-! ## Starting a session -/

/-- `startSession` up to its first await. -/
def beginStart (s : VisionClient) (context : VisionSessionContext) (signal : Bool) : VisionClient :=
  if s.sessionContext.isSome || s.socket.isSome then s
  else { s with starts := s.starts ++ [{ context, signal }] }

/-- The `catch` clause of `startSession`. -/
def startFailed (s : VisionClient) (i : ℕ) : VisionClient :=
  s.closeSocket.modifyStart i fun call => { call with stage := .ended }

/-- `startSession` after the token; `token` says that it is valid and the websocket was created. -/
def tokenReady (s : VisionClient) (i : ℕ) (call : StartCall) (token : Bool) : VisionClient :=
  if !token || call.aborted then s.modifyStart i fun call => { call with stage := .ended }
  else
    { s.modifyStart i fun call => { call with stage := .open s.sockets.length } with
      sockets := s.sockets ++ [{ session := call.context }]
      sessionContext := some call.context
      socket := some s.sockets.length
      socketOpenWaiter := some i }

/-- `startSession` after its websocket opened, or the wait for it ended otherwise. `send` throws on a
websocket that still connects. -/
def opened (s : VisionClient) (i k : ℕ) (call : StartCall) : VisionClient :=
  if call.openWaiter ≠ .resolved () then s.startFailed i
  else
    let waiting : VisionClient :=
      { s.modifyStart i fun call => { call with stage := .handshake k } with
        socketOpenWaiter := none
        readyWaiter := some i }
    if s.sockets[k]?.any (·.readyState = .connecting) then waiting.startFailed i
    else waiting.send k (.hello call.context)

/-- `startSession` after the handshake, or the end of the wait for it. -/
def handshaken (s : VisionClient) (i : ℕ) (call : StartCall) : VisionClient :=
  match call.readyWaiter with
  | .resolved ready =>
    { s.modifyStart i fun call => { call with stage := .ended } with
      ready := some ready
      readyWaiter := none }
  | _ => s.startFailed i

/-! ## Calibration and inference -/

/-- `startCalibration` up to its await. -/
def beginCalibration (s : VisionClient) (patternId : String) : VisionClient :=
  let active : VisionClient :=
    { s with
      frameCaptureActive := true
      calibrationProfile := some patternId
      calibrationIdentity := none }
  match active.sendControl .startCalibration (some patternId) with
  | some t => t
  | none => { active with frameCaptureActive := false, calibrationProfile := none }

/-- The rest of `startCalibration`. -/
def calibrationSettled (s : VisionClient) : Deferred ControlResult → VisionClient
  | .resolved result =>
    let mismatch := result.valid && s.calibrationIdentity.isSome &&
      result.calibrationId != s.calibrationIdentity
    { s with
      calibrationProfile := none
      frameCaptureActive := s.frameCaptureActive && result.valid && result.calibrationId.isSome &&
        !mismatch }
  | _ => { s with frameCaptureActive := false, calibrationProfile := none }

/-- `startInference` up to its await. -/
def beginInference (s : VisionClient) : VisionClient :=
  (s.sendControl .startInference none).getD s

/-- The rest of `startInference`. -/
def inferenceSettled (s : VisionClient) : Deferred ControlResult → VisionClient
  | .resolved result => if result.valid then { s with frameCaptureActive := true } else s
  | _ => s

/-! ## Stopping -/

/-- `stopSession` up to its await. -/
def beginStop (s : VisionClient) : VisionClient :=
  match s.socket with
  | none => s.clearSessionState
  | some _ =>
    if s.openSocket.isNone then s.closeSocket
    else (s.sendControl .stopSession none).getD s.closeSocket

/-- What waits for a control request goes on. -/
def controlSettled (s : VisionClient) (c : ℕ) (call : ControlCall) : VisionClient :=
  let next : VisionClient :=
    { s.modifyControl c fun call => { call with waits := false } with
      controlWaiters := if call.waiter = .rejected then s.controlWaiters.filter (· ≠ c)
        else s.controlWaiters }
  match call.action with
  | .startCalibration => next.calibrationSettled call.waiter
  | .startInference => next.inferenceSettled call.waiter
  | .stopInference => next
  | .stopSession => next.closeSocket

/-! ## Sending frames -/

/-- `sendFrame` up to its first await; `positive` says that the picture has a size. -/
def beginFrame (s : VisionClient) (context : FrameContext) (positive signal : Bool) : VisionClient :=
  match s.sessionContext, s.ready with
  | some session, some maxFrameBytes =>
    if s.frameCaptureActive && context.sessionId == session.sessionId &&
        context.videoId == session.videoId && positive && s.pendingFrame.isNone then
      { s with
        frames := s.frames ++ [{ context, socket := s.socket, maxFrameBytes, signal }]
        pendingFrame := some s.frames.length }
    else s
  | _, _ => s

/-- The `catch` clause of `sendFrame`. -/
def catchFrame (call : FrameCall) : FrameCall :=
  if call.aborted && call.sent && !call.deferred.settled then { call with callerAborted := true }
  else { call with deferred := call.deferred.reject }

/-- The `finally` clause of `sendFrame`. -/
def endFrame (s : VisionClient) (j : ℕ) : VisionClient :=
  { s.modifyFrame j fun call => { call with stage := .ended } with
    pendingFrame :=
      if s.pendingFrame = some j ∧ s.frames[j]?.any (·.deferred.settled) then none else s.pendingFrame }

/-- A `sendFrame` call throws. -/
def frameFailed (s : VisionClient) (j : ℕ) : VisionClient :=
  (s.modifyFrame j catchFrame).endFrame j

/-- What the encoder of a frame gives: an error, or an image with the lengths of its bytes and of the
header of its message. -/
inductive Encoded where
  | failed
  | image (byteLength headerLength : ℕ)
deriving DecidableEq

/-- `MAX_METADATA_BYTES`. -/
def maxMetadataBytes : ℕ := 65535

/-- `sendFrame` after its encoder. -/
def frameEncoded (s : VisionClient) (j : ℕ) (call : FrameCall) : Encoded → VisionClient
  | .failed => s.frameFailed j
  | .image byteLength headerLength =>
    if call.aborted then s.frameFailed j
    else if call.maxFrameBytes < byteLength then
      s.modifyFrame j fun call =>
        { call with
          stage := .deliver
          deferred := call.deferred.resolve (.dropped .frameTooLarge) }
    else if maxMetadataBytes < headerLength then s.frameFailed j
    else
      match s.openSocket with
      | none => s.frameFailed j
      | some k =>
        (s.send k (.frame j call.context byteLength)).modifyFrame j fun call =>
          { call with stage := .deliver, sent := true }

/-- `sendFrame` after its reply, or when its caller stopped waiting. -/
def frameDelivered (s : VisionClient) (j : ℕ) (call : FrameCall) : VisionClient :=
  match call.deferred with
  | .resolved _ => s.endFrame j
  | _ => s.frameFailed j

/-! ## Receiving -/

/-- `handleReady`; `none` when it throws. -/
def handleReady (s : VisionClient) (session : VisionSessionContext) (maxFrameBytes : Option ℕ) :
    Option VisionClient :=
  match s.readyWaiter, s.sessionContext, maxFrameBytes with
  | some i, some context, some limit =>
    if session = context then
      some (s.modifyStart i fun call => { call with readyWaiter := call.readyWaiter.resolve limit })
    else none
  | _, _, _ => none

/-- `handleControlResult` after its request was found and removed. -/
def controlAnswered (s : VisionClient) (c : ℕ) : Option ControlResult → Option VisionClient
  | none => none
  | some result =>
    if result.valid = result.reason.isNone then
      some (s.modifyControl c fun call => { call with waiter := call.waiter.resolve result })
    else none

/-- The pending frame's part of `handleResult` after its frame was compared: the progress. -/
def handleProgress (s : VisionClient) (call : FrameCall) :
    Option (Option CalibrationProgress) → Option VisionClient
  | none => some s
  | some parsed =>
    match s.calibrationProfile, parsed with
    | none, _ => some s
    | some _, none => none
    | some profile, some progress =>
      if progress.profileId ≠ profile ∨
          s.calibrationIdentity.any (· ≠ progress.calibrationId) then none
      else
        let next : VisionClient := { s with calibrationIdentity := some progress.calibrationId }
        some (if call.callerAborted then next else next.notify (.progress progress))

/-- Its part for the expression sample. -/
def handleExpression (s : VisionClient) (call : FrameCall) : SampleField → Option VisionClient
  | .absent reason => if reason.isSome then some s else none
  | .sample frame _ =>
    if frame = some call.context.toStreamFrameContext then
      some (if call.callerAborted then s else s.notify (.expression call.context.toStreamFrameContext))
    else none

/-- Its part for the gaze sample. -/
def handleGaze (s : VisionClient) (call : FrameCall) : SampleField → Option VisionClient
  | .absent none => none
  | .absent (some reason) =>
    some (if call.callerAborted then s
      else s.notify (.gazeUnavailable call.context.toStreamFrameContext reason))
  | .sample frame valid =>
    if frame = some call.context.toStreamFrameContext then
      some (if call.callerAborted then s
        else s.notify (.gaze call.context.toStreamFrameContext valid))
    else none

/-- The pending frame is answered. -/
def settleFrame (s : VisionClient) (j : ℕ) (f : Deferred FrameDeliveryResult → Deferred FrameDeliveryResult) :
    VisionClient :=
  { s.modifyFrame j fun call => { call with deferred := f call.deferred } with pendingFrame := none }

/-- A handler that goes on in the state the one before it left; when it throws, what was done stays. -/
def andThen (r : VisionClient × Bool) (f : VisionClient → Option VisionClient) : VisionClient × Bool :=
  if r.2 then
    match f r.1 with
    | some t => (t, true)
    | none => (r.1, false)
  else r

/-- `handleResult`; the Boolean is false when it throws. -/
def handleResult (s : VisionClient) (message : ResultMessage) : VisionClient × Bool :=
  match s.pendingFrame.bind fun j => (s.frames[j]?).map (j, ·) with
  | none => (s, false)
  | some (j, call) =>
    if message.frame ≠ call.context.toStreamFrameContext then (s, false)
    else
      let checked := andThen (andThen (andThen (s, true) (handleProgress · call message.progress))
        (handleExpression · call message.expression)) (handleGaze · call message.gaze)
      andThen checked fun t => some (t.settleFrame j (·.resolve .accepted))

/-- `handleDrop`. -/
def handleDrop (s : VisionClient) (frame : StreamFrameContext) (reason : Option VisionDropReason) :
    VisionClient × Bool :=
  match s.pendingFrame.bind fun j => (s.frames[j]?).map (j, ·), reason with
  | some (j, call), some reason =>
    if frame = call.context.toStreamFrameContext then
      (s.settleFrame j (·.resolve (.dropped reason)), true)
    else (s, false)
  | _, _ => (s, false)

/-- `handleErrorMessage`. -/
def handleErrorMessage (s : VisionClient) (frame : Option StreamFrameContext) : VisionClient :=
  match s.pendingFrame.bind fun j => (s.frames[j]?).map (j, ·) with
  | some (j, call) =>
    if frame = some call.context.toStreamFrameContext then s.settleFrame j Deferred.reject
    else s.failTransport
  | none => s.failTransport

/-- What a handler that throws leads to. -/
def orFail (r : VisionClient × Bool) : VisionClient :=
  if r.2 then r.1 else r.1.failTransport

/-- `handleMessage`. -/
def handleMessage (s : VisionClient) : ServerMessage → VisionClient
  | .refused => s.failTransport
  | .ready session maxFrameBytes => (s.handleReady session maxFrameBytes).getD s.failTransport
  | .controlResult id body =>
    match s.controlWaiters.find? fun c => requestId c = id with
    | none => s.failTransport
    | some c =>
      let removed : VisionClient := { s with controlWaiters := s.controlWaiters.filter (· ≠ c) }
      (removed.controlAnswered c body).getD removed.failTransport
  | .result message => orFail (s.handleResult message)
  | .drop frame reason => orFail (s.handleDrop frame reason)
  | .error frame => s.handleErrorMessage frame
  | .close => s.failTransport

end VisionClient

/-! ## Steps -/

inductive VisionStep where
  | startSession (context : VisionSessionContext) (signal : Bool)
  | abortStart (call : ℕ)
  | token (call : ℕ) (valid : Bool)
  | started (call : ℕ) (cancelled : Bool)
  | startCalibration (patternId : String)
  | startInference
  | stopSession
  | control (request : ℕ)
  | timeout (request : ℕ)
  | sendFrame (context : FrameContext) (positive signal : Bool)
  | abortFrame (call : ℕ)
  | encoded (call : ℕ) (image : VisionClient.Encoded)
  | delivered (call : ℕ)
  | socketOpen (socket : ℕ)
  | socketMessage (socket : ℕ) (message : ServerMessage)
  | socketError (socket : ℕ)
  | socketClosing (socket : ℕ)
  | socketClose (socket : ℕ)
deriving DecidableEq

/-- The websocket if its listeners are attached. -/
def VisionClient.attached (s : VisionClient) (k : ℕ) : Bool := s.sockets[k]?.any (·.attached)

/-- A `startSession` call goes on when its signal was aborted or what it waits for is settled. -/
def VisionClient.resumeStart (s : VisionClient) (i : ℕ) (cancelled : Bool) (call : StartCall) :
    Option VisionClient :=
  match call.stage, cancelled with
  | .open _, true | .handshake _, true => if call.aborted then some (s.startFailed i) else none
  | .open k, false => if call.openWaiter.settled then some (s.opened i k call) else none
  | .handshake _, false => if call.readyWaiter.settled then some (s.handshaken i call) else none
  | _, _ => none

/-- One step; `none` when the call or the websocket is not at that point. -/
def visionStep (s : VisionClient) : VisionStep → Option VisionClient
  | .startSession context signal => some (s.beginStart context signal)
  | .abortStart i =>
    s.starts[i]?.bind fun call =>
      if call.signal then some (s.modifyStart i fun call => { call with aborted := true }) else none
  | .token i valid =>
    s.starts[i]?.bind fun call =>
      if call.stage = .token then some (s.tokenReady i call valid) else none
  | .started i cancelled => s.starts[i]?.bind (s.resumeStart i cancelled)
  | .startCalibration patternId => some (s.beginCalibration patternId)
  | .startInference => some s.beginInference
  | .stopSession => some s.beginStop
  | .control c =>
    s.controls[c]?.bind fun call =>
      if call.waits && call.waiter.settled then some (s.controlSettled c call) else none
  | .timeout c =>
    s.controls[c]?.bind fun call =>
      if call.waits && call.timeout then
        some (s.modifyControl c fun call => { call with timeout := false }).failTransport
      else none
  | .sendFrame context positive signal => some (s.beginFrame context positive signal)
  | .abortFrame j =>
    s.frames[j]?.bind fun call =>
      if call.signal then some (s.modifyFrame j fun call => { call with aborted := true }) else none
  | .encoded j image =>
    s.frames[j]?.bind fun call =>
      if call.stage = .encode then some (s.frameEncoded j call image) else none
  | .delivered j =>
    s.frames[j]?.bind fun call =>
      if call.stage = .deliver && (call.deferred.settled || call.aborted) then
        some (s.frameDelivered j call)
      else none
  | .socketOpen k =>
    s.sockets[k]?.bind fun socket =>
      if socket.readyState = .connecting then
        let t := s.modifySocket k fun socket => { socket with readyState := .open }
        some (match s.attached k, s.socketOpenWaiter with
          | true, some i => t.modifyStart i fun call => { call with openWaiter := call.openWaiter.resolve () }
          | _, _ => t)
      else none
  | .socketMessage k message => if s.attached k then some (s.handleMessage message) else none
  | .socketError k => if s.attached k then some s.failTransport else none
  | .socketClosing k =>
    s.sockets[k]?.bind fun socket =>
      if socket.readyState = .open then
        some (s.modifySocket k fun socket => { socket with readyState := .closing })
      else none
  | .socketClose k =>
    s.sockets[k]?.bind fun socket =>
      let t := s.modifySocket k fun socket => { socket with readyState := .closed }
      if socket.readyState = .closed then none
      else some (if socket.attached then t.failTransport else t)

end Mkk.Kiosk
