import Mkk.Lib.Lts
import Mkk.Lib.Places

/-!
# The camera of the Kiosk

`FrameSource` as a transition system. A coroutine is cut at its awaits: a step runs one part of an
`open` or a `capture` call to its next await, or all of `stop`. What the browser gives (the stream, the
playing video, the picture) and when is a parameter of the step that resumes after it. A stream and
its video are known by the `open` operation that acquired them, a picture by its `capture`; the
operations also record whether their tracks are live and how often their picture was closed.
-/

namespace Mkk.Kiosk

open Lib

/-- `CameraAccessErrorCode`. -/
inductive CameraAccessErrorCode where
  | permissionDenied
  | cameraUnavailable
  | cameraNotReady
  | captureFailed
  | unsupported
  | cancelled
deriving DecidableEq, Repr

/-- What a step can throw: an error of this module, or one of the browser with its name. -/
inductive Thrown where
  | access (code : CameraAccessErrorCode)
  | named (name : String)
deriving DecidableEq

/-- `classifyCameraError`. -/
def classifyCameraError : Thrown → CameraAccessErrorCode
  | .access code => code
  | .named name =>
    if name = "NotAllowedError" ∨ name = "SecurityError" then .permissionDenied
    else .cameraUnavailable

/-- `FrameCaptureOutcome`. -/
inductive FrameCaptureOutcome where
  | delivered
  | dropped
deriving DecidableEq

/-! ## State -/

/-- What an `open` call waits for: the stream, the video to play, its first picture, or its own
continuation when `openCamera` has ended. -/
inductive OpenStage where
  | media
  | play
  | data
  | settled (error : Option CameraAccessErrorCode)
  | ended (error : Option CameraAccessErrorCode)
deriving DecidableEq

/-- `OpenOperation`. -/
structure OpenOperation where
  generation : ℕ
  aborted : Bool := false
  /-- `stream` and `video` are not `null`. -/
  stream : Bool := false
  video : Bool := false
  stage : OpenStage := .media
  /-- The tracks it acquired have not been stopped. -/
  live : Bool := false
deriving DecidableEq

/-- What a `capture` call waits for: the picture or its consumer. -/
inductive CaptureStage where
  | frame
  | consume
  | ended (result : Except CameraAccessErrorCode FrameCaptureOutcome)

/-- `CaptureOperation`. -/
structure CaptureOperation where
  generation : ℕ
  aborted : Bool := false
  stream : ℕ
  video : ℕ
  /-- `frame` is not `null`. -/
  frame : Bool := false
  stage : CaptureStage := .frame
  /-- Its picture was created, and so often closed. -/
  created : Bool := false
  closed : ℕ := 0
  /-- `stop` was called during the capture. -/
  stopped : Bool := false

structure FrameSource where
  /-- `mediaDevices` is not `null`. -/
  mediaDevices : Bool
  stream : Option ℕ := none
  video : Option ℕ := none
  openTask : Option ℕ := none
  lifecycleGeneration : ℕ := 0
  captureOperation : Option ℕ := none
  opens : List OpenOperation := []
  captures : List CaptureOperation := []
  /-- `open` was called after the last `stop`. -/
  reopened : Bool := false

/-- What `getUserMedia` gives: a stream with so many video tracks, for which the video element may
not start, or an error. -/
inductive MediaResult where
  | stream (videoTracks : ℕ) (videoError : Option String)
  | denied (name : String)

namespace OpenOperation

/-- `openCamera` has not ended. -/
def opening (op : OpenOperation) : Bool :=
  match op.stage with
  | .media | .play | .data => true
  | _ => false

/-- `releaseOpenResources`. -/
def releaseOpenResources (op : OpenOperation) : OpenOperation :=
  { op with
    video := false
    stream := false
    live := op.live && !op.stream }

/-- The operation is not cancelled. -/
def active (op : OpenOperation) (generation : ℕ) : Bool :=
  !op.aborted && op.generation == generation

/-- The `catch` clause of `openCamera`. -/
def fail (op : OpenOperation) (generation : ℕ) (error : Thrown) : OpenOperation :=
  { op.releaseOpenResources with
    stage := .settled (some (if op.active generation then classifyCameraError error else .cancelled)) }

end OpenOperation

namespace CaptureOperation

/-- The call has not ended. -/
def capturing (op : CaptureOperation) : Bool :=
  match op.stage with
  | .ended _ => false
  | _ => true

/-- `releaseCaptureFrame`. -/
def releaseCaptureFrame (op : CaptureOperation) : CaptureOperation :=
  { op with
    frame := false
    closed := if op.frame then op.closed + 1 else op.closed }

end CaptureOperation

namespace FrameSource

def isOpen (s : FrameSource) : Bool := s.stream.isSome && s.video.isSome

/-- `stopStream`. -/
def stopStream (s : FrameSource) (i : ℕ) : FrameSource :=
  { s with opens := s.opens.modify i fun op => { op with live := false } }

def modifyOpen (s : FrameSource) (i : ℕ) (f : OpenOperation → OpenOperation) : FrameSource :=
  { s with opens := s.opens.modify i f }

def modifyCapture (s : FrameSource) (j : ℕ) (f : CaptureOperation → CaptureOperation) : FrameSource :=
  { s with captures := s.captures.modify j f }

/-! ## Opening -/

/-- `open` up to the first await of a new operation. Another call waits for the operation that runs
or has nothing to do. -/
def beginOpen (s : FrameSource) : FrameSource :=
  let s := { s with reopened := true }
  let running := s.openTask.bind fun i => s.opens[i]?.filter (!·.aborted)
  if s.isOpen || running.isSome || !s.mediaDevices then s
  else
    { s with
      opens := s.opens ++ [{ generation := s.lifecycleGeneration }]
      openTask := some s.opens.length }

/-- `openCamera` after `getUserMedia`. -/
def mediaReady (s : FrameSource) (i : ℕ) (op : OpenOperation) : MediaResult → FrameSource
  | .denied name => s.modifyOpen i fun op => op.fail s.lifecycleGeneration (.named name)
  | .stream videoTracks videoError =>
    let acquired (op : OpenOperation) : OpenOperation := { op with stream := true, live := true }
    if !op.active s.lifecycleGeneration then
      s.modifyOpen i fun op => (acquired op).fail s.lifecycleGeneration (.access .cancelled)
    else if videoTracks = 0 then
      s.modifyOpen i fun op => (acquired op).fail s.lifecycleGeneration (.access .cameraUnavailable)
    else
      match videoError with
      | some name => s.modifyOpen i fun op => (acquired op).fail s.lifecycleGeneration (.named name)
      | none => s.modifyOpen i fun op => { acquired op with video := true, stage := .play }

/-- `openCamera` after `play`. -/
def played (s : FrameSource) (i : ℕ) : Option Thrown → FrameSource
  | some error => s.modifyOpen i fun op => op.fail s.lifecycleGeneration error
  | none => s.modifyOpen i fun op => { op with stage := .data }

/-- `openCamera` after the first picture. -/
def dataReady (s : FrameSource) (i : ℕ) (op : OpenOperation) : Option Thrown → FrameSource
  | some error => s.modifyOpen i fun op => op.fail s.lifecycleGeneration error
  | none =>
    if !op.active s.lifecycleGeneration then
      s.modifyOpen i fun op => op.fail s.lifecycleGeneration (.access .cancelled)
    else
      { s.modifyOpen i fun op => { op with stream := false, video := false, stage := .settled none } with
        stream := some i
        video := some i }

/-- The rest of `open` when `openCamera` has ended. -/
def settleOpen (s : FrameSource) (i : ℕ) (op : OpenOperation)
    (error : Option CameraAccessErrorCode) : FrameSource :=
  let error := if error.isNone && !op.active s.lifecycleGeneration then some .cancelled else error
  { s.modifyOpen i fun op => { op with stage := .ended error } with
    openTask := if s.openTask = some i then none else s.openTask }

/-! ## Stopping -/

/-- `stop` cancels the operation that opens. -/
def stopOpenTask (s : FrameSource) : FrameSource :=
  match s.openTask with
  | none => s
  | some i =>
    { s.modifyOpen i fun op => { op with aborted := true }.releaseOpenResources with openTask := none }

/-- `stop` cancels the capture in progress. -/
def stopCapture (s : FrameSource) : FrameSource :=
  match s.captureOperation with
  | none => s
  | some j =>
    { s.modifyCapture j fun op => { op with aborted := true }.releaseCaptureFrame with
      captureOperation := none }

/-- `stop` gives up the stream that is held. -/
def stopHeld (s : FrameSource) : FrameSource :=
  match s.stream with
  | none => { s with video := none }
  | some i => { s.stopStream i with stream := none, video := none }

/-- `stop`. -/
def stop (s : FrameSource) : FrameSource :=
  let next : FrameSource :=
    { s with
      lifecycleGeneration := s.lifecycleGeneration + 1
      reopened := false
      captures := s.captures.map fun op => if op.capturing then { op with stopped := true } else op }
  next.stopOpenTask.stopCapture.stopHeld

/-! ## Capturing -/

/-- `capture` up to its first await; `context` is what the context factory throws. -/
def beginCapture (s : FrameSource) (ready : Bool) (context : Option Thrown) : FrameSource :=
  if s.captureOperation.isSome then s
  else
    match s.video, s.stream with
    | some video, some stream =>
      if !ready then s
      else
        let op : CaptureOperation := { generation := s.lifecycleGeneration, stream, video }
        match context with
        | none =>
          { s with captures := s.captures ++ [op], captureOperation := some s.captures.length }
        | some (.access code) =>
          { s with captures := s.captures ++ [{ op with stage := .ended (.error code) }] }
        | some (.named _) =>
          { s with captures := s.captures ++ [{ op with stage := .ended (.error .captureFailed) }] }
    | _, _ => s

/-- `assertCaptureActive` passes. -/
def captureActive (s : FrameSource) (j : ℕ) (op : CaptureOperation) : Bool :=
  !op.aborted && op.generation == s.lifecycleGeneration && s.captureOperation == some j &&
    s.stream == some op.stream && s.video == some op.video

/-- The error a failed capture ends with. -/
def captureError (s : FrameSource) (j : ℕ) (op : CaptureOperation) (error : Thrown) :
    CameraAccessErrorCode :=
  if op.aborted || op.generation != s.lifecycleGeneration || s.captureOperation != some j then .cancelled
  else
    match error with
    | .access code => code
    | .named _ => .captureFailed

/-- The `finally` clause of `capture`. -/
def endCapture (s : FrameSource) (j : ℕ)
    (result : Except CameraAccessErrorCode FrameCaptureOutcome) : FrameSource :=
  { s.modifyCapture j fun op => { op.releaseCaptureFrame with stage := .ended result } with
    captureOperation := if s.captureOperation = some j then none else s.captureOperation }

/-- `capture` after `createFrame`. -/
def frameCreated (s : FrameSource) (j : ℕ) (op : CaptureOperation) : Option Thrown → FrameSource
  | some error => s.endCapture j (.error (s.captureError j op error))
  | none =>
    let t := s.modifyCapture j fun op => { op with frame := true, created := true }
    if s.captureActive j op then t.modifyCapture j fun op => { op with stage := .consume }
    else t.endCapture j (.error (s.captureError j op (.access .cancelled)))

/-- `capture` after its consumer. -/
def consumed (s : FrameSource) (j : ℕ) (op : CaptureOperation) : Option Thrown → FrameSource
  | some error => s.endCapture j (.error (s.captureError j op error))
  | none =>
    if s.captureActive j op then s.endCapture j (.ok .delivered)
    else s.endCapture j (.error (s.captureError j op (.access .cancelled)))

end FrameSource

/-! ## Steps -/

inductive FrameStep where
  | open
  | media (operation : ℕ) (result : MediaResult)
  | play (operation : ℕ) (error : Option Thrown)
  | data (operation : ℕ) (error : Option Thrown)
  | settle (operation : ℕ)
  | stop
  | capture (ready : Bool) (context : Option Thrown)
  | frame (operation : ℕ) (error : Option Thrown)
  | consume (operation : ℕ) (error : Option Thrown)

/-- One step; `none` when the operation is not at that await. -/
def frameStep (s : FrameSource) : FrameStep → Option FrameSource
  | .open => some s.beginOpen
  | .media i result =>
    s.opens[i]?.bind fun op => if op.stage = .media then some (s.mediaReady i op result) else none
  | .play i error =>
    s.opens[i]?.bind fun op => if op.stage = .play then some (s.played i error) else none
  | .data i error =>
    s.opens[i]?.bind fun op => if op.stage = .data then some (s.dataReady i op error) else none
  | .settle i =>
    s.opens[i]?.bind fun op =>
      match op.stage with
      | .settled error => some (s.settleOpen i op error)
      | _ => none
  | .stop => some s.stop
  | .capture ready context => some (s.beginCapture ready context)
  | .frame j error =>
    s.captures[j]?.bind fun op =>
      match op.stage with
      | .frame => some (s.frameCreated j op error)
      | _ => none
  | .consume j error =>
    s.captures[j]?.bind fun op =>
      match op.stage with
      | .consume => some (s.consumed j op error)
      | _ => none

end Mkk.Kiosk
