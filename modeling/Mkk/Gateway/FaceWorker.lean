import Mkk.Gateway.FrameProcess

/-!
# The Face worker of a connection

`FaceWorker.process` and `FaceWorker.close` for the call of one frame. `process` runs on a thread of its
own: it checks that the worker was started, submits the adapter call to the executor and waits for it;
the executor runs or cancels the call, and closing the worker cancels what has not begun. `faceStep` runs
the call with the frame's coroutine in the Gateway, which it meets when `worker_task` is done.
-/

namespace Mkk.Gateway

open Lib
open Eye (StreamFrameContext)

/-! ## State -/

/-- The worker: not started, started, without its executor, with its executor shut down. -/
inductive WorkerState where
  | unstarted
  | started
  | closing
  | closed
deriving DecidableEq

/-- The future of the adapter call. -/
inductive AdapterFuture where
  | absent
  | queued
  | running
  | finished (result : Except TaskError ExpressionSample)
  | cancelled

namespace AdapterFuture

/-- The adapter reads the frame, or is going to. -/
def reads : AdapterFuture → Bool
  | .queued | .running => true
  | _ => false

def isFinished : AdapterFuture → Bool
  | .finished _ => true
  | _ => false

end AdapterFuture

/-- Where the thread that runs `process` is. -/
inductive CallStage where
  | idle
  | submitting
  | waiting
  | returned (result : Except TaskError Observation)
deriving DecidableEq

/-- The call of one frame. -/
structure FaceCall where
  stage : CallStage := .idle
  future : AdapterFuture := .absent
  /-- The callback of the future that closes the frame has still to run. -/
  closing : Bool := false
  /-- How often the callback closed the frame. -/
  closed : ℕ := 0

/-! ## The call -/

/-- `invalid_sample`. -/
def invalidSample (context : StreamFrameContext) (reason : String) : ExpressionSample where
  context
  reason := some reason

namespace FaceCall

variable (c : FaceCall) (context : StreamFrameContext)

/-- `process` returns an observation. -/
def observe (sample : ExpressionSample) (deferred : Bool) : FaceCall :=
  { c with
    stage := .returned (.ok {
      sample := some sample
      frameCleanupDeferred := deferred
      adapterCompletion := deferred }) }

/-- `process` raises. -/
def raise : FaceCall := { c with stage := .returned (.error .other) }

/-- `process` up to `submit`. -/
def enter (worker : WorkerState) : FaceCall :=
  match worker with
  | .started => { c with stage := .submitting }
  | _ => c.observe (invalidSample context "model_unavailable") false

/-- `process` when the wait ended with `FutureTimeout`: a call that can be cancelled is, and another one
closes the frame when it is done, at once when it is done already. -/
def timedOut : FaceCall :=
  match c.future with
  | .queued | .cancelled =>
    { c with future := .cancelled }.observe (invalidSample context "timeout") false
  | .finished _ => { c with closed := c.closed + 1 }.observe (invalidSample context "timeout") true
  | _ => { c with closing := true }.observe (invalidSample context "timeout") true

/-- `process` when the future is done. -/
def resulted : Option FaceCall :=
  match c.future with
  | .finished (.ok sample) => some (c.observe sample false)
  | .finished (.error .timeout) => some (c.timedOut context)
  | .finished (.error .other) | .cancelled =>
    some (c.observe (invalidSample context "model_unavailable") false)
  | _ => none

end FaceCall

/-! ## Steps -/

/-- A step of the thread that runs `process`, or of the executor. -/
inductive CallStep where
  | refused
  | enter
  | submit
  | submitRaises
  | timesOut
  | results
  | adapterStarts
  | adapterEnds (result : Except TaskError ExpressionSample)
  | runCallback
deriving DecidableEq

/-- One step of a call; `none` when it is not at that point. A thread may be refused, and `submit` raises
when the executor is gone. -/
def callStep (context : StreamFrameContext) (worker : WorkerState) (c : FaceCall) :
    CallStep → Option FaceCall
  | .refused => if c.stage = .idle then some c.raise else none
  | .enter => if c.stage = .idle then some (c.enter context worker) else none
  | .submit =>
    if c.stage = .submitting ∧ (worker = .started ∨ worker = .closing) then
      some { c with stage := .waiting, future := .queued }
    else none
  | .submitRaises =>
    if c.stage = .submitting ∧ worker ≠ .started then some c.raise else none
  | .timesOut => if c.stage = .waiting then some (c.timedOut context) else none
  | .results => if c.stage = .waiting then c.resulted context else none
  | .adapterStarts =>
    match c.future with
    | .queued => some { c with future := .running }
    | _ => none
  | .adapterEnds result =>
    match c.future with
    | .running => some { c with future := .finished result }
    | _ => none
  | .runCallback =>
    if c.closing ∧ c.future.isFinished then some { c with closing := false, closed := c.closed + 1 }
    else none

/-- A frame in processing with its call and the worker. -/
structure FaceFrame where
  frame : FrameProcess
  call : FaceCall := {}
  worker : WorkerState

/-- A step of the coroutine with its tasks, of the call, or of `FaceWorker.close`. -/
inductive FaceStep where
  | gateway (inferenceStarted : Bool) (step : ProcessStep)
  | call (step : CallStep)
  | close
  | shutdown

namespace FaceFrame

variable (s : FaceFrame)

/-- `worker_task` ends with what `process` returned, and `adapter_completion` when the future is done. -/
def joins : ProcessStep → Bool
  | .workerDone result => s.call.stage = .returned result
  | .adapterDone => !s.call.future.reads
  | _ => true

/-- `shutdown` cancels a call that has not begun. -/
def shutdown : FaceFrame :=
  let call := match s.call.future with
    | .queued => { s.call with future := .cancelled }
    | _ => s.call
  { s with worker := .closed, call }

/-- How often the frame was closed. -/
def closes : ℕ := s.frame.closed + s.call.closed

end FaceFrame

/-- One step; `none` when what it names is not at that point. The thread runs while `worker_task` does. -/
def faceStep (s : FaceFrame) : FaceStep → Option FaceFrame
  | .gateway inferenceStarted step =>
    if s.joins step then
      (processStep inferenceStarted s.frame step).map fun frame => { s with frame }
    else none
  | .call step =>
    if s.call.stage = .idle ∧ s.frame.workerTask.isRunning = false then none
    else (callStep s.frame.context s.worker s.call step).map fun call => { s with call }
  | .close => if s.worker = .started then some { s with worker := .closing } else none
  | .shutdown => if s.worker = .closing then some s.shutdown else none

/-- A frame that was just accepted. -/
def FaceFrame.start (context : StreamFrameContext) (marked calibrating : Bool) (path : ProcessPath)
    (worker : WorkerState) : FaceFrame where
  frame := { context, marked, calibrating, path }
  worker

end Mkk.Gateway
