import Mkk.Gateway.FaceWorker
import Mkk.Gateway.Handler

/-!
# Every decoded frame is closed once

`Holder` says who has to close the frame of `_process_frame`: its `finally` clause, the callback of
`decode_task` or that of `worker_task`. `CallInv` says it of the callback with which the Face worker
keeps the frame of a call it could not cancel. `released` puts both together.
-/

namespace Mkk.Gateway

open Lib Lib.Lts
open Eye (StreamFrameContext)

/-! ## The Gateway's side -/

/-- The Face worker keeps the frame and closes it itself. -/
def keepsFrame : Except TaskError Observation → Bool
  | .ok observation => observation.frameCleanupDeferred
  | .error _ => false

/-- What is known of the frame where neither callback waits. -/
structure Unheld (p : FrameProcess) : Prop where
  decode : .decode ∉ p.pending
  worker : .worker ∉ p.pending

/-- Who has to close the frame. -/
inductive Holder (p : FrameProcess) : Prop where
  | before (stage : p.stage = .start) (decode : p.decodeTask = .absent) (worker : p.workerTask = .absent)
      (unheld : Unheld p) (frame : p.frame = false) (deferred : p.frameCleanupDeferred = false)
      (closed : p.closed = 0)
  | decoding (stage : p.stage = .decode) (decode : p.decodeTask ≠ .absent)
      (worker : p.workerTask = .absent) (unheld : Unheld p) (frame : p.frame = false)
      (deferred : p.frameCleanupDeferred = false) (closed : p.closed = 0)
  | without (stage : p.stage = .eye ∨ p.ended = true)
      (decode : p.decodeTask = .absent ∨ ∃ error, p.decodeTask = .done (.error error))
      (worker : p.workerTask = .absent) (unheld : Unheld p) (frame : p.frame = false)
      (closed : p.closed = 0)
  | late (stage : p.ended = true) (decode : p.decodeTask ≠ .absent) (worker : p.workerTask = .absent)
      (pending : .decode ∈ p.pending) (other : .worker ∉ p.pending) (frame : p.frame = false)
      (closed : p.closed = 0)
  | disposed (stage : p.ended = true) (decode : p.decodeTask = .done (.ok ()))
      (worker : p.workerTask = .absent) (unheld : Unheld p) (frame : p.frame = false)
      (closed : p.closed = 1)
  | working (stage : p.stage = .worker) (decode : p.decodeTask = .done (.ok ()))
      (worker : p.workerTask ≠ .absent) (unheld : Unheld p) (frame : p.frame = true)
      (deferred : p.frameCleanupDeferred = false) (closed : p.closed = 0)
  | observed (observation : Observation) (stage : p.stage = .eye)
      (decode : p.decodeTask = .done (.ok ())) (worker : p.workerTask = .done (.ok observation))
      (unheld : Unheld p) (frame : p.frame = true)
      (deferred : p.frameCleanupDeferred = observation.frameCleanupDeferred) (closed : p.closed = 0)
  | left (stage : p.ended = true) (decode : p.decodeTask = .done (.ok ()))
      (worker : p.workerTask ≠ .absent) (pending : .worker ∈ p.pending) (other : .decode ∉ p.pending)
      (frame : p.frame = false) (closed : p.closed = 0)
  | done (result : Except TaskError Observation) (stage : p.ended = true)
      (decode : p.decodeTask = .done (.ok ())) (worker : p.workerTask = .done result)
      (unheld : Unheld p) (frame : p.frame = false)
      (closed : p.closed = if keepsFrame result then 0 else 1)

/-- What `Holder` reads is the same. -/
structure SameHold (p q : FrameProcess) : Prop where
  stage : q.stage = p.stage
  decodeTask : q.decodeTask = p.decodeTask
  workerTask : q.workerTask = p.workerTask
  decode : .decode ∈ q.pending ↔ .decode ∈ p.pending
  worker : .worker ∈ q.pending ↔ .worker ∈ p.pending
  frame : q.frame = p.frame
  deferred : q.frameCleanupDeferred = p.frameCleanupDeferred
  closed : q.closed = p.closed

section
variable {p q r : FrameProcess} {task : TaskName} {outcome : Option FrameOutcome}

theorem SameHold.refl (p : FrameProcess) : SameHold p p := ⟨rfl, rfl, rfl, .rfl, .rfl, rfl, rfl, rfl⟩

theorem SameHold.trans (h : SameHold p q) (h' : SameHold q r) : SameHold p r :=
  ⟨h'.1.trans h.1, h'.2.trans h.2, h'.3.trans h.3, h'.4.trans h.4, h'.5.trans h.5, h'.6.trans h.6,
    h'.7.trans h.7, h'.8.trans h.8⟩

theorem SameHold.unheld (h : SameHold p q) (unheld : Unheld p) : Unheld q :=
  ⟨fun member => unheld.decode (h.decode.1 member), fun member => unheld.worker (h.worker.1 member)⟩

theorem SameHold.ended (h : SameHold p q) (ended : p.ended = true) : q.ended = true := by
  unfold FrameProcess.ended at ended ⊢
  rwa [h.stage]

/-- Only `pending_tasks` grows. -/
theorem addPending_fields (p : FrameProcess) (task : TaskName) :
    SameHold p { p.addPending task with pending := p.pending } := by
  unfold FrameProcess.addPending
  split
  · exact .refl p
  · exact ⟨rfl, rfl, rfl, .rfl, .rfl, rfl, rfl, rfl⟩

/-- A task that holds no frame is added. -/
theorem SameHold.addPending (decode : task ≠ .decode) (worker : task ≠ .worker) :
    SameHold p (p.addPending task) := by
  have added := addPending_fields p task
  have member (other : TaskName) (ne : task ≠ other) :
      other ∈ (p.addPending task).pending ↔ other ∈ p.pending := by
    rw [mem_addPending, or_iff_right ne.symm]
  exact ⟨added.stage, added.decodeTask, added.workerTask, member _ decode, member _ worker, added.frame,
    added.deferred, added.closed⟩

theorem SameHold.deferEyeCleanup : SameHold p p.deferEyeCleanup := by
  unfold FrameProcess.deferEyeCleanup
  split
  · exact .addPending nofun nofun
  · exact .refl p

theorem Holder.of_same (holder : Holder p) (h : SameHold p q) : Holder q := by
  have stages (stage : p.stage = .eye ∨ p.ended = true) : q.stage = .eye ∨ q.ended = true :=
    stage.imp h.stage.trans h.ended
  cases holder with
  | before stage decode worker unheld frame deferred closed =>
    exact .before (h.stage.trans stage) (h.decodeTask.trans decode) (h.workerTask.trans worker)
      (h.unheld unheld) (h.frame.trans frame) (h.deferred.trans deferred) (h.closed.trans closed)
  | decoding stage decode worker unheld frame deferred closed =>
    exact .decoding (h.stage.trans stage) (h.decodeTask ▸ decode) (h.workerTask.trans worker)
      (h.unheld unheld) (h.frame.trans frame) (h.deferred.trans deferred) (h.closed.trans closed)
  | without stage decode worker unheld frame closed =>
    exact .without (stages stage) (h.decodeTask ▸ decode) (h.workerTask.trans worker)
      (h.unheld unheld) (h.frame.trans frame) (h.closed.trans closed)
  | late stage decode worker pending other frame closed =>
    exact .late (h.ended stage) (h.decodeTask ▸ decode) (h.workerTask.trans worker)
      (h.decode.2 pending) (mt h.worker.1 other) (h.frame.trans frame) (h.closed.trans closed)
  | disposed stage decode worker unheld frame closed =>
    exact .disposed (h.ended stage) (h.decodeTask.trans decode) (h.workerTask.trans worker)
      (h.unheld unheld) (h.frame.trans frame) (h.closed.trans closed)
  | working stage decode worker unheld frame deferred closed =>
    exact .working (h.stage.trans stage) (h.decodeTask.trans decode) (h.workerTask ▸ worker)
      (h.unheld unheld) (h.frame.trans frame) (h.deferred.trans deferred) (h.closed.trans closed)
  | observed observation stage decode worker unheld frame deferred closed =>
    exact .observed observation (h.stage.trans stage) (h.decodeTask.trans decode)
      (h.workerTask.trans worker) (h.unheld unheld) (h.frame.trans frame) (h.deferred.trans deferred)
      (h.closed.trans closed)
  | left stage decode worker pending other frame closed =>
    exact .left (h.ended stage) (h.decodeTask.trans decode) (h.workerTask ▸ worker)
      (h.worker.2 pending) (mt h.decode.1 other) (h.frame.trans frame) (h.closed.trans closed)
  | done result stage decode worker unheld frame closed =>
    exact .done result (h.ended stage) (h.decodeTask.trans decode) (h.workerTask.trans worker)
      (h.unheld unheld) (h.frame.trans frame) (h.closed.trans closed)

/-! ### The coroutine -/

theorem closed_finish_of_no_frame (frame : p.frame = false) (outcome : Option FrameOutcome) :
    (p.finish outcome).closed = p.closed := by
  unfold FrameProcess.finish
  rw [frame]
  rfl

/-- A coroutine without a frame ends. -/
theorem Holder.finish_without
    (decode : p.decodeTask = .absent ∨ ∃ error, p.decodeTask = .done (.error error))
    (worker : p.workerTask = .absent) (unheld : Unheld p) (frame : p.frame = false)
    (closed : p.closed = 0) : Holder (p.finish outcome) :=
  .without (.inr rfl) decode worker ⟨unheld.decode, unheld.worker⟩ rfl
    ((closed_finish_of_no_frame frame outcome).trans closed)

/-- A coroutine with the frame ends after the Face worker. -/
theorem Holder.finish_done {result : Except TaskError Observation}
    (decode : p.decodeTask = .done (.ok ())) (worker : p.workerTask = .done result)
    (unheld : Unheld p) (frame : p.frame = true) (deferred : p.frameCleanupDeferred = keepsFrame result)
    (closed : p.closed = 0) : Holder (p.finish outcome) := by
  refine .done result rfl decode worker ⟨unheld.decode, unheld.worker⟩ rfl ?_
  unfold FrameProcess.finish
  dsimp only
  rw [frame, deferred, closed]
  cases keepsFrame result <;> rfl

theorem Holder.begin (inferenceStarted : Bool) (holder : Holder p) (start : p.stage = .start) :
    Holder (p.begin inferenceStarted) := by
  cases holder with
  | before stage decode worker unheld frame deferred closed =>
    have dropped (outcome : Option FrameOutcome) : Holder (p.finish outcome) :=
      .finish_without (.inl decode) worker unheld frame closed
    have eye : Holder { p with eyeTask := .running, stage := .eye } :=
      .without (.inl rfl) (.inl decode) worker ⟨unheld.decode, unheld.worker⟩ frame closed
    unfold FrameProcess.begin
    split
    · exact eye
    · split
      · exact dropped _
      · exact .decoding rfl nofun worker ⟨unheld.decode, unheld.worker⟩ frame deferred closed
    · split
      · exact dropped _
      · exact eye
  | decoding stage | working stage | observed observation stage =>
    rw [start] at stage
    cases stage
  | without stage =>
    unfold FrameProcess.ended at stage
    rw [start] at stage
    exact (stage.elim nofun nofun : False).elim
  | late stage | disposed stage | left stage | done result stage =>
    unfold FrameProcess.ended at stage
    rw [start] at stage
    cases stage

theorem Holder.decodeResumed {timedOut : Bool} {result : Except TaskError Unit} (holder : Holder p)
    (waits : p.stage = .decode) (awaited : FrameProcess.awaited timedOut p.decodeTask = some result) :
    Holder (p.decodeResumed result) := by
  cases holder with
  | decoding stage decode worker unheld frame deferred closed =>
    unfold FrameProcess.decodeResumed
    split
    · have added := addPending_fields p .decode
      refine .late rfl ?_ (added.workerTask.trans worker) (mem_addPending.2 (.inl rfl)) ?_ rfl ?_
      · exact ne_of_eq_of_ne added.decodeTask decode
      · intro member
        rcases mem_addPending.1 member with same | member
        · cases same
        · exact unheld.worker member
      · exact (closed_finish_of_no_frame (added.frame.trans frame)
          (some (.drop .decodeTimeout true))).trans (added.closed.trans closed)
    · obtain ⟨-, timeout⟩ | ⟨-, failed⟩ := awaited_eq_some awaited
      · cases timeout
      · exact .finish_without (.inr ⟨_, failed⟩) worker unheld frame closed
    · obtain ⟨-, timeout⟩ | ⟨-, done⟩ := awaited_eq_some awaited
      · cases timeout
      · exact .working rfl done nofun ⟨unheld.decode, unheld.worker⟩ rfl deferred closed
  | before stage | working stage | observed observation stage =>
    rw [waits] at stage
    cases stage
  | without stage =>
    unfold FrameProcess.ended at stage
    rw [waits] at stage
    exact (stage.elim nofun nofun : False).elim
  | late stage | disposed stage | left stage | done _ stage =>
    unfold FrameProcess.ended at stage
    rw [waits] at stage
    cases stage

/-- After the Face worker returned, the frame is kept by it or closed at the end. -/
theorem Holder.afterObserved {observation : Observation}
    (decode : p.decodeTask = .done (.ok ())) (worker : p.workerTask = .done (.ok observation))
    (unheld : Unheld p) (frame : p.frame = true) (closed : p.closed = 0) :
    Holder (p.observed observation) := by
  unfold FrameProcess.observed
  extract_lets held r
  have tracked : SameHold held r := by
    unfold r
    split
    · exact .addPending (by decide) (by decide)
    · exact .refl held
  have ends {q : FrameProcess} (same : SameHold r q) (outcome : Option FrameOutcome) :
      Holder (q.finish outcome) := by
    have all := tracked.trans same
    exact .finish_done (all.decodeTask.trans decode) (all.workerTask.trans worker)
      (all.unheld ⟨unheld.decode, unheld.worker⟩) (all.frame.trans frame) all.deferred
      (all.closed.trans closed)
  split
  · exact ends (.refl r) none
  · split_ifs
    · exact ends (.refl r) _
    · exact ends .deferEyeCleanup _
    · have kept : Unheld r := tracked.unheld ⟨unheld.decode, unheld.worker⟩
      exact .observed observation rfl (tracked.decodeTask.trans decode)
        (tracked.workerTask.trans worker) ⟨kept.decode, kept.worker⟩ (tracked.frame.trans frame)
        tracked.deferred (tracked.closed.trans closed)

theorem Holder.workerResumed {timedOut : Bool} {result : Except TaskError Observation}
    (holder : Holder p) (waits : p.stage = .worker)
    (awaited : FrameProcess.awaited timedOut p.workerTask = some result) :
    Holder (p.workerResumed result) := by
  cases holder with
  | working stage decode worker unheld frame deferred closed =>
    have eye : SameHold p p.deferEyeCleanup := .deferEyeCleanup
    unfold FrameProcess.workerResumed
    split
    · -- the callback of the task has to close the frame
      have added := addPending_fields p.deferEyeCleanup .worker
      refine .left rfl ((added.decodeTask.trans eye.decodeTask).trans decode) ?_
        (mem_addPending.2 (.inl rfl)) ?_ rfl ?_
      · exact ne_of_eq_of_ne (added.workerTask.trans eye.workerTask) worker
      · intro member
        rcases mem_addPending.1 member with same | member
        · cases same
        · exact unheld.decode (eye.decode.1 member)
      · unfold FrameProcess.drop FrameProcess.finish
        dsimp only
        rw [Bool.not_true, Bool.and_false]
        exact added.closed.trans (eye.closed.trans closed)
    · obtain ⟨-, timeout⟩ | ⟨-, failed⟩ := awaited_eq_some awaited
      · cases timeout
      · exact .finish_done (eye.decodeTask.trans decode) (eye.workerTask.trans failed)
          (eye.unheld unheld) (eye.frame.trans frame) (eye.deferred.trans deferred)
          (eye.closed.trans closed)
    · obtain ⟨-, timeout⟩ | ⟨-, done⟩ := awaited_eq_some awaited
      · cases timeout
      · exact .afterObserved decode done unheld frame closed
  | before stage | decoding stage | observed observation stage =>
    rw [waits] at stage
    cases stage
  | without stage =>
    unfold FrameProcess.ended at stage
    rw [waits] at stage
    exact (stage.elim nofun nofun : False).elim
  | late stage | disposed stage | left stage | done result stage =>
    unfold FrameProcess.ended at stage
    rw [waits] at stage
    cases stage

/-- The coroutine goes on after Eye, with a frame or without one. -/
theorem Holder.eyeResumed {reply : Except TaskError (Option EyeInferenceResult)} (holder : Holder p)
    (waits : p.stage = .eye) : Holder (p.eyeResumed reply) := by
  -- whatever it makes of the answer, the coroutine ends
  have ends (all : ∀ r, SameHold p r → ∀ outcome, Holder (r.finish outcome)) :
      Holder (p.eyeResumed reply) := by
    have gaze {r : FrameProcess} (same : SameHold p r) (result : Except String GazePayload)
        (reason : Option String) : Holder (r.gazeResult result reason) := by
      unfold FrameProcess.gazeResult
      split
      · exact all r same _
      · exact all r same _
    unfold FrameProcess.eyeResumed
    extract_lets r
    have held : SameHold p r := by
      unfold r
      split
      · exact .addPending (by decide) (by decide)
      · exact .refl p
    split
    · unfold FrameProcess.calibrationResumed
      split
      · exact all (p.addPending .eye) (.addPending (by decide) (by decide)) _
      · exact all p (.refl p) _
      · exact all p (.refl p) _
      · exact all p (.refl p) _
    · exact gaze held _ _
    · exact gaze held _ _
  cases holder with
  | without stage decode worker unheld frame closed =>
    exact ends fun r same outcome => .finish_without (same.decodeTask ▸ decode)
      (same.workerTask.trans worker) (same.unheld unheld) (same.frame.trans frame)
      (same.closed.trans closed)
  | observed observation stage decode worker unheld frame deferred closed =>
    exact ends fun r same outcome => .finish_done (same.decodeTask.trans decode)
      (same.workerTask.trans worker) (same.unheld unheld) (same.frame.trans frame)
      (same.deferred.trans deferred) (same.closed.trans closed)
  | before stage | decoding stage | working stage =>
    rw [waits] at stage
    cases stage
  | late stage | disposed stage | left stage | done result stage =>
    unfold FrameProcess.ended at stage
    rw [waits] at stage
    cases stage

theorem Holder.resume {timedOut : Bool} (holder : Holder p) (h : p.resume timedOut = some q) :
    Holder q := by
  unfold FrameProcess.resume at h
  split at h
  · rename_i waits
    obtain ⟨result, awaited, rfl⟩ := Option.map_eq_some_iff.1 h
    exact holder.decodeResumed waits awaited
  · rename_i waits
    obtain ⟨result, awaited, rfl⟩ := Option.map_eq_some_iff.1 h
    exact holder.workerResumed waits awaited
  · rename_i waits
    obtain ⟨reply, -, rfl⟩ := Option.map_eq_some_iff.1 h
    exact holder.eyeResumed waits
  · cases h

/-! ### Tasks and their callbacks -/

theorem Holder.decodeDone {result : Except TaskError Unit} (holder : Holder p)
    (running : p.decodeTask.isRunning = true) : Holder { p with decodeTask := .done result } := by
  cases holder with
  | decoding stage decode worker unheld frame deferred closed =>
    exact .decoding stage nofun worker ⟨unheld.decode, unheld.worker⟩ frame deferred closed
  | late stage decode worker pending other frame closed =>
    exact .late stage nofun worker pending other frame closed
  | before _ decode | disposed _ decode | working _ decode | observed _ _ decode | left _ decode
  | done _ _ decode =>
    rw [decode] at running
    cases running
  | without _ decode =>
    rcases decode with decode | ⟨error, decode⟩
    · rw [decode] at running
      cases running
    · rw [decode] at running
      cases running

theorem Holder.workerDone {result : Except TaskError Observation} {adapter : TaskState Unit}
    (holder : Holder p) (running : p.workerTask.isRunning = true) :
    Holder { p with workerTask := .done result, adapter } := by
  cases holder with
  | working stage decode worker unheld frame deferred closed =>
    exact .working stage decode nofun ⟨unheld.decode, unheld.worker⟩ frame deferred closed
  | left stage decode worker pending other frame closed =>
    exact .left stage decode nofun pending other frame closed
  | before _ _ worker | decoding _ _ worker | without _ _ worker | late _ _ worker | disposed _ _ worker
  | observed _ _ _ worker | done _ _ _ worker =>
    rw [worker] at running
    cases running

/-- The callback of `decode_task` closes the frame that came too late. -/
theorem Holder.decodeCallback (holder : Holder p) (member : .decode ∈ p.pending)
    {result : Except TaskError Unit} (finished : p.decodeTask = .done result) :
    Holder { p.discardPending .decode with
      closed := if result = .ok () then p.closed + 1 else p.closed } := by
  cases holder with
  | late stage decode worker pending other frame closed =>
    have unheld : Unheld (p.discardPending .decode) :=
      ⟨fun still => (mem_discardPending.1 still).2 rfl, fun still => other (mem_discardPending.1 still).1⟩
    cases result with
    | ok _ =>
      refine .disposed stage finished worker ⟨unheld.decode, unheld.worker⟩ frame ?_
      dsimp only
      rw [closed]
      rfl
    | error error =>
      exact .without (.inr stage) (.inr ⟨error, finished⟩) worker ⟨unheld.decode, unheld.worker⟩ frame closed
  | before _ _ _ unheld | decoding _ _ _ unheld | without _ _ _ unheld | disposed _ _ _ unheld
  | working _ _ _ unheld | observed _ _ _ _ unheld | done _ _ _ _ unheld =>
    exact absurd member unheld.decode
  | left _ _ _ _ other => exact absurd member other

/-- The callback of `worker_task` closes the frame, unless the Face worker keeps it. -/
theorem Holder.workerCallback (holder : Holder p) (member : .worker ∈ p.pending)
    {result : Except TaskError Observation} (finished : p.workerTask = .done result) :
    Holder ((p.discardPending .worker).finishWorkerFrame result) := by
  cases holder with
  | left stage decode worker pending other frame closed =>
    let rest : FrameProcess := p.discardPending .worker
    have unheld : Unheld rest :=
      ⟨fun still => other (mem_discardPending.1 still).1, fun still => (mem_discardPending.1 still).2 rfl⟩
    have ends {r : FrameProcess} (same : SameHold rest r) (times : ℕ)
        (count : times = if keepsFrame result then 0 else 1) : Holder { r with closed := times } :=
      have kept := same.unheld unheld
      .done result (same.ended stage) (same.decodeTask.trans decode) (same.workerTask.trans finished)
        ⟨kept.decode, kept.worker⟩ (same.frame.trans frame) count
    unfold FrameProcess.finishWorkerFrame
    split
    · rename_i observation
      have tracked : SameHold rest
          (if observation.adapterCompletion then rest.addPending .adapter else rest) := by
        split
        · exact .addPending nofun nofun
        · exact .refl rest
      change Holder (if observation.frameCleanupDeferred then
          (if observation.adapterCompletion then rest.addPending .adapter else rest)
        else { (if observation.adapterCompletion then rest.addPending .adapter else rest) with closed := _ })
      generalize (if observation.adapterCompletion then rest.addPending .adapter else rest) = held at tracked
      have before : held.closed = 0 := tracked.closed.trans closed
      split
      · rename_i deferred
        refine ends tracked held.closed ?_
        rw [before, keepsFrame, deferred]
        rfl
      · rename_i deferred
        refine ends tracked _ ?_
        rw [before, keepsFrame, if_neg deferred]
    · refine ends (.refl rest) _ ?_
      change p.closed + 1 = 1
      rw [closed]
  | before _ _ _ unheld | decoding _ _ _ unheld | without _ _ _ unheld | disposed _ _ _ unheld
  | working _ _ _ unheld | observed _ _ _ _ unheld | done _ _ _ _ unheld =>
    exact absurd member unheld.worker
  | late _ _ _ _ other => exact absurd member other

/-- A task that holds no frame is discarded. -/
theorem SameHold.discardPending (decode : task ≠ .decode) (worker : task ≠ .worker) :
    SameHold p (p.discardPending task) := by
  have member (other : TaskName) (ne : task ≠ other) :
      other ∈ (p.discardPending task).pending ↔ other ∈ p.pending := by
    rw [mem_discardPending, and_iff_left ne.symm]
  exact ⟨rfl, rfl, rfl, member _ decode, member _ worker, rfl, rfl, rfl⟩

theorem Holder.callback (holder : Holder p) (h : p.callback task = some q) : Holder q := by
  unfold FrameProcess.callback at h
  split at h
  · cases h
  rename_i member
  rw [not_not] at member
  dsimp only at h
  split at h
  · split at h
    · rename_i finished
      cases h
      exact holder.decodeCallback member finished
    · rename_i finished
      cases h
      exact holder.decodeCallback member finished
    · cases h
  · split at h
    · rename_i finished
      cases h
      exact holder.workerCallback member finished
    · cases h
  · split_ifs at h
    cases h
    exact holder.of_same (.discardPending nofun nofun)
  · split_ifs at h
    cases h
    exact holder.of_same (.discardPending nofun nofun)

/-- A step of the Gateway hands the frame on or closes it. -/
theorem Holder.step {inferenceStarted : Bool} {step : ProcessStep} (holder : Holder p)
    (h : processStep inferenceStarted p step = some q) : Holder q := by
  cases step with
  | begin =>
    dsimp only [processStep] at h
    split at h
    · rename_i start
      cases h
      exact holder.begin _ start
    · cases h
  | decodeDone result =>
    dsimp only [processStep] at h
    split_ifs at h with running
    cases h
    exact holder.decodeDone running
  | workerDone result =>
    dsimp only [processStep] at h
    split_ifs at h with running
    cases h
    exact holder.workerDone running
  | resume timedOut => exact holder.resume h
  | callback task => exact holder.callback h
  | _ =>
    dsimp only [processStep] at h
    split_ifs at h
    cases h
    refine holder.of_same ?_
    exact ⟨rfl, rfl, rfl, .rfl, .rfl, rfl, rfl, rfl⟩

end

/-! ### `worker_task` -/

section
variable {p q : FrameProcess} {task : TaskName}

theorem gazeResult_workerTask (gaze : Except String GazePayload) (reason : Option String) :
    (p.gazeResult gaze reason).workerTask = p.workerTask := by
  unfold FrameProcess.gazeResult
  split <;> rfl

theorem observed_workerTask (observation : Observation) :
    (p.observed observation).workerTask = p.workerTask := by
  unfold FrameProcess.observed
  extract_lets held r
  have tracked : SameHold held r := by
    unfold r
    split
    · exact .addPending (by decide) (by decide)
    · exact .refl held
  split
  · exact tracked.workerTask
  · split_ifs
    · exact tracked.workerTask
    · exact SameHold.deferEyeCleanup.workerTask.trans tracked.workerTask
    · exact tracked.workerTask

theorem resume_workerTask {timedOut : Bool} (h : p.resume timedOut = some q) :
    q.workerTask = p.workerTask ∨ q.workerTask = .running := by
  unfold FrameProcess.resume at h
  split at h
  · obtain ⟨result, -, rfl⟩ := Option.map_eq_some_iff.1 h
    unfold FrameProcess.decodeResumed
    split
    · exact .inl (addPending_fields p .decode).workerTask
    · exact .inl rfl
    · exact .inr rfl
  · obtain ⟨result, -, rfl⟩ := Option.map_eq_some_iff.1 h
    have eye : p.deferEyeCleanup.workerTask = p.workerTask := SameHold.deferEyeCleanup.workerTask
    left
    unfold FrameProcess.workerResumed
    split
    · exact (addPending_fields p.deferEyeCleanup .worker).workerTask.trans eye
    · exact eye
    · exact observed_workerTask _
  · obtain ⟨reply, -, rfl⟩ := Option.map_eq_some_iff.1 h
    have pending : (p.addPending .eye).workerTask = p.workerTask := (addPending_fields p .eye).workerTask
    left
    unfold FrameProcess.eyeResumed
    extract_lets r
    have held : r.workerTask = p.workerTask := by
      unfold r
      split
      · exact pending
      · rfl
    split
    · unfold FrameProcess.calibrationResumed
      split
      · exact pending
      · rfl
      · rfl
      · rfl
    · exact (gazeResult_workerTask _ _).trans held
    · exact (gazeResult_workerTask _ _).trans held
  · cases h

theorem callback_workerTask (h : p.callback task = some q) : q.workerTask = p.workerTask := by
  unfold FrameProcess.callback at h
  split at h
  · cases h
  dsimp only at h
  split at h
  · split at h
    · cases h
      rfl
    · cases h
      rfl
    · cases h
  · split at h
    · cases h
      unfold FrameProcess.finishWorkerFrame
      split
      · rename_i observation _
        have tracked : (if observation.adapterCompletion then (p.discardPending .worker).addPending .adapter
            else p.discardPending .worker).workerTask = p.workerTask := by
          split
          · exact (addPending_fields (p.discardPending .worker) .adapter).workerTask
          · rfl
        dsimp only
        split
        · exact tracked
        · exact tracked
      · rfl
    · cases h
  · split_ifs at h
    cases h
    rfl
  · split_ifs at h
    cases h
    rfl

/-- `worker_task` begins, ends with a result, or stays as it is. -/
theorem processStep_workerTask {inferenceStarted : Bool} {step : ProcessStep}
    (h : processStep inferenceStarted p step = some q) : q.workerTask = p.workerTask ∨
      q.workerTask = .running ∨ ∃ result, step = .workerDone result ∧ q.workerTask = .done result := by
  cases step with
  | begin =>
    dsimp only [processStep] at h
    split at h
    · cases h
      left
      unfold FrameProcess.begin
      split
      · rfl
      · split <;> rfl
      · split <;> rfl
    · cases h
  | workerDone result =>
    dsimp only [processStep] at h
    split_ifs at h
    cases h
    exact .inr (.inr ⟨result, rfl, rfl⟩)
  | resume timedOut => exact (resume_workerTask h).imp_right .inl
  | callback task => exact .inl (callback_workerTask h)
  | _ =>
    dsimp only [processStep] at h
    split_ifs at h
    cases h
    exact .inl rfl

end

/-! ## The Face worker's side -/

/-- The call returned an observation with which the worker keeps the frame. -/
def FaceCall.keeps (c : FaceCall) : Bool :=
  match c.stage with
  | .returned result => keepsFrame result
  | _ => false

/-- The callback closes the frame once when the worker keeps it, and then the adapter is done with it;
when the worker does not keep it nothing reads it after the call. -/
structure CallInv (c : FaceCall) : Prop where
  begins : c.stage = .idle ∨ c.stage = .submitting → c.future = .absent
  waits : c.stage = .waiting → c.future ≠ .absent
  count : c.closed + c.closing.toNat = if c.keeps then 1 else 0
  closing : c.closing = true → c.future = .running ∨ c.future.isFinished = true
  closed : 0 < c.closed → c.future.isFinished = true
  free : ∀ result, c.stage = .returned result → keepsFrame result = false → c.future.reads = false

section
variable {c d : FaceCall} {context : StreamFrameContext} {worker : WorkerState}

theorem CallInv.start : CallInv {} where
  begins _ := rfl
  waits waits := nomatch waits
  count := rfl
  closing closing := nomatch closing
  closed closed := nomatch closed
  free _ returned := nomatch returned

/-- A call that has not returned has closed nothing. -/
theorem CallInv.unclosed (inv : CallInv c) (keeps : c.keeps = false) :
    c.closed = 0 ∧ c.closing = false := by
  have count := inv.count
  rw [keeps] at count
  have none : c.closed + c.closing.toNat = 0 := count
  refine ⟨by omega, ?_⟩
  cases closing : c.closing with
  | false => rfl
  | true =>
    rw [closing] at none
    change c.closed + 1 = 0 at none
    omega

/-- The call returns a result with which the worker does not keep the frame. -/
theorem CallInv.returns (inv : CallInv c) (keeps : c.keeps = false) {result : Except TaskError Observation}
    {future : AdapterFuture} (free : future.reads = false) (given : keepsFrame result = false) :
    CallInv { c with stage := .returned result, future } := by
  obtain ⟨unclosed, unclosing⟩ := inv.unclosed keeps
  refine ⟨fun h => (h.elim nofun nofun : False).elim, nofun, ?_, fun h => ?_, fun h => ?_, fun _ _ _ => free⟩
  · change c.closed + c.closing.toNat = if keepsFrame result then 1 else 0
    rw [unclosed, unclosing, given]
    rfl
  · exact absurd (unclosing.symm.trans h) nofun
  · exact absurd (unclosed ▸ h) (lt_irrefl 0)

/-- The wait ends with `FutureTimeout`. -/
theorem CallInv.timedOut (inv : CallInv c) (waits : c.stage = .waiting) : CallInv (c.timedOut context) := by
  have keeps : c.keeps = false := by
    unfold FaceCall.keeps
    rw [waits]
  obtain ⟨unclosed, unclosing⟩ := inv.unclosed keeps
  unfold FaceCall.timedOut
  split
  · exact inv.returns keeps rfl rfl
  · exact inv.returns keeps rfl rfl
  · rename_i result finished
    refine ⟨fun h => (h.elim nofun nofun : False).elim, nofun, ?_, fun h => ?_, fun _ => ?_, fun r given keeps => ?_⟩
    · change c.closed + 1 + c.closing.toNat = 1
      rw [unclosed, unclosing]
      rfl
    · exact absurd (unclosing.symm.trans h) nofun
    · change c.future.isFinished = true
      rw [finished]
      rfl
    · cases given
      cases keeps
  · rename_i queued cancelled unfinished
    have running : c.future = .running := by
      cases future : c.future with
      | absent => exact absurd future (inv.waits waits)
      | queued => exact absurd future queued
      | running => rfl
      | finished result => exact absurd future (unfinished result)
      | cancelled => exact absurd future cancelled
    refine ⟨fun h => (h.elim nofun nofun : False).elim, nofun, ?_, fun _ => .inl running, fun h => ?_, fun r given keeps => ?_⟩
    · change c.closed + 1 = 1
      rw [unclosed]
    · exact absurd (unclosed ▸ h) (lt_irrefl 0)
    · cases given
      cases keeps

/-- The executor goes on with the adapter call. -/
theorem CallInv.advance (inv : CallInv c) (reads : c.future.reads = true) {future : AdapterFuture}
    (begun : future ≠ .absent) (closing : future = .running ∨ future.isFinished = true ∨ c.closing = false) :
    CallInv { c with future } := by
  have fresh (h : c.stage = .idle ∨ c.stage = .submitting) : False := by
    rw [inv.begins h] at reads
    cases reads
  refine ⟨fun h => (fresh h).elim, fun _ => begun, inv.count, fun h => ?_, fun h => ?_, fun result returned given => ?_⟩
  · rcases closing with running | finished | none
    · exact .inl running
    · exact .inr finished
    · exact absurd (none.symm.trans h) nofun
  · have finished := inv.closed h
    cases future' : c.future with
    | finished result =>
      rw [future'] at reads
      cases reads
    | _ =>
      rw [future'] at finished
      cases finished
  · rw [inv.free result returned given] at reads
    cases reads

theorem CallInv.step {step : CallStep} (inv : CallInv c) (h : callStep context worker c step = some d) :
    CallInv d := by
  have unkept {stage : CallStage} (at' : c.stage = stage) (not : ∀ result, stage ≠ .returned result) :
      c.keeps = false := by
    unfold FaceCall.keeps
    rw [at']
    split
    · exact absurd rfl (not _)
    · rfl
  cases step with
  | refused =>
    dsimp only [callStep] at h
    split_ifs at h with idle
    cases h
    exact inv.returns (unkept idle nofun) (by rw [inv.begins (.inl idle)]; rfl) rfl
  | enter =>
    dsimp only [callStep] at h
    split_ifs at h with idle
    cases h
    unfold FaceCall.enter
    split
    · exact ⟨fun _ => inv.begins (.inl idle), nofun, inv.count.trans (by rw [unkept idle nofun]; rfl),
        inv.closing, inv.closed, nofun⟩
    · exact inv.returns (unkept idle nofun) (by rw [inv.begins (.inl idle)]; rfl) rfl
  | submit =>
    dsimp only [callStep] at h
    split_ifs at h with submits
    cases h
    obtain ⟨unclosed, unclosing⟩ := inv.unclosed (unkept submits.1 nofun)
    refine ⟨fun h => (h.elim nofun nofun : False).elim, nofun, ?_, fun h => ?_, fun h => ?_, nofun⟩
    · change c.closed + c.closing.toNat = 0
      rw [unclosed, unclosing]
      rfl
    · exact absurd (unclosing.symm.trans h) nofun
    · exact absurd (unclosed ▸ h) (lt_irrefl 0)
  | submitRaises =>
    dsimp only [callStep] at h
    split_ifs at h with submits
    cases h
    exact inv.returns (unkept submits.1 nofun) (by rw [inv.begins (.inr submits.1)]; rfl) rfl
  | timesOut =>
    dsimp only [callStep] at h
    split_ifs at h with waits
    cases h
    exact inv.timedOut waits
  | results =>
    dsimp only [callStep] at h
    split_ifs at h with waits
    have keeps := unkept waits nofun
    unfold FaceCall.resulted at h
    split at h
    · rename_i finished
      cases h
      exact inv.returns keeps (by rw [finished]; rfl) rfl
    · cases h
      exact inv.timedOut waits
    · rename_i finished
      cases h
      exact inv.returns keeps (by rw [finished]; rfl) rfl
    · rename_i cancelled
      cases h
      exact inv.returns keeps (by rw [cancelled]; rfl) rfl
    · cases h
  | adapterStarts =>
    dsimp only [callStep] at h
    split at h
    · rename_i queued
      cases h
      exact inv.advance (by rw [queued]; rfl) nofun (.inl rfl)
    · cases h
  | adapterEnds result =>
    dsimp only [callStep] at h
    split at h
    · rename_i running
      cases h
      exact inv.advance (by rw [running]; rfl) nofun (.inr (.inl rfl))
    · cases h
  | runCallback =>
    dsimp only [callStep] at h
    split_ifs at h with runs
    cases h
    refine ⟨inv.begins, inv.waits, ?_, nofun, fun _ => runs.2, inv.free⟩
    have count := inv.count
    rw [runs.1] at count
    exact count

/-- `shutdown` cancels only a call that has not begun. -/
theorem CallInv.cancelled (inv : CallInv c) (queued : c.future = .queued) :
    CallInv { c with future := .cancelled } := by
  refine inv.advance (by rw [queued]; rfl) nofun (.inr (.inr ?_))
  by_contra closing
  rcases inv.closing (by simpa using closing) with running | finished
  · rw [queued] at running
    cases running
  · rw [queued] at finished
    cases finished

/-- A call that has returned stays so. -/
theorem callStep_returned {step : CallStep} {result : Except TaskError Observation}
    (returned : c.stage = .returned result) (h : callStep context worker c step = some d) :
    d.stage = .returned result := by
  cases step with
  | adapterStarts =>
    dsimp only [callStep] at h
    split at h
    · cases h
      exact returned
    · cases h
  | adapterEnds result =>
    dsimp only [callStep] at h
    split at h
    · cases h
      exact returned
    · cases h
  | runCallback =>
    dsimp only [callStep] at h
    split_ifs at h
    cases h
    exact returned
  | submit | submitRaises =>
    dsimp only [callStep] at h
    split_ifs at h with submits
    rw [returned] at submits
    cases submits.1
  | _ =>
    dsimp only [callStep] at h
    split_ifs at h with waits
    rw [returned] at waits
    cases waits

end

/-! ## Both sides -/

/-- A frame with its call: the call begins and ends within `worker_task`. -/
structure ReleaseInv (s : FaceFrame) : Prop where
  holder : Holder s.frame
  call : CallInv s.call
  before : s.frame.workerTask = .absent → s.call.stage = .idle
  after : ∀ result, s.frame.workerTask = .done result → s.call.stage = .returned result

section
variable {s t : FaceFrame}

theorem ReleaseInv.start (context : StreamFrameContext) (marked calibrating : Bool) (path : ProcessPath)
    (worker : WorkerState) : ReleaseInv (.start context marked calibrating path worker) where
  holder := .before rfl rfl rfl ⟨nofun, nofun⟩ rfl rfl rfl
  call := .start
  before _ := rfl
  after _ done := nomatch done

theorem ReleaseInv.gateway {inferenceStarted : Bool} {step : ProcessStep} {q : FrameProcess}
    (inv : ReleaseInv s) (joins : s.joins step = true)
    (moved : processStep inferenceStarted s.frame step = some q) : ReleaseInv { s with frame := q } where
  holder := inv.holder.step moved
  call := inv.call
  before absent := by
    change q.workerTask = .absent at absent
    rcases processStep_workerTask moved with same | running | ⟨result, -, done⟩
    · exact inv.before (same ▸ absent)
    · rw [running] at absent
      cases absent
    · rw [done] at absent
      cases absent
  after result done := by
    change q.workerTask = .done result at done
    rcases processStep_workerTask moved with same | running | ⟨result', rfl, done'⟩
    · exact inv.after result (same ▸ done)
    · rw [running] at done
      cases done
    · rw [done'] at done
      cases done
      exact of_decide_eq_true joins

theorem ReleaseInv.step {step : FaceStep} (inv : ReleaseInv s) (h : faceStep s step = some t) :
    ReleaseInv t := by
  cases step with
  | gateway inferenceStarted step =>
    dsimp only [faceStep] at h
    split_ifs at h with joins
    obtain ⟨q, moved, rfl⟩ := Option.map_eq_some_iff.1 h
    exact inv.gateway joins moved
  | call step =>
    dsimp only [faceStep] at h
    split_ifs at h with idle
    obtain ⟨call, moved, rfl⟩ := Option.map_eq_some_iff.1 h
    refine ⟨inv.holder, inv.call.step moved, fun absent => ?_, fun result done => ?_⟩
    · exact absurd ⟨inv.before absent, by rw [absent]; rfl⟩ idle
    · exact callStep_returned (inv.after result done) moved
  | close =>
    dsimp only [faceStep] at h
    split_ifs at h
    cases h
    exact ⟨inv.holder, inv.call, inv.before, inv.after⟩
  | shutdown =>
    dsimp only [faceStep] at h
    split_ifs at h
    cases h
    unfold FaceFrame.shutdown
    cases future : s.call.future with
    | queued => exact ⟨inv.holder, inv.call.cancelled future, inv.before, inv.after⟩
    | _ => exact ⟨inv.holder, inv.call, inv.before, inv.after⟩

/-! ## Closed once -/

theorem CallInv.closed_le (inv : CallInv s.call) : s.call.closed ≤ if s.call.keeps then 1 else 0 := by
  have count := inv.count
  omega

/-- Before `worker_task` the call has no future and closes nothing. -/
theorem ReleaseInv.untouched (inv : ReleaseInv s) (absent : s.frame.workerTask = .absent) :
    s.call.closed = 0 ∧ s.call.future = .absent := by
  have idle := inv.before absent
  refine ⟨(inv.call.unclosed ?_).1, inv.call.begins (.inl idle)⟩
  unfold FaceCall.keeps
  rw [idle]

theorem ReleaseInv.keeps_of_done {result : Except TaskError Observation} (inv : ReleaseInv s)
    (done : s.frame.workerTask = .done result) : s.call.keeps = keepsFrame result := by
  unfold FaceCall.keeps
  rw [inv.after result done]

theorem ReleaseInv.closes_le (inv : ReleaseInv s) : s.closes ≤ 1 := by
  have callback : s.call.closed ≤ 1 := by
    refine inv.call.closed_le.trans ?_
    split
    · exact le_rfl
    · exact Nat.zero_le 1
  unfold FaceFrame.closes
  cases inv.holder with
  | before _ _ _ _ _ _ closed | decoding _ _ _ _ _ _ closed | without _ _ _ _ _ closed
  | late _ _ _ _ _ _ closed | working _ _ _ _ _ _ closed | observed _ _ _ _ _ _ _ closed
  | left _ _ _ _ _ _ closed =>
    rwa [closed, Nat.zero_add]
  | disposed _ _ worker _ _ closed =>
    rw [closed, (inv.untouched worker).1]
  | done result _ _ worker _ _ closed =>
    have kept := inv.call.closed_le
    rw [inv.keeps_of_done worker] at kept
    rw [closed]
    cases keeps : keepsFrame result with
    | true =>
      rw [keeps] at kept
      exact (Nat.zero_add _).trans_le kept
    | false =>
      rw [keeps] at kept
      exact Nat.add_le_add_left kept 1

/-- Once the frame is closed the adapter does not read it, and will not. -/
theorem ReleaseInv.unread (inv : ReleaseInv s) (closed : 0 < s.closes) : s.call.future.reads = false := by
  by_cases callback : 0 < s.call.closed
  · have finished := inv.call.closed callback
    cases future : s.call.future with
    | finished result => rfl
    | _ =>
      rw [future] at finished
      cases finished
  have gateway : 0 < s.frame.closed := by
    unfold FaceFrame.closes at closed
    omega
  cases inv.holder with
  | before _ _ _ _ _ _ closed | decoding _ _ _ _ _ _ closed | without _ _ _ _ _ closed
  | late _ _ _ _ _ _ closed | working _ _ _ _ _ _ closed | observed _ _ _ _ _ _ _ closed
  | left _ _ _ _ _ _ closed =>
    rw [closed] at gateway
    exact absurd gateway (lt_irrefl 0)
  | disposed _ _ worker =>
    rw [(inv.untouched worker).2]
    rfl
  | done result _ _ worker _ _ closed =>
    refine inv.call.free result (inv.after result worker) ?_
    by_contra keeps
    rw [closed, if_pos (by simpa using keeps)] at gateway
    exact lt_irrefl 0 gateway

/-- Nothing more can happen to the frame and its call. -/
structure FaceFrame.AtRest (s : FaceFrame) : Prop where
  gateway : ∀ inferenceStarted step, faceStep s (.gateway inferenceStarted step) = none
  call : ∀ step, faceStep s (.call step) = none

theorem FaceFrame.AtRest.process (rest : s.AtRest) (step : ProcessStep) (joins : s.joins step = true) :
    processStep false s.frame step = none := by
  have none := rest.gateway false step
  dsimp only [faceStep] at none
  rw [if_pos joins] at none
  exact Option.map_eq_none_iff.1 none

theorem FaceFrame.AtRest.callee (rest : s.AtRest) (step : CallStep)
    (runs : s.call.stage = .idle → s.frame.workerTask.isRunning = true) :
    callStep s.frame.context s.worker s.call step = none := by
  have none := rest.call step
  dsimp only [faceStep] at none
  rw [if_neg] at none
  · exact Option.map_eq_none_iff.1 none
  · rintro ⟨idle, stopped⟩
    rw [runs idle] at stopped
    cases stopped

/-- A thread whose `worker_task` runs can go on. -/
theorem FaceFrame.AtRest.not_running (rest : s.AtRest) : s.frame.workerTask.isRunning = false := by
  by_contra running
  have running : s.frame.workerTask.isRunning = true := by simpa using running
  have steps (step : CallStep) := rest.callee step fun _ => running
  cases stage : s.call.stage with
  | idle =>
    have none := steps .enter
    dsimp only [callStep] at none
    rw [if_pos stage] at none
    cases none
  | submitting =>
    by_cases started : s.worker = .started
    · have none := steps .submit
      dsimp only [callStep] at none
      rw [if_pos ⟨stage, .inl started⟩] at none
      cases none
    · have none := steps .submitRaises
      dsimp only [callStep] at none
      rw [if_pos ⟨stage, started⟩] at none
      cases none
  | waiting =>
    have none := steps .timesOut
    dsimp only [callStep] at none
    rw [if_pos stage] at none
    cases none
  | returned result =>
    have joins : s.joins (.workerDone result) = true := decide_eq_true stage
    have none := rest.process (.workerDone result) joins
    dsimp only [processStep] at none
    rw [if_pos running] at none
    cases none

/-- A coroutine that waits can go on. -/
theorem FaceFrame.AtRest.not_waiting (rest : s.AtRest) : s.frame.stage ≠ .decode ∧ s.frame.stage ≠ .worker ∧
    s.frame.stage ≠ .eye := by
  have none := rest.process (.resume true) rfl
  dsimp only [processStep, FrameProcess.resume] at none
  refine ⟨fun stage => ?_, fun stage => ?_, fun stage => ?_⟩
  all_goals
    rw [stage] at none
    cases none

/-- When nothing more can happen, a frame that the decoder returned is closed. -/
theorem ReleaseInv.closed_at_rest (inv : ReleaseInv s) (rest : s.AtRest)
    (decoded : s.frame.decodeTask = .done (.ok ())) : s.closes = 1 := by
  cases inv.holder with
  | before _ decode =>
    rw [decode] at decoded
    cases decoded
  | decoding stage => exact absurd stage rest.not_waiting.1
  | working stage => exact absurd stage rest.not_waiting.2.1
  | observed _ stage => exact absurd stage rest.not_waiting.2.2
  | without _ decode =>
    rcases decode with decode | ⟨error, decode⟩
    · rw [decode] at decoded
      cases decoded
    · rw [decode] at decoded
      cases decoded
  | late _ _ _ pending =>
    have none := rest.process (.callback .decode) rfl
    dsimp only [processStep, FrameProcess.callback] at none
    rw [if_neg (not_not.2 pending), decoded] at none
    cases none
  | disposed _ _ worker _ _ closed =>
    unfold FaceFrame.closes
    rw [closed, (inv.untouched worker).1]
  | left _ _ worker pending =>
    cases task : s.frame.workerTask with
    | absent => exact absurd task worker
    | running =>
      have stopped := rest.not_running
      rw [task] at stopped
      cases stopped
    | done result =>
      have none := rest.process (.callback .worker) rfl
      dsimp only [processStep, FrameProcess.callback] at none
      rw [if_neg (not_not.2 pending), task] at none
      cases none
  | done result _ _ worker _ _ closed =>
    have count := inv.call.count
    rw [inv.keeps_of_done worker] at count
    have run : s.call.closing = false := by
      by_contra closing
      have closing : s.call.closing = true := by simpa using closing
      have steps (step : CallStep) := rest.callee step fun idle => by
        rw [inv.after result worker] at idle
        cases idle
      rcases inv.call.closing closing with running | finished
      · have none := steps (.adapterEnds (.error .other))
        dsimp only [callStep] at none
        rw [running] at none
        cases none
      · have none := steps .runCallback
        dsimp only [callStep] at none
        rw [if_pos ⟨closing, finished⟩] at none
        cases none
    rw [run] at count
    unfold FaceFrame.closes
    rw [closed]
    cases keeps : keepsFrame result with
    | true =>
      rw [keeps] at count
      exact (Nat.zero_add _).trans count
    | false =>
      rw [keeps] at count
      exact congrArg (1 + ·) count

end

/-- **Every frame the decoder returns is closed once**, in every run of its processing with its call and
the worker: it is closed at most once, the adapter neither reads it then nor will, and when nothing more
can happen it has been closed. -/
theorem frame_released {context : StreamFrameContext} {marked calibrating : Bool} {path : ProcessPath}
    {worker : WorkerState} {ls : List FaceStep} {s : FaceFrame}
    (run : Steps faceStep Free (.start context marked calibrating path worker) ls s) :
    s.closes ≤ 1 ∧ (0 < s.closes → s.call.future.reads = false) ∧
    (s.AtRest → s.frame.decodeTask = .done (.ok ()) → s.closes = 1) := by
  have inv : ReleaseInv s := run.invariant (fun _ _ _ inv _ h => inv.step h) (.start _ _ _ _ _)
  exact ⟨inv.closes_le, inv.unread, inv.closed_at_rest⟩

/-- Every task of the frame and its call has ended, and every callback has run. -/
def FaceFrame.settled (s : FaceFrame) : Bool :=
  s.frame.ended && !s.frame.decodeTask.isRunning && !s.frame.workerTask.isRunning &&
    !s.frame.eyeTask.isRunning && !s.frame.adapter.isRunning && s.frame.pending.isEmpty &&
    (match s.call.stage with | .returned _ => true | _ => false) && !s.call.future.reads &&
    !s.call.closing

theorem FaceFrame.atRest_of_settled {s : FaceFrame} (settled : s.settled = true) : s.AtRest := by
  simp only [FaceFrame.settled, Bool.and_eq_true, Bool.not_eq_true', List.isEmpty_iff] at settled
  obtain ⟨⟨⟨⟨⟨⟨⟨⟨ended, decode⟩, worker⟩, eye⟩, adapter⟩, pending⟩, returned⟩, unread⟩, closing⟩ := settled
  constructor
  · intro inferenceStarted step
    have none : processStep inferenceStarted s.frame step = none := by
      unfold FrameProcess.ended at ended
      split at ended
      · rename_i outcome stage
        cases step with
        | begin => simp [processStep, stage]
        | resume timedOut => simp [processStep, FrameProcess.resume, stage]
        | callback task => simp [processStep, FrameProcess.callback, pending]
        | _ => simp [processStep, decode, worker, eye, adapter]
      · cases ended
    dsimp only [faceStep]
    rw [none, Option.map_none, ite_self]
  · intro step
    have none : callStep s.frame.context s.worker s.call step = none := by
      split at returned
      · rename_i result stage
        cases step with
        | adapterStarts | adapterEnds =>
          cases future : s.call.future <;> simp_all [callStep, AdapterFuture.reads]
        | _ => simp [callStep, stage, closing]
      · cases returned
    dsimp only [faceStep]
    rw [none, Option.map_none, ite_self]

/-- The Face worker gives up on an adapter call that runs, and the adapter ends later. -/
def slowAdapter : List FaceStep :=
  let late : Observation := {
    sample := some (invalidSample (contextOf 1) "timeout")
    frameCleanupDeferred := true
    adapterCompletion := true }
  [.gateway true .begin, .gateway true (.decodeDone (.ok ())), .gateway true (.resume false), .call .enter,
    .call .submit, .call .adapterStarts, .call .timesOut, .gateway true (.workerDone (.ok late)),
    .gateway true (.resume false), .call (.adapterEnds (.error .other)), .call .runCallback,
    .gateway true .adapterDone, .gateway true (.callback .adapter),
    .gateway true (.eyeDone (.error .other)), .gateway true (.callback .eye)]

/-- The image was decoded and nothing is left to do. -/
def FaceFrame.decodedAtRest (s : FaceFrame) : Bool :=
  match s.frame.decodeTask with
  | .done (.ok ()) => s.settled
  | _ => false

/-- When the run is over the frame is at rest, so it was closed. -/
theorem frame_released_slow : ∃ s,
    Steps faceStep Free (.start (contextOf 1) false false .face .started) slowAdapter s ∧
      s.AtRest ∧ s.closes = 1 ∧ s.call.future.reads = false := by
  have reached : ∃ s, Steps faceStep Free (.start (contextOf 1) false false .face .started) slowAdapter s ∧
      s.decodedAtRest = true :=
    exists_steps_of_any (by decide +kernel)
  obtain ⟨s, run, test⟩ := reached
  obtain ⟨-, unread, released⟩ := frame_released run
  unfold FaceFrame.decodedAtRest at test
  split at test
  · rename_i decoded
    have rest := FaceFrame.atRest_of_settled test
    have closed := released rest decoded
    exact ⟨s, run, rest, closed, unread (closed.symm ▸ one_pos)⟩
  · cases test

end Mkk.Gateway
