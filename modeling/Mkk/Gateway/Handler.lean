import Mkk.Gateway.Connection

/-!
# What a part of the handler does

`handle_cases` says once what the handler can do when it deals with one thing: answer the frame in
processing, drop or accept a new one, or something that touches no frame. The invariants of a connection
are derived from it.
-/

namespace Mkk.Gateway

open Lib Lib.Lts
open Eye (StreamFrameContext)

/-- What is known of the frames stays as it is. -/
structure SameFrames (s t : Connection) : Prop where
  currentEpoch : t.currentEpoch = s.currentEpoch
  lastSequence : t.lastSequence = s.lastSequence
  frameKeys : t.frameKeys = s.frameKeys
  frameOrder : t.frameOrder = s.frameOrder
  frames : t.frames = s.frames

/-- Messages that answer no frame and do not close. -/
def Plain (messages : List GatewayMessage) : Prop :=
  ∀ m ∈ messages, m.answers = none ∧ m.isClose = false

/-- What is sent: these messages, and perhaps a close with which the handler ends. -/
def Sends (s t : Connection) (messages : List GatewayMessage) : Prop :=
  t.sent = s.sent ++ messages ∨
    ∃ code text, t.sent = s.sent ++ messages ++ [.close code text] ∧ t.stage.isFinished = true

/-- A step that touches no frame. -/
structure Quiet (s t : Connection) : Prop where
  same : SameFrames s t
  processTask : t.processTask = s.processTask
  taken : t.taken = s.taken
  sends : ∃ messages, Sends s t messages ∧ Plain messages

/-- The frame in processing is answered with its outcome. -/
structure Answers (s t : Connection) (p : FrameProcess) (outcome : FrameOutcome) : Prop where
  found : s.process = some p
  stage : p.stage = .ended (some outcome)
  same : SameFrames s t
  processTask : t.processTask = none
  taken : t.taken = s.taken
  sends : ∃ messages, Sends s t (.frame p.context outcome :: messages) ∧ Plain messages

/-- The processing of a frame raised, and so does the handler. -/
structure Raises (s t : Connection) (p : FrameProcess) : Prop where
  found : s.process = some p
  stage : p.stage = .ended none
  same : SameFrames s t
  processTask : t.processTask = none
  taken : t.taken = s.taken
  sent : t.sent = s.sent
  raised : t.stage = .finished .raised

/-- A new frame is dropped. -/
structure Drops (s t : Connection) (context : StreamFrameContext) : Prop where
  same : SameFrames s t
  processTask : t.processTask = s.processTask
  taken : t.taken = s.taken ++ [context]
  sent : ∃ reason retryable, t.sent = s.sent ++ [.frame context (.drop reason retryable)]
  stage : t.stage = .select

/-- A new frame is accepted. -/
structure Accepts (settings : Settings) (s t : Connection) (metadata : FrameMetadata) : Prop where
  rejection : s.rejectionReason metadata.context = none
  idle : s.processTask = none
  noWork : s.hasPendingWork = false
  marked : metadata.calibrationTarget.isSome = true → s.calibrationStarted = true
  started : s.inferenceStarted = true ∨ s.calibrationStarted = true
  result : ∃ acceptAt, t = (({ s with
      received := none
      stage := .select
      taken := s.taken ++ [metadata.context] } : Connection).accept metadata.context
        acceptAt).startProcess settings metadata

section
variable {settings : Settings} {s t u : Connection} {rateAt acceptAt : ℚ}

theorem SameFrames.refl (s : Connection) : SameFrames s s := ⟨rfl, rfl, rfl, rfl, rfl⟩

theorem SameFrames.trans (h : SameFrames s t) (h' : SameFrames t u) : SameFrames s u :=
  ⟨h'.1.trans h.1, h'.2.trans h.2, h'.3.trans h.3, h'.4.trans h.4, h'.5.trans h.5⟩

theorem Plain.nil : Plain [] := fun _ member => nomatch member

theorem Plain.one {m : GatewayMessage} (answers : m.answers = none) (isClose : m.isClose = false) :
    Plain [m] := by
  intro m' member
  rw [List.mem_singleton.1 member]
  exact ⟨answers, isClose⟩

/-- A change of what `Quiet` does not read, before a quiet step. -/
theorem Quiet.after (h : Quiet t u) (same : SameFrames s t) (processTask : t.processTask = s.processTask)
    (taken : t.taken = s.taken) (sent : t.sent = s.sent) : Quiet s u where
  same := same.trans h.same
  processTask := h.processTask.trans processTask
  taken := h.taken.trans taken
  sends := by
    obtain ⟨messages, sends, plain⟩ := h.sends
    refine ⟨messages, ?_, plain⟩
    unfold Sends at sends ⊢
    rwa [sent] at sends

/-- Before a quiet step one message is sent. -/
theorem Sends.cons {m : GatewayMessage} {messages : List GatewayMessage} (h : Sends t u messages)
    (sent : t.sent = s.sent ++ [m]) : Sends s u (m :: messages) := by
  rcases h with all | ⟨code, text, all, finished⟩
  · exact .inl (by rw [all, sent, List.append_assoc, List.singleton_append])
  · exact .inr ⟨code, text, by rw [all, sent, List.append_assoc s.sent, List.singleton_append],
      finished⟩

theorem Quiet.afterSend {m : GatewayMessage} (h : Quiet t u) (same : SameFrames s t)
    (processTask : t.processTask = s.processTask) (taken : t.taken = s.taken)
    (sent : t.sent = s.sent ++ [m]) (answers : m.answers = none) (isClose : m.isClose = false) :
    Quiet s u where
  same := same.trans h.same
  processTask := h.processTask.trans processTask
  taken := h.taken.trans taken
  sends := by
    obtain ⟨messages, sends, plain⟩ := h.sends
    refine ⟨m :: messages, sends.cons sent, ?_⟩
    intro m' member
    rcases List.mem_cons.1 member with rfl | member
    · exact ⟨answers, isClose⟩
    · exact plain m' member

/-- Nothing is sent. -/
theorem Quiet.silent (same : SameFrames s t) (processTask : t.processTask = s.processTask)
    (taken : t.taken = s.taken) (sent : t.sent = s.sent) : Quiet s t where
  same := same
  processTask := processTask
  taken := taken
  sends := ⟨[], .inl (by rw [sent, List.append_nil]), .nil⟩

theorem Quiet.send {m : GatewayMessage} (answers : m.answers = none) (isClose : m.isClose = false) :
    Quiet s (s.send m) where
  same := ⟨rfl, rfl, rfl, rfl, rfl⟩
  processTask := rfl
  taken := rfl
  sends := ⟨[m], .inl rfl, .one answers isClose⟩

/-- The handler ends with a close, after a plain message or none. -/
theorem Quiet.close (code : ℕ) (text : String) (reason : HandlerEnd) :
    Quiet s (s.close code text reason) where
  same := ⟨rfl, rfl, rfl, rfl, rfl⟩
  processTask := rfl
  taken := rfl
  sends := ⟨[], .inr ⟨code, text, by simp [Connection.close, Connection.send, Connection.finish], rfl⟩,
    .nil⟩

theorem Quiet.sendClose {m : GatewayMessage} (answers : m.answers = none) (isClose : m.isClose = false)
    (code : ℕ) (text : String) (reason : HandlerEnd) : Quiet s ((s.send m).close code text reason) where
  same := ⟨rfl, rfl, rfl, rfl, rfl⟩
  processTask := rfl
  taken := rfl
  sends := ⟨[m], .inr ⟨code, text, rfl, rfl⟩, .one answers isClose⟩

theorem Quiet.protocolError : Quiet s s.protocolError := .sendClose rfl rfl 1002 _ _

theorem Quiet.closeNormally (requestId : String) : Quiet s (s.closeNormally requestId) :=
  .sendClose rfl rfl 1000 _ _

theorem Quiet.finish (reason : HandlerEnd) : Quiet s (s.finish reason) :=
  .silent ⟨rfl, rfl, rfl, rfl, rfl⟩ rfl rfl rfl

theorem Quiet.controlResult (requestId : String) (action : ControlAction) (valid : Bool)
    (reason calibrationId : Option String) :
    Quiet s (s.send (.controlResult requestId action valid reason calibrationId)) :=
  .send rfl rfl

theorem Quiet.controlMessage (control : ControlMessage) :
    Quiet s (s.controlMessage settings control) := by
  unfold Connection.controlMessage
  split
  · unfold Connection.startInference
    split
    · exact .controlResult _ _ _ _ _
    · exact (Quiet.controlResult _ _ _ _ _).after ⟨rfl, rfl, rfl, rfl, rfl⟩ rfl rfl rfl
  · exact (Quiet.controlResult _ _ _ _ _).after ⟨rfl, rfl, rfl, rfl, rfl⟩ rfl rfl rfl
  · unfold Connection.startCalibration
    split
    · exact .controlResult _ _ _ _ _
    · exact .silent ⟨rfl, rfl, rfl, rfl, rfl⟩ rfl rfl rfl
  · have ended : SameFrames s (if s.calibrationTask.isSome then s.endCalibration settings else s) ∧
        (if s.calibrationTask.isSome then s.endCalibration settings else s).processTask = s.processTask ∧
        (if s.calibrationTask.isSome then s.endCalibration settings else s).taken = s.taken ∧
        (if s.calibrationTask.isSome then s.endCalibration settings else s).sent = s.sent := by
      split
      · exact ⟨⟨rfl, rfl, rfl, rfl, rfl⟩, rfl, rfl, rfl⟩
      · exact ⟨.refl s, rfl, rfl, rfl⟩
    obtain ⟨same, processTask, taken, sent⟩ := ended
    unfold Connection.stopSession
    generalize (if s.calibrationTask.isSome then s.endCalibration settings else s) = next at same processTask taken sent ⊢
    dsimp only
    split
    · exact (Quiet.closeNormally _).after same processTask taken sent
    · exact .silent ⟨same.1, same.2, same.3, same.4, same.5⟩ processTask taken sent

variable (settings rateAt acceptAt) in
/-- A frame of this session is dropped or accepted. -/
theorem takeFrame_cases (metadata : FrameMetadata) (received : s.received = none)
    (stage : s.stage = .select) :
    Drops s (s.takeFrame settings metadata rateAt acceptAt) metadata.context ∨
      Accepts settings s (s.takeFrame settings metadata rateAt acceptAt) metadata := by
  have dropped (reason : DropReason) (retryable : Bool) :
      Drops s ({ s with taken := s.taken ++ [metadata.context] }.drop metadata.context reason retryable)
        metadata.context :=
    ⟨⟨rfl, rfl, rfl, rfl, rfl⟩, rfl, rfl, ⟨reason, retryable, rfl⟩, stage⟩
  unfold Connection.takeFrame
  dsimp only
  split
  · exact .inl (dropped _ _)
  · rename_i accepted
    split_ifs with busy limited unmarked idle
    · exact .inl (dropped _ _)
    · exact .inl (dropped _ _)
    · exact .inl (dropped _ _)
    · exact .inl (dropped _ _)
    · right
      simp only [Bool.or_eq_true, not_or, Bool.not_eq_true, Option.isSome_eq_false_iff,
        Option.isNone_iff_eq_none] at busy
      simp only [Bool.and_eq_true, Bool.not_eq_true', not_and, Bool.not_eq_false] at unmarked idle
      refine ⟨accepted, busy.1, busy.2, unmarked, ?_, acceptAt, ?_⟩
      · cases inference : s.inferenceStarted with
        | true => exact .inl rfl
        | false => exact .inr (idle inference)
      · rw [← received, ← stage]

variable (settings s rateAt acceptAt) in
/-- What the handler does with one message. -/
theorem messagePart_cases : Quiet s (s.messagePart settings rateAt acceptAt) ∨
    (∃ context, Drops s (s.messagePart settings rateAt acceptAt) context) ∨
    ∃ metadata, Accepts settings s (s.messagePart settings rateAt acceptAt) metadata := by
  have quiet {u : Connection} (h : Quiet { s with received := none, stage := .select } u) : Quiet s u :=
    h.after ⟨rfl, rfl, rfl, rfl, rfl⟩ rfl rfl rfl
  unfold Connection.messagePart
  dsimp only
  split
  · exact .inl (quiet (.silent (.refl _) rfl rfl rfl))
  · exact .inl (quiet (.finish _))
  · rename_i decoded _
    unfold Connection.binaryMessage
    split
    · exact .inl (quiet (.close _ _ _))
    · exact .inl (quiet .protocolError)
    · exact .inl (quiet (.finish _))
    · rename_i binary _
      split
      · rcases takeFrame_cases settings rateAt acceptAt
          (s := { s with received := none, stage := .select }) binary.metadata rfl rfl with drops | accepts
        · obtain ⟨⟨h₁, h₂, h₃, h₄, h₅⟩, processTask, taken, sent, stage⟩ := drops
          exact .inr (.inl ⟨_, ⟨h₁, h₂, h₃, h₄, h₅⟩, processTask, taken, sent, stage⟩)
        · obtain ⟨rejection, idle, noWork, marked, started, result⟩ := accepts
          exact .inr (.inr ⟨_, rejection, idle, noWork, marked, started, result⟩)
      · exact .inl (quiet .protocolError)
  · exact .inl (quiet (.controlMessage _))
  · exact .inl (quiet .protocolError)
  · exact .inl (quiet (.finish _))
  · exact .inl (quiet (.silent (.refl _) rfl rfl rfl))

/-- Everything the handler can do when it deals with one thing. -/
theorem handle_cases (h : s.handle settings rateAt acceptAt = some t) : Quiet s t ∨
    (∃ p outcome, Answers s t p outcome) ∨ (∃ p, Raises s t p) ∨ (∃ context, Drops s t context) ∨
    ∃ metadata, Accepts settings s t metadata := by
  unfold Connection.handle at h
  split at h
  · -- the calibration
    split at h
    · cases h
      left
      unfold Connection.calibrationPart
      dsimp only
      split
      · exact (Quiet.closeNormally _).afterSend ⟨rfl, rfl, rfl, rfl, rfl⟩ rfl rfl rfl rfl rfl
      · exact ⟨⟨rfl, rfl, rfl, rfl, rfl⟩, rfl, rfl, [_], .inl rfl, .one rfl rfl⟩
    · cases h
  · -- the frame in processing
    split at h
    · rename_i p found
      split at h
      · rename_i outcome ended
        cases h
        cases outcome with
        | none =>
          exact .inr (.inr (.inl ⟨p, found, ended, ⟨rfl, rfl, rfl, rfl, rfl⟩, rfl, rfl, rfl, rfl⟩))
        | some outcome =>
          refine .inr (.inl ⟨p, outcome, ?_⟩)
          unfold Connection.processPart
          dsimp only
          split
          · obtain ⟨messages, sends, plain⟩ := (Quiet.closeNormally (s :=
              { s with processTask := none }.send (.frame p.context outcome)) _).sends
            exact ⟨found, ended, ⟨rfl, rfl, rfl, rfl, rfl⟩, rfl, rfl, messages, sends.cons rfl, plain⟩
          · exact ⟨found, ended, ⟨rfl, rfl, rfl, rfl, rfl⟩, rfl, rfl, [], .inl rfl, .nil⟩
      · cases h
    · cases h
  · cases h
    rcases messagePart_cases settings s rateAt acceptAt with quiet | drops | accepts
    · exact .inl quiet
    · exact .inr (.inr (.inr (.inl drops)))
    · exact .inr (.inr (.inr (.inr accepts)))
  · cases h

/-- A step of a frame changes that frame only. -/
structure Processes (s t : Connection) (j : ℕ) (step : ProcessStep) (p q : FrameProcess) : Prop where
  found : s.frames[j]? = some p
  step : processStep s.inferenceStarted p step = some q
  result : t = { s with frames := s.frames.set j q }

/-- Everything a step can do to the frames of a connection. -/
theorem connectionStep_cases {step : ConnectionStep} (h : connectionStep settings s step = some t) :
    (Quiet s t ∧ s.stage.isFinished ≤ t.stage.isFinished ∧
      (s.stage.isFinished = true → t.sent = s.sent)) ∨
    (∃ j move p q, step = .frame j move ∧ Processes s t j move p q) ∨
    (∃ rateAt acceptAt, step = .handle rateAt acceptAt ∧ s.stage.isFinished = false ∧
      ((∃ p outcome, Answers s t p outcome) ∨ (∃ p, Raises s t p) ∨ (∃ context, Drops s t context) ∨
      ∃ metadata, Accepts settings s t metadata)) := by
  cases step with
  | receive message =>
    dsimp only [connectionStep] at h
    split_ifs at h
    cases h
    exact .inl ⟨.silent ⟨rfl, rfl, rfl, rfl, rfl⟩ rfl rfl rfl, le_rfl, fun _ => rfl⟩
  | calibrated result =>
    obtain ⟨calibration, -, h⟩ := Option.bind_eq_some_iff.1 h
    split_ifs at h
    cases h
    exact .inl ⟨.silent ⟨rfl, rfl, rfl, rfl, rfl⟩ rfl rfl rfl, le_rfl, fun _ => rfl⟩
  | frame j move =>
    obtain ⟨p, found, h⟩ := Option.bind_eq_some_iff.1 h
    obtain ⟨q, moved, rfl⟩ := Option.map_eq_some_iff.1 h
    exact .inr (.inl ⟨j, move, p, q, rfl, found, moved, rfl⟩)
  | wake =>
    dsimp only [connectionStep, Connection.wake] at h
    split_ifs at h with awake
    cases h
    refine .inl ⟨.silent ⟨rfl, rfl, rfl, rfl, rfl⟩ rfl rfl rfl, ?_, fun _ => rfl⟩
    rw [awake.1]
    exact Bool.false_le _
  | handle rateAt acceptAt =>
    have working : s.stage.isFinished = false := by
      cases stage : s.stage with
      | finished reason =>
        dsimp only [connectionStep, Connection.handle] at h
        rw [stage] at h
        cases h
      | select => rfl
      | handling calibration process message => rfl
    rcases handle_cases h with quiet | rest
    · refine .inl ⟨quiet, ?_, fun finished => ?_⟩
      · rw [working]
        exact Bool.false_le _
      · rw [working] at finished
        cases finished
    · exact .inr (.inr ⟨rateAt, acceptAt, rfl, working, rest⟩)

end

/-! ## Frames that have ended -/

/-- The coroutine ended with an outcome. -/
def FrameProcess.settled (p : FrameProcess) : Prop := ∃ outcome, p.stage = .ended (some outcome)

theorem addPending_stage {p : FrameProcess} {task : TaskName} : (p.addPending task).stage = p.stage := by
  unfold FrameProcess.addPending
  split <;> rfl

theorem finishWorkerFrame_stage {p : FrameProcess} {result : Except TaskError Observation} :
    (p.finishWorkerFrame result).stage = p.stage := by
  have held (completion : Bool) : (if completion then p.addPending .adapter else p).stage = p.stage := by
    split
    · exact addPending_stage
    · rfl
  unfold FrameProcess.finishWorkerFrame
  split
  · dsimp only
    split
    · exact held _
    · exact held _
  · rfl

/-- A callback leaves the coroutine where it is. -/
theorem callback_stage {p q : FrameProcess} {task : TaskName} (h : p.callback task = some q) :
    q.stage = p.stage := by
  unfold FrameProcess.callback at h
  split at h
  · cases h
  dsimp only at h
  split at h
  · split at h
    · cases h
      rfl
    · cases h
      rfl
    · cases h
  · split at h
    · cases h
      exact finishWorkerFrame_stage
    · cases h
  · split_ifs at h
    cases h
    rfl
  · split_ifs at h
    cases h
    rfl

/-- A coroutine that has ended stays ended. -/
theorem processStep_ended {p q : FrameProcess} {inferenceStarted : Bool} {step : ProcessStep} {outcome : Option FrameOutcome}
    (ended : p.stage = .ended outcome) (h : processStep inferenceStarted p step = some q) :
    q.stage = .ended outcome := by
  cases step with
  | begin =>
    dsimp only [processStep] at h
    rw [ended] at h
    cases h
  | decodeDone result =>
    dsimp only [processStep] at h
    split_ifs at h
    cases h
    exact ended
  | workerDone result =>
    dsimp only [processStep] at h
    split_ifs at h
    cases h
    exact ended
  | eyeDone result =>
    dsimp only [processStep] at h
    split_ifs at h
    cases h
    exact ended
  | adapterDone =>
    dsimp only [processStep] at h
    split_ifs at h
    cases h
    exact ended
  | resume timedOut =>
    dsimp only [processStep, FrameProcess.resume] at h
    rw [ended] at h
    cases h
  | callback task => exact (callback_stage h).trans ended

/-! ## Pending tasks -/

section
variable {p : FrameProcess} {task other : TaskName}

theorem mem_addPending : task ∈ (p.addPending other).pending ↔ task = other ∨ task ∈ p.pending := by
  unfold FrameProcess.addPending
  split
  · rename_i member
    constructor
    · exact .inr
    · rintro (rfl | h)
      · exact member
      · exact h
  · simp [or_comm]

theorem mem_discardPending :
    task ∈ (p.discardPending other).pending ↔ task ∈ p.pending ∧ task ≠ other := by
  simp [FrameProcess.discardPending]

/-- What an await gives is a timeout or what the task that is done gives. -/
theorem awaited_eq_some {α : Type} {timedOut : Bool} {state : TaskState α} {result : Except TaskError α}
    (h : FrameProcess.awaited timedOut state = some result) :
    timedOut = true ∧ result = .error .timeout ∨ timedOut = false ∧ state = .done result := by
  unfold FrameProcess.awaited at h
  split at h
  · cases h
    exact .inl ⟨rfl, rfl⟩
  · cases h
    exact .inr ⟨rfl, rfl⟩
  · cases h

end

/-! ## What identifies a frame -/

/-- What a frame is accepted with. -/
def FrameProcess.identity (p : FrameProcess) : StreamFrameContext × Bool × Bool × ProcessPath :=
  (p.context, p.marked, p.calibrating, p.path)

section
variable {p q : FrameProcess} {task : TaskName}

theorem addPending_identity : (p.addPending task).identity = p.identity := by
  unfold FrameProcess.addPending
  split <;> rfl

theorem deferEyeCleanup_identity : p.deferEyeCleanup.identity = p.identity := by
  unfold FrameProcess.deferEyeCleanup
  split
  · exact addPending_identity
  · rfl

theorem gazeResult_identity (gaze : Except String GazePayload) (reason : Option String) :
    (p.gazeResult gaze reason).identity = p.identity := by
  unfold FrameProcess.gazeResult
  split <;> rfl

theorem begin_identity (inferenceStarted : Bool) : (p.begin inferenceStarted).identity = p.identity := by
  unfold FrameProcess.begin
  split
  · rfl
  · split <;> rfl
  · split <;> rfl

theorem observed_identity (observation : Observation) : (p.observed observation).identity = p.identity := by
  unfold FrameProcess.observed
  dsimp only
  have held : (if observation.adapterCompletion then
      { p with frameCleanupDeferred := observation.frameCleanupDeferred }.addPending .adapter
      else { p with frameCleanupDeferred := observation.frameCleanupDeferred }).identity = p.identity := by
    split
    · exact addPending_identity
    · rfl
  generalize (if observation.adapterCompletion then
      { p with frameCleanupDeferred := observation.frameCleanupDeferred }.addPending .adapter
      else { p with frameCleanupDeferred := observation.frameCleanupDeferred }) = r at held ⊢
  split
  · exact held
  · split_ifs
    · exact held
    · exact deferEyeCleanup_identity.trans held
    · exact held

theorem resume_identity {timedOut : Bool} (h : p.resume timedOut = some q) : q.identity = p.identity := by
  unfold FrameProcess.resume at h
  split at h
  · obtain ⟨result, -, rfl⟩ := Option.map_eq_some_iff.1 h
    unfold FrameProcess.decodeResumed
    split
    · exact addPending_identity
    · rfl
    · rfl
  · obtain ⟨result, -, rfl⟩ := Option.map_eq_some_iff.1 h
    unfold FrameProcess.workerResumed
    split
    · exact addPending_identity.trans deferEyeCleanup_identity
    · exact deferEyeCleanup_identity
    · exact observed_identity _
  · obtain ⟨result, -, rfl⟩ := Option.map_eq_some_iff.1 h
    unfold FrameProcess.eyeResumed
    extract_lets r
    have held : r.identity = p.identity := by
      unfold r
      split
      · exact addPending_identity
      · rfl
    split
    · unfold FrameProcess.calibrationResumed
      split
      · exact addPending_identity
      · rfl
      · rfl
      · rfl
    · exact (gazeResult_identity _ _).trans held
    · exact (gazeResult_identity _ _).trans held
  · cases h

theorem callback_identity (h : p.callback task = some q) : q.identity = p.identity := by
  have finished (result : Except TaskError Observation) {r : FrameProcess}
      (same : r.identity = p.identity) : (r.finishWorkerFrame result).identity = p.identity := by
    have held (completion : Bool) :
        (if completion then r.addPending .adapter else r).identity = p.identity := by
      split
      · exact addPending_identity.trans same
      · exact same
    unfold FrameProcess.finishWorkerFrame
    split
    · dsimp only
      split
      · exact held _
      · exact held _
    · exact same
  unfold FrameProcess.callback at h
  split at h
  · cases h
  dsimp only at h
  split at h
  · split at h
    · cases h
      rfl
    · cases h
      rfl
    · cases h
  · split at h
    · cases h
      exact finished _ rfl
    · cases h
  · split_ifs at h
    cases h
    rfl
  · split_ifs at h
    cases h
    rfl

theorem processStep_identity {inferenceStarted : Bool} {step : ProcessStep}
    (h : processStep inferenceStarted p step = some q) : q.identity = p.identity := by
  cases step with
  | begin =>
    dsimp only [processStep] at h
    split at h
    · cases h
      exact begin_identity _
    · cases h
  | resume timedOut => exact resume_identity h
  | callback task => exact callback_identity h
  | _ =>
    dsimp only [processStep] at h
    split_ifs at h
    cases h
    rfl

end

/-! ## Frames while the handler works -/

/-- While the handler works, every frame but the one in processing has its outcome. -/
structure SettledInv (s : Connection) : Prop where
  settled : s.stage.isFinished = false → ∀ (i : ℕ) p, s.frames[i]? = some p →
    s.processTask ≠ some i → p.settled

section
variable {settings : Settings} {s t : Connection}

theorem SettledInv.start : SettledInv settings.start where
  settled _ _ _ found := nomatch found

theorem SettledInv.step {step : ConnectionStep} (inv : SettledInv s) (h : connectionStep settings s step = some t) :
    SettledInv t where
  settled working i p found other := by
    obtain ⟨quiet, later, -⟩ | ⟨j, move, p', q, -, processes⟩ | ⟨rateAt, acceptAt, -, before, rest⟩ :=
      connectionStep_cases h
    · rw [quiet.same.frames] at found
      rw [quiet.processTask] at other
      refine inv.settled ?_ i p found other
      rw [working] at later
      exact Bool.eq_false_of_le_false later
    · obtain ⟨found', moved, rfl⟩ := processes
      dsimp only at found working other
      rw [List.getElem?_set] at found
      split_ifs at found with same inside
      · cases found
        subst same
        obtain ⟨outcome, ended⟩ := inv.settled working j p' found' other
        exact ⟨outcome, processStep_ended ended moved⟩
      · exact inv.settled working i p found other
    · rcases rest with ⟨p', outcome, answers⟩ | ⟨p', raises⟩ | ⟨context, drops⟩ | ⟨metadata, accepts⟩
      · rw [answers.same.frames] at found
        by_cases own : s.processTask = some i
        · have current := answers.found
          unfold Connection.process at current
          rw [own, Option.bind_some, found] at current
          cases current
          exact ⟨outcome, answers.stage⟩
        · exact inv.settled before i p found own
      · rw [raises.raised] at working
        cases working
      · rw [drops.same.frames] at found
        rw [drops.processTask] at other
        exact inv.settled before i p found other
      · obtain ⟨acceptAt, rfl⟩ := accepts.result
        rcases getElem?_concat_cases found with found | ⟨rfl, -⟩
        · refine inv.settled before i p found ?_
          rw [accepts.idle]
          exact nofun
        · exact absurd rfl other

end

end Mkk.Gateway
