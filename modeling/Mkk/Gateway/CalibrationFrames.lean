import Mkk.Gateway.FrameOrder

/-!
# Calibration frames and samples

A frame that was accepted while a calibration was in progress is sent to Eye for the calibration and to
nothing else, so that its answer has no sample. This holds in every run in which no frame is accepted
while inference is started too: `_handle` then takes the way of the observations.
-/

namespace Mkk.Gateway

open Lib Lib.Lts
open Eye (StreamFrameContext)

/-! ## One frame -/

/-- The outcome has no sample, if there is one. -/
def FrameProcess.Sampleless (p : FrameProcess) : Prop :=
  ∀ outcome, p.stage = .ended (some outcome) → outcome.hasSample = false

section
variable {p q : FrameProcess}

theorem FrameProcess.Sampleless.finish {outcome : FrameOutcome} (h : outcome.hasSample = false) :
    (p.finish (some outcome)).Sampleless := by
  intro outcome' ended
  cases ended
  exact h

/-- A frame that still waits has no outcome. -/
theorem FrameProcess.Sampleless.waits (h : p.ended = false) : p.Sampleless := by
  intro outcome ended
  unfold FrameProcess.ended at h
  rw [ended] at h
  cases h

theorem calibrationResumed_sampleless (reply : Except TaskError (Option EyeInferenceResult)) :
    (p.calibrationResumed reply).Sampleless := by
  unfold FrameProcess.calibrationResumed
  split
  · exact .finish rfl
  · exact .finish rfl
  · exact fun _ ended => nomatch ended
  · exact .finish rfl

theorem observed_sampleless (observation : Observation) : (p.observed observation).Sampleless := by
  unfold FrameProcess.observed
  dsimp only
  generalize (if observation.adapterCompletion then
      { p with frameCleanupDeferred := observation.frameCleanupDeferred }.addPending .adapter
      else { p with frameCleanupDeferred := observation.frameCleanupDeferred }) = held
  split
  · exact fun _ ended => nomatch ended
  · split_ifs
    · exact .finish rfl
    · exact .finish rfl
    · exact .waits rfl

theorem workerResumed_sampleless (result : Except TaskError Observation) :
    (p.workerResumed result).Sampleless := by
  unfold FrameProcess.workerResumed
  split
  · exact .finish rfl
  · exact .finish rfl
  · exact observed_sampleless _

theorem decodeResumed_sampleless (result : Except TaskError Unit) :
    (p.decodeResumed result).Sampleless := by
  unfold FrameProcess.decodeResumed
  split
  · exact .finish rfl
  · exact .finish rfl
  · exact .waits rfl

theorem begin_sampleless (inferenceStarted : Bool) : (p.begin inferenceStarted).Sampleless := by
  unfold FrameProcess.begin
  split
  · exact .waits rfl
  · split
    · exact .finish rfl
    · exact .waits rfl
  · split
    · exact .finish rfl
    · exact .waits rfl

/-- No step of a calibration frame gives it a sample. -/
theorem processStep_sampleless {inferenceStarted : Bool} {step : ProcessStep} (inv : p.Sampleless)
    (path : p.path = .calibration) (h : processStep inferenceStarted p step = some q) :
    q.Sampleless := by
  cases ended : p.ended with
  | true =>
    cases stage : p.stage with
    | ended outcome =>
      intro outcome' ended'
      rw [processStep_ended stage h] at ended'
      exact inv outcome' (stage.trans ended')
    | _ =>
      unfold FrameProcess.ended at ended
      rw [stage] at ended
      cases ended
  | false =>
    cases step with
    | begin =>
      dsimp only [processStep] at h
      split at h
      · cases h
        exact begin_sampleless _
      · cases h
    | resume timedOut =>
      dsimp only [processStep, FrameProcess.resume] at h
      split at h
      · obtain ⟨result, -, rfl⟩ := Option.map_eq_some_iff.1 h
        exact decodeResumed_sampleless result
      · obtain ⟨result, -, rfl⟩ := Option.map_eq_some_iff.1 h
        exact workerResumed_sampleless result
      · obtain ⟨reply, -, rfl⟩ := Option.map_eq_some_iff.1 h
        unfold FrameProcess.eyeResumed
        dsimp only
        rw [path]
        exact calibrationResumed_sampleless reply
      · cases h
    | callback task =>
      refine .waits ?_
      unfold FrameProcess.ended at ended ⊢
      rwa [callback_stage h]
    | _ =>
      dsimp only [processStep] at h
      split_ifs at h
      cases h
      exact .waits ended

end

/-! ## A connection -/

/-- A frame that must not become an observation. -/
def FrameProcess.capture (p : FrameProcess) : Bool := p.calibrating || p.marked

/-- No answer to a calibration capture has a sample. -/
def CapturesKept (s : Connection) : Prop :=
  ∀ p ∈ s.frames, p.capture = true → ∀ outcome, .frame p.context outcome ∈ s.sent →
    outcome.hasSample = false

/-- The message answers a frame of a context with a sample. -/
def GatewayMessage.showsSample (context : StreamFrameContext) : GatewayMessage → Bool
  | .frame answered outcome => decide (answered = context) && outcome.hasSample
  | _ => false

/-- No frame is accepted while a calibration is in progress and inference is started. -/
def AcceptsApart (settings : Settings) (s : Connection) (step : ConnectionStep) : Prop :=
  ∀ t, connectionStep settings s step = some t → s.frames.length < t.frames.length →
    ¬(s.calibrationStarted = true ∧ s.inferenceStarted = true)

/-- Captures take the way of the calibration, which gives no sample, and a sample that was sent is one of
another frame. -/
structure CaptureInv (s : Connection) : Prop where
  path : ∀ p ∈ s.frames, p.capture = true → p.path = .calibration
  sampleless : ∀ p ∈ s.frames, p.path = .calibration → p.Sampleless
  sent : ∀ context outcome, .frame context outcome ∈ s.sent → outcome.hasSample = true →
    ∃ p ∈ s.frames, p.context = context ∧ p.path ≠ .calibration

section
variable {settings : Settings} {s t : Connection}

theorem CaptureInv.start : CaptureInv settings.start where
  path _ member := nomatch member
  sampleless _ member := nomatch member
  sent _ _ member := nomatch member

/-- A new answer is among the messages. -/
theorem Sends.mem_frame {messages : List GatewayMessage} {context : StreamFrameContext}
    {outcome : FrameOutcome} (h : Sends s t messages) (member : .frame context outcome ∈ t.sent) :
    .frame context outcome ∈ s.sent ∨ .frame context outcome ∈ messages := by
  rcases h with sent | ⟨code, text, sent, -⟩
  · rw [sent] at member
    exact List.mem_append.1 member
  · rw [sent, List.mem_append] at member
    rcases member with member | member
    · exact List.mem_append.1 member
    · cases List.mem_singleton.1 member

theorem Plain.not_mem_frame {messages : List GatewayMessage} {context : StreamFrameContext}
    {outcome : FrameOutcome} (plain : Plain messages) : .frame context outcome ∉ messages :=
  fun member => nomatch (plain _ member).1

/-- The same frames, and no new answer with a sample. -/
theorem CaptureInv.of_frames (inv : CaptureInv s) (frames : t.frames = s.frames)
    (sent : ∀ context outcome, .frame context outcome ∈ t.sent → outcome.hasSample = true →
      .frame context outcome ∈ s.sent) : CaptureInv t where
  path := by
    rw [frames]
    exact inv.path
  sampleless := by
    rw [frames]
    exact inv.sampleless
  sent context outcome member sample := by
    rw [frames]
    exact inv.sent context outcome (sent context outcome member sample) sample

/-- The frame that is answered is one that was accepted. -/
theorem mem_of_process {p : FrameProcess} (found : s.process = some p) : p ∈ s.frames := by
  obtain ⟨i, -, place⟩ := Option.bind_eq_some_iff.1 found
  exact List.mem_of_getElem? place

theorem CaptureInv.answers {p : FrameProcess} {outcome : FrameOutcome} (inv : CaptureInv s)
    (answers : Answers s t p outcome) : CaptureInv t where
  path := by
    rw [answers.same.frames]
    exact inv.path
  sampleless := by
    rw [answers.same.frames]
    exact inv.sampleless
  sent context outcome' member sample := by
    rw [answers.same.frames]
    obtain ⟨messages, sends, plain⟩ := answers.sends
    rcases sends.mem_frame member with before | new
    · exact inv.sent context outcome' before sample
    rcases List.mem_cons.1 new with same | new
    · cases same
      have own := mem_of_process answers.found
      refine ⟨p, own, rfl, fun path => ?_⟩
      rw [inv.sampleless p own path outcome answers.stage] at sample
      cases sample
    · exact absurd new plain.not_mem_frame

/-- A frame makes a step: it stays the frame it was. -/
theorem CaptureInv.processes {j : ℕ} {p q : FrameProcess} {step : ProcessStep} (inv : CaptureInv s)
    (found : s.frames[j]? = some p) (moved : processStep s.inferenceStarted p step = some q) :
    CaptureInv { s with frames := s.frames.set j q } := by
  have identity := processStep_identity moved
  have context : q.context = p.context := congrArg (·.1) identity
  have marked : q.marked = p.marked := congrArg (·.2.1) identity
  have calibrating : q.calibrating = p.calibrating := congrArg (·.2.2.1) identity
  have path : q.path = p.path := congrArg (·.2.2.2) identity
  have own : p ∈ s.frames := List.mem_of_getElem? found
  refine ⟨fun r member capture => ?_, fun r member way => ?_, fun context' outcome member sample => ?_⟩
  · rcases List.mem_or_eq_of_mem_set member with member | rfl
    · exact inv.path r member capture
    · rw [path]
      refine inv.path p own ?_
      unfold FrameProcess.capture at capture ⊢
      rwa [calibrating, marked] at capture
  · rcases List.mem_or_eq_of_mem_set member with member | rfl
    · exact inv.sampleless r member way
    · rw [path] at way
      exact processStep_sampleless (inv.sampleless p own way) way moved
  · obtain ⟨r, member, same, way⟩ := inv.sent context' outcome member sample
    obtain ⟨i, place⟩ := List.mem_iff_getElem?.1 member
    by_cases here : i = j
    · subst here
      rw [found] at place
      cases place
      refine ⟨q, List.mem_of_getElem? (i := i) ?_, context.trans same, path ▸ way⟩
      have inside := (List.getElem?_eq_some_iff.1 found).1
      exact List.getElem?_set_self inside
    · refine ⟨r, List.mem_of_getElem? (i := i) ?_, same, way⟩
      rw [← place]
      exact List.getElem?_set_ne (Ne.symm here)

theorem CaptureInv.accepts {metadata : FrameMetadata} (inv : CaptureInv s)
    (accepts : Accepts settings s t metadata)
    (apart : ¬(s.calibrationStarted = true ∧ s.inferenceStarted = true)) : CaptureInv t := by
  obtain ⟨now, rfl⟩ := accepts.result
  refine ⟨fun p member capture => ?_, fun p member way => ?_, fun context outcome member sample => ?_⟩
  · rcases List.mem_append.1 member with member | member
    · exact inv.path p member capture
    · cases List.mem_singleton.1 member
      have calibrating : s.calibrationStarted = true := by
        rcases Bool.or_eq_true_iff.1 capture with calibrating | marked
        · exact calibrating
        · exact accepts.marked marked
      have stopped : s.inferenceStarted = false := by
        by_contra started
        exact apart ⟨calibrating, by simpa using started⟩
      change (if s.calibrationStarted && !s.inferenceStarted then ProcessPath.calibration else _) = _
      rw [calibrating, stopped]
      rfl
  · rcases List.mem_append.1 member with member | member
    · exact inv.sampleless p member way
    · cases List.mem_singleton.1 member
      exact .waits rfl
  · obtain ⟨p, member, same, way⟩ := inv.sent context outcome member sample
    exact ⟨p, List.mem_append_left _ member, same, way⟩

theorem CaptureInv.step {step : ConnectionStep} (inv : CaptureInv s)
    (apart : AcceptsApart settings s step) (h : connectionStep settings s step = some t) :
    CaptureInv t := by
  obtain ⟨quiet, -, -⟩ | ⟨j, move, p, q, -, processes⟩ | ⟨rateAt, acceptAt, -, -, rest⟩ :=
    connectionStep_cases h
  · refine inv.of_frames quiet.same.frames fun context outcome member _ => ?_
    obtain ⟨messages, sends, plain⟩ := quiet.sends
    exact (sends.mem_frame member).resolve_right plain.not_mem_frame
  · obtain ⟨found, moved, rfl⟩ := processes
    exact inv.processes found moved
  · rcases rest with ⟨p, outcome, answers⟩ | ⟨p, raises⟩ | ⟨context, drops⟩ | ⟨metadata, accepts⟩
    · exact inv.answers answers
    · refine inv.of_frames raises.same.frames fun context outcome member _ => ?_
      rwa [raises.sent] at member
    · refine inv.of_frames drops.same.frames fun context' outcome member sample => ?_
      obtain ⟨reason, retryable, sent⟩ := drops.sent
      rw [sent, List.mem_append] at member
      rcases member with member | member
      · exact member
      · cases List.mem_singleton.1 member
        cases sample
    · refine inv.accepts accepts (apart t h ?_)
      obtain ⟨now, rfl⟩ := accepts.result
      change s.frames.length < (s.frames ++ [_]).length
      rw [List.length_append]
      exact Nat.lt_succ_self _

/-- Two frames with one context are one frame. -/
theorem OrderInv.eq_of_context {p q : FrameProcess} (inv : OrderInv s) (hp : p ∈ s.frames)
    (hq : q ∈ s.frames) (same : p.context = q.context) : p = q := by
  have sequences := inv.sequences
  unfold Connection.accepted at sequences
  rw [List.map_map] at sequences
  have nodup : (s.frames.map ((·.sequence) ∘ (·.context))).Nodup := sequences.imp ne_of_lt
  exact List.inj_on_of_nodup_map nodup hp hq (congrArg (·.sequence) same)

end

/-- **Calibration captures are no observations**, in every run in which no frame is accepted while a
calibration is in progress and inference is started. -/
theorem captures_kept {settings : Settings} {ls : List ConnectionStep} {s : Connection}
    (run : Steps (connectionStep settings) (AcceptsApart settings) settings.start ls s) :
    CapturesKept s := by
  have order : OrderInv s := run.free.invariant (fun _ _ _ inv _ h => inv.step h) .start
  have inv : CaptureInv s := run.invariant (fun _ _ _ inv apart h => inv.step apart h) .start
  intro p member capture outcome sent
  by_contra sample
  obtain ⟨q, member', same, way⟩ := inv.sent p.context outcome sent (by simpa using sample)
  cases order.eq_of_context member' member same
  exact way (inv.path p member capture)

/-- Eye sees where the visitor looks in frame `n`. -/
def observedReply (n : ℕ) : EyeInferenceResult where
  gazeSample := some { frame := some (contextOf n), valid := some true }
  reason := none
  calibrationProgress := none

/-- The visitor is calibrated, and Eye answers the frame with a sample. -/
def calibratedFirst : List ConnectionStep :=
  controlArrives .startCalibration 0 ++ frameArrives 1 1 ++
    [.frame 0 .begin, .frame 0 (.eyeDone (.ok (some (observedReply 1)))), .frame 0 (.resume false), .wake,
      .handle 1 1]

theorem captures_kept_calibrated : ∃ s,
    Steps (connectionStep (visitorSettings false)) (AcceptsApart (visitorSettings false))
      (visitorSettings false).start calibratedFirst s ∧
    s.frames.any (·.capture) = true ∧ CapturesKept s := by
  have reached : ∃ s,
      Steps (connectionStep (visitorSettings false)) (AcceptsApart (visitorSettings false))
        (visitorSettings false).start calibratedFirst s ∧ s.frames.any (·.capture) = true :=
    exists_guarded_steps_of_any (fun s _ => !s.inferenceStarted)
      (fun s step calm t _ _ both => by
        rw [both.2] at calm
        cases calm) (by decide +kernel)
  obtain ⟨s, run, captured⟩ := reached
  exact ⟨s, run, captured, captures_kept run⟩

/-- A frame that is accepted in a calibration after `start_inference` becomes an observation. -/
theorem capture_observed : ¬ ∀ (settings : Settings) ls s,
    Steps (connectionStep settings) Free settings.start ls s → CapturesKept s := by
  intro claim
  have reached : ∃ s, Steps (connectionStep (visitorSettings false)) Free (visitorSettings false).start
      (controlArrives .startInference 0 ++ calibratedFirst) s ∧
      (s.frames.any fun p => p.capture && s.sent.any (GatewayMessage.showsSample p.context)) = true :=
    exists_steps_of_any (by decide +kernel)
  obtain ⟨s, run, observed⟩ := reached
  simp only [List.any_eq_true, Bool.and_eq_true] at observed
  obtain ⟨p, member, capture, m, sent, sample⟩ := observed
  cases m with
  | frame context outcome =>
    simp only [GatewayMessage.showsSample, Bool.and_eq_true, decide_eq_true_eq] at sample
    obtain ⟨rfl, sample⟩ := sample
    rw [claim _ _ s run p member capture outcome sent] at sample
    cases sample
  | _ => cases sample

end Mkk.Gateway
