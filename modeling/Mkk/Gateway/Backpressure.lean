import Mkk.Gateway.Handler

/-!
# Backpressure

`TaskInv` says where every task of a frame is while it runs: in the await of its coroutine, or in
`pending_tasks`. `backpressure` is the consequence for a whole connection, on the condition that the
observation of another frame is not received while Eye still reads this one.
-/

namespace Mkk.Gateway

open Lib Lib.Lts
open Eye (StreamFrameContext)

/-! ## The tasks of one frame -/

namespace FrameProcess

/-- The task is running. -/
def running (p : FrameProcess) : TaskName → Bool
  | .decode => p.decodeTask.isRunning
  | .worker => p.workerTask.isRunning
  | .eye => p.eyeTask.isRunning
  | .adapter => p.adapter.isRunning

/-- A task is registered; an adapter call is so through the task of its worker until the callback of
that has run. -/
def Registered (p : FrameProcess) (task : TaskName) : Prop :=
  task ∈ p.pending ∨ task = .adapter ∧ .worker ∈ p.pending

end FrameProcess

/-- The tasks a coroutine looks after at its await; one that raised leaves them all. -/
def ProcessStage.awaits : ProcessStage → List TaskName
  | .start => []
  | .decode => [.decode]
  | .worker => [.worker, .eye, .adapter]
  | .eye => [.eye]
  | .ended (some _) => []
  | .ended none => [.decode, .worker, .eye, .adapter]

/-- A running task is looked after by the coroutine or registered. -/
structure TaskInv (p : FrameProcess) : Prop where
  owned : ∀ task, p.running task = true → task ∈ p.stage.awaits ∨ p.Registered task
  early : p.stage = .start ∨ p.stage = .decode → p.running .worker = false ∧ p.running .adapter = false
  handed : p.running .adapter = true →
    ∃ observation, p.workerTask = .done (.ok observation) ∧ observation.adapterCompletion = true

/-- When the observation of another frame is received, Eye has finished with this one. -/
def MismatchAfterEye (p : FrameProcess) (step : ProcessStep) : Prop :=
  step = .resume false → p.stage = .worker → ∀ observation sample,
    p.workerTask = .done (.ok observation) → observation.sample = some sample →
    sample.context ≠ p.context → p.running .eye = false

section
variable {p q : FrameProcess} {task other : TaskName}

/-- What stays of a frame when its coroutine goes on: its tasks run as before, and nothing leaves
`pending_tasks`. -/
structure Advances (p q : FrameProcess) : Prop where
  running : q.running = p.running
  workerTask : q.workerTask = p.workerTask
  pending : ∀ task ∈ p.pending, task ∈ q.pending

theorem Advances.refl (p : FrameProcess) : Advances p p := ⟨rfl, rfl, fun _ h => h⟩

theorem Advances.trans {r : FrameProcess} (h : Advances p q) (h' : Advances q r) : Advances p r :=
  ⟨h'.1.trans h.1, h'.2.trans h.2, fun task member => h'.3 task (h.3 task member)⟩

theorem Advances.addPending : Advances p (p.addPending task) := by
  refine ⟨?_, ?_, fun _ member => mem_addPending.2 (.inr member)⟩
  · unfold FrameProcess.addPending
    split <;> rfl
  · unfold FrameProcess.addPending
    split <;> rfl

theorem Advances.finish (outcome : Option FrameOutcome) : Advances p (p.finish outcome) :=
  ⟨rfl, rfl, fun _ h => h⟩

theorem Advances.deferEyeCleanup : Advances p p.deferEyeCleanup := by
  unfold FrameProcess.deferEyeCleanup
  split
  · exact .addPending
  · exact .refl p

theorem Advances.registered (h : Advances p q) (registered : p.Registered task) : q.Registered task :=
  registered.imp (h.pending task) fun ⟨same, member⟩ => ⟨same, h.pending _ member⟩

/-- `defer_eye_cleanup` registers Eye. -/
theorem deferEyeCleanup_registers (running : p.running .eye = true) :
    .eye ∈ p.deferEyeCleanup.pending := by
  unfold FrameProcess.deferEyeCleanup
  rw [if_pos (show p.eyeTask.isRunning = true from running)]
  exact mem_addPending.2 (.inl rfl)

/-- A coroutine that goes on keeps the invariant when the tasks it looked after and does no longer are
registered. -/
theorem TaskInv.advance (inv : TaskInv p) (advances : Advances p q)
    (owned : ∀ task ∈ p.stage.awaits, p.running task = true →
      task ∈ q.stage.awaits ∨ q.Registered task)
    (late : q.stage ≠ .start ∧ q.stage ≠ .decode) : TaskInv q where
  owned task running := by
    rw [advances.running] at running
    rcases inv.owned task running with awaited | registered
    · exact owned task awaited running
    · exact .inr (advances.registered registered)
  early h := (h.elim late.1 late.2).elim
  handed running := by
    rw [advances.running] at running
    rw [advances.workerTask]
    exact inv.handed running

/-- The coroutine ends, having registered what it looked after. -/
theorem TaskInv.finish (inv : TaskInv p) (advances : Advances p q) (outcome : Option FrameOutcome)
    (owned : ∀ task ∈ p.stage.awaits, p.running task = true →
      outcome = none ∨ q.Registered task) : TaskInv (q.finish outcome) := by
  refine inv.advance (advances.trans (.finish outcome)) (fun task awaited running => ?_)
    ⟨nofun, nofun⟩
  rcases owned task awaited running with rfl | registered
  · left
    cases task <;> simp [FrameProcess.finish, ProcessStage.awaits]
  · exact .inr registered

theorem TaskInv.begin (inv : TaskInv p) (stage : p.stage = .start) (inferenceStarted : Bool) :
    TaskInv (p.begin inferenceStarted) := by
  have early := inv.early (.inl stage)
  have nothing (task : TaskName) : task ∉ p.stage.awaits := by
    rw [stage]
    exact List.not_mem_nil
  have owned (task : TaskName) (running : p.running task = true) : p.Registered task :=
    (inv.owned task running).resolve_left (nothing task)
  have dropped : TaskInv (p.drop .sessionClosing false) :=
    inv.finish (.refl p) _ fun task awaited _ => absurd awaited (nothing task)
  have eye : TaskInv { p with eyeTask := .running, stage := .eye } := by
    refine ⟨fun task running => ?_, fun h => (h.elim nofun nofun : False).elim, inv.handed⟩
    cases task with
    | eye => exact .inl (List.mem_singleton.2 rfl)
    | decode => exact .inr (owned .decode running)
    | worker => exact .inr (owned .worker running)
    | adapter => exact .inr (owned .adapter running)
  have decode : TaskInv { p with decodeTask := .running, stage := .decode } := by
    refine ⟨fun task running => ?_, fun _ => early, inv.handed⟩
    cases task with
    | decode => exact .inl (List.mem_singleton.2 rfl)
    | eye => exact .inr (owned .eye running)
    | worker => exact .inr (owned .worker running)
    | adapter => exact .inr (owned .adapter running)
  unfold FrameProcess.begin
  split
  · exact eye
  · split
    · exact dropped
    · exact decode
  · split
    · exact dropped
    · exact eye

theorem TaskInv.decodeResumed (inv : TaskInv p) (stage : p.stage = .decode)
    {result : Except TaskError Unit}
    (done : result = .error .timeout ∨ p.running .decode = false) : TaskInv (p.decodeResumed result) := by
  have awaits : p.stage.awaits = [.decode] := by rw [stage]; rfl
  have failed (done : p.running .decode = false) (code : ErrorCode) (retryable : Bool) :
      TaskInv (p.error code retryable) := by
    refine inv.finish (.refl p) _ fun task awaited running => ?_
    rw [awaits, List.mem_singleton] at awaited
    rw [awaited, done] at running
    cases running
  unfold FrameProcess.decodeResumed
  split
  · refine inv.finish .addPending _ fun task awaited _ => .inr (.inl ?_)
    rw [awaits, List.mem_singleton] at awaited
    exact mem_addPending.2 (.inl awaited)
  · exact failed (done.resolve_left nofun) _ _
  · have ended := done.resolve_left nofun
    have idle := (inv.early (.inr stage)).2
    refine ⟨fun task running => ?_, fun h => (h.elim nofun nofun : False).elim, fun running => ?_⟩
    · cases task with
      | decode => exact absurd (ended.symm.trans running) (by decide)
      | adapter => exact absurd (idle.symm.trans running) (by decide)
      | worker => exact .inl (by simp [ProcessStage.awaits])
      | eye => exact .inl (by simp [ProcessStage.awaits])
    · exact absurd (idle.symm.trans running) (by decide)

/-- The observation of the Face worker was received. -/
theorem TaskInv.observed (inv : TaskInv p) (stage : p.stage = .worker) {observation : Observation}
    (done : p.workerTask = .done (.ok observation))
    (mismatch : ∀ sample, observation.sample = some sample → sample.context ≠ p.context →
      p.running .eye = false) : TaskInv (p.observed observation) := by
  have awaits : p.stage.awaits = [.worker, .eye, .adapter] := by rw [stage]; rfl
  have ended : p.running .worker = false := by
    unfold FrameProcess.running
    rw [done]
    rfl
  unfold FrameProcess.observed
  dsimp only
  have held : Advances p (if observation.adapterCompletion then
      { p with frameCleanupDeferred := observation.frameCleanupDeferred }.addPending .adapter
      else { p with frameCleanupDeferred := observation.frameCleanupDeferred }) ∧
      (p.running .adapter = true → .adapter ∈ (if observation.adapterCompletion then
        { p with frameCleanupDeferred := observation.frameCleanupDeferred }.addPending .adapter
        else { p with frameCleanupDeferred := observation.frameCleanupDeferred }).pending) := by
    have same : Advances p { p with frameCleanupDeferred := observation.frameCleanupDeferred } :=
      ⟨rfl, rfl, fun _ h => h⟩
    split
    · exact ⟨same.trans .addPending, fun _ => mem_addPending.2 (.inl rfl)⟩
    · rename_i without
      refine ⟨same, fun running => ?_⟩
      obtain ⟨observation', done', completion⟩ := inv.handed running
      rw [done] at done'
      cases done'
      exact absurd completion without
  generalize (if observation.adapterCompletion then
      { p with frameCleanupDeferred := observation.frameCleanupDeferred }.addPending .adapter
      else { p with frameCleanupDeferred := observation.frameCleanupDeferred }) = q at held ⊢
  obtain ⟨advances, adapter⟩ := held
  -- what is left to look after is Eye
  have others {r : FrameProcess} (later : Advances q r) {task : TaskName}
      (awaited : task ∈ p.stage.awaits) (running : p.running task = true) :
      task = .eye ∨ r.Registered task := by
    rw [awaits] at awaited
    simp only [List.mem_cons, List.not_mem_nil, or_false] at awaited
    rcases awaited with rfl | rfl | rfl
    · rw [ended] at running
      cases running
    · exact .inl rfl
    · exact .inr (.inl (later.pending _ (adapter running)))
  split
  · exact inv.finish advances none fun _ _ _ => .inl rfl
  · rename_i sample found
    split_ifs with other timeout
    · refine inv.finish advances _ fun task awaited running => .inr ?_
      rcases others (.refl q) awaited running with rfl | registered
      · rw [mismatch sample found other] at running
        cases running
      · exact registered
    · refine inv.finish (advances.trans .deferEyeCleanup) _ fun task awaited running => .inr ?_
      rcases others .deferEyeCleanup awaited running with rfl | registered
      · exact .inl (deferEyeCleanup_registers (by rw [advances.running]; exact running))
      · exact registered
    · refine inv.advance ⟨advances.running, advances.workerTask, advances.pending⟩
        (fun task awaited running => ?_) ⟨nofun, nofun⟩
      rcases others (.refl q) awaited running with rfl | registered
      · exact .inl (List.mem_singleton.2 rfl)
      · exact .inr registered

theorem TaskInv.workerResumed (inv : TaskInv p) (stage : p.stage = .worker)
    {result : Except TaskError Observation}
    (done : result = .error .timeout ∨ p.workerTask = .done result)
    (mismatch : ∀ observation sample, p.workerTask = .done (.ok observation) →
      observation.sample = some sample → sample.context ≠ p.context → result ≠ .error .timeout →
      p.running .eye = false) : TaskInv (p.workerResumed result) := by
  have awaits : p.stage.awaits = [.worker, .eye, .adapter] := by rw [stage]; rfl
  unfold FrameProcess.workerResumed
  split
  · have advances : Advances p { p.deferEyeCleanup.addPending .worker with frameCleanupDeferred := true } :=
      have step : Advances p (p.deferEyeCleanup.addPending .worker) :=
        Advances.deferEyeCleanup.trans .addPending
      ⟨step.running, step.workerTask, step.pending⟩
    have worker : TaskName.worker ∈ (p.deferEyeCleanup.addPending .worker).pending :=
      mem_addPending.2 (.inl rfl)
    refine inv.finish advances _ fun task awaited running => .inr ?_
    rw [awaits] at awaited
    simp only [List.mem_cons, List.not_mem_nil, or_false] at awaited
    rcases awaited with rfl | rfl | rfl
    · exact .inl worker
    · exact .inl (mem_addPending.2 (.inr (deferEyeCleanup_registers running)))
    · exact .inr ⟨rfl, worker⟩
  · have ended := done.resolve_left nofun
    refine inv.finish .deferEyeCleanup _ fun task awaited running => .inr ?_
    rw [awaits] at awaited
    simp only [List.mem_cons, List.not_mem_nil, or_false] at awaited
    rcases awaited with rfl | rfl | rfl
    · unfold FrameProcess.running at running
      rw [ended] at running
      cases running
    · exact .inl (deferEyeCleanup_registers running)
    · obtain ⟨observation, done', -⟩ := inv.handed running
      rw [ended] at done'
      cases done'
  · have ended := done.resolve_left nofun
    exact inv.observed stage ended fun sample found other => mismatch _ sample ended found other nofun

theorem TaskInv.eyeResumed (inv : TaskInv p) (stage : p.stage = .eye)
    {result : Except TaskError (Option EyeInferenceResult)}
    (done : result = .error .timeout ∨ p.running .eye = false) : TaskInv (p.eyeResumed result) := by
  have awaits : p.stage.awaits = [.eye] := by rw [stage]; rfl
  -- a timeout registers Eye, and otherwise it is done
  have ends {q : FrameProcess} (advances : Advances p q)
      (registers : result = .error .timeout → .eye ∈ q.pending) (outcome : Option FrameOutcome) :
      TaskInv (q.finish outcome) := by
    refine inv.finish advances outcome fun task awaited running => .inr ?_
    rw [awaits, List.mem_singleton] at awaited
    subst awaited
    rcases done with timeout | ended
    · exact .inl (registers timeout)
    · rw [ended] at running
      cases running
  unfold FrameProcess.eyeResumed
  extract_lets r
  have held : Advances p r ∧ (result = .error .timeout → .eye ∈ r.pending) := by
    unfold r
    split
    · exact ⟨.addPending, fun _ => mem_addPending.2 (.inl rfl)⟩
    · rename_i other
      exact ⟨.refl p, fun timeout => (other timeout).elim⟩
  have gaze (gaze : Except String GazePayload) (reason : Option String) : TaskInv (r.gazeResult gaze reason) := by
    unfold FrameProcess.gazeResult
    split
    · exact ends held.1 held.2 _
    · exact ends held.1 held.2 _
  split
  · unfold FrameProcess.calibrationResumed
    split
    · exact ends .addPending (fun _ => mem_addPending.2 (.inl rfl)) _
    · exact ends (.refl p) (fun timeout => by cases timeout) _
    · exact ends (.refl p) (fun timeout => by cases timeout) _
    · exact ends (.refl p) (fun timeout => by cases timeout) _
  · exact gaze _ _
  · exact gaze _ _

theorem TaskInv.resume (inv : TaskInv p) {timedOut : Bool}
    (mismatch : MismatchAfterEye p (.resume timedOut)) (h : p.resume timedOut = some q) : TaskInv q := by
  unfold FrameProcess.resume at h
  split at h
  · rename_i stage
    obtain ⟨result, awaited, rfl⟩ := Option.map_eq_some_iff.1 h
    refine inv.decodeResumed stage ((awaited_eq_some awaited).imp (·.2) fun ⟨_, done⟩ => ?_)
    unfold FrameProcess.running
    rw [done]
    rfl
  · rename_i stage
    obtain ⟨result, awaited, rfl⟩ := Option.map_eq_some_iff.1 h
    refine inv.workerResumed stage ((awaited_eq_some awaited).imp (·.2) (·.2))
      fun observation sample done found other received => ?_
    obtain ⟨-, timeout⟩ | ⟨rfl, -⟩ := awaited_eq_some awaited
    · exact absurd timeout received
    · exact mismatch rfl stage observation sample done found other
  · rename_i stage
    obtain ⟨result, awaited, rfl⟩ := Option.map_eq_some_iff.1 h
    refine inv.eyeResumed stage ((awaited_eq_some awaited).imp (·.2) fun ⟨_, done⟩ => ?_)
    unfold FrameProcess.running
    rw [done]
    rfl
  · cases h

/-- A callback of a task that is done keeps the invariant. -/
theorem TaskInv.discard (inv : TaskInv p) (running : q.running = p.running)
    (workerTask : q.workerTask = p.workerTask) (stage : q.stage = p.stage)
    (pending : ∀ other ∈ p.pending, other ≠ task → other ∈ q.pending) (done : p.running task = false)
    (adapter : task = .worker → p.running .adapter = true → .adapter ∈ q.pending) : TaskInv q where
  owned other still := by
    rw [running] at still
    rw [stage]
    refine (inv.owned other still).imp_right fun registered => ?_
    rcases registered with member | ⟨rfl, member⟩
    · refine .inl (pending other member ?_)
      rintro rfl
      rw [done] at still
      cases still
    · by_cases own : task = .worker
      · exact .inl (adapter own still)
      · exact .inr ⟨rfl, pending _ member (Ne.symm own)⟩
  early h := by
    rw [running]
    rw [stage] at h
    exact inv.early h
  handed still := by
    rw [running] at still
    rw [workerTask]
    exact inv.handed still

theorem not_running_of_isDone {α : Type} {state : TaskState α} (h : state.isDone = true) :
    state.isRunning = false := by
  cases state with
  | done result => rfl
  | absent => cases h
  | running => cases h

/-- `_finish_worker_frame` registers the adapter call that was handed over. -/
structure Finishes (p q : FrameProcess) (result : Except TaskError Observation) : Prop where
  running : q.running = p.running
  workerTask : q.workerTask = p.workerTask
  stage : q.stage = p.stage
  pending : ∀ task ∈ p.pending, task ∈ q.pending
  handed : ∀ observation, result = .ok observation → observation.adapterCompletion = true →
    .adapter ∈ q.pending

theorem finishWorkerFrame_finishes (result : Except TaskError Observation) :
    Finishes p (p.finishWorkerFrame result) result := by
  unfold FrameProcess.finishWorkerFrame
  split
  · rename_i observation
    have held : Finishes p (if observation.adapterCompletion then p.addPending .adapter else p)
        (.ok observation) := by
      split
      · have added : Advances p (p.addPending .adapter) := .addPending
        exact ⟨added.running, added.workerTask, addPending_stage, added.pending,
          fun _ _ _ => mem_addPending.2 (.inl rfl)⟩
      · rename_i without
        refine ⟨rfl, rfl, rfl, fun _ h => h, fun _ same completion => ?_⟩
        cases same
        exact absurd completion without
    dsimp only
    generalize (if observation.adapterCompletion then p.addPending .adapter else p) = q at held ⊢
    split
    · exact held
    · exact ⟨held.running, held.workerTask, held.stage, held.pending, held.handed⟩
  · exact ⟨rfl, rfl, rfl, fun _ h => h, nofun⟩

theorem TaskInv.callback (inv : TaskInv p) (h : p.callback task = some q) : TaskInv q := by
  have kept (other : TaskName) (member : other ∈ p.pending) (ne : other ≠ task) :
      other ∈ (p.discardPending task).pending := mem_discardPending.2 ⟨member, ne⟩
  have plain {r : FrameProcess} (same : r.running = p.running) (workerTask : r.workerTask = p.workerTask)
      (stage : r.stage = p.stage) (pending : r.pending = (p.discardPending task).pending)
      (done : p.running task = false) (own : task ≠ .worker) : TaskInv r :=
    inv.discard same workerTask stage (fun other member ne => pending ▸ kept other member ne) done
      fun same => absurd same own
  unfold FrameProcess.callback at h
  split at h
  · cases h
  dsimp only at h
  split at h
  · split at h
    · rename_i done
      cases h
      exact plain rfl rfl rfl rfl (by unfold FrameProcess.running; rw [done]; rfl) nofun
    · rename_i done
      cases h
      exact plain rfl rfl rfl rfl (by unfold FrameProcess.running; rw [done]; rfl) nofun
    · cases h
  · split at h
    · rename_i result done
      cases h
      have ended : p.running .worker = false := by
        unfold FrameProcess.running
        rw [done]
        rfl
      have finished := finishWorkerFrame_finishes (p := p.discardPending .worker) result
      refine inv.discard finished.running finished.workerTask finished.stage
        (fun other member ne => finished.pending other (kept other member ne)) ended fun _ running => ?_
      obtain ⟨observation, done', completion⟩ := inv.handed running
      rw [done] at done'
      cases done'
      exact finished.handed observation rfl completion
    · cases h
  · split at h
    · rename_i done
      cases h
      exact plain rfl rfl rfl rfl (not_running_of_isDone done) nofun
    · cases h
  · split at h
    · rename_i done
      cases h
      exact plain rfl rfl rfl rfl (not_running_of_isDone done) nofun
    · cases h

/-- What ends a task keeps the invariant. -/
theorem TaskInv.taskDone (inv : TaskInv p) (stage : q.stage = p.stage) (pending : q.pending = p.pending)
    (running : ∀ task, q.running task = true → p.running task = true ∨
      task = .adapter ∧ p.running .worker = true)
    (handed : q.running .adapter = true →
      ∃ observation, q.workerTask = .done (.ok observation) ∧ observation.adapterCompletion = true) :
    TaskInv q where
  owned task still := by
    unfold FrameProcess.Registered
    rw [stage, pending]
    rcases running task still with before | ⟨rfl, before⟩
    · exact inv.owned task before
    · rcases inv.owned .worker before with awaited | registered
      · refine .inl ?_
        revert awaited
        cases p.stage with
        | ended outcome => cases outcome <;> simp [ProcessStage.awaits]
        | _ => simp [ProcessStage.awaits]
      · exact .inr (.inr ⟨rfl, registered.resolve_right nofun⟩)
  early h := by
    rw [stage] at h
    obtain ⟨worker, adapter⟩ := inv.early h
    constructor
    · by_contra still
      rcases running .worker (Bool.not_eq_false _ ▸ still) with before | ⟨h, -⟩
      · rw [worker] at before
        cases before
      · cases h
    · by_contra still
      rcases running .adapter (Bool.not_eq_false _ ▸ still) with before | ⟨-, before⟩
      · rw [adapter] at before
        cases before
      · rw [worker] at before
        cases before
  handed := handed

theorem TaskInv.step {inferenceStarted : Bool} {step : ProcessStep} (inv : TaskInv p)
    (mismatch : MismatchAfterEye p step) (h : processStep inferenceStarted p step = some q) :
    TaskInv q := by
  cases step with
  | begin =>
    dsimp only [processStep] at h
    split at h
    · rename_i stage
      cases h
      exact inv.begin stage inferenceStarted
    · cases h
  | decodeDone result =>
    dsimp only [processStep] at h
    split_ifs at h
    cases h
    refine inv.taskDone rfl rfl (fun task still => ?_) inv.handed
    cases task with
    | decode => cases still
    | _ => exact .inl still
  | workerDone result =>
    dsimp only [processStep] at h
    split_ifs at h with runs
    cases h
    refine inv.taskDone rfl rfl (fun task still => ?_) fun still => ?_
    · cases task with
      | worker => cases still
      | adapter => exact .inr ⟨rfl, runs⟩
      | decode => exact .inl still
      | eye => exact .inl still
    · cases result with
      | error error => cases still
      | ok observation =>
        refine ⟨observation, rfl, ?_⟩
        by_contra without
        simp [FrameProcess.running, Observation.adapterOf, without, TaskState.isRunning] at still
  | eyeDone result =>
    dsimp only [processStep] at h
    split_ifs at h
    cases h
    refine inv.taskDone rfl rfl (fun task still => ?_) inv.handed
    cases task with
    | eye => cases still
    | _ => exact .inl still
  | adapterDone =>
    dsimp only [processStep] at h
    split_ifs at h
    cases h
    refine inv.taskDone rfl rfl (fun task still => ?_) fun still => nomatch still
    cases task with
    | adapter => cases still
    | _ => exact .inl still
  | resume timedOut => exact inv.resume mismatch h
  | callback task => exact inv.callback h

end

/-! ## The frames of a connection -/

/-- No observation of another frame is received while Eye reads the frame of it. -/
def InOrder (s : Connection) (step : ConnectionStep) : Prop :=
  ∀ j move p, step = .frame j move → s.frames[j]? = some p → MismatchAfterEye p move

section
variable {settings : Settings} {s t : Connection}

theorem tasks_step {step : ConnectionStep} (inv : ∀ p ∈ s.frames, TaskInv p) (inOrder : InOrder s step)
    (h : connectionStep settings s step = some t) : ∀ p ∈ t.frames, TaskInv p := by
  obtain ⟨quiet, -, -⟩ | ⟨j, move, p', q, rfl, processes⟩ | ⟨rateAt, acceptAt, -, before, rest⟩ :=
    connectionStep_cases h
  · rw [quiet.same.frames]
    exact inv
  · obtain ⟨found, moved, rfl⟩ := processes
    intro p member
    rcases List.mem_or_eq_of_mem_set member with member | rfl
    · exact inv p member
    · exact (inv p' (List.mem_of_getElem? found)).step (inOrder j move p' rfl found) moved
  · rcases rest with ⟨p', outcome, answers⟩ | ⟨p', raises⟩ | ⟨context, drops⟩ | ⟨metadata, accepts⟩
    · rw [answers.same.frames]
      exact inv
    · rw [raises.same.frames]
      exact inv
    · rw [drops.same.frames]
      exact inv
    · obtain ⟨acceptAt, rfl⟩ := accepts.result
      intro p member
      rcases List.mem_append.1 member with member | member
      · exact inv p member
      · rw [List.mem_singleton.1 member]
        refine ⟨fun task running => ?_, fun _ => ⟨rfl, rfl⟩, fun running => nomatch running⟩
        cases task <;> cases running

/-- A frame whose coroutine has its outcome has registered whatever still runs. -/
theorem registered_of_settled {p : FrameProcess} (inv : TaskInv p) (settled : p.settled)
    (task : TaskName) (running : p.running task = true) : p.Registered task := by
  obtain ⟨outcome, ended⟩ := settled
  refine (inv.owned task running).resolve_left ?_
  rw [ended]
  exact List.not_mem_nil

/-- When a new frame is accepted no task of an earlier one is running. -/
theorem idle_of_accepts {metadata : FrameMetadata} (frames : SettledInv s)
    (inv : ∀ p ∈ s.frames, TaskInv p) (working : s.stage.isFinished = false)
    (accepts : Accepts settings s t metadata) (p : FrameProcess) (member : p ∈ s.frames)
    (task : TaskName) : p.running task = false := by
  obtain ⟨i, found⟩ := List.getElem?_of_mem member
  have settled : p.settled := frames.settled working i p found (by rw [accepts.idle]; exact nofun)
  have empty : p.pending = [] := by
    have none := accepts.noWork
    unfold Connection.hasPendingWork at none
    have := List.any_eq_false.1 none p member
    simpa using this
  by_contra running
  rcases registered_of_settled (inv p member) settled task (by simpa using running) with h | ⟨-, h⟩
  · rw [empty] at h
    cases h
  · rw [empty] at h
    cases h

end

/-- **Backpressure.** In every run in which no observation of another frame is received while Eye reads
the frame of it, each running task of a frame that has its outcome is registered, and when a new frame
is accepted no task of an earlier one is running. -/
theorem backpressure {settings : Settings} {ls : List ConnectionStep} {s : Connection}
    (run : Steps (connectionStep settings) InOrder settings.start ls s) :
    (∀ p ∈ s.frames, p.settled → ∀ task, p.running task = true → p.Registered task) ∧
    ∀ step t, connectionStep settings s step = some t → s.frames.length < t.frames.length →
      ∀ p ∈ s.frames, ∀ task, p.running task = false := by
  have inv : SettledInv s ∧ ∀ p ∈ s.frames, TaskInv p := by
    refine run.invariant (P := fun s => SettledInv s ∧ ∀ p ∈ s.frames, TaskInv p)
      (fun u step v ⟨frames, tasks⟩ inOrder h => ⟨frames.step h, tasks_step tasks inOrder h⟩) ⟨.start, ?_⟩
    intro p member
    cases member
  refine ⟨fun p member settled task running =>
    registered_of_settled (inv.2 p member) settled task running, fun step t h grows p member task => ?_⟩
  obtain ⟨quiet, -, -⟩ | ⟨j, move, p', q, -, processes⟩ | ⟨rateAt, acceptAt, -, working, rest⟩ :=
    connectionStep_cases h
  · rw [quiet.same.frames] at grows
    exact absurd grows (lt_irrefl _)
  · rw [processes.result] at grows
    simp at grows
  · rcases rest with ⟨p', outcome, answers⟩ | ⟨p', raises⟩ | ⟨context, drops⟩ | ⟨metadata, accepts⟩
    · rw [answers.same.frames] at grows
      exact absurd grows (lt_irrefl _)
    · rw [raises.same.frames] at grows
      exact absurd grows (lt_irrefl _)
    · rw [drops.same.frames] at grows
      exact absurd grows (lt_irrefl _)
    · exact idle_of_accepts inv.1 inv.2 working accepts p member task

/-! ## A run -/

def faceSettings : Settings := visitorSettings true

/-- The frame at a place is decoded and observed by the Face worker as the frame of this context. -/
def observedAs (j : ℕ) (context : StreamFrameContext) : List ConnectionStep :=
  [.frame j .begin, .frame j (.decodeDone (.ok ())), .frame j (.resume false),
    .frame j (.workerDone (.ok
      { sample := some { context, reason := none }
        frameCleanupDeferred := false
        adapterCompletion := false })), .frame j (.resume false)]

/-- The observation that is received is that of the frame. -/
def ownObservation (s : Connection) : ConnectionStep → Bool
  | .frame j (.resume false) =>
    s.frames[j]?.all fun p =>
      match p.workerTask with
      | .done (.ok observation) => observation.sample.all (·.context = p.context)
      | _ => true
  | _ => true

theorem inOrder_of_ownObservation {s : Connection} {step : ConnectionStep}
    (h : ownObservation s step = true) : InOrder s step := by
  rintro j move p rfl found rfl stage observation sample done seen other
  simp only [ownObservation, found, Option.all_some, done, seen, decide_eq_true_eq] at h
  exact absurd h other

/-- A frame is accepted when the result of the one before was sent. -/
theorem backpressure_accepted : ∃ ls s t, Steps (connectionStep faceSettings) InOrder
    faceSettings.start ls s ∧ connectionStep faceSettings s (.handle 2 2) = some t ∧
    s.frames.length = 1 ∧ t.frames.length = 2 ∧
    (∀ p ∈ s.frames, p.settled → ∀ task, p.running task = true → p.Registered task) ∧
    ∀ p ∈ s.frames, ∀ task, p.running task = false := by
  have reached : ∃ s, Steps (connectionStep faceSettings) InOrder faceSettings.start
      (controlArrives .startInference 0 ++ frameArrives 1 1 ++ observedAs 0 (contextOf 1) ++
        [.frame 0 (.eyeDone (.error .other)), .frame 0 (.resume false), .wake, .handle 1 1,
          .receive (.binary (.ok (frameOf (contextOf 2) none))), .wake]) s ∧
      ((connectionStep faceSettings s (.handle 2 2)).any fun t =>
        s.frames.length == 1 && t.frames.length == 2) = true :=
    exists_guarded_steps_of_any ownObservation (fun _ _ => inOrder_of_ownObservation)
      (by decide +kernel)
  obtain ⟨s, run, accepted⟩ := reached
  obtain ⟨t, h, lengths⟩ := (Option.any_eq_true _ _).1 accepted
  simp only [Bool.and_eq_true, beq_iff_eq] at lengths
  obtain ⟨registered, idle⟩ := backpressure run
  exact ⟨_, s, t, run, h, lengths.1, lengths.2, registered, idle _ t h (by omega)⟩

/-- The Face worker observes another frame while Eye reads this one: the frame is answered with an
error, and the next one is accepted while Eye still reads. -/
theorem accepted_while_eye_runs : ¬ ∀ (settings : Settings) ls s,
    Steps (connectionStep settings) Free settings.start ls s →
    (∀ p ∈ s.frames, p.settled → ∀ task, p.running task = true → p.Registered task) ∧
    ∀ step t, connectionStep settings s step = some t → s.frames.length < t.frames.length →
      ∀ p ∈ s.frames, ∀ task, p.running task = false := by
  intro claim
  have reached : ∃ s, Steps (connectionStep faceSettings) Free faceSettings.start
      (controlArrives .startInference 0 ++ frameArrives 1 1 ++ observedAs 0 (contextOf 7) ++
        [.wake, .handle 1 1, .receive (.binary (.ok (frameOf (contextOf 2) none))), .wake]) s ∧
      ((connectionStep faceSettings s (.handle 2 2)).any fun t =>
        decide (s.frames.length < t.frames.length) && s.frames.any (·.running .eye)) = true :=
    exists_steps_of_any (by decide +kernel)
  obtain ⟨s, run, accepted⟩ := reached
  obtain ⟨t, h, busy⟩ := (Option.any_eq_true _ _).1 accepted
  simp only [Bool.and_eq_true, decide_eq_true_eq, List.any_eq_true] at busy
  obtain ⟨grows, p, member, running⟩ := busy
  rw [(claim faceSettings _ s run).2 _ t h grows p member .eye] at running
  cases running

end Mkk.Gateway
