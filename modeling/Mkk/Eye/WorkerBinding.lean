import Mkk.Eye.Worker

/-!
# Whose calibration answers for a frame

The runtime checks the session of a frame when the call reads the state, and uses the adapter in a
later section; a legacy calibration does not check the session at all. `gaze_of_own_calibration` is
what holds when no calibration enters the adapter before a waiting call of another session, and no
frame of another session reaches a legacy calibration.
-/

namespace Mkk.Eye

open Lib

/-! ## Ownership -/

/-- The calibration was run for the session and the video of the frame. -/
def RunFor (calibrations : List Calibration) (number : ℕ) (frame : StreamFrameContext) : Prop :=
  ∃ c, calibrations[number]? = some c ∧ c.binding = frame.binding

/-- The sample is of a calibration of the frame's session, and so is every frame its model was
fitted on. -/
def SampleFor (calibrations : List Calibration) (frame : StreamFrameContext) (sample : GazeSample) :
    Prop :=
  RunFor calibrations sample.calibration frame ∧
    ∀ f ∈ sample.fittedOn, RunFor calibrations sample.calibration f

section
variable {calibrations more : List Calibration} {number : ℕ} {frame : StreamFrameContext}

theorem RunFor.grow (h : RunFor calibrations number frame) :
    RunFor (calibrations ++ more) number frame := by
  obtain ⟨c, hc, own⟩ := h
  exact ⟨c, List.getElem?_append_left (List.getElem?_eq_some_iff.1 hc).1 ▸ hc, own⟩

theorem SampleFor.grow {sample : GazeSample} (h : SampleFor calibrations frame sample) :
    SampleFor (calibrations ++ more) frame sample :=
  ⟨h.1.grow, fun f hf => (h.2 f hf).grow⟩

end

/-- What the adapter holds belongs to the calibration it answers for. -/
def AdapterFor (calibrations : List Calibration) (a : EyeTraxAdapter) : Prop :=
  ∀ id n, a.calibration = some (id, n) →
    (a.calibrated = true → ∀ f ∈ a.fittedOn, RunFor calibrations n f) ∧
    ∀ key sample, a.sampleCache.get? key = some sample →
      sample.calibration = n ∧ ∀ f ∈ sample.fittedOn, RunFor calibrations n f

section
variable {calibrations more : List Calibration} {a a' : EyeTraxAdapter}

theorem AdapterFor.grow (h : AdapterFor calibrations a) : AdapterFor (calibrations ++ more) a := by
  intro id n hn
  obtain ⟨fitted, cached⟩ := h id n hn
  refine ⟨fun done f hf => (fitted done f hf).grow, fun key sample hs => ?_⟩
  obtain ⟨same, frames⟩ := cached key sample hs
  exact ⟨same, fun f hf => (frames f hf).grow⟩

theorem AdapterFor.of_none (h : a.calibration = none) : AdapterFor calibrations a := by
  intro id n hn
  rw [h] at hn
  cases hn

theorem AdapterFor.start (id : String) (number : ℕ) :
    AdapterFor calibrations (a.startCalibration id number) := by
  intro id' n hn
  refine ⟨fun done => ?_, fun key sample hs => ?_⟩
  · cases done
  · cases hs

theorem AdapterFor.finish (h : AdapterFor calibrations a) {id : String} {number : ℕ}
    (answers : a.calibration = some (id, number)) {taken : List StreamFrameContext}
    (own : ∀ f ∈ taken, RunFor calibrations number f) (synchronized valid : Bool) :
    AdapterFor calibrations (a.endCalibration synchronized valid taken) := by
  obtain ⟨-, cached⟩ := h id number answers
  cases valid with
  | true =>
    intro id' n hn
    change a.calibration = some (id', n) at hn
    rw [answers] at hn
    cases hn
    exact ⟨fun _ => own, cached⟩
  | false =>
    cases synchronized with
    | true => exact .of_none rfl
    | false =>
      intro id' n hn
      change a.calibration = some (id', n) at hn
      rw [answers] at hn
      cases hn
      exact ⟨fun _ => List.forall_mem_nil _, cached⟩

theorem endCalibration_disposed (synchronized valid : Bool) (taken : List StreamFrameContext) :
    (a.endCalibration synchronized valid taken).disposed = a.disposed := by
  unfold EyeTraxAdapter.endCalibration
  split <;> rfl

/-- The end of a calibration clears the id or leaves it. -/
theorem endCalibration_calibration {synchronized valid : Bool} {taken : List StreamFrameContext}
    {answers : String × ℕ} (h : (a.endCalibration synchronized valid taken).calibration = some answers) :
    a.calibration = some answers := by
  cases valid with
  | true => exact h
  | false =>
    cases synchronized with
    | true => cases h
    | false => exact h

theorem discardCalibration_none (h : a.discardCalibration = some a') :
    a'.calibration = none ∧ a'.disposed = a.disposed := by
  unfold EyeTraxAdapter.discardCalibration at h
  split at h
  · cases h
  · cases h
    exact ⟨rfl, rfl⟩

/-- A cached sample is the new one or was cached before. -/
theorem get?_cacheSample {sample sample' : GazeSample} {key : String × StreamFrameContext}
    (h : (a.cacheSample sample).2.sampleCache.get? key = some sample') :
    sample' = sample ∨ a.sampleCache.get? key = some sample' := by
  have stored : (a.sampleCache.set (sample.calibrationId, sample.context) sample).get? key =
      some sample' := by
    unfold EyeTraxAdapter.cacheSample at h
    dsimp only at h
    split at h
    · exact h
    · split_ifs at h
      · rw [Dict.get?_pop] at h
        split_ifs at h
        exact h
      · exact h
  by_cases same : key = (sample.calibrationId, sample.context)
  · subst same
    rw [Dict.get?_set_self] at stored
    exact .inl (Option.some.inj stored).symm
  · rw [Dict.get?_set_ne _ same] at stored
    exact .inr stored

theorem AdapterFor.cacheSample (h : AdapterFor calibrations a) {id : String} {n : ℕ}
    (answers : a.calibration = some (id, n)) {sample : GazeSample} (same : sample.calibration = n)
    (own : ∀ f ∈ sample.fittedOn, RunFor calibrations n f) :
    AdapterFor calibrations (a.cacheSample sample).2 := by
  obtain ⟨fitted, cached⟩ := h id n answers
  intro id' n' hn
  change a.calibration = some (id', n') at hn
  rw [answers] at hn
  cases hn
  refine ⟨fitted, fun key sample' hs => ?_⟩
  rcases get?_cacheSample hs with rfl | old
  · exact ⟨same, own⟩
  · exact cached key sample' old

theorem AdapterFor.enterStream (h : AdapterFor calibrations a) (frame : StreamFrameContext) :
    AdapterFor calibrations (a.enterStream frame) ∧
      (a.enterStream frame).calibration = a.calibration ∧
      (a.enterStream frame).disposed = a.disposed := by
  unfold EyeTraxAdapter.enterStream
  dsimp only
  split_ifs
  · exact ⟨h, rfl, rfl⟩
  · refine ⟨fun id n hn => ⟨(h id n hn).1, fun key sample hs => ?_⟩, rfl, rfl⟩
    cases hs

/-- What a call of the adapter gives: a sample of the calibration the adapter answers for. -/
structure Answers (calibrations : List Calibration) (a : EyeTraxAdapter)
    (result : GazeSample × EyeTraxAdapter) : Prop where
  calibration : result.2.calibration = a.calibration
  disposed : result.2.disposed = a.disposed
  adapter : AdapterFor calibrations result.2
  sample : ∃ id n, a.calibration = some (id, n) ∧ result.1.calibration = n ∧
    ∀ f ∈ result.1.fittedOn, RunFor calibrations n f

theorem AdapterFor.answer (h : AdapterFor calibrations a) {id : String} {n : ℕ}
    (answers : a.calibration = some (id, n)) {sample : GazeSample} (same : sample.calibration = n)
    (own : ∀ f ∈ sample.fittedOn, RunFor calibrations n f) :
    Answers calibrations a (a.cacheSample sample) where
  calibration := rfl
  disposed := rfl
  adapter := h.cacheSample answers same own
  sample := ⟨id, n, answers, same, own⟩

/-- An adapter that answers for the same calibration gives the same kind of answer. -/
theorem Answers.of_same {result : GazeSample × EyeTraxAdapter} (h : Answers calibrations a' result)
    (calibration : a'.calibration = a.calibration) (disposed : a'.disposed = a.disposed) :
    Answers calibrations a result := by
  obtain ⟨id, n, answers, rest⟩ := h.sample
  exact ⟨h.calibration.trans calibration, h.disposed.trans disposed, h.adapter,
    id, n, calibration ▸ answers, rest⟩

/-- The sample read from a picture is of the model the adapter holds. -/
theorem readSample_own (h : AdapterFor calibrations a) {id : String} {n : ℕ}
    (answers : a.calibration = some (id, n)) (done : a.calibrated = true)
    (frame : StreamFrameContext) (reading : Reading) :
    (a.readSample (id, n) frame reading).calibration = n ∧
      ∀ f ∈ (a.readSample (id, n) frame reading).fittedOn, RunFor calibrations n f := by
  cases reading with
  | noFace => exact ⟨rfl, List.forall_mem_nil _⟩
  | blink => exact ⟨rfl, List.forall_mem_nil _⟩
  | refused reason => exact ⟨rfl, List.forall_mem_nil _⟩
  | error => exact ⟨rfl, List.forall_mem_nil _⟩
  | point x y => exact ⟨rfl, (h id n answers).1 done⟩

theorem infer_answers (h : AdapterFor calibrations a) {frame : StreamFrameContext} {reading : Reading}
    {result : GazeSample × EyeTraxAdapter} (hr : a.infer frame reading = some result) :
    Answers calibrations a result := by
  unfold EyeTraxAdapter.infer at hr
  split at hr
  · cases hr
  · split at hr
    · cases hr
    · rename_i calibration answers
      obtain ⟨id, n⟩ := calibration
      split at hr
      · rename_i sample hcached
        cases hr
        obtain ⟨same, own⟩ := (h id n answers).2 _ _ hcached
        exact ⟨rfl, rfl, h, id, n, answers, same, own⟩
      · obtain ⟨own, calibration, disposed⟩ := h.enterStream frame
        have entered := calibration.trans answers
        have invalid {b : EyeTraxAdapter} (own : AdapterFor calibrations b)
            (entered : b.calibration = some (id, n)) (reason : String) :
            Answers calibrations b (b.cacheSample (EyeTraxAdapter.invalidSample (id, n) frame reason)) :=
          own.answer entered rfl (List.forall_mem_nil _)
        dsimp only at hr
        split at hr
        · cases hr
          exact (invalid own entered _).of_same calibration disposed
        · -- the frame becomes the last one of its stream
          have own' : AdapterFor calibrations { a.enterStream frame with
              lastOrder := some (frame.capturedAtMonoMs, frame.sequence) } := own
          split at hr
          · cases hr
            exact (invalid own' entered _).of_same calibration disposed
          · rename_i fitted
            cases hr
            simp only [Bool.or_eq_true, Bool.not_eq_true', not_or, Bool.not_eq_false] at fitted
            obtain ⟨same, frames⟩ := readSample_own own' entered fitted.2 frame reading
            exact (own'.answer entered same frames).of_same calibration disposed

end

/-! ## The runtime -/

/-- What a waiting `infer` call holds: the binding of the calibration whose queue it read, a queue of
its own session, or a check the adapter still meets. -/
def CallFor (calibrations : List Calibration) (a : EyeTraxAdapter) (call : InferCall) : Prop :=
  match call.stage with
  | .accept queue binding => ∃ c, calibrations[queue]? = some c ∧ binding = some c.binding
  | .enqueue queue => RunFor calibrations queue call.frame
  | .predict => ∀ id n, a.calibration = some (id, n) → RunFor calibrations n call.frame

/-- What the stage of a calibration says of the adapter. -/
def StageFor (calibrations : List Calibration) (a : EyeTraxAdapter) (c : CalibrationCall) : Prop :=
  match c.stage with
  | .begun => True
  | .running taken => (∃ id, a.calibration = some (id, c.number)) ∧
      ∀ f ∈ taken, RunFor calibrations c.number f
  | .left valid => valid = true → ∀ id n, a.calibration = some (id, n) → n = c.number

/-- A queue of the runtime is that of the calibration in progress, for its session. -/
def QueueFor (s : EyeWorkerRuntime) (queue : ℕ × List StreamFrameContext) : Prop :=
  (∃ c, s.calibrating = some c ∧ c.number = queue.1 ∧ s.binding = some c.calibration.binding) ∧
    ∀ f ∈ queue.2, RunFor s.calibrations queue.1 f

/-- Every queued frame belongs to the calibration of its queue. -/
def QueuesOwn (s : EyeWorkerRuntime) : Prop :=
  ∀ e ∈ s.queued, RunFor s.calibrations e.1 e.2

/-- Every sample that was returned is of a calibration of the frame's session. -/
def SamplesOwn (s : EyeWorkerRuntime) : Prop :=
  ∀ e ∈ s.replies, ∀ sample, e.2.gazeSample = some sample → SampleFor s.calibrations e.1 sample

structure WorkerInv (s : EyeWorkerRuntime) : Prop where
  known : ∀ c, s.calibrating = some c → s.calibrations[c.number]? = some c.calibration
  stage : ∀ c, s.calibrating = some c → StageFor s.calibrations s.adapter c
  bound : ∀ c, s.calibrating = some c →
    s.binding = none ∨ s.binding = some c.calibration.binding
  busy : s.calibrating ≠ none → s.calibratedBinding = none
  idle : s.ready = true → s.calibrationQueue = none → s.calibrating = none
  shut : s.ready = false → s.calibrationQueue = none
  disposed : s.adapter.disposed = true → s.ready = false
  queue : ∀ q, s.calibrationQueue = some q → QueueFor s q
  adapter : AdapterFor s.calibrations s.adapter
  fitted : ∀ b, s.calibratedBinding = some b → ∀ id n, s.adapter.calibration = some (id, n) →
    ∃ c, s.calibrations[n]? = some c ∧ c.binding = b
  inferring : ∀ call ∈ s.inferring, CallFor s.calibrations s.adapter call
  queued : QueuesOwn s
  samples : SamplesOwn s

/-- A calibration enters the adapter when no call of another session that has passed its check waits
for it, and a frame reaches a legacy calibration from its own session only. -/
def Separate (s : EyeWorkerRuntime) : EyeWorkerStep → Prop
  | .enter => ∀ c, s.calibrating = some c → ∀ call ∈ s.inferring, call.stage = .predict →
      c.calibration.binding = call.frame.binding
  | .infer frame => s.calibrationQueue ≠ none → s.synchronizedSource = none →
      s.binding = some frame.binding
  | _ => True

section
variable {s t : EyeWorkerRuntime} {frame : StreamFrameContext}

theorem WorkerInv.start (loaded : Bool) : WorkerInv (EyeWorkerRuntime.start loaded) where
  known _ h := nomatch h
  stage _ h := nomatch h
  bound _ h := nomatch h
  busy h := absurd rfl h
  idle _ _ := rfl
  shut _ := rfl
  disposed h := nomatch h
  queue _ h := nomatch h
  adapter := .of_none rfl
  fitted _ h := nomatch h
  inferring := List.forall_mem_nil _
  queued := List.forall_mem_nil _
  samples := List.forall_mem_nil _

/-- An answer without a sample changes nothing else. -/
theorem WorkerInv.answer (inv : WorkerInv s) (frame : StreamFrameContext) (reason : String) :
    WorkerInv (s.answer frame reason) :=
  { inv with
    samples := by
      intro e he sample hs
      rcases List.mem_append.1 he with old | new
      · exact inv.samples e old sample hs
      · rw [List.mem_singleton.1 new] at hs
        cases hs }

/-- A call that ends. -/
theorem WorkerInv.drop (inv : WorkerInv s) (i : ℕ) :
    WorkerInv { s with inferring := s.inferring.eraseIdx i } :=
  { inv with inferring := fun call h => inv.inferring call (List.mem_of_mem_eraseIdx h) }

/-- What the first section of a calibration changes. -/
theorem beginCalibration_spec {payload : CalibrationPayload}
    (h : s.beginCalibration payload = .ok t) :
    s.ready = true ∧ s.calibrationQueue = none ∧ ∃ calibration : Calibration, ∃ source,
      calibration.binding = payload.binding ∧
      t = { s with
        calibrated := false
        inferenceReady := false
        calibratedBinding := none
        calibrationId := some calibration.calibrationId
        calibrationCancel := false
        calibrationQueue := some (s.calibrations.length, [])
        binding := some payload.binding
        summaryBinding := some payload.binding
        lastCalibrationSequence := -1
        synchronizedSource := source
        calibrating := some { number := s.calibrations.length, calibration, stage := .begun }
        calibrations := s.calibrations ++ [calibration] } := by
  unfold EyeWorkerRuntime.beginCalibration at h
  cases checked : payload.checked with
  | error reason =>
    rw [checked] at h
    cases h
  | ok result =>
    obtain ⟨calibrationId, synchronized⟩ := result
    rw [checked] at h
    simp only [bind, Except.bind] at h
    split at h
    · cases h
    · rename_i available
      split at h
      · cases h
      · rename_i unused
        cases h
        simp only [Bool.or_eq_true, Bool.not_eq_true', not_or, Bool.not_eq_false] at available
        exact ⟨available.1, Option.not_isSome_iff_eq_none.1 unused, ⟨calibrationId, synchronized,
          payload.binding⟩, _, rfl, rfl⟩

theorem WorkerInv.begin (inv : WorkerInv s) {payload : CalibrationPayload}
    (h : s.beginCalibration payload = .ok t) : WorkerInv t := by
  obtain ⟨ready, unused, calibration, source, binding, rfl⟩ := beginCalibration_spec h
  have last : (s.calibrations ++ [calibration])[s.calibrations.length]? = some calibration :=
    List.getElem?_concat_length
  exact {
    known := by
      intro c hc
      cases hc
      exact last
    stage := by
      intro c hc
      cases hc
      trivial
    bound := by
      intro c hc
      cases hc
      exact .inr (congrArg some binding.symm)
    busy := fun _ => rfl
    idle := by
      intro _ h
      cases h
    shut := by
      intro closed
      rw [ready] at closed
      cases closed
    disposed := inv.disposed
    queue := by
      intro q hq
      cases hq
      exact ⟨⟨_, rfl, rfl, congrArg some binding.symm⟩, List.forall_mem_nil _⟩
    adapter := inv.adapter.grow
    fitted := by
      intro b hb
      cases hb
    inferring := by
      intro call hcall
      have old := inv.inferring call hcall
      unfold CallFor at old ⊢
      split at old
      · obtain ⟨c, hc, same⟩ := old
        exact ⟨c, List.getElem?_append_left (List.getElem?_eq_some_iff.1 hc).1 ▸ hc, same⟩
      · exact old.grow
      · exact fun id n answers => (old id n answers).grow
    queued := fun e he => (inv.queued e he).grow
    samples := fun e he sample hs => (inv.samples e he sample hs).grow }

/-- The calibration in progress changes its stage. -/
theorem WorkerInv.restage (inv : WorkerInv s) {c : CalibrationCall} (hc : s.calibrating = some c)
    {stage : CalibrationStage} (own : StageFor s.calibrations s.adapter { c with stage }) :
    WorkerInv { s with calibrating := some { c with stage } } := by
  refine { inv with known := ?_, stage := ?_, bound := ?_, busy := ?_, idle := ?_, queue := ?_ }
  · intro c' hc'
    cases hc'
    exact inv.known c hc
  · intro c' hc'
    cases hc'
    exact own
  · intro c' hc'
    cases hc'
    exact inv.bound c hc
  · intro _
    exact inv.busy (by rw [hc]; exact Option.some_ne_none _)
  · intro ready unused
    have := inv.idle ready unused
    rw [hc] at this
    cases this
  · intro q hq
    obtain ⟨⟨c₁, hc₁, same, bound⟩, frames⟩ := inv.queue q hq
    rw [hc] at hc₁
    cases hc₁
    exact ⟨⟨_, rfl, same, bound⟩, frames⟩

/-- The queue loses pictures. -/
theorem WorkerInv.requeue (inv : WorkerInv s) {number : ℕ} {frames kept : List StreamFrameContext}
    (hqueue : s.calibrationQueue = some (number, frames)) (sub : ∀ f ∈ kept, f ∈ frames) :
    WorkerInv { s with calibrationQueue := some (number, kept) } := by
  obtain ⟨current, own⟩ := inv.queue _ hqueue
  refine { inv with idle := ?_, shut := ?_, queue := ?_ }
  · intro _ h
    cases h
  · intro closed
    rw [inv.shut closed] at hqueue
    cases hqueue
  · intro q hq
    cases hq
    exact ⟨current, fun f hf => own f (sub f hf)⟩

/-- **A calibration enters the adapter** when no call of another session that has passed its check
waits for it. -/
theorem WorkerInv.enter (inv : WorkerInv s) {c : CalibrationCall} (hc : s.calibrating = some c)
    (before : c.stage = .begun) (guard : Separate s .enter) : WorkerInv (s.enterCalibration c) := by
  unfold EyeWorkerRuntime.enterCalibration
  split
  · exact inv.restage hc fun h => nomatch h
  · have entered : WorkerInv { s with
        adapter := s.adapter.startCalibration c.calibration.calibrationId c.number } := by
      refine { inv with
        stage := ?_, disposed := inv.disposed, adapter := .start _ _, fitted := ?_, inferring := ?_ }
      · intro c' hc'
        obtain rfl : c = c' := Option.some.inj (hc.symm.trans hc')
        unfold StageFor
        rw [before]
        trivial
      · intro b hb
        rw [inv.busy (by rw [hc]; exact Option.some_ne_none _)] at hb
        cases hb
      · intro call hcall
        have old := inv.inferring call hcall
        obtain ⟨frame, stage⟩ := call
        cases stage with
        | accept queue binding => exact old
        | enqueue queue => exact old
        | predict =>
          intro id n answers
          cases answers
          exact ⟨c.calibration, inv.known c hc, guard c hc _ hcall rfl⟩
    exact entered.restage hc ⟨⟨_, rfl⟩, List.forall_mem_nil _⟩

theorem WorkerInv.take (inv : WorkerInv s) {c : CalibrationCall} {taken : List StreamFrameContext}
    (hc : s.calibrating = some c) (running : c.stage = .running taken)
    (h : s.takeFrame c taken = some t) : WorkerInv t := by
  have own := inv.stage c hc
  unfold StageFor at own
  rw [running] at own
  unfold EyeWorkerRuntime.takeFrame at h
  split at h
  · rename_i number frame rest hqueue
    split_ifs at h with same
    cases h
    refine (inv.requeue hqueue fun f hf => List.mem_cons_of_mem _ hf).restage hc ⟨own.1, ?_⟩
    intro f hf
    rcases List.mem_append.1 hf with old | new
    · exact own.2 f old
    · rw [List.mem_singleton.1 new]
      exact same ▸ (inv.queue _ hqueue).2 frame List.mem_cons_self
  · cases h

theorem WorkerInv.leave (inv : WorkerInv s) {c : CalibrationCall} {taken : List StreamFrameContext}
    (hc : s.calibrating = some c) (running : c.stage = .running taken) (valid : Bool) :
    WorkerInv (s.leaveCalibration c taken valid) := by
  have own := inv.stage c hc
  unfold StageFor at own
  rw [running] at own
  obtain ⟨⟨id, answers⟩, frames⟩ := own
  have drained : WorkerInv { s with
      calibrationQueue :=
        if c.calibration.synchronized then s.calibrationQueue.map fun queue => (queue.1, [])
        else s.calibrationQueue } := by
    cases hqueue : s.calibrationQueue with
    | none =>
      rw [Option.map_none, ite_self, ← hqueue]
      exact inv
    | some q =>
      obtain ⟨number, queued⟩ := q
      split_ifs
      · exact inv.requeue hqueue fun f hf => by cases hf
      · rw [← hqueue]
        exact inv
  have ends : StageFor s.calibrations s.adapter { c with stage := .left valid } := by
    intro _ id' n h
    rw [answers] at h
    cases h
    rfl
  have left := drained.restage hc ends
  exact { left with
    stage := by
      intro c' hc'
      cases hc'
      exact fun done id' n h => left.stage _ rfl done id' n (endCalibration_calibration h)
    disposed := fun h => inv.disposed ((endCalibration_disposed _ _ _).symm.trans h)
    adapter := inv.adapter.finish answers frames _ _
    fitted := fun b hb id' n h => inv.fitted b hb id' n (endCalibration_calibration h)
    inferring := by
      intro call hcall
      have old := inv.inferring call hcall
      unfold CallFor at old ⊢
      split at old
      · exact old
      · exact old
      · exact fun id' n h => old id' n (endCalibration_calibration h) }

/-- An adapter that answers for no calibration. -/
theorem WorkerInv.discard (inv : WorkerInv s) {a : EyeTraxAdapter} (none : a.calibration = none)
    (idle : ∀ c taken, s.calibrating = some c → c.stage ≠ .running taken)
    (disposed : a.disposed = true → s.ready = false) : WorkerInv { s with adapter := a } := by
  have nothing {P : Prop} {id : String} {n : ℕ} (h : a.calibration = some (id, n)) : P := by
    rw [none] at h
    cases h
  exact { inv with
    stage := by
      intro c hc
      unfold StageFor
      split
      · trivial
      · rename_i taken running
        exact absurd running (idle c taken hc)
      · exact fun _ id n h => nothing h
    disposed := disposed
    adapter := .of_none none
    fitted := fun b hb id n h => nothing h
    inferring := by
      intro call hcall
      have old := inv.inferring call hcall
      unfold CallFor at old ⊢
      split at old
      · exact old
      · exact old
      · exact fun id n h => nothing h }

/-- The calibration in progress is over, and its binding becomes that of the samples to come when it
is valid. -/
theorem WorkerInv.settle (inv : WorkerInv s) {c : CalibrationCall} {valid : Bool}
    (hc : s.calibrating = some c)
    (answers : valid = true → ∀ id n, s.adapter.calibration = some (id, n) → n = c.number)
    (calibrationId : Option String) :
    WorkerInv { s with
      calibrated := valid
      inferenceReady := valid
      calibrationId := calibrationId
      calibratedBinding := if valid then s.binding else none
      calibrationQueue := none
      synchronizedSource := none
      binding := none
      calibrating := none } where
  known _ h := nomatch h
  stage _ h := nomatch h
  bound _ h := nomatch h
  busy h := absurd rfl h
  idle _ _ := rfl
  shut _ := rfl
  disposed := inv.disposed
  queue _ h := nomatch h
  adapter := inv.adapter
  fitted := by
    intro b hb id n h
    dsimp only at hb
    split_ifs at hb with done
    obtain rfl := answers done id n h
    refine ⟨c.calibration, inv.known c hc, ?_⟩
    rcases inv.bound c hc with closed | bound
    · rw [closed] at hb
      cases hb
    · exact Option.some.inj (bound.symm.trans hb)
  inferring := inv.inferring
  queued := inv.queued
  samples := inv.samples

theorem WorkerInv.finish (inv : WorkerInv s) {c : CalibrationCall} {valid : Bool}
    (hc : s.calibrating = some c) (left : c.stage = .left valid) :
    WorkerInv (s.finishCalibration c valid) := by
  have own := inv.stage c hc
  unfold StageFor at own
  rw [left] at own
  have apart (c' : CalibrationCall) (taken : List StreamFrameContext) (hc' : s.calibrating = some c') :
      c'.stage ≠ .running taken := by
    obtain rfl : c = c' := Option.some.inj (hc.symm.trans hc')
    rw [left]
    exact fun h => nomatch h
  unfold EyeWorkerRuntime.finishCalibration
  dsimp only
  cases done : valid && !s.calibrationCancel with
  | true =>
    exact inv.settle hc (fun _ => own (Bool.and_eq_true_iff.1 done).1) _
  | false =>
    simp only [Bool.false_eq_true, if_false]
    cases hdiscard : s.adapter.discardCalibration with
    | none =>
      -- the adapter is disposed, so the runtime is closed
      have closed : s.ready = false := by
        refine inv.disposed ?_
        unfold EyeTraxAdapter.discardCalibration at hdiscard
        split at hdiscard
        · assumption
        · cases hdiscard
      exact { inv with
        known := fun _ h => nomatch h
        stage := fun _ h => nomatch h
        bound := fun _ h => nomatch h
        busy := fun h => absurd rfl h
        idle := fun _ _ => rfl
        queue := by
          intro q hq
          rw [inv.shut closed] at hq
          cases hq }
    | some a =>
      obtain ⟨none, disposed⟩ := discardCalibration_none hdiscard
      have discarded := inv.discard none apart fun h => inv.disposed (disposed ▸ h)
      have failed : false = true → ∀ id n, a.calibration = some (id, n) → n = c.number :=
        fun h => nomatch h
      exact discarded.settle hc failed _

theorem WorkerInv.infer (inv : WorkerInv s) (guard : Separate s (.infer frame)) :
    WorkerInv (s.inferSnapshot frame) := by
  have wait {call : InferCall} (own : CallFor s.calibrations s.adapter call) :
      WorkerInv { s with inferring := s.inferring ++ [call] } :=
    { inv with
      inferring := by
        intro other h
        rcases List.mem_append.1 h with old | new
        · exact inv.inferring other old
        · rw [List.mem_singleton.1 new]
          exact own }
  unfold EyeWorkerRuntime.inferSnapshot
  split
  · exact inv.answer _ _
  · split
    · rename_i number frames hqueue
      obtain ⟨⟨c, hc, same, bound⟩, -⟩ := inv.queue _ hqueue
      have known := same ▸ inv.known c hc
      dsimp only
      split_ifs with marked
      · exact wait ⟨c.calibration, known, bound⟩
      · have own := guard (by rw [hqueue]; exact Option.some_ne_none _)
          (Option.not_isSome_iff_eq_none.1 marked)
        refine wait ⟨c.calibration, known, ?_⟩
        rw [bound] at own
        exact Option.some.inj own
    · split_ifs with unready other
      · exact inv.answer _ _
      · exact inv.answer _ _
      · refine wait ?_
        intro id n answers
        obtain ⟨c, hc, own⟩ := inv.fitted _ (not_not.1 other) id n answers
        exact ⟨c, hc, own⟩

theorem WorkerInv.accept (inv : WorkerInv s) {i queue : ℕ} {binding : Option Binding}
    (hi : s.inferring[i]? = some ⟨frame, .accept queue binding⟩) :
    WorkerInv (s.admitFrame i frame queue binding) := by
  unfold EyeWorkerRuntime.admitFrame
  split_ifs with admitted
  · obtain ⟨c, hc, bound⟩ := inv.inferring _ (List.mem_of_getElem? hi)
    refine { inv with inferring := ?_ }
    intro call h
    rcases List.mem_or_eq_of_mem_set h with old | rfl
    · exact inv.inferring call old
    · refine ⟨c, hc, ?_⟩
      rw [admitted.2.1] at bound
      exact (Option.some.inj bound).symm
  · exact (inv.drop i).answer _ _

/-- A frame of its own session goes into the queue. -/
theorem WorkerInv.push (inv : WorkerInv s) {number : ℕ} {frames kept : List StreamFrameContext}
    (hqueue : s.calibrationQueue = some (number, frames)) (sub : ∀ f ∈ kept, f ∈ frames)
    (own : RunFor s.calibrations number frame) :
    WorkerInv { s with
      calibrationQueue := some (number, kept ++ [frame])
      queued := s.queued ++ [(number, frame)] } := by
  obtain ⟨current, frames_own⟩ := inv.queue _ hqueue
  refine { inv with shut := ?_, idle := ?_, queue := ?_, queued := ?_ }
  · intro _ h
    cases h
  · intro closed
    rw [inv.shut closed] at hqueue
    cases hqueue
  · intro q hq
    cases hq
    refine ⟨current, fun f hf => ?_⟩
    rcases List.mem_append.1 hf with old | new
    · exact frames_own f (sub f old)
    · rw [List.mem_singleton.1 new]
      exact own
  · intro e he
    rcases List.mem_append.1 he with old | new
    · exact inv.queued e old
    · rw [List.mem_singleton.1 new]
      exact own

theorem WorkerInv.enqueue (inv : WorkerInv s) {i queue : ℕ}
    (hi : s.inferring[i]? = some ⟨frame, .enqueue queue⟩) :
    WorkerInv (s.enqueueFrame i frame queue) := by
  have own : RunFor s.calibrations queue frame := inv.inferring _ (List.mem_of_getElem? hi)
  have dropped := inv.drop i
  unfold EyeWorkerRuntime.enqueueFrame
  dsimp only
  split
  · rename_i number frames hqueue
    by_cases same : number = queue
    · rw [if_pos same]
      refine (dropped.push hqueue (fun f hf => ?_) (same ▸ own)).answer _ _
      split_ifs at hf
      · exact List.mem_of_mem_tail hf
      · exact hf
    · rw [if_neg same]
      exact dropped.answer _ _
  · exact dropped.answer _ _

/-- **A sample is of the session its frame is from**: the check of the call still holds. -/
theorem WorkerInv.predict (inv : WorkerInv s) {i : ℕ} {reading : Reading}
    (hi : s.inferring[i]? = some ⟨frame, .predict⟩) :
    WorkerInv (s.predictGaze i frame reading) := by
  have own : ∀ id n, s.adapter.calibration = some (id, n) → RunFor s.calibrations n frame :=
    inv.inferring _ (List.mem_of_getElem? hi)
  have dropped := inv.drop i
  unfold EyeWorkerRuntime.predictGaze
  dsimp only
  split
  · exact dropped
  · rename_i sample adapter hsample
    obtain ⟨calibration, disposed, adapterFor, id, n, answers, same, frames⟩ :=
      infer_answers inv.adapter hsample
    dsimp only at calibration disposed adapterFor same frames
    have call (c : CalibrationCall) (h : StageFor s.calibrations s.adapter c) :
        StageFor s.calibrations adapter c := by
      unfold StageFor at h ⊢
      rw [calibration]
      exact h
    refine { dropped with
      stage := fun c hc => call c (inv.stage c hc)
      disposed := fun h => inv.disposed (disposed ▸ h)
      adapter := adapterFor
      fitted := fun b hb id n h => inv.fitted b hb id n (calibration ▸ h)
      inferring := ?_
      samples := ?_ }
    · intro other h
      have old := dropped.inferring other h
      unfold CallFor at old ⊢
      rw [calibration]
      exact old
    · intro e he sample' hs
      rcases List.mem_append.1 he with old | new
      · exact inv.samples e old sample' hs
      · rw [List.mem_singleton.1 new] at hs ⊢
        cases hs
        exact ⟨same ▸ own _ n answers, same ▸ frames⟩

theorem apart_of_free (free : s.adapterFree = true) (c : CalibrationCall)
    (taken : List StreamFrameContext) (hc : s.calibrating = some c) : c.stage ≠ .running taken := by
  intro running
  obtain ⟨number, calibration, stage⟩ := c
  cases running
  rw [EyeWorkerRuntime.adapterFree, hc] at free
  cases free

theorem WorkerInv.endSessionLocked (inv : WorkerInv s) (free : s.adapterFree = true) (i : ℕ)
    (binding : Binding) : WorkerInv (s.endSessionLocked i binding) := by
  unfold EyeWorkerRuntime.endSessionLocked
  dsimp only
  have called : WorkerInv { s with ending := s.ending.eraseIdx i } := { inv with }
  split
  · exact called
  · split
    · exact called
    · -- what is left of the adapter answers for no calibration, or it stays as it is
      have settled (a : EyeTraxAdapter) (after : WorkerInv { s with adapter := a }) :
          WorkerInv { s with
            ending := s.ending.eraseIdx i
            calibrated := false
            inferenceReady := false
            calibrationId := none
            calibratedBinding := none
            summaryBinding := none
            adapter := a } :=
        { after with busy := fun _ => rfl, fitted := fun b hb => nomatch hb }
      refine settled _ ?_
      split
      · cases hdiscard : s.adapter.discardCalibration with
        | none => exact inv
        | some a =>
          obtain ⟨none, disposed⟩ := discardCalibration_none hdiscard
          exact inv.discard none (apart_of_free free) fun h => inv.disposed (disposed ▸ h)
      · exact inv

theorem WorkerInv.closeLocked (inv : WorkerInv s) (free : s.adapterFree = true) :
    WorkerInv s.closeLocked := by
  have closed (a : EyeTraxAdapter)
      (after : WorkerInv { s with ready := false, adapter := a, calibrationQueue := none }) :
      WorkerInv { s with
        closing := s.closing - 1
        hasAdapter := false
        ready := false
        synchronizedSource := none
        binding := none
        calibratedBinding := none
        summaryBinding := none
        calibrated := false
        inferenceReady := false
        calibrationQueue := none
        adapter := a } :=
    { after with
      bound := fun _ _ => .inl rfl
      busy := fun _ => rfl
      queue := fun q hq => nomatch hq
      fitted := fun b hb => nomatch hb }
  have shut : WorkerInv { s with ready := false, calibrationQueue := none } :=
    { inv with
      idle := fun h => nomatch h
      shut := fun _ => rfl
      disposed := fun _ => rfl
      queue := fun q hq => nomatch hq }
  refine closed _ ?_
  split
  · exact shut.discard rfl (apart_of_free free) fun _ => rfl
  · exact shut

/-- **One step keeps the invariant.** -/
theorem WorkerInv.step (inv : WorkerInv s) {l : EyeWorkerStep} (guard : Separate s l)
    (h : eyeWorkerStep s l = some t) : WorkerInv t := by
  cases l with
  | begin payload =>
    simp only [eyeWorkerStep] at h
    split at h
    · cases h
      exact inv
    · rename_i begun
      cases h
      exact inv.begin begun
  | enter =>
    simp only [eyeWorkerStep] at h
    split at h
    · rename_i hc
      cases h
      exact inv.enter hc rfl guard
    · cases h
  | take =>
    simp only [eyeWorkerStep] at h
    split at h
    · rename_i hc
      exact inv.take hc rfl h
    · cases h
  | leave valid =>
    simp only [eyeWorkerStep] at h
    split at h
    · rename_i hc
      cases h
      exact inv.leave hc rfl valid
    · cases h
  | finish =>
    simp only [eyeWorkerStep] at h
    split at h
    · rename_i hc
      cases h
      exact inv.finish hc rfl
    · cases h
  | infer frame =>
    cases h
    exact inv.infer guard
  | accept i =>
    simp only [eyeWorkerStep] at h
    split at h
    · rename_i hi
      cases h
      exact inv.accept hi
    · cases h
  | enqueue i =>
    simp only [eyeWorkerStep] at h
    split at h
    · rename_i hi
      cases h
      exact inv.enqueue hi
    · cases h
  | predict i reading =>
    simp only [eyeWorkerStep] at h
    split at h
    · rename_i hi
      split_ifs at h
      cases h
      exact inv.predict hi
    · cases h
  | undecodable i =>
    obtain ⟨_, -, rfl⟩ := Option.map_eq_some_iff.1 h
    exact inv.drop i
  | endSession sessionId videoId =>
    cases h
    unfold EyeWorkerRuntime.endSession
    split
    · exact { inv with }
    · exact inv
  | endSessionLocked i =>
    simp only [eyeWorkerStep] at h
    split_ifs at h with free
    obtain ⟨binding, -, rfl⟩ := Option.map_eq_some_iff.1 h
    exact inv.endSessionLocked free i binding
  | cancel calibrationId binding =>
    cases h
    unfold EyeWorkerRuntime.cancelMatchingCalibration
    split
    · exact { inv with }
    · exact inv
  | close =>
    cases h
    exact { inv with }
  | closeLocked =>
    simp only [eyeWorkerStep] at h
    split_ifs at h with free
    cases h
    exact inv.closeLocked free.1

end

/-! ## Small runs -/

section
variable {s : EyeWorkerRuntime} {l : EyeWorkerStep}

instance (calibrations : List Calibration) (number : ℕ) (frame : StreamFrameContext) :
    Decidable (RunFor calibrations number frame) :=
  decidable_of_iff (calibrations[number]?.any (·.binding = frame.binding) = true) <| by
    unfold RunFor
    cases calibrations[number]? <;> simp

instance (s : EyeWorkerRuntime) : Decidable (QueuesOwn s) :=
  inferInstanceAs (Decidable (∀ e ∈ s.queued, _))

def separateTest (s : EyeWorkerRuntime) : EyeWorkerStep → Bool
  | .enter => s.calibrating.all fun c => s.inferring.all fun call =>
      call.stage ≠ .predict || c.calibration.binding = call.frame.binding
  | .infer frame =>
    s.calibrationQueue.isNone || s.synchronizedSource.isSome || s.binding = some frame.binding
  | _ => true

theorem separate_of_test (h : separateTest s l = true) : Separate s l := by
  cases l with
  | enter =>
    intro c hc call hcall waits
    simp only [separateTest, hc, Option.all_some, List.all_eq_true] at h
    have own := h call hcall
    rw [waits] at own
    exact of_decide_eq_true ((Bool.or_eq_true _ _).mp own |>.resolve_left (by simp))
  | infer frame =>
    intro queue legacy
    simp only [separateTest, legacy, Bool.or_eq_true, Option.isSome_none, Bool.or_false,
      decide_eq_true_eq, Option.isNone_iff_eq_none] at h
    exact h.resolve_left queue
  | _ => trivial

end

/-- A frame of a visitor, all of whose frames show the same moment of the video. -/
def smallFrame (visitor : String) (sequence : ℕ) : StreamFrameContext where
  sessionId := visitor
  videoId := "video-0001"
  frameId := "frame-0001"
  sequence := sequence
  capturedAtMonoMs := sequence
  videoTimeMs := 0
  playbackEpoch := 0

def smallRequest (visitor pattern : String) : CalibrationPayload where
  calibrationId := some "calibration-0001"
  patternId := some pattern
  points := sparsePoints
  sessionId := some visitor
  videoId := some "video-0001"

/-- A visitor is calibrated with a marked frame and then looked at; meanwhile another visitor's frame
comes. -/
def separateRun : List EyeWorkerStep :=
  [.begin (smallRequest "visitor-a" "adaptive-sparse16-v2"), .enter,
    .infer (smallFrame "visitor-a" 1), .accept 0, .infer (smallFrame "visitor-b" 1), .enqueue 0,
    .accept 0, .take, .leave true, .finish, .infer (smallFrame "visitor-a" 2),
    .predict 0 (.point (1 / 2) (1 / 2))]

/-- A legacy calibration takes frames of a visitor, while earlier calls wait. -/
def footage (visitor : String) (waiting count : ℕ) : List EyeWorkerStep :=
  (List.range count).flatMap fun k => [.infer (smallFrame visitor (k + 1)), .enqueue waiting, .take]

/-- A legacy calibration takes the frame of another visitor and ten frames of its own for each of its 33
targets; then the other visitor's calibration runs while a checked call of the first one waits. -/
def mixedRun : List EyeWorkerStep :=
  [.begin (smallRequest "visitor-a" "dense5-validation-v1"), .enter] ++ footage "visitor-b" 0 1 ++
    footage "visitor-a" 0 330 ++
    [.leave true, .finish, .infer (smallFrame "visitor-a" 331),
      .begin (smallRequest "visitor-b" "dense5-validation-v1"), .enter] ++
    footage "visitor-b" 1 330 ++ [.leave true, .finish]

/-- **Whose calibration answers for a frame.** In every run in which no calibration enters the adapter
before a waiting call of another session, and frames of its own session only reach a legacy
calibration, every queued frame and every returned sample is of its own session and video. -/
theorem gaze_of_own_calibration (loaded : Bool) {ls : List EyeWorkerStep} {s : EyeWorkerRuntime}
    (run : Lts.Steps eyeWorkerStep Separate (EyeWorkerRuntime.start loaded) ls s) :
    SamplesOwn s ∧ QueuesOwn s := by
  have inv : WorkerInv s :=
    run.invariant (fun _ _ _ inv guard h => WorkerInv.step inv guard h) (WorkerInv.start loaded)
  exact ⟨inv.samples, inv.queued⟩

theorem gaze_of_own_calibration_separate : ∃ s,
    Lts.Steps eyeWorkerStep Separate (EyeWorkerRuntime.start true) separateRun s ∧
    (s.replies.any fun e => e.2.gazeSample.any (·.valid)) = true ∧ SamplesOwn s ∧ QueuesOwn s := by
  obtain ⟨s, run, seen⟩ := Lts.exists_guarded_steps_of_any separateTest
    (p := fun s => s.replies.any fun e => e.2.gazeSample.any (·.valid))
    (fun _ _ => separate_of_test)
    (show (Lts.runWhile eyeWorkerStep _ (EyeWorkerRuntime.start true) separateRun).any _ = true by
      decide +kernel)
  exact ⟨s, run, seen, gaze_of_own_calibration true run⟩

/-- The first waiting call is answered for a calibration that was not run for its frame. -/
def mixesNext (s : EyeWorkerRuntime) (reading : Reading) : Bool :=
  match (s.inferring[0]? : Option InferCall) with
  | some ⟨frame, .predict⟩ => s.adapterFree && (s.adapter.infer frame reading).any fun answer =>
      decide (¬ RunFor s.calibrations answer.1.calibration frame)
  | _ => false

/-- That prediction returns a sample of another session's calibration, and no queued frame changes. -/
theorem predict_of_mixesNext {s : EyeWorkerRuntime} {reading : Reading} (h : mixesNext s reading = true) :
    ∃ t, eyeWorkerStep s (.predict 0 reading) = some t ∧ ¬ SamplesOwn t ∧
      (QueuesOwn t → QueuesOwn s) := by
  unfold mixesNext at h
  split at h
  · rename_i frame found
    obtain ⟨free, mixed⟩ := Bool.and_eq_true_iff.1 h
    obtain ⟨⟨sample, adapter⟩, inferred, other⟩ := (Option.any_eq_true ..).1 mixed
    have ran : eyeWorkerStep s (.predict 0 reading) = some (s.predictGaze 0 frame reading) := by
      simp only [eyeWorkerStep, found]
      rw [if_pos free]
    have after : s.predictGaze 0 frame reading = { s with
        inferring := s.inferring.eraseIdx 0
        adapter := adapter
        replies := s.replies ++
          [(frame, ⟨some sample, if sample.valid then none else sample.reason⟩)] } := by
      simp only [EyeWorkerRuntime.predictGaze, inferred]
    refine ⟨_, ran, fun own => ?_, fun own => ?_⟩
    · rw [after] at own
      exact of_decide_eq_true other (own _ List.mem_concat_self sample rfl).1
    · rw [after] at own
      exact own
  · cases h

/-- The gaze of one visitor is predicted by the calibration of another, and the frame of another
visitor trains the model of one. -/
theorem gaze_of_other_calibration : ∃ s,
    Lts.Steps eyeWorkerStep Lts.Free (EyeWorkerRuntime.start true)
      (mixedRun ++ [.predict 0 (.point (1 / 2) (1 / 2))]) s ∧
    ¬ SamplesOwn s ∧ ¬ QueuesOwn s := by
  obtain ⟨s, run, mixed⟩ := Lts.exists_steps_of_any
    (p := fun s => mixesNext s (.point (1 / 2) (1 / 2)) && decide (¬ QueuesOwn s))
    (show (Lts.runAll eyeWorkerStep (EyeWorkerRuntime.start true) mixedRun).any _ = true by
      decide +kernel)
  obtain ⟨next, queued⟩ := Bool.and_eq_true_iff.1 mixed
  obtain ⟨t, step, samples, same⟩ := predict_of_mixesNext next
  exact ⟨t, run.trans (.cons trivial step (.nil t)), samples, fun own => of_decide_eq_true queued (same own)⟩

end Mkk.Eye
