import Mkk.Eye.EyeTrax

/-!
# The observation sink

Two adapters that differ in their sink only: what their calls return is the same, call by call, whatever the
sink does and however often the stabilizer beside it raises.
-/

namespace Mkk.Eye.EyeTrax

open Lib

variable {F M S ε : Type} (env : EyeTraxEnv F M S ε)

/-! ## Validation -/

theorem scanFrames_quiet (config : EyeTraxConfig) (model : M) (clock : ℕ → ℚ) (target : ℚ × ℚ)
    (frames : List (Frame F)) (measured : Measured) (compared compared' : Compared S) :
    (scanFrames env config model clock target frames (measured, compared)).1 =
        (scanFrames env.quiet config model clock target frames (measured, compared')).1 ∧
      (scanFrames env config model clock target frames (measured, compared)).2.1 =
        (scanFrames env.quiet config model clock target frames (measured, compared')).2.1 := by
  induction frames generalizing measured compared compared' with
  | nil => exact ⟨rfl, rfl⟩
  | cons frame rest ih =>
    unfold scanFrames
    have read : readFrame env.quiet config model frame = readFrame env config model frame := rfl
    rw [read]
    cases readFrame env config model frame with
    | error stop => exact ⟨rfl, rfl⟩
    | ok raw => exact ih _ _ _

theorem scanPoints_quiet (config : EyeTraxConfig) (model : M) (clock : ℕ → ℚ) (source : ℕ → Footage F)
    (points : List ((ℚ × ℚ) × ℕ)) (measured : Measured) (compared compared' : Compared S) :
    (scanPoints env config model clock source points (measured, compared)).1 =
        (scanPoints env.quiet config model clock source points (measured, compared')).1 ∧
      (scanPoints env config model clock source points (measured, compared)).2.1 =
        (scanPoints env.quiet config model clock source points (measured, compared')).2.1 := by
  induction points generalizing measured compared compared' with
  | nil => exact ⟨rfl, rfl⟩
  | cons point rest ih =>
    obtain ⟨target, index⟩ := point
    unfold scanPoints
    obtain ⟨ended, counted⟩ := scanFrames_quiet env config model clock target (source index).frames
      { measured with pointFrames := 0 } compared compared'
    generalize scanFrames env config model clock target (source index).frames
      ({ measured with pointFrames := 0 }, compared) = scan at ended counted ⊢
    generalize scanFrames env.quiet config model clock target (source index).frames
      ({ measured with pointFrames := 0 }, compared') = scan' at ended counted ⊢
    obtain ⟨result, counts, beside⟩ := scan
    obtain ⟨result', counts', beside'⟩ := scan'
    dsimp only at ended counted
    subst ended counted
    cases result with
    | error stop => exact ⟨rfl, rfl⟩
    | ok u =>
      dsimp only
      cases (source index).ending with
      | some stop => exact ⟨rfl, rfl⟩
      | none => exact ih _ _ _

/-- The comparison beside a validation does not change its metrics. -/
theorem validateOnce_quiet (config : EyeTraxConfig) (model : M) (clock : ℕ → ℚ) (source : ℕ → Footage F) :
    (validateOnce env config model clock source).1 = (validateOnce env.quiet config model clock source).1 := by
  obtain ⟨ended, counted⟩ := scanPoints_quiet env config model clock source validationPoints.zipIdx
    {} {} {}
  unfold validateOnce
  dsimp only
  rw [ended, counted]

/-! ## The relation -/

/-- Two states that differ in what the sink was given, and in the stabilizer when it only observes. -/
inductive Alike (a : Adapter S M) : Adapter S M → Prop where
  | intro (stabilizer : StabilizerState S) (emitted : List GazeAbObservation)
      (same : a.config.smoothingMode = .kalmanEma → stabilizer = a.stabilizer) :
      Alike a { a with stabilizer := stabilizer, emitted := emitted }

/-- Equal results, and states alike. -/
def Same {α : Type} (r r' : Except AdapterError α × Adapter S M) : Prop := r.1 = r'.1 ∧ Alike r.2 r'.2

namespace Alike

variable {a b : Adapter S M}

theorem refl (a : Adapter S M) : Alike a a := .intro a.stabilizer a.emitted fun _ => rfl

theorem reset (h : Alike a b) : Alike a.resetRuntimeState b.resetRuntimeState := by
  obtain ⟨stabilizer, emitted, same⟩ := h
  exact .intro (stabilizer.reset .asked) emitted fun mode => by
    rw [same mode]
    rfl

theorem answer (h : Alike a b) (fields : SampleFields) : Same (a.answer fields) (b.answer fields) := by
  obtain ⟨stabilizer, emitted, same⟩ := h
  unfold Adapter.answer
  cases fields.build with
  | error message => exact ⟨rfl, .intro stabilizer emitted same⟩
  | ok sample => exact ⟨rfl, .intro stabilizer emitted same⟩

/-- The stabilizer of an adapter that shows its decisions does the same with and without a sink; that of
another one is not seen. -/
theorem filter (h : Alike a b) (atMs : ℚ) (raw : Except String (ℚ × ℚ)) :
    Alike (a.filter env atMs raw).2 (b.filter env.quiet atMs raw).2 ∧
      (a.config.smoothingMode = .kalmanEma → (a.filter env atMs raw).1 = (b.filter env.quiet atMs raw).1) := by
  obtain ⟨stabilizer, emitted, same⟩ := h
  cases mode : a.config.smoothingMode with
  | kalmanEma =>
    have enabled : a.filterPathEnabled env = true := by simp [Adapter.filterPathEnabled, mode]
    have enabled' : ({ a with stabilizer := stabilizer, emitted := emitted } : Adapter S M).filterPathEnabled
        env.quiet = true := by
      simp [Adapter.filterPathEnabled, mode]
    have kept := same mode
    subst kept
    unfold Adapter.filter
    rw [if_pos enabled, if_pos enabled']
    have alone : stabilize env.quiet a.config atMs raw = stabilize env a.config atMs raw := rfl
    dsimp only
    rw [alone]
    cases (stabilize env a.config atMs raw).run a.stabilizer with
    | ok decision s => exact ⟨.intro s emitted fun _ => rfl, fun _ => rfl⟩
    | error e s => exact ⟨.intro (s.reset .asked) emitted fun _ => rfl, fun _ => rfl⟩
  | raw =>
    have silent : ({ a with stabilizer := stabilizer, emitted := emitted } : Adapter S M).filterPathEnabled
        env.quiet = false := by
      simp [Adapter.filterPathEnabled, EyeTraxEnv.quiet, mode]
    refine ⟨?_, nofun⟩
    have unfiltered : (({ a with stabilizer := stabilizer, emitted := emitted } : Adapter S M).filter
        env.quiet atMs raw).2 = { a with stabilizer := stabilizer, emitted := emitted } := by
      unfold Adapter.filter
      rw [if_neg (by rw [silent]; exact Bool.false_ne_true)]
      cases raw <;> rfl
    obtain ⟨s, beside⟩ := a.filter_beside env atMs raw
    rw [unfiltered, beside]
    exact .intro stabilizer emitted fun shown => absurd (mode.symm.trans shown) nofun

theorem emit (h : Alike a b) (atMs : ℚ) (raw stabilized stabilized' : Except String (ℚ × ℚ)) :
    Alike (a.emit env atMs raw stabilized) (b.emit env.quiet atMs raw stabilized') := by
  obtain ⟨stabilizer, emitted, same⟩ := h
  exact .intro stabilizer _ same

theorem config_eq (h : Alike a b) : b.config = a.config := by
  obtain ⟨stabilizer, emitted, same⟩ := h
  rfl

theorem sampleFields_eq (h : Alike a b) (eventId calibrationId : String) (context : StreamFrameContext)
    (point : Except String (ℚ × ℚ)) :
    b.sampleFields eventId calibrationId context point = a.sampleFields eventId calibrationId context point := by
  obtain ⟨stabilizer, emitted, same⟩ := h
  rfl

theorem invalidRuntimeSample (h : Alike a b) (eventId calibrationId : String) (context : StreamFrameContext)
    (reason : String) : Same (a.invalidRuntimeSample env eventId calibrationId context reason)
      (b.invalidRuntimeSample env.quiet eventId calibrationId context reason) := by
  unfold Adapter.invalidRuntimeSample
  rw [h.sampleFields_eq]
  exact ((h.filter env context.capturedAtMonoMs (.error reason)).1.emit env _ _ _ _).answer _

theorem invalidRead (h : Alike a b) (eventId calibrationId : String) (context : StreamFrameContext)
    (reason : String) : Same (a.invalidRead env eventId calibrationId context reason)
      (b.invalidRead env.quiet eventId calibrationId context reason) := by
  obtain ⟨result, left⟩ := h.invalidRuntimeSample env eventId calibrationId context reason
  unfold Adapter.invalidRead
  generalize a.invalidRuntimeSample env eventId calibrationId context reason = first at result left ⊢
  generalize b.invalidRuntimeSample env.quiet eventId calibrationId context reason = second at result left ⊢
  obtain ⟨r, s⟩ := first
  obtain ⟨r', s'⟩ := second
  dsimp only at result left
  subst result
  cases r with
  | ok sample => exact ⟨rfl, left⟩
  | error e => exact left.invalidRuntimeSample env eventId calibrationId context "inference_error"

theorem pointSample (h : Alike a b) (eventId calibrationId : String) (context : StreamFrameContext)
    (normalized : ℚ × ℚ) : Same (a.pointSample env eventId calibrationId context normalized)
      (b.pointSample env.quiet eventId calibrationId context normalized) := by
  obtain ⟨left, shown⟩ := h.filter env context.capturedAtMonoMs (.ok normalized)
  unfold Adapter.pointSample
  rw [h.config_eq]
  cases mode : a.config.smoothingMode with
  | raw =>
    dsimp only
    rw [h.sampleFields_eq]
    exact (left.emit env _ _ _ _).answer _
  | kalmanEma =>
    have decided := shown mode
    dsimp only
    rw [h.sampleFields_eq, decided]
    exact (left.emit env _ _ _ _).answer _

theorem read (h : Alike a b) (eventId calibrationId : String) (context : StreamFrameContext) (frame : Frame F) :
    Same (a.read env eventId calibrationId context frame)
      (b.read env.quiet eventId calibrationId context frame) := by
  have estimator : b.estimator = a.estimator := by
    obtain ⟨stabilizer, emitted, same⟩ := h
    rfl
  unfold Adapter.read
  rw [estimator, h.config_eq]
  cases frame with
  | malformed => exact ⟨rfl, h⟩
  | extracted result =>
    cases a.estimator with
    | none => exact ⟨rfl, h⟩
    | some model =>
      have same : (result >>= readPoint env.quiet a.config model) = result >>= readPoint env a.config model := rfl
      dsimp only
      rw [same]
      cases result >>= readPoint env a.config model with
      | error u => exact h.invalidRuntimeSample env eventId calibrationId context "inference_error"
      | ok point =>
        cases point with
        | error reason => exact h.invalidRead env eventId calibrationId context reason
        | ok normalized => exact h.pointSample env eventId calibrationId context normalized

theorem enterStream (h : Alike a b) (context : StreamFrameContext) :
    Alike (a.enterStream context) (b.enterStream context) := by
  have entered := h.reset
  obtain ⟨stabilizer, emitted, same⟩ := h
  unfold Adapter.enterStream
  dsimp only
  split
  · exact .intro stabilizer emitted same
  · exact .intro (stabilizer.reset .asked) emitted fun mode => by
      rw [same mode]
      rfl

theorem infer (h : Alike a b) (frame : Frame F) (context : StreamFrameContext) :
    Same (a.infer env frame context) (b.infer env.quiet frame context) := by
  have entered := h.enterStream context
  have flags : b.initialized = a.initialized ∧ b.warmed = a.warmed ∧ b.calibrationId = a.calibrationId ∧
      b.modelRevision = a.modelRevision ∧ b.sampleCache = a.sampleCache := by
    obtain ⟨stabilizer, emitted, same⟩ := h
    exact ⟨rfl, rfl, rfl, rfl, rfl⟩
  obtain ⟨initialized, warmed, id, revision, cache⟩ := flags
  have digest : env.quiet.eventId = env.eventId := rfl
  unfold Adapter.infer
  rw [initialized, warmed, id, revision, cache, digest]
  split
  · exact ⟨rfl, h⟩
  · cases a.calibrationId with
    | none => exact ⟨rfl, h⟩
    | some calibrationId =>
      dsimp only
      cases a.sampleCache.get? (env.eventId a.modelRevision calibrationId context) with
      | some sample => exact ⟨rfl, h⟩
      | none =>
        dsimp only
        generalize a.enterStream context = here at entered ⊢
        generalize b.enterStream context = there at entered ⊢
        obtain ⟨stabilizer, emitted, same⟩ := entered
        have order : ({ here with stabilizer := stabilizer, emitted := emitted } : Adapter S M).outOfOrder context =
            here.outOfOrder context := rfl
        rw [order]
        split
        · exact (Alike.intro stabilizer emitted same).answer _
        · have next : Alike { here with lastOrder := some (context.capturedAtMonoMs, context.sequence) }
              { here with lastOrder := some (context.capturedAtMonoMs, context.sequence),
                          stabilizer := stabilizer, emitted := emitted } := .intro stabilizer emitted same
          dsimp only
          split
          · exact next.answer _
          · exact next.read env _ _ _ _

theorem startCalibration (h : Alike a b) (calibrationId : String) :
    Alike (a.startCalibration calibrationId) (b.startCalibration calibrationId) := by
  obtain ⟨stabilizer, emitted, same⟩ := h
  exact .intro (stabilizer.reset .asked) emitted fun mode => by
    rw [same mode]
    rfl

theorem failCalibration (h : Alike a b) : Alike (a.failCalibration env) (b.failCalibration env.quiet) := by
  obtain ⟨stabilizer, emitted, same⟩ := h
  exact .intro stabilizer emitted same

theorem calibrate (h : Alike a b) (calibrationId : String) (training validation : ℕ → Footage F)
    (clock : ℕ → ℚ) : Same (a.calibrate env calibrationId training validation clock)
      (b.calibrate env.quiet calibrationId training validation clock) := by
  have begun := h.startCalibration calibrationId
  have state : b.initialized = a.initialized ∧ b.warmed = a.warmed ∧ b.estimator = a.estimator := by
    obtain ⟨stabilizer, emitted, same⟩ := h
    exact ⟨rfl, rfl, rfl⟩
  obtain ⟨initialized, warmed, estimator⟩ := state
  have library : env.quiet.library = env.library := rfl
  unfold Adapter.calibrate
  rw [initialized, warmed, estimator, h.config_eq, library]
  split
  · exact ⟨rfl, h⟩
  · generalize a.startCalibration calibrationId = here at begun ⊢
    generalize b.startCalibration calibrationId = there at begun ⊢
    obtain ⟨stabilizer, emitted, same⟩ := begun
    cases a.estimator with
    | none => exact ⟨rfl, .intro stabilizer emitted same⟩
    | some _ =>
      dsimp only
      cases trainOnce env.library a.config.viewportWidthPx a.config.viewportHeightPx training with
      | error stop => cases stop <;> exact ⟨rfl, .intro stabilizer emitted same⟩
      | ok trained =>
        cases trained with
        | none => exact ⟨rfl, .intro stabilizer emitted same⟩
        | some model =>
          dsimp only
          rw [← validateOnce_quiet]
          cases (validateOnce env a.config model clock validation).1 with
          | error stop => cases stop <;> exact ⟨rfl, .intro stabilizer _ same⟩
          | ok metrics =>
            dsimp only
            split
            · exact ⟨rfl, .intro stabilizer _ same⟩
            · exact ⟨rfl, .intro stabilizer _ same⟩

theorem calibrateSynchronized (h : Alike a b) (calibrationId : String) (outcome : EngineOutcome M) :
    Same (a.calibrateSynchronized env calibrationId outcome)
      (b.calibrateSynchronized env.quiet calibrationId outcome) := by
  have begun := h.startCalibration calibrationId
  have state : b.initialized = a.initialized ∧ b.warmed = a.warmed ∧ b.estimator = a.estimator := by
    obtain ⟨stabilizer, emitted, same⟩ := h
    exact ⟨rfl, rfl, rfl⟩
  obtain ⟨initialized, warmed, estimator⟩ := state
  have library : env.quiet.library = env.library := rfl
  unfold Adapter.calibrateSynchronized
  rw [initialized, warmed, estimator, h.config_eq, library]
  split
  · exact ⟨rfl, h⟩
  · generalize a.startCalibration calibrationId = here at begun ⊢
    generalize b.startCalibration calibrationId = there at begun ⊢
    obtain ⟨stabilizer, emitted, same⟩ := begun
    cases a.estimator with
    | none => exact ⟨rfl, .intro stabilizer emitted same⟩
    | some _ =>
      cases outcome with
      | passed model width height widthPos heightPos qualityValid => exact ⟨rfl, .intro {} emitted fun _ => rfl⟩
      | failed reason => exact ⟨rfl, .intro stabilizer emitted same⟩
      | error => exact ⟨rfl, .intro stabilizer emitted same⟩

theorem dispose (h : Alike a b) (closed : Except Unit Unit) : Same (a.dispose closed) (b.dispose closed) := by
  obtain ⟨stabilizer, emitted, same⟩ := h
  have reset (mode : a.config.smoothingMode = .kalmanEma) : stabilizer.reset .asked = a.stabilizer.reset .asked := by
    rw [same mode]
  unfold Adapter.dispose
  dsimp only
  split
  · exact ⟨rfl, .intro (stabilizer.reset .asked) emitted reset⟩
  · exact ⟨rfl, .intro (stabilizer.reset .asked) emitted reset⟩

theorem warmup (h : Alike a b) (extracted closed : Except Unit Unit) :
    Same (a.warmup extracted closed) (b.warmup extracted closed) := by
  have disposed := h.dispose closed
  obtain ⟨stabilizer, emitted, same⟩ := h
  unfold Adapter.warmup
  dsimp only
  split
  · exact ⟨rfl, .intro stabilizer emitted same⟩
  · split
    · exact ⟨rfl, .intro stabilizer emitted same⟩
    · split
      · exact ⟨rfl, .intro stabilizer emitted same⟩
      · exact ⟨rfl, disposed.2⟩
      · exact ⟨rfl, .intro stabilizer emitted same⟩

theorem initializeAdapter (h : Alike a b) (created : Except AdapterError M) :
    Same (a.initializeAdapter created) (b.initializeAdapter created) := by
  obtain ⟨stabilizer, emitted, same⟩ := h
  unfold Adapter.initializeAdapter
  dsimp only
  split
  · exact ⟨rfl, .intro stabilizer emitted same⟩
  · cases created with
    | error e => exact ⟨rfl, .intro stabilizer emitted same⟩
    | ok model =>
      refine ⟨rfl, .intro (stabilizer.reset .asked) emitted fun mode => ?_⟩
      rw [same mode]
      rfl

theorem discardCalibration (h : Alike a b) :
    Same (a.discardCalibration env) (b.discardCalibration env.quiet) := by
  have estimator : b.estimator = a.estimator := by
    obtain ⟨stabilizer, emitted, same⟩ := h
    rfl
  have library : env.quiet.library = env.library := rfl
  have reset := h.reset
  unfold Adapter.discardCalibration
  rw [estimator, library]
  generalize a.resetRuntimeState = here at reset ⊢
  generalize b.resetRuntimeState = there at reset ⊢
  obtain ⟨stabilizer, emitted, same⟩ := reset
  cases a.estimator with
  | none => exact ⟨rfl, .intro stabilizer emitted same⟩
  | some model => exact ⟨rfl, .intro stabilizer emitted same⟩

/-- The results of a call, under either kind of result. -/
theorem outcome {α : Type} {r r' : Except AdapterError α × Adapter S M} (same : Same r r')
    (wrap : Except AdapterError α → Outcome) : wrap r.1 = wrap r'.1 ∧ Alike r.2 r'.2 :=
  ⟨congrArg wrap same.1, same.2⟩

/-- A call ends alike on both, and leaves them alike. -/
theorem step (h : Alike a b) (call : Call F M) :
    (step env a call).1 = (EyeTrax.step env.quiet b call).1 ∧
      Alike (EyeTrax.step env a call).2 (EyeTrax.step env.quiet b call).2 := by
  cases call with
  | initializeAdapter created => exact outcome (h.initializeAdapter created) .done
  | warmup extracted closed => exact outcome (h.warmup extracted closed) .done
  | calibrate calibrationId training validation clock =>
    exact outcome (h.calibrate env calibrationId training validation clock) .calibrated
  | calibrateSynchronized calibrationId result =>
    exact outcome (h.calibrateSynchronized env calibrationId result) .calibrated
  | discardCalibration => exact outcome (h.discardCalibration env) .done
  | infer frame context => exact outcome (h.infer env frame context) .sampled
  | dispose closed => exact outcome (h.dispose closed) .done

theorem outcomes (h : Alike a b) (calls : List (Call F M)) :
    EyeTrax.outcomes env a calls = EyeTrax.outcomes env.quiet b calls := by
  induction calls generalizing a b with
  | nil => rfl
  | cons call rest ih =>
    obtain ⟨result, left⟩ := h.step env call
    unfold EyeTrax.outcomes
    rw [result, ih left]

end Alike

/-- **The sink does not show.** Every call of every run returns what it returns without a sink, whichever
observations the sink takes or refuses. -/
theorem outcomes_quiet (env : EyeTraxEnv F M S ε) (config : EyeTraxConfig) (calls : List (Call F M)) :
    outcomes env (Adapter.new config) calls = outcomes env.quiet (Adapter.new config) calls :=
  (Alike.refl _).outcomes env calls

end Mkk.Eye.EyeTrax
