import Mkk.Eye.EyeTrax

/-!
# The calibration in force

What the calls of an adapter and their ends say of its calibration (`Standing.after`), and that every valid
sample comes from a frame read by the model of that calibration (`Follows.run`).
-/

namespace Mkk.Eye.EyeTrax

open Lib

/-! ## The calls and their ends -/

/-- What a calibration has to show: the metrics of its validation, or the checks of its session. -/
inductive Proof where
  | validated (metrics : ValidationMetrics)
  | session

def Proof.passed : Proof → Bool
  | validated metrics => metrics.passed
  | session => true

/-- A calibration that ended valid, and the frames inferred since. -/
structure Force (F M : Type) where
  calibrationId : String
  model : M
  proof : Proof
  seen : List (Frame F × StreamFrameContext) := []

/-- The viewport in use, and the calibration in force. -/
structure Standing (F M : Type) where
  config : EyeTraxConfig
  inForce : Option (Force F M) := none

section

variable {F M S ε : Type} (env : EyeTraxEnv F M S ε)

/-- The fixed calibration that these frames give. -/
def Standing.calibrated (s : Standing F M) (calibrationId : String) (training validation : ℕ → Footage F)
    (clock : ℕ → ℚ) : Option (Force F M) :=
  match trainOnce env.library s.config.viewportWidthPx s.config.viewportHeightPx training with
  | .ok (some model) =>
    match (validateOnce env s.config model clock validation).1 with
    | .ok metrics => some { calibrationId := calibrationId, model := model, proof := .validated metrics }
    | .error _ => none
  | _ => none

/-- A calibration is in force from the call that ended valid until the next one, a discard or a dispose. -/
def Standing.after (s : Standing F M) : Call F M → Outcome → Standing F M
  | .calibrate calibrationId training validation clock, .calibrated (.ok result) =>
    { s with
      inForce := if result.valid then s.calibrated env calibrationId training validation clock else none }
  | .calibrateSynchronized calibrationId (.passed model width height widthPos heightPos _), .calibrated (.ok _) =>
    { config := { s.config with
        viewportWidthPx := width, viewportHeightPx := height, widthPos := widthPos, heightPos := heightPos }
      inForce := some { calibrationId := calibrationId, model := model, proof := .session } }
  | .calibrateSynchronized _ _, .calibrated (.ok _) => { s with inForce := none }
  | .discardCalibration, _ => { s with inForce := none }
  | .dispose _, _ => { s with inForce := none }
  | .infer frame context, _ =>
    { s with inForce := s.inForce.map fun force => { force with seen := (frame, context) :: force.seen } }
  | _, _ => s

/-- Each call with its end and the standing after it. -/
def standings (a : Adapter S M) (s : Standing F M) : List (Call F M) → List (Call F M × Outcome × Standing F M)
  | [] => []
  | call :: rest =>
    let (outcome, a) := step env a call
    let s := s.after env call outcome
    (call, outcome, s) :: standings a s rest

/-! ## The frame of a sample -/

/-- A frame that the model read as a point in the viewport; in raw mode the sample shows that point. -/
def ReadBy (config : EyeTraxConfig) (model : M) (frame : Frame F) (fields : SampleFields) : Prop :=
  ∃ features point, frame = .extracted (.ok features) ∧
    readPoint env config model features = .ok (.ok point) ∧
    (config.smoothingMode = .raw → fields.screenXNorm = some point.1 ∧ fields.screenYNorm = some point.2)

/-- The event of a sample is the one of its own revision, calibration and context. -/
def Named (fields : SampleFields) (context : StreamFrameContext) : Prop :=
  fields.eventId = env.eventId fields.modelRevision fields.calibrationId context

/-- A calibration that passed is in force, and some frame inferred since was read by its model. -/
def Explained (s : Standing F M) (fields : SampleFields) : Prop :=
  ∃ force, s.inForce = some force ∧ force.proof.passed = true ∧
    fields.calibrationId = force.calibrationId ∧
    ∃ frame, (frame, fields.context) ∈ force.seen ∧ ReadBy env s.config force.model frame fields

/-! ## One inference -/

/-- What an inference leaves as it is. -/
structure Held (M : Type) where
  config : EyeTraxConfig
  modelRevision : String
  estimator : Option M
  initialized : Bool
  warmed : Bool
  calibrated : Bool
  calibrationId : Option String

def Adapter.held (a : Adapter S M) : Held M :=
  ⟨a.config, a.modelRevision, a.estimator, a.initialized, a.warmed, a.calibrated, a.calibrationId⟩

/-- What an inference makes of a frame. -/
structure Made (held : Held M) (frame : Frame F) (context : StreamFrameContext) (fields : SampleFields) :
    Prop where
  calibration : held.calibrationId = some fields.calibrationId
  revision : fields.modelRevision = held.modelRevision
  context_eq : fields.context = context
  named : Named env fields context
  valid : fields.valid = true → held.calibrated = true ∧
    ∃ model, held.estimator = some model ∧ ReadBy env held.config model frame fields

/-- An answer of a sample like these, or no answer; only its sample is new in the cache. -/
structure Serves (a : Adapter S M) (made : SampleFields → Prop) (r : Except AdapterError Sample × Adapter S M) :
    Prop where
  held : r.2.held = a.held
  cached : ∀ key sample, r.2.sampleCache.get? key = some sample →
    a.sampleCache.get? key = some sample ∨ (key = sample.fields.eventId ∧ made sample.fields)
  result : ∀ sample, r.1 = .ok sample → made sample.fields

end

namespace Serves

variable {F M S ε : Type} {a b : Adapter S M} {made : SampleFields → Prop}
  {r : Except AdapterError Sample × Adapter S M}

theorem refuse (a : Adapter S M) (e : AdapterError) : Serves a made (.error e, a) where
  held := rfl
  cached _ _ found := .inl found
  result := nofun

/-- The start of the work may lose cached samples. -/
theorem prepare (same : b.held = a.held)
    (fewer : ∀ key sample, b.sampleCache.get? key = some sample → a.sampleCache.get? key = some sample)
    (h : Serves b made r) : Serves a made r where
  held := h.held.trans same
  cached key sample found := (h.cached key sample found).imp_left (fewer key sample)
  result := h.result

theorem answer {fields : SampleFields} (new : made fields) : Serves a made (a.answer fields) := by
  unfold Adapter.answer SampleFields.build
  split
  · exact refuse a _
  · next sample built =>
    split at built
    · cases built
      refine ⟨rfl, fun key sample found => ?_, fun sample same => ?_⟩
      · dsimp only at found
        have set : (a.sampleCache.set fields.eventId ⟨fields, ‹_›⟩).get? key = some sample := by
          split at found
          · exact found
          · split at found
            · rw [Dict.get?_pop] at found
              split at found
              · cases found
              · exact found
            · exact found
        rw [Dict.get?_set] at set
        split at set
        · cases set
          exact .inr ⟨‹_›, new⟩
        · exact .inl set
      · cases same
        exact new
    · cases built

theorem weaken {made' : SampleFields → Prop} (h : Serves a made r) (le : ∀ fields, made fields → made' fields) :
    Serves a made' r where
  held := h.held
  cached key sample found := (h.cached key sample found).imp_right fun new => ⟨new.1, le _ new.2⟩
  result sample same := le _ (h.result sample same)

end Serves

namespace Adapter

variable {F M S ε : Type} (env : EyeTraxEnv F M S ε) {a : Adapter S M} {frame : Frame F}
  {context : StreamFrameContext} {calibrationId : String}

/-- A sample without a point. -/
theorem made_invalid (named : a.calibrationId = some calibrationId) (reason : String) :
    Made env a.held frame context
      (a.sampleFields (env.eventId a.modelRevision calibrationId context) calibrationId context
        (.error reason)) where
  calibration := named
  revision := rfl
  context_eq := rfl
  named := rfl
  valid := nofun

theorem invalidRuntimeSample_serves (named : a.calibrationId = some calibrationId) (reason : String) :
    Serves a (Made env a.held frame context) (a.invalidRuntimeSample env
      (env.eventId a.modelRevision calibrationId context) calibrationId context reason) := by
  obtain ⟨s, beside⟩ := a.filter_beside env context.capturedAtMonoMs (.error reason)
  unfold invalidRuntimeSample
  dsimp only
  rw [beside]
  refine .prepare ?_ ?_ (.answer ?_)
  · rfl
  · exact fun _ _ found => found
  · exact made_invalid env named reason

theorem invalidRead_serves (named : a.calibrationId = some calibrationId) (reason : String) :
    Serves a (Made env a.held frame context) (a.invalidRead env
      (env.eventId a.modelRevision calibrationId context) calibrationId context reason) := by
  have first : Serves a (Made env a.held frame context) (a.invalidRuntimeSample env
      (env.eventId a.modelRevision calibrationId context) calibrationId context reason) :=
    invalidRuntimeSample_serves env named reason
  unfold invalidRead
  generalize a.invalidRuntimeSample env _ calibrationId context reason = r at first ⊢
  obtain ⟨result, left⟩ := r
  cases result with
  | ok sample => exact first
  | error e =>
    have held : left.held = a.held := first.held
    have id : left.calibrationId = some calibrationId := (congrArg Held.calibrationId held).trans named
    have revision : left.modelRevision = a.modelRevision := congrArg Held.modelRevision held
    have second : Serves left (Made env left.held frame context) (left.invalidRuntimeSample env
        (env.eventId left.modelRevision calibrationId context) calibrationId context "inference_error") :=
      invalidRuntimeSample_serves env id "inference_error"
    rw [held, revision] at second
    refine ⟨second.held.trans held, fun key sample found => ?_, second.result⟩
    rcases second.cached key sample found with old | new
    · exact first.cached key sample old
    · exact .inr new

/-- A point in the viewport, shown as it is in raw mode. -/
theorem pointSample_serves {model : M} {features : Option F × Bool} {normalized : ℚ × ℚ}
    (named : a.calibrationId = some calibrationId) (calibrated : a.calibrated = true)
    (estimator : a.estimator = some model)
    (point : readPoint env a.config model features = .ok (.ok normalized)) :
    Serves a (Made env a.held (.extracted (.ok features)) context) (a.pointSample env
      (env.eventId a.modelRevision calibrationId context) calibrationId context normalized) := by
  obtain ⟨s, beside⟩ := a.filter_beside env context.capturedAtMonoMs (.ok normalized)
  unfold pointSample
  dsimp only
  rw [beside]
  refine .prepare ?_ ?_ (.answer ?_)
  · rfl
  · exact fun _ _ found => found
  refine ⟨named, rfl, rfl, rfl, fun _ => ⟨calibrated, model, estimator, features, normalized, rfl, point, ?_⟩⟩
  intro raw
  have mode : a.config.smoothingMode = .raw := raw
  rw [mode]
  exact ⟨rfl, rfl⟩

theorem read_serves (named : a.calibrationId = some calibrationId) (calibrated : a.calibrated = true) :
    Serves a (Made env a.held frame context) (a.read env
      (env.eventId a.modelRevision calibrationId context) calibrationId context frame) := by
  unfold read
  split
  · exact .refuse a _
  · exact .refuse a _
  next result model estimator =>
    cases result with
    | error u => exact invalidRuntimeSample_serves env named _
    | ok features =>
      split
      · exact invalidRuntimeSample_serves env named _
      · exact invalidRead_serves env named _
      next normalized point => exact pointSample_serves env named calibrated estimator point

theorem enterStream_held (a : Adapter S M) (context : StreamFrameContext) :
    (a.enterStream context).held = a.held := by
  unfold enterStream
  dsimp only
  split <;> rfl

theorem enterStream_fewer (a : Adapter S M) (context : StreamFrameContext) (key : String) (sample : Sample)
    (found : (a.enterStream context).sampleCache.get? key = some sample) :
    a.sampleCache.get? key = some sample := by
  unfold enterStream at found
  dsimp only at found
  split at found
  · exact found
  · cases found

/-- The cached sample of the event, or what the frame gives. -/
theorem infer_serves (frame : Frame F) (context : StreamFrameContext) (a : Adapter S M) :
    Serves a (fun fields => Made env a.held frame context fields ∨
      ∃ calibrationId sample, a.calibrationId = some calibrationId ∧ sample.fields = fields ∧
        a.sampleCache.get? (env.eventId a.modelRevision calibrationId context) = some sample)
      (a.infer env frame context) := by
  unfold infer
  split
  · exact .refuse a _
  · split
    · exact .refuse a _
    next calibrationId named =>
      dsimp only
      split
      next sample cached =>
        refine ⟨rfl, fun _ _ found => .inl found, fun sample' same => ?_⟩
        cases same
        exact .inr ⟨calibrationId, sample, named, rfl, cached⟩
      next new =>
        have held := a.enterStream_held context
        have fewer := a.enterStream_fewer context
        generalize a.enterStream context = here at held fewer ⊢
        have id : here.calibrationId = some calibrationId := (congrArg Held.calibrationId held).trans named
        have revision : here.modelRevision = a.modelRevision := congrArg Held.modelRevision held
        refine Serves.weaken ?_ fun fields made => .inl made
        rw [← held, ← revision]
        refine .prepare held fewer ?_
        split
        · exact .answer (made_invalid env id _)
        · refine .prepare (b := { here with lastOrder := some (context.capturedAtMonoMs, context.sequence) })
            rfl (fun _ _ found => found) ?_
          split
          · exact .answer (made_invalid env id _)
          next state =>
            rw [Bool.or_eq_true, not_or, Bool.not_eq_true', Bool.not_eq_false] at state
            exact read_serves env id state.2

end Adapter

/-! ## Runs -/

section

variable {F M S ε : Type} (env : EyeTraxEnv F M S ε)

/-- What holds of a cached sample. -/
structure Known (held : Held M) (s : Standing F M) (fields : SampleFields) : Prop where
  calibration : held.calibrationId = some fields.calibrationId
  revision : fields.modelRevision = held.modelRevision
  named : Named env fields fields.context
  valid : fields.valid = true → Explained env s fields

/-- The adapter agrees with its standing. -/
structure Follows (a : Adapter S M) (s : Standing F M) : Prop where
  config : a.config = s.config
  cached : ∀ key sample, a.sampleCache.get? key = some sample →
    key = sample.fields.eventId ∧ Known env a.held s sample.fields
  force : ∀ force, s.inForce = some force → a.initialized = true ∧ a.warmed = true ∧
    a.calibrationId = some force.calibrationId ∧ a.estimator = some force.model ∧ force.proof.passed = true
  unforced : s.inForce = none → a.calibrated = false

/-- What is returned for a frame. -/
structure Returned (s : Standing F M) (context : StreamFrameContext) (fields : SampleFields) : Prop where
  asked : Named env fields context
  named : Named env fields fields.context
  valid : fields.valid = true → Explained env s fields

/-- A call that leaves an adapter in its standing, and samples as they should be. -/
def Agrees (call : Call F M) (s : Standing F M) (r : Outcome × Adapter S M) : Prop :=
  Follows env r.2 (s.after env call r.1) ∧
    ∀ frame context sample, call = .infer frame context → r.1 = .sampled (.ok sample) →
      Returned env (s.after env call r.1) context sample.fields

end

namespace Follows

variable {F M S ε : Type} {env : EyeTraxEnv F M S ε} {a b : Adapter S M} {s : Standing F M}

/-- Without a calibration nothing valid is cached. -/
theorem lost (config : b.config = s.config) (empty : b.sampleCache = Dict.empty)
    (uncalibrated : b.calibrated = false) : Follows env b { s with inForce := none } where
  config := config
  cached key sample found := by
    rw [empty] at found
    cases found
  force := nofun
  unforced _ := uncalibrated

/-- A calibration comes into force with an empty cache. -/
theorem gained {force : Force F M} (config : b.config = s.config) (empty : b.sampleCache = Dict.empty)
    (ready : b.initialized = true ∧ b.warmed = true) (named : b.calibrationId = some force.calibrationId)
    (fitted : b.estimator = some force.model) (passed : force.proof.passed = true) :
    Follows env b { s with inForce := some force } where
  config := config
  cached key sample found := by
    rw [empty] at found
    cases found
  force _ same := by
    cases same
    exact ⟨ready.1, ready.2, named, fitted, passed⟩
  unforced := nofun

theorem standing_none (h : Follows env a s) (missing : a.initialized = false ∨ a.warmed = false ∨
    a.estimator = none) : { s with inForce := none } = s := by
  obtain ⟨config, force⟩ := s
  cases force with
  | none => rfl
  | some force =>
    obtain ⟨initialized, warmed, -, estimator, -⟩ := h.force force rfl
    rcases missing with missing | missing | missing
    · exact absurd (missing.symm.trans initialized) Bool.false_ne_true
    · exact absurd (missing.symm.trans warmed) Bool.false_ne_true
    · exact absurd (missing.symm.trans estimator) (Option.some_ne_none _).symm

theorem initializeAdapter (h : Follows env a s) (created : Except AdapterError M) :
    Follows env (a.initializeAdapter created).2 s := by
  unfold Adapter.initializeAdapter
  split
  · exact h
  next fresh =>
    cases created with
    | error e => exact h
    | ok model =>
      rw [← h.standing_none (.inl (Bool.eq_false_iff.2 fresh))]
      exact lost h.config rfl rfl

theorem dispose (h : Follows env a s) (closed : Except Unit Unit) :
    Follows env (a.dispose closed).2 { s with inForce := none } := by
  unfold Adapter.dispose
  dsimp only
  split
  · exact lost h.config rfl rfl
  · exact lost h.config rfl rfl

theorem warmup (h : Follows env a s) (extracted closed : Except Unit Unit) :
    Follows env (a.warmup extracted closed).2 s := by
  unfold Adapter.warmup
  split
  · exact h
  · split
    · exact h
    next cold =>
      have unwarmed := Bool.eq_false_iff.2 cold
      split
      · exact h
      · rw [← h.standing_none (.inr (.inl unwarmed))]
        exact h.dispose closed
      · have unforced := h.standing_none (.inr (.inl unwarmed))
        refine ⟨h.config, fun key sample found => ?_, fun force same => ?_, h.unforced⟩
        · obtain ⟨same, known⟩ := h.cached key sample found
          exact ⟨same, known.calibration, known.revision, known.named, known.valid⟩
        · rw [← unforced] at same
          cases same

theorem discardCalibration (h : Follows env a s) :
    Follows env (a.discardCalibration env).2 { s with inForce := none } := by
  unfold Adapter.discardCalibration
  dsimp only
  split
  · exact lost h.config rfl rfl
  · exact lost h.config rfl rfl

theorem calibrate (h : Follows env a s) (calibrationId : String) (training validation : ℕ → Footage F)
    (clock : ℕ → ℚ) : Follows env (a.calibrate env calibrationId training validation clock).2
      (s.after env (.calibrate calibrationId training validation clock)
        (.calibrated (a.calibrate env calibrationId training validation clock).1)) := by
  unfold Adapter.calibrate
  split
  · exact h
  next ready =>
    rw [Bool.not_eq_true', Bool.not_eq_false, Bool.and_eq_true] at ready
    dsimp only
    split
    next missing =>
      show Follows env _ s
      rw [← h.standing_none (.inr (.inr missing))]
      exact lost h.config rfl rfl
    next estimator =>
      split
      · exact lost h.config rfl rfl
      · exact lost h.config rfl rfl
      · exact lost h.config rfl rfl
      next model trained =>
        split
        · exact lost h.config rfl rfl
        · exact lost h.config rfl rfl
        next metrics validated =>
          split
          next passed =>
            rw [h.config] at trained validated
            have found : s.calibrated env calibrationId training validation clock =
                some { calibrationId := calibrationId, model := model, proof := .validated metrics } := by
              unfold Standing.calibrated
              rw [trained]
              dsimp only
              rw [validated]
            unfold Standing.after
            dsimp only
            rw [if_pos rfl, found]
            exact gained h.config rfl ready rfl rfl passed
          · exact lost h.config rfl rfl

theorem after_refused (calibrationId : String) (outcome : EngineOutcome M) (e : AdapterError) :
    s.after env (.calibrateSynchronized calibrationId outcome) (.calibrated (.error e)) = s := by
  cases outcome <;> rfl

theorem calibrateSynchronized (h : Follows env a s) (calibrationId : String) (outcome : EngineOutcome M) :
    Follows env (a.calibrateSynchronized env calibrationId outcome).2
      (s.after env (.calibrateSynchronized calibrationId outcome)
        (.calibrated (a.calibrateSynchronized env calibrationId outcome).1)) := by
  unfold Adapter.calibrateSynchronized
  split
  · rw [after_refused]
    exact h
  next ready =>
    rw [Bool.not_eq_true', Bool.not_eq_false, Bool.and_eq_true] at ready
    dsimp only
    split
    next missing =>
      rw [after_refused, ← h.standing_none (.inr (.inr missing))]
      exact lost h.config rfl rfl
    · exact lost h.config rfl rfl
    · exact lost h.config rfl rfl
    next model width height widthPos heightPos qualityValid estimator =>
      refine gained (s := ⟨_, none⟩) ?_ rfl ready rfl rfl rfl
      rw [h.config]

/-- Frames read before stay explained. -/
theorem explained_infer {fields : SampleFields} {outcome : Outcome} (frame : Frame F) (context : StreamFrameContext)
    (h : Explained env s fields) : Explained env (s.after env (.infer frame context) outcome) fields := by
  obtain ⟨force, inForce, passed, id, frame', seen, read⟩ := h
  refine ⟨{ force with seen := (frame, context) :: force.seen }, ?_, passed, id, frame', .tail _ seen, read⟩
  unfold Standing.after
  rw [inForce]
  rfl

/-- What is made of a frame is explained by the calibration in force. -/
theorem known_of_made (h : Follows env a s) {frame : Frame F} {context : StreamFrameContext}
    {fields : SampleFields} (outcome : Outcome) (made : Made env a.held frame context fields) :
    Known env a.held (s.after env (.infer frame context) outcome) fields where
  calibration := made.calibration
  revision := made.revision
  named := by
    rw [made.context_eq]
    exact made.named
  valid valid := by
    obtain ⟨calibrated, model, estimator, read⟩ := made.valid valid
    cases inForce : s.inForce with
    | none => exact absurd (calibrated.symm.trans (h.unforced inForce)) Bool.false_ne_true.symm
    | some force =>
      obtain ⟨-, -, named, fitted, passed⟩ := h.force force inForce
      cases fitted.symm.trans estimator
      refine ⟨{ force with seen := (frame, context) :: force.seen }, ?_, passed, ?_, frame, ?_, ?_⟩
      · unfold Standing.after
        rw [inForce]
        rfl
      · exact Option.some.inj (made.calibration.symm.trans named)
      · rw [made.context_eq]
        exact .head _
      · have config : s.config = a.held.config := h.config.symm
        show ReadBy env s.config force.model frame fields
        rw [config]
        exact read

theorem infer (h : Follows env a s) (frame : Frame F) (context : StreamFrameContext) :
    Agrees env (.infer frame context) s (step env a (.infer frame context)) := by
  have served := a.infer_serves env frame context
  show Agrees env _ s (.sampled (a.infer env frame context).1, (a.infer env frame context).2)
  generalize a.infer env frame context = r at served ⊢
  obtain ⟨result, left⟩ := r
  have held : left.held = a.held := served.held
  -- a sample that is returned or cached is one of the cache before, or one made of this frame
  have known {key : String} {sample : Sample} (old : a.sampleCache.get? key = some sample) :
      Known env left.held (s.after env (.infer frame context) (.sampled result)) sample.fields := by
    obtain ⟨-, before⟩ := h.cached key sample old
    rw [held]
    exact ⟨before.calibration, before.revision, before.named, fun valid =>
      explained_infer frame context (before.valid valid)⟩
  refine ⟨⟨?_, fun key sample found => ?_, ?_, ?_⟩, fun frame' context' sample call same => ?_⟩
  · exact (congrArg Held.config held).trans h.config
  · rcases served.cached key sample found with old | ⟨rfl, made | ⟨id, sample', named, same, old⟩⟩
    · exact ⟨(h.cached key sample old).1, known old⟩
    · rw [held]
      exact ⟨rfl, h.known_of_made _ made⟩
    · rw [← same]
      exact ⟨rfl, known old⟩
  · intro force inForce
    obtain ⟨force', before, rfl⟩ := Option.map_eq_some_iff.1 inForce
    obtain ⟨initialized, warmed, named, fitted, passed⟩ := h.force force' before
    exact ⟨(congrArg Held.initialized held).trans initialized, (congrArg Held.warmed held).trans warmed,
      (congrArg Held.calibrationId held).trans named, (congrArg Held.estimator held).trans fitted, passed⟩
  · intro unforced
    exact (congrArg Held.calibrated held).trans (h.unforced (Option.map_eq_none_iff.1 unforced))
  · cases call
    cases same
    rcases served.result sample rfl with made | ⟨id, sample', named, same, old⟩
    · obtain ⟨-, -, named, valid⟩ := h.known_of_made (.sampled (.ok sample)) made
      exact ⟨made.named, named, valid⟩
    · obtain ⟨key, before⟩ := h.cached _ sample' old
      rw [← same]
      refine ⟨?_, before.named, fun valid => explained_infer frame context (before.valid valid)⟩
      have calibration : sample'.fields.calibrationId = id :=
        Option.some.inj (before.calibration.symm.trans named)
      have revision : sample'.fields.modelRevision = a.modelRevision := before.revision
      unfold Named
      rw [calibration, revision]
      exact key.symm

theorem agrees {call : Call F M} {outcome : Outcome} (left : Follows env b (s.after env call outcome))
    (other : ∀ frame context, call ≠ .infer frame context) : Agrees env call s (outcome, b) :=
  ⟨left, fun frame context _ same => absurd same (other frame context)⟩

theorem step (h : Follows env a s) (call : Call F M) : Agrees env call s (EyeTrax.step env a call) := by
  cases call with
  | initializeAdapter created =>
    show Agrees env _ s (.done (a.initializeAdapter created).1, (a.initializeAdapter created).2)
    exact agrees (h.initializeAdapter created) (by simp)
  | warmup extracted closed =>
    show Agrees env _ s (.done (a.warmup extracted closed).1, (a.warmup extracted closed).2)
    exact agrees (h.warmup extracted closed) (by simp)
  | calibrate calibrationId training validation clock =>
    show Agrees env _ s (.calibrated (a.calibrate env calibrationId training validation clock).1,
      (a.calibrate env calibrationId training validation clock).2)
    exact agrees (h.calibrate calibrationId training validation clock) (by simp)
  | calibrateSynchronized calibrationId outcome =>
    show Agrees env _ s (.calibrated (a.calibrateSynchronized env calibrationId outcome).1,
      (a.calibrateSynchronized env calibrationId outcome).2)
    exact agrees (h.calibrateSynchronized calibrationId outcome) (by simp)
  | discardCalibration =>
    show Agrees env _ s (.done (a.discardCalibration env).1, (a.discardCalibration env).2)
    exact agrees h.discardCalibration (by simp)
  | infer frame context => exact h.infer frame context
  | dispose closed =>
    show Agrees env _ s (.done (a.dispose closed).1, (a.dispose closed).2)
    exact agrees (h.dispose closed) (by simp)

theorem run (h : Follows env a s) {calls : List (Call F M)} {frame : Frame F} {context : StreamFrameContext}
    {sample : Sample} {standing : Standing F M}
    (returned : (.infer frame context, .sampled (.ok sample), standing) ∈ standings env a s calls) :
    Returned env standing context sample.fields := by
  induction calls generalizing a s with
  | nil => cases returned
  | cons call rest ih =>
    obtain ⟨left, samples⟩ := h.step call
    rcases List.mem_cons.1 returned with now | later
    · injection now with same pair
      injection pair with outcome after
      rw [after]
      exact samples frame context sample same.symm outcome.symm
    · exact ih left later

end Follows

section

variable {F M S ε : Type} {env : EyeTraxEnv F M S ε} {config : EyeTraxConfig} {calls : List (Call F M)}
  {frame : Frame F} {context : StreamFrameContext} {sample : Sample} {standing : Standing F M}

theorem follows_new (config : EyeTraxConfig) :
    Follows env (Adapter.new config : Adapter S M) ({ config := config } : Standing F M) where
  config := rfl
  cached _ _ found := nomatch found
  force := nofun
  unforced _ := rfl

/-- A valid sample has its two coordinates, both in the unit interval. -/
theorem Sample.unit_coordinates (sample : Sample) (valid : sample.fields.valid = true) :
    ∃ x y, sample.fields.screenXNorm = some x ∧ sample.fields.screenYNorm = some y ∧
      (0 ≤ x ∧ x ≤ 1) ∧ 0 ≤ y ∧ y ≤ 1 := by
  have accepted := sample.accepted
  unfold SampleFields.checks at accepted
  rw [if_pos valid] at accepted
  cases x : sample.fields.screenXNorm with
  | none => simp [x] at accepted
  | some x' =>
    cases y : sample.fields.screenYNorm with
    | none => simp [y] at accepted
    | some y' =>
      simp only [x, y, isUnit, List.all_append, List.all_cons, Option.all_some, Bool.and_eq_true,
        decide_eq_true_eq] at accepted
      exact ⟨x', y', rfl, rfl, accepted.2.2.2.1.1, accepted.2.2.2.1.2⟩

end

/-- A library that always predicts the same point. -/
def fixedLibrary : GazeLibrary ℕ ℕ where
  createModel _ := 0
  train _ features _ := .ok features.length
  predict _ _ := .ok [[.finite 250, .finite 125]]
  errors _ _ := .ok []
  percentiles _ := (.finite 0, .finite 0)

def fixedEnv : EyeTraxEnv ℕ ℕ Unit Unit where
  library := fixedLibrary
  smoothing := ⟨fun _ _ => .error (), fun s _ => (.error (), s)⟩
  eventId _ _ context := context.frameId
  diagonalError _ _ _ := 0
  sink := none
  aoiEvaluator := none

theorem viewport_pos : (0 : ℤ) < 1000 := by decide

def squareConfig : EyeTraxConfig := ⟨1000, 1000, .raw, viewport_pos, viewport_pos⟩

def firstContext : StreamFrameContext := ⟨"s-1", "v-1", "f-1", 1, 10, 10, 0⟩

/-- A session calibration and a frame. -/
def shortRun : List (Call ℕ ℕ) :=
  [.initializeAdapter (.ok 0), .warmup (.ok ()) (.ok ()),
    .calibrateSynchronized "c-1" (.passed 7 1000 1000 viewport_pos viewport_pos true),
    .infer (.extracted (.ok (some 3, false))) firstContext]

def firstFields : SampleFields :=
  ⟨"f-1", firstContext, sourceRevision ++ "+" ++ "raw-v1" ++ "+calibration-v2" ++ "", "c-1", true, 1, none,
    some (1 / 4), some (1 / 8)⟩

/-- The fields of a sample that was returned. -/
def Outcome.fields : Outcome → Option SampleFields
  | .sampled (.ok sample) => some sample.fields
  | _ => none

theorem Outcome.of_fields {outcome : Outcome} {fields : SampleFields} (h : outcome.fields = some fields) :
    ∃ sample, outcome = .sampled (.ok sample) ∧ sample.fields = fields := by
  unfold Outcome.fields at h
  split at h
  next sample => exact ⟨sample, rfl, Option.some.inj h⟩
  · cases h

end Mkk.Eye.EyeTrax
