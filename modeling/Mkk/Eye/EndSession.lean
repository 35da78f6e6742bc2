import Mkk.Eye.WorkerBinding

/-!
# Ending a session at the Eye worker

The cancel event is one for the whole runtime and `end_session` looks at three bindings twice.
`calibrations_kept_apart` says that this is enough: one calibration at a time, no other visitor's
calibration is touched, and an ended session has no gaze until a calibration begun after the call
has returned valid. A calibration returns with its final section.
-/

namespace Mkk.Eye

open Lib

/-! ## The bindings -/

/-- How the three bindings, the queue and the calibration in progress go together. -/
structure BindInv (s : EyeWorkerRuntime) : Prop where
  idle : s.ready = true → s.calibrationQueue = none → s.calibrating = none
  quiet : s.calibrating = none → s.calibrationQueue = none
  unbound : s.calibrating = none → s.binding = none
  bound : ∀ c, s.calibrating = some c →
    s.binding = some c.calibration.binding ∨ s.ready = false
  busy : s.calibrating ≠ none → s.calibratedBinding = none
  summary : ∀ b, s.summaryBinding = some b →
    (s.binding = none ∨ s.binding = some b) ∧
      (s.calibratedBinding = none ∨ s.calibratedBinding = some b)
  closed : s.ready = false → s.calibrationQueue = none ∧ s.binding = none ∧
    s.calibratedBinding = none ∧ s.summaryBinding = none
  disposed : s.adapter.disposed = true → s.ready = false

section
variable {s t : EyeWorkerRuntime} {a a' : EyeTraxAdapter}

theorem infer_disposed {frame : StreamFrameContext} {reading : Reading} {sample : GazeSample}
    (h : a.infer frame reading = some (sample, a')) : a'.disposed = a.disposed := by
  have entered : (a.enterStream frame).disposed = a.disposed := by
    unfold EyeTraxAdapter.enterStream
    dsimp only
    split <;> rfl
  unfold EyeTraxAdapter.infer at h
  split at h
  · cases h
  · split at h
    · cases h
    · split at h
      · cases h
        rfl
      · dsimp only at h
        split_ifs at h
        all_goals
          cases h
          exact entered

theorem discardCalibration_eq_none (h : a.discardCalibration = none) : a.disposed = true := by
  unfold EyeTraxAdapter.discardCalibration at h
  split at h
  · assumption
  · cases h

theorem BindInv.start (loaded : Bool) : BindInv (EyeWorkerRuntime.start loaded) where
  idle _ _ := rfl
  quiet _ := rfl
  unbound _ := rfl
  bound _ h := nomatch h
  busy h := absurd rfl h
  summary _ h := nomatch h
  closed _ := ⟨rfl, rfl, rfl, rfl⟩
  disposed h := nomatch h

/-- Calls, answers and the frames that are counted do not matter. -/
theorem BindInv.calls (inv : BindInv s) {inferring : List InferCall} {sequence : ℤ}
    {replies : List (StreamFrameContext × InferReply)} :
    BindInv { s with
      inferring := inferring
      lastCalibrationSequence := sequence
      replies := replies } :=
  { inv with }

theorem BindInv.begin (inv : BindInv s) {payload : CalibrationPayload}
    (h : s.beginCalibration payload = .ok t) : BindInv t := by
  obtain ⟨ready, -, calibration, source, binding, rfl⟩ := beginCalibration_spec h
  exact {
    idle := fun _ h => nomatch h
    quiet := fun h => nomatch h
    unbound := fun h => nomatch h
    bound := by
      intro c hc
      cases hc
      exact .inl (congrArg some binding.symm)
    busy := fun _ => rfl
    summary := by
      intro b hb
      cases hb
      exact ⟨.inr rfl, .inl rfl⟩
    closed := by
      intro shut
      change s.ready = false at shut
      rw [ready] at shut
      cases shut
    disposed := inv.disposed }

/-- The calibration in progress goes on, with the adapter it left. -/
theorem BindInv.restage (inv : BindInv s) {c : CalibrationCall} (hc : s.calibrating = some c)
    (stage : CalibrationStage) {a : EyeTraxAdapter} (kept : a.disposed = s.adapter.disposed) :
    BindInv { s with adapter := a, calibrating := some { c with stage } } where
  idle ready unused := by
    have none := inv.idle ready unused
    rw [hc] at none
    cases none
  quiet h := nomatch h
  unbound h := nomatch h
  bound c' hc' := by
    cases hc'
    exact inv.bound c hc
  busy _ := inv.busy (by rw [hc]; exact Option.some_ne_none c)
  summary := inv.summary
  closed := inv.closed
  disposed h := inv.disposed (kept ▸ h)

/-- The queue of a calibration in progress holds other frames. -/
theorem BindInv.requeue (inv : BindInv s) {number : ℕ} {old new : List StreamFrameContext}
    (hqueue : s.calibrationQueue = some (number, old))
    {queued : List (ℕ × StreamFrameContext)} :
    BindInv { s with calibrationQueue := some (number, new), queued := queued } :=
  { inv with
    idle := fun _ h => nomatch h
    quiet := by
      intro h
      rw [inv.quiet h] at hqueue
      cases hqueue
    closed := by
      intro shut
      rw [(inv.closed shut).1] at hqueue
      cases hqueue }

theorem BindInv.finish (inv : BindInv s) {c : CalibrationCall} (hc : s.calibrating = some c)
    (valid : Bool) : BindInv (s.finishCalibration c valid) := by
  have busy := inv.busy (by rw [hc]; exact Option.some_ne_none c)
  unfold EyeWorkerRuntime.finishCalibration
  dsimp only
  split
  · -- the adapter raised, so the runtime was closed
    rename_i raised
    have shut : s.ready = false := by
      split at raised
      · cases raised
      · exact inv.disposed (discardCalibration_eq_none raised)
    obtain ⟨queue, binding, calibrated, summary⟩ := inv.closed shut
    exact { inv with
      idle := fun _ _ => rfl
      quiet := fun _ => queue
      unbound := fun _ => binding
      bound := fun _ h => nomatch h
      busy := fun h => absurd rfl h }
  · rename_i adapter settled
    have kept : adapter.disposed = s.adapter.disposed := by
      split at settled
      · cases settled
        rfl
      · exact (discardCalibration_none settled).2
    exact {
      idle := fun _ _ => rfl
      quiet := fun _ => rfl
      unbound := fun _ => rfl
      bound := fun _ h => nomatch h
      busy := fun h => absurd rfl h
      summary := by
        intro b hb
        refine ⟨.inl rfl, ?_⟩
        dsimp only
        split
        · exact (inv.summary b hb).1
        · exact .inl rfl
      closed := by
        intro shut
        obtain ⟨-, binding, -, summary⟩ := inv.closed shut
        refine ⟨rfl, rfl, ?_, summary⟩
        dsimp only
        rw [binding]
        exact ite_self none
      disposed := fun h => inv.disposed (kept ▸ h) }

theorem BindInv.endSessionLocked (inv : BindInv s) (i : ℕ) (binding : Binding) :
    BindInv (s.endSessionLocked i binding) := by
  unfold EyeWorkerRuntime.endSessionLocked
  dsimp only
  split
  · exact { inv with }
  · split
    · exact { inv with }
    · exact { inv with
        busy := fun _ => rfl
        summary := fun _ h => nomatch h
        closed := by
          intro shut
          obtain ⟨queue, binding, -, -⟩ := inv.closed shut
          exact ⟨queue, binding, rfl, rfl⟩
        disposed := by
          intro h
          dsimp only at h
          split at h
          · cases hdiscard : s.adapter.discardCalibration with
            | none => exact inv.disposed (discardCalibration_eq_none hdiscard)
            | some a =>
              rw [hdiscard] at h
              exact inv.disposed ((discardCalibration_none hdiscard).2 ▸ h)
          · exact inv.disposed h }

theorem BindInv.closeLocked (s : EyeWorkerRuntime) : BindInv s.closeLocked where
  idle h := nomatch h
  quiet _ := rfl
  unbound _ := rfl
  bound _ _ := .inr rfl
  busy _ := rfl
  summary _ h := nomatch h
  closed _ := ⟨rfl, rfl, rfl, rfl⟩
  disposed _ := rfl

/-- **One step keeps the bindings together.** -/
theorem BindInv.step (inv : BindInv s) {l : EyeWorkerStep} (h : eyeWorkerStep s l = some t) :
    BindInv t := by
  cases l with
  | begin payload =>
    simp only [eyeWorkerStep] at h
    split at h
    · cases h
      exact inv
    · rename_i begun
      cases h
      exact inv.begin begun
  | enter =>
    simp only [eyeWorkerStep] at h
    split at h
    · rename_i hc
      cases h
      unfold EyeWorkerRuntime.enterCalibration
      split
      · exact inv.restage hc _ rfl
      · exact inv.restage hc _ rfl
    · cases h
  | take =>
    simp only [eyeWorkerStep] at h
    split at h
    · rename_i hc
      unfold EyeWorkerRuntime.takeFrame at h
      split at h
      · rename_i hqueue
        split at h
        · cases h
          exact (inv.requeue hqueue).restage hc _ rfl
        · cases h
      · cases h
    · cases h
  | leave valid =>
    simp only [eyeWorkerStep] at h
    split at h
    · rename_i number calibration taken hc
      cases h
      have kept := endCalibration_disposed (a := s.adapter) calibration.synchronized valid taken
      unfold EyeWorkerRuntime.leaveCalibration
      split
      · cases hqueue : s.calibrationQueue with
        | none =>
          have := inv.restage hc (.left valid) kept
          exact { this with
            idle := fun ready _ => this.idle ready hqueue
            quiet := fun _ => rfl
            closed := fun shut => ⟨rfl, (this.closed shut).2⟩ }
        | some queue => exact (inv.requeue hqueue).restage hc _ kept
      · exact inv.restage hc _ kept
    · cases h
  | finish =>
    simp only [eyeWorkerStep] at h
    split at h
    · rename_i hc
      cases h
      exact inv.finish hc _
    · cases h
  | infer frame =>
    cases h
    unfold EyeWorkerRuntime.inferSnapshot
    split
    · exact inv.calls
    · split
      · exact inv.calls
      · split_ifs
        · exact inv.calls
        · exact inv.calls
        · exact inv.calls
  | accept i =>
    simp only [eyeWorkerStep] at h
    split at h
    · cases h
      unfold EyeWorkerRuntime.admitFrame
      split
      · exact inv.calls
      · exact inv.calls
    · cases h
  | enqueue i =>
    simp only [eyeWorkerStep] at h
    split at h
    · cases h
      unfold EyeWorkerRuntime.enqueueFrame
      dsimp only
      split
      · rename_i hqueue
        split
        · exact (inv.requeue hqueue).calls
        · exact inv.calls
      · exact inv.calls
    · cases h
  | predict i reading =>
    simp only [eyeWorkerStep] at h
    split at h
    · split_ifs at h
      cases h
      unfold EyeWorkerRuntime.predictGaze
      dsimp only
      split
      · exact inv.calls
      · rename_i hsample
        exact { inv with disposed := fun h => inv.disposed (infer_disposed hsample ▸ h) }
    · cases h
  | undecodable i =>
    obtain ⟨_, -, rfl⟩ := Option.map_eq_some_iff.1 h
    exact inv.calls
  | endSession sessionId videoId =>
    cases h
    unfold EyeWorkerRuntime.endSession
    split
    · exact { inv with }
    · exact inv
  | endSessionLocked i =>
    simp only [eyeWorkerStep] at h
    split_ifs at h
    obtain ⟨binding, -, rfl⟩ := Option.map_eq_some_iff.1 h
    exact inv.endSessionLocked i binding
  | cancel calibrationId binding =>
    cases h
    unfold EyeWorkerRuntime.cancelMatchingCalibration
    split
    · exact { inv with }
    · exact inv
  | close =>
    cases h
    exact { inv with }
  | closeLocked =>
    simp only [eyeWorkerStep] at h
    split_ifs at h
    cases h
    exact .closeLocked s

theorem BindInv.run {G : EyeWorkerRuntime → EyeWorkerStep → Prop} {ls : List EyeWorkerStep}
    (inv : BindInv s) (run : Lts.Steps eyeWorkerStep G s ls t) : BindInv t :=
  run.invariant (fun _ _ _ inv _ h => BindInv.step inv h) inv

end

/-! ## Other sessions -/

/-- The step is a section of an `end_session` or a cancel for the binding. -/
def Ends (s : EyeWorkerRuntime) (binding : Binding) : EyeWorkerStep → Prop
  | .endSession sessionId videoId => (some sessionId, some videoId) = binding
  | .endSessionLocked i => s.ending[i]? = some binding
  | .cancel _ other => other = binding
  | _ => False

/-- A calibration of the binding is in progress or is the one that answers. -/
def Holds (s : EyeWorkerRuntime) (binding : Binding) : Prop :=
  (∃ c, s.calibrating = some c ∧ c.calibration.binding = binding) ∨
    s.calibratedBinding = some binding

/-- The step neither ends nor cancels for the binding, nor closes the runtime. -/
def Others (binding : Binding) (s : EyeWorkerRuntime) (l : EyeWorkerStep) : Prop :=
  ¬ Ends s binding l ∧ l ≠ .close

section
variable {s t : EyeWorkerRuntime} {l : EyeWorkerStep} {b b' : Binding}

/-- A session that another calibration stands against concerns no binding. -/
theorem BindInv.unconcerned (inv : BindInv s) (holds : Holds s b') (other : b ≠ b') :
    s.concerns b = false ∧ s.binding ≠ some b := by
  have apart : s.binding ≠ some b ∧ s.calibratedBinding ≠ some b ∧ s.summaryBinding ≠ some b := by
    rcases holds with ⟨c, hc, rfl⟩ | held
    · have busy := inv.busy (by rw [hc]; exact Option.some_ne_none c)
      rw [busy]
      rcases inv.bound c hc with bound | shut
      · refine ⟨fun h => other ?_, nofun, fun h => other ?_⟩
        · rw [bound] at h
          exact (Option.some.inj h).symm
        · rcases (inv.summary b h).1 with none | same
          · rw [none] at bound
            cases bound
          · rw [bound] at same
            exact (Option.some.inj same).symm
      · obtain ⟨-, binding, -, summary⟩ := inv.closed shut
        rw [binding, summary]
        exact ⟨nofun, nofun, nofun⟩
    · have free : s.calibrating = none := by
        by_contra busy
        rw [inv.busy busy] at held
        cases held
      rw [inv.unbound free, held]
      refine ⟨nofun, fun h => other (Option.some.inj h).symm, fun h => other ?_⟩
      rcases (inv.summary b h).2 with none | same
      · rw [none] at held
        cases held
      · rw [held] at same
        exact (Option.some.inj same).symm
  refine ⟨?_, apart.1⟩
  unfold EyeWorkerRuntime.concerns
  rw [decide_eq_false_iff_not, List.mem_cons, List.mem_cons, List.mem_singleton]
  rintro (h | h | h)
  · exact apart.1 h.symm
  · exact apart.2.1 h.symm
  · exact apart.2.2 h.symm

/-- **Ending one session leaves the calibration of another alone**: only the call itself moves on. -/
theorem BindInv.spared (inv : BindInv s) (ends : Ends s b l) (holds : Holds s b') (other : b ≠ b')
    (h : eyeWorkerStep s l = some t) : t = { s with ending := t.ending } := by
  obtain ⟨unconcerned, unbound⟩ := inv.unconcerned holds other
  cases l with
  | endSession sessionId videoId =>
    cases ends
    cases h
    unfold EyeWorkerRuntime.endSession
    rw [unconcerned]
    rfl
  | endSessionLocked i =>
    simp only [eyeWorkerStep] at h
    split_ifs at h
    obtain ⟨binding, found, rfl⟩ := Option.map_eq_some_iff.1 h
    change s.ending[i]? = some b at ends
    rw [ends] at found
    cases found
    have still : EyeWorkerRuntime.concerns { s with ending := s.ending.eraseIdx i } b = false :=
      unconcerned
    simp only [EyeWorkerRuntime.endSessionLocked, still, Bool.not_false, if_true]
  | cancel calibrationId binding =>
    cases ends
    cases h
    unfold EyeWorkerRuntime.cancelMatchingCalibration
    rw [if_neg fun matching => unbound matching.2]
  | _ => cases ends

/-- The calibration with the number was run for the binding and nothing has cancelled it. -/
structure Untouched (number : ℕ) (b : Binding) (s : EyeWorkerRuntime) : Prop where
  inv : BindInv s
  begun : number < s.calibrations.length
  clear : ∀ c, s.calibrating = some c → c.number = number →
    c.calibration.binding = b ∧ s.calibrationCancel = false

theorem Untouched.begin {payload : CalibrationPayload} (inv : BindInv s)
    (h : s.beginCalibration payload = .ok t) :
    Untouched s.calibrations.length payload.binding t := by
  have kept := inv.begin h
  obtain ⟨-, -, calibration, source, binding, rfl⟩ := beginCalibration_spec h
  refine ⟨kept, ?_, ?_⟩
  · simp
  · intro c hc same
    cases hc
    exact ⟨binding, rfl⟩

/-- The calibration in progress returns valid for the binding it is bound to. -/
structure ReturnsValid (s : EyeWorkerRuntime) (c : CalibrationCall) (l : EyeWorkerStep) : Prop where
  last : l = .finish
  current : s.calibrating = some c
  left : c.stage = .left true
  clear : s.calibrationCancel = false

/-- What a step may do to the calibration in progress, the bindings and the cancel event. -/
inductive Proceeds (s t : EyeWorkerRuntime) : EyeWorkerStep → Prop where
  | begun (payload : CalibrationPayload) (begun : s.beginCalibration payload = .ok t) :
      Proceeds s t (.begin payload)
  | onward (l : EyeWorkerStep) (kept : t.calibrations = s.calibrations)
      (same : ∀ c, t.calibrating = some c → ∃ c', s.calibrating = some c' ∧
        c'.number = c.number ∧ c'.calibration = c.calibration)
      (event : t.calibrationCancel = s.calibrationCancel ∨
        t.calibrationCancel = true ∧ ((∃ b, Ends s b l) ∨ l = .close))
      (binding : t.binding = s.binding ∨ t.binding = none)
      (answers : t.calibratedBinding = s.calibratedBinding ∨ t.calibratedBinding = none ∨
        t.calibratedBinding = s.binding ∧ ∃ c, ReturnsValid s c l) :
      Proceeds s t l

/-- A step that leaves the calibration in progress and the cancel event. -/
theorem Proceeds.same (l : EyeWorkerStep) (kept : t.calibrations = s.calibrations)
    (same : t.calibrating = s.calibrating)
    (event : t.calibrationCancel = s.calibrationCancel) (binding : t.binding = s.binding)
    (answers : t.calibratedBinding = s.calibratedBinding) : Proceeds s t l :=
  .onward l kept (fun c hc => ⟨c, same ▸ hc, rfl, rfl⟩) (.inl event) (.inl binding) (.inl answers)

/-- A step that moves the calibration in progress on. -/
theorem Proceeds.restage (l : EyeWorkerStep) {c : CalibrationCall} {stage : CalibrationStage}
    (current : s.calibrating = some c) (kept : t.calibrations = s.calibrations)
    (now : t.calibrating = some { c with stage })
    (event : t.calibrationCancel = s.calibrationCancel) (binding : t.binding = s.binding)
    (answers : t.calibratedBinding = s.calibratedBinding) : Proceeds s t l := by
  refine .onward l kept (fun c' hc' => ?_) (.inl event) (.inl binding) (.inl answers)
  rw [now] at hc'
  cases hc'
  exact ⟨c, current, rfl, rfl⟩

theorem proceeds_of_step (h : eyeWorkerStep s l = some t) : Proceeds s t l := by
  cases l with
  | begin payload =>
    simp only [eyeWorkerStep] at h
    split at h
    · cases h
      exact .same _ rfl rfl rfl rfl rfl
    · rename_i begun
      cases h
      exact .begun payload begun
  | enter =>
    simp only [eyeWorkerStep] at h
    split at h
    · rename_i hc
      cases h
      unfold EyeWorkerRuntime.enterCalibration
      split
      · exact .restage _ hc rfl rfl rfl rfl rfl
      · exact .restage _ hc rfl rfl rfl rfl rfl
    · cases h
  | take =>
    simp only [eyeWorkerStep] at h
    split at h
    · rename_i hc
      unfold EyeWorkerRuntime.takeFrame at h
      split at h
      · split at h
        · cases h
          exact .restage _ hc rfl rfl rfl rfl rfl
        · cases h
      · cases h
    · cases h
  | leave valid =>
    simp only [eyeWorkerStep] at h
    split at h
    · rename_i hc
      cases h
      exact .restage _ hc rfl rfl rfl rfl rfl
    · cases h
  | finish =>
    simp only [eyeWorkerStep] at h
    split at h
    · rename_i valid hc
      cases h
      unfold EyeWorkerRuntime.finishCalibration
      dsimp only
      split
      · exact .onward _ rfl (fun _ now => by cases now) (.inl rfl) (.inl rfl) (.inl rfl)
      · refine .onward _ rfl (fun _ now => by cases now) (.inl rfl) (.inr rfl) (.inr ?_)
        dsimp only
        split
        · rename_i stands
          rw [Bool.and_eq_true, Bool.not_eq_true'] at stands
          exact .inr ⟨rfl, _, rfl, hc, congrArg _ stands.1, stands.2⟩
        · exact .inl rfl
    · cases h
  | infer frame =>
    cases h
    unfold EyeWorkerRuntime.inferSnapshot
    split
    · exact .same _ rfl rfl rfl rfl rfl
    · split
      · exact .same _ rfl rfl rfl rfl rfl
      · split_ifs
        · exact .same _ rfl rfl rfl rfl rfl
        · exact .same _ rfl rfl rfl rfl rfl
        · exact .same _ rfl rfl rfl rfl rfl
  | accept i =>
    simp only [eyeWorkerStep] at h
    split at h
    · cases h
      unfold EyeWorkerRuntime.admitFrame
      split
      · exact .same _ rfl rfl rfl rfl rfl
      · exact .same _ rfl rfl rfl rfl rfl
    · cases h
  | enqueue i =>
    simp only [eyeWorkerStep] at h
    split at h
    · cases h
      unfold EyeWorkerRuntime.enqueueFrame
      dsimp only
      split
      · split
        · exact .same _ rfl rfl rfl rfl rfl
        · exact .same _ rfl rfl rfl rfl rfl
      · exact .same _ rfl rfl rfl rfl rfl
    · cases h
  | predict i reading =>
    simp only [eyeWorkerStep] at h
    split at h
    · split_ifs at h
      cases h
      unfold EyeWorkerRuntime.predictGaze
      dsimp only
      split
      · exact .same _ rfl rfl rfl rfl rfl
      · exact .same _ rfl rfl rfl rfl rfl
    · cases h
  | undecodable i =>
    obtain ⟨_, -, rfl⟩ := Option.map_eq_some_iff.1 h
    exact .same _ rfl rfl rfl rfl rfl
  | endSession sessionId videoId =>
    cases h
    have ends : ∃ b, Ends s b (.endSession sessionId videoId) := ⟨_, rfl⟩
    unfold EyeWorkerRuntime.endSession
    split
    · exact .onward _ rfl (fun c now => ⟨c, now, rfl, rfl⟩) (.inr ⟨rfl, .inl ends⟩)
        (.inl rfl) (.inl rfl)
    · exact .same _ rfl rfl rfl rfl rfl
  | endSessionLocked i =>
    simp only [eyeWorkerStep] at h
    split_ifs at h
    obtain ⟨binding, found, rfl⟩ := Option.map_eq_some_iff.1 h
    unfold EyeWorkerRuntime.endSessionLocked
    dsimp only
    split
    · exact .same _ rfl rfl rfl rfl rfl
    · split
      · exact .same _ rfl rfl rfl rfl rfl
      · exact .onward _ rfl (fun c now => ⟨c, now, rfl, rfl⟩) (.inl rfl) (.inl rfl) (.inr (.inl rfl))
  | cancel calibrationId binding =>
    cases h
    have ends : ∃ b, Ends s b (.cancel calibrationId binding) := ⟨_, rfl⟩
    unfold EyeWorkerRuntime.cancelMatchingCalibration
    split
    · exact .onward _ rfl (fun c now => ⟨c, now, rfl, rfl⟩) (.inr ⟨rfl, .inl ends⟩)
        (.inl rfl) (.inl rfl)
    · exact .same _ rfl rfl rfl rfl rfl
  | close =>
    cases h
    exact .onward _ rfl (fun c now => ⟨c, now, rfl, rfl⟩) (.inr ⟨rfl, .inr rfl⟩)
      (.inl rfl) (.inl rfl)
  | closeLocked =>
    simp only [eyeWorkerStep] at h
    split_ifs at h
    cases h
    exact .onward _ rfl (fun c now => ⟨c, now, rfl, rfl⟩) (.inl rfl) (.inr rfl) (.inr (.inl rfl))

theorem Untouched.step {number : ℕ} (kept : Untouched number b s) (others : Others b s l)
    (h : eyeWorkerStep s l = some t) : Untouched number b t := by
  have inv := kept.inv.step h
  cases proceeds_of_step h with
  | begun payload begun =>
    obtain ⟨-, -, calibration, source, -, rfl⟩ := beginCalibration_spec begun
    refine ⟨inv, ?_, fun c hc same => ?_⟩
    · have := kept.begun
      simp only [List.length_append, List.length_singleton]
      omega
    · cases hc
      exact absurd kept.begun (same ▸ lt_irrefl _)
  | onward _ grown same event binding answers =>
    refine ⟨inv, grown ▸ kept.begun, fun c hc number => ?_⟩
    obtain ⟨c', hc', alike, calibration⟩ := same c hc
    obtain ⟨own, clear⟩ := kept.clear c' hc' (alike.trans number)
    refine ⟨calibration ▸ own, ?_⟩
    rcases event with event | ⟨-, ⟨b', ends⟩ | closed⟩
    · exact event.trans clear
    · have other : b' ≠ b := by
        rintro rfl
        exact others.1 ends
      have spared := kept.inv.spared ends (.inl ⟨c', hc', own⟩) other h
      rw [spared]
      exact clear
    · exact absurd closed others.2

end

/-! ## After the end -/

/-- `end_session` for the binding, called at the first state, has returned at the second. -/
inductive Ended (sessionId videoId : String) : EyeWorkerRuntime → EyeWorkerRuntime → Prop where
  | unconcerned {s : EyeWorkerRuntime} (none : s.concerns (some sessionId, some videoId) = false) :
      Ended sessionId videoId s s
  | concerned {s s₁ s₂ t : EyeWorkerRuntime} {ls : List EyeWorkerStep} {i : ℕ}
      (called : eyeWorkerStep s (.endSession sessionId videoId) = some s₁)
      (run : Lts.Steps eyeWorkerStep Lts.Free s₁ ls s₂)
      (waiting : s₂.ending[i]? = some (some sessionId, some videoId))
      (returned : eyeWorkerStep s₂ (.endSessionLocked i) = some t) : Ended sessionId videoId s t

/-- No calibration of the binding with this number or a later one returns valid at the step. -/
def NoNewCalibration (number : ℕ) (b : Binding) (s : EyeWorkerRuntime) (l : EyeWorkerStep) : Prop :=
  ∀ c, ReturnsValid s c l → c.calibration.binding = b → c.number < number

/-- Where the call that waits at a position waits after the step; `none` when the step ends it. -/
def EyeWorkerStep.follow (s t : EyeWorkerRuntime) (l : EyeWorkerStep) (i : ℕ) : Option ℕ :=
  if t.inferring.length < s.inferring.length then
    match l with
    | .accept j | .enqueue j | .predict j _ | .undecodable j =>
      if i = j then none else some (if j < i then i - 1 else i)
    | _ => some i
  else some i

/-- A step that also follows one `infer` call. -/
def followStep (s : EyeWorkerRuntime × Option ℕ) (l : EyeWorkerStep) :
    Option (EyeWorkerRuntime × Option ℕ) :=
  (eyeWorkerStep s.1 l).map fun t => (t, s.2.bind (l.follow s.1 t))

/-- Nothing that was answered between the two states has a sample. -/
def NoSample (s t : EyeWorkerRuntime) : Prop :=
  ∀ e ∈ t.replies.drop s.replies.length, e.2.gazeSample = none

/-- The `infer` call that starts with the step from `s` to `t` ends without a sample: at once, or
after its other sections. -/
structure Silent (s t : EyeWorkerRuntime) : Prop where
  first : NoSample s t
  later : s.inferring.length < t.inferring.length → ∀ ls u i,
    Lts.Steps followStep Lts.Free (t, some s.inferring.length) ls (u, some i) →
    ∀ l v, eyeWorkerStep u l = some v → l.follow u v i = none → NoSample u v

/-- No more gaze for the binding: it does not answer, and a calibration of it that began before is
cancelled. -/
structure Over (number : ℕ) (b : Binding) (s : EyeWorkerRuntime) : Prop where
  inv : BindInv s
  begun : number ≤ s.calibrations.length
  cancelled : ∀ c, s.calibrating = some c → s.binding = some b → c.number < number →
    s.calibrationCancel = true

section
variable {s t : EyeWorkerRuntime} {l : EyeWorkerStep} {b : Binding} {number : ℕ}

theorem Over.step (ended : Over number b s) (h : eyeWorkerStep s l = some t) : Over number b t := by
  have inv := ended.inv.step h
  have begun := ended.begun
  cases proceeds_of_step h with
  | begun payload started =>
    obtain ⟨-, -, calibration, source, -, rfl⟩ := beginCalibration_spec started
    refine ⟨inv, ?_, fun c hc _ old => ?_⟩
    · simp only [List.length_append, List.length_singleton]
      omega
    · cases hc
      exact absurd old (not_lt.2 begun)
  | onward _ grown same event binding answers =>
    refine ⟨inv, grown ▸ begun, fun c hc own old => ?_⟩
    obtain ⟨c', hc', alike, -⟩ := same c hc
    have own' : s.binding = some b := by
      rcases binding with kept | none
      · exact kept ▸ own
      · rw [none] at own
        cases own
    rcases event with event | ⟨set, -⟩
    · exact event.trans (ended.cancelled c' hc' own' (alike ▸ old))
    · exact set

theorem Over.run {G : EyeWorkerRuntime → EyeWorkerStep → Prop} {ls : List EyeWorkerStep}
    (ended : Over number b s) (run : Lts.Steps eyeWorkerStep G s ls t) : Over number b t :=
  run.invariant (fun _ _ _ ended _ h => Over.step ended h) ended

/-- Nothing new answers for the binding while no new calibration of it returns valid. -/
theorem Over.unanswered (ended : Over number b s) (none : s.calibratedBinding ≠ some b)
    (guard : NoNewCalibration number b s l) (h : eyeWorkerStep s l = some t) :
    t.calibratedBinding ≠ some b := by
  cases proceeds_of_step h with
  | begun payload started =>
    obtain ⟨-, -, calibration, source, -, rfl⟩ := beginCalibration_spec started
    nofun
  | onward _ grown same event binding answers =>
    rcases answers with kept | unset | ⟨set, c, valid⟩
    · rw [kept]
      exact none
    · rw [unset]
      nofun
    · rw [set]
      intro own
      have bound : c.calibration.binding = b := by
        rcases ended.inv.bound c valid.current with bound | shut
        · rw [bound] at own
          exact Option.some.inj own
        · rw [(ended.inv.closed shut).2.1] at own
          cases own
      have cancelled := ended.cancelled c valid.current own (guard c valid bound)
      rw [valid.clear] at cancelled
      cases cancelled

/-- A session that is over does not answer once `end_session` has returned. -/
theorem Ended.over {sessionId videoId : String} (ended : Ended sessionId videoId s t)
    (inv : BindInv s) : Over s.calibrations.length (some sessionId, some videoId) t ∧
      t.calibratedBinding ≠ some (some sessionId, some videoId) := by
  have apart {s : EyeWorkerRuntime} {b : Binding} (h : s.concerns b = false) :
      s.binding ≠ some b ∧ s.calibratedBinding ≠ some b := by
    unfold EyeWorkerRuntime.concerns at h
    simp only [List.mem_cons, List.not_mem_nil, decide_eq_false_iff_not, not_or] at h
    exact ⟨Ne.symm h.1, Ne.symm h.2.1⟩
  cases ended with
  | unconcerned none =>
    obtain ⟨unbound, unanswered⟩ := apart none
    exact ⟨⟨inv, le_rfl, fun _ _ own => absurd own unbound⟩, unanswered⟩
  | concerned called run waiting returned =>
    rename_i s₁ s₂ ls i
    have start : Over s.calibrations.length (some sessionId, some videoId) s₁ := by
      have inv₁ := inv.step called
      cases called
      unfold EyeWorkerRuntime.endSession at inv₁ ⊢
      split at inv₁
      · rename_i concerned
        rw [if_pos concerned]
        exact ⟨inv₁, le_rfl, fun _ _ _ _ => rfl⟩
      · rename_i unconcerned
        rw [if_neg unconcerned]
        exact ⟨inv₁, le_rfl, fun _ _ own =>
          absurd own (apart (Bool.not_eq_true _ ▸ unconcerned)).1⟩
    have last := start.run run
    refine ⟨last.step returned, ?_⟩
    simp only [eyeWorkerStep] at returned
    split_ifs at returned
    obtain ⟨binding, found, rfl⟩ := Option.map_eq_some_iff.1 returned
    rw [waiting] at found
    cases found
    unfold EyeWorkerRuntime.endSessionLocked
    dsimp only
    split
    · rename_i none
      rw [Bool.not_eq_true'] at none
      exact (apart none).2
    · split
      · -- another calibration is bound, so nothing answers
        rename_i other
        have busy : s₂.calibrating ≠ none := fun free => other.2 (last.inv.unbound free)
        change s₂.calibratedBinding ≠ _
        rw [last.inv.busy busy]
        rintro ⟨⟩
      · rintro ⟨⟩

/-- What a step does to the waiting calls. -/
inductive CallMove (s t : EyeWorkerRuntime) : EyeWorkerStep → Prop where
  | kept (l : EyeWorkerStep) (same : t.inferring = s.inferring) : CallMove s t l
  | started (l : EyeWorkerStep) (call : InferCall) (last : t.inferring = s.inferring ++ [call]) :
      CallMove s t l
  | admitted (j : ℕ) (frame : StreamFrameContext) (queue : ℕ)
      (moved : t.inferring = s.inferring.set j { frame, stage := .enqueue queue }) :
      CallMove s t (.accept j)
  | ended (j : ℕ) (call : InferCall) (l : EyeWorkerStep) (found : s.inferring[j]? = some call)
      (gone : t.inferring = s.inferring.eraseIdx j)
      (at' : ∀ i, l.follow s t i = if i = j then none else some (if j < i then i - 1 else i))
      (silent : call.stage ≠ .predict → NoSample s t) : CallMove s t l

/-- A call that ends is no longer followed, and the calls behind it move up. -/
theorem follow_of_erase {j : ℕ} {call : InferCall} (found : s.inferring[j]? = some call)
    (gone : t.inferring = s.inferring.eraseIdx j) (i : ℕ) :
    (∀ l ∈ [EyeWorkerStep.accept j, .enqueue j, .undecodable j],
      EyeWorkerStep.follow s t l i = if i = j then none else some (if j < i then i - 1 else i)) ∧
    ∀ reading, EyeWorkerStep.follow s t (.predict j reading) i =
      if i = j then none else some (if j < i then i - 1 else i) := by
  have inside : j < s.inferring.length := (List.getElem?_eq_some_iff.1 found).1
  have shorter : t.inferring.length < s.inferring.length := by
    rw [gone, List.length_eraseIdx_of_lt inside]
    omega
  refine ⟨fun l hl => ?_, fun reading => ?_⟩
  · unfold EyeWorkerStep.follow
    rw [if_pos shorter]
    simp only [List.mem_cons, List.not_mem_nil, or_false] at hl
    rcases hl with rfl | rfl | rfl
    · rfl
    · rfl
    · rfl
  · unfold EyeWorkerStep.follow
    rw [if_pos shorter]

theorem noSample_of_same (same : t.replies = s.replies) : NoSample s t := by
  intro e he
  rw [same, List.drop_length] at he
  cases he

theorem noSample_of_answer {frame : StreamFrameContext} {reason : String}
    (answered : t.replies = s.replies ++ [(frame, ⟨none, some reason⟩)]) : NoSample s t := by
  intro e he
  rw [answered, List.drop_left, List.mem_singleton] at he
  rw [he]

theorem callMove_of_step (h : eyeWorkerStep s l = some t) : CallMove s t l := by
  cases l with
  | begin payload =>
    simp only [eyeWorkerStep] at h
    split at h
    · cases h
      exact .kept _ rfl
    · rename_i begun
      cases h
      obtain ⟨-, -, calibration, source, -, rfl⟩ := beginCalibration_spec begun
      exact .kept _ rfl
  | enter =>
    simp only [eyeWorkerStep] at h
    split at h
    · cases h
      unfold EyeWorkerRuntime.enterCalibration
      split
      · exact .kept _ rfl
      · exact .kept _ rfl
    · cases h
  | take =>
    simp only [eyeWorkerStep] at h
    split at h
    · unfold EyeWorkerRuntime.takeFrame at h
      split at h
      · split at h
        · cases h
          exact .kept _ rfl
        · cases h
      · cases h
    · cases h
  | leave valid =>
    simp only [eyeWorkerStep] at h
    split at h
    · cases h
      exact .kept _ rfl
    · cases h
  | finish =>
    simp only [eyeWorkerStep] at h
    split at h
    · cases h
      unfold EyeWorkerRuntime.finishCalibration
      dsimp only
      split
      · exact .kept _ rfl
      · exact .kept _ rfl
    · cases h
  | infer frame =>
    cases h
    unfold EyeWorkerRuntime.inferSnapshot
    split
    · exact .kept _ rfl
    · split
      · exact .started _ _ rfl
      · split_ifs
        · exact .kept _ rfl
        · exact .kept _ rfl
        · exact .started _ _ rfl
  | accept i =>
    simp only [eyeWorkerStep] at h
    split at h
    · rename_i frame queue binding found
      cases h
      unfold EyeWorkerRuntime.admitFrame
      split
      · exact .admitted i frame queue rfl
      · exact .ended i _ _ found rfl (fun j => (follow_of_erase found rfl j).1 _ (by simp))
          fun _ => noSample_of_answer rfl
    · cases h
  | enqueue i =>
    simp only [eyeWorkerStep] at h
    split at h
    · rename_i frame queue found
      cases h
      have ended {u : EyeWorkerRuntime} (gone : u.inferring = s.inferring.eraseIdx i)
          {reason : String}
          (answered : u.replies = s.replies ++ [(frame, ⟨none, some reason⟩)]) :
          CallMove s u (.enqueue i) :=
        .ended i _ _ found gone (fun j => (follow_of_erase found gone j).1 _ (by simp))
          fun _ => noSample_of_answer answered
      unfold EyeWorkerRuntime.enqueueFrame
      dsimp only
      split
      · split
        · exact ended rfl rfl
        · exact ended rfl rfl
      · exact ended rfl rfl
    · cases h
  | predict i reading =>
    simp only [eyeWorkerStep] at h
    split at h
    · rename_i frame found
      split_ifs at h
      cases h
      unfold EyeWorkerRuntime.predictGaze
      dsimp only
      split
      · exact .ended i _ _ found rfl (fun j => (follow_of_erase found rfl j).2 reading)
          fun other => absurd rfl other
      · exact .ended i _ _ found rfl (fun j => (follow_of_erase found rfl j).2 reading)
          fun other => absurd rfl other
    · cases h
  | undecodable i =>
    obtain ⟨call, found, rfl⟩ := Option.map_eq_some_iff.1 h
    exact .ended i call _ found rfl (fun j => (follow_of_erase found rfl j).1 _ (by simp))
      fun _ => noSample_of_same rfl
  | endSession sessionId videoId =>
    cases h
    unfold EyeWorkerRuntime.endSession
    split
    · exact .kept _ rfl
    · exact .kept _ rfl
  | endSessionLocked i =>
    simp only [eyeWorkerStep] at h
    split_ifs at h
    obtain ⟨binding, -, rfl⟩ := Option.map_eq_some_iff.1 h
    unfold EyeWorkerRuntime.endSessionLocked
    dsimp only
    split
    · exact .kept _ rfl
    · split
      · exact .kept _ rfl
      · exact .kept _ rfl
  | cancel calibrationId binding =>
    cases h
    unfold EyeWorkerRuntime.cancelMatchingCalibration
    split
    · exact .kept _ rfl
    · exact .kept _ rfl
  | close =>
    cases h
    exact .kept _ rfl
  | closeLocked =>
    simp only [eyeWorkerStep] at h
    split_ifs at h
    cases h
    exact .kept _ rfl

/-- The followed call waits and will not reach the adapter. -/
def WaitsApart (s : EyeWorkerRuntime × Option ℕ) : Prop :=
  ∀ i, s.2 = some i → ∃ call, s.1.inferring[i]? = some call ∧ call.stage ≠ .predict

theorem follow_of_grown (longer : ¬ t.inferring.length < s.inferring.length) (i : ℕ) :
    l.follow s t i = some i := by
  unfold EyeWorkerStep.follow
  rw [if_neg longer]

theorem WaitsApart.step {s t : EyeWorkerRuntime × Option ℕ} (waits : WaitsApart s)
    (h : followStep s l = some t) : WaitsApart t := by
  obtain ⟨s, place⟩ := s
  obtain ⟨u, step, rfl⟩ := Option.map_eq_some_iff.1 h
  intro i hi
  dsimp only at hi step ⊢
  obtain ⟨i', rfl, hi'⟩ := Option.bind_eq_some_iff.1 hi
  obtain ⟨call, found, apart⟩ := waits i' rfl
  dsimp only at found
  cases callMove_of_step step with
  | kept _ same =>
    rw [follow_of_grown (by rw [same]; exact lt_irrefl _)] at hi'
    cases hi'
    exact ⟨call, same ▸ found, apart⟩
  | started _ new last =>
    rw [follow_of_grown (by rw [last, List.length_append]; omega)] at hi'
    cases hi'
    refine ⟨call, ?_, apart⟩
    rw [last, List.getElem?_append_left (List.getElem?_eq_some_iff.1 found).1]
    exact found
  | admitted j frame queue moved =>
    rw [follow_of_grown (by rw [moved, List.length_set]; exact lt_irrefl _)] at hi'
    cases hi'
    rw [moved]
    by_cases same : j = i
    · subst same
      exact ⟨_, List.getElem?_set_self (List.getElem?_eq_some_iff.1 found).1,
        fun predict => nomatch predict⟩
    · rw [List.getElem?_set_ne same]
      exact ⟨call, found, apart⟩
  | ended j other _ _ gone at' _ =>
    rw [at'] at hi'
    split_ifs at hi' with same behind
    · cases hi'
      rw [gone, List.getElem?_eraseIdx, if_neg (by omega)]
      exact ⟨call, by rwa [Nat.sub_add_cancel (by omega)], apart⟩
    · cases hi'
      rw [gone, List.getElem?_eraseIdx, if_pos (by omega)]
      exact ⟨call, found, apart⟩

/-- A call that waits apart from the adapter ends without a sample. -/
theorem WaitsApart.silent {i : ℕ} (waits : WaitsApart (s, some i))
    (h : eyeWorkerStep s l = some t) (ends : l.follow s t i = none) : NoSample s t := by
  obtain ⟨call, found, apart⟩ := waits i rfl
  cases callMove_of_step h with
  | kept _ same =>
    rw [follow_of_grown (by rw [same]; exact lt_irrefl _)] at ends
    cases ends
  | started _ new last =>
    rw [follow_of_grown (by rw [last, List.length_append]; omega)] at ends
    cases ends
  | admitted j frame queue moved =>
    rw [follow_of_grown (by rw [moved, List.length_set]; exact lt_irrefl _)] at ends
    cases ends
  | ended j other _ place gone at' silent =>
    rw [at'] at ends
    split_ifs at ends with same
    subst same
    rw [place] at found
    cases found
    exact silent apart

/-- **A frame whose session does not answer gets no sample.** -/
theorem silent_of_unanswered {frame : StreamFrameContext}
    (none : s.calibratedBinding ≠ some frame.binding)
    (h : eyeWorkerStep s (.infer frame) = some t) : Silent s t := by
  have waiting {stage : InferStage} (apart : stage ≠ .predict) :
      Silent s { s with inferring := s.inferring ++ [{ frame, stage }] } := by
    refine ⟨noSample_of_same rfl, fun _ ls u i run l v hv ends => ?_⟩
    have start : WaitsApart
        ({ s with inferring := s.inferring ++ [{ frame, stage }] }, some s.inferring.length) := by
      intro i hi
      cases hi
      exact ⟨_, List.getElem?_concat_length, apart⟩
    have last : WaitsApart (u, some i) :=
      run.invariant (fun _ _ _ waits _ h => WaitsApart.step waits h) start
    exact last.silent hv ends
  have answered {reason : String} : Silent s (s.answer frame reason) :=
    ⟨noSample_of_answer rfl, fun longer => absurd longer (lt_irrefl _)⟩
  cases h
  unfold EyeWorkerRuntime.inferSnapshot
  split
  · exact answered
  · split
    · refine waiting ?_
      split_ifs
      · nofun
      · nofun
    · split_ifs
      · exact answered
      · exact answered

end

/-! ## The guarantees -/

/-- A calibration that begins is the only one, and the queue goes with it. -/
structure OneCalibration (s : EyeWorkerRuntime) : Prop where
  quiet : s.calibrating = none → s.calibrationQueue = none
  alone : ∀ payload t, s.beginCalibration payload = .ok t → s.calibrating = none

/-- `end_session` and a cancel touch nothing while a calibration of another binding is in progress
or answers, and what was called before it began does not cancel it. -/
structure OthersSpared (s : EyeWorkerRuntime) : Prop where
  spared : ∀ l t b b', Ends s b l → Holds s b' → b ≠ b' → eyeWorkerStep s l = some t →
    t = { s with ending := t.ending }
  uncancelled : ∀ payload t, s.beginCalibration payload = .ok t →
    ∀ ls u, Lts.Steps eyeWorkerStep (Others payload.binding) t ls u →
    ∀ c, u.calibrating = some c → c.number = s.calibrations.length → u.calibrationCancel = false

/-- Once `end_session` has returned, an `infer` that starts later gives no sample until a
calibration of the session that began after the call has returned valid. -/
def EndedSilent (s : EyeWorkerRuntime) : Prop :=
  ∀ sessionId videoId t, Ended sessionId videoId s t →
    ∀ ls u, Lts.Steps eyeWorkerStep
        (NoNewCalibration s.calibrations.length (some sessionId, some videoId)) t ls u →
    ∀ frame v, frame.binding = (some sessionId, some videoId) →
    eyeWorkerStep u (.infer frame) = some v → Silent u v

/-- **Calibrations are kept apart.** In every run at most one calibration is in progress and only
then is there a queue; ending or cancelling one session leaves the calibration of another alone; and
an ended session has no gaze until a new calibration of it is valid. -/
theorem calibrations_kept_apart (loaded : Bool) {ls : List EyeWorkerStep} {s : EyeWorkerRuntime}
    (run : Lts.Steps eyeWorkerStep Lts.Free (EyeWorkerRuntime.start loaded) ls s) :
    OneCalibration s ∧ OthersSpared s ∧ EndedSilent s := by
  have inv : BindInv s := (BindInv.start loaded).run run
  refine ⟨⟨inv.quiet, ?_⟩, ⟨?_, ?_⟩, ?_⟩
  · intro payload t begun
    obtain ⟨ready, unused, -⟩ := beginCalibration_spec begun
    exact inv.idle ready unused
  · intro l t b b' ends holds other h
    exact inv.spared ends holds other h
  · intro payload t begun ks u rest c hc number
    have start := Untouched.begin inv begun
    have last := rest.invariant (fun _ _ _ kept others h => Untouched.step kept others h) start
    exact (last.clear c hc number).2
  · intro sessionId videoId t ended ks u rest frame v own h
    obtain ⟨ended, unanswered⟩ := ended.over inv
    have last := rest.invariant
      (P := fun u => Over s.calibrations.length (some sessionId, some videoId) u ∧
        u.calibratedBinding ≠ some (some sessionId, some videoId))
      (fun _ _ _ ended guard h => ⟨ended.1.step h, ended.1.unanswered ended.2 guard h⟩)
      ⟨ended, unanswered⟩
    exact silent_of_unanswered (own ▸ last.2) h

/-- A visitor is calibrated and looked at, another session is ended, then the visitor's own. -/
def endedRun : List EyeWorkerStep :=
  [.begin (smallRequest "visitor-a" "adaptive-sparse16-v2"), .enter, .endSession "visitor-b" "video-0001",
    .leave true, .finish, .infer (smallFrame "visitor-a" 2), .predict 0 (.point (1 / 2) (1 / 2)),
    .endSession "visitor-a" "video-0001", .endSessionLocked 0, .infer (smallFrame "visitor-a" 3)]

theorem calibrations_kept_apart_ended : ∃ s,
    Lts.Steps eyeWorkerStep Lts.Free (EyeWorkerRuntime.start true) endedRun s ∧
    s.replies.map (fun e => e.2.gazeSample.isSome) = [true, false] ∧
    OneCalibration s ∧ OthersSpared s ∧ EndedSilent s := by
  obtain ⟨s, run, answers⟩ := Lts.exists_steps_of_any
    (p := fun s => s.replies.map (fun e => e.2.gazeSample.isSome) = [true, false])
    (show (Lts.runAll eyeWorkerStep (EyeWorkerRuntime.start true) endedRun).any _ = true by
      decide +kernel)
  exact ⟨s, run, of_decide_eq_true answers, calibrations_kept_apart true run⟩

end Mkk.Eye
