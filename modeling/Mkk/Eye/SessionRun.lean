import Mkk.Eye.CaptureSpec
import Mkk.Eye.SessionCalibration

/-!
# A calibration run

What holds at every moment of `SessionCalibration.run`: each feature that is fitted goes with the target it
was captured at, the final points are captured after the last fit, and lists that still hold features
belong to the run. The stage of a run says which points are trained and how many captures are left.
-/

namespace Mkk.Eye

open Lib

/-! ## The log -/

namespace SessionEvent

/-- A capture at one of the `FINAL_POINTS`. -/
def AtFinal : SessionEvent → Prop
  | captured target _ => target ∈ finalPoints
  | _ => False

def IsFit : SessionEvent → Prop
  | fit _ => True
  | _ => False

/-- A capture in the repair phase. -/
def isRepair : SessionEvent → Bool
  | captured _ phase => phase == .repair
  | _ => false

end SessionEvent

/-- A call of `fit` that pairs each feature with the target it was captured at, and trains on no
readiness, validation or verification feature. -/
structure FitCall.Sound (call : FitCall) : Prop where
  paired : call.targets = call.features.map fun f => inPixels call.viewport f.target
  phases : ∀ f ∈ call.features, f.phase = .training ∨ f.phase = .repair

/-- What holds of the log at every moment. -/
structure LogSound (log : List SessionEvent) : Prop where
  fits : ∀ call, .fit call ∈ log → call.Sound
  finals : log.Pairwise fun earlier later => earlier.AtFinal → ¬later.IsFit
  repairs : log.countP SessionEvent.isRepair ≤ maxRepairPoints

section Log

variable {log : List SessionEvent} {point : ℚ × ℚ} {phase : Phase} {call : FitCall} {q : Quality}

theorem pairwise_concat {α : Type} {R : α → α → Prop} {l : List α} {a : α} (h : l.Pairwise R)
    (last : ∀ b ∈ l, R b a) : (l ++ [a]).Pairwise R :=
  List.pairwise_append.2 ⟨h, List.pairwise_singleton _ _, fun b member _ single =>
    List.mem_singleton.1 single ▸ last b member⟩

theorem LogSound.captured (h : LogSound log)
    (room : phase = .repair → log.countP SessionEvent.isRepair < maxRepairPoints) :
    LogSound (log ++ [.captured point phase]) := by
  refine ⟨fun call member => ?_, pairwise_concat h.finals fun _ _ _ fit => fit, ?_⟩
  · rcases List.mem_append.1 member with old | new
    · exact h.fits call old
    · cases List.mem_singleton.1 new
  · rw [List.countP_append, List.countP_singleton]
    by_cases repair : phase = .repair
    · rw [if_pos (by rw [repair]; rfl)]
      exact room repair
    · rw [if_neg (by simpa [SessionEvent.isRepair] using repair)]
      exact h.repairs

theorem LogSound.fit (h : LogSound log) (sound : call.Sound) (early : ∀ e ∈ log, ¬e.AtFinal) :
    LogSound (log ++ [.fit call]) := by
  refine ⟨fun call' member => ?_, pairwise_concat h.finals fun e member final =>
    absurd final (early e member), ?_⟩
  · rcases List.mem_append.1 member with old | new
    · exact h.fits call' old
    · cases List.mem_singleton.1 new
      exact sound
  · rw [List.countP_append, List.countP_singleton]
    exact h.repairs

theorem LogSound.evaluated (h : LogSound log) : LogSound (log ++ [.evaluated q]) := by
  refine ⟨fun call member => ?_, pairwise_concat h.finals fun _ _ _ fit => fit, ?_⟩
  · rcases List.mem_append.1 member with old | new
    · exact h.fits call old
    · cases List.mem_singleton.1 new
  · rw [List.countP_append, List.countP_singleton]
    exact h.repairs

end Log

/-! ## Stages -/

/-- A point of the unit square. -/
def InSquare (point : ℚ × ℚ) : Prop := (0 ≤ point.1 ∧ point.1 ≤ 1) ∧ 0 ≤ point.2 ∧ point.2 ≤ 1

/-- The greatest count of a wire progress. -/
def maxCount : ℕ := 128

/-- What may be shown of a run. -/
structure Shown (env : SessionEnv) (p : Progress) : Prop where
  calibrationId : p.calibrationId = env.calibrationId
  targetId : ∃ n ≤ maxCount, p.targetId = "target-" ++ toString n
  target : InSquare p.target
  required : p.requiredSamples = minSamples ∨ p.requiredSamples = minSamples * 2
  accepted : p.acceptedSamples ≤ p.requiredSamples
  completed : p.completedTargets ≤ p.totalTargets
  total : p.totalTargets ≤ maxCount
  positioning : ∀ state ∈ p.positioning, p.phase = .positioning ∧ state.Steady

/-- Where a run stands: the points that are trained, the samples beside them that may still hold features,
those of the checks, the captures that are left, all captures, the repairs so far, whether a fit may
follow and whether the face was positioned. -/
structure Stage where
  trained : List (ℚ × ℚ)
  live : List Samples
  checks : List Samples
  left : ℕ
  total : ℕ
  repairs : ℕ
  fits : Bool
  positioned : Bool

/-- What holds of a session at every moment. -/
structure Books (env : SessionEnv) (s : Session) : Prop where
  log : LogSound s.log
  completed : s.source.completed ≤ s.source.totalTargets
  shown : ∀ p ∈ s.source.shown, Shown env p

/-- A sample that holds features of a point to train with. -/
def Trains (s : Session) (sample : Samples) (point : ℚ × ℚ) : Prop :=
  ∀ f ∈ s.featuresOf sample, f.target = point ∧ (f.phase = .training ∨ f.phase = .repair)

/-- Lists with features belong to these samples. -/
def Owned (s : Session) (samples : List Samples) : Prop :=
  ∀ place, s.source.lists place ≠ [] → ∃ sample ∈ samples, sample.features = place

/-- What holds of a session between two parts of a run. -/
structure At (env : SessionEnv) (stage : Stage) (s : Session) : Prop extends Books env s where
  totalTargets : s.source.totalTargets = stage.total
  planned : s.source.completed + stage.left = stage.total
  bounded : stage.total ≤ maxCount
  serial : s.source.serial = s.source.completed
  owned : Owned s (s.training ++ stage.live)
  allocated : ∀ sample ∈ s.training ++ stage.live, sample.features < s.source.places
  trains : List.Forall₂ (Trains s) s.training stage.trained
  checks : s.checks = stage.checks
  repairs : s.log.countP SessionEvent.isRepair = stage.repairs
  early : stage.fits = true → ∀ e ∈ s.log, ¬e.AtFinal
  valid : s.valid = false
  progress : ∀ p ∈ s.source.progress, Shown env p ∧ p.totalTargets ≤ stage.total ∧
    (stage.positioned = true → p.positioning = none)

/-- What holds of a session where a part of its run stops. -/
structure Halted (env : SessionEnv) (stage : Stage) (e : Stop) (s : Session) : Prop extends
    Books env s where
  owned : e ≠ .waiting → Owned s (s.training ++ stage.live)
  checks : e ≠ .waiting → s.checks = stage.checks
  valid : s.valid = false

section

variable {env : SessionEnv} {stage : Stage} {s s' : Session} {e : Stop} {α β : Type}

theorem At.halted (h : At env stage s) (e : Stop) : Halted env stage e s :=
  ⟨h.toBooks, fun _ => h.owned, fun _ => h.checks, h.valid⟩

/-- The source's work is all that a stage reads of it. -/
theorem At.congr (h : At env stage s) {source : Source} (same : source.work = s.source.work) :
    At env stage { s with source := source } := by
  simp only [Source.work, Prod.mk.injEq] at same
  obtain ⟨places, lists, completed, serial, totalTargets, progress, shown⟩ := same
  have features (sample : Samples) :
      ({ s with source := source } : Session).featuresOf sample = s.featuresOf sample :=
    congrFun lists sample.features
  refine ⟨⟨h.log, ?_, ?_⟩, ?_, ?_, h.bounded, ?_, ?_, ?_, ?_, h.checks, h.repairs, h.early, h.valid, ?_⟩
  · dsimp only
    rw [completed, totalTargets]
    exact h.completed
  · dsimp only
    rw [shown]
    exact h.shown
  · exact totalTargets.trans h.totalTargets
  · dsimp only
    rw [completed]
    exact h.planned
  · dsimp only
    rw [completed, serial]
    exact h.serial
  · intro place holds
    dsimp only at holds
    rw [lists] at holds
    exact h.owned place holds
  · dsimp only
    rw [places]
    exact h.allocated
  · refine h.trains.imp fun sample point trains f member => ?_
    rw [features] at member
    exact trains f member
  · dsimp only
    rw [progress]
    exact h.progress

/-- A part of a run from one stage to the next. -/
abbrev Runs (env : SessionEnv) (stage : Stage) (x : Calibrating α) (stage' : α → Stage) : Prop :=
  Triple (At env stage) x (fun a => At env (stage' a)) (Halted env stage)

theorem runs_quiet {x : Capturing α} (quiet : Quiet x) : Runs env stage (onSource x) fun _ => stage := by
  intro s h
  have same := quiet s.source
  unfold onSource
  cases ran : x.run s.source with
  | ok a source =>
    simp only [EStateM.run] at ran same ⊢
    rw [ran] at same ⊢
    exact h.congr same
  | error e source =>
    simp only [EStateM.run] at ran same ⊢
    rw [ran] at same ⊢
    exact (h.congr same).halted e

theorem runs_throw (e : Stop) {stage' : α → Stage} : Runs env stage (throw e : Calibrating α) stage' :=
  Triple.throw fun _ h => h.halted e

theorem runs_checkTime : Runs env stage (checkTime env) fun _ => stage := by
  unfold checkTime
  refine (runs_quiet (quiet_readClock _)).bind fun now => Triple.read fun session h => ?_
  refine Triple.ite (fun _ => Triple.throw fun s read => ?_) fun _ => ?_
  · exact (read ▸ h).halted _
  · exact (runs_quiet (quiet_checkCancelled _)).before fun s read => read ▸ h

/-! ## Captures of a run -/

/-- The stage after a capture. -/
def Stage.captured (stage : Stage) (sample : Samples) (phase : Phase) : Stage :=
  { stage with
    live := stage.live ++ [sample]
    repairs := stage.repairs + if phase = .repair then 1 else 0
    positioned := decide (phase ≠ .positioning) }

theorem shown_of_shows {c : CaptureSetup} {total completed n : ℕ} {p : Progress}
    (shows : Shows env.toSourceEnv c total completed p) (named : c.targetId = "target-" ++ toString n)
    (few : n ≤ maxCount) (inside : InSquare c.target) (within : completed ≤ total)
    (bounded : total ≤ maxCount) : Shown env p where
  calibrationId := shows.calibrationId
  targetId := ⟨n, few, shows.targetId.trans named⟩
  target := shows.target ▸ inside
  required := shows.required
  accepted := shows.accepted
  completed := by rw [shows.completedTargets, shows.totalTargets]; exact within
  total := shows.totalTargets ▸ bounded
  positioning state known := by
    obtain ⟨positioning, steady⟩ := shows.positioning state known
    exact ⟨shows.phase.trans positioning, steady⟩

theorem trains_congr {training : List Samples} {points : List (ℚ × ℚ)}
    (h : List.Forall₂ (Trains s) training points)
    (same : ∀ sample ∈ training, ∀ f ∈ s'.featuresOf sample, f ∈ s.featuresOf sample) :
    List.Forall₂ (Trains s') training points := by
  induction h with
  | nil => exact .nil
  | cons trains _ ih =>
    refine .cons (fun f member => trains f (same _ List.mem_cons_self f member)) (ih fun sample member =>
      same sample (List.mem_cons_of_mem _ member))

variable {point : ℚ × ℚ} {phase : Phase} {sample : Samples}

theorem At.noted (h : At env { stage with left := stage.left + 1 } s)
    (room : phase = .repair → stage.repairs < maxRepairPoints)
    (early : stage.fits = true → point ∉ finalPoints) :
    At env { stage with
      left := stage.left + 1, repairs := stage.repairs + if phase = .repair then 1 else 0 }
      { s with log := s.log ++ [.captured point phase] } := by
  refine { h with log := ?_, repairs := ?_, early := ?_ }
  · exact h.log.captured fun repair => h.repairs ▸ room repair
  · dsimp only
    rw [List.countP_append, List.countP_singleton, h.repairs]
    by_cases repair : phase = .repair
    · rw [if_pos repair, if_pos (by rw [repair]; rfl)]
    · rw [if_neg repair, if_neg (by simpa [SessionEvent.isRepair] using repair)]
  · intro open' e member
    rcases List.mem_append.1 member with old | new
    · exact h.early open' e old
    · rw [List.mem_singleton.1 new]
      exact early open'

/-- What a capture leaves of a run that it returns to. -/
theorem At.captured (h : At env { stage with
      left := stage.left + 1, repairs := stage.repairs + if phase = .repair then 1 else 0 } s)
    (inside : InSquare point) {source : Source}
    (captured : Captured env.toSourceEnv (setupOf env.toSourceEnv point phase s.source) s.source sample
      source) :
    (∀ f ∈ ({ s with source := source } : Session).featuresOf sample, f.target = point ∧ f.phase = phase) ∧
      At env (stage.captured sample phase) { s with source := source } := by
  have total := h.totalTargets
  have planned := h.planned
  have serial := h.serial
  have bounded := h.bounded
  dsimp only at total planned bounded
  have fresh : ∀ old ∈ s.training ++ stage.live, old.features ≠ sample.features := by
    intro old member same
    have before := h.allocated old member
    rw [same, captured.features] at before
    exact lt_irrefl _ before
  have showable (completed : ℕ) (within : completed ≤ s.source.completed + 1) (p : Progress)
      (shows : Shows env.toSourceEnv (setupOf env.toSourceEnv point phase s.source) s.source.totalTargets
        completed p) : Shown env p :=
    shown_of_shows shows rfl (by omega) inside (by omega) (by omega)
  refine ⟨captured.kept, ⟨⟨h.log, ?_, ?_⟩, ?_, ?_, bounded, ?_, ?_, ?_, ?_, h.checks, h.repairs, h.early,
    h.valid, ?_⟩⟩
  · dsimp only
    rw [captured.completed, captured.totalTargets]
    omega
  · intro p member
    rcases captured.shown p member with old | ⟨completed, within, shows⟩
    · exact h.shown p old
    · exact showable completed within p shows
  · exact captured.totalTargets.trans total
  · dsimp only [Stage.captured]
    rw [captured.completed]
    omega
  · dsimp only
    rw [captured.serial, captured.completed, serial]
  · intro place holds
    by_cases new : place = sample.features
    · exact ⟨sample, List.mem_append_right _ (List.mem_append_right _ (List.mem_singleton_self _)), new.symm⟩
    · dsimp only at holds
      rw [captured.others place new] at holds
      obtain ⟨old, member, rfl⟩ := h.owned place holds
      exact ⟨old, by
        unfold Stage.captured
        dsimp only
        rw [← List.append_assoc]
        exact List.mem_append_left _ member, rfl⟩
  · intro old member
    dsimp only [Stage.captured] at member ⊢
    rw [← List.append_assoc] at member
    rw [captured.places]
    rcases List.mem_append.1 member with known | new
    · exact (h.allocated old known).trans (Nat.lt_succ_self _)
    · rw [List.mem_singleton.1 new, captured.features]
      exact Nat.lt_succ_self _
  · refine trains_congr h.trains fun old member f kept => ?_
    unfold Session.featuresOf at kept ⊢
    rwa [← captured.others old.features (fresh old (List.mem_append_left _ member))]
  · intro p current
    obtain ⟨p', current', shows⟩ := captured.progress
    cases Option.some.inj (current.symm.trans current')
    refine ⟨showable _ le_rfl p shows, ?_, fun sampled => ?_⟩
    · rw [shows.totalTargets, total]
      exact le_rfl
    · cases known : p.positioning with
      | none => rfl
      | some state =>
        exact absurd (shows.positioning state known).1 (of_decide_eq_true sampled)

/-- What a capture leaves of a run that it stops. -/
theorem At.failed (h : At env { stage with
      left := stage.left + 1, repairs := stage.repairs + if phase = .repair then 1 else 0 } s)
    (inside : InSquare point) {source : Source}
    (failed : Failed env.toSourceEnv (setupOf env.toSourceEnv point phase s.source) s.source e source) :
    Halted env stage e { s with source := source } := by
  have total := h.totalTargets
  have planned := h.planned
  have serial := h.serial
  have bounded := h.bounded
  dsimp only at total planned bounded
  refine ⟨⟨h.log, ?_, ?_⟩, ?_, fun _ => h.checks, h.valid⟩
  · dsimp only
    rw [failed.completed, failed.totalTargets]
    exact h.completed
  · intro p member
    rcases failed.shown p member with old | shows
    · exact h.shown p old
    · exact shown_of_shows shows rfl (by omega) inside (by omega) (by omega)
  · intro stopped place holds
    dsimp only at holds
    by_cases new : place = s.source.places
    · rcases failed.cleared stopped with cleared | kept
      · rw [new, cleared] at holds
        exact absurd rfl holds
      · rw [new, kept] at holds
        exact h.owned _ holds |>.imp fun _ owner => ⟨owner.1, owner.2.trans new.symm⟩
    · rw [failed.others place new] at holds
      exact h.owned place holds

/-- **A capture of a run.** -/
theorem runs_captureAt (inside : InSquare point)
    (room : phase = .repair → stage.repairs < maxRepairPoints)
    (early : stage.fits = true → point ∉ finalPoints) :
    Triple (At env { stage with left := stage.left + 1 }) (captureAt env point phase)
      (fun sample s => (∀ f ∈ s.featuresOf sample, f.target = point ∧ f.phase = phase) ∧
        At env (stage.captured sample phase) s) (Halted env stage) := by
  unfold captureAt note
  refine Triple.bind (Q := fun _ => At env { stage with
    left := stage.left + 1, repairs := stage.repairs + if phase = .repair then 1 else 0 })
    (Triple.modify fun s h => h.noted room early) fun _ => ?_
  intro s h
  have spec := capture_spec env.toSourceEnv point phase s.source s.source rfl
  unfold onSource
  cases ran : (capture env.toSourceEnv point phase).run s.source with
  | ok sample source =>
    simp only [EStateM.run] at ran spec ⊢
    rw [ran] at spec ⊢
    exact h.captured inside spec
  | error e source =>
    simp only [EStateM.run] at ran spec ⊢
    rw [ran] at spec ⊢
    exact h.failed inside spec

/-! ## Lists that are cleared -/

/-- A list of the session's source is cleared. -/
def Session.clear (s : Session) (place : ℕ) : Session :=
  { s with source := { s.source with lists := Function.update s.source.lists place [] } }

theorem mem_clear {place place' : ℕ} {f : KeptFeature} (member : f ∈ (s.clear place).source.lists place') :
    f ∈ s.source.lists place' := by
  unfold Session.clear at member
  dsimp only at member
  by_cases same : place' = place
  · rw [same, Function.update_self] at member
    exact absurd member List.not_mem_nil
  · rwa [Function.update_of_ne same] at member

theorem owned_clear {keep rest : List Samples} (h : Owned s (keep ++ sample :: rest)) :
    Owned (s.clear sample.features) (keep ++ rest) := by
  intro place holds
  unfold Session.clear at holds
  dsimp only at holds
  by_cases same : place = sample.features
  · rw [same, Function.update_self] at holds
    exact absurd rfl holds
  · rw [Function.update_of_ne same] at holds
    obtain ⟨owner, member, rfl⟩ := h place holds
    refine ⟨owner, ?_, rfl⟩
    rcases List.mem_append.1 member with kept | other
    · exact List.mem_append_left _ kept
    · rcases List.mem_cons.1 other with rfl | later
      · exact absurd rfl same
      · exact List.mem_append_right _ later

variable {rest : List Samples}

theorem At.clear (h : At env { stage with live := sample :: rest } s) :
    At env { stage with live := rest } (s.clear sample.features) := by
  refine { h with owned := owned_clear h.owned, allocated := fun old member => ?_, trains := ?_ }
  · refine h.allocated old ?_
    rcases List.mem_append.1 member with kept | later
    · exact List.mem_append_left _ kept
    · exact List.mem_append_right _ (List.mem_cons_of_mem _ later)
  · exact trains_congr h.trains fun old _ f kept => mem_clear kept

theorem Halted.clear (h : Halted env { stage with live := sample :: rest } e s) :
    Halted env { stage with live := rest } e (s.clear sample.features) :=
  { h with owned := fun stopped => owned_clear (h.owned stopped) }

/-- A cleanup brings what a program leaves, and what it raises, into another condition. -/
theorem triple_onExit {P : Session → Prop} {body : Calibrating α} {cleanup : Calibrating Unit}
    {Q Q' : α → Session → Prop} {E F : Stop → Session → Prop} (spec : Triple P body Q F)
    (waits : ∀ s, F .waiting s → E .waiting s) (cleansReturn : ∀ a, Triple (Q a) cleanup (fun _ => Q' a) E)
    (cleansRaise : ∀ e, e ≠ .waiting → Triple (F e) cleanup (fun _ => E e) E) :
    Triple P (onExit body cleanup) Q' E := by
  have returned (a : α) : Triple (Q a) (cleanup >>= fun _ => pure a : Calibrating α) Q' E :=
    (cleansReturn a).bind fun _ => Triple.pure fun _ h => h
  have raised (e : Stop) (ended : e ≠ .waiting) :
      Triple (F e) (cleanup >>= fun _ => throw e : Calibrating α) Q' E :=
    (cleansRaise e ended).bind fun _ => Triple.throw fun _ h => h
  intro s holds
  unfold onExit
  cases ran : body.run s with
  | ok a s' =>
    simp only [EStateM.run] at ran ⊢
    rw [ran]
    exact returned a s' (spec.ok holds ran)
  | error e s' =>
    have stopped := spec.error holds ran
    simp only [EStateM.run] at ran ⊢
    rw [ran]
    cases e with
    | waiting => exact waits s' stopped
    | failure reason => exact raised (.failure reason) nofun s' stopped
    | raised => exact raised .raised nofun s' stopped

/-! ## Training -/

theorem runs_requireSamples (reason : ℕ → String) :
    Runs env stage (requireSamples sample reason) fun _ => stage := by
  unfold requireSamples
  refine Triple.read fun session h => Triple.ite (fun _ => Triple.throw fun s read => ?_) fun _ => ?_
  · exact (read ▸ h).halted _
  · exact Triple.pure fun s read => read ▸ h

/-- **The readiness capture** leaves no features. -/
theorem runs_captureReadiness : Triple (At env { stage with live := [], left := stage.left + 1 })
    (captureReadiness env) (fun _ => At env { stage with live := [], positioned := false })
    (Halted env { stage with live := [] }) := by
  unfold captureReadiness
  refine (runs_checkTime.weaken (fun _ h => h) (fun _ _ h => h) fun e s h => { h with }).bind fun _ => ?_
  have captured := @runs_captureAt env { stage with live := [] } (0.5, 0.5) .positioning
    (by unfold InSquare; norm_num) nofun fun _ => by decide +kernel
  refine captured.bind fun ready => Triple.before ?_ fun _ h => h.2
  refine triple_onExit (Q := fun _ => At env (Stage.captured { stage with live := [] } ready .positioning))
    (F := Halted env (Stage.captured { stage with live := [] } ready .positioning))
    (runs_requireSamples _) (fun s h => { h with owned := nofun }) (fun _ => ?_) fun e _ => ?_
  · exact fun s h => @At.clear _ { stage with positioned := false } _ ready _ h
  · exact fun s h => @Halted.clear _ stage _ _ ready _ { h with }

/-- A captured sample is trained with. -/
theorem At.addTraining (h : At env { stage with live := [sample] } s) (trains : Trains s sample point) :
    At env { stage with live := [], trained := stage.trained ++ [point] }
      { s with training := s.training ++ [sample] } := by
  refine { h with owned := ?_, allocated := ?_, trains := ?_ }
  · dsimp only
    rw [List.append_nil]
    exact h.owned
  · dsimp only
    rw [List.append_nil]
    exact h.allocated
  · exact List.rel_append h.trains (.cons trains .nil)

theorem trains_of_captured (trainable : phase = .training ∨ phase = .repair)
    (kept : ∀ f ∈ s.featuresOf sample, f.target = point ∧ f.phase = phase) : Trains s sample point :=
  fun f member => ⟨(kept f member).1, (kept f member).2 ▸ trainable⟩

/-- A capture whose sample is trained with. -/
theorem runs_captureAndAdd (inside : InSquare point) (outside : point ∉ finalPoints)
    (trainable : phase = .training ∨ phase = .repair)
    (room : phase = .repair → stage.repairs < maxRepairPoints) :
    Triple (At env { stage with live := [], left := stage.left + 1 })
      (captureAndAdd env point phase)
      (fun _ => At env { stage with
        live := [], trained := stage.trained ++ [point], positioned := true
        repairs := stage.repairs + if phase = .repair then 1 else 0 })
      (Halted env { stage with live := [] }) := by
  have captured := @runs_captureAt env { stage with live := [] } point phase inside room fun _ => outside
  have sampled : decide (phase ≠ .positioning) = true := by
    rcases trainable with rfl | rfl <;> rfl
  unfold captureAndAdd addTraining
  refine captured.bind fun sample => ?_
  refine Triple.bind (Q := fun _ => At env { stage with
    live := [], trained := stage.trained ++ [point], positioned := true
    repairs := stage.repairs + if phase = .repair then 1 else 0 }) ?_ fun _ => Triple.pure fun _ h => h
  refine Triple.modify fun s h => ?_
  have added := @At.addTraining _ { stage with
    repairs := stage.repairs + if phase = .repair then 1 else 0
    positioned := decide (phase ≠ .positioning) } _ _ _ h.2 (trains_of_captured trainable h.1)
  rwa [sampled] at added

/-- A part of a run that begins and stops with no sample beside the trained ones. -/
abbrev Between (env : SessionEnv) (stage : Stage) (x : Calibrating α) (stage' : Stage) : Prop :=
  Triple (At env { stage with live := [] }) x (fun _ => At env { stage' with live := [] })
    (Halted env { stage with live := [] })

/-- Stages with the same checks stop alike. -/
theorem Halted.restage {stage' : Stage} (h : Halted env stage e s) (live : stage'.live = stage.live)
    (checks : stage'.checks = stage.checks) : Halted env stage' e s :=
  ⟨h.toBooks, live ▸ h.owned, checks ▸ h.checks, h.valid⟩

/-- **One turn of the training loop.** -/
theorem between_captureTraining (inside : InSquare point) (outside : point ∉ finalPoints)
    (counts : ℕ × ℕ) : Between env { stage with left := stage.left + 1 } (captureTraining env counts point)
      { stage with trained := stage.trained ++ [point], positioned := true } := by
  unfold captureTraining
  refine runs_checkTime.bind fun _ => ?_
  have captured := @runs_captureAndAdd env stage _ .training inside outside
    (.inl rfl) nofun
  refine Triple.bind (captured.weaken (fun _ h => h) (fun _ _ h => h) fun _ _ h => h.restage rfl rfl)
    fun sample => ?_
  refine Triple.read fun session h => ?_
  dsimp only
  refine Triple.ite (fun _ => Triple.throw fun s read => ?_) fun _ => Triple.pure fun s read => read ▸ h
  exact (read ▸ h.halted _).restage rfl rfl

/-- **The training loop**, by induction on the points that are left. -/
theorem between_training {points : List (ℚ × ℚ)} (inside : ∀ point ∈ points, InSquare point)
    (outside : ∀ point ∈ points, point ∉ finalPoints) (counts : ℕ × ℕ) :
    Triple (At env { stage with live := [], left := stage.left + points.length })
      (points.foldlM (captureTraining env) counts)
      (fun _ => At env { stage with
        live := [], trained := stage.trained ++ points
        positioned := if points = [] then stage.positioned else true })
      (Halted env { stage with live := [] }) := by
  induction points generalizing stage counts with
  | nil =>
    refine Triple.pure fun s h => ?_
    rw [List.append_nil, if_pos rfl]
    exact h
  | cons point rest ih =>
    rw [List.foldlM_cons, List.length_cons, ← add_assoc]
    have first := @between_captureTraining env { stage with
      left := stage.left + rest.length } _ (inside point List.mem_cons_self)
      (outside point List.mem_cons_self) counts
    refine Triple.bind (Q := fun _ => At env { stage with
      live := [], trained := stage.trained ++ [point], positioned := true
      left := stage.left + rest.length }) (first.weaken (fun _ h => h) (fun _ _ h => h)
        fun _ _ h => h.restage rfl rfl) fun counts => ?_
    refine (@ih { stage with trained := stage.trained ++ [point], positioned := true }
      (fun p member => inside p (List.mem_cons_of_mem _ member))
      (fun p member => outside p (List.mem_cons_of_mem _ member)) counts).weaken (fun _ h => h)
      (fun _ s h => ?_) fun _ _ h => h.restage rfl rfl
    rw [if_neg (List.cons_ne_nil _ _)]
    rw [List.append_assoc] at h
    split at h
    · exact h
    · exact h

/-! ## Repairs -/

theorem runs_countRepair : Runs env stage countRepair fun _ => stage :=
  Triple.modify fun _ h => { h with }

theorem between_addTargets {n : ℕ} (room : stage.total + n ≤ maxCount) :
    Between env stage (addTargets n) { stage with left := stage.left + n, total := stage.total + n } := by
  refine Triple.modify fun s h => ?_
  have completed := h.completed
  have total := h.totalTargets
  have planned := h.planned
  dsimp only at total planned
  refine { h with completed := ?_, totalTargets := ?_, planned := ?_, bounded := room, progress := ?_ }
  · dsimp only
    omega
  · dsimp only
    omega
  · dsimp only
    omega
  · intro p current
    obtain ⟨shown, within, settled⟩ := h.progress p current
    exact ⟨shown, within.trans (Nat.le_add_right _ _), settled⟩

/-- An extra point is captured for training. -/
theorem between_captureExtra (inside : InSquare point) (outside : point ∉ finalPoints)
    (room : stage.repairs < maxRepairPoints) :
    Between env { stage with left := stage.left + 1 } (captureExtra env point)
      { stage with trained := stage.trained ++ [point], positioned := true, repairs := stage.repairs + 1 } := by
  unfold captureExtra
  refine runs_checkTime.bind fun _ => runs_countRepair.bind fun _ => ?_
  have captured := @runs_captureAndAdd env stage _ .repair inside outside
    (.inr rfl) fun _ => room
  refine Triple.bind (captured.weaken (fun _ h => h) (fun _ _ h => h) fun _ _ h => h.restage rfl rfl)
    fun sample => ?_
  exact (runs_requireSamples _).weaken (fun _ h => h) (fun _ _ h => h) fun _ _ h => h.restage rfl rfl

theorem forall₂_set {A B : Type} {R : A → B → Prop} {l : List A} {l' : List B} (h : List.Forall₂ R l l')
    {i : ℕ} {a : A} {b : B} (found : l'[i]? = some b) (holds : R a b) : List.Forall₂ R (l.set i a) l' := by
  induction h generalizing i with
  | nil => cases found
  | cons first _ ih =>
    cases i with
    | zero =>
      cases found
      exact .cons holds (by assumption)
    | succ i => exact .cons first (ih found)

theorem mem_set_of_ne {A : Type} {l : List A} {i : ℕ} {a b c : A} (member : a ∈ l) (found : l[i]? = some b)
    (ne : a ≠ b) : a ∈ l.set i c := by
  obtain ⟨j, inside, rfl⟩ := List.getElem_of_mem member
  have other : i ≠ j := by
    rintro rfl
    exact ne (Option.some.inj ((List.getElem?_eq_getElem inside).symm.trans found))
  refine List.mem_of_getElem? (i := j) ?_
  rw [List.getElem?_set_ne other, List.getElem?_eq_getElem inside]

/-- A training sample is replaced. -/
theorem At.replace {index : ℕ} {old replacement : Samples}
    (h : At env { stage with live := [replacement] } s) (found : s.training[index]? = some old)
    (pointed : stage.trained[index]? = some point) (trains : Trains s replacement point) :
    At env { stage with live := [] } { s.clear old.features with
      training := s.training.set index replacement } := by
  have inside : index < s.training.length := (List.getElem?_eq_some_iff.1 found).1
  refine { h with owned := ?_, allocated := ?_, trains := ?_ }
  · intro place holds
    dsimp only
    rw [List.append_nil]
    by_cases same : place = old.features
    · unfold Session.clear at holds
      dsimp only at holds
      rw [same, Function.update_self] at holds
      exact absurd rfl holds
    · unfold Session.clear at holds
      dsimp only at holds
      rw [Function.update_of_ne same] at holds
      obtain ⟨owner, member, rfl⟩ := h.owned place holds
      rcases List.mem_append.1 member with kept | new
      · exact ⟨owner, mem_set_of_ne kept found fun eq => same (eq ▸ rfl), rfl⟩
      · rw [List.mem_singleton.1 new]
        exact ⟨replacement, List.mem_set inside replacement, rfl⟩
  · intro sample member
    dsimp only at member
    rw [List.append_nil] at member
    rcases List.mem_or_eq_of_mem_set member with kept | rfl
    · exact h.allocated sample (List.mem_append_left _ kept)
    · exact h.allocated sample (List.mem_append_right _ (List.mem_singleton_self _))
  · exact forall₂_set (trains_congr h.trains fun _ _ f kept => mem_clear kept) pointed
      fun f member => trains f (mem_clear member)

/-- **A missing point is captured again.** -/
theorem between_repairMissing {index : ℕ} (inside : ∀ point ∈ stage.trained, InSquare point)
    (outside : ∀ point ∈ stage.trained, point ∉ finalPoints) (room : stage.repairs < maxRepairPoints) :
    Between env { stage with left := stage.left + 1 } (repairMissing env stage.trained index)
      { stage with positioned := true, repairs := stage.repairs + 1 } := by
  unfold repairMissing
  refine runs_checkTime.bind fun _ => runs_countRepair.bind fun _ => ?_
  cases pointed : stage.trained[index]? with
  | none => exact @runs_throw _ _ _ _ fun _ => _
  | some point =>
    have member := List.mem_of_getElem? pointed
    have captured := @runs_captureAt env { stage with live := [] } point .repair
      (inside point member) (fun _ => room) fun _ => outside point member
    dsimp only
    refine Triple.bind (captured.weaken (fun _ h => h) (fun _ _ h => h) fun _ _ h => h.restage rfl rfl)
      fun replacement => ?_
    refine Triple.bind (Q := fun _ => At env { stage with
      live := [], positioned := true, repairs := stage.repairs + 1 }) ?_ fun _ =>
        (runs_requireSamples _).weaken (fun _ h => h) (fun _ _ h => h) fun _ _ h => h.restage rfl rfl
    unfold replaceTraining
    refine Triple.read fun session h => ?_
    obtain ⟨kept, now⟩ := h
    have same : session.training.length = stage.trained.length := now.trains.length_eq
    cases found : session.training[index]? with
    | none =>
      have beyond := List.getElem?_eq_none_iff.1 found
      have within := (List.getElem?_eq_some_iff.1 pointed).1
      omega
    | some old =>
      intro s read
      subst read
      exact @At.replace _ { stage with positioned := true, repairs := stage.repairs + 1 } _ _ _ _ _ now found
        pointed (trains_of_captured (.inr rfl) kept)

/-- The missing points, by induction on those that are left. -/
theorem between_repairs (inside : ∀ point ∈ stage.trained, InSquare point)
    (outside : ∀ point ∈ stage.trained, point ∉ finalPoints) {indexes : List ℕ}
    (room : stage.repairs + indexes.length ≤ maxRepairPoints) :
    Triple (At env { stage with live := [], left := stage.left + indexes.length })
      (indexes.foldlM (fun _ index => repairMissing env stage.trained index) ())
      (fun _ => At env { stage with
        live := [], positioned := if indexes = [] then stage.positioned else true
        repairs := stage.repairs + indexes.length })
      (Halted env { stage with live := [] }) := by
  induction indexes generalizing stage with
  | nil => exact Triple.pure fun s h => h
  | cons index rest ih =>
    rw [List.foldlM_cons]
    rw [List.length_cons] at room ⊢
    have first := @between_repairMissing env { stage with
      left := stage.left + rest.length } index inside outside (by dsimp only; omega)
    refine Triple.bind (Q := fun _ => At env { stage with
      live := [], positioned := true, repairs := stage.repairs + 1, left := stage.left + rest.length })
      (first.weaken (fun _ h => h) (fun _ _ h => h) fun _ _ h => h.restage rfl rfl) fun _ => ?_
    refine (@ih { stage with positioned := true, repairs := stage.repairs + 1 } inside outside
      (by dsimp only; omega)).weaken (fun _ h => h) (fun _ s h => ?_) fun _ _ h => h.restage rfl rfl
    rw [if_neg (List.cons_ne_nil _ _), add_comm rest.length, ← add_assoc]
    split at h
    · exact h
    · exact h

/-- The samples that are missing are captured again, four at most. -/
theorem between_repairAll (inside : ∀ point ∈ stage.trained, InSquare point)
    (outside : ∀ point ∈ stage.trained, point ∉ finalPoints) (none : stage.repairs = 0)
    (room : stage.total + maxRepairPoints ≤ maxCount) (positioned : stage.positioned = true) :
    Triple (At env { stage with live := [] }) (repairAll env stage.trained)
      (fun missing s => missing ≤ maxRepairPoints ∧ At env { stage with
        live := [], total := stage.total + missing, repairs := missing } s)
      (Halted env { stage with live := [] }) := by
  unfold repairAll
  refine Triple.read fun session h => ?_
  refine Triple.ite (fun _ => Triple.throw fun s read => read ▸ h.halted _) fun few => ?_
  have few : session.missing.length ≤ maxRepairPoints := not_lt.1 few
  refine Triple.bind (Q := fun _ => At env { stage with
    live := [], left := stage.left + session.missing.length, total := stage.total + session.missing.length })
    ((@between_addTargets _ stage _ (by omega)).before fun s read => read ▸ h) fun _ => ?_
  have repaired := @between_repairs env { stage with
    total := stage.total + session.missing.length } inside outside session.missing
    (by dsimp only; omega)
  refine Triple.bind (repaired.weaken (fun _ h => h) (fun _ _ h => h) fun _ _ h => h.restage rfl rfl)
    fun _ => Triple.pure fun s h => ⟨few, ?_⟩
  dsimp only at h
  rw [positioned, ite_self, none, zero_add] at h
  rw [positioned]
  exact h

/-! ## Fits -/

theorem at_setFitting (h : At env stage s) (positioned : stage.positioned = true) {p : Progress}
    (current : s.source.progress = some p) : At env stage { s with
      source := s.source.show { p with phase := .fitting, hint := .fitting, totalTargets := s.source.totalTargets } } := by
  obtain ⟨shown, within, settled⟩ := h.progress p current
  have total := h.totalTargets
  have bounded := h.bounded
  have showable : Shown env
      { p with phase := .fitting, hint := .fitting, totalTargets := s.source.totalTargets } := by
    refine { shown with completed := ?_, total := ?_, positioning := ?_ }
    · have := shown.completed
      dsimp only
      omega
    · dsimp only
      omega
    · intro state known
      dsimp only at known
      rw [settled positioned] at known
      cases known
  refine { h with shown := ?_, progress := ?_ }
  · intro q member
    rcases List.mem_append.1 member with old | new
    · exact h.shown q old
    · rw [List.mem_singleton.1 new]
      exact showable
  · intro q same
    cases same
    exact ⟨showable, total.le, settled⟩

theorem runs_setFitting (positioned : stage.positioned = true) :
    Runs env stage (onSource setFitting) fun _ => stage := by
  intro s h
  unfold onSource setFitting update
  simp only [EStateM.run, modify, modifyGet, MonadStateOf.modifyGet, EStateM.modifyGet]
  cases current : s.source.progress with
  | none => exact h
  | some p => exact at_setFitting h positioned current

/-- **What is fitted** goes with the targets it was captured at, by induction on the training samples. -/
theorem fitCall_sound (h : At env { stage with live := [] } s) (viewport : ℕ × ℕ) :
    (s.fitCall stage.trained viewport).Sound := by
  have trains := h.trains
  dsimp only at trains
  unfold Session.fitCall
  generalize s.training = training at trains
  generalize stage.trained = points at trains
  constructor
  · dsimp only
    induction trains with
    | nil => rfl
    | cons trains _ ih =>
      rw [List.zip_cons_cons, List.flatMap_cons, List.flatMap_cons, List.map_append, ih]
      congr 1
      exact List.map_congr_left fun f member => by rw [(trains f member).1]
  · intro f member
    obtain ⟨sample, listed, kept⟩ := List.mem_flatMap.1 member
    induction trains with
    | nil => cases listed
    | cons trains _ ih =>
      rcases List.mem_cons.1 listed with rfl | later
      · exact (trains f kept).2
      · exact ih (List.mem_flatMap.2 ⟨sample, later, kept⟩) later

theorem At.fit {call : FitCall} (h : At env stage s) (fits : stage.fits = true) (sound : call.Sound) :
    At env stage { s with modelFitted := false, fits := s.fits + 1, log := s.log ++ [.fit call] } := by
  have early := h.early fits
  refine { h with log := h.log.fit sound early, repairs := ?_, early := ?_ }
  · dsimp only
    rw [List.countP_append, List.countP_singleton]
    exact h.repairs
  · intro _ e member
    rcases List.mem_append.1 member with old | new
    · exact early e old
    · rw [List.mem_singleton.1 new]
      exact id

/-- **A fit** is noted, whatever becomes of it. -/
theorem between_fitModel (fits : stage.fits = true) (positioned : stage.positioned = true) :
    Between env stage (fitModel env stage.trained) stage := by
  unfold fitModel
  refine runs_checkTime.bind fun _ =>
    (@runs_setFitting _ { stage with live := [] } positioned).bind fun _ => ?_
  refine Triple.bind (Q := fun _ => At env { stage with live := [] }) ?_ fun viewport => ?_
  · unfold viewportOf
    refine Triple.read fun session h => ?_
    split
    · exact Triple.pure fun s read => read ▸ h
    · exact Triple.throw fun s read => read ▸ h.halted _
  refine Triple.read fun session h => ?_
  have sound := fitCall_sound h viewport
  refine Triple.ite (fun _ => Triple.throw fun s read => read ▸ h.halted _) fun _ => ?_
  refine Triple.bind (Q := fun _ => At env { stage with live := [] }) ?_ fun _ => runs_checkTime
  unfold callFit note
  refine Triple.read fun session' read => ?_
  subst read
  refine Triple.bind (Q := fun _ s => s = { session' with modelFitted := false, fits := session'.fits + 1 })
    (Triple.modify fun s read => by rw [read]) fun _ => ?_
  refine Triple.bind (Q := fun _ => At env { stage with live := [] }) (Triple.modify fun s read => ?_)
    fun _ => ?_
  · rw [read]
    exact h.fit fits sound
  · split
    · exact runs_throw _
    · exact runs_throw _
    · exact Triple.modify fun s h => { h with }

/-! ## Checks -/

theorem runs_predictions (features : List FeatureVector) :
    Runs env stage (predictions env features) fun _ => stage := by
  unfold predictions
  refine Triple.ite (fun _ => Triple.pure fun _ h => h) fun _ => Triple.read fun session h => ?_
  refine Triple.bind (Q := fun _ => At env stage) (Triple.modify fun s read => ?_) fun _ => ?_
  · rw [read]
    exact { h with }
  · split
    · exact Triple.pure fun _ h => h
    · exact runs_throw _

theorem runs_evaluate {samples : List Samples} {points : List (ℚ × ℚ)} {viewport : ℕ × ℕ} :
    Runs env stage (evaluate env samples points viewport) fun _ => stage := by
  unfold evaluate
  refine Triple.bind (@Triple.mapM _ _ _ _ _ _ _ (fun _ _ => True) _ fun point _ => ?_) fun results =>
    Triple.pure fun s h => h.2
  unfold evaluatePoint
  refine Triple.read fun session h => ?_
  refine ((runs_predictions _).before fun s read => read ▸ h).bind fun predicted => ?_
  exact Triple.pure fun s h => ⟨trivial, h⟩

theorem runs_viewportOf : Runs env stage viewportOf fun _ => stage := by
  unfold viewportOf
  refine Triple.read fun session h => ?_
  split
  · exact Triple.pure fun s read => read ▸ h
  · exact Triple.throw fun s read => read ▸ h.halted _

/-- All these lists are cleared. -/
def Session.clearAll (s : Session) (samples : List Samples) : Session :=
  samples.foldl (fun s sample => s.clear sample.features) s

theorem clearSamples_run (samples : List Samples) (s : Session) :
    (clearSamples samples).run s = .ok () (s.clearAll samples) := by
  unfold clearSamples Session.clearAll
  induction samples generalizing s with
  | nil => rfl
  | cons sample rest ih =>
    rw [List.foldlM_cons, EStateM.run_bind]
    exact ih (s.clear sample.features)

theorem At.clearAll {samples : List Samples} (h : At env { stage with live := samples } s) :
    At env { stage with live := [] } (s.clearAll samples) ∧ (s.clearAll samples).log = s.log := by
  unfold Session.clearAll
  induction samples generalizing s with
  | nil => exact ⟨h, rfl⟩
  | cons sample rest ih => exact ih h.clear

theorem Halted.clearAll {samples : List Samples} (h : Halted env { stage with live := samples } e s) :
    Halted env { stage with live := [] } e (s.clearAll samples) := by
  unfold Session.clearAll
  induction samples generalizing s with
  | nil => exact h
  | cons sample rest ih => exact ih h.clear

theorem clearChecks_run (s : Session) :
    clearChecks.run s = .ok () { s.clearAll s.checks with checks := [] } := by
  unfold clearChecks
  rw [EStateM.run_bind]
  have ran := clearSamples_run s.checks s
  change (clearSamples s.checks >>= fun _ => modify fun session => { session with checks := [] }).run s = _
  rw [EStateM.run_bind, ran]
  rfl

/-- A stage with these samples captured for a check. -/
def Stage.checking (stage : Stage) (samples : List Samples) : Stage :=
  { stage with live := samples, checks := samples }

/-- **One point of a check.** -/
theorem runs_captureCheck (inside : InSquare point) (sampled : phase ≠ .positioning)
    (apart : phase ≠ .repair) (early : stage.fits = true → point ∉ finalPoints)
    (positioned : stage.positioned = true) :
    Triple (fun s => ∃ samples, At env { stage.checking samples with left := stage.left + 1 } s)
      (captureCheck env phase point) (fun _ s => ∃ samples, At env (stage.checking samples) s)
      (fun e s => ∃ samples, Halted env (stage.checking samples) e s) := by
  refine Triple.forSome fun samples => ?_
  unfold captureCheck
  refine Triple.bind (runs_checkTime.weaken (fun _ h => h) (fun _ _ h => h)
    fun e s h => ⟨samples, h.restage rfl rfl⟩) fun _ => ?_
  have captured := @runs_captureAt env (stage.checking samples) point phase inside
    (fun repair => absurd repair apart) early
  refine Triple.bind (captured.weaken (fun _ h => h) (fun _ _ h => h) fun e s h => ⟨samples, h⟩)
    fun sample => Triple.modify fun s h => ⟨samples ++ [sample], ?_⟩
  have now := h.2
  unfold Stage.captured Stage.checking at now
  dsimp only at now
  rw [if_neg apart, add_zero, show decide (phase ≠ .positioning) = true from decide_eq_true sampled,
    ← positioned] at now
  exact { now with checks := congrArg (· ++ [sample]) now.checks }

/-- The points of a check, by induction on those that are left. -/
theorem runs_checks {points : List (ℚ × ℚ)} (inside : ∀ point ∈ points, InSquare point)
    (sampled : phase ≠ .positioning) (apart : phase ≠ .repair)
    (early : stage.fits = true → ∀ point ∈ points, point ∉ finalPoints)
    (positioned : stage.positioned = true) :
    Triple (fun s => ∃ samples, At env { stage.checking samples with left := stage.left + points.length } s)
      (points.foldlM (fun _ point => captureCheck env phase point) ())
      (fun _ s => ∃ samples, At env (stage.checking samples) s)
      (fun e s => ∃ samples, Halted env (stage.checking samples) e s) := by
  induction points with
  | nil => exact Triple.pure fun s h => h
  | cons point rest ih =>
    rw [List.foldlM_cons, List.length_cons, ← add_assoc]
    have first := @runs_captureCheck env { stage with left := stage.left + rest.length } _ _
      (inside point List.mem_cons_self) sampled apart
      (fun fits => early fits point List.mem_cons_self) positioned
    refine Triple.bind (Q := fun _ s => ∃ samples, At env { stage.checking samples with
      left := stage.left + rest.length } s) (first.weaken (fun _ h => h) (fun _ _ h => h)
        fun e s ⟨samples, h⟩ => ⟨samples, h.restage rfl rfl⟩) fun _ => ?_
    exact ih (fun p member => inside p (List.mem_cons_of_mem _ member))
      fun fits p member => early fits p (List.mem_cons_of_mem _ member)

theorem At.evaluated {q : Quality} (h : At env stage s) :
    At env stage { s with log := s.log ++ [.evaluated q] } := by
  refine { h with log := h.log.evaluated, repairs := ?_, early := ?_ }
  · dsimp only
    rw [List.countP_append, List.countP_singleton]
    exact h.repairs
  · intro fits e member
    rcases List.mem_append.1 member with old | new
    · exact h.early fits e old
    · rw [List.mem_singleton.1 new]
      exact id

/-- The last thing that happened is the evaluation of this quality. -/
def LastEvaluated (q : Quality) (s : Session) : Prop := ∃ earlier, s.log = earlier ++ [.evaluated q]

/-- **A check** leaves no features, and its evaluation last in the log. -/
theorem runs_validate {points : List (ℚ × ℚ)} (inside : ∀ point ∈ points, InSquare point)
    (sampled : phase ≠ .positioning) (apart : phase ≠ .repair)
    (early : stage.fits = true → ∀ point ∈ points, point ∉ finalPoints)
    (positioned : stage.positioned = true) (done : stage.checks = []) :
    Triple (At env { stage with live := [], left := stage.left + points.length })
      (validate env points phase)
      (fun q s => LastEvaluated q s ∧ At env { stage with live := [] } s)
      (Halted env { stage with live := [] }) := by
  unfold validate
  refine Triple.bind (Q := fun _ s => ∃ samples, At env { stage.checking samples with
    left := stage.left + points.length } s) (Triple.modify fun s h => ⟨[], { h with checks := rfl }⟩)
    fun _ => ?_
  refine triple_onExit (Q := fun q s => LastEvaluated q s ∧ ∃ samples, At env (stage.checking samples) s)
    (F := fun e s => ∃ samples, Halted env (stage.checking samples) e s) ?_
    (fun s ⟨samples, h⟩ => ⟨h.toBooks, nofun, nofun, h.valid⟩) (fun q => ?_) fun e ended => ?_
  · refine (runs_checks inside sampled apart early positioned).bind fun _ => Triple.forSome fun samples => ?_
    refine Triple.bind (runs_viewportOf.weaken (fun _ h => h) (fun _ _ h => h) fun e s h => ⟨samples, h⟩)
      fun viewport => Triple.read fun session h => ?_
    refine Triple.bind (runs_evaluate.weaken (fun s read => read ▸ h) (fun _ _ h => h)
      fun e s h => ⟨samples, h⟩) fun q => ?_
    unfold note
    refine Triple.bind (Q := fun _ s => LastEvaluated q s ∧ ∃ samples, At env (stage.checking samples) s)
      (Triple.modify fun s h => ⟨⟨s.log, rfl⟩, samples, h.evaluated⟩) fun _ => Triple.pure fun _ h => h
  · rintro s ⟨last, samples, h⟩
    rw [clearChecks_run, h.checks]
    obtain ⟨cleared, same⟩ := @At.clearAll _ { stage with checks := samples } _ _ h
    refine ⟨?_, { cleared with checks := done.symm }⟩
    unfold LastEvaluated at last ⊢
    dsimp only [Stage.checking]
    rwa [same]
  · rintro s ⟨samples, h⟩
    rw [clearChecks_run, h.checks ended]
    exact { @Halted.clearAll _ (stage.checking samples) _ _ _ h with checks := fun _ => done.symm }

/-! ## The run -/

theorem nearby_inside (point : ℚ × ℚ) : InSquare (nearby point) := by
  have between (x : ℚ) : 0 ≤ max 0.05 (min 0.95 x) ∧ max 0.05 (min 0.95 x) ≤ 1 :=
    ⟨le_max_of_le_left (by norm_num), max_le (by norm_num) (min_le_of_left_le (by norm_num))⟩
  exact ⟨between _, between _⟩

theorem checkPoints_spec : ∀ point ∈ checkPoints, InSquare point ∧ point ∉ finalPoints ∧
    nearby point ∉ finalPoints := by
  unfold InSquare
  decide +kernel

theorem finalPoints_inside : ∀ point ∈ finalPoints, InSquare point := by
  unfold InSquare
  decide +kernel

theorem trainingPoints_spec (profileId : Profile) :
    (∀ point ∈ trainingPoints profileId, InSquare point ∧ point ∉ finalPoints) ∧
      trainingPoints profileId ≠ [] ∧ (trainingPoints profileId).length ≤ 25 := by
  unfold InSquare
  cases profileId <;> decide +kernel

/-- A verification may only be followed by no fit. -/
theorem At.closed (h : At env stage s) : At env { stage with fits := false } s :=
  { h with early := nofun }

/-- The extra points, by induction on those that are left. -/
theorem between_extras {extra : List (ℚ × ℚ)} (inside : ∀ point ∈ extra, InSquare point)
    (outside : ∀ point ∈ extra, point ∉ finalPoints)
    (room : stage.repairs + extra.length ≤ maxRepairPoints) (positioned : stage.positioned = true) :
    Triple (At env { stage with live := [], left := stage.left + extra.length })
      (extra.foldlM (fun _ point => captureExtra env point) ())
      (fun _ => At env { stage with
        live := [], trained := stage.trained ++ extra, repairs := stage.repairs + extra.length })
      (Halted env { stage with live := [] }) := by
  induction extra generalizing stage with
  | nil =>
    refine Triple.pure fun s h => ?_
    rw [List.append_nil]
    exact h
  | cons point rest ih =>
    rw [List.foldlM_cons]
    rw [List.length_cons] at room ⊢
    have first := @between_captureExtra env { stage with
      left := stage.left + rest.length } _ (inside point List.mem_cons_self)
      (outside point List.mem_cons_self) (by dsimp only; omega)
    refine Triple.bind (Q := fun _ => At env { stage with
      live := [], trained := stage.trained ++ [point], positioned := true, repairs := stage.repairs + 1
      left := stage.left + rest.length })
      (first.weaken (fun _ h => h) (fun _ _ h => h) fun _ _ h => h.restage rfl rfl) fun _ => ?_
    refine (@ih { stage with
      trained := stage.trained ++ [point], positioned := true, repairs := stage.repairs + 1 }
      (fun p member => inside p (List.mem_cons_of_mem _ member))
      (fun p member => outside p (List.mem_cons_of_mem _ member)) (by dsimp only; omega) rfl).weaken
      (fun _ h => h) (fun _ s h => ?_) fun _ _ h => h.restage rfl rfl
    rw [add_comm rest.length, ← add_assoc, positioned]
    rwa [List.append_assoc] at h

/-- A run whose last evaluation passed. -/
structure Passed (env : SessionEnv) (stage : Stage) (s : Session) : Prop extends
    At env { stage with live := [] } s where
  last : ∃ q, LastEvaluated q s ∧ q.passed = true

/-- **Retraining** ends with a verification that passed. -/
theorem runs_retrain {extra : List (ℚ × ℚ)} (inside : ∀ point ∈ extra, InSquare point)
    (outside : ∀ point ∈ extra, point ∉ finalPoints)
    (room : stage.repairs + extra.length ≤ maxRepairPoints)
    (bounded : stage.total + (extra.length + finalPoints.length) ≤ maxCount)
    (positioned : stage.positioned = true) (fits : stage.fits = true) (done : stage.checks = []) :
    Triple (At env { stage with live := [] }) (retrain env stage.trained extra)
      (fun _ s => ∃ stage', Passed env stage' s ∧ stage'.checks = [])
      (Halted env { stage with live := [] }) := by
  unfold retrain
  refine (@between_addTargets _ stage _ bounded).bind fun _ => ?_
  have extras := @between_extras env { stage with
    left := stage.left + finalPoints.length
    total := stage.total + (extra.length + finalPoints.length) } extra inside outside room positioned
  refine Triple.bind (Q := fun _ => At env { stage with
    live := [], trained := stage.trained ++ extra, repairs := stage.repairs + extra.length
    left := stage.left + finalPoints.length
    total := stage.total + (extra.length + finalPoints.length) })
    (extras.weaken (fun s h => ?_) (fun _ _ h => h) fun _ _ h => h.restage rfl rfl) fun _ => ?_
  · have order : stage.left + (extra.length + finalPoints.length) =
        stage.left + finalPoints.length + extra.length := by omega
    dsimp only at h ⊢
    rw [order] at h
    exact h
  have fitted := @between_fitModel env { stage with
    trained := stage.trained ++ extra, repairs := stage.repairs + extra.length
    left := stage.left + finalPoints.length
    total := stage.total + (extra.length + finalPoints.length) } fits positioned
  refine Triple.bind (fitted.weaken (fun _ h => h) (fun _ _ h => h) fun _ _ h => h.restage rfl rfl)
    fun _ => ?_
  have verified := @runs_validate env { stage with
    trained := stage.trained ++ extra, repairs := stage.repairs + extra.length
    total := stage.total + (extra.length + finalPoints.length), fits := false } .verification _ finalPoints_inside
    (by decide) (by decide) nofun positioned done
  refine Triple.bind (verified.weaken (fun s h => h.closed) (fun _ _ h => h)
    fun _ _ h => h.restage rfl rfl) fun q => ?_
  refine Triple.ite (fun passed => Triple.pure fun s h => ?_) fun _ => Triple.throw fun s h => ?_
  · exact ⟨_, ⟨h.2, q, h.1, passed⟩, done⟩
  · exact (h.2.halted _).restage rfl rfl

theorem mem_of_mapM_getElem? {indexes : List ℕ} {bad : List (ℚ × ℚ)}
    (read : indexes.mapM (fun i => checkPoints[i]?) = some bad) :
    bad.length = indexes.length ∧ ∀ point ∈ bad, point ∈ checkPoints := by
  induction indexes generalizing bad with
  | nil =>
    cases read
    exact ⟨rfl, fun point member => absurd member List.not_mem_nil⟩
  | cons i rest ih =>
    rw [List.mapM_cons] at read
    cases first : checkPoints[i]? with
    | none =>
      rw [first] at read
      cases read
    | some point =>
      cases later : rest.mapM fun i => checkPoints[i]? with
      | none =>
        rw [first, later] at read
        cases read
      | some points =>
        rw [first, later] at read
        cases read
        obtain ⟨same, known⟩ := ih later
        refine ⟨congrArg (· + 1) same, List.forall_mem_cons.2 ⟨List.mem_of_getElem? first, known⟩⟩

theorem runs_badCheckPoints (indexes : List ℕ) : Triple (At env stage) (badCheckPoints indexes)
    (fun bad s => (bad.length = indexes.length ∧ ∀ point ∈ bad, point ∈ checkPoints) ∧ At env stage s)
    (Halted env stage) := by
  unfold badCheckPoints
  cases read : indexes.mapM fun i => checkPoints[i]? with
  | none => exact Triple.throw fun _ h => h.halted _
  | some bad => exact Triple.pure fun _ h => ⟨mem_of_mapM_getElem? read, h⟩

/-- **A first evaluation that did not pass** is followed by a retraining or a failure. -/
theorem runs_repairMeasured {q : Quality} {repairs : ℕ} (same : stage.repairs = repairs)
    (few : repairs ≤ maxRepairPoints)
    (bounded : stage.total + (maxRepairPoints + finalPoints.length) ≤ maxCount)
    (positioned : stage.positioned = true) (fits : stage.fits = true) (done : stage.checks = []) :
    Triple (At env { stage with live := [] }) (repairMeasured env stage.trained q repairs)
      (fun _ s => ∃ stage', Passed env stage' s ∧ stage'.checks = [])
      (Halted env { stage with live := [] }) := by
  unfold repairMeasured
  refine Triple.ite (fun _ => Triple.throw fun _ h => h.halted _) fun _ => ?_
  refine Triple.ite (fun _ => Triple.throw fun _ h => h.halted _) fun repairable => ?_
  have room : q.badPoints.length ≤ maxRepairPoints - repairs :=
    not_lt.1 fun many => repairable (.inr (.inr (.inr many)))
  refine (runs_badCheckPoints _).bind fun bad => Triple.assuming fun ⟨length, known⟩ => ?_
  have extra : (bad.map nearby).length = bad.length := List.length_map _
  have retrained := @runs_retrain env stage (bad.map nearby)
    (fun point member => by
      obtain ⟨near, -, rfl⟩ := List.mem_map.1 member
      exact nearby_inside near)
    (fun point member => by
      obtain ⟨near, listed, rfl⟩ := List.mem_map.1 member
      exact (checkPoints_spec near (known near listed)).2.2)
    (by omega) (by omega) positioned fits done
  exact retrained.bind fun _ => Triple.pure fun _ h => h

/-- What a run leaves when it returns, before its lists are cleared. -/
structure Succeeded (env : SessionEnv) (s : Session) : Prop extends Books env s where
  owned : Owned s s.training
  checks : s.checks = []
  valid : s.valid = true
  last : ∃ q, LastEvaluated q s ∧ q.passed = true

/-- The stage a run begins with. -/
def Stage.first (points : List (ℚ × ℚ)) : Stage where
  trained := []
  live := []
  checks := []
  left := checkPoints.length + points.length + 1
  total := checkPoints.length + points.length + 1
  repairs := 0
  fits := true
  positioned := false

/-- **The body of a run.** -/
theorem runs_runBody {points : List (ℚ × ℚ)} (inside : ∀ point ∈ points, InSquare point)
    (outside : ∀ point ∈ points, point ∉ finalPoints) (some : points ≠ []) (few : points.length ≤ 25) :
    Triple (At env (Stage.first points)) (runBody env points) (fun _ => Succeeded env)
      (Halted env (Stage.first points)) := by
  have eight : checkPoints.length = 8 := rfl
  unfold runBody
  have ready := @runs_captureReadiness env { Stage.first points with
    left := checkPoints.length + points.length }
  refine Triple.bind (ready.weaken (fun s h => h) (fun _ s h => h) fun _ _ h => h.restage rfl rfl)
    fun _ => ?_
  have trained := @between_training env { Stage.first points with
    left := checkPoints.length } points inside outside (0, 0)
  refine Triple.bind (Q := fun _ => At env { Stage.first points with
    left := checkPoints.length, trained := points, positioned := true }) (trained.weaken (fun s h => h)
      (fun _ s h => ?_) fun _ _ h => h.restage rfl rfl) fun _ => ?_
  · rwa [if_neg some] at h
  have bounded : (Stage.first points).total + (maxRepairPoints + (maxRepairPoints + finalPoints.length)) ≤
      maxCount := by
    have final : finalPoints.length = 8 := rfl
    unfold Stage.first maxRepairPoints maxCount
    dsimp only
    omega
  have repaired := @between_repairAll env { Stage.first points with
    left := checkPoints.length, trained := points, positioned := true } inside outside rfl
    (by dsimp only; omega) rfl
  refine Triple.bind (repaired.weaken (fun s h => h) (fun _ _ h => h) fun _ _ h => h.restage rfl rfl)
    fun missing => Triple.assuming fun room => ?_
  have fitted := @between_fitModel env { Stage.first points with
    left := checkPoints.length, trained := points, positioned := true
    total := (Stage.first points).total + missing, repairs := missing } rfl rfl
  refine Triple.bind (fitted.weaken (fun s h => h) (fun _ _ h => h) fun _ _ h => h.restage rfl rfl)
    fun _ => ?_
  have validated := @runs_validate env { Stage.first points with
    left := 0, trained := points, positioned := true
    total := (Stage.first points).total + missing, repairs := missing } .validation checkPoints
    (fun point member => (checkPoints_spec point member).1) (by decide) (by decide)
    (fun _ point member => (checkPoints_spec point member).2.1) rfl rfl
  refine Triple.bind (validated.weaken (fun s h => ?_) (fun _ _ h => h) fun _ _ h => h.restage rfl rfl)
    fun q => ?_
  · dsimp only
    rw [zero_add]
    exact h
  refine Triple.bind (Q := fun _ s => ∃ stage', Passed env stage' s ∧ stage'.checks = []) ?_ fun repairs =>
    Triple.modify fun s ⟨stage', passed, done⟩ => ?_
  · refine Triple.ite (fun passed => Triple.pure fun s h => ⟨_, ⟨h.2, q, h.1, passed⟩, rfl⟩) fun _ => ?_
    have measured := @runs_repairMeasured env { Stage.first points with
      left := 0, trained := points, positioned := true
      total := (Stage.first points).total + missing, repairs := missing } q _ rfl room
      (by dsimp only; omega) rfl rfl rfl
    exact measured.weaken (fun s h => h.2) (fun _ _ h => h) fun _ _ h => h.restage rfl rfl
  · have owned := passed.owned
    rw [List.append_nil] at owned
    exact ⟨{ passed.toBooks with }, owned, passed.checks.trans done, rfl, passed.last⟩

/-! ## The outcome -/

/-- No list holds a feature. -/
def Session.Cleared (s : Session) : Prop := ∀ place, s.source.lists place = []

/-- What a run leaves when it returns. -/
structure Finished (env : SessionEnv) (s : Session) : Prop extends Books env s where
  cleared : s.Cleared
  last : ∃ q, LastEvaluated q s ∧ q.passed = true

/-- What a run leaves when it raises, and what it has so far while it waits. -/
structure Unfinished (env : SessionEnv) (e : Stop) (s : Session) : Prop extends Books env s where
  cleared : e ≠ .waiting → s.Cleared
  valid : s.valid = false

theorem owned_clearAll {samples : List Samples} (h : Owned s samples) : (s.clearAll samples).Cleared := by
  have none : Owned (s.clearAll samples) [] := by
    unfold Session.clearAll
    induction samples generalizing s with
    | nil => exact h
    | cons sample rest ih => exact ih (@owned_clear _ _ [] _ h)
  intro place
  by_contra holds
  obtain ⟨_, member, -⟩ := none place holds
  exact absurd member List.not_mem_nil

theorem books_clearAll {samples : List Samples} (h : Books env s) : Books env (s.clearAll samples) := by
  unfold Session.clearAll
  induction samples generalizing s with
  | nil => exact h
  | cons sample rest ih => exact ih (s := s.clear sample.features) { h with }

theorem endRun_run (env : SessionEnv) (s : Session) : ∃ ended : Session,
    (endRun env).run s = .ok () { ended.clearAll s.training with training := [] } ∧
    ended.source.work = s.source.work ∧ ended.log = s.log ∧ ended.valid = s.valid := by
  refine ⟨{ s with source := { s.source with readings := s.source.readings + 1 } }, ?_, rfl, rfl, rfl⟩
  have ran := clearSamples_run s.training
    { s with source := { s.source with readings := s.source.readings + 1 } }
  unfold endRun
  rw [EStateM.run_bind]
  change (clearSamples s.training >>= fun _ => modify fun session => { session with training := [] }).run
    { s with source := { s.source with readings := s.source.readings + 1 } } = _
  rw [EStateM.run_bind, ran]
  rfl

theorem log_clearAll (samples : List Samples) :
    (s.clearAll samples).log = s.log ∧ (s.clearAll samples).valid = s.valid := by
  unfold Session.clearAll
  induction samples generalizing s with
  | nil => exact ⟨rfl, rfl⟩
  | cons sample rest ih => exact ih (s := s.clear sample.features)

/-- What the end of a run leaves. -/
theorem ended_spec (books : Books env s) (owned : Owned s s.training) : ∃ ended,
    (endRun env).run s = .ok () ended ∧ Books env ended ∧ ended.Cleared ∧ ended.log = s.log ∧
      ended.valid = s.valid := by
  obtain ⟨read, ran, same, log, valid⟩ := endRun_run env s
  obtain ⟨log', valid'⟩ := log_clearAll (s := read) s.training
  simp only [Source.work, Prod.mk.injEq] at same
  obtain ⟨-, lists, completed, -, totalTargets, -, shown⟩ := same
  have kept : Books env read := by
    refine ⟨log ▸ books.log, ?_, shown ▸ books.shown⟩
    rw [completed, totalTargets]
    exact books.completed
  have cleared : (read.clearAll s.training).Cleared :=
    owned_clearAll fun place holds => owned place (lists ▸ holds)
  exact ⟨_, ran, { books_clearAll kept with }, cleared, log'.trans log, valid'.trans valid⟩

/-- The stage a session begins its run with. -/
theorem at_first {points : List (ℚ × ℚ)} (few : points.length ≤ 25)
    (queue : List (Option CalibrationPacket)) : At env (Stage.first points) { Session.new env queue with
      source := { (Session.new env queue).source with
        totalTargets := 1 + points.length + checkPoints.length } } := by
  have eight : checkPoints.length = 8 := rfl
  refine {
    log := ⟨fun call member => absurd member List.not_mem_nil, List.Pairwise.nil, Nat.zero_le _⟩
    completed := Nat.zero_le _
    shown := fun p member => absurd member List.not_mem_nil
    totalTargets := ?_
    planned := zero_add _
    bounded := ?_
    serial := rfl
    owned := fun place holds => absurd rfl holds
    allocated := fun sample member => absurd member List.not_mem_nil
    trains := .nil
    checks := rfl
    repairs := rfl
    early := fun _ e member => absurd member List.not_mem_nil
    valid := rfl
    progress := fun p known => absurd known (Option.not_mem_none p) }
  · unfold Stage.first
    dsimp only
    omega
  · unfold Stage.first maxCount
    dsimp only
    omega

/-- What a run leaves, however it ends. -/
theorem run_spec (env : SessionEnv) (queue : List (Option CalibrationPacket)) :
    Triple (· = Session.new env queue) (run env) (fun _ => Finished env) (Unfinished env) := by
  obtain ⟨placed, some, few⟩ := trainingPoints_spec env.profileId
  unfold run
  refine Triple.bind (Q := fun _ => At env (Stage.first (trainingPoints env.profileId)))
    (Triple.modify fun s new => ?_) fun _ => ?_
  · rw [new]
    exact at_first few queue
  refine triple_onExit (runs_runBody (fun point member => (placed point member).1)
    (fun point member => (placed point member).2) some few)
    (fun s h => ⟨h.toBooks, nofun, h.valid⟩) (fun _ s h => ?_) fun e ended s h => ?_
  · obtain ⟨ended, ran, books, cleared, log, -⟩ := ended_spec h.toBooks h.owned
    rw [ran]
    obtain ⟨q, ⟨earlier, last⟩, passed⟩ := h.last
    exact ⟨books, cleared, q, ⟨earlier, log.trans last⟩, passed⟩
  · have owned := h.owned ended
    rw [show (Stage.first (trainingPoints env.profileId)).live = [] from rfl, List.append_nil] at owned
    obtain ⟨final, ran, books, cleared, -, valid⟩ := ended_spec h.toBooks owned
    rw [ran]
    exact ⟨books, fun _ => cleared, valid.trans h.valid⟩

/-- **Every run of a calibration**, whatever its packets, clock, cancel event and estimator do: what it
fits is paired and was captured for training, the final points are captured after the last fit, four
repairs are captured at most, and no list keeps features after it. -/
theorem calibration_run_sound (env : SessionEnv) (queue : List (Option CalibrationPacket)) :
    Triple (· = Session.new env queue) (run env) (fun _ => Finished env) (Unfinished env) :=
  run_spec env queue

end

/-! ## A run that ends valid -/

/-- A session whose estimator predicts every target without an error. -/
def steadyEnv : SessionEnv where
  calibrationId := "calibration-1"
  profileId := .adaptiveSparse16
  clock n := n / 100
  cancelled _ := false
  predict _ features := some (features.map fun _ => [.finite 20, .finite 30])
  fit _ := .fitted
  errorOf _ _ _ := 0
  repairAccuracy := true

/-- A packet for a target that was presented at 0 ms, with the face in place. -/
def steadyPacket (target : ℕ) (capturedMs : ℚ) : CalibrationPacket where
  marker := some ⟨"calibration-1", "target-" ++ toString target, 0⟩
  capturedMs := capturedMs
  receivedAt := 100
  viewport := (100, 100)
  features := .extracted (.vector [1, 2]) false
  positioning := .extracted (.vector [1, 2]) false
    (some ⟨.finite 0.5, .finite 0.5, .finite 0.3, .finite 0.5, .finite 0, .finite 0, .finite 0, true⟩)

/-- The packets of the readiness capture, or of another one, which starts with a frame to settle. -/
def steadyPackets (target : ℕ) : List CalibrationPacket :=
  if target = 1 then (List.range 15).map fun k => steadyPacket target (200 + 75 * k)
  else steadyPacket target 350 :: (List.range 15).map fun k => steadyPacket target (500 + 50 * k)

/-- The packets of the readiness, training and check captures. -/
def steadyQueue : List (Option CalibrationPacket) :=
  ((List.range 25).flatMap fun k => steadyPackets (k + 1)).map some

/-- The steady face is calibrated with one fit. -/
theorem steadyRun_valid : ∃ s, (run steadyEnv).run (Session.new steadyEnv steadyQueue) = .ok () s ∧
    s.valid = true ∧ s.fits = 1 ∧ s.source.completed = 25 := by
  have ended : (match (run steadyEnv).run (Session.new steadyEnv steadyQueue) with
      | .ok _ s => decide (s.valid = true ∧ s.fits = 1 ∧ s.source.completed = 25)
      | .error _ _ => false) = true := by decide +kernel
  split at ended
  · rename_i u s ran
    exact ⟨s, ran, of_decide_eq_true ended⟩
  · cases ended

theorem calibration_run_sound_steady : ∃ s,
    (run steadyEnv).run (Session.new steadyEnv steadyQueue) = .ok () s ∧ s.valid = true ∧ s.fits = 1 ∧
      Finished steadyEnv s := by
  obtain ⟨s, ran, valid, fits, -⟩ := steadyRun_valid
  exact ⟨s, ran, valid, fits, (calibration_run_sound steadyEnv steadyQueue).ok rfl ran⟩

end Mkk.Eye
