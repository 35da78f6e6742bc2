import Mkk.Api.Contract
import Mkk.Eye.GazeStabilizer
import Mkk.Eye.SessionCalibration
import Mkk.Lib.Equality
import Mkk.Lib.Labels

/-!
# The ridge model of a calibration

`_train_once` and `_select_ridge_alpha` of `eyetrax.py`: the samples of the training targets, the choice of
alpha, and the model. The library's models, the norm and the percentiles are parameters. Every candidate is
scored on samples of targets its model was not trained on (`trainOnce_cross_validated`).
-/

namespace Mkk.Eye.EyeTrax

open Lib

/-! ## The library -/

/-- Ridge models and what `numpy` computes of their predictions; all but `createModel` may raise. -/
structure GazeLibrary (F M : Type) where
  createModel : ℚ → M
  train : M → List F → List (ℚ × ℚ) → Except Unit M
  predict : M → List F → Except Unit (List Prediction)
  errors : List Prediction → List (ℚ × ℚ) → Except Unit (List PyFloat)
  percentiles : List PyFloat → PyFloat × PyFloat

/-- The exceptions of a calibration: the participant's, and all others. -/
inductive CalibrationStop where
  | cancelled
  | failed
  deriving DecidableEq

/-- A call of the library in a calibration. -/
def called {α : Type} : Except Unit α → Except CalibrationStop α
  | .ok a => .ok a
  | .error () => .error .failed

/-! ## Scores -/

/-- A float on the extended line; what is not a number is nowhere. -/
def level : PyFloat → Option (WithBot (WithTop ℚ))
  | .finite q => some ((q : WithTop ℚ) : WithBot (WithTop ℚ))
  | .infinity true => some ⊥
  | .infinity false => some ((⊤ : WithTop ℚ) : WithBot (WithTop ℚ))
  | .nan => none

/-- `x < y` -/
def below (x y : PyFloat) : Bool := (level x).any fun a => (level y).any fun b => decide (a < b)

/-- `(p50, p95, alpha)` -/
structure CandidateScore where
  p50 : PyFloat
  p95 : PyFloat
  alpha : ℚ
  deriving DecidableEq

/-- `<` of tuples: the first components that differ decide. -/
def CandidateScore.less (s t : CandidateScore) : Bool :=
  if s.p50.equals t.p50 then
    if s.p95.equals t.p95 then decide (s.alpha < t.alpha) else below s.p95 t.p95
  else below s.p50 t.p50

/-- `min(scores)` for scores of which the first is given. -/
def leastScore (first : CandidateScore) (rest : List CandidateScore) : CandidateScore :=
  rest.foldl (fun best s => if s.less best then s else best) first

/-! ## The choice of alpha -/

/-- `RIDGE_ALPHA_CANDIDATES` -/
def ridgeAlphaCandidates : List ℚ := [0.001, 0.01, 0.1, 1, 10]

section

variable {F M : Type} (lib : GazeLibrary F M)

/-- The errors of the samples with one label, predicted by a model of the others. -/
def foldErrors (alpha : ℚ) (features : List F) (targets : List (ℚ × ℚ)) (groups : List ℕ) (heldOut : ℕ) :
    Except CalibrationStop (List PyFloat) := do
  let trainMask := fun label => label != heldOut
  let testMask := fun label => !trainMask label
  let model ← called (lib.train (lib.createModel alpha) (masked trainMask groups features)
    (masked trainMask groups targets))
  let predicted ← called (lib.predict model (masked testMask groups features))
  called (lib.errors predicted (masked testMask groups targets))

/-- A turn of the loop over the points and their numbers of samples, where `cancelled` says whether
`check_cancelled` raises. -/
def addFold (cancelled : ℚ → ℕ → Bool) (alpha : ℚ) (features : List F) (targets : List (ℚ × ℚ))
    (groups : List ℕ) (errors : List PyFloat) (point : ℕ × ℕ) : Except CalibrationStop (List PyFloat) :=
  if cancelled alpha point.2 then .error .cancelled
  else if point.1 = 0 then .ok errors
  else do
    let more ← foldErrors lib alpha features targets groups point.2
    return errors ++ more

/-- The errors of a candidate over all points with samples. -/
def candidateErrors (cancelled : ℚ → ℕ → Bool) (alpha : ℚ) (features : List F) (targets : List (ℚ × ℚ))
    (samplesPerPoint : List ℕ) : Except CalibrationStop (List PyFloat) :=
  samplesPerPoint.zipIdx.foldlM
    (addFold lib cancelled alpha features targets (labelsFrom 0 samplesPerPoint)) []

/-- An entry of `candidate_scores`. -/
def candidateScore (cancelled : ℚ → ℕ → Bool) (features : List F) (targets : List (ℚ × ℚ))
    (samplesPerPoint : List ℕ) (alpha : ℚ) : Except CalibrationStop CandidateScore := do
  let errors ← candidateErrors lib cancelled alpha features targets samplesPerPoint
  let (p50, p95) := lib.percentiles errors
  return ⟨p50, p95, alpha⟩

/-- `_select_ridge_alpha` -/
def selectRidgeAlpha (cancelled : ℚ → ℕ → Bool) (features : List F) (targets : List (ℚ × ℚ))
    (samplesPerPoint : List ℕ) : Except CalibrationStop ℚ :=
  let nonEmptyGroupCount := samplesPerPoint.countP fun count => decide (0 < count)
  if samplesPerPoint.sum ≠ features.length ∨ features.length ≠ targets.length then .error .failed
  else if nonEmptyGroupCount < 2 then .ok 1
  else do
    match ← ridgeAlphaCandidates.mapM (candidateScore lib cancelled features targets samplesPerPoint) with
    | [] => .error .failed
    | first :: rest => .ok (leastScore first rest).alpha

end

/-! ## Training -/

/-- A frame of a calibration source, and what `extract_features` gives for it: features or none, and
whether the eyes are closed. -/
inductive Frame (F : Type) where
  | malformed
  | extracted (result : Except Unit (Option F × Bool))

/-- `extract_features(_validate_bgr_frame(frame))` -/
def Frame.features {F : Type} : Frame F → Except CalibrationStop (Option F × Bool)
  | .malformed => .error .failed
  | .extracted result => called result

/-- The frames a source yields for one target, and the exception it may end with. -/
structure Footage (F : Type) where
  frames : List (Frame F)
  ending : Option CalibrationStop

/-- The loop over the frames of a target. -/
def Footage.read {F β : Type} (footage : Footage F) (step : β → Option F × Bool → Except CalibrationStop β)
    (start : β) : Except CalibrationStop β := do
  let left ← footage.frames.foldlM (fun b frame => frame.features >>= step b) start
  match footage.ending with
  | none => return left
  | some stop => throw stop

/-- `DENSE_GRID_AXIS` -/
def denseGridAxis : List ℚ := [0.10, 0.30, 0.50, 0.70, 0.90]

/-- `FULLSCREEN_TRAINING_POINTS` -/
def fullscreenTrainingPoints : List (ℚ × ℚ) :=
  denseGridAxis.zipIdx.flatMap fun (y, row) =>
    (if row % 2 = 0 then denseGridAxis else denseGridAxis.reverse).map fun x => (x, y)

/-- `MIN_TRAINING_SAMPLES_PER_POINT` -/
def minTrainingSamplesPerPoint : ℕ := 10

/-- `[float(int(x_norm * width)), float(int(y_norm * height))]` -/
def pixelTarget (width height : ℤ) (point : ℚ × ℚ) : ℚ × ℚ :=
  (truncate (point.1 * width), truncate (point.2 * height))

/-- `point_features` of a frame more. -/
def addFeatures {F : Type} (pointFeatures : List F) : Option F × Bool → Except CalibrationStop (List F)
  | (some features, false) => .ok (pointFeatures ++ [features])
  | _ => .ok pointFeatures

/-- The targets of the samples, a list for each point. -/
def sampleTargets {F : Type} (targets : List (ℚ × ℚ)) (collected : List (List F)) : List (List (ℚ × ℚ)) :=
  List.zipWith (fun target samples => List.replicate samples.length target) targets collected

/-- `_train_once`: the trained model, or none when a target has too few samples. -/
def trainOnce {F M : Type} (lib : GazeLibrary F M) (width height : ℤ) (source : ℕ → Footage F) :
    Except CalibrationStop (Option M) := do
  let collected ← (List.range fullscreenTrainingPoints.length).mapM fun index =>
    (source index).read addFeatures []
  let samplesPerPoint := collected.map List.length
  let features := collected.flatten
  let targets := (sampleTargets (fullscreenTrainingPoints.map (pixelTarget width height)) collected).flatten
  if features.isEmpty || samplesPerPoint.any fun count => decide (count < minTrainingSamplesPerPoint) then
    .ok none
  else do
    let selectedAlpha ← selectRidgeAlpha lib (fun _ _ => false) features targets samplesPerPoint
    let model ← called (lib.train (lib.createModel selectedAlpha) features targets)
    return some model

/-! ## The least score -/

theorem below_trans {x y z : PyFloat} (first : below x y = true) (second : below y z = true) :
    below x z = true := by
  unfold below at *
  simp only [Option.any_eq_true, decide_eq_true_eq] at *
  obtain ⟨a, ha, b, hb, lt⟩ := first
  obtain ⟨b', hb', c, hc, lt'⟩ := second
  obtain rfl := Option.some.inj (hb.symm.trans hb')
  exact ⟨a, ha, c, hc, lt.trans lt'⟩

theorem below_self (x : PyFloat) : below x x = false := by
  unfold below
  cases level x with
  | none => rfl
  | some a => simp

theorem equals_iff {x y : PyFloat} : x.equals y = true ↔ x = y ∧ x ≠ .nan := by
  unfold PyFloat.equals
  simp

namespace CandidateScore

variable {s t u : CandidateScore}

theorem less_iff : s.less t = true ↔ below s.p50 t.p50 = true ∨ s.p50.equals t.p50 = true ∧
    (below s.p95 t.p95 = true ∨ s.p95.equals t.p95 = true ∧ s.alpha < t.alpha) := by
  have apart {x y : PyFloat} (lt : below x y = true) : x.equals y = false := by
    rw [Bool.eq_false_iff, Ne, equals_iff]
    rintro ⟨rfl, -⟩
    rw [below_self] at lt
    cases lt
  unfold less
  split
  next first =>
    have high : ¬below s.p50 t.p50 = true := fun lt => by
      rw [apart lt] at first
      cases first
    rw [or_iff_right high, and_iff_right first]
    split
    next second =>
      have far : ¬below s.p95 t.p95 = true := fun lt => by
        rw [apart lt] at second
        cases second
      rw [or_iff_right far, and_iff_right second, decide_eq_true_eq]
    next second => exact (or_iff_left fun both => second both.1).symm
  next first => exact (or_iff_left fun both => first both.1).symm

theorem less_trans (first : s.less t = true) (second : t.less u = true) : s.less u = true := by
  rw [less_iff] at *
  rcases first with lt | ⟨same, first⟩
  · rcases second with lt' | ⟨same', -⟩
    · exact .inl (below_trans lt lt')
    · exact .inl ((equals_iff.1 same').1 ▸ lt)
  · have keep : s.p50 = t.p50 := (equals_iff.1 same).1
    rcases second with lt' | ⟨same', second⟩
    · exact .inl (keep ▸ lt')
    · refine .inr ⟨keep ▸ same', ?_⟩
      rcases first with lt | ⟨equal, lt⟩
      · rcases second with lt' | ⟨equal', -⟩
        · exact .inl (below_trans lt lt')
        · exact .inl ((equals_iff.1 equal').1 ▸ lt)
      · have keep' : s.p95 = t.p95 := (equals_iff.1 equal).1
        rcases second with lt' | ⟨equal', lt'⟩
        · exact .inl (keep' ▸ lt')
        · exact .inr ⟨keep' ▸ equal', lt.trans lt'⟩

theorem less_self (s : CandidateScore) : s.less s = false := by
  rw [Bool.eq_false_iff, Ne, less_iff, below_self, below_self]
  simp

end CandidateScore

theorem leastScore_mem (first : CandidateScore) (rest : List CandidateScore) :
    leastScore first rest ∈ first :: rest := by
  unfold leastScore
  induction rest generalizing first with
  | nil => exact List.mem_cons_self
  | cons s rest ih =>
    rw [List.foldl_cons]
    rcases List.mem_cons.1 (ih (if s.less first then s else first)) with kept | later
    · rw [kept]
      split
      · exact List.mem_cons_of_mem _ List.mem_cons_self
      · exact List.mem_cons_self
    · exact List.mem_cons_of_mem _ (List.mem_cons_of_mem _ later)

/-- The result is the first score or less than it. -/
theorem leastScore_eq_or_less (first : CandidateScore) (rest : List CandidateScore) :
    leastScore first rest = first ∨ (leastScore first rest).less first = true := by
  induction rest generalizing first with
  | nil => exact .inl rfl
  | cons s rest ih =>
    have step : leastScore first (s :: rest) = leastScore (if s.less first then s else first) rest := rfl
    rw [step]
    by_cases lt : s.less first = true
    · rw [if_pos lt]
      rcases ih s with same | less
      · rw [same]
        exact .inr lt
      · exact .inr (CandidateScore.less_trans less lt)
    · rw [if_neg lt]
      exact ih first

/-- No score is less than the least, also when some are not numbers. -/
theorem not_less_leastScore {first s : CandidateScore} {rest : List CandidateScore} (member : s ∈ first :: rest) :
    s.less (leastScore first rest) = false := by
  induction rest generalizing first s with
  | nil =>
    obtain rfl := List.mem_singleton.1 member
    exact s.less_self
  | cons t rest ih =>
    have step : leastScore first (t :: rest) = leastScore (if t.less first then t else first) rest := rfl
    rw [step, Bool.eq_false_iff]
    intro less
    by_cases lt : t.less first = true
    · rw [if_pos lt] at less
      rcases List.mem_cons.1 member with rfl | member
      · -- the first score was replaced by `t`, and nothing is less than itself
        have smaller : t.less (leastScore t rest) = true := CandidateScore.less_trans lt less
        rw [ih List.mem_cons_self] at smaller
        cases smaller
      · rw [ih member] at less
        cases less
    · rw [if_neg lt] at less
      rcases List.mem_cons.1 member with rfl | member
      · rw [ih List.mem_cons_self] at less
        cases less
      · rcases List.mem_cons.1 member with rfl | later
        · rcases leastScore_eq_or_less first rest with same | smaller
          · exact lt (same ▸ less)
          · exact lt (CandidateScore.less_trans less smaller)
        · rw [ih (List.mem_cons_of_mem _ later)] at less
          cases less

/-! ## Cross validation -/

section

variable {F M : Type} {lib : GazeLibrary F M}

/-- The errors of the samples of one point, predicted by a model trained on those of the others. -/
def HeldOut (lib : GazeLibrary F M) (alpha : ℚ) (collected : List (List F)) (targets : List (List (ℚ × ℚ)))
    (held : ℕ) (errors : List PyFloat) : Prop :=
  ∃ model predicted,
    lib.train (lib.createModel alpha) (collected.eraseIdx held).flatten (targets.eraseIdx held).flatten =
      .ok model ∧
    lib.predict model (collected[held]?.getD []) = .ok predicted ∧
    lib.errors predicted (targets[held]?.getD []) = .ok errors

/-- Each point with samples is held out once, in the order of the points. -/
def CrossValidated (lib : GazeLibrary F M) (alpha : ℚ) (collected : List (List F))
    (targets : List (List (ℚ × ℚ))) (errors : List PyFloat) : Prop :=
  ∃ parts : List (List PyFloat), errors = parts.flatten ∧
    List.Forall₂ (fun own => HeldOut lib alpha collected targets own.2)
      (collected.zipIdx.filter fun own => !own.1.isEmpty) parts

variable {collected : List (List F)} {targets : List (List (ℚ × ℚ))} {alpha : ℚ} {held : ℕ}
  {errors : List PyFloat} {cancelled : ℚ → ℕ → Bool}

theorem called_eq_ok_iff {α : Type} {x : Except Unit α} {a : α} : called x = .ok a ↔ x = .ok a := by
  cases x <;> simp [called]

/-- The masks of a fold select the samples of the point and those of the others. -/
theorem foldErrors_heldOut (same : targets.map List.length = collected.map List.length)
    (h : foldErrors lib alpha collected.flatten targets.flatten (labelsFrom 0 (collected.map List.length)) held =
      .ok errors) : HeldOut lib alpha collected targets held errors := by
  unfold foldErrors at h
  obtain ⟨model, trained, h⟩ := Api.bind_eq_ok_iff.1 h
  obtain ⟨predicted, predicts, h⟩ := Api.bind_eq_ok_iff.1 h
  rw [called_eq_ok_iff] at trained predicts h
  have others := masked_others collected 0 held
  have own := masked_own collected 0 held
  have otherTargets := masked_others targets 0 held
  have ownTargets := masked_own targets 0 held
  rw [same] at otherTargets ownTargets
  rw [Nat.zero_add] at others own otherTargets ownTargets
  rw [others, otherTargets] at trained
  rw [own] at predicts
  rw [ownTargets] at h
  exact ⟨model, predicted, trained, predicts, h⟩

/-- The loop over the points adds the errors of each point that has samples. -/
theorem foldlM_candidateErrors {features : List F} {points : List (ℚ × ℚ)} {groups : List ℕ}
    {counted : List (ℕ × ℕ)} {before after : List PyFloat}
    (h : counted.foldlM (addFold lib cancelled alpha features points groups) before = .ok after) :
    ∃ parts : List (List PyFloat), after = before ++ parts.flatten ∧
      List.Forall₂ (fun own part => foldErrors lib alpha features points groups own.2 = .ok part)
        (counted.filter fun own => decide (own.1 ≠ 0)) parts := by
  induction counted generalizing before with
  | nil =>
    cases h
    exact ⟨[], (List.append_nil _).symm, .nil⟩
  | cons own rest ih =>
    obtain ⟨count, heldOut⟩ := own
    rw [List.foldlM_cons] at h
    obtain ⟨middle, turn, h⟩ := Api.bind_eq_ok_iff.1 h
    obtain ⟨parts, rfl, folds⟩ := ih h
    unfold addFold at turn
    split at turn
    · cases turn
    split at turn
    next empty =>
      cases turn
      refine ⟨parts, rfl, ?_⟩
      rw [List.filter_cons_of_neg (by simpa using empty)]
      exact folds
    next some =>
      obtain ⟨more, fold, turn⟩ := Api.bind_eq_ok_iff.1 turn
      cases turn
      refine ⟨more :: parts, by rw [List.flatten_cons, List.append_assoc], ?_⟩
      rw [List.filter_cons_of_pos (by simpa using some)]
      exact .cons fold folds

theorem candidateErrors_crossValidated (same : targets.map List.length = collected.map List.length)
    (h : candidateErrors lib cancelled alpha collected.flatten targets.flatten (collected.map List.length) =
      .ok errors) : CrossValidated lib alpha collected targets errors := by
  unfold candidateErrors at h
  obtain ⟨parts, rfl, folds⟩ := foldlM_candidateErrors h
  refine ⟨parts, rfl, ?_⟩
  rw [List.zipIdx_map, List.filter_map, List.forall₂_map_left_iff] at folds
  have kept : (collected.zipIdx.filter fun own => !own.1.isEmpty) =
      collected.zipIdx.filter ((fun own : ℕ × ℕ => decide (own.1 ≠ 0)) ∘ Prod.map List.length id) :=
    List.filter_congr fun own _ => by
      rcases own with ⟨_ | _, index⟩ <;> simp
  rw [kept]
  exact folds.imp fun own part fold => foldErrors_heldOut same fold

end

/-! ## The chosen model -/

/-- An alpha no candidate scores better than, where each is scored by cross validation. -/
structure Selected {F M : Type} (lib : GazeLibrary F M) (collected : List (List F))
    (targets : List (List (ℚ × ℚ))) (alpha : ℚ) : Prop where
  candidate : alpha ∈ ridgeAlphaCandidates
  scored : ∃ scores : ℚ → CandidateScore, ∀ a ∈ ridgeAlphaCandidates,
    (scores a).alpha = a ∧ (scores a).less (scores alpha) = false ∧
    ∃ errors, CrossValidated lib a collected targets errors ∧
      lib.percentiles errors = ((scores a).p50, (scores a).p95)

section

variable {F M : Type} {lib : GazeLibrary F M} {collected : List (List F)} {targets : List (List (ℚ × ℚ))}
  {alpha : ℚ} {cancelled : ℚ → ℕ → Bool} {score : CandidateScore}

theorem candidateScore_crossValidated (same : targets.map List.length = collected.map List.length)
    (h : candidateScore lib cancelled collected.flatten targets.flatten (collected.map List.length) alpha =
      .ok score) : score.alpha = alpha ∧
    ∃ errors, CrossValidated lib alpha collected targets errors ∧
      lib.percentiles errors = (score.p50, score.p95) := by
  unfold candidateScore at h
  obtain ⟨errors, summed, h⟩ := Api.bind_eq_ok_iff.1 h
  cases h
  exact ⟨rfl, errors, candidateErrors_crossValidated same summed, rfl⟩

/-- The samples of two points or more decide by cross validation. -/
theorem selectRidgeAlpha_selected (same : targets.map List.length = collected.map List.length)
    (chosen : selectRidgeAlpha lib cancelled collected.flatten targets.flatten (collected.map List.length) =
      .ok alpha) (points : 2 ≤ (collected.map List.length).countP fun count => decide (0 < count)) :
    Selected lib collected targets alpha := by
  unfold selectRidgeAlpha at chosen
  dsimp only at chosen
  split at chosen
  · cases chosen
  rw [if_neg (not_lt.2 points)] at chosen
  obtain ⟨results, scored, chosen⟩ := Api.bind_eq_ok_iff.1 chosen
  have each (a : ℚ) (member : a ∈ ridgeAlphaCandidates) : ∃ score, score ∈ results ∧
      candidateScore lib cancelled collected.flatten targets.flatten (collected.map List.length) a = .ok score := by
    obtain ⟨score, listed, computed⟩ := Api.mapM_of_mem scored member
    exact ⟨score, listed, computed⟩
  cases results with
  | nil => cases chosen
  | cons first rest =>
    cases chosen
    have : Nonempty CandidateScore := ⟨first⟩
    choose! scores listed computed using each
    obtain ⟨best, member, least⟩ := Api.mapM_mem scored (leastScore_mem first rest)
    have found : scores best = leastScore first rest := Except.ok.inj ((computed best member).symm.trans least)
    obtain ⟨own, -⟩ := candidateScore_crossValidated same least
    rw [own]
    refine ⟨member, scores, fun a candidate => ?_⟩
    obtain ⟨named, validated⟩ := candidateScore_crossValidated same (computed a candidate)
    rw [found]
    exact ⟨named, not_less_leastScore (listed a candidate), validated⟩

theorem length_sampleTargets (points : List (ℚ × ℚ)) (collected : List (List F))
    (same : points.length = collected.length) :
    (sampleTargets points collected).map List.length = collected.map List.length := by
  induction points generalizing collected with
  | nil =>
    obtain rfl := List.eq_nil_of_length_eq_zero same.symm
    rfl
  | cons point rest ih =>
    cases collected with
    | nil => cases same
    | cons samples others =>
      have next := ih others (Nat.succ.inj same)
      unfold sampleTargets at next ⊢
      rw [List.zipWith_cons_cons, List.map_cons, next, List.length_replicate, List.map_cons]

theorem forall₂_of_mapM {ε α β : Type} {f : α → Except ε β} {l : List α} {bs : List β} (h : l.mapM f = .ok bs) :
    List.Forall₂ (fun a b => f a = .ok b) l bs := by
  induction l generalizing bs with
  | nil =>
    cases h
    exact .nil
  | cons a rest ih =>
    rw [List.mapM_cons] at h
    obtain ⟨b, first, h⟩ := Api.bind_eq_ok_iff.1 h
    obtain ⟨others, later, h⟩ := Api.bind_eq_ok_iff.1 h
    cases h
    exact .cons first (ih later)

theorem length_fullscreenTrainingPoints : fullscreenTrainingPoints.length = 25 := by decide +kernel

/-- **Training.** The model is trained on all samples with an alpha no candidate beats in cross validation:
every candidate's errors come from models that were not trained on the sample's own target. -/
theorem trainOnce_cross_validated {width height : ℤ} {source : ℕ → Footage F} {model : M}
    (trained : trainOnce lib width height source = .ok (some model)) :
    ∃ (collected : List (List F)) (alpha : ℚ),
      List.Forall₂ (fun index samples => (source index).read addFeatures [] = .ok samples)
        (List.range fullscreenTrainingPoints.length) collected ∧
      (∀ samples ∈ collected, minTrainingSamplesPerPoint ≤ samples.length) ∧
      Selected lib collected
        (sampleTargets (fullscreenTrainingPoints.map (pixelTarget width height)) collected) alpha ∧
      lib.train (lib.createModel alpha) collected.flatten
        (sampleTargets (fullscreenTrainingPoints.map (pixelTarget width height)) collected).flatten =
        .ok model := by
  unfold trainOnce at trained
  obtain ⟨collected, captured, trained⟩ := Api.bind_eq_ok_iff.1 trained
  have read := forall₂_of_mapM captured
  dsimp only at trained
  split at trained
  · cases trained
  next enough =>
    obtain ⟨alpha, chosen, trained⟩ := Api.bind_eq_ok_iff.1 trained
    obtain ⟨fitted, called, trained⟩ := Api.bind_eq_ok_iff.1 trained
    cases trained
    have many : ∀ samples ∈ collected, minTrainingSamplesPerPoint ≤ samples.length := by
      intro samples member
      rw [Bool.not_eq_true, Bool.or_eq_false_iff, List.any_eq_false] at enough
      have count := enough.2 samples.length (List.mem_map.2 ⟨samples, member, rfl⟩)
      exact not_lt.1 fun few => count (decide_eq_true few)
    have sized : collected.length = fullscreenTrainingPoints.length := by
      rw [← read.length_eq, List.length_range]
    have same := length_sampleTargets (fullscreenTrainingPoints.map (pixelTarget width height)) collected
      (by rw [List.length_map, sized])
    have all : ((collected.map List.length).countP fun count => decide (0 < count)) = collected.length := by
      rw [← List.length_map (f := List.length), List.countP_eq_length]
      intro count member
      obtain ⟨samples, listed, rfl⟩ := List.mem_map.1 member
      exact decide_eq_true (lt_of_lt_of_le (by decide) (many samples listed))
    refine ⟨collected, alpha, read, many, selectRidgeAlpha_selected same chosen ?_,
      called_eq_ok_iff.1 called⟩
    rw [all, sized, length_fullscreenTrainingPoints]
    decide

end

/-- The horizontal error of a prediction. -/
def horizontalError (predicted : Prediction) (target : ℚ × ℚ) : PyFloat :=
  match predicted with
  | .finite x :: _ => .finite |x - target.1|
  | _ => .nan

/-- A library for samples that are points: a model is its alpha, and predicts a point as far from the sample
as its alpha is from 0.1. -/
def offsetLibrary : GazeLibrary (ℚ × ℚ) ℚ where
  createModel alpha := alpha
  train model _ _ := .ok model
  predict model samples := .ok (samples.map fun sample => [.finite (sample.1 + (model - 0.1)), .finite sample.2])
  errors predicted targets := .ok (List.zipWith horizontalError predicted targets)
  percentiles errors := (errors.headD (.finite 0), errors.getLastD (.finite 0))

/-- Ten frames that look at each target. -/
def steadyFootage (index : ℕ) : Footage (ℚ × ℚ) where
  frames := List.replicate 10
    (.extracted (.ok ((fullscreenTrainingPoints.map (pixelTarget 1000 500))[index]?, false)))
  ending := none

theorem steadyFootage_trained : ∃ collected : List (List (ℚ × ℚ)),
    (∀ samples ∈ collected, minTrainingSamplesPerPoint ≤ samples.length) ∧
    Selected offsetLibrary collected
      (sampleTargets (fullscreenTrainingPoints.map (pixelTarget 1000 500)) collected) 0.1 := by
  have trained : trainOnce offsetLibrary 1000 500 steadyFootage = .ok (some 0.1) := by decide +kernel
  obtain ⟨collected, alpha, -, many, selected, fitted⟩ := trainOnce_cross_validated trained
  cases Except.ok.inj fitted
  exact ⟨collected, many, selected⟩

end Mkk.Eye.EyeTrax
