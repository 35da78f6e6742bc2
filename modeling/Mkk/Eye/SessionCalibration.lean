import Mkk.Eye.CalibrationCapture
import Mkk.Eye.Worker
import Mkk.Lib.Sorting
import Mathlib.Data.Finset.Image
import Mathlib.Algebra.Field.Rat

/-!
# Session calibration

`SessionCalibration` and `evaluate` of `calibration.py`: a run captures the readiness, training and check
targets, fits, and repairs what was missing or measured badly. The distance of a prediction from its target
is a parameter, since it is a square root. The captures that were begun, the calls of `fit` and the
evaluations are kept in their order.
-/

namespace Mkk.Eye

open Lib

/-- `CHECK_POINTS` -/
def checkPoints : List (ℚ × ℚ) :=
  [(0.2, 0.3), (0.38, 0.3), (0.2, 0.7), (0.42, 0.7), (0.8, 0.3), (0.62, 0.3), (0.8, 0.7), (0.58, 0.7)]

/-- `FINAL_POINTS` -/
def finalPoints : List (ℚ × ℚ) :=
  [(0.15, 0.2), (0.35, 0.4), (0.15, 0.8), (0.45, 0.6), (0.85, 0.2), (0.65, 0.4), (0.85, 0.8), (0.55, 0.6)]

/-- `MAX_REPAIR_POINTS` -/
def maxRepairPoints : ℕ := 4

/-- `SESSION_DEADLINE_SECONDS` -/
def sessionDeadlineSeconds : ℚ := 120

/-! ## Quality -/

/-- `QualityLimits` -/
structure QualityLimits where
  validRatioMin : ℚ
  errorP50Max : ℚ
  errorP95Max : ℚ

/-- `SESSION_LIMITS` -/
def sessionLimits : QualityLimits := ⟨sessionValidRatioMin, 0.15, 0.30⟩

/-- `POINT_LIMITS` -/
def pointLimits : QualityLimits := ⟨0.70, 0.25, 0.40⟩

inductive FailedCheck where
  | sampleCoverage | validRatio | medianError | tailError
  deriving DecidableEq

/-- An entry of `point_results`, without its error percentiles. -/
structure PointResult where
  pointIndex : ℕ
  totalSamples : ℕ
  validSamples : ℕ
  failedChecks : List FailedCheck
  invalidCounts : Dict String ℕ
  extended : Bool

/-- `Quality`; an absent percentile is infinite, and the sorted names of the checks stand as a set. -/
structure Quality where
  validRatio : ℚ
  p50 : Option ℚ
  p95 : Option ℚ
  badPoints : List ℕ
  sufficient : Bool
  failedChecks : Finset FailedCheck
  pointResults : List PointResult

/-- `p <= limit` for a percentile that may be infinite. -/
def atMost (p : Option ℚ) (limit : ℚ) : Bool := p.any fun p => p ≤ limit

/-- `Quality.passed` -/
def Quality.passed (q : Quality) : Bool :=
  q.sufficient && decide (sessionLimits.validRatioMin ≤ q.validRatio) &&
    atMost q.p50 sessionLimits.errorP50Max && atMost q.p95 sessionLimits.errorP95Max &&
    q.badPoints.isEmpty

/-- `Quality.failure_reason` -/
def Quality.failureReason (q : Quality) : String :=
  if .sampleCoverage ∈ q.failedChecks then "validation_samples_insufficient"
  else
    let signalFailed := FailedCheck.validRatio ∈ q.failedChecks
    let accuracyFailed := .medianError ∈ q.failedChecks ∨ .tailError ∈ q.failedChecks
    if signalFailed ∧ accuracyFailed then "validation_signal_and_accuracy_failed"
    else if signalFailed then "validation_signal_insufficient"
    else if accuracyFailed then "validation_accuracy_failed" else "quality_gate_failed"

/-- `_failed_checks` -/
def failedChecks (total valid : ℕ) (p50 p95 : Option ℚ) (limits : QualityLimits) : List FailedCheck :=
  (if total < minSamples then [.sampleCoverage] else []) ++
  (if (valid : ℚ) / max 1 total < limits.validRatioMin then [.validRatio] else []) ++
  (if valid ≠ 0 ∧ atMost p50 limits.errorP50Max = false then [.medianError] else []) ++
  (if valid ≠ 0 ∧ atMost p95 limits.errorP95Max = false then [.tailError] else [])

/-- `np.percentile(errors, q)`, linear between the two nearest; infinite for no errors. -/
def percentile (q : ℚ) (errors : List ℚ) : Option ℚ :=
  let sorted := sortOn id errors
  let position := q / 100 * (errors.length - 1 : ℕ)
  let below := ⌊position⌋.toNat
  sorted[below]?.map fun low =>
    low + (sorted.getD (below + 1) low - low) * (position - below)

/-! ## State -/

/-- A prediction of the estimator, flat. -/
abbrev Prediction : Type := List PyFloat

/-- What a call of `fit` does. -/
inductive FitOutcome where
  | fitted
  | failure (reason : String)
  | raises

/-- What a session is created with, beside its source: the estimator and `fit` by the number of their
calls, and the distance of a prediction from a target in a viewport, over its diagonal. -/
structure SessionEnv extends SourceEnv where
  predict : ℕ → List FeatureVector → Option (List Prediction)
  fit : ℕ → FitOutcome
  errorOf : ℚ × ℚ → ℚ × ℚ → ℕ × ℕ → ℚ
  repairAccuracy : Bool

/-- What is passed to `fit`, and the viewport that scales the targets. -/
structure FitCall where
  features : List KeptFeature
  targets : List (ℚ × ℚ)
  counts : List ℕ
  viewport : ℕ × ℕ

/-- What a session does that is not undone. -/
inductive SessionEvent where
  | captured (target : ℚ × ℚ) (phase : Phase)
  | fit (call : FitCall)
  | evaluated (quality : Quality)

/-- The session, with the local lists of `run` and `_validate`. -/
structure Session where
  source : Source
  started : ℚ
  modelFitted : Bool
  valid : Bool
  repairPoints : ℕ
  training : List Samples
  checks : List Samples
  predictions : ℕ
  fits : ℕ
  log : List SessionEvent

/-- `sample.features` -/
def Session.featuresOf (session : Session) (sample : Samples) : List KeptFeature :=
  session.source.lists sample.features

/-- A part of a session. -/
abbrev Calibrating (α : Type) : Type := EStateM Stop Session α

/-- A part of a capture within the session. -/
def onSource {α : Type} (x : Capturing α) : Calibrating α := fun session =>
  match x.run session.source with
  | .ok a source => .ok a { session with source := source }
  | .error e source => .error e { session with source := source }

/-- `_check` -/
def checkTime (env : SessionEnv) : Calibrating Unit := do
  let now ← onSource (readClock env.toSourceEnv)
  let session ← get
  if now - session.started > sessionDeadlineSeconds then throw (.failure "calibration_timed_out")
  else onSource (checkCancelled env.toSourceEnv)

/-- `finally`: the cleanup runs when the body returns or raises, not while it waits. -/
def onExit {α : Type} (body : Calibrating α) (cleanup : Calibrating Unit) : Calibrating α :=
  fun session => match body.run session with
    | .ok a session => (cleanup >>= fun _ => pure a : Calibrating α).run session
    | .error .waiting session => .error .waiting session
    | .error e session => (cleanup >>= fun _ => throw e : Calibrating α).run session

/-- An event is noted. -/
def note (event : SessionEvent) : Calibrating Unit :=
  modify fun session => { session with log := session.log ++ [event] }

/-- `self.source.capture(point, phase)` -/
def captureAt (env : SessionEnv) (point : ℚ × ℚ) (phase : Phase) : Calibrating Samples := do
  note (.captured point phase)
  onSource (capture env.toSourceEnv point phase)

/-! ## Evaluation -/

/-- A sample with its features read. -/
structure SampleReading where
  features : List FeatureVector
  total : ℕ
  invalidCounts : Dict String ℕ
  extended : Bool

/-- `samples[index] if index < len(samples) else Samples([], 0)` -/
def Session.readSample (session : Session) (samples : List Samples) (index : ℕ) : SampleReading :=
  match samples[index]? with
  | some sample =>
    ⟨(session.featuresOf sample).map (·.vector), sample.total, sample.invalidCounts, sample.extended⟩
  | none => ⟨[], 0, .empty, false⟩

/-- The counts of one point while its predictions are read. -/
structure PointScan where
  errors : List ℚ
  invalidCounts : Dict String ℕ

/-- `invalid_counts[kind] += n` -/
def countMore (counts : Dict String ℕ) (kind : String) (n : ℕ) : Dict String ℕ :=
  counts.insertWith (fun _ : Unit => kind) (fun count _ => count.getD 0 + n) ()

/-- One prediction of a point. -/
def PointScan.read (env : SessionEnv) (target : ℚ × ℚ) (viewport : ℕ × ℕ) (scan : PointScan)
    (prediction : Prediction) : PointScan :=
  match prediction.map finite? with
  | [some x, some y] =>
    if 0 ≤ x ∧ x ≤ viewport.1 ∧ 0 ≤ y ∧ y ≤ viewport.2 then
      { scan with errors := scan.errors ++ [env.errorOf (x, y) target viewport] }
    else { scan with invalidCounts := countMore scan.invalidCounts "outside_viewport" 1 }
  | _ => { scan with invalidCounts := countMore scan.invalidCounts "invalid_prediction" 1 }

/-- What is known of a point before its predictions are read. -/
def startScan (sample : SampleReading) (predicted : ℕ) : PointScan :=
  let unclassified := sample.total - (sample.features.length + sample.invalidCounts.values.sum)
  let counts := if unclassified = 0 then sample.invalidCounts
    else countMore sample.invalidCounts "unavailable_features" unclassified
  let counts := if sample.features.length ≤ predicted then counts
    else countMore counts "invalid_prediction" (sample.features.length - predicted)
  ⟨[], counts⟩

/-- The predictions for a sample's features. -/
def predictions (env : SessionEnv) (features : List FeatureVector) : Calibrating (List Prediction) :=
  if features = [] then return []
  else do
    let session ← get
    modify fun session => { session with predictions := session.predictions + 1 }
    match env.predict session.predictions features with
    | some predicted => return predicted
    | none => throw .raised

/-- The result of a point and its errors. -/
def measurePoint (env : SessionEnv) (viewport : ℕ × ℕ) (index : ℕ) (target : ℚ × ℚ)
    (sample : SampleReading) (predicted : List Prediction) : PointResult × List ℚ :=
  let scan := predicted.foldl (PointScan.read env target viewport) (startScan sample predicted.length)
  (⟨index + 1, sample.total, scan.errors.length,
    failedChecks sample.total scan.errors.length (percentile 50 scan.errors) (percentile 95 scan.errors)
      pointLimits, scan.invalidCounts, sample.extended⟩, scan.errors)

/-- One turn of the loop of `evaluate`. -/
def evaluatePoint (env : SessionEnv) (viewport : ℕ × ℕ) (samples : List Samples)
    (point : (ℚ × ℚ) × ℕ) : Calibrating (PointResult × List ℚ) := do
  let session ← get
  let sample := session.readSample samples point.2
  let predicted ← predictions env sample.features
  return measurePoint env viewport point.2 point.1 sample predicted

/-- What `evaluate` makes of its points. -/
def qualityOf (total : ℕ) (complete : Bool) (results : List (PointResult × List ℚ)) : Quality :=
  let sufficient := complete && results.all fun result => minSamples ≤ result.1.totalSamples
  let errors := results.flatMap (·.2)
  let p50 := percentile 50 errors
  let p95 := percentile 95 errors
  let checks := results.flatMap (·.1.failedChecks) ++
    failedChecks total errors.length p50 p95 sessionLimits ++
    (if sufficient then [] else [.sampleCoverage])
  { validRatio := (errors.length : ℚ) / max 1 total
    p50 := p50
    p95 := p95
    badPoints := results.zipIdx.filterMap fun (result, index) =>
      if result.1.failedChecks = [] then none else some index
    sufficient := sufficient
    failedChecks := checks.toFinset
    pointResults := results.map (·.1) }

/-- `evaluate` -/
def evaluate (env : SessionEnv) (samples : List Samples) (points : List (ℚ × ℚ)) (viewport : ℕ × ℕ) :
    Calibrating Quality := do
  let results ← points.zipIdx.mapM (evaluatePoint env viewport samples)
  return qualityOf (samples.map (·.total)).sum (samples.length == points.length) results

/-! ## Run -/

/-- `viewport` where it is unpacked. -/
def viewportOf : Calibrating (ℕ × ℕ) := do
  match (← get).source.viewport with
  | some viewport => return viewport
  | none => throw .raised

/-- `np.array(point) * [width, height]` -/
def inPixels (viewport : ℕ × ℕ) (point : ℚ × ℚ) : ℚ × ℚ := (point.1 * viewport.1, point.2 * viewport.2)

/-- What `_fit` passes on: each feature with its point in pixels. -/
def Session.fitCall (session : Session) (points : List (ℚ × ℚ)) (viewport : ℕ × ℕ) : FitCall where
  features := session.training.flatMap session.featuresOf
  targets := (points.zip session.training).flatMap fun (point, sample) =>
    (session.featuresOf sample).map fun _ => inPixels viewport point
  counts := session.training.map fun sample => (session.featuresOf sample).length
  viewport := viewport

/-- `self.fit(...)` -/
def callFit (env : SessionEnv) (call : FitCall) : Calibrating Unit := do
  let session ← get
  modify fun session => { session with modelFitted := false, fits := session.fits + 1 }
  note (.fit call)
  match env.fit session.fits with
  | .failure reason => throw (.failure reason)
  | .raises => throw .raised
  | .fitted => modify fun session => { session with modelFitted := true }

/-- Vectors of different lengths are no array. -/
def Ragged (features : List KeptFeature) : Prop :=
  ∃ f ∈ features, ∃ g ∈ features, f.vector.length ≠ g.vector.length

instance (features : List KeptFeature) : Decidable (Ragged features) :=
  inferInstanceAs (Decidable (∃ f ∈ features, ∃ g ∈ features, f.vector.length ≠ g.vector.length))

/-- `_fit` -/
def fitModel (env : SessionEnv) (points : List (ℚ × ℚ)) : Calibrating Unit := do
  checkTime env
  onSource setFitting
  let viewport ← viewportOf
  let session ← get
  if Ragged (session.fitCall points viewport).features then throw .raised
  else do
    callFit env (session.fitCall points viewport)
    checkTime env

/-- The lists of these samples are cleared. -/
def clearSamples (samples : List Samples) : Calibrating Unit :=
  samples.foldlM (fun _ sample => onSource (clearList sample.features)) ()

/-- One point of `_validate`. -/
def captureCheck (env : SessionEnv) (phase : Phase) (point : ℚ × ℚ) : Calibrating Unit := do
  checkTime env
  let sample ← captureAt env point phase
  modify fun session => { session with checks := session.checks ++ [sample] }

/-- `samples` of `_validate` are cleared. -/
def clearChecks : Calibrating Unit := do
  let session ← get
  clearSamples session.checks
  modify fun session => { session with checks := [] }

/-- `_validate` -/
def validate (env : SessionEnv) (points : List (ℚ × ℚ)) (phase : Phase) : Calibrating Quality := do
  modify fun session => { session with checks := [] }
  onExit (do
    points.foldlM (fun _ point => captureCheck env phase point) ()
    let viewport ← viewportOf
    let session ← get
    let quality ← evaluate env session.checks points viewport
    note (.evaluated quality)
    return quality) clearChecks

/-- `self.source.total_targets += n` -/
def addTargets (n : ℕ) : Calibrating Unit :=
  modify fun session =>
    { session with source := { session.source with totalTargets := session.source.totalTargets + n } }

/-- A sample is refused when it has too few features. -/
def requireSamples (sample : Samples) (reason : ℕ → String) : Calibrating Unit := do
  let session ← get
  let count := (session.featuresOf sample).length
  if count < minSamples then throw (.failure (reason count)) else return

/-- The readiness capture. -/
def captureReadiness (env : SessionEnv) : Calibrating Unit := do
  checkTime env
  let ready ← captureAt env (0.5, 0.5) .positioning
  onExit (requireSamples ready fun count => if count = 0 then "no_face" else "unstable_head")
    (onSource (clearList ready.features))

/-- `training.append(sample)` -/
def addTraining (sample : Samples) : Calibrating Unit :=
  modify fun session => { session with training := session.training ++ [sample] }

/-- A capture whose sample is trained with. -/
def captureAndAdd (env : SessionEnv) (point : ℚ × ℚ) (phase : Phase) : Calibrating Samples := do
  let sample ← captureAt env point phase
  addTraining sample
  return sample

/-- One turn of the training loop, with `missing_count` and `empty_streak`. -/
def captureTraining (env : SessionEnv) (counts : ℕ × ℕ) (point : ℚ × ℚ) : Calibrating (ℕ × ℕ) := do
  checkTime env
  let sample ← captureAndAdd env point .training
  let session ← get
  let count := (session.featuresOf sample).length
  let missingCount := counts.1 + if count < minSamples then 1 else 0
  let emptyStreak := if count = 0 then counts.2 + 1 else 0
  if missingCount > maxRepairPoints ∨ emptyStreak ≥ 2 then
    throw (.failure "insufficient_calibration_samples")
  else return (missingCount, emptyStreak)

/-- The indexes of the samples with too few features. -/
def Session.missing (session : Session) : List ℕ :=
  session.training.zipIdx.filterMap fun (sample, index) =>
    if (session.featuresOf sample).length < minSamples then some index else none

/-- `self.summary["repair_points"] += 1` -/
def countRepair : Calibrating Unit :=
  modify fun session => { session with repairPoints := session.repairPoints + 1 }

/-- `training[index].features.clear()` and `training[index] = replacement` -/
def replaceTraining (index : ℕ) (replacement : Samples) : Calibrating Unit := do
  let session ← get
  match session.training[index]? with
  | none => throw .raised
  | some old =>
    onSource (clearList old.features)
    modify fun session => { session with training := session.training.set index replacement }

/-- A training sample that is captured again. -/
def repairMissing (env : SessionEnv) (points : List (ℚ × ℚ)) (index : ℕ) : Calibrating Unit := do
  checkTime env
  countRepair
  match points[index]? with
  | none => throw .raised
  | some point =>
    let replacement ← captureAt env point .repair
    replaceTraining index replacement
    requireSamples replacement fun _ => "insufficient_calibration_samples"

/-- A point that is trained beside one that was measured badly. -/
def nearby (point : ℚ × ℚ) : ℚ × ℚ :=
  (max 0.05 (min 0.95 (point.1 + 0.025)), max 0.05 (min 0.95 (point.2 + 0.025)))

/-- An extra training point. -/
def captureExtra (env : SessionEnv) (point : ℚ × ℚ) : Calibrating Unit := do
  checkTime env
  countRepair
  let sample ← captureAndAdd env point .repair
  requireSamples sample fun _ => "insufficient_calibration_samples"

/-- `CHECK_POINTS[i]` for the bad points. -/
def badCheckPoints (indexes : List ℕ) : Calibrating (List (ℚ × ℚ)) :=
  match indexes.mapM fun i => checkPoints[i]? with
  | some points => return points
  | none => throw .raised

/-- The extra points, the second fit and the final verification. -/
def retrain (env : SessionEnv) (points extra : List (ℚ × ℚ)) : Calibrating Unit := do
  addTargets (extra.length + finalPoints.length)
  extra.foldlM (fun _ point => captureExtra env point) ()
  fitModel env (points ++ extra)
  let final ← validate env finalPoints .verification
  if final.passed then return else throw (.failure final.failureReason)

/-- The part of `run` after a first evaluation that did not pass. -/
def repairMeasured (env : SessionEnv) (points : List (ℚ × ℚ)) (quality : Quality) (repairs : ℕ) :
    Calibrating ℕ :=
  if !env.repairAccuracy then throw (.failure quality.failureReason)
  else if quality.sufficient = false ∨ .validRatio ∈ quality.failedChecks ∨ quality.badPoints = [] ∨
      maxRepairPoints - repairs < quality.badPoints.length then
    throw (.failure quality.failureReason)
  else do
    let bad ← badCheckPoints quality.badPoints
    retrain env points (bad.map nearby)
    return repairs + bad.length

/-- The samples that are missing are captured again. -/
def repairAll (env : SessionEnv) (points : List (ℚ × ℚ)) : Calibrating ℕ := do
  let session ← get
  if session.missing.length > maxRepairPoints then
    throw (.failure "insufficient_calibration_samples")
  else do
    addTargets session.missing.length
    session.missing.foldlM (fun _ index => repairMissing env points index) ()
    return session.missing.length

/-- The body of `run`. -/
def runBody (env : SessionEnv) (points : List (ℚ × ℚ)) : Calibrating Unit := do
  captureReadiness env
  let _ ← points.foldlM (captureTraining env) (0, 0)
  let missing ← repairAll env points
  fitModel env points
  let quality ← validate env checkPoints .validation
  let repairs ← (if quality.passed then pure missing else repairMeasured env points quality missing)
  modify fun session => { session with valid := true, repairPoints := repairs }

/-- The points of a profile. -/
def trainingPoints (profileId : Profile) : List (ℚ × ℚ) :=
  if profileId = .adaptiveSparse16 then sparsePoints else densePoints

/-- `finally` of `run`. -/
def endRun (env : SessionEnv) : Calibrating Unit := do
  let _ ← onSource (readClock env.toSourceEnv)
  let session ← get
  clearSamples session.training
  modify fun session => { session with training := [] }

/-- `run` -/
def run (env : SessionEnv) : Calibrating Unit := do
  let points := trainingPoints env.profileId
  modify fun session => { session with
    source := { session.source with totalTargets := 1 + points.length + checkPoints.length } }
  onExit (runBody env points) (endRun env)

/-- `SessionCalibration.__init__`, over a new source. -/
def Session.new (env : SessionEnv) (queue : List (Option CalibrationPacket)) : Session where
  source := { Source.new queue with
    readings := 1, deadline := some (env.clock 0 + sessionDeadlineSeconds) }
  started := env.clock 0
  modelFitted := false
  valid := false
  repairPoints := 0
  training := []
  checks := []
  predictions := 0
  fits := 0
  log := []

end Mkk.Eye
