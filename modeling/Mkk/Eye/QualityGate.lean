import Mkk.Eye.CaptureSpec
import Mkk.Eye.SessionCalibration
import Mkk.Lib.Hoare

/-!
# The quality gate

The counts of a point add up to its samples, and the gate passes exactly when no check failed: a quality
that did not pass names its reason.
-/

namespace Mkk.Eye

open Lib

section Counts

variable {env : SessionEnv} {target : ℚ × ℚ} {viewport : ℕ × ℕ} {sample : SampleReading}
  {predicted : List Prediction}

/-- The frames of a scan that are accounted for. -/
def PointScan.counted (scan : PointScan) : ℕ := scan.errors.length + scan.invalidCounts.values.sum

theorem sum_countMore (counts : Dict String ℕ) (kind : String) (n : ℕ) :
    (countMore counts kind n).values.sum = counts.values.sum + n := by
  have added := @Dict.sum_insertWith _ _ Unit _ _ _ (fun _ => kind) (fun (count : Option ℕ) _ =>
    count.getD 0 + n) id (fun _ => n) (fun o _ => by cases o <;> rfl) counts ()
  exact added

theorem PointScan.counted_read (scan : PointScan) (prediction : Prediction) :
    (scan.read env target viewport prediction).counted = scan.counted + 1 := by
  unfold PointScan.read PointScan.counted
  split
  · split
    · rw [List.length_append]
      exact add_right_comm _ _ _
    · rw [sum_countMore, add_assoc]
  · rw [sum_countMore, add_assoc]

theorem PointScan.counted_foldl (scan : PointScan) (predicted : List Prediction) :
    (predicted.foldl (PointScan.read env target viewport) scan).counted =
      scan.counted + predicted.length := by
  induction predicted generalizing scan with
  | nil => rfl
  | cons prediction rest ih =>
    rw [List.foldl_cons, ih, PointScan.counted_read, List.length_cons, add_assoc, add_comm 1]

/-- Of a sample whose counts add up, only the features are left to be accounted for. -/
theorem counted_startScan (balanced : sample.features.length + sample.invalidCounts.values.sum = sample.total)
    {n : ℕ} (few : n ≤ sample.features.length) : (startScan sample n).counted + n = sample.total := by
  unfold startScan PointScan.counted
  dsimp only
  rw [balanced, Nat.sub_self, if_pos rfl, List.length_nil, zero_add]
  split
  · omega
  · rw [sum_countMore]
    omega

/-- **The counts of a point** add up to its samples. -/
theorem measurePoint_counted (index : ℕ)
    (balanced : sample.features.length + sample.invalidCounts.values.sum = sample.total)
    (few : predicted.length ≤ sample.features.length) :
    (measurePoint env viewport index target sample predicted).1.validSamples +
      (measurePoint env viewport index target sample predicted).1.invalidCounts.values.sum =
      (measurePoint env viewport index target sample predicted).1.totalSamples :=
  (PointScan.counted_foldl _ predicted).trans (counted_startScan balanced few)

end Counts

section Gate

variable {total : ℕ} {complete : Bool} {results : List (PointResult × List ℚ)}

/-- A check that a total and its errors do not fail. -/
theorem failedChecks_eq_nil_iff {valid : ℕ} {p50 p95 : Option ℚ} {limits : QualityLimits} :
    failedChecks total valid p50 p95 limits = [] ↔ minSamples ≤ total ∧
      limits.validRatioMin ≤ (valid : ℚ) / max 1 total ∧
      (valid = 0 ∨ atMost p50 limits.errorP50Max = true) ∧
      (valid = 0 ∨ atMost p95 limits.errorP95Max = true) := by
  unfold failedChecks
  simp only [List.append_eq_nil_iff, ite_eq_right_iff, imp_false, not_lt, not_and,
    Bool.not_eq_false, List.cons_ne_nil, or_iff_not_imp_left, and_assoc, ne_eq]

theorem badPoints_eq_nil_iff : (qualityOf total complete results).badPoints = [] ↔
    ∀ r ∈ results, r.1.failedChecks = [] := by
  unfold qualityOf
  dsimp only
  rw [List.filterMap_eq_nil_iff]
  constructor
  · intro none r member
    obtain ⟨i, inside, rfl⟩ := List.getElem_of_mem member
    have kept := none (results[i], i) (List.mem_zipIdx_iff_getElem?.2 (List.getElem?_eq_getElem inside))
    by_contra some
    rw [if_neg some] at kept
    cases kept
  · rintro empty ⟨r, i⟩ member
    exact if_pos (empty r (List.fst_mem_of_mem_zipIdx member))

theorem failedChecks_qualityOf_eq_empty_iff : (qualityOf total complete results).failedChecks = ∅ ↔
    (∀ r ∈ results, r.1.failedChecks = []) ∧
    failedChecks total (results.flatMap (·.2)).length (percentile 50 (results.flatMap (·.2)))
      (percentile 95 (results.flatMap (·.2))) sessionLimits = [] ∧
    (qualityOf total complete results).sufficient = true := by
  unfold qualityOf
  dsimp only
  rw [List.toFinset_eq_empty_iff, List.append_eq_nil_iff, List.append_eq_nil_iff,
    List.flatMap_eq_nil_iff, and_assoc, ite_eq_left_iff]
  simp only [List.cons_ne_nil, imp_false, Bool.not_eq_true, Bool.not_eq_false]

/-- **The gate passes** exactly when no check failed and no point is bad. -/
theorem passed_iff (part : ∀ r ∈ results, r.1.totalSamples ≤ total) :
    (qualityOf total complete results).passed = true ↔
      (qualityOf total complete results).failedChecks = ∅ ∧
      (qualityOf total complete results).badPoints = [] := by
  rw [failedChecks_qualityOf_eq_empty_iff, badPoints_eq_nil_iff, failedChecks_eq_nil_iff]
  unfold Quality.passed
  simp only [Bool.and_eq_true, decide_eq_true_eq, List.isEmpty_iff, badPoints_eq_nil_iff]
  have ratio : (qualityOf total complete results).validRatio =
      ((results.flatMap (·.2)).length : ℚ) / max 1 total := rfl
  have median : (qualityOf total complete results).p50 = percentile 50 (results.flatMap (·.2)) := rfl
  have tail : (qualityOf total complete results).p95 = percentile 95 (results.flatMap (·.2)) := rfl
  rw [ratio, median, tail]
  constructor
  · rintro ⟨⟨⟨⟨sufficient, covered⟩, central⟩, far⟩, good⟩
    refine ⟨⟨good, ⟨?_, covered, .inr central, .inr far⟩, sufficient⟩, good⟩
    have some : results ≠ [] := by
      rintro rfl
      exact absurd covered (by norm_num [sessionLimits, sessionValidRatioMin])
    obtain ⟨r, rest, rfl⟩ := List.exists_cons_of_ne_nil some
    have each := (List.all_eq_true.1 ((Bool.and_eq_true _ _ ▸ sufficient).2)) r List.mem_cons_self
    exact (of_decide_eq_true each).trans (part r List.mem_cons_self)
  · rintro ⟨⟨good, ⟨-, covered, central, far⟩, sufficient⟩, -⟩
    have measured : (results.flatMap (·.2)).length ≠ 0 := by
      intro zero
      rw [zero, Nat.cast_zero, zero_div] at covered
      exact absurd covered (by norm_num [sessionLimits, sessionValidRatioMin])
    exact ⟨⟨⟨⟨sufficient, covered⟩, central.resolve_left measured⟩, far.resolve_left measured⟩, good⟩

/-- A check that failed is named. -/
theorem failureReason_ne {q : Quality} (failed : q.failedChecks ≠ ∅) :
    q.failureReason ≠ "quality_gate_failed" := by
  obtain ⟨check, member⟩ := Finset.nonempty_iff_ne_empty.2 failed
  unfold Quality.failureReason
  dsimp only
  split
  · decide
  next covered =>
    split
    · decide
    · split
      · decide
      next signal =>
        split
        · decide
        next accuracy =>
          cases check with
          | sampleCoverage => exact absurd member covered
          | validRatio => exact absurd member signal
          | medianError => exact absurd (.inl member) accuracy
          | tailError => exact absurd (.inr member) accuracy

end Gate

/-! ## Evaluations -/

section Evaluations

variable {env : SessionEnv} {session session' : Session} {samples : List Samples} {points : List (ℚ × ℚ)}
  {viewport : ℕ × ℕ} {q : Quality}

/-- The counts of a sample add up to its total. -/
def Balanced (source : Source) (sample : Samples) : Prop :=
  sample.total = (source.lists sample.features).length + sample.invalidCounts.values.sum

/-- The estimator gives at most one prediction for each feature. -/
def SessionEnv.PredictsOnce (env : SessionEnv) : Prop :=
  ∀ n features predicted, env.predict n features = some predicted → predicted.length ≤ features.length

/-- The samples of a point; a point without a sample has none. -/
def totalAt (samples : List Samples) (index : ℕ) : ℕ := ((samples[index]?).map (·.total)).getD 0

/-- What the result of a point says of its sample. -/
structure Accounted (samples : List Samples) (point : (ℚ × ℚ) × ℕ) (result : PointResult × List ℚ) :
    Prop where
  index : result.1.pointIndex = point.2 + 1
  total : result.1.totalSamples = totalAt samples point.2
  counted : result.1.validSamples + result.1.invalidCounts.values.sum = result.1.totalSamples

theorem totalAt_le (samples : List Samples) (index : ℕ) : totalAt samples index ≤ (samples.map (·.total)).sum := by
  unfold totalAt
  cases found : samples[index]? with
  | none => exact Nat.zero_le _
  | some sample => exact List.le_sum_of_mem (List.mem_map_of_mem (List.mem_of_getElem? found))

theorem readSample_spec (balanced : ∀ s ∈ samples, Balanced session.source s) (index : ℕ) :
    (session.readSample samples index).features.length +
      (session.readSample samples index).invalidCounts.values.sum =
      (session.readSample samples index).total ∧
    (session.readSample samples index).total = totalAt samples index := by
  unfold Session.readSample totalAt
  cases found : samples[index]? with
  | none => exact ⟨rfl, rfl⟩
  | some sample =>
    dsimp only
    rw [List.length_map]
    exact ⟨(balanced sample (List.mem_of_getElem? found)).symm, rfl⟩

/-- Predicting leaves the source as it is. -/
theorem predictions_spec (once : env.PredictsOnce) (source : Source) (features : List FeatureVector) :
    Triple (fun s : Session => s.source = source) (predictions env features)
      (fun predicted s => predicted.length ≤ features.length ∧ s.source = source) fun _ _ => True := by
  unfold predictions
  refine Triple.ite (fun empty => Triple.pure fun s same => ⟨Nat.zero_le _, same⟩) fun _ => ?_
  refine Triple.read fun session same => ?_
  refine Triple.bind (Q := fun _ s => s.source = source) (Triple.modify fun s read => ?_) fun _ => ?_
  · rw [read, same]
  · cases made : env.predict session.predictions features with
    | none => exact Triple.throw fun _ _ => trivial
    | some predicted => exact Triple.pure fun _ same => ⟨once _ _ _ made, same⟩

/-- **Each point of an evaluation** is accounted for. -/
theorem evaluate_spec (once : env.PredictsOnce) (balanced : ∀ s ∈ samples, Balanced session.source s) :
    Triple (fun s : Session => s.source = session.source) (evaluate env samples points viewport)
      (fun q _ => ∃ results, q = qualityOf (samples.map (·.total)).sum
        (samples.length == points.length) results ∧
        List.Forall₂ (Accounted samples) points.zipIdx results) fun _ _ => True := by
  unfold evaluate
  refine Triple.bind (@Triple.mapM _ _ _ _ _ _ _ (Accounted samples) _ fun point _ => ?_)
    fun results => Triple.assuming fun accounted => Triple.pure fun _ _ => ⟨results, rfl, accounted⟩
  unfold evaluatePoint
  refine Triple.read fun now same => ?_
  obtain ⟨sums, total⟩ := @readSample_spec now _ (by rw [same]; exact balanced) point.2
  dsimp only
  have predicted := (predictions_spec once session.source (now.readSample samples point.2).features).before
    fun s (read : s = now) => read ▸ same
  refine predicted.bind fun predicted => Triple.assuming fun few => Triple.pure fun s kept => ?_
  exact ⟨⟨rfl, total, measurePoint_counted _ sums few⟩, kept⟩

/-- What holds of an evaluation of these samples at these points. -/
structure Explained (samples : List Samples) (points : List (ℚ × ℚ)) (q : Quality) : Prop where
  each : q.pointResults.length = points.length
  reported : ∀ i r, q.pointResults[i]? = some r → r.pointIndex = i + 1 ∧
    r.totalSamples = totalAt samples i ∧
    r.validSamples + r.invalidCounts.values.sum = r.totalSamples
  bad : ∀ i, i ∈ q.badPoints ↔ ∃ r, q.pointResults[i]? = some r ∧ r.failedChecks ≠ []
  passed : q.passed = true ↔ q.failedChecks = ∅ ∧ q.badPoints = []
  named : q.passed = false → q.failedChecks ≠ ∅ ∧ q.failureReason ≠ "quality_gate_failed"

theorem mem_badPoints_iff {total : ℕ} {complete : Bool} {results : List (PointResult × List ℚ)} {i : ℕ} :
    i ∈ (qualityOf total complete results).badPoints ↔
      ∃ r, (qualityOf total complete results).pointResults[i]? = some r ∧ r.failedChecks ≠ [] := by
  unfold qualityOf
  dsimp only
  rw [List.mem_filterMap, List.getElem?_map]
  constructor
  · rintro ⟨⟨result, index⟩, listed, kept⟩
    dsimp only at kept
    split_ifs at kept with empty
    cases kept
    exact ⟨result.1, by rw [List.mem_zipIdx_iff_getElem?.1 listed]; rfl, empty⟩
  · rintro ⟨r, found, failed⟩
    obtain ⟨result, here, rfl⟩ := Option.map_eq_some_iff.1 found
    exact ⟨(result, i), List.mem_zipIdx_iff_getElem?.2 here, if_neg failed⟩

theorem explained_qualityOf {complete : Bool} {results : List (PointResult × List ℚ)}
    (accounted : List.Forall₂ (Accounted samples) points.zipIdx results) :
    Explained samples points (qualityOf (samples.map (·.total)).sum complete results) := by
  have count : results.length = points.length := by
    rw [← accounted.length_eq, List.length_zipIdx]
  have at_index : ∀ i result, results[i]? = some result →
      ∃ point, Accounted samples (point, i) result := by
    intro i result found
    obtain ⟨inside, rfl⟩ := List.getElem?_eq_some_iff.1 found
    have own := (List.forall₂_iff_get.1 accounted).2 i (by rw [List.length_zipIdx]; omega) inside
    refine ⟨points[i], ?_⟩
    simpa using own
  have part : ∀ r ∈ results, r.1.totalSamples ≤ (samples.map (·.total)).sum := by
    intro r member
    obtain ⟨i, found⟩ := List.mem_iff_getElem?.1 member
    obtain ⟨point, own⟩ := at_index i r found
    rw [own.total]
    exact totalAt_le samples i
  have passed := @passed_iff _ complete _ part
  refine ⟨?_, fun i r found => ?_, fun i => mem_badPoints_iff, passed, fun refused => ?_⟩
  · unfold qualityOf
    rw [List.length_map, count]
  · unfold qualityOf at found
    rw [List.getElem?_map] at found
    obtain ⟨result, here, rfl⟩ := Option.map_eq_some_iff.1 found
    obtain ⟨point, own⟩ := at_index i result here
    exact ⟨own.index, own.total, own.counted⟩
  · have failed : (qualityOf (samples.map (·.total)).sum complete results).failedChecks ≠ ∅ := by
      intro none
      have good : (qualityOf (samples.map (·.total)).sum complete results).badPoints = [] :=
        badPoints_eq_nil_iff.2 (failedChecks_qualityOf_eq_empty_iff.1 none).1
      rw [passed.2 ⟨none, good⟩] at refused
      cases refused
    exact ⟨failed, failureReason_ne failed⟩

/-- A capture that returns has balanced counts. -/
theorem capture_balanced {env : SourceEnv} {target : ℚ × ℚ} {phase : Phase} {before after : Source}
    {sample : Samples} (captured : (capture env target phase).run before = .ok sample after) :
    Balanced after sample :=
  ((capture_spec env target phase before).ok rfl captured).counted.symm

/-- A session whose clock is read four times a second, and whose estimator repeats one prediction. -/
def fastEnv : SessionEnv where
  calibrationId := "calibration-1"
  profileId := .adaptiveDense5
  clock n := n / 4
  cancelled _ := false
  predict _ features := some (features.map fun _ => [.finite 20, .finite 30])
  fit _ := .fitted
  errorOf _ _ _ := 0
  repairAccuracy := true

theorem fastEnv_predictsOnce : fastEnv.PredictsOnce := by
  intro n features predicted made
  cases made
  rw [List.length_map]

/-- The program returns. -/
def returns {ε σ α : Type} : EStateM.Result ε σ α → Bool
  | .ok _ _ => true
  | .error _ _ => false

theorem exists_of_returns {ε σ α : Type} {r : EStateM.Result ε σ α} (h : returns r = true) :
    ∃ a s, r = .ok a s := by
  cases r with
  | ok a s => exact ⟨a, s, rfl⟩
  | error e s => cases h

/-- A packet for the first target, shown at the start. -/
def targetPacket (capturedMs : ℚ) (values : Values) (blink : Bool) : CalibrationPacket where
  marker := some ⟨"calibration-1", "target-1", 0⟩
  capturedMs := capturedMs
  receivedAt := 100
  viewport := (100, 100)
  features := .extracted values blink
  positioning := .unavailable

/-- Two frames that are kept, one while the face settles, a blink and one without a face; then the capture
times out. -/
def shortFootage : List (Option CalibrationPacket) :=
  [targetPacket 400 (.vector [1, 2]) false, targetPacket 1000 (.vector [1, 2]) false,
    targetPacket 1600 (.vector [1, 2]) true, targetPacket 2200 (.vector [1, 3]) false,
    targetPacket 2800 .missing false].map some

end Evaluations

end Mkk.Eye
