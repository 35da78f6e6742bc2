import Mkk.Kiosk.ObservationRuns

/-!
# What the batches hold

The batches that are built hold every sample in the order of the frames, cut into pieces of at most 256
observations, and tell the runs of the frames (`Faithful`). Two kinds of input break this: a missing gaze
whose empty reason gives way to another one of its frame, and a strong label that leaves the scores while
every object inherits its name. `faithful_iff` says there are no others.
-/

namespace Mkk.Kiosk

open Lib

/-! ## The purpose of the batches -/

namespace FrameObservation

variable (o : FrameObservation)

/-- The gaze is held in the observation of its frame. -/
def HoldsGaze (sample : GazeSample) : Prop :=
  o.toFrameStamp = sample.stamp ∧ match sample.outcome with
    | .valid x y => o.gaze = some
        { screenXNorm := x
          screenYNorm := y
          confidence := sample.confidence
          producerId := sample.producerId
          modelRevision := sample.modelRevision
          calibrationId := sample.calibrationId }
    | .invalid reason => o.gaze = none ∧ o.gazeReason = some reason

/-- The missing gaze is held in the observation of its frame. -/
structure HoldsUnavailable (sample : GazeUnavailableSample) : Prop where
  stamp : o.toFrameStamp = sample.toFrameStamp
  missing : o.gaze = none
  reason : o.gazeReason = some sample.reason

/-- The expression is held in the observation of its frame. -/
def HoldsExpression (sample : ExpressionSample) : Prop :=
  o.toFrameStamp = sample.stamp ∧ match sample.outcome with
    | .valid scores => o.expression = some
        { scores := scores
          quality := sample.quality
          confidence := sample.confidence
          producerId := sample.producerId
          modelRevision := sample.modelRevision
          taxonomyVersion := sample.taxonomyVersion }
    | .invalid _ _ reason => o.expression = none ∧ o.expressionReason = some reason

/-- The expression of the observation sustains a label. -/
def sustains (label : String) : Bool := o.expression.any fun expression => strong expression.scores label

end FrameObservation

/-- Where the observations have a gaze. -/
def gazeStretches (observations : List FrameObservation) : Labelling Unit :=
  stretches (observations.map fun o => (o.toFrameStamp, o.gaze.isSome))

/-- Where the observations sustain a label. -/
def labelStretches (observations : List FrameObservation) (label : String) : Labelling Unit :=
  stretches (observations.map fun o => (o.toFrameStamp, o.sustains label))

/-- The time since the first observation of the maximal run that holds an observation. -/
def TimeInRun (observations : List FrameObservation) (L : Labelling Unit) (k : ℕ) (elapsed : ℚ) (r : Run Unit) :
    Prop :=
  L.IsMaximal observations.length r ∧ r.first ≤ k ∧ k ≤ r.last ∧
    ∃ first o, observations[r.first]? = some first ∧ observations[k]? = some o ∧
      elapsed = o.capturedAtMonoMs - first.capturedAtMonoMs

/-- All observations, in the order of their batches. -/
def allObservations (batches : List ObservationBatch) : List FrameObservation :=
  batches.flatMap (·.observations)

/-- What the batches say of the samples. -/
structure Faithful (options : BuildOptions) (batches : List ObservationBatch) : Prop where
  increasing : (allObservations batches).Pairwise fun o p => o.sequence < p.sequence
  once : ((allObservations batches).map fun o => (o.playbackEpoch, o.frameId)).Nodup
  frames : ∀ epoch id, (epoch, id) ∈ (allObservations batches).map (fun o => (o.playbackEpoch, o.frameId)) ↔
    (epoch, id) ∈ options.stamps.map fun stamp => (stamp.playbackEpoch, stamp.frameId)
  gaze : ∀ sample ∈ options.gazeSamples, ∃ o ∈ allObservations batches, o.HoldsGaze sample
  unavailable : ∀ sample ∈ options.gazeUnavailableSamples,
    ∃ o ∈ allObservations batches, o.HoldsUnavailable sample
  expression : ∀ sample ∈ options.expressionSamples, ∃ o ∈ allObservations batches, o.HoldsExpression sample
  bounded : ∀ batch ∈ batches, batch.observations.length ≤ 256
  sequences : batches.map (·.batchSequence) = List.range' options.batchSequence batches.length
  batchIds : (batches.map (·.batchId)).Nodup
  gazeRuns : ∀ k o, (allObservations batches)[k]? = some o → o.gaze.isSome = true →
    ∃ d r, o.derivedGaze = some d ∧
      TimeInRun (allObservations batches) (gazeStretches (allObservations batches)) k
        d.continuousObservationMs r ∧
      (d.movement.isSome = true ↔ k ≠ r.first)
  sustained : ∀ k o d action, (allObservations batches)[k]? = some o → o.derivedExpression = some d →
    action ∈ d.sustainedActions →
    ∃ r, TimeInRun (allObservations batches) (labelStretches (allObservations batches) action.signal) k
      action.durationMs r

/-- Two missing gazes of one frame, of which one has an empty reason and the other has not. -/
def ConflictingReasons (options : BuildOptions) : Prop :=
  ∃ u ∈ options.gazeUnavailableSamples, ∃ v ∈ options.gazeUnavailableSamples,
    u.playbackEpoch = v.playbackEpoch ∧ u.frameId = v.frameId ∧ u.reason = "" ∧ v.reason ≠ ""

/-- Neighbouring frames have valid expressions without a reset in between, and a strong label of the first is
not in the scores of the second, although every object inherits the name. -/
def LabelVanishes (options : BuildOptions) : Prop :=
  ∃ earlier ∈ options.expressionSamples, ∃ later ∈ options.expressionSamples, ∃ scores scores',
    earlier.outcome = .valid scores ∧ later.outcome = .valid scores' ∧
    earlier.sequence < later.sequence ∧
    (∀ stamp ∈ options.stamps, ¬(earlier.sequence < stamp.sequence ∧ stamp.sequence < later.sequence)) ∧
    isContinuityReset earlier.stamp later.stamp = false ∧
    ∃ label ∈ objectPrototypeNames, strong scores label = true ∧ scores'.get? label = none

/-! ## Batches -/

section Batches

variable {options : BuildOptions} {α : Type}

theorem flatten_chunks (l : List α) : (chunks l).flatten = l := by
  induction l using chunks.induct with
  | case1 => rw [chunks, List.flatten_nil]
  | case2 a rest ih => rw [chunks, List.flatten_cons, ih, List.take_append_drop]

theorem length_le_of_mem_chunks {l piece : List α} (listed : piece ∈ chunks l) : piece.length ≤ 256 := by
  induction l using chunks.induct with
  | case1 =>
    rw [chunks] at listed
    cases listed
  | case2 a rest ih =>
    rw [chunks] at listed
    rcases List.mem_cons.1 listed with rfl | later
    · exact List.length_take_le _ _
    · exact ih later

theorem batchId_injective {piece piece' : List FrameObservation} {i j : ℕ}
    (same : (batchOf options piece i).batchId = (batchOf options piece' j).batchId) : i = j := by
  have longer (n : ℕ) : options.batchId ≠ options.batchId ++ "-" ++ toString (n + 1) := by
    intro equal
    have lengths := congrArg String.length equal
    rw [String.length_append, String.length_append] at lengths
    have dash : "-".length = 1 := rfl
    omega
  simp only [batchOf] at same
  split_ifs at same with first second second
  · rw [first, second]
  · exact absurd same (longer j)
  · exact absurd same.symm (longer i)
  · have lists := congrArg String.toList same
    simp only [String.toList_append, List.append_assoc, List.append_cancel_left_eq] at lists
    exact Nat.succ_injective (toString_nat_injective (String.toList_injective lists))

/-- The batches of some observations. -/
def batchesOf (options : BuildOptions) (observations : List FrameObservation) : List ObservationBatch :=
  (chunks observations).mapIdx fun chunkIndex chunk => batchOf options chunk chunkIndex

variable {observations : List FrameObservation}

theorem allObservations_batchesOf : allObservations (batchesOf options observations) = observations := by
  have pieces : (batchesOf options observations).map (·.observations) = chunks observations := by
    apply List.ext_getElem
    · simp [batchesOf]
    · intro i inside inside'
      simp [batchesOf, batchOf]
  rw [allObservations, List.flatMap_def, pieces, flatten_chunks]

theorem batchesOf_bounded : ∀ batch ∈ batchesOf options observations, batch.observations.length ≤ 256 := by
  intro batch listed
  obtain ⟨i, inside, rfl⟩ := List.mem_mapIdx.1 listed
  exact length_le_of_mem_chunks (List.getElem_mem inside)

theorem batchesOf_sequences : (batchesOf options observations).map (·.batchSequence) =
    List.range' options.batchSequence (batchesOf options observations).length := by
  apply List.ext_getElem
  · simp
  · intro i inside inside'
    simp [batchesOf, batchOf]

theorem batchesOf_batchIds : ((batchesOf options observations).map (·.batchId)).Nodup := by
  refine List.pairwise_iff_getElem.2 fun i j inside inside' before same => ?_
  simp only [batchesOf, List.getElem_map, List.getElem_mapIdx] at same
  exact absurd (batchId_injective same) before.ne

end Batches

/-! ## From the frames to the samples -/

section Frames

variable {options : BuildOptions} {frames : List FusedFrame} {frame : FusedFrame} {i j : ℕ}

theorem Fused.stamped (fused : Fused options frames) : Stamped frames where
  gaze := fused.ofGaze
  expression f listed e own := (fused.ofExpression f listed e own).2

/-- The frames are in the order of their sequence. -/
theorem Fused.lt_iff (fused : Fused options frames) {other : FusedFrame} (here : frames[i]? = some frame)
    (there : frames[j]? = some other) : frame.sequence < other.sequence ↔ i < j := by
  obtain ⟨inside, rfl⟩ := List.getElem?_eq_some_iff.1 here
  obtain ⟨inside', rfl⟩ := List.getElem?_eq_some_iff.1 there
  have ordered := List.pairwise_iff_getElem.1 fused.increasing
  constructor
  · intro less
    by_contra after
    rcases Nat.lt_or_eq_of_le (Nat.le_of_not_lt after) with before | rfl
    · exact absurd less (ordered j i inside' inside before).not_gt
    · exact absurd less (lt_irrefl _)
  · exact ordered i j inside inside'

theorem validExpression_of_valid {e : ExpressionSample} {scores : Dict String ℚ}
    (own : frame.expression = some e) (valid : e.outcome = .valid scores) :
    frame.validExpression = some ⟨e, scores, valid⟩ := by
  rw [FusedFrame.validExpression, own, Option.bind_some, ExpressionSample.valid?]
  split
  · rename_i read
    obtain rfl := ExpressionOutcome.valid.inj (read.symm.trans valid)
    rfl
  · rename_i read
    cases read.symm.trans valid

theorem validGaze_of_valid {g : GazeSample} {x y : ℚ} (own : frame.gaze = some g)
    (valid : g.outcome = .valid x y) : frame.validGaze = some ⟨g, x, y, valid⟩ := by
  rw [FusedFrame.validGaze, own, Option.bind_some, GazeSample.valid?]
  split
  · rename_i read
    obtain ⟨rfl, rfl⟩ := GazeOutcome.valid.inj (read.symm.trans valid)
    rfl
  · rename_i read
    cases read.symm.trans valid

theorem validGaze_of_invalid {g : GazeSample} {reason : String} (own : frame.gaze = some g)
    (invalid : g.outcome = .invalid reason) : frame.validGaze = none ∧ frame.missingGaze = reason := by
  constructor
  · rw [FusedFrame.validGaze, own, Option.bind_some, GazeSample.valid?]
    split <;> simp_all
  · rw [FusedFrame.missingGaze, own, Option.map_some, invalid]

theorem validExpression_of_invalid {e : ExpressionSample} {detected : Bool} {count : ℕ} {reason : String}
    (own : frame.expression = some e) (invalid : e.outcome = .invalid detected count reason) :
    frame.validExpression = none ∧ frame.missingExpression = reason := by
  constructor
  · rw [FusedFrame.validExpression, own, Option.bind_some, ExpressionSample.valid?]
    split <;> simp_all
  · rw [FusedFrame.missingExpression, own, Option.map_some, invalid]

theorem Fused.mem_of_validExpression (fused : Fused options frames) (here : frames[i]? = some frame)
    {expression : ValidExpression} (valid : frame.validExpression = some expression) :
    expression.sample ∈ options.expressionSamples := by
  obtain ⟨e, own, valid⟩ := Option.bind_eq_some_iff.1 valid
  rw [ExpressionSample.valid?_eq_some valid]
  exact (fused.ofExpression frame (List.mem_of_getElem? here) e own).1

/-- A label vanishes between two frames exactly when it does between two neighbouring samples. -/
theorem Fused.vanishes_iff (fused : Fused options frames) : Vanishes frames ↔ LabelVanishes options := by
  constructor
  · rintro ⟨k, previous, frame, expression, before, here, valid, free, label, inherited, strongBefore, gone⟩
    obtain ⟨first, own, enough⟩ : ∃ first, previous.validExpression = some first ∧
        strong first.scores label = true := by
      rw [FusedFrame.sustains] at strongBefore
      cases own : previous.validExpression with
      | none => rw [own] at strongBefore; cases strongBefore
      | some first => exact ⟨first, rfl, by rwa [own] at strongBefore⟩
    have stamp := fused.stamped.validExpression before own
    have stamp' := fused.stamped.validExpression here valid
    have sequence : first.sample.sequence = previous.sequence := congrArg FrameStamp.sequence stamp
    have sequence' : expression.sample.sequence = frame.sequence := congrArg FrameStamp.sequence stamp'
    refine ⟨first.sample, fused.mem_of_validExpression before own, expression.sample,
      fused.mem_of_validExpression here valid, first.scores, expression.scores, first.valid,
      expression.valid, ?_, ?_, ?_, label, inherited, enough, gone⟩
    · rw [sequence, sequence']
      exact (fused.lt_iff before here).2 (Nat.lt_succ_self k)
    · rintro stamp known ⟨low, high⟩
      obtain ⟨other, member, rfl⟩ := (fused.stamps stamp).1 known
      obtain ⟨j, there⟩ := List.mem_iff_getElem?.1 member
      rw [sequence] at low
      rw [sequence'] at high
      have := (fused.lt_iff before there).1 low
      have := (fused.lt_iff there here).1 high
      omega
    · rw [stamp, stamp']
      exact free
  · rintro ⟨earlier, listed, later, listed', scores, scores', valid, valid', less, alone, free, label,
      inherited, enough, gone⟩
    obtain ⟨previous, member, stamp, own⟩ := fused.expression earlier listed
    obtain ⟨frame, member', stamp', own'⟩ := fused.expression later listed'
    obtain ⟨k, before⟩ := List.mem_iff_getElem?.1 member
    obtain ⟨k', here⟩ := List.mem_iff_getElem?.1 member'
    have sequence : previous.sequence = earlier.sequence := congrArg FrameStamp.sequence stamp
    have sequence' : frame.sequence = later.sequence := congrArg FrameStamp.sequence stamp'
    have after : k < k' := (fused.lt_iff before here).1 (by rw [sequence, sequence']; exact less)
    obtain rfl : k' = k + 1 := by
      by_contra apart
      obtain ⟨inside, -⟩ := List.getElem?_eq_some_iff.1 here
      have between : frames[k + 1]? = some frames[k + 1] := List.getElem?_eq_getElem (by omega)
      have low := (fused.lt_iff before between).2 (by omega)
      have high := (fused.lt_iff between here).2 (by omega)
      rw [sequence] at low
      rw [sequence'] at high
      exact alone _ ((fused.stamps _).2 ⟨_, List.getElem_mem _, rfl⟩) ⟨low, high⟩
    refine ⟨k, previous, frame, _, before, here, validExpression_of_valid own' valid', ?_, label, inherited,
      ?_, gone⟩
    · rw [stamp, stamp']
      exact free
    · rw [sustains_eq (validExpression_of_valid own valid)]
      exact enough

end Frames

/-! ## From the frames to the observations -/

/-- The observations of the fused frames. -/
structure Built (options : BuildOptions) (frames : List FusedFrame) (observations : List FrameObservation) :
    Prop where
  fused : Fused options frames
  length : observations.length = frames.length
  each : ∀ k o, observations[k]? = some o → ∃ frame, frames[k]? = some frame ∧ Observed frames k frame o

theorem buildObservations_built {C : Type} [LinearOrder C] {collate : String → C} {options : BuildOptions}
    {observations : List FrameObservation} (built : buildObservations options collate = .ok observations) :
    ∃ frames, Built options frames observations := by
  obtain ⟨frames, fused, built⟩ := Api.bind_eq_ok_iff.1 built
  have fused := fuseByFrameId_fused fused
  obtain ⟨length, each⟩ := stateAt_zero.run fused.stamped rfl built
  refine ⟨frames, fused, length, fun k o found => ?_⟩
  have one := each k o found
  rwa [Nat.zero_add] at one

namespace Built

variable {options : BuildOptions} {frames : List FusedFrame} {observations : List FrameObservation} {k : ℕ}
  {o : FrameObservation} {frame : FusedFrame}

/-- The observation of a frame. -/
theorem exists_observation (built : Built options frames observations) (member : frame ∈ frames) :
    ∃ k o, o ∈ observations ∧ Observed frames k frame o := by
  obtain ⟨k, here⟩ := List.mem_iff_getElem?.1 member
  obtain ⟨inside, -⟩ := List.getElem?_eq_some_iff.1 here
  rw [← built.length] at inside
  have found : observations[k]? = some observations[k] := List.getElem?_eq_getElem inside
  obtain ⟨frame', here', observed⟩ := built.each k _ found
  obtain rfl : frame = frame' := Option.some.inj (here.symm.trans here')
  exact ⟨k, _, List.mem_of_getElem? found, observed⟩

/-- What is read off the observations is what is read off the frames. -/
theorem map_eq (built : Built options frames observations) {α : Type} {p : FrameObservation → α}
    {q : FusedFrame → α} (same : ∀ k frame o, Observed frames k frame o → p o = q frame) :
    observations.map p = frames.map q := by
  apply List.ext_getElem
  · rw [List.length_map, List.length_map, built.length]
  · intro k inside inside'
    rw [List.getElem_map, List.getElem_map]
    have found := List.getElem?_eq_getElem (l := observations) (by simpa using inside)
    obtain ⟨frame, here, observed⟩ := built.each k _ found
    rw [(List.getElem?_eq_some_iff.1 here).2]
    exact same k frame _ observed

theorem gazeStretches_eq (built : Built options frames observations) :
    gazeStretches observations = gazeSignal frames := by
  rw [gazeStretches, gazeSignal, signal]
  congr 1
  exact built.map_eq fun _ _ _ observed => by rw [observed.stamp, observed.gaze, Option.isSome_map]

theorem labelStretches_eq (built : Built options frames observations) (label : String) :
    labelStretches observations label = labelSignal frames label := by
  rw [labelStretches, labelSignal, signal]
  congr 1
  refine built.map_eq fun _ frame _ observed => ?_
  rw [observed.stamp, FrameObservation.sustains, FusedFrame.sustains, observed.expression, Option.any_map]
  rfl

/-- The time since the run of a position began. -/
theorem timeInRun (built : Built options frames observations) {L : Labelling Unit} {elapsed : ℚ}
    (found : observations[k]? = some o) (labelled : (L.label k).isSome = true)
    (time : elapsed = o.capturedAtMonoMs - capturedAt frames (L.start k)) :
    ∃ r, TimeInRun observations L k elapsed r ∧ r.first = L.start k := by
  obtain ⟨inside, -⟩ := List.getElem?_eq_some_iff.1 found
  obtain ⟨r, maximal, first, low, high⟩ := Labelling.exists_maximal inside labelled
  have foundFirst : observations[r.first]? = some observations[r.first] :=
    List.getElem?_eq_getElem (by omega)
  obtain ⟨frame, here, observed⟩ := built.each _ _ foundFirst
  have stamp : observations[r.first].capturedAtMonoMs = frame.capturedAtMonoMs :=
    congrArg FrameStamp.capturedAtMonoMs observed.stamp
  refine ⟨r, ⟨maximal, low, high, _, o, foundFirst, found, ?_⟩, first⟩
  rw [time, stamp, ← first, capturedAt_of_getElem? here]

theorem increasing (built : Built options frames observations) :
    observations.Pairwise fun o p => o.sequence < p.sequence := by
  have sequences : observations.map (·.sequence) = frames.map (·.sequence) :=
    built.map_eq fun _ _ _ observed => by rw [observed.stamp]
  have ordered : (observations.map (·.sequence)).Pairwise (· < ·) := by
    rw [sequences]
    exact List.pairwise_map.2 built.fused.increasing
  exact List.pairwise_map.1 ordered

theorem keys_eq (built : Built options frames observations) :
    observations.map (fun o => (o.playbackEpoch, o.frameId)) =
      frames.map fun frame => (frame.playbackEpoch, frame.frameId) :=
  built.map_eq fun _ _ _ observed => by rw [observed.stamp]

theorem once (built : Built options frames observations) :
    (observations.map fun o => (o.playbackEpoch, o.frameId)).Nodup := by
  rw [built.keys_eq]
  refine List.Nodup.of_map (fun key => toString key.1 ++ ":" ++ key.2) ?_
  rw [List.map_map]
  exact built.fused.distinct

theorem frames_iff (built : Built options frames observations) {epoch : ℕ} {id : String} :
    (epoch, id) ∈ observations.map (fun o => (o.playbackEpoch, o.frameId)) ↔
      (epoch, id) ∈ options.stamps.map fun stamp => (stamp.playbackEpoch, stamp.frameId) := by
  rw [built.keys_eq, List.mem_map, List.mem_map]
  constructor
  · rintro ⟨frame, member, same⟩
    exact ⟨frame.toFrameStamp, (built.fused.stamps _).2 ⟨frame, member, rfl⟩, same⟩
  · rintro ⟨stamp, known, same⟩
    obtain ⟨frame, member, rfl⟩ := (built.fused.stamps stamp).1 known
    exact ⟨frame, member, same⟩

/-- Every gaze is held. -/
theorem holdsGaze (built : Built options frames observations) {sample : GazeSample}
    (listed : sample ∈ options.gazeSamples) : ∃ o ∈ observations, o.HoldsGaze sample := by
  obtain ⟨frame, member, stamp, own⟩ := built.fused.gaze sample listed
  obtain ⟨k, o, found, observed⟩ := built.exists_observation member
  refine ⟨o, found, observed.stamp.trans stamp, ?_⟩
  cases outcome : sample.outcome with
  | valid x y =>
    dsimp only
    rw [observed.gaze, validGaze_of_valid own outcome]
    rfl
  | invalid reason =>
    obtain ⟨unseen, missing⟩ := validGaze_of_invalid own outcome
    rw [observed.gaze, observed.gazeReason, unseen, missing]
    exact ⟨rfl, rfl⟩

/-- Every expression is held. -/
theorem holdsExpression (built : Built options frames observations) {sample : ExpressionSample}
    (listed : sample ∈ options.expressionSamples) : ∃ o ∈ observations, o.HoldsExpression sample := by
  obtain ⟨frame, member, stamp, own⟩ := built.fused.expression sample listed
  obtain ⟨k, o, found, observed⟩ := built.exists_observation member
  refine ⟨o, found, observed.stamp.trans stamp, ?_⟩
  cases outcome : sample.outcome with
  | valid scores =>
    dsimp only
    rw [observed.expression, validExpression_of_valid own outcome]
    rfl
  | invalid detected count reason =>
    obtain ⟨unseen, missing⟩ := validExpression_of_invalid own outcome
    rw [observed.expression, observed.expressionReason, unseen, missing]
    exact ⟨rfl, rfl⟩

/-- Every missing gaze is held where no other reason took the place of its own. -/
theorem holdsUnavailable (built : Built options frames observations) (agree : ¬ConflictingReasons options)
    {sample : GazeUnavailableSample} (listed : sample ∈ options.gazeUnavailableSamples) :
    ∃ o ∈ observations, o.HoldsUnavailable sample := by
  obtain ⟨frame, member, reason, stamp, unseen, known, kept⟩ := built.fused.missing sample listed
  obtain ⟨other, listed', stamp', rfl⟩ := built.fused.reason frame member reason known
  have same : other.reason = sample.reason := by
    rcases kept with empty | same
    · by_contra differ
      rw [empty] at differ
      refine agree ⟨sample, listed, other, listed', ?_, ?_, empty, differ⟩
      · exact congrArg FrameStamp.playbackEpoch (stamp.symm.trans stamp'.symm)
      · exact congrArg FrameStamp.frameId (stamp.symm.trans stamp'.symm)
    · exact same.symm
  obtain ⟨k, o, found, observed⟩ := built.exists_observation member
  have invalid : frame.validGaze = none := by rw [FusedFrame.validGaze, unseen]; rfl
  refine ⟨o, found, observed.stamp.trans stamp, ?_, ?_⟩
  · rw [observed.gaze, invalid]
    rfl
  · rw [observed.gazeReason, invalid, reasonUnless, FusedFrame.missingGaze, unseen, known, same]
    rfl

/-- The gaze tells its runs. -/
theorem gazeRuns (built : Built options frames observations) (found : observations[k]? = some o)
    (seen : o.gaze.isSome = true) : ∃ d r, o.derivedGaze = some d ∧
      TimeInRun observations (gazeStretches observations) k d.continuousObservationMs r ∧
      (d.movement.isSome = true ↔ k ≠ r.first) := by
  obtain ⟨frame, here, observed⟩ := built.each k o found
  rw [observed.gaze, Option.isSome_map] at seen
  obtain ⟨d, derived, continuous, movement⟩ := observed.derivedGaze seen
  have captured : o.capturedAtMonoMs = frame.capturedAtMonoMs :=
    congrArg FrameStamp.capturedAtMonoMs observed.stamp
  rw [built.gazeStretches_eq]
  obtain ⟨r, time, first⟩ := built.timeInRun (L := gazeSignal frames) found
    ((isSome_label_signal here).trans seen) (continuous.trans (by rw [captured]))
  refine ⟨d, r, derived, time, ?_⟩
  rw [movement, first, ne_comm, ne_eq, Labelling.start_eq_self_iff, Bool.not_eq_false]

/-- The expression tells the runs of its labels where none vanishes. -/
theorem sustained (built : Built options frames observations) (stays : ¬Vanishes frames)
    (found : observations[k]? = some o) {d : ExpressionDerived} (derived : o.derivedExpression = some d)
    {action : SustainedAction} (listed : action ∈ d.sustainedActions) :
    ∃ r, TimeInRun observations (labelStretches observations action.signal) k action.durationMs r := by
  obtain ⟨frame, here, observed⟩ := built.each k o found
  have since := observed.derivedExpression stays d derived action listed
  rw [sustainedSince] at since
  split_ifs at since with own
  have captured : o.capturedAtMonoMs = frame.capturedAtMonoMs :=
    congrArg FrameStamp.capturedAtMonoMs observed.stamp
  rw [built.labelStretches_eq]
  obtain ⟨r, time, -⟩ := built.timeInRun (L := labelSignal frames action.signal) found
    ((isSome_label_signal here).trans own) (by rw [Option.some.inj since, captured, sub_sub_cancel])
  exact ⟨r, time⟩

/-- A label that vanishes is said to be sustained where it is not. -/
theorem not_sustained (built : Built options frames observations) (vanishes : Vanishes frames) :
    ∃ k o d action, observations[k]? = some o ∧ o.derivedExpression = some d ∧
      action ∈ d.sustainedActions ∧ ((labelStretches observations action.signal).label k).isSome = false := by
  obtain ⟨k, previous, frame, expression, before, here, valid, free, label, inherited, earlier, gone⟩ :=
    vanishes
  obtain ⟨inside, -⟩ := List.getElem?_eq_some_iff.1 here
  rw [← built.length] at inside
  have found : observations[k + 1]? = some observations[k + 1] := List.getElem?_eq_getElem inside
  obtain ⟨frame', here', observed⟩ := built.each _ _ found
  obtain rfl : frame = frame' := Option.some.inj (here.symm.trans here')
  obtain ⟨d, derived, action, listed, rfl⟩ :=
    observed.vanishing k previous expression rfl before valid free label inherited earlier gone
  refine ⟨k + 1, _, d, action, found, derived, listed, ?_⟩
  rw [built.labelStretches_eq, labelSignal, isSome_label_signal here, sustains_eq valid, strong, gone]
  rfl

end Built

/-! ## When the batches are faithful -/

section Faithful

variable {options : BuildOptions} {frames : List FusedFrame} {observations : List FrameObservation}

/-- The batches are faithful where no reason gives way and no label vanishes. -/
theorem Built.faithful (built : Built options frames observations) (agree : ¬ConflictingReasons options)
    (stays : ¬Vanishes frames) : Faithful options (batchesOf options observations) where
  increasing := by
    rw [allObservations_batchesOf]
    exact built.increasing
  once := by
    rw [allObservations_batchesOf]
    exact built.once
  frames epoch id := by
    rw [allObservations_batchesOf]
    exact built.frames_iff
  gaze sample listed := by
    rw [allObservations_batchesOf]
    exact built.holdsGaze listed
  unavailable sample listed := by
    rw [allObservations_batchesOf]
    exact built.holdsUnavailable agree listed
  expression sample listed := by
    rw [allObservations_batchesOf]
    exact built.holdsExpression listed
  bounded := batchesOf_bounded
  sequences := batchesOf_sequences
  batchIds := batchesOf_batchIds
  gazeRuns k o := by
    rw [allObservations_batchesOf]
    exact built.gazeRuns
  sustained k o d action := by
    rw [allObservations_batchesOf]
    exact fun found derived listed => built.sustained stays found derived listed

/-- One observation holds two missing gazes of its frame only where they have one reason. -/
theorem Faithful.agree {batches : List ObservationBatch} (faithful : Faithful options batches) :
    ¬ConflictingReasons options := by
  rintro ⟨u, listed, v, listed', epoch, id, empty, other⟩
  obtain ⟨o, member, held⟩ := faithful.unavailable u listed
  obtain ⟨o', member', held'⟩ := faithful.unavailable v listed'
  have same : o = o' := by
    refine List.inj_on_of_nodup_map faithful.once member member' ?_
    rw [held.stamp, held'.stamp, epoch, id]
  have reasons := held.reason.symm.trans (same ▸ held'.reason)
  exact other (by rw [← Option.some.inj reasons, empty])

/-- A label that vanishes is in no run that holds the observation which says it is sustained. -/
theorem Built.stays (built : Built options frames observations)
    (faithful : Faithful options (batchesOf options observations)) : ¬Vanishes frames := by
  intro vanishes
  obtain ⟨k, o, d, action, found, derived, listed, weak⟩ := built.not_sustained vanishes
  have sustained := faithful.sustained k o d action
  rw [allObservations_batchesOf] at sustained
  obtain ⟨r, maximal, low, high, -⟩ := sustained found derived listed
  rw [maximal.isRun.labelled k low high] at weak
  cases weak

variable {C : Type} [LinearOrder C] {collate : String → C} {batches : List ObservationBatch}

/-- Batches are those of some observations of frames. -/
theorem exists_built (accepted : buildObservationBatchesV2 options collate = .ok batches) :
    ∃ frames observations, Built options frames observations ∧ batches = batchesOf options observations := by
  obtain ⟨observations, made, accepted⟩ := Api.bind_eq_ok_iff.1 accepted
  cases accepted
  obtain ⟨frames, built⟩ := buildObservations_built made
  exact ⟨frames, observations, built, rfl⟩

/-- **The batches are faithful** exactly when no empty reason gives way to another and no label vanishes. -/
theorem faithful_iff (accepted : buildObservationBatchesV2 options collate = .ok batches) :
    Faithful options batches ↔ ¬ConflictingReasons options ∧ ¬LabelVanishes options := by
  obtain ⟨frames, observations, built, rfl⟩ := exists_built accepted
  rw [← built.fused.vanishes_iff]
  constructor
  · intro faithful
    exact ⟨faithful.agree, built.stays faithful⟩
  · rintro ⟨agree, stays⟩
    exact built.faithful agree stays

end Faithful

/-! ## Two short sessions -/

/-- A sample of the session, taken every tenth of a second. -/
def sampleBase (sequence : ℕ) : ObservationBase where
  sessionId := "session-1"
  eventId := "event-" ++ toString sequence
  sequence := sequence
  frameId := "frame-" ++ toString sequence
  capturedAtMonoMs := 100 * sequence
  videoId := "video-1"
  videoTimeMs := 100 * sequence
  playbackEpoch := 0
  producerId := "producer-1"
  modelRevision := "model-1"
  confidence := 1

def sampleGaze (sequence : ℕ) (outcome : GazeOutcome) : GazeSample :=
  { sampleBase sequence with calibrationId := "calibration-1", outcome }

def sampleExpression (sequence : ℕ) (scores : Dict String ℚ) : ExpressionSample :=
  { sampleBase sequence with taxonomyVersion := "taxonomy-1", quality := 1, outcome := .valid scores }

def sampleOptions (gazeSamples : List GazeSample) (expressionSamples : List ExpressionSample) :
    BuildOptions where
  batchId := "batch-1"
  batchSequence := 0
  sessionId := "session-1"
  manifestVideoId := "video-1"
  manifestVersion := "manifest-1"
  gazeSamples := gazeSamples
  expressionSamples := expressionSamples
  videoLayout _ := none

/-- A gaze over two frames, with a smile that lasts. -/
def steadyOptions : BuildOptions :=
  sampleOptions [sampleGaze 0 (.valid 0 0), sampleGaze 1 (.valid (1 / 2) 0), sampleGaze 2 (.invalid "blink")]
    [sampleExpression 0 (Dict.empty.set "smile" 1), sampleExpression 1 (Dict.empty.set "smile" 1)]

theorem steadyOptions_faithful : ∃ batches,
    buildObservationBatchesV2 steadyOptions (id : String → String) = .ok batches ∧
      Faithful steadyOptions batches := by
  obtain ⟨batches, accepted⟩ := Api.isOk_iff_exists.1 (show
    (buildObservationBatchesV2 steadyOptions (id : String → String)).isOk = true by decide +kernel)
  refine ⟨batches, accepted, (faithful_iff accepted).2 ⟨?_, ?_⟩⟩
  · rintro ⟨u, listed, -⟩
    cases listed
  · rintro ⟨earlier, listed, -, -, scores, -, valid, -, -, -, -, label, inherited, own, -⟩
    have plain : ∀ e ∈ steadyOptions.expressionSamples, e.outcome = .valid (Dict.empty.set "smile" 1) := by
      decide +kernel
    have weak : ∀ label ∈ objectPrototypeNames, strong (Dict.empty.set "smile" 1) label = false := by
      decide +kernel
    obtain rfl := ExpressionOutcome.valid.inj ((plain earlier listed).symm.trans valid)
    rw [weak label inherited] at own
    cases own

/-- A label that every object inherits is strong in the first frame and absent from the second. -/
def inheritedOptions : BuildOptions :=
  sampleOptions [] [sampleExpression 0 (Dict.empty.set "constructor" 1),
    sampleExpression 1 (Dict.empty.set "smile" 0)]

/-- The second observation says that the label is sustained. -/
theorem inheritedOptions_unfaithful : ∃ batches,
    buildObservationBatchesV2 inheritedOptions (id : String → String) = .ok batches ∧
      ¬Faithful inheritedOptions batches := by
  obtain ⟨batches, accepted⟩ := Api.isOk_iff_exists.1 (show
    (buildObservationBatchesV2 inheritedOptions (id : String → String)).isOk = true by decide +kernel)
  obtain ⟨frames, observations, built, rfl⟩ := exists_built accepted
  refine ⟨_, accepted, fun faithful => built.stays faithful (built.fused.vanishes_iff.2 ?_)⟩
  refine ⟨_, List.mem_cons_self, _, List.mem_cons_of_mem _ List.mem_cons_self, _, _, rfl, rfl, ?_, ?_, ?_,
    "constructor", ?_, ?_, ?_⟩
  · decide
  · decide +kernel
  · decide +kernel
  · decide
  · decide +kernel
  · decide +kernel

end Mkk.Kiosk
