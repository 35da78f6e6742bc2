import Mkk.Api.BufferOrder
import Mkk.Api.InOrderBatches
import Mkk.Kiosk.FaithfulBatches

/-!
# What the API reads of a batch

`ObservationBatch.posted` is the model the API makes of the JSON of a batch, and there is none when the
batch is refused. A number that is not finite is `null` in JSON. What is derived of samples within the
limits (`Recorded`) is within the limits of the API, part by part.
-/

namespace Mkk.Kiosk

open Lib

/-! ## From one model to the other -/

/-- A number of JSON, or `null`. -/
def jsonNumber : PyFloat → Option ℚ
  | .finite q => some q
  | _ => none

section Posted

-- the double that is sent for a square root
variable (number : Root → ℚ)

def GazeObservation.posted (g : GazeObservation) : Api.GazeObservationV2 where
  screenXNorm := g.screenXNorm
  screenYNorm := g.screenYNorm
  confidence := g.confidence
  producerId := g.producerId
  modelRevision := g.modelRevision
  calibrationId := g.calibrationId

def ExpressionObservation.posted (e : ExpressionObservation) : Api.ExpressionObservationV2 where
  scores := SortedDict.ofDict e.scores
  quality := e.quality
  confidence := e.confidence
  producerId := e.producerId
  modelRevision := e.modelRevision
  taxonomyVersion := e.taxonomyVersion

def AttentionObservation.posted (a : AttentionObservation) : Api.AttentionObservationV2 where
  outsideVideo := a.outsideVideo
  videoXNorm := a.videoNorm.bind fun point => jsonNumber point.1
  videoYNorm := a.videoNorm.bind fun point => jsonNumber point.2
  confidence := a.confidence
  producerId := a.producerId
  modelRevision := a.modelRevision
  manifestVersion := a.manifestVersion
  candidates := []

def GazeDerived.posted (d : GazeDerived) : Api.GazeDerivedV2 where
  movement := d.movement.map fun m =>
    { distanceNorm := number m.distanceNorm, speedNormPerS := number m.speedNormPerS }
  movementReason := d.movementReason
  continuousObservationMs := d.continuousObservationMs
  returnCandidate := none
  returnCandidateReason := some d.returnCandidateReason

/-- A map of numbers, of which none may be `null`. -/
def postedNumbers (members : List (String × Option ℚ)) : Option (SortedDict String ℚ) :=
  (members.mapM fun e : String × Option ℚ => e.2.map fun number => (e.1, number)).map fun numbers =>
    SortedDict.ofDict (Dict.ofPairs numbers)

/-- A map of numbers or nothing; a map that is refused refuses everything. -/
def postedMap : Option (List (String × Option ℚ)) → Option (Option (SortedDict String ℚ))
  | none => some none
  | some members => (postedNumbers members).map some

def ExpressionDerived.posted (d : ExpressionDerived) : Option Api.ExpressionDerivedV2 := do
  let scoreChanges ← postedMap d.scoreChanges
  let scoreChangeRatesPerS ← postedMap d.scoreChangeRatesPerS
  return {
    scoreChanges
    scoreChangeRatesPerS
    changeReason := d.changeReason
    sustainedActions := d.sustainedActions.map fun action =>
      { signal := action.signal, durationMs := action.durationMs } }

/-- The derived expression of an observation. -/
def postedExpression : Option ExpressionDerived → Option (Option Api.ExpressionDerivedV2)
  | none => some none
  | some derived => derived.posted.map some

def FrameObservation.posted (o : FrameObservation) : Option Api.FrameObservationV2 := do
  let expression ← postedExpression o.derivedExpression
  return {
    frameId := o.frameId
    sequence := o.sequence
    capturedAtMonoMs := o.capturedAtMonoMs
    sessionOffsetMs := o.sessionOffsetMs
    videoTimeMs := o.videoTimeMs
    playbackEpoch := o.playbackEpoch
    gaze := o.gaze.map (·.posted)
    gazeReason := o.gazeReason
    attention := o.attention.map (·.posted)
    attentionReason := o.attentionReason
    expression := o.expression.map (·.posted)
    expressionReason := o.expressionReason
    derived := some {
      gaze := o.derivedGaze.map (·.posted number)
      gazeReason := o.derivedGazeReason
      expression
      expressionReason := o.derivedExpressionReason }
    derivedReason := none }

/-- The rules of a batch. -/
def BatchFields (batchId sessionId videoId : String) (observations : List Api.FrameObservationV2) : Prop :=
  Api.isIdentifier batchId = true ∧ Api.isIdentifier sessionId = true ∧ Api.isIdentifier videoId = true ∧
    (1 ≤ observations.length ∧ observations.length ≤ 256) ∧ ∀ o ∈ observations, o.Valid

instance (batchId sessionId videoId : String) (observations : List Api.FrameObservationV2) :
    Decidable (BatchFields batchId sessionId videoId observations) := by
  unfold BatchFields
  infer_instance

/-- `ObservationBatchV2` of the JSON of a batch. -/
def ObservationBatch.posted (batch : ObservationBatch) : Option Api.ObservationBatchV2 := do
  let observations ← batch.observations.mapM (FrameObservation.posted number)
  if fields : BatchFields batch.batchId batch.sessionId batch.videoId observations then
    return {
      batchId := batch.batchId
      batchSequence := batch.batchSequence
      sessionId := batch.sessionId
      videoId := batch.videoId
      observations
      batchIdOk := fields.1
      sessionIdOk := fields.2.1
      videoIdOk := fields.2.2.1
      bounded := fields.2.2.2.1
      framesValid := fields.2.2.2.2 }
  else none

end Posted

/-! ## Samples within the limits -/

/-- The numbers and names of a gaze are within their limits. -/
def GazeSample.WithinLimits (s : GazeSample) : Prop :=
  match s.outcome with
  | .valid x y => Api.InUnit x ∧ Api.InUnit y ∧ Api.InUnit s.confidence ∧
      Api.isIdentifier s.producerId = true ∧ Api.isRevision s.modelRevision = true ∧
      Api.isIdentifier s.calibrationId = true
  | .invalid reason => Api.isReason reason = true

/-- The scores of labels, of which none is a name every object inherits. -/
structure ScoresWithinLimits (scores : Dict String ℚ) : Prop where
  nonempty : scores.entries ≠ []
  few : scores.size ≤ 64
  each : ∀ e ∈ scores.entries, Api.isLabel e.1 = true ∧ 0 ≤ e.2 ∧ e.2 ≤ 1
  own : scores.get? "constructor" = none

/-- The numbers and names of an expression are within their limits. -/
def ExpressionSample.WithinLimits (s : ExpressionSample) : Prop :=
  match s.outcome with
  | .valid scores => ScoresWithinLimits scores ∧ Api.InUnit s.quality ∧ Api.InUnit s.confidence ∧
      Api.isIdentifier s.producerId = true ∧ Api.isRevision s.modelRevision = true ∧
      Api.isRevision s.taxonomyVersion = true
  | .invalid _ _ reason => Api.isReason reason = true

/-- What the Kiosk records in one session: frames of one playback in the order of their sequence. -/
structure Recorded (options : BuildOptions) : Prop where
  batchId : Api.isIdentifier options.batchId = true ∧ options.batchId.length ≤ 126
  sessionId : Api.isIdentifier options.sessionId = true
  videoId : Api.isIdentifier options.manifestVideoId = true
  manifestVersion : Api.isRevision options.manifestVersion = true
  layout : ∀ id layout, options.videoLayout id = some layout →
    0 < layout.contentRect.widthPx ∧ 0 < layout.contentRect.heightPx
  stamps : ∀ stamp ∈ options.stamps, Api.isIdentifier stamp.frameId = true ∧ 0 ≤ stamp.capturedAtMonoMs
  inOrder : ∀ a ∈ options.stamps, ∀ b ∈ options.stamps, a.sequence < b.sequence →
    a.playbackEpoch ≤ b.playbackEpoch ∧ a.capturedAtMonoMs ≤ b.capturedAtMonoMs ∧
      (a.playbackEpoch = b.playbackEpoch → a.videoTimeMs ≤ b.videoTimeMs)
  few : options.stamps.toFinset.card ≤ 512
  gaze : ∀ s ∈ options.gazeSamples, s.WithinLimits
  unavailable : ∀ s ∈ options.gazeUnavailableSamples, Api.isReason s.reason = true
  expression : ∀ s ∈ options.expressionSamples, s.WithinLimits

/-! ## What a frame becomes -/

section Parts

variable {number : Root → ℚ}

theorem GazeDerived.posted_valid (positive : ∀ r, 0 ≤ number r) {d : GazeDerived}
    (movementXorReason : d.movement.isNone ≠ d.movementReason.isNone)
    (movementReason : Api.ReasonOk d.movementReason) (time : 0 ≤ d.continuousObservationMs)
    (returnReason : Api.isReason d.returnCandidateReason = true) : (d.posted number).Valid where
  movement := by
    intro m known
    obtain ⟨movement, -, rfl⟩ := Option.map_eq_some_iff.1 known
    exact ⟨positive _, positive _⟩
  continuousObservationMs := time
  movementReasonOk := movementReason
  returnCandidateReasonOk := by
    intro r known
    cases known
    exact returnReason
  movementXorReason := by
    rw [Api.ValueXorReason, GazeDerived.posted, Option.isNone_map]
    exact movementXorReason
  returnCandidateXorReason := by simp [GazeDerived.posted]

/-- What a gaze adds is within the limits. -/
theorem buildGazeDerived_valid (positive : ∀ r, 0 ≤ number r) (gaze : ValidGaze) (frame : FrameStamp)
    (previous : Option GazeContinuity) (forcedReset : Bool)
    (time : 0 ≤ (buildGazeDerived gaze frame previous forcedReset).1.continuousObservationMs) :
    ((buildGazeDerived gaze frame previous forcedReset).1.posted number).Valid := by
  have reset (previous : Bool) : Api.isReason (resetReason forcedReset previous) = true := by
    unfold resetReason
    split <;> decide
  cases previous with
  | none =>
    apply GazeDerived.posted_valid positive _ _ time
    · exact reset false
    · simp [buildGazeDerived]
    · simpa [buildGazeDerived, Api.ReasonOk] using reset false
  | some p =>
    by_cases restart : (forcedReset || isContinuityReset p.gaze.sample.stamp frame) = true
    · apply GazeDerived.posted_valid positive _ _ time
      · simpa [buildGazeDerived, restart] using reset true
      · simp [buildGazeDerived, restart]
      · simpa [buildGazeDerived, restart, Api.ReasonOk] using reset true
    · apply GazeDerived.posted_valid positive _ _ time
      · simp only [buildGazeDerived, restart, Bool.false_eq_true, if_false]
        decide
      · simp [buildGazeDerived, restart]
      · simp [buildGazeDerived, restart, Api.ReasonOk]

theorem postedNumbers_some {members : List (String × Option ℚ)} (numbers : ∀ e ∈ members, e.2.isSome = true) :
    ∃ d, postedNumbers members = some d ∧ ∀ e ∈ d.entries, (e.1, some e.2) ∈ members := by
  have read : ∃ l, members.mapM (fun e : String × Option ℚ => e.2.map fun number => (e.1, number)) = some l ∧
      ∀ e ∈ l, (e.1, some e.2) ∈ members := by
    induction members with
    | nil => exact ⟨[], rfl, fun e listed => by cases listed⟩
    | cons a rest ih =>
      obtain ⟨l, same, each⟩ := ih fun e listed => numbers e (List.mem_cons_of_mem _ listed)
      obtain ⟨q, known⟩ := Option.isSome_iff_exists.1 (numbers a List.mem_cons_self)
      refine ⟨(a.1, q) :: l, ?_, ?_⟩
      · rw [List.mapM_cons, same, known]
        rfl
      · intro e listed
        rcases List.mem_cons.1 listed with rfl | later
        · exact List.mem_cons.2 (.inl (Prod.ext rfl known.symm))
        · exact List.mem_cons_of_mem _ (each e later)
  obtain ⟨l, same, each⟩ := read
  refine ⟨_, by rw [postedNumbers, same]; rfl, fun e listed => ?_⟩
  exact each e (Dict.mem_of_mem_ofPairs (SortedDict.mem_ofDict.1 listed))

theorem mem_scoreChangesOf {scores previous : Dict String ℚ} {e : String × Option ℚ}
    (listed : e ∈ scoreChangesOf scores previous) :
    ∃ score, (e.1, score) ∈ scores.entries ∧ e.2 = (previous.get? e.1).map (score - ·) := by
  obtain ⟨entry, kept, rfl⟩ := List.mem_map.1 listed
  exact ⟨entry.2, (List.mem_filter.1 kept).1, rfl⟩

/-- Scores change by at most one. -/
theorem scoreChanges_within {scores previous : Dict String ℚ} (limits : ScoresWithinLimits scores)
    (before : ScoresWithinLimits previous) :
    ∀ e ∈ scoreChangesOf scores previous, Api.isLabel e.1 = true ∧ ∀ change ∈ e.2, -1 ≤ change ∧ change ≤ 1 := by
  intro e listed
  obtain ⟨score, own, same⟩ := mem_scoreChangesOf listed
  obtain ⟨label, low, high⟩ := limits.each _ own
  refine ⟨label, fun change known => ?_⟩
  rw [same] at known
  obtain ⟨earlier, found, rfl⟩ := Option.map_eq_some_iff.1 known
  obtain ⟨-, low', high'⟩ := before.each _ (Dict.mem_entries_iff.2 found)
  constructor
  · linarith
  · linarith

/-- Changes whose rates are in range are sent as two maps within the limits. -/
theorem changes_posted {changes : List (String × Option ℚ)} {seconds : ℚ}
    (within : ∀ e ∈ changes, Api.isLabel e.1 = true ∧ ∀ change ∈ e.2, -1 ≤ change ∧ change ≤ 1)
    (inRange : ((changes.map fun e => (e.1, e.2.map (· / seconds))).all fun e =>
      e.2.any fun rate => decide (|rate| ≤ 1000)) = true) :
    ∃ d d', postedNumbers changes = some d ∧
      postedNumbers (changes.map fun e => (e.1, e.2.map (· / seconds))) = some d' ∧
      Api.LabelledWithin (-1) 1 d ∧ Api.LabelledWithin (-1000) 1000 d' := by
  have known : ∀ e ∈ changes, ∃ change, e.2 = some change ∧ |change / seconds| ≤ 1000 := by
    intro e listed
    have rate := List.all_eq_true.1 inRange _ (List.mem_map_of_mem listed)
    cases same : e.2 with
    | none => rw [same] at rate; cases rate
    | some change => rw [same] at rate; exact ⟨change, rfl, of_decide_eq_true rate⟩
  obtain ⟨d, read, each⟩ := postedNumbers_some fun e (listed : e ∈ changes) => by
    obtain ⟨change, same, -⟩ := known e listed
    rw [same]
    rfl
  obtain ⟨d', read', each'⟩ := postedNumbers_some fun e
      (listed : e ∈ changes.map fun e => (e.1, e.2.map (· / seconds))) => by
    obtain ⟨e, member, rfl⟩ := List.mem_map.1 listed
    obtain ⟨change, same, -⟩ := known e member
    rw [same]
    rfl
  refine ⟨d, d', read, read', fun e listed => ?_, fun e listed => ?_⟩
  · obtain ⟨label, limit⟩ := within _ (each e listed)
    exact ⟨label, limit e.2 rfl⟩
  · obtain ⟨e', member, same⟩ := List.mem_map.1 (each' e listed)
    obtain ⟨label, rate⟩ := Prod.mk.inj same
    obtain ⟨change, known, limit⟩ := known e' member
    rw [known] at rate
    have value : change / seconds = e.2 := Option.some.inj rate
    rw [← label, ← value]
    exact ⟨(within _ member).1, abs_le.1 limit⟩

/-- Each label is sustained once. -/
theorem nodup_sustainedActions {C : Type} [LinearOrder C] (collate : String → C) (expression : ValidExpression)
    (frame : FrameStamp) (previous : Option ExpressionContinuity) (forcedReset : Bool) :
    ((buildExpressionDerived collate expression frame previous forcedReset).1.sustainedActions.map
      (·.signal)).Nodup := by
  cases previous with
  | none => exact List.nodup_nil
  | some p =>
    by_cases restart : (forcedReset || isContinuityReset p.expression.sample.stamp frame) = true
    · simp [buildExpressionDerived, restart]
    · simp only [buildExpressionDerived, restart, Bool.false_eq_true, if_false, List.map_map]
      refine (((sortOn_perm _ _).map _).nodup_iff).2 ?_
      exact (sustainedAfter _ _ _).nodup

/-- What an expression adds is within the limits where its sustained labels are. -/
theorem buildExpressionDerived_posted {C : Type} [LinearOrder C] (collate : String → C)
    {expression : ValidExpression} {frame : FrameStamp} {previous : Option ExpressionContinuity}
    {forcedReset : Bool} (limits : ScoresWithinLimits expression.scores)
    (before : ∀ p ∈ previous, ScoresWithinLimits p.expression.scores)
    (few : (buildExpressionDerived collate expression frame previous
      forcedReset).1.sustainedActions.length ≤ 64)
    (actions : ∀ action ∈ (buildExpressionDerived collate expression frame previous
      forcedReset).1.sustainedActions, Api.isLabel action.signal = true ∧ 0 ≤ action.durationMs) :
    ∃ posted, (buildExpressionDerived collate expression frame previous forcedReset).1.posted = some posted ∧
      posted.Valid := by
  have reset (previous : Bool) : Api.isReason (resetReason forcedReset previous) = true := by
    unfold resetReason
    split <;> decide
  have sustained {list : List SustainedAction}
      (each : ∀ action ∈ list, Api.isLabel action.signal = true ∧ 0 ≤ action.durationMs) :
      ∀ s ∈ list.map fun action => ({ signal := action.signal, durationMs := action.durationMs } :
        Api.SustainedActionV2), s.Valid := by
    intro s listed
    obtain ⟨action, member, rfl⟩ := List.mem_map.1 listed
    exact ⟨(each action member).1, (each action member).2⟩
  have without {reason : String} {list : List SustainedAction} (ok : Api.isReason reason = true)
      (few : list.length ≤ 64)
      (each : ∀ action ∈ list, Api.isLabel action.signal = true ∧ 0 ≤ action.durationMs) :
      ∃ posted, (ExpressionDerived.mk none none (some reason) list).posted = some posted ∧
        posted.Valid := by
    refine ⟨_, rfl, ?_⟩
    exact {
      scoreChanges := fun d known => by cases known
      scoreChangeRatesPerS := fun d known => by cases known
      changeReasonOk := fun r known => by cases known; exact ok
      sustainedBounded := by rw [List.length_map]; exact few
      sustainedActions := sustained each
      changesTogether := rfl
      changesXorReason := by simp }
  cases previous with
  | none => exact without (reset false) few actions
  | some p =>
    by_cases restart : (forcedReset || isContinuityReset p.expression.sample.stamp frame) = true
    · simp only [buildExpressionDerived, restart, if_true] at few actions ⊢
      exact without (reset true) few actions
    · simp only [buildExpressionDerived, restart, Bool.false_eq_true, if_false] at few actions ⊢
      cases expression.scores.entries.any fun e => inScores e.1 p.expression.scores with
      | false => exact without (by decide) few actions
      | true =>
        cases inRange : ((scoreChangesOf expression.scores p.expression.scores).map fun e =>
            (e.1, e.2.map (· / ((frame.capturedAtMonoMs - p.expression.sample.capturedAtMonoMs) /
              1000)))).all fun e => e.2.any fun rate => decide (|rate| ≤ 1000) with
        | false => exact without (by decide) few actions
        | true =>
          obtain ⟨d, d', changes, rates, limited, limited'⟩ :=
            changes_posted (scoreChanges_within limits (before p rfl)) inRange
          refine ⟨_, by
            simp only [ExpressionDerived.posted, postedMap, Bool.and_self, if_true, changes, rates,
              Option.map_some]
            rfl, ?_⟩
          exact {
            scoreChanges := fun known same => by cases same; exact limited
            scoreChangeRatesPerS := fun known same => by cases same; exact limited'
            changeReasonOk := fun r same => by cases same
            sustainedBounded := by rw [List.length_map]; exact few
            sustainedActions := sustained actions
            changesTogether := rfl
            changesXorReason := by simp }

/-- A valid gaze is somewhere on the video, outside of it, or nowhere for a reason. -/
theorem mapAttention_posted {options : BuildOptions} (recorded : Recorded options) {gaze : ValidGaze}
    (limits : gaze.sample.WithinLimits) {attention : Option AttentionObservation} {reason : Option String}
    (mapped : mapAttention options gaze.sample = .ok (attention, reason)) :
    (attention = none ∧ ∃ r, reason = some r ∧ Api.isReason r = true) ∨
      ∃ a, attention = some a ∧ a.manifestVersion = options.manifestVersion ∧ a.posted.Valid := by
  unfold mapAttention at mapped
  cases found : options.videoLayout gaze.sample.frameId with
  | none =>
    rw [found] at mapped
    cases mapped
    exact .inl ⟨rfl, _, rfl, by decide⟩
  | some layout =>
    rw [found] at mapped
    obtain ⟨point, mapping, mapped⟩ := Api.bind_eq_ok_iff.1 mapped
    simp only [GazeSample.WithinLimits, gaze.valid] at limits
    obtain ⟨-, -, confidence, -⟩ := limits
    have producer : Api.isIdentifier "kiosk-video-coordinate-v1" = true := by decide
    have revision : Api.isRevision "video-coordinate-v1" = true := by decide
    simp only [mapGazeToVideoPoint, gaze.valid] at mapping
    obtain ⟨_, -, mapping⟩ := Api.bind_eq_ok_iff.1 mapping
    obtain ⟨_, -, mapping⟩ := Api.bind_eq_ok_iff.1 mapping
    have spec := mapsPoint_of_pos (x := gaze.screenXNorm * layout.viewportWidthPx)
      (y := gaze.screenYNorm * layout.viewportHeightPx) (recorded.layout _ _ found)
    rw [Except.ok.inj mapping] at spec
    rcases spec.result with rfl | ⟨u, v, rfl, across, down⟩
    · cases mapped
      refine .inr ⟨_, rfl, rfl, ?_⟩
      exact {
        videoXNorm := fun x known => by cases known
        videoYNorm := fun y known => by cases known
        confidence := confidence
        producerId := producer
        modelRevision := revision
        manifestVersion := recorded.manifestVersion
        candidatesBounded := Nat.zero_le _
        candidates := fun c listed => by cases listed
        outside := fun _ => ⟨rfl, rfl, rfl⟩
        inside := fun inside => by cases inside }
    · cases mapped
      refine .inr ⟨_, rfl, rfl, ?_⟩
      exact {
        videoXNorm := fun x known => by cases known; exact across
        videoYNorm := fun y known => by cases known; exact down
        confidence := confidence
        producerId := producer
        modelRevision := revision
        manifestVersion := recorded.manifestVersion
        candidatesBounded := Nat.zero_le _
        candidates := fun c listed => by cases listed
        outside := fun outside => by cases outside
        inside := fun _ => ⟨rfl, rfl⟩ }

end Parts

end Mkk.Kiosk
