import Mkk.Kiosk.PostedBatches

/-!
# The batches of a recording

The Kiosk writes the batches and the API has the rules. Every frame that is built from a recording follows
the rules (`posted_frame_valid`), the frames are in the order the API asks for (`Sent.inOrder`), and so
`batches_accepted_iff` says that the store accepts all batches of a recording in their order exactly when
every frame lies before the end of the media.
-/

namespace Mkk.Kiosk

open Lib

/-! ## Every frame -/

section Frames

variable {options : BuildOptions} {frames : List FusedFrame} {frame : FusedFrame} {k : ℕ}

/-- Frames that follow each other in the list do so in every other respect. -/
theorem Fused.inOrder (fused : Fused options frames) (recorded : Recorded options) :
    frames.Pairwise fun f g => f.playbackEpoch ≤ g.playbackEpoch ∧
      f.capturedAtMonoMs ≤ g.capturedAtMonoMs ∧
      (f.playbackEpoch = g.playbackEpoch → f.videoTimeMs ≤ g.videoTimeMs) := by
  refine fused.increasing.imp_of_mem fun {f g} before after less => ?_
  exact recorded.inOrder f.toFrameStamp ((fused.stamps _).2 ⟨f, before, rfl⟩) g.toFrameStamp
    ((fused.stamps _).2 ⟨g, after, rfl⟩) less

/-- An earlier frame was not captured later. -/
theorem Fused.capturedAt_le (fused : Fused options frames) (recorded : Recorded options)
    (here : frames[k]? = some frame) {j : ℕ} (early : j ≤ k) :
    capturedAt frames j ≤ frame.capturedAtMonoMs := by
  obtain ⟨inside, rfl⟩ := List.getElem?_eq_some_iff.1 here
  rw [capturedAt_of_getElem? (List.getElem?_eq_getElem (by omega : j < frames.length))]
  rcases Nat.lt_or_eq_of_le early with before | rfl
  · exact (List.pairwise_iff_getElem.1 (fused.inOrder recorded) j k _ inside before).2.1
  · exact le_rfl

theorem Fused.scores_withinLimits (fused : Fused options frames) (recorded : Recorded options)
    (here : frames[k]? = some frame) {expression : ValidExpression}
    (valid : frame.validExpression = some expression) : ScoresWithinLimits expression.scores := by
  have limits := recorded.expression _ (fused.mem_of_validExpression here valid)
  simp only [ExpressionSample.WithinLimits, expression.valid] at limits
  exact limits.1

/-- No label vanishes: the only label that every object inherits is none of the scores. -/
theorem Fused.not_vanishes (fused : Fused options frames) (recorded : Recorded options) : ¬Vanishes frames := by
  rintro ⟨k, previous, frame, expression, before, here, valid, free, label, inherited, sustained, -⟩
  have inLabel : label = "constructor" ∨ Api.isLabel label = false := by
    have each : ∀ name ∈ objectPrototypeNames, name = "constructor" ∨ Api.isLabel name = false := by decide
    exact each label inherited
  cases own : previous.validExpression with
  | none => rw [FusedFrame.sustains, own] at sustained; cases sustained
  | some earlier =>
    rw [sustains_eq own, strong] at sustained
    have limits := fused.scores_withinLimits recorded before own
    cases found : earlier.scores.get? label with
    | none => rw [found] at sustained; cases sustained
    | some score =>
      rcases inLabel with rfl | noLabel
      · rw [limits.own] at found
        cases found
      · have is := (limits.each _ (Dict.mem_entries_iff.2 found)).1
        rw [noLabel] at is
        cases is

/-- The gaze of a frame is one of the samples. -/
theorem fuseByFrameId_gaze {C : Type} [LinearOrder C] {collate : String → C}
    (fused : fuseByFrameId options collate = .ok frames) :
    ∀ f ∈ frames, ∀ g ∈ f.gaze, g ∈ options.gazeSamples := by
  obtain ⟨map, collected, fused⟩ := Api.bind_eq_ok_iff.1 fused
  obtain ⟨_, -, fused⟩ := Api.bind_eq_ok_iff.1 fused
  cases fused
  obtain ⟨seen, gazes, collected⟩ := Api.bind_eq_ok_iff.1 collected
  obtain ⟨known, missing, expressions⟩ := Api.bind_eq_ok_iff.1 collected
  have first : GazeRead ([] ++ options.gazeSamples) seen :=
    foldlM_reads (fun _ _ _ _ read before => before.add read) gazes fun k f => by simp
  have seenGaze : ∀ k f, seen.get? k = some f → f.gaze.isSome = true := by
    intro k f found
    obtain ⟨g, -, -, rfl⟩ := (first k f).1 found
    rfl
  have second : MissingRead seen ([] ++ options.gazeUnavailableSamples) known :=
    foldlM_reads (fun _ _ _ _ read before => before.add first.keyed seenGaze read) missing {
      kept := fun _ _ found => found
      read := fun _ listed => by cases listed
      only := fun _ _ found => .inl found }
  -- an expression leaves the gaze of its frame as it is
  let Read (frames : Dict String FusedFrame) : Prop := Keyed frames ∧
    ∀ k f, frames.get? k = some f → ∀ g ∈ f.gaze, g ∈ options.gazeSamples
  have before : Read known := by
    refine ⟨second.keyed first.keyed, fun k f found g own => ?_⟩
    rcases second.only k f found with old | ⟨u, -, -, rfl⟩
    · obtain ⟨g', listed, -, rfl⟩ := (first k f).1 old
      cases own
      exact listed
    · cases own
  have after : Read map := by
    refine Api.foldlM_keeps Read (fun sample _ frames frames' read kept => ?_) expressions before
    obtain ⟨frame, stamp, place, ⟨-, rfl⟩ | ⟨-, rfl⟩⟩ := addExpressionSample_eq_ok kept.1 read
    · exact kept
    · have own : ∀ g ∈ frame.gaze, g ∈ options.gazeSamples := by
        rcases place with ⟨-, rfl⟩ | present
        · exact fun g known => by cases known
        · exact kept.2 _ _ present
      constructor
      · intro k f found
        rw [Dict.get?_set] at found
        split_ifs at found with same
        · cases found
          rw [same, ← stamp]
        · exact kept.1 k f found
      · intro k f found
        rw [Dict.get?_set] at found
        split_ifs at found with same
        · cases found
          exact own
        · exact kept.2 k f found
  intro f member g own
  obtain ⟨k, found⟩ := Dict.mem_values_iff.1 (mem_sortOn.1 member)
  exact after.2 k f found g own

end Frames

/-! ## One observation -/

section One

variable {options : BuildOptions} {C : Type} [LinearOrder C] {collate : String → C} {firstCapturedAt : ℚ}
  {frames : List FusedFrame} {k : ℕ} {s s' : BuildState} {frame : FusedFrame} {o : FrameObservation}
  {number : Root → ℚ}

/-- The attention of an observation, its time, and the reasons of what it does not derive. -/
structure Placed (options : BuildOptions) (firstCapturedAt : ℚ) (s : BuildState) (frame : FusedFrame)
    (o : FrameObservation) (s' : BuildState) : Prop where
  offset : o.sessionOffsetMs = s'.lastSessionOffsetMs
  later : s'.lastSessionOffsetMs =
    max s.lastSessionOffsetMs (max 0 (frame.capturedAtMonoMs - firstCapturedAt))
  derivedGazeReason : o.derivedGazeReason = reasonUnless o.derivedGaze "source_gaze_unavailable"
  derivedExpressionReason :
    o.derivedExpressionReason = reasonUnless o.derivedExpression "source_expression_unavailable"
  attention : (o.attention = none ∧ o.attentionReason = some "source_gaze_unavailable") ∨
    ∃ gaze attention reason, frame.validGaze = some gaze ∧
      mapAttention options gaze.sample = .ok (attention, reason) ∧ o.attention = attention ∧
      o.attentionReason = attention.elim reason fun _ => none

theorem reasonUnless_map {α β : Type} (value : Option α) (f : α → β) (reason : String) :
    reasonUnless (value.map f) reason = reasonUnless value reason := by
  cases value with
  | none => rfl
  | some v => rfl

theorem observe_placed (observed : observe options collate firstCapturedAt s frame = .ok (o, s')) :
    Placed options firstCapturedAt s frame o s' := by
  unfold observe at observed
  cases valid : frame.validGaze with
  | none =>
    rw [valid] at observed
    cases observed
    exact ⟨rfl, rfl, rfl, (reasonUnless_map _ _ _).symm, .inl ⟨rfl, rfl⟩⟩
  | some gaze =>
    rw [valid] at observed
    obtain ⟨⟨attention, attentionReason⟩, mapped, observed⟩ := Api.bind_eq_ok_iff.1 observed
    cases observed
    exact ⟨rfl, rfl, rfl, (reasonUnless_map _ _ _).symm,
      .inr ⟨gaze, attention, attentionReason, valid, mapped, rfl, rfl⟩⟩

theorem reasonUnless_xor {α β : Type} (value : Option α) (f : α → β) (reason : String) :
    Api.ValueXorReason (value.map f) (reasonUnless value reason) := by
  cases value with
  | none => simp [reasonUnless]
  | some v => simp [reasonUnless]

theorem reasonUnless_ok {α : Type} {value : Option α} {reason : String}
    (ok : value = none → Api.isReason reason = true) : Api.ReasonOk (reasonUnless value reason) := by
  intro r known
  cases value with
  | none => cases known; exact ok rfl
  | some v => cases known

/-- A frame without a valid gaze has a reason. -/
theorem missingGaze_ok (recorded : Recorded options) (fused : Fused options frames)
    (gazes : ∀ f ∈ frames, ∀ g ∈ f.gaze, g ∈ options.gazeSamples) (member : frame ∈ frames)
    (missing : frame.validGaze = none) : Api.isReason frame.missingGaze = true := by
  cases own : frame.gaze with
  | none =>
    rw [FusedFrame.missingGaze, own]
    cases known : frame.gazeReason with
    | none => decide
    | some reason =>
      obtain ⟨u, listed, -, rfl⟩ := fused.reason frame member reason known
      exact recorded.unavailable u listed
  | some g =>
    have limits := recorded.gaze g (gazes frame member g own)
    cases outcome : g.outcome with
    | valid x y =>
      rw [validGaze_of_valid own outcome] at missing
      cases missing
    | invalid reason =>
      rw [(validGaze_of_invalid own outcome).2]
      simpa only [GazeSample.WithinLimits, outcome] using limits

/-- A frame without a valid expression has a reason. -/
theorem missingExpression_ok (recorded : Recorded options) (fused : Fused options frames)
    (member : frame ∈ frames) (missing : frame.validExpression = none) :
    Api.isReason frame.missingExpression = true := by
  cases own : frame.expression with
  | none =>
    rw [FusedFrame.missingExpression, own]
    decide
  | some e =>
    have limits := recorded.expression e (fused.ofExpression frame member e own).1
    cases outcome : e.outcome with
    | valid scores =>
      rw [validExpression_of_valid own outcome] at missing
      cases missing
    | invalid detected count reason =>
      rw [(validExpression_of_invalid own outcome).2]
      simpa only [ExpressionSample.WithinLimits, outcome] using limits

/-- An action that is sustained is a label of the frame's scores, and it has not begun later. -/
theorem sustainedAction_strong (recorded : Recorded options) (fused : Fused options frames)
    (h : StateAt frames k s) (here : frames[k]? = some frame) (one : Step collate s frame o s')
    {expression : ValidExpression} (valid : frame.validExpression = some expression)
    {derived : ExpressionDerived} (own : o.derivedExpression = some derived)
    {action : SustainedAction} (listed : action ∈ derived.sustainedActions) :
    action.signal ∈ expression.scores.keys ∧ 0 ≤ action.durationMs := by
  have known := (h.step fused.stamped here one).1.derivedExpression (fused.not_vanishes recorded) _ own
    action listed
  rw [sustainedSince] at known
  split_ifs at known with sustained
  rw [sustains_eq valid, strong] at sustained
  constructor
  · cases found : expression.scores.get? action.signal with
    | none => rw [found] at sustained; cases sustained
    | some score => exact Dict.mem_keys_iff.2 ⟨score, found⟩
  · have early := fused.capturedAt_le recorded here ((labelSignal frames action.signal).start_le k)
    have := Option.some.inj known
    linarith

/-- The expression that is derived follows the rules. -/
theorem derivedExpression_posted (recorded : Recorded options) (fused : Fused options frames)
    (h : StateAt frames k s) (here : frames[k]? = some frame) (one : Step collate s frame o s') :
    ∃ derived, postedExpression o.derivedExpression = some derived ∧ (∀ d ∈ derived, d.Valid) ∧
      derived.isNone = o.derivedExpression.isNone := by
  cases valid : frame.validExpression with
  | none =>
    have missing : o.derivedExpression = none := by rw [one.derivedExpression, valid]; rfl
    rw [missing]
    refine ⟨none, rfl, ?_, rfl⟩
    intro d known
    cases known
  | some expression =>
    have limits := fused.scores_withinLimits recorded here valid
    have derived : o.derivedExpression = some (buildExpressionDerived collate expression frame.toFrameStamp
        s.expressionContinuity s.expressionWasReset).1 := by
      rw [one.derivedExpression, valid]
      rfl
    have before (p) (known : s.expressionContinuity = some p) : ScoresWithinLimits p.expression.scores := by
      obtain ⟨j, previous, -, before, own, -⟩ := h.expression p known
      exact fused.scores_withinLimits recorded before own
    have once := nodup_sustainedActions collate expression frame.toFrameStamp s.expressionContinuity
      s.expressionWasReset
    have known : (buildExpressionDerived collate expression frame.toFrameStamp s.expressionContinuity
        s.expressionWasReset).1.sustainedActions.map (·.signal) ⊆ expression.scores.keys := by
      intro signal listed
      obtain ⟨action, member, rfl⟩ := List.mem_map.1 listed
      exact (sustainedAction_strong recorded fused h here one valid derived member).1
    have few := (once.subperm known).length_le
    rw [List.length_map, Dict.keys, List.length_map] at few
    obtain ⟨posted, read, ok⟩ := buildExpressionDerived_posted collate limits before (few.trans limits.few)
      (fun action listed => by
        obtain ⟨named, positive⟩ := sustainedAction_strong recorded fused h here one valid derived listed
        obtain ⟨score, found⟩ := Dict.mem_keys_iff.1 named
        exact ⟨(limits.each _ (Dict.mem_entries_iff.2 found)).1, positive⟩)
    refine ⟨some posted, ?_, ?_, ?_⟩
    · rw [derived, postedExpression, read]
      rfl
    · rintro d ⟨⟩
      exact ok
    · rw [derived]
      rfl

/-- The gaze that is derived follows the rules. -/
theorem derivedGaze_posted (positive : ∀ r, 0 ≤ number r) (recorded : Recorded options)
    (fused : Fused options frames) (h : StateAt frames k s) (here : frames[k]? = some frame)
    (one : Step collate s frame o s') :
    ∀ d ∈ o.derivedGaze.map fun d => d.posted number, d.Valid := by
  intro d known
  obtain ⟨own, derived, rfl⟩ := Option.map_eq_some_iff.1 known
  rw [one.derivedGaze] at derived
  obtain ⟨gaze, valid, rfl⟩ := Option.map_eq_some_iff.1 derived
  apply buildGazeDerived_valid positive
  rw [(h.gazeDerived fused.stamped here valid).2.1]
  exact sub_nonneg.2 (fused.capturedAt_le recorded here ((gazeSignal frames).start_le k))

/-- The stamp of what is sent. -/
def sentStamp (p : Api.FrameObservationV2) : FrameStamp where
  frameId := p.frameId
  sequence := p.sequence
  capturedAtMonoMs := p.capturedAtMonoMs
  videoTimeMs := p.videoTimeMs
  playbackEpoch := p.playbackEpoch

theorem sentStamp_posted {p : Api.FrameObservationV2} (posted : o.posted number = some p) :
    sentStamp p = o.toFrameStamp ∧ p.sessionOffsetMs = o.sessionOffsetMs := by
  obtain ⟨derived, -, same⟩ := Option.bind_eq_some_iff.1 posted
  cases same
  exact ⟨rfl, rfl⟩

/-- The sample of a frame's valid gaze is within the limits. -/
theorem validGaze_withinLimits (recorded : Recorded options)
    (gazes : ∀ f ∈ frames, ∀ g ∈ f.gaze, g ∈ options.gazeSamples) (member : frame ∈ frames)
    {gaze : ValidGaze} (valid : frame.validGaze = some gaze) : gaze.sample.WithinLimits := by
  obtain ⟨g, own, valid⟩ := Option.bind_eq_some_iff.1 valid
  rw [GazeSample.valid?_eq_some valid]
  exact recorded.gaze g (gazes frame member g own)

/-- The attention that is sent follows the rules, and where there is none there is a reason. -/
theorem attention_posted (recorded : Recorded options)
    (gazes : ∀ f ∈ frames, ∀ g ∈ f.gaze, g ∈ options.gazeSamples) (member : frame ∈ frames)
    (placed : Placed options firstCapturedAt s frame o s') :
    (o.attention = none ∧ ∃ r, o.attentionReason = some r ∧ Api.isReason r = true) ∨
      ∃ a, o.attention = some a ∧ o.attentionReason = none ∧ frame.validGaze.isSome = true ∧
        a.manifestVersion = options.manifestVersion ∧ a.posted.Valid := by
  rcases placed.attention with ⟨missing, reason⟩ | ⟨gaze, attention, reason, valid, mapped, own, ownReason⟩
  · exact .inl ⟨missing, _, reason, by decide⟩
  · have limits := validGaze_withinLimits recorded gazes member valid
    rcases mapAttention_posted recorded limits mapped with ⟨rfl, r, rfl, ok⟩ | ⟨a, rfl, manifest, ok⟩
    · exact .inl ⟨own, r, ownReason, ok⟩
    · exact .inr ⟨a, own, ownReason, by rw [valid]; rfl, manifest, ok⟩

/-- **A frame** of recorded samples follows every rule of the API. -/
theorem posted_frame_valid (positive : ∀ r, 0 ≤ number r) (recorded : Recorded options)
    (fused : Fused options frames) (gazes : ∀ f ∈ frames, ∀ g ∈ f.gaze, g ∈ options.gazeSamples)
    (h : StateAt frames k s) (offset : 0 ≤ s.lastSessionOffsetMs) (here : frames[k]? = some frame)
    (observed : observe options collate firstCapturedAt s frame = .ok (o, s')) :
    ∃ p, o.posted number = some p ∧ p.Valid ∧ p.KioskAttention options.manifestVersion := by
  have one := observe_eq_ok observed
  have placed := observe_placed observed
  have member := List.mem_of_getElem? here
  obtain ⟨derived, read, derivedValid, same⟩ := derivedExpression_posted recorded fused h here one
  obtain ⟨frameId, captured⟩ := recorded.stamps frame.toFrameStamp ((fused.stamps _).2 ⟨frame, member, rfl⟩)
  have attention := attention_posted recorded gazes member placed
  have unavailable : Api.isReason "source_gaze_unavailable" = true := by decide
  have unavailable' : Api.isReason "source_expression_unavailable" = true := by decide
  refine ⟨_, by rw [FrameObservation.posted, read]; rfl, ?_, ?_⟩
  · exact {
      frameId := by rw [one.stamp]; exact frameId
      capturedAtMonoMs := by rw [one.stamp]; exact captured
      sessionOffsetMs := by
        rw [placed.offset, placed.later]
        exact offset.trans (le_max_left _ _)
      gaze := by
        intro g known
        rw [one.gaze, Option.map_map] at known
        obtain ⟨gaze, valid, rfl⟩ := Option.map_eq_some_iff.1 known
        have limits := validGaze_withinLimits recorded gazes member valid
        simp only [GazeSample.WithinLimits, gaze.valid] at limits
        obtain ⟨x, y, confidence, producer, revision, calibration⟩ := limits
        exact ⟨x, y, confidence, producer, revision, calibration⟩
      attention := by
        intro a known
        rcases attention with ⟨missing, -⟩ | ⟨own, there, -, -, -, ok⟩
        · rw [missing] at known
          cases known
        · rw [there] at known
          cases known
          exact ok
      expression := by
        intro e known
        rw [one.expression, Option.map_map] at known
        obtain ⟨expression, valid, rfl⟩ := Option.map_eq_some_iff.1 known
        have limits := recorded.expression _ (fused.mem_of_validExpression here valid)
        simp only [ExpressionSample.WithinLimits, expression.valid] at limits
        obtain ⟨scores, quality, confidence, producer, revision, taxonomy⟩ := limits
        exact {
          scoresNonempty := fun empty => scores.nonempty (SortedDict.ofDict_eq_nil.1 empty)
          scores := fun e listed => scores.each e (SortedDict.mem_ofDict.1 listed)
          quality := quality
          confidence := confidence
          producerId := producer
          modelRevision := revision
          taxonomyVersion := taxonomy }
      derived := by
        rintro d ⟨⟩
        exact {
          gaze := derivedGaze_posted positive recorded fused h here one
          expression := derivedValid
          gazeReasonOk := by
            rw [placed.derivedGazeReason]
            exact reasonUnless_ok fun _ => unavailable
          expressionReasonOk := by
            rw [placed.derivedExpressionReason]
            exact reasonUnless_ok fun _ => unavailable'
          gazeXorReason := by
            rw [placed.derivedGazeReason]
            exact reasonUnless_xor _ _ _
          expressionXorReason := by
            rw [Api.ValueXorReason, same, placed.derivedExpressionReason]
            simpa only [Option.map_id_fun, id_eq] using reasonUnless_xor o.derivedExpression id _ }
      gazeReasonOk := by
        rw [one.gazeReason]
        exact reasonUnless_ok (missingGaze_ok recorded fused gazes member)
      attentionReasonOk := by
        rcases attention with ⟨-, r, reason, ok⟩ | ⟨-, -, reason, -⟩
        · rw [reason]
          rintro r' ⟨⟩
          exact ok
        · rw [reason]
          intro r' known
          cases known
      expressionReasonOk := by
        rw [one.expressionReason]
        exact reasonUnless_ok (missingExpression_ok recorded fused member)
      derivedReasonOk := fun r known => by cases known
      xor := {
        gaze := by
          rw [one.gaze, one.gazeReason, Option.map_map]
          exact reasonUnless_xor _ _ _
        attention := by
          rcases attention with ⟨missing, r, reason, -⟩ | ⟨a, there, reason, -⟩
          · simp [missing, reason]
          · simp [there, reason]
        expression := by
          rw [one.expression, one.expressionReason, Option.map_map]
          exact reasonUnless_xor _ _ _
        derived := by simp } }
  · rcases attention with ⟨missing, -⟩ | ⟨a, there, -, seen, manifest, -⟩
    · constructor
      · simp [missing]
      · simp [missing]
      · simp [missing]
    · constructor
      · simp [one.gaze, seen]
      · simp [there, AttentionObservation.posted, manifest]
      · simp [there, AttentionObservation.posted]

end One

/-! ## All observations -/

/-- What is sent of some frames. -/
structure Sent (options : BuildOptions) (frames : List FusedFrame) (sent : List Api.FrameObservationV2) :
    Prop where
  valid : ∀ p ∈ sent, p.Valid
  own : ∀ p ∈ sent, p.KioskAttention options.manifestVersion
  stamps : sent.map sentStamp = frames.map (·.toFrameStamp)
  offsets : sent.Pairwise fun p q => p.sessionOffsetMs ≤ q.sessionOffsetMs

section All

variable {options : BuildOptions} {C : Type} [LinearOrder C] {collate : String → C} {firstCapturedAt : ℚ}
  {frames : List FusedFrame} {n : ℕ} {s : BuildState} {number : Root → ℚ}

/-- **The frames that are left** are sent, each by the rules. -/
theorem StateAt.sent (positive : ∀ r, 0 ≤ number r) (recorded : Recorded options)
    (fused : Fused options frames) (gazes : ∀ f ∈ frames, ∀ g ∈ f.gaze, g ∈ options.gazeSamples)
    {rest : List FusedFrame} {observations : List FrameObservation} (h : StateAt frames n s)
    (offset : 0 ≤ s.lastSessionOffsetMs) (left : frames.drop n = rest)
    (all : observeAll options collate firstCapturedAt s rest = .ok observations) :
    ∃ sent, List.Forall₂ (fun o p => o.posted number = some p) observations sent ∧ Sent options rest sent ∧
      ∀ p ∈ sent, s.lastSessionOffsetMs ≤ p.sessionOffsetMs := by
  induction rest generalizing n s observations with
  | nil =>
    cases all
    refine ⟨[], .nil, ⟨?_, ?_, rfl, List.Pairwise.nil⟩, ?_⟩
    · exact fun p listed => by cases listed
    · exact fun p listed => by cases listed
    · exact fun p listed => by cases listed
  | cons frame rest ih =>
    obtain ⟨⟨o, next⟩, one, more⟩ := Api.bind_eq_ok_iff.1 all
    obtain ⟨later, others, built⟩ := Api.bind_eq_ok_iff.1 more
    cases built
    have here : frames[n]? = some frame := by
      have first : (frames.drop n)[0]? = some frame := by rw [left]; rfl
      rwa [List.getElem?_drop] at first
    obtain ⟨p, posted, valid, own⟩ := posted_frame_valid positive recorded fused gazes h offset here one
    have placed := observe_placed one
    have grows : s.lastSessionOffsetMs ≤ next.lastSessionOffsetMs := by
      rw [placed.later]
      exact le_max_left _ _
    obtain ⟨stamp, time⟩ := sentStamp_posted posted
    have time : p.sessionOffsetMs = next.lastSessionOffsetMs := time.trans placed.offset
    obtain ⟨sent, each, rules, after⟩ := ih (h.step fused.stamped here (observe_eq_ok one)).2
      (offset.trans grows) (by rw [← List.tail_drop, left]; rfl) others
    refine ⟨p :: sent, .cons posted each, ⟨?_, ?_, ?_, ?_⟩, ?_⟩
    · exact List.forall_mem_cons.2 ⟨valid, rules.valid⟩
    · exact List.forall_mem_cons.2 ⟨own, rules.own⟩
    · rw [List.map_cons, List.map_cons, rules.stamps, stamp, (observe_eq_ok one).stamp]
    · exact List.pairwise_cons.2 ⟨fun q listed => time ▸ after q listed, rules.offsets⟩
    · refine List.forall_mem_cons.2 ⟨time ▸ grows, fun q listed => grows.trans (after q listed)⟩

/-- What is sent is in the order the API asks for. -/
theorem Sent.inOrder {sent : List Api.FrameObservationV2} (h : Sent options frames sent)
    (recorded : Recorded options) (fused : Fused options frames) : Api.InOrder sent := by
  have ordered := fused.increasing.and (fused.inOrder recorded)
  have stamps : (sent.map sentStamp).Pairwise fun a b => a.sequence < b.sequence ∧
      a.playbackEpoch ≤ b.playbackEpoch ∧ a.capturedAtMonoMs ≤ b.capturedAtMonoMs ∧
      (a.playbackEpoch = b.playbackEpoch → a.videoTimeMs ≤ b.videoTimeMs) := by
    rw [h.stamps]
    exact List.pairwise_map.2 ordered
  constructor
  · refine ((List.pairwise_map.1 stamps).and h.offsets).imp ?_
    rintro p q ⟨⟨sequence, epoch, captured, time⟩, offset⟩
    exact ⟨sequence, epoch, captured, offset, time⟩
  · refine List.Nodup.of_map (fun key => toString key.1 ++ ":" ++ key.2) ?_
    have keys : (sent.map sentStamp).map FrameStamp.key = frames.map (·.key) := by
      rw [h.stamps, List.map_map]
      rfl
    rw [List.map_map] at keys ⊢
    have same : sent.map (FrameStamp.key ∘ sentStamp) =
        sent.map ((fun key => toString key.1 ++ ":" ++ key.2) ∘ Api.FrameObservationV2.key) := rfl
    rw [← same, keys]
    exact fused.distinct

/-- Each stamp of the samples is one frame. -/
theorem Fused.length_eq (fused : Fused options frames) : frames.length = options.stamps.toFinset.card := by
  have distinct : (frames.map (·.toFrameStamp)).Nodup := by
    refine List.Nodup.of_map FrameStamp.key ?_
    rw [List.map_map]
    exact fused.distinct
  have same : (frames.map (·.toFrameStamp)).toFinset = options.stamps.toFinset := by
    ext stamp
    rw [List.mem_toFinset, List.mem_toFinset, fused.stamps stamp, List.mem_map]
  rw [← same, List.toFinset_card_of_nodup distinct, List.length_map]

end All

/-! ## All batches -/

section Batches

variable {options : BuildOptions} {C : Type} [LinearOrder C] {collate : String → C} {number : Root → ℚ}
  {frames : List FusedFrame} {observations : List FrameObservation} {sent : List Api.FrameObservationV2}

theorem mapM_of_forall₂ {α β : Type} {f : α → Option β} {l : List α} {l' : List β}
    (each : List.Forall₂ (fun a b => f a = some b) l l') : l.mapM f = some l' := by
  induction each with
  | nil => rfl
  | cons head _ ih =>
    rw [List.mapM_cons, head, ih]
    rfl

theorem forall₂_chunks {α β : Type} {R : α → β → Prop} {l : List α} {l' : List β}
    (each : List.Forall₂ R l l') : List.Forall₂ (List.Forall₂ R) (chunks l) (chunks l') := by
  induction l using chunks.induct generalizing l' with
  | case1 =>
    cases each
    rw [chunks, chunks]
    exact .nil
  | case2 a rest ih =>
    cases each with
    | cons head tail =>
      have both := List.Forall₂.cons head tail
      rw [chunks, chunks]
      exact .cons (List.forall₂_take _ both) (ih (List.forall₂_drop _ both))

/-- Up to 512 observations are at most two batches. -/
theorem length_chunks_le {α : Type} {l : List α} (few : l.length ≤ 512) : (chunks l).length ≤ 2 := by
  cases l with
  | nil => rw [chunks]; exact Nat.zero_le _
  | cons a rest =>
    rw [chunks, List.length_cons]
    cases left : (a :: rest).drop maxObservationsPerBatch with
    | nil => rw [chunks]; exact Nat.le_succ _
    | cons b more =>
      have length : (b :: more).length = (a :: rest).length - 256 := by
        rw [← left, List.length_drop, maxObservationsPerBatch]
      have none : (b :: more).drop maxObservationsPerBatch = [] := by
        rw [List.drop_eq_nil_iff, maxObservationsPerBatch]
        omega
      rw [chunks, none, chunks]
      exact le_rfl

theorem ne_nil_of_mem_chunks {α : Type} {l piece : List α} (listed : piece ∈ chunks l) : piece ≠ [] := by
  induction l using chunks.induct with
  | case1 =>
    rw [chunks] at listed
    cases listed
  | case2 a rest ih =>
    rw [chunks] at listed
    rcases List.mem_cons.1 listed with rfl | later
    · simp [maxObservationsPerBatch]
    · exact ih later

/-- The batch that is posted for a batch. -/
structure Posts (number : Root → ℚ) (batch : ObservationBatch) (post : Api.ObservationBatchV2) : Prop where
  posted : batch.posted number = some post
  batchId : post.batchId = batch.batchId
  batchSequence : post.batchSequence = batch.batchSequence
  sessionId : post.sessionId = batch.sessionId
  videoId : post.videoId = batch.videoId

theorem posts_of_fields {batch : ObservationBatch}
    (each : List.Forall₂ (fun o p => FrameObservation.posted number o = some p) batch.observations sent)
    (fields : BatchFields batch.batchId batch.sessionId batch.videoId sent) :
    ∃ post, Posts number batch post ∧ post.observations = sent := by
  refine ⟨{
    batchId := batch.batchId
    batchSequence := batch.batchSequence
    sessionId := batch.sessionId
    videoId := batch.videoId
    observations := sent
    batchIdOk := fields.1
    sessionIdOk := fields.2.1
    videoIdOk := fields.2.2.1
    bounded := fields.2.2.2.1
    framesValid := fields.2.2.2.2 }, ⟨?_, rfl, rfl, rfl, rfl⟩, rfl⟩
  rw [ObservationBatch.posted, mapM_of_forall₂ each, Option.bind_eq_bind, Option.bind_some, dif_pos fields]
  rfl

/-- The id of each batch is an identifier. -/
theorem batchId_ok (recorded : Recorded options) {chunk : List FrameObservation} {i : ℕ} (early : i < 2) :
    Api.isIdentifier (batchOf options chunk i).batchId = true := by
  obtain ⟨ok, short⟩ := recorded.batchId
  rw [batchOf]
  dsimp only
  split_ifs with first
  · exact ok
  · obtain rfl : i = 1 := by omega
    have suffix : options.batchId ++ "-" ++ toString (1 + 1) = options.batchId ++ "-2" :=
      String.append_assoc
    rw [suffix]
    refine Api.isIdentifier_append ok (List.all_eq_true.1 (by decide +kernel)) ?_
    have length : "-2".length = 2 := rfl
    omega

/-- **The batches of a recording** are posted with all frames in their order. -/
theorem exists_posts (recorded : Recorded options) (fused : Fused options frames)
    (rules : Sent options frames sent)
    (each : List.Forall₂ (fun o p => FrameObservation.posted number o = some p) observations sent) :
    ∃ posts, List.Forall₂ (Posts number) (batchesOf options observations) posts ∧
      posts.flatMap (·.observations) = sent := by
  have few : sent.length ≤ 512 := by
    have := congrArg List.length rules.stamps
    rw [List.length_map, List.length_map, fused.length_eq] at this
    rw [this]
    exact recorded.few
  have pieces := forall₂_chunks each
  have count : (chunks observations).length ≤ 2 := length_chunks_le (each.length_eq ▸ few)
  have flat := flatten_chunks sent
  have nonempty (piece) (listed : piece ∈ chunks sent) : piece ≠ [] := ne_nil_of_mem_chunks listed
  have bounded (piece) (listed : piece ∈ chunks sent) : piece.length ≤ 256 := length_le_of_mem_chunks listed
  have valid (piece) (listed : piece ∈ chunks sent) (p) (own : p ∈ piece) : p ∈ sent := by
    rw [← flat]
    exact List.mem_flatten.2 ⟨piece, listed, own⟩
  generalize chunks sent = sentChunks at pieces flat nonempty bounded valid
  have batches (i : ℕ) (inside : i < (chunks observations).length) (inside' : i < sentChunks.length) :
      ∃ post, Posts number (batchOf options (chunks observations)[i] i) post ∧
        post.observations = sentChunks[i] := by
    have listed : sentChunks[i] ∈ sentChunks := List.getElem_mem inside'
    apply posts_of_fields
    · exact (List.forall₂_iff_get.1 pieces).2 i inside inside'
    · refine ⟨batchId_ok recorded (by omega), recorded.sessionId, recorded.videoId, ⟨?_, bounded _ listed⟩, ?_⟩
      · exact List.length_pos_iff.2 (nonempty _ listed)
      · exact fun p own => rules.valid p (valid _ listed p own)
  have same := pieces.length_eq
  choose post posts own using batches
  refine ⟨List.ofFn fun i : Fin (chunks observations).length => post i i.2 (same ▸ i.2), ?_, ?_⟩
  · rw [List.forall₂_iff_get]
    refine ⟨by simp [batchesOf], fun i inside inside' => ?_⟩
    rw [batchesOf, List.length_mapIdx] at inside
    simpa [batchesOf] using posts i inside (same ▸ inside)
  · rw [List.flatMap_def, ← flat]
    congr 1
    apply List.ext_getElem
    · simp [same]
    · intro i inside inside'
      simpa using own i (same ▸ inside') inside'

theorem map_eq_of_forall₂ {α β γ : Type} {R : α → β → Prop} {f : α → γ} {g : β → γ} {l : List α} {l' : List β}
    (each : List.Forall₂ R l l') (same : ∀ a b, R a b → f a = g b) : l.map f = l'.map g := by
  induction each with
  | nil => rfl
  | cons head _ ih => rw [List.map_cons, List.map_cons, same _ _ head, ih]

/-- The batches of a recording as they are posted. -/
structure PostedAs (options : BuildOptions) (number : Root → ℚ) (batches : List ObservationBatch)
    (posts : List Api.ObservationBatchV2) : Prop where
  each : List.Forall₂ (Posts number) batches posts
  inOrder : Api.InOrder (posts.flatMap (·.observations))
  few : (posts.flatMap (·.observations)).length ≤ 512
  ids : (posts.map (·.batchId)).Nodup
  sequences : (posts.map (·.batchSequence)).Nodup
  session : ∀ post ∈ posts, post.sessionId = options.sessionId ∧ post.videoId = options.manifestVideoId
  attention : ∀ o ∈ posts.flatMap (·.observations), o.KioskAttention options.manifestVersion
  stamps : ∀ stamp, stamp ∈ options.stamps ↔ ∃ o ∈ posts.flatMap (·.observations), sentStamp o = stamp

/-- **Every recording** that is cut into batches is posted in order and by the rules. -/
theorem exists_postedAs {batches : List ObservationBatch} (recorded : Recorded options)
    (built : buildObservationBatchesV2 options collate = .ok batches) (positive : ∀ r, 0 ≤ number r) :
    ∃ posts, PostedAs options number batches posts := by
  obtain ⟨observations, observed, built⟩ := Api.bind_eq_ok_iff.1 built
  obtain rfl : batches = batchesOf options observations := (Except.ok.inj built).symm
  obtain ⟨frames, fusion, all⟩ := Api.bind_eq_ok_iff.1 observed
  have fused := fuseByFrameId_fused fusion
  obtain ⟨sent, each, rules, -⟩ := stateAt_zero.sent positive recorded fused (fuseByFrameId_gaze fusion)
    le_rfl (show frames.drop 0 = frames from rfl) all
  obtain ⟨posts, posting, whole⟩ := exists_posts recorded fused rules each
  have ids : (batchesOf options observations).map (·.batchId) = posts.map (·.batchId) :=
    map_eq_of_forall₂ posting fun b p same => same.batchId.symm
  have sequences : (batchesOf options observations).map (·.batchSequence) = posts.map (·.batchSequence) :=
    map_eq_of_forall₂ posting fun b p same => same.batchSequence.symm
  have sessions : (batchesOf options observations).map (fun b => (b.sessionId, b.videoId)) =
      posts.map fun p => (p.sessionId, p.videoId) :=
    map_eq_of_forall₂ posting fun b p same => by rw [same.sessionId, same.videoId]
  refine ⟨posts, {
    each := posting
    inOrder := by rw [whole]; exact rules.inOrder recorded fused
    few := by
      have count := congrArg List.length rules.stamps
      rw [List.length_map, List.length_map, fused.length_eq] at count
      rw [whole, count]
      exact recorded.few
    ids := by rw [← ids]; exact batchesOf_batchIds
    sequences := by rw [← sequences, batchesOf_sequences]; exact List.nodup_range'
    session := ?_
    attention := by rw [whole]; exact rules.own
    stamps := ?_ }⟩
  · intro post listed
    have known : (post.sessionId, post.videoId) ∈ posts.map fun p => (p.sessionId, p.videoId) :=
      List.mem_map_of_mem listed
    rw [← sessions] at known
    obtain ⟨batch, member, same⟩ := List.mem_map.1 known
    obtain ⟨i, inside, rfl⟩ := List.mem_mapIdx.1 member
    exact ⟨(congrArg Prod.fst same).symm, (congrArg Prod.snd same).symm⟩
  · intro stamp
    rw [fused.stamps stamp, whole, ← List.mem_map, ← rules.stamps, List.mem_map]

end Batches

/-! ## Posting -/

/-- The batches are posted one after the other, each at its time: every answer, and the sessions. -/
def postAll (env : Api.StoreEnv) (number : Root → ℚ) (sessionId : String) :
    Api.Sessions → List (ℚ × ObservationBatch) →
      List (Option (Except Api.PyError Api.ObservationBatchAcceptedV2)) × Api.Sessions
  | states, [] => ([], states)
  | states, (now, batch) :: rest =>
    match batch.posted number with
    | none =>
      let (answers, states) := postAll env number sessionId states rest
      (none :: answers, states)
    | some post =>
      let (answer, states) := Api.deliver env sessionId states ⟨now, some false, post⟩
      let (answers, states) := postAll env number sessionId states rest
      (some answer :: answers, states)

/-- The answer to a batch that was accepted. -/
def acceptedAnswer (batch : ObservationBatch) : Option (Except Api.PyError Api.ObservationBatchAcceptedV2) :=
  some (.ok ⟨batch.batchId, .accepted⟩)

/-- What is held after items came at these times, when all is forgotten that nothing followed in time. -/
def heldAfter {α : Type} (ttl : ℚ) : ℚ → List α → List (ℚ × α) → List α
  | _, held, [] => held
  | expiresAt, held, (now, item) :: rest =>
    heldAfter ttl (now + ttl) ((if now < expiresAt then held else []) ++ [item]) rest

/-- Each time is before the one before it expires. -/
def Prompt (ttl : ℚ) (times : List ℚ) : Prop := times.IsChain fun before now => now < before + ttl

section Held

variable {α β : Type} {ttl expiresAt : ℚ}

/-- Items that all come in time are all held. -/
theorem heldAfter_of_prompt {before : ℚ} {held : List α} {turns : List (ℚ × α)}
    (prompt : Prompt ttl (before :: turns.map Prod.fst)) :
    heldAfter ttl (before + ttl) held turns = held ++ turns.map Prod.snd := by
  induction turns generalizing before held with
  | nil => rw [heldAfter, List.map_nil, List.append_nil]
  | cons turn rest ih =>
    obtain ⟨inTime, later⟩ := List.isChain_cons_cons.1 prompt
    rw [heldAfter, if_pos inTime, ih later, List.map_cons, List.append_assoc]
    rfl

theorem heldAfter_new {turns : List (ℚ × α)} (prompt : Prompt ttl (turns.map Prod.fst)) :
    heldAfter ttl expiresAt [] turns = turns.map Prod.snd := by
  cases turns with
  | nil => rfl
  | cons turn rest =>
    rw [heldAfter, ite_self, List.nil_append, heldAfter_of_prompt prompt]
    rfl

/-- Items that go together are held together. -/
theorem forall₂_heldAfter {R : α → β → Prop} {times : List ℚ} {l : List α} {l' : List β} {held : List α}
    {held' : List β} (each : List.Forall₂ R l l') (before : List.Forall₂ R held held') :
    List.Forall₂ R (heldAfter ttl expiresAt held (times.zip l)) (heldAfter ttl expiresAt held' (times.zip l')) := by
  induction each generalizing times expiresAt held held' with
  | nil =>
    rw [List.zip_nil_right, List.zip_nil_right]
    exact before
  | cons one _ ih =>
    cases times with
    | nil => exact before
    | cons now times =>
      refine ih (List.rel_append ?_ (.cons one .nil))
      split_ifs
      · exact before
      · exact .nil

end Held

section Posting

variable {env : Api.StoreEnv} {number : Root → ℚ} {sessionId : String} {states : Api.Sessions}
  {context : Api.SessionRecommendationContext} {batches : List ObservationBatch} {times : List ℚ}
  {done posts : List Api.ObservationBatchV2} {post : Api.ObservationBatchV2} {expiresAt now : ℚ}

theorem postAll_cons {batch : ObservationBatch} {turns : List (ℚ × ObservationBatch)}
    (posted : batch.posted number = some post) : postAll env number sessionId states ((now, batch) :: turns) =
      (some (Api.deliver env sessionId states ⟨now, some false, post⟩).1 ::
        (postAll env number sessionId (Api.deliver env sessionId states ⟨now, some false, post⟩).2 turns).1,
      (postAll env number sessionId (Api.deliver env sessionId states ⟨now, some false, post⟩).2 turns).2) := by
  rw [postAll, posted]

/-- The session holds these batches until it expires, or is not known. -/
structure HeldUntil (env : Api.StoreEnv) (sessionId : String) (expiresAt : ℚ)
    (done : List Api.ObservationBatchV2) (states : Api.Sessions) : Prop where
  took : ∀ now, Api.Buffered env sessionId done states now
  expires : ∀ s, states.get? sessionId = some s → s.expiresAt = expiresAt
  known : states.get? sessionId = none → done = []

/-- The sweep leaves the session, or what it held is gone. -/
theorem HeldUntil.sweep (h : HeldUntil env sessionId expiresAt done states) (later : ℚ) :
    Api.Buffered env sessionId (if now < expiresAt then done else []) (Api.cleanupExpired states now) later := by
  have swept : (Api.cleanupExpired states now).get? sessionId =
      (states.get? sessionId).filter fun s => decide (now < s.expiresAt) := by
    rw [Api.cleanupExpired, Dict.get?_filter]
  cases found : states.get? sessionId with
  | none =>
    rw [found] at swept
    rw [h.known found, ite_self]
    exact .unknown swept
  | some s =>
    rw [found, Option.filter_some, h.expires s found] at swept
    split_ifs with inTime
    · rw [if_pos (decide_eq_true inTime), ← found] at swept
      exact (h.took later).of_get? swept
    · rw [if_neg (by simpa using inTime)] at swept
      exact .unknown swept

/-- **Batches in order** that pass the checks before the lock are all accepted, whenever they come. -/
theorem postAll_accepted (each : List.Forall₂ (Posts number) batches posts) (clock : times.length = batches.length)
    (holds : HeldUntil env sessionId expiresAt done states) (together : Api.BatchesInOrder (done ++ posts))
    (passed : ∀ post ∈ posts, Api.checkBatch env sessionId (some false) post = .ok context) :
    (postAll env number sessionId states (times.zip batches)).1 = batches.map acceptedAnswer ∧
      ∀ now, Api.Buffered env sessionId (heldAfter env.config.collectingTtl expiresAt done (times.zip posts))
        (postAll env number sessionId states (times.zip batches)).2 now := by
  induction each generalizing done states times expiresAt with
  | nil =>
    rw [List.zip_nil_right, List.zip_nil_right]
    exact ⟨rfl, holds.took⟩
  | @cons batch post batches posts one more ih =>
    cases times with
    | nil => cases clock
    | cons now times =>
      set kept := if now < expiresAt then done else [] with is
      -- what the sweep leaves are the last of the batches, so the next one still follows in order
      obtain ⟨gone, split⟩ : ∃ gone, done = gone ++ kept := by
        rw [is]
        split_ifs
        · exact ⟨[], rfl⟩
        · exact ⟨done, (List.append_nil done).symm⟩
      have next : done ++ post :: posts = gone ++ (kept ++ [post] ++ posts) := by
        rw [split, List.append_assoc, List.append_assoc, List.singleton_append]
      rw [next] at together
      obtain ⟨states', appended, took, s, found, expires⟩ := (holds.sweep now).append
        (passed post List.mem_cons_self) together.right.left
      have delivered : Api.deliver env sessionId states ⟨now, some false, post⟩ =
          (.ok ⟨post.batchId, .accepted⟩, states') := appended
      have holds' : HeldUntil env sessionId (now + env.config.collectingTtl) (kept ++ [post]) states' := by
        refine ⟨took, fun s' same => ?_, fun none => ?_⟩
        · cases found.symm.trans same
          exact expires
        · cases found.symm.trans none
      obtain ⟨answers, final⟩ := ih (Nat.succ.inj clock) holds' together.right
        fun later listed => passed later (List.mem_cons_of_mem _ listed)
      rw [List.zip_cons_cons, List.zip_cons_cons, postAll_cons one.posted, delivered, heldAfter]
      refine ⟨?_, final⟩
      rw [List.map_cons, answers, one.batchId]
      rfl

/-- A batch that is accepted has passed the checks before the lock. -/
theorem passed_of_accepted (each : List.Forall₂ (Posts number) batches posts)
    (clock : times.length = batches.length)
    (accepted : (postAll env number sessionId states (times.zip batches)).1 = batches.map acceptedAnswer) :
    ∀ post ∈ posts, ∃ context, Api.checkBatch env sessionId (some false) post = .ok context := by
  induction each generalizing states times with
  | nil => exact fun post listed => by cases listed
  | @cons batch post batches posts one more ih =>
    cases times with
    | nil => cases clock
    | cons now times =>
      rw [List.zip_cons_cons, postAll_cons one.posted, List.map_cons, List.cons.injEq] at accepted
      refine List.forall_mem_cons.2 ⟨?_, ih (Nat.succ.inj clock) accepted.2⟩
      cases passed : Api.checkBatch env sessionId (some false) post with
      | ok context => exact ⟨context, rfl⟩
      | error e =>
        have answer := Option.some.inj accepted.1
        rw [Api.deliver, Api.appendBatch, passed] at answer
        cases answer

/-- The observations of batches as they are posted. -/
theorem posted_observations (each : List.Forall₂ (Posts number) batches posts) :
    (allObservations batches).mapM (FrameObservation.posted number) =
      some (posts.flatMap (·.observations)) := by
  induction each with
  | nil => rfl
  | @cons batch post batches posts one _ ih =>
    have own : batch.observations.mapM (FrameObservation.posted number) = some post.observations := by
      obtain ⟨observations, read, fields⟩ := Option.bind_eq_some_iff.1 one.posted
      split_ifs at fields
      cases fields
      exact read
    unfold allObservations at ih ⊢
    rw [List.flatMap_cons, List.flatMap_cons, List.mapM_append, own, ih]
    rfl

end Posting

/-! ## The agreement -/

section Agreement

variable {options : BuildOptions} {batches : List ObservationBatch} {posts : List Api.ObservationBatchV2}
  {number : Root → ℚ}

/-- The batches of a recording pass the checks before the lock exactly when its frames are inside the media. -/
theorem PostedAs.passes_iff {env : Api.StoreEnv} {context : Api.SessionRecommendationContext}
    (as : PostedAs options number batches posts) (found : env.context options.sessionId = some context)
    (video : context.videoId = options.manifestVideoId)
    (manifest : context.manifestVersion = options.manifestVersion) (approved : context.Approved) :
    (∀ post ∈ posts, Api.checkBatch env options.sessionId (some false) post = .ok context) ↔
      ∀ stamp ∈ options.stamps, ∀ m ∈ context.aoiMetadata, stamp.videoTimeMs < m.durationMs := by
  have passes (post) (listed : post ∈ posts) :
      Api.checkBatch env options.sessionId (some false) post = .ok context ↔
        ∀ o ∈ post.observations, ∀ m ∈ context.aoiMetadata, o.videoTimeMs < m.durationMs := by
    obtain ⟨session, own⟩ := as.session post listed
    refine Api.checkBatch_ok_iff found session (own.trans video.symm) (fun o member => ?_) approved
    rw [manifest]
    exact as.attention o (List.mem_flatMap.2 ⟨post, listed, member⟩)
  constructor
  · intro passed stamp known m listed
    obtain ⟨o, member, rfl⟩ := (as.stamps stamp).1 known
    obtain ⟨post, listed', member⟩ := List.mem_flatMap.1 member
    exact (passes post listed').1 (passed post listed') o member m listed
  · intro before post listed
    refine (passes post listed).2 fun o member m known => ?_
    exact before (sentStamp o) ((as.stamps _).2 ⟨o, List.mem_flatMap.2 ⟨post, listed, member⟩, rfl⟩) m known

end Agreement

/-- The root of a square. -/
def exactRoot (r : Root) : ℚ := (r.square.num.natAbs.sqrt : ℚ) / (r.square.den.sqrt : ℚ)

theorem exactRoot_nonneg (r : Root) : 0 ≤ exactRoot r := div_nonneg (Nat.cast_nonneg _) (Nat.cast_nonneg _)

/-- The video fills a square viewport. -/
def squareLayout : VideoLayout where
  viewportWidthPx := 100
  viewportHeightPx := 100
  sourceWidthPx := 100
  sourceHeightPx := 100
  elementRect := ⟨0, 0, 100, 100⟩
  contentRect := ⟨0, 0, 100, 100⟩

section Steady

variable {options : BuildOptions} {C : Type} [LinearOrder C] {collate : String → C}

/-- The frame of a gaze. -/
def gazeFrame (g : GazeSample) : FusedFrame := { toFrameStamp := g.stamp, gaze := some g }

/-- Gazes of different frames are all collected. -/
theorem collectFrames_gazes (own : ∀ g ∈ options.gazeSamples,
      g.sessionId = options.sessionId ∧ g.videoId = options.manifestVideoId)
    (distinct : (options.gazeSamples.map (·.stamp.key)).Nodup) (noMissing : options.gazeUnavailableSamples = [])
    (noExpression : options.expressionSamples = []) :
    ∃ frames, collectFrames options = .ok frames ∧ frames.values = options.gazeSamples.map gazeFrame := by
  obtain ⟨frames, read, entries⟩ := @Api.foldlM_ok _ _ _ (addGazeSample options)
    (fun done frames => frames.entries = done.map fun g => (g.stamp.key, gazeFrame g)) options.gazeSamples
    (fun done g rest frames split entries => by
      have listed : g ∈ options.gazeSamples := split ▸ by simp
      have absent : g.stamp.key ∉ frames.keys := by
        rw [Dict.keys, entries, List.map_map]
        rw [← split, List.map_append, List.map_cons] at distinct
        exact fun known => (List.nodup_append.1 distinct).2.2 _ known _ List.mem_cons_self rfl
      have new : frameFor frames g.stamp = .ok { toFrameStamp := g.stamp } := by
        rw [frameFor, Dict.get?_none_iff.2 absent]
      refine ⟨frames.set g.stamp.key (gazeFrame g), ?_, ?_⟩
      · rw [addGazeSample, requireMatchingContext, check, check, if_pos (decide_eq_true (own g listed).1),
          if_pos (decide_eq_true (own g listed).2)]
        change (frameFor frames g.stamp >>= _) = _
        rw [Api.bind_ok new]
        rfl
      · rw [Dict.entries_set_of_notMem absent, entries, List.map_append]
        rfl) (s := Dict.empty) rfl
  refine ⟨frames, ?_, ?_⟩
  · rw [collectFrames, Api.bind_ok read, noMissing, noExpression]
    rfl
  · rw [Dict.values, entries, List.map_map]
    rfl

/-- Frames of different sequences pass the check of the owners. -/
theorem checkOwners_ok {owners : Dict ℕ String} {frames : List FusedFrame}
    (free : ∀ f ∈ frames, owners.get? f.sequence = none) (distinct : (frames.map (·.sequence)).Nodup) :
    checkOwners owners frames = .ok () := by
  induction frames generalizing owners with
  | nil => rfl
  | cons frame rest ih =>
    rw [List.map_cons, List.nodup_cons] at distinct
    rw [checkOwners, free frame List.mem_cons_self]
    refine ih (fun f listed => ?_) distinct.2
    have other : f.sequence ≠ frame.sequence := fun same => distinct.1 (same ▸ List.mem_map_of_mem listed)
    rw [Dict.get?_set_ne _ other]
    exact free f (List.mem_cons_of_mem _ listed)

/-- Frames whose gaze is in a layout are all observed. -/
theorem observeAll_ok {firstCapturedAt : ℚ} {s : BuildState} {frames : List FusedFrame}
    (mapped : ∀ f ∈ frames, ∀ gaze, f.validGaze = some gaze → ∃ attention, mapAttention options gaze.sample = .ok attention) :
    ∃ observations, observeAll options collate firstCapturedAt s frames = .ok observations := by
  induction frames generalizing s with
  | nil => exact ⟨[], rfl⟩
  | cons frame rest ih =>
    have one : ∃ next, observe options collate firstCapturedAt s frame = .ok next := by
      rw [observe]
      cases valid : frame.validGaze with
      | none => exact ⟨_, rfl⟩
      | some gaze =>
        obtain ⟨⟨attention, reason⟩, mapping⟩ := mapped frame List.mem_cons_self gaze valid
        dsimp only
        rw [mapping]
        exact ⟨_, rfl⟩
    obtain ⟨⟨observation, next⟩, observed⟩ := one
    obtain ⟨observations, later⟩ := @ih next fun f listed => mapped f (List.mem_cons_of_mem _ listed)
    refine ⟨observation :: observations, ?_⟩
    rw [observeAll, Api.bind_ok observed]
    dsimp only
    rw [Api.bind_ok later]
    rfl

/-- **A recording of gazes** of different frames is cut into batches. -/
theorem gazes_built (collate : String → C) (recorded : Recorded options) (own : ∀ g ∈ options.gazeSamples,
      g.sessionId = options.sessionId ∧ g.videoId = options.manifestVideoId)
    (distinct : (options.gazeSamples.map (·.stamp.key)).Nodup)
    (sequences : (options.gazeSamples.map (·.sequence)).Nodup) (noMissing : options.gazeUnavailableSamples = [])
    (noExpression : options.expressionSamples = []) :
    ∃ batches, buildObservationBatchesV2 options collate = .ok batches ∧
      (allObservations batches).length = options.gazeSamples.length := by
  obtain ⟨map, collected, values⟩ := collectFrames_gazes own distinct noMissing noExpression
  have owners : checkOwners Dict.empty (sortOn (frameRank collate) map.values) = .ok () := by
    refine checkOwners_ok (fun _ _ => rfl) ?_
    rw [((sortOn_perm (frameRank collate) map.values).map _).nodup_iff, values, List.map_map]
    exact sequences
  have fused : fuseByFrameId options collate = .ok (sortOn (frameRank collate) map.values) := by
    rw [fuseByFrameId, Api.bind_ok collected, Api.bind_ok owners]
    rfl
  have mapped : ∀ f ∈ sortOn (frameRank collate) map.values, ∀ gaze, f.validGaze = some gaze →
      ∃ attention, mapAttention options gaze.sample = .ok attention := by
    intro f listed gaze valid
    have limits := validGaze_withinLimits recorded (fuseByFrameId_gaze fused) listed valid
    simp only [GazeSample.WithinLimits, gaze.valid] at limits
    unfold mapAttention
    cases options.videoLayout gaze.sample.frameId with
    | none => exact ⟨_, rfl⟩
    | some layout =>
      dsimp only
      rw [mapGazeToVideoPoint_valid gaze.valid limits.1 limits.2.1]
      exact ⟨_, rfl⟩
  obtain ⟨observations, observed⟩ := @observeAll_ok options C _ collate
    (((sortOn (frameRank collate) map.values).head?.map (·.capturedAtMonoMs)).getD 0) {} _ mapped
  have built : buildObservations options collate = .ok observations := by
    rw [buildObservations, Api.bind_ok fused]
    exact observed
  refine ⟨batchesOf options observations, by rw [buildObservationBatchesV2, Api.bind_ok built]; rfl, ?_⟩
  rw [allObservations_batchesOf, (stateAt_zero.run (fuseByFrameId_fused fused).stamped rfl observed).1,
    List.drop_zero, length_sortOn, values, List.length_map]

end Steady

/-- A gaze at the middle of the video, every tenth of a second. -/
def steadyGaze (sequence : ℕ) : GazeSample :=
  { sampleGaze sequence (.valid (1 / 2) (1 / 2)) with sessionId := "session-0001", videoId := "mcm-lookbook-v2" }

/-- Three hundred of them. -/
def longRecording : BuildOptions where
  batchId := "batch-1"
  batchSequence := 0
  sessionId := "session-0001"
  manifestVideoId := "mcm-lookbook-v2"
  manifestVersion := "manifest-1"
  gazeSamples := (List.range 300).map steadyGaze
  expressionSamples := []
  videoLayout _ := some squareLayout

theorem mem_longRecording_stamps {stamp : FrameStamp} (known : stamp ∈ longRecording.stamps) :
    ∃ n < 300, (steadyGaze n).stamp = stamp := by
  rw [BuildOptions.stamps, List.mem_append, List.mem_append] at known
  rcases known with (known | known) | known
  · obtain ⟨g, listed, rfl⟩ := List.mem_map.1 known
    obtain ⟨n, early, rfl⟩ := List.mem_map.1 listed
    exact ⟨n, List.mem_range.1 early, rfl⟩
  · cases known
  · cases known

theorem longRecording_recorded : Recorded longRecording where
  batchId := by decide
  sessionId := by decide
  videoId := by decide
  manifestVersion := by decide
  layout := by
    rintro id layout ⟨⟩
    decide +kernel
  stamps := by
    have ids : ∀ n < 300, Api.isIdentifier (steadyGaze n).frameId = true := by decide +kernel
    intro stamp known
    obtain ⟨n, early, rfl⟩ := mem_longRecording_stamps known
    exact ⟨ids n early, mul_nonneg (by norm_num) (Nat.cast_nonneg n)⟩
  inOrder := by
    intro a first b second less
    obtain ⟨n, -, rfl⟩ := mem_longRecording_stamps first
    obtain ⟨m, -, rfl⟩ := mem_longRecording_stamps second
    have before : n < m := less
    refine ⟨le_rfl, mul_le_mul_of_nonneg_left (by exact_mod_cast before.le) (by norm_num), fun _ => ?_⟩
    exact Nat.mul_le_mul_left 100 before.le
  few := (List.toFinset_card_le _).trans (by decide +kernel)
  gaze := by
    intro s listed
    obtain ⟨n, -, rfl⟩ := List.mem_map.1 listed
    have middle : Api.InUnit (1 / 2) := by decide +kernel
    have sure : Api.InUnit (sampleBase n).confidence := (by decide +kernel : Api.InUnit 1)
    exact ⟨middle, middle, sure, (by decide : Api.isIdentifier "producer-1" = true),
      (by decide : Api.isRevision "model-1" = true), (by decide : Api.isIdentifier "calibration-1" = true)⟩
  unavailable := fun s listed => by cases listed
  expression := fun s listed => by cases listed

theorem longRecording_built : ∃ batches,
    buildObservationBatchesV2 longRecording (id : String → String) = .ok batches ∧ batches.length = 2 := by
  have own : ∀ g ∈ longRecording.gazeSamples, g.sessionId = "session-0001" ∧ g.videoId = "mcm-lookbook-v2" := by
    intro g listed
    obtain ⟨n, -, rfl⟩ := List.mem_map.1 listed
    exact ⟨rfl, rfl⟩
  have distinct : (longRecording.gazeSamples.map (·.stamp.key)).Nodup := by
    rw [longRecording, List.map_map]
    refine List.nodup_range.map fun n m same => ?_
    obtain ⟨-, ids⟩ := FrameStamp.key_eq_iff.1 same
    exact toString_nat_injective ((String.append_right_inj "frame-").1 ids)
  have sequences : (longRecording.gazeSamples.map (·.sequence)).Nodup := by
    rw [longRecording, List.map_map]
    exact List.nodup_range.map fun n m same => same
  obtain ⟨batches, built, count⟩ :=
    gazes_built (id : String → String) longRecording_recorded own distinct sequences rfl rfl
  refine ⟨batches, built, ?_⟩
  obtain ⟨frames, observations, -, rfl⟩ := exists_built built
  rw [allObservations_batchesOf, longRecording, List.length_map, List.length_range] at count
  have few := length_chunks_le (show observations.length ≤ 512 by omega)
  have whole := congrArg List.length (flatten_chunks observations)
  rw [batchesOf, List.length_mapIdx]
  rcases pieces : chunks observations with _ | ⟨first, _ | ⟨second, more⟩⟩
  · rw [pieces, count] at whole
    cases whole
  · have short : first.length ≤ 256 := length_le_of_mem_chunks (pieces ▸ List.mem_cons_self)
    rw [pieces, List.flatten_singleton, count] at whole
    omega
  · rw [pieces, List.length_cons, List.length_cons] at few
    rw [List.length_cons, List.length_cons]
    omega

/-- The session the store knows, with its AOI metadata. -/
def smallSession : Api.SessionRecommendationContext := Api.smallContext "session-0001" Api.sessionId_ok

theorem smallSession_context : (Api.smallEnv .c false).context "session-0001" = some smallSession := rfl

theorem smallSession_approved : smallSession.Approved where
  source := fun m known => by cases known
  legacy := fun _ => ⟨_, rfl, rfl⟩

theorem longRecording_inside : ∀ stamp ∈ longRecording.stamps,
    ∀ m ∈ smallSession.aoiMetadata, stamp.videoTimeMs < m.durationMs := by
  rintro stamp known m ⟨⟩
  obtain ⟨n, early, rfl⟩ := mem_longRecording_stamps known
  change 100 * n < 60000
  omega

end Mkk.Kiosk
