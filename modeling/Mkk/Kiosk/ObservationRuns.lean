import Mkk.Kiosk.FrameFusion
import Mkk.Lib.Runs

/-!
# The runs of the observations

An observation says how long the gaze has been observed without a continuity reset, and how long each
label of its expression has been strong. What `buildObservations` carries from frame to frame is when the
maximal run of each signal began (`StateAt`), but for a label that is no longer in the scores while every
object inherits its name (`Vanishes`): its run has ended and is carried on.
-/

namespace Mkk.Kiosk

open Lib

/-! ## Stretches of a signal -/

/-- Where a signal is there along some frames; a continuity reset cuts it. -/
def stretches (items : List (FrameStamp × Bool)) : Labelling Unit where
  label k := if items[k]?.any (·.2) then some () else none
  cut k := match items[k - 1]?, items[k]? with
    | some previous, some item => isContinuityReset previous.1 item.1
    | _, _ => true

section Stretches

variable {items : List (FrameStamp × Bool)} {k : ℕ} {previous item : FrameStamp × Bool}

theorem isSome_label_stretches (here : items[k]? = some item) :
    ((stretches items).label k).isSome = item.2 := by
  simp only [stretches, here, Option.any_some]
  cases item.2 <;> rfl

theorem continues_stretches (before : items[k]? = some previous) (here : items[k + 1]? = some item) :
    (stretches items).continues (k + 1) =
      (previous.2 && item.2 && !isContinuityReset previous.1 item.1) := by
  simp only [Labelling.continues, Labelling.before, stretches, before, here, Option.any_some,
    Nat.add_sub_cancel]
  cases previous.2 <;> cases item.2 <;> cases isContinuityReset previous.1 item.1 <;> rfl

end Stretches

/-- The score of a label is one that sustains an action. -/
def strong (scores : Dict String ℚ) (label : String) : Bool :=
  (scores.get? label).any fun score => decide (sustainedActionThreshold ≤ score)

namespace FusedFrame

/-- The expression of the frame sustains a label. -/
def sustains (frame : FusedFrame) (label : String) : Bool :=
  frame.validExpression.any fun expression => strong expression.scores label

end FusedFrame

/-- Where the frames have a signal. -/
def signal (frames : List FusedFrame) (present : FusedFrame → Bool) : Labelling Unit :=
  stretches (frames.map fun frame => (frame.toFrameStamp, present frame))

/-- When a frame was captured, by its index. -/
def capturedAt (frames : List FusedFrame) (k : ℕ) : ℚ :=
  (frames[k]?.map fun frame => frame.capturedAtMonoMs).getD 0

section Signal

variable {frames : List FusedFrame} {present : FusedFrame → Bool} {k : ℕ} {previous frame : FusedFrame}

theorem capturedAt_of_getElem? (here : frames[k]? = some frame) :
    capturedAt frames k = frame.capturedAtMonoMs := by
  rw [capturedAt, here]
  rfl

theorem getElem?_items (here : frames[k]? = some frame) :
    (frames.map fun frame => (frame.toFrameStamp, present frame))[k]? =
      some (frame.toFrameStamp, present frame) := by
  rw [List.getElem?_map, here]
  rfl

theorem isSome_label_signal (here : frames[k]? = some frame) :
    ((signal frames present).label k).isSome = present frame :=
  isSome_label_stretches (getElem?_items here)

theorem continues_signal (before : frames[k]? = some previous) (here : frames[k + 1]? = some frame) :
    (signal frames present).continues (k + 1) = (present previous && present frame &&
      !isContinuityReset previous.toFrameStamp frame.toFrameStamp) :=
  continues_stretches (getElem?_items before) (getElem?_items here)

/-- A frame before the last one there is. -/
theorem exists_previous (here : frames[k + 1]? = some frame) : ∃ previous, frames[k]? = some previous := by
  obtain ⟨inside, -⟩ := List.getElem?_eq_some_iff.1 here
  exact ⟨frames[k], List.getElem?_eq_getElem (by omega)⟩

end Signal

/-! ## What one frame adds -/

section Derived

variable {frame : FrameStamp} {forcedReset : Bool}

/-- A gaze that continues nothing begins a run. -/
theorem buildGazeDerived_starts (gaze : ValidGaze) {previous : Option GazeContinuity}
    (starts : ∀ p ∈ previous, forcedReset = true ∨ isContinuityReset p.gaze.sample.stamp frame = true) :
    (buildGazeDerived gaze frame previous forcedReset).1.movement = none ∧
      (buildGazeDerived gaze frame previous forcedReset).1.continuousObservationMs = 0 ∧
      (buildGazeDerived gaze frame previous forcedReset).2 = ⟨gaze, frame.capturedAtMonoMs⟩ := by
  cases previous with
  | none => exact ⟨rfl, rfl, rfl⟩
  | some p =>
    have reset : (forcedReset || isContinuityReset p.gaze.sample.stamp frame) = true :=
      Bool.or_eq_true_iff.2 (starts p rfl)
    simp only [buildGazeDerived, reset, if_true, and_self]

/-- A gaze that goes on with a run keeps when it began. -/
theorem buildGazeDerived_goesOn (gaze : ValidGaze) {p : GazeContinuity} (free : forcedReset = false)
    (goesOn : isContinuityReset p.gaze.sample.stamp frame = false) :
    (buildGazeDerived gaze frame (some p) forcedReset).1.movement.isSome = true ∧
      (buildGazeDerived gaze frame (some p) forcedReset).1.continuousObservationMs =
        frame.capturedAtMonoMs - p.runStartedAtMonoMs ∧
      (buildGazeDerived gaze frame (some p) forcedReset).2 = ⟨gaze, p.runStartedAtMonoMs⟩ := by
  simp only [buildGazeDerived, free, goesOn, Bool.or_self, Bool.false_eq_true, if_false, Option.isSome_some,
    and_self]

theorem get?_sustainLabel (capturedAt : ℚ) (started : Dict String ℚ) (entry : String × ℚ) (label : String) :
    (sustainLabel capturedAt started entry).get? label =
      if label = entry.1 then
        if sustainedActionThreshold ≤ entry.2 then some ((started.get? label).getD capturedAt) else none
      else started.get? label := by
  unfold sustainLabel
  by_cases strong : sustainedActionThreshold ≤ entry.2
  · rw [if_neg (not_lt.2 strong)]
    by_cases same : label = entry.1
    · subst same
      cases known : started.get? entry.1 <;> simp [strong, known]
    · by_cases unknown : started.get? entry.1 = none <;> simp [strong, unknown, same, Dict.get?_set_ne]
  · rw [if_pos (not_le.1 strong), if_neg fun both => strong both.1, Dict.get?_pop]
    simp only [strong, if_false]

/-- The loop over the scores leaves other labels alone. -/
theorem get?_foldl_sustainLabel_of_notMem (capturedAt : ℚ) {entries : List (String × ℚ)} {label : String}
    (absent : label ∉ entries.map Prod.fst) (started : Dict String ℚ) :
    (entries.foldl (sustainLabel capturedAt) started).get? label = started.get? label := by
  induction entries generalizing started with
  | nil => rfl
  | cons entry rest ih =>
    rw [List.map_cons, List.mem_cons, not_or] at absent
    rw [List.foldl_cons, ih absent.2, get?_sustainLabel, if_neg absent.1]

/-- The loop over the scores changes the label of a score once. -/
theorem get?_foldl_sustainLabel_of_mem (capturedAt : ℚ) {entries : List (String × ℚ)} {label : String}
    {score : ℚ} (distinct : (entries.map Prod.fst).Nodup) (listed : (label, score) ∈ entries)
    (started : Dict String ℚ) :
    (entries.foldl (sustainLabel capturedAt) started).get? label =
      if sustainedActionThreshold ≤ score then some ((started.get? label).getD capturedAt) else none := by
  induction entries generalizing started with
  | nil => cases listed
  | cons entry rest ih =>
    obtain ⟨fresh, distinct⟩ := List.nodup_cons.1 distinct
    rw [List.foldl_cons]
    rcases List.mem_cons.1 listed with rfl | later
    · rw [get?_foldl_sustainLabel_of_notMem capturedAt fresh, get?_sustainLabel, if_pos rfl]
    · have other : label ≠ entry.1 := by
        rintro rfl
        exact fresh (List.mem_map.2 ⟨_, later, rfl⟩)
      rw [ih distinct later, get?_sustainLabel, if_neg other]

/-- What is known of a label after an expression. -/
theorem get?_sustainedAfter (capturedAt : ℚ) (started scores : Dict String ℚ) (label : String) :
    (sustainedAfter capturedAt started scores).get? label =
      match scores.get? label with
      | some score =>
        if sustainedActionThreshold ≤ score then some ((started.get? label).getD capturedAt) else none
      | none => if label ∈ objectPrototypeNames then started.get? label else none := by
  rw [sustainedAfter, Dict.get?_filter]
  cases found : scores.get? label with
  | some score =>
    rw [get?_foldl_sustainLabel_of_mem capturedAt scores.nodup (Dict.mem_entries_iff.2 found)]
    have named : inScores label scores = true := by rw [inScores, found]; rfl
    by_cases enough : sustainedActionThreshold ≤ score <;> simp [Option.filter, named, enough]
  | none =>
    rw [get?_foldl_sustainLabel_of_notMem capturedAt (Dict.get?_none_iff.1 found)]
    by_cases inherited : label ∈ objectPrototypeNames <;>
      cases started.get? label <;> simp [Option.filter, inScores, found, inherited]

/-- What is sustained is what was known of a label for so long. -/
theorem mem_sustainedActions {C : Type} [LinearOrder C] {collate : String → C} {expression : ValidExpression}
    {previous : Option ExpressionContinuity} {action : SustainedAction}
    (listed : action ∈
      (buildExpressionDerived collate expression frame previous forcedReset).1.sustainedActions) :
    (buildExpressionDerived collate expression frame previous forcedReset).2.sustainedStartedAtMonoMs.get?
      action.signal = some (frame.capturedAtMonoMs - action.durationMs) := by
  cases previous with
  | none => cases listed
  | some p =>
    by_cases reset : (forcedReset || isContinuityReset p.expression.sample.stamp frame) = true
    · simp only [buildExpressionDerived, reset, if_true, List.not_mem_nil] at listed
    · simp only [buildExpressionDerived, reset, Bool.false_eq_true, if_false] at listed ⊢
      obtain ⟨⟨label, began⟩, member, rfl⟩ := List.mem_map.1 listed
      rw [mem_sortOn, Dict.mem_entries_iff] at member
      rw [member, sub_sub_cancel]

/-- An expression that continues nothing begins anew. -/
theorem buildExpressionDerived_starts {C : Type} [LinearOrder C] (collate : String → C)
    (expression : ValidExpression) {previous : Option ExpressionContinuity}
    (starts : ∀ p ∈ previous,
      forcedReset = true ∨ isContinuityReset p.expression.sample.stamp frame = true) :
    (buildExpressionDerived collate expression frame previous forcedReset).2 =
      ⟨expression, sustainedAfter frame.capturedAtMonoMs .empty expression.scores⟩ := by
  cases previous with
  | none => rfl
  | some p =>
    have reset : (forcedReset || isContinuityReset p.expression.sample.stamp frame) = true :=
      Bool.or_eq_true_iff.2 (starts p rfl)
    simp only [buildExpressionDerived, reset, if_true]

/-- An expression that goes on carries what was sustained, and lists all of it. -/
theorem buildExpressionDerived_goesOn {C : Type} [LinearOrder C] (collate : String → C)
    (expression : ValidExpression) {p : ExpressionContinuity} (free : forcedReset = false)
    (goesOn : isContinuityReset p.expression.sample.stamp frame = false) :
    let started :=
      sustainedAfter frame.capturedAtMonoMs p.sustainedStartedAtMonoMs expression.scores
    (buildExpressionDerived collate expression frame (some p) forcedReset).2 = ⟨expression, started⟩ ∧
      ∀ label began, started.get? label = some began → ∃ action ∈
        (buildExpressionDerived collate expression frame (some p) forcedReset).1.sustainedActions,
        action.signal = label := by
  simp only [buildExpressionDerived, free, goesOn, Bool.or_self, Bool.false_eq_true, if_false, true_and]
  intro label began known
  exact ⟨_, List.mem_map_of_mem (mem_sortOn.2 (Dict.mem_entries_iff.2 known)), rfl⟩

end Derived

/-! ## What is carried along -/

/-- Where the frames have a valid gaze. -/
def gazeSignal (frames : List FusedFrame) : Labelling Unit := signal frames fun frame => frame.validGaze.isSome

/-- Where the frames have a valid expression. -/
def expressionSignal (frames : List FusedFrame) : Labelling Unit :=
  signal frames fun frame => frame.validExpression.isSome

/-- Where the frames sustain a label. -/
def labelSignal (frames : List FusedFrame) (label : String) : Labelling Unit :=
  signal frames fun frame => frame.sustains label

/-- A label that a frame sustains is not in the scores of the next frame, where the run goes on and finds the
name in every object. -/
def Vanishes (frames : List FusedFrame) : Prop :=
  ∃ (k : ℕ) (previous frame : FusedFrame) (expression : ValidExpression), frames[k]? = some previous ∧
    frames[k + 1]? = some frame ∧ frame.validExpression = some expression ∧
    isContinuityReset previous.toFrameStamp frame.toFrameStamp = false ∧
    ∃ label ∈ objectPrototypeNames, previous.sustains label = true ∧ expression.scores.get? label = none

/-- When the label of a frame began to be sustained, where it is. -/
def sustainedSince (frames : List FusedFrame) (k : ℕ) (frame : FusedFrame) (label : String) : Option ℚ :=
  if frame.sustains label then some (capturedAt frames ((labelSignal frames label).start k)) else none

/-- What is carried along after the first `n` frames. -/
structure StateAt (frames : List FusedFrame) (n : ℕ) (s : BuildState) : Prop where
  gaze : ∀ p ∈ s.gazeContinuity, ∃ k frame, n = k + 1 ∧ frames[k]? = some frame ∧
    frame.validGaze = some p.gaze ∧ p.runStartedAtMonoMs = capturedAt frames ((gazeSignal frames).start k)
  gazeSeen : ∀ k frame, n = k + 1 → frames[k]? = some frame → frame.validGaze.isSome = true →
    s.gazeContinuity.isSome = true ∧ s.gazeWasReset = false
  expression : ∀ p ∈ s.expressionContinuity, ∃ k frame, n = k + 1 ∧ frames[k]? = some frame ∧
    frame.validExpression = some p.expression ∧
    (∀ label, frame.sustains label = true → (p.sustainedStartedAtMonoMs.get? label).isSome = true) ∧
    (¬Vanishes frames → ∀ label,
      p.sustainedStartedAtMonoMs.get? label = sustainedSince frames k frame label)
  expressionSeen : ∀ k frame, n = k + 1 → frames[k]? = some frame → frame.validExpression.isSome = true →
    s.expressionContinuity.isSome = true ∧ s.expressionWasReset = false

/-- Every sample of a frame has its stamp. -/
structure Stamped (frames : List FusedFrame) : Prop where
  gaze : ∀ f ∈ frames, ∀ g ∈ f.gaze, g.stamp = f.toFrameStamp
  expression : ∀ f ∈ frames, ∀ e ∈ f.expression, e.stamp = f.toFrameStamp

section Step

variable {frames : List FusedFrame} {n k : ℕ} {s : BuildState} {frame : FusedFrame}

theorem GazeSample.valid?_eq_some {s : GazeSample} {gaze : ValidGaze} (valid : s.valid? = some gaze) :
    gaze.sample = s := by
  unfold GazeSample.valid? at valid
  split at valid <;> cases valid
  rfl

theorem ExpressionSample.valid?_eq_some {s : ExpressionSample} {expression : ValidExpression}
    (valid : s.valid? = some expression) : expression.sample = s := by
  unfold ExpressionSample.valid? at valid
  split at valid <;> cases valid
  rfl

theorem Stamped.validGaze (stamped : Stamped frames) (here : frames[k]? = some frame) {gaze : ValidGaze}
    (valid : frame.validGaze = some gaze) : gaze.sample.stamp = frame.toFrameStamp := by
  obtain ⟨g, own, valid⟩ := Option.bind_eq_some_iff.1 valid
  rw [GazeSample.valid?_eq_some valid]
  exact stamped.gaze frame (List.mem_of_getElem? here) g own

theorem Stamped.validExpression (stamped : Stamped frames) (here : frames[k]? = some frame)
    {expression : ValidExpression} (valid : frame.validExpression = some expression) :
    expression.sample.stamp = frame.toFrameStamp := by
  obtain ⟨e, own, valid⟩ := Option.bind_eq_some_iff.1 valid
  rw [ExpressionSample.valid?_eq_some valid]
  exact stamped.expression frame (List.mem_of_getElem? here) e own

/-- **A valid gaze** goes on with the run of the frame before, or begins one. -/
theorem StateAt.gazeDerived (h : StateAt frames n s) (stamped : Stamped frames)
    (here : frames[n]? = some frame) {gaze : ValidGaze} (valid : frame.validGaze = some gaze) :
    let began := capturedAt frames ((gazeSignal frames).start n)
    let derived := buildGazeDerived gaze frame.toFrameStamp s.gazeContinuity s.gazeWasReset
    derived.2 = ⟨gaze, began⟩ ∧ derived.1.continuousObservationMs = frame.capturedAtMonoMs - began ∧
      derived.1.movement.isSome = (gazeSignal frames).continues n := by
  dsimp only
  cases goesOn : (gazeSignal frames).continues n with
  | false =>
    rw [Labelling.start_of_not_continues goesOn, capturedAt_of_getElem? here, sub_self]
    have starts : ∀ p ∈ s.gazeContinuity, s.gazeWasReset = true ∨
        isContinuityReset p.gaze.sample.stamp frame.toFrameStamp = true := by
      intro p known
      obtain ⟨k, previous, rfl, before, own, -⟩ := h.gaze p known
      rw [gazeSignal, continues_signal before here, own, valid] at goesOn
      rw [stamped.validGaze before own]
      exact .inr (by simpa using goesOn)
    obtain ⟨movement, continuous, next⟩ := buildGazeDerived_starts gaze starts
    exact ⟨next, continuous, by rw [movement]; rfl⟩
  | true =>
    cases n with
    | zero =>
      rw [Labelling.continues_zero] at goesOn
      cases goesOn
    | succ k =>
      rw [Labelling.start_of_continues goesOn]
      obtain ⟨previous, before⟩ := exists_previous here
      rw [gazeSignal, continues_signal before here] at goesOn
      simp only [Bool.and_eq_true, Bool.not_eq_true'] at goesOn
      obtain ⟨known, free⟩ := h.gazeSeen k previous rfl before goesOn.1.1
      obtain ⟨p, known⟩ := Option.isSome_iff_exists.1 known
      obtain ⟨k', previous', same, before', own, began⟩ := h.gaze p known
      obtain rfl : k = k' := by omega
      obtain rfl : previous = previous' := Option.some.inj (before.symm.trans before')
      have reset : isContinuityReset p.gaze.sample.stamp frame.toFrameStamp = false := by
        rw [stamped.validGaze before own]
        exact goesOn.2
      obtain ⟨movement, continuous, next⟩ := buildGazeDerived_goesOn gaze free reset
      rw [known]
      rw [began] at continuous next
      exact ⟨next, continuous, movement⟩

theorem sustains_eq {expression : ValidExpression} (valid : frame.validExpression = some expression)
    (label : String) : frame.sustains label = strong expression.scores label := by
  rw [FusedFrame.sustains, valid]
  rfl

/-- What is known of a label after a frame, by what was known before. -/
theorem sustainedAfter_eq {capturedAt : ℚ} {started scores : Dict String ℚ} {label : String} :
    (sustainedAfter capturedAt started scores).get? label =
      if strong scores label then some ((started.get? label).getD capturedAt)
      else if scores.get? label = none ∧ label ∈ objectPrototypeNames then started.get? label else none := by
  rw [get?_sustainedAfter, strong]
  cases scores.get? label with
  | none => simp
  | some score => by_cases enough : sustainedActionThreshold ≤ score <;> simp [enough]

/-- What is carried to a frame that goes on with the expression of the frame before. -/
theorem StateAt.expression_goesOn (h : StateAt frames n s) (stamped : Stamped frames)
    (here : frames[n]? = some frame) (goesOn : (expressionSignal frames).continues n = true) :
    ∃ k previous p, n = k + 1 ∧ frames[k]? = some previous ∧
      isContinuityReset previous.toFrameStamp frame.toFrameStamp = false ∧
      s.expressionContinuity = some p ∧ s.expressionWasReset = false ∧
      isContinuityReset p.expression.sample.stamp frame.toFrameStamp = false ∧
      (∀ label, previous.sustains label = true → (p.sustainedStartedAtMonoMs.get? label).isSome = true) ∧
      (¬Vanishes frames → ∀ label,
        p.sustainedStartedAtMonoMs.get? label = sustainedSince frames k previous label) := by
  cases n with
  | zero =>
    rw [Labelling.continues_zero] at goesOn
    cases goesOn
  | succ k =>
    obtain ⟨previous, before⟩ := exists_previous here
    rw [expressionSignal, continues_signal before here] at goesOn
    simp only [Bool.and_eq_true, Bool.not_eq_true'] at goesOn
    obtain ⟨known, free⟩ := h.expressionSeen k previous rfl before goesOn.1.1
    obtain ⟨p, known⟩ := Option.isSome_iff_exists.1 known
    obtain ⟨k', previous', same, before', own, kept, exact⟩ := h.expression p known
    obtain rfl : k = k' := by omega
    obtain rfl : previous = previous' := Option.some.inj (before.symm.trans before')
    have reset : isContinuityReset p.expression.sample.stamp frame.toFrameStamp = false := by
      rw [stamped.validExpression before own]
      exact goesOn.2
    exact ⟨k, previous, p, rfl, before, goesOn.2, known, free, reset, kept, exact⟩

/-- A frame that does not go on with the expression goes on with none of its labels. -/
theorem labelSignal_starts (here : frames[n]? = some frame)
    (valid : frame.validExpression.isSome = true) (starts : (expressionSignal frames).continues n = false)
    (label : String) : (labelSignal frames label).continues n = false := by
  cases n with
  | zero => exact Labelling.continues_zero _
  | succ k =>
    obtain ⟨previous, before⟩ := exists_previous here
    rw [expressionSignal, continues_signal before here, valid] at starts
    rw [labelSignal, continues_signal before here]
    cases own : previous.validExpression with
    | none => rw [FusedFrame.sustains, own]; rfl
    | some e =>
      rw [own] at starts
      simp only [Option.isSome_some, Bool.and_self, Bool.true_and] at starts
      rw [starts, Bool.and_false]

/-- What is known of a label where it was known when the label began to be sustained. -/
theorem sustainedAfter_goesOn {previous : FusedFrame} {expression : ValidExpression} {started : Dict String ℚ}
    {label : String} (stays : ¬Vanishes frames) (before : frames[k]? = some previous)
    (here : frames[k + 1]? = some frame) (valid : frame.validExpression = some expression)
    (free : isContinuityReset previous.toFrameStamp frame.toFrameStamp = false)
    (known : started.get? label = sustainedSince frames k previous label) :
    (sustainedAfter frame.capturedAtMonoMs started expression.scores).get? label =
      sustainedSince frames (k + 1) frame label := by
  have goesOn : (labelSignal frames label).continues (k + 1) =
      (previous.sustains label && frame.sustains label) := by
    rw [labelSignal, continues_signal before here, free, Bool.not_false, Bool.and_true]
  rw [sustainedAfter_eq, known, sustainedSince, sustainedSince, sustains_eq valid]
  rw [sustains_eq valid] at goesOn
  by_cases enough : strong expression.scores label = true
  · rw [if_pos enough, if_pos enough]
    by_cases earlier : previous.sustains label = true
    · rw [earlier, enough] at goesOn
      rw [if_pos earlier, Labelling.start_of_continues goesOn, Option.getD_some]
    · rw [Bool.eq_false_iff.2 earlier, Bool.false_and] at goesOn
      rw [if_neg earlier, Labelling.start_of_not_continues goesOn, capturedAt_of_getElem? here,
        Option.getD_none]
  · rw [if_neg enough, if_neg enough]
    split_ifs with gone earlier
    · exact absurd ⟨k, previous, frame, expression, before, here, valid, free, label, gone.2, earlier,
        gone.1⟩ stays
    · rfl
    · rfl

/-- **A valid expression** goes on with what the frame before sustained, or begins anew. -/
theorem StateAt.expressionDerived {C : Type} [LinearOrder C] (collate : String → C) (h : StateAt frames n s)
    (stamped : Stamped frames) (here : frames[n]? = some frame) {expression : ValidExpression}
    (valid : frame.validExpression = some expression) :
    let derived := buildExpressionDerived collate expression frame.toFrameStamp s.expressionContinuity
      s.expressionWasReset
    derived.2.expression = expression ∧
      (∀ label, frame.sustains label = true →
        (derived.2.sustainedStartedAtMonoMs.get? label).isSome = true) ∧
      (¬Vanishes frames → ∀ label,
        derived.2.sustainedStartedAtMonoMs.get? label = sustainedSince frames n frame label) := by
  have lasts (started : Dict String ℚ) (label : String) (own : frame.sustains label = true) :
      ((sustainedAfter frame.capturedAtMonoMs started expression.scores).get? label).isSome = true := by
    rw [sustains_eq valid] at own
    rw [sustainedAfter_eq, if_pos own]
    rfl
  dsimp only
  cases goesOn : (expressionSignal frames).continues n with
  | false =>
    have starts : ∀ p ∈ s.expressionContinuity, s.expressionWasReset = true ∨
        isContinuityReset p.expression.sample.stamp frame.toFrameStamp = true := by
      intro p known
      obtain ⟨k, previous, rfl, before, own, -⟩ := h.expression p known
      rw [expressionSignal, continues_signal before here, own, valid] at goesOn
      rw [stamped.validExpression before own]
      exact .inr (by simpa using goesOn)
    rw [buildExpressionDerived_starts collate expression starts]
    refine ⟨rfl, lasts .empty, fun _ label => ?_⟩
    have begins := labelSignal_starts here (by rw [valid]; rfl) goesOn label
    rw [sustainedAfter_eq, sustainedSince, sustains_eq valid, Labelling.start_of_not_continues begins,
      capturedAt_of_getElem? here]
    simp
  | true =>
    obtain ⟨k, previous, p, rfl, before, free, known, seen, reset, -, exact⟩ :=
      h.expression_goesOn stamped here goesOn
    rw [known, (buildExpressionDerived_goesOn collate expression seen reset).1]
    exact ⟨rfl, lasts p.sustainedStartedAtMonoMs, fun stays label =>
      sustainedAfter_goesOn stays before here valid free (exact stays label)⟩

/-- A label that vanishes is still sustained. -/
theorem StateAt.vanishing {C : Type} [LinearOrder C] (collate : String → C) (h : StateAt frames (k + 1) s)
    (stamped : Stamped frames) (here : frames[k + 1]? = some frame) {previous : FusedFrame}
    (before : frames[k]? = some previous) {expression : ValidExpression}
    (valid : frame.validExpression = some expression)
    (free : isContinuityReset previous.toFrameStamp frame.toFrameStamp = false) {label : String}
    (inherited : label ∈ objectPrototypeNames) (earlier : previous.sustains label = true)
    (gone : expression.scores.get? label = none) :
    ∃ action ∈ (buildExpressionDerived collate expression frame.toFrameStamp s.expressionContinuity
      s.expressionWasReset).1.sustainedActions, action.signal = label := by
  have seenBefore : previous.validExpression.isSome = true := by
    rw [FusedFrame.sustains] at earlier
    cases own : previous.validExpression with
    | none => rw [own] at earlier; cases earlier
    | some e => rfl
  have goesOn : (expressionSignal frames).continues (k + 1) = true := by
    rw [expressionSignal, continues_signal before here, seenBefore, valid, free]
    rfl
  obtain ⟨k', previous', p, same, before', -, known, seen, reset, kept, -⟩ :=
    h.expression_goesOn stamped here goesOn
  obtain rfl : k = k' := by omega
  obtain rfl : previous = previous' := Option.some.inj (before.symm.trans before')
  obtain ⟨began, since⟩ := Option.isSome_iff_exists.1 (kept label earlier)
  rw [known]
  refine (buildExpressionDerived_goesOn collate expression seen reset).2 label began ?_
  have weak : ¬strong expression.scores label = true := by rw [strong, gone]; exact Bool.false_ne_true
  rw [sustainedAfter_eq, if_neg weak, if_pos ⟨gone, inherited⟩, since]

end Step

/-! ## Every observation -/

/-- What an observation says of its frame. -/
structure Observed (frames : List FusedFrame) (k : ℕ) (frame : FusedFrame) (o : FrameObservation) : Prop where
  stamp : o.toFrameStamp = frame.toFrameStamp
  gaze : o.gaze = frame.validGaze.map (·.observation)
  gazeReason : o.gazeReason = reasonUnless frame.validGaze frame.missingGaze
  expression : o.expression = frame.validExpression.map (·.observation)
  expressionReason : o.expressionReason = reasonUnless frame.validExpression frame.missingExpression
  derivedGaze : frame.validGaze.isSome = true → ∃ d, o.derivedGaze = some d ∧
    d.continuousObservationMs =
      frame.capturedAtMonoMs - capturedAt frames ((gazeSignal frames).start k) ∧
    d.movement.isSome = (gazeSignal frames).continues k
  derivedExpression : ¬Vanishes frames → ∀ d ∈ o.derivedExpression, ∀ action ∈ d.sustainedActions,
    sustainedSince frames k frame action.signal = some (frame.capturedAtMonoMs - action.durationMs)
  vanishing : ∀ j previous expression, k = j + 1 → frames[j]? = some previous →
    frame.validExpression = some expression →
    isContinuityReset previous.toFrameStamp frame.toFrameStamp = false →
    ∀ label ∈ objectPrototypeNames, previous.sustains label = true →
    expression.scores.get? label = none →
    ∃ d ∈ o.derivedExpression, ∃ action ∈ d.sustainedActions, action.signal = label

section Run

variable {options : BuildOptions} {C : Type} [LinearOrder C] {collate : String → C} {firstCapturedAt : ℚ}
  {frames : List FusedFrame} {n : ℕ} {s s' : BuildState} {frame : FusedFrame} {o : FrameObservation}

/-- What comes of a frame, but for its attention. -/
structure Step (collate : String → C) (s : BuildState) (frame : FusedFrame) (o : FrameObservation)
    (s' : BuildState) : Prop where
  stamp : o.toFrameStamp = frame.toFrameStamp
  gaze : o.gaze = frame.validGaze.map (·.observation)
  gazeReason : o.gazeReason = reasonUnless frame.validGaze frame.missingGaze
  expression : o.expression = frame.validExpression.map (·.observation)
  expressionReason : o.expressionReason = reasonUnless frame.validExpression frame.missingExpression
  derivedGaze : o.derivedGaze = frame.validGaze.map fun gaze =>
    (buildGazeDerived gaze frame.toFrameStamp s.gazeContinuity s.gazeWasReset).1
  derivedExpression : o.derivedExpression = frame.validExpression.map fun expression =>
    (buildExpressionDerived collate expression frame.toFrameStamp s.expressionContinuity
      s.expressionWasReset).1
  gazeContinuity : s'.gazeContinuity = frame.validGaze.map fun gaze =>
    (buildGazeDerived gaze frame.toFrameStamp s.gazeContinuity s.gazeWasReset).2
  expressionContinuity : s'.expressionContinuity = frame.validExpression.map fun expression =>
    (buildExpressionDerived collate expression frame.toFrameStamp s.expressionContinuity
      s.expressionWasReset).2
  gazeWasReset : s'.gazeWasReset = frame.validGaze.isNone
  expressionWasReset : s'.expressionWasReset = frame.validExpression.isNone

theorem observe_eq_ok (observed : observe options collate firstCapturedAt s frame = .ok (o, s')) :
    Step collate s frame o s' := by
  unfold observe at observed
  cases valid : frame.validGaze with
  | none =>
    rw [valid] at observed
    cases observed
    constructor <;> simp [valid, Function.comp_def]
  | some gaze =>
    rw [valid] at observed
    obtain ⟨⟨attention, attentionReason⟩, -, observed⟩ := Api.bind_eq_ok_iff.1 observed
    cases observed
    constructor <;> simp [valid, Function.comp_def]

/-- **One frame** keeps what is carried along. -/
theorem StateAt.step (h : StateAt frames n s) (stamped : Stamped frames) (here : frames[n]? = some frame)
    (one : Step collate s frame o s') : Observed frames n frame o ∧ StateAt frames (n + 1) s' := by
  have only {k : ℕ} {other : FusedFrame} (same : n + 1 = k + 1) (at' : frames[k]? = some other) :
      other = frame := by
    obtain rfl : n = k := by omega
    exact Option.some.inj (at'.symm.trans here)
  constructor
  · refine { stamp := one.stamp, gaze := one.gaze, gazeReason := one.gazeReason,
             expression := one.expression, expressionReason := one.expressionReason,
             derivedGaze := ?_, derivedExpression := ?_, vanishing := ?_ }
    · intro valid
      obtain ⟨gaze, valid⟩ := Option.isSome_iff_exists.1 valid
      obtain ⟨-, continuous, movement⟩ := h.gazeDerived stamped here valid
      exact ⟨_, by rw [one.derivedGaze, valid, Option.map_some], continuous, movement⟩
    · intro stays d derived action listed
      rw [one.derivedExpression] at derived
      obtain ⟨expression, valid, rfl⟩ := Option.map_eq_some_iff.1 derived
      obtain ⟨-, -, exact⟩ := h.expressionDerived collate stamped here valid
      rw [← exact stays, mem_sustainedActions listed]
    · rintro j previous expression rfl before valid free label inherited earlier gone
      rw [one.derivedExpression, valid]
      exact ⟨_, rfl, h.vanishing collate stamped here before valid free inherited earlier gone⟩
  · refine { gaze := ?_, gazeSeen := ?_, expression := ?_, expressionSeen := ?_ }
    · intro p known
      rw [one.gazeContinuity] at known
      obtain ⟨gaze, valid, rfl⟩ := Option.map_eq_some_iff.1 known
      rw [(h.gazeDerived stamped here valid).1]
      exact ⟨n, frame, rfl, here, valid, rfl⟩
    · intro k other same at' valid
      obtain rfl := only same at'
      rw [one.gazeContinuity, one.gazeWasReset, Option.isSome_map, Option.isNone_eq_false_iff]
      exact ⟨valid, valid⟩
    · intro p known
      rw [one.expressionContinuity] at known
      obtain ⟨expression, valid, rfl⟩ := Option.map_eq_some_iff.1 known
      obtain ⟨own, kept, exact⟩ := h.expressionDerived collate stamped here valid
      exact ⟨n, frame, rfl, here, by rw [own]; exact valid, kept, exact⟩
    · intro k other same at' valid
      obtain rfl := only same at'
      rw [one.expressionContinuity, one.expressionWasReset, Option.isSome_map, Option.isNone_eq_false_iff]
      exact ⟨valid, valid⟩

/-- Before the first frame nothing is carried. -/
theorem stateAt_zero : StateAt frames 0 {} where
  gaze _ known := nomatch known
  gazeSeen _ _ same := absurd same (Nat.succ_ne_zero _).symm
  expression _ known := nomatch known
  expressionSeen _ _ same := absurd same (Nat.succ_ne_zero _).symm

/-- **All frames** are observed, each by the runs of the frames before. -/
theorem StateAt.run {rest : List FusedFrame} {observations : List FrameObservation}
    (h : StateAt frames n s) (stamped : Stamped frames) (left : frames.drop n = rest)
    (all : observeAll options collate firstCapturedAt s rest = .ok observations) :
    observations.length = rest.length ∧ ∀ i o, observations[i]? = some o →
      ∃ frame, frames[n + i]? = some frame ∧ Observed frames (n + i) frame o := by
  induction rest generalizing n s observations with
  | nil =>
    cases all
    exact ⟨rfl, fun i o found => by simp at found⟩
  | cons frame rest ih =>
    obtain ⟨⟨o, next⟩, one, more⟩ := Api.bind_eq_ok_iff.1 all
    obtain ⟨later, others, built⟩ := Api.bind_eq_ok_iff.1 more
    cases built
    have here : frames[n]? = some frame := by
      have first : (frames.drop n)[0]? = some frame := by rw [left]; rfl
      rwa [List.getElem?_drop] at first
    obtain ⟨observed, carried⟩ := h.step stamped here (observe_eq_ok one)
    obtain ⟨length, each⟩ := ih carried (by rw [← List.tail_drop, left]; rfl) others
    refine ⟨congrArg Nat.succ length, fun i o' found => ?_⟩
    cases i with
    | zero =>
      obtain rfl : o = o' := by simpa using found
      exact ⟨frame, here, observed⟩
    | succ i =>
      rw [List.getElem?_cons_succ] at found
      rw [show n + (i + 1) = n + 1 + i by omega]
      exact each i o' found

end Run

end Mkk.Kiosk
