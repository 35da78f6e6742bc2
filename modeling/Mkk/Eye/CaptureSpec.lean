import Mkk.Eye.CalibrationCapture
import Mkk.Lib.Hoare
import Mkk.Lib.Tally
import Mathlib.Tactic.Linarith

/-!
# What a capture does

The invariant of the capture loop: the counts add up, every kept feature belongs to the capture's target
and phase, the other lists stay as they are, and what is shown is consistent. It holds from the first
packet to the last, whether the capture returns, raises or waits (`capture_spec`).
-/

namespace Mkk.Eye

open Lib

/-! ## Positioning states -/

/-- The face counts as still only when all flags are set, and for a second at most. -/
structure PositioningState.Steady (state : PositioningState) : Prop where
  nonneg : 0 ≤ state.stableMs
  le : state.stableMs ≤ positioningHoldMs
  flags : 0 < state.stableMs → state.faceDetected = true ∧ state.eyesVisible = true ∧
    state.centered = true ∧ state.distanceOk = true ∧ state.facingForward = true

theorem PositioningGate.observe_steady (gate : PositioningGate) (placement : Option (FacePlacement PyFloat))
    (capturedMs : ℚ) (usable : Bool) : (gate.observe placement capturedMs usable).2.1.Steady := by
  have unsteady (state : PositioningState) (zero : state.stableMs = 0) : state.Steady :=
    ⟨zero.ge, by rw [zero]; decide, fun positive => absurd zero positive.ne'⟩
  unfold observe
  split
  · exact unsteady _ rfl
  · dsimp only
    split
    · exact unsteady _ rfl
    next ready =>
      simp only [Bool.not_eq_true', Bool.not_eq_false, Bool.and_eq_true] at ready
      refine ⟨le_min (by decide) (le_max_left _ _), min_le_left _ _, fun _ => ?_⟩
      exact ⟨rfl, ready.1.1.1, ready.1.1.2, ready.1.2, ready.2⟩

/-! ## The invariant -/

/-- What is shown while a capture runs, `completed` targets being complete. -/
structure Shows (env : SourceEnv) (c : CaptureSetup) (total completed : ℕ) (p : Progress) : Prop where
  calibrationId : p.calibrationId = env.calibrationId
  profileId : p.profileId = env.profileId
  phase : p.phase = c.phase
  targetId : p.targetId = c.targetId
  target : p.target = c.target
  accepted : p.acceptedSamples ≤ p.requiredSamples
  required : p.requiredSamples = minSamples ∨ p.requiredSamples = minSamples * 2
  completedTargets : p.completedTargets = completed
  totalTargets : p.totalTargets = total
  positioning : ∀ state ∈ p.positioning, c.phase = .positioning ∧ state.Steady

/-- What a capture leaves at any moment of the source it began with. -/
structure Framed (env : SourceEnv) (c : CaptureSetup) (before s : Source) : Prop where
  places : s.places = before.places + 1
  kept : ∀ f ∈ s.lists c.features, f.target = c.target ∧ f.phase = c.phase
  others : ∀ place, place ≠ c.features → s.lists place = before.lists place
  completed : s.completed = before.completed
  serial : s.serial = before.serial + 1
  totalTargets : s.totalTargets = before.totalTargets
  shown : ∀ p ∈ s.shown, p ∈ before.shown ∨ Shows env c before.totalTargets before.completed p

/-- What holds between two turns of the loop. -/
structure Running (env : SourceEnv) (c : CaptureSetup) (before : Source) (l : CaptureLocals) (s : Source) :
    Prop extends Framed env c before s where
  counted : (s.lists c.features).length + l.invalidCounts.values.sum = l.total
  progress : ∃ p, s.progress = some p ∧ Shows env c before.totalTargets before.completed p ∧
    p.requiredSamples = l.requiredSamples
  readiness : c.phase = .positioning → l.invalidCounts.values.sum = 0

/-- The part of a source that a capture is about. -/
def Source.work (s : Source) : ℕ × (ℕ → List KeptFeature) × ℕ × ℕ × ℕ × Option Progress × List Progress :=
  (s.places, s.lists, s.completed, s.serial, s.totalTargets, s.progress, s.shown)

/-- A program that leaves that part as it is. -/
def Quiet {α : Type} (x : Capturing α) : Prop :=
  ∀ s, match x.run s with
    | .ok _ s' => s'.work = s.work
    | .error _ s' => s'.work = s.work

section

variable {env : SourceEnv} {c : CaptureSetup} {before s s' : Source} {l l' : CaptureLocals}
  {packet : CalibrationPacket} {α β : Type} {P : Source → Prop} {E : Stop → Source → Prop}

theorem Framed.congr (h : Framed env c before s) (same : s'.work = s.work) : Framed env c before s' := by
  simp only [Source.work, Prod.mk.injEq] at same
  obtain ⟨places, lists, completed, serial, totalTargets, -, shown⟩ := same
  constructor
  · rw [places, h.places]
  · rw [lists]
    exact h.kept
  · rw [lists]
    exact h.others
  · rw [completed, h.completed]
  · rw [serial, h.serial]
  · rw [totalTargets, h.totalTargets]
  · rw [shown]
    exact h.shown

theorem Running.congr (h : Running env c before l s) (same : s'.work = s.work) :
    Running env c before l s' := by
  refine ⟨h.toFramed.congr same, ?_, ?_, h.readiness⟩ <;>
  simp only [Source.work, Prod.mk.injEq] at same <;>
  obtain ⟨places, lists, completed, serial, totalTargets, progress, shown⟩ := same
  · rw [lists]
    exact h.counted
  · rw [progress]
    exact h.progress

/-- A quiet program keeps what depends on that part only. -/
theorem Quiet.triple {x : Capturing α} (quiet : Quiet x) (keeps : ∀ {s s'}, s'.work = s.work → P s → P s')
    (fails : ∀ e s, P s → E e s) : Triple P x (fun _ => P) E := by
  intro s holds
  have same := quiet s
  cases ran : x.run s with
  | ok a s' =>
    rw [ran] at same
    exact keeps same holds
  | error e s' =>
    rw [ran] at same
    exact fails e s' (keeps same holds)

theorem Quiet.bind {x : Capturing α} {f : α → Capturing β} (first : Quiet x) (rest : ∀ a, Quiet (f a)) :
    Quiet (x >>= f) := by
  intro s
  rw [EStateM.run_bind]
  have same := first s
  cases ran : x.run s with
  | error e s' =>
    rw [ran] at same
    exact same
  | ok a s' =>
    rw [ran] at same
    have later := rest a s'
    dsimp only
    cases ran' : (f a).run s' with
    | ok b s'' =>
      rw [ran'] at later
      exact later.trans same
    | error e s'' =>
      rw [ran'] at later
      exact later.trans same

theorem quiet_throw (e : Stop) : Quiet (throw e : Capturing α) := fun _ => rfl

theorem quiet_pure (a : α) : Quiet (pure a : Capturing α) := fun _ => rfl

theorem quiet_ite {p : Prop} [Decidable p] {x y : Capturing α} (yes : Quiet x) (no : Quiet y) :
    Quiet (if p then x else y) := by
  split
  · exact yes
  · exact no

theorem quiet_get : Quiet (get : Capturing Source) := fun _ => rfl

theorem quiet_readClock (env : SourceEnv) : Quiet (readClock env) := fun _ => rfl

theorem quiet_lookCancelled (env : SourceEnv) : Quiet (lookCancelled env) := fun _ => rfl

theorem quiet_checkCancelled (env : SourceEnv) : Quiet (checkCancelled env) := by
  unfold checkCancelled
  refine (quiet_readClock env).bind fun now => quiet_get.bind fun source => ?_
  refine quiet_ite (quiet_throw _) ((quiet_lookCancelled env).bind fun cancelled => ?_)
  exact quiet_ite (quiet_throw _) (quiet_pure _)

theorem quiet_checkViewport (viewport : ℕ × ℕ) : Quiet (checkViewport viewport) := by
  unfold checkViewport
  refine quiet_get.bind fun source => ?_
  split
  · exact fun _ => rfl
  · exact quiet_ite (quiet_throw _) (quiet_pure _)

/-! ## The parts of a turn -/

/-- Whatever stops the capture, the frame holds. -/
abbrev Stopped (env : SourceEnv) (c : CaptureSetup) (before : Source) : Stop → Source → Prop :=
  fun _ s => Framed env c before s

/-- A part of a turn that goes on with `l'`. -/
abbrev Goes (env : SourceEnv) (c : CaptureSetup) (before : Source) (x : Capturing α) (l : CaptureLocals)
    (l' : α → CaptureLocals) : Prop :=
  Triple (Running env c before l) x (fun a => Running env c before (l' a)) (Stopped env c before)

theorem goes_quiet {x : Capturing α} (quiet : Quiet x) : Goes env c before x l fun _ => l :=
  quiet.triple (fun same h => h.congr same) fun _ _ h => h.toFramed

/-- Locals that differ in what the invariant does not read. -/
theorem Running.locals (h : Running env c before l s) (total : l'.total = l.total)
    (invalidCounts : l'.invalidCounts = l.invalidCounts)
    (required : l'.requiredSamples = l.requiredSamples) : Running env c before l' s := by
  refine ⟨h.toFramed, ?_, ?_, ?_⟩
  · rw [invalidCounts, total]
    exact h.counted
  · rw [required]
    exact h.progress
  · rw [invalidCounts]
    exact h.readiness

theorem sum_countInvalid (l : CaptureLocals) (kind : String) :
    (l.countInvalid kind).invalidCounts.values.sum = l.invalidCounts.values.sum + 1 := by
  have added := @Dict.sum_insertWith _ _ String _ _ _ id (fun (count : Option ℕ) _ =>
    count.getD 0 + 1) id (fun _ => 1) (fun o _ => by cases o <;> rfl) l.invalidCounts kind
  exact added

theorem Running.countInvalid (h : Running env c before l s) (sampled : c.phase ≠ .positioning)
    (kind : String) : Running env c before (l.countInvalid kind) s := by
  refine ⟨h.toFramed, ?_, h.progress, fun positioning => absurd positioning sampled⟩
  rw [sum_countInvalid, ← add_assoc, h.counted]
  rfl

/-- The progress after an update. -/
theorem Running.show (h : Running env c before l s) {p : Progress} {required : ℕ}
    (shows : Shows env c before.totalTargets before.completed p) (same : p.requiredSamples = required) :
    Running env c before { l with requiredSamples := required } (s.show p) := by
  refine ⟨⟨h.places, h.kept, h.others, h.completed, h.serial, h.totalTargets, ?_⟩, h.counted,
    ⟨p, rfl, shows, same⟩, h.readiness⟩
  intro q member
  rcases List.mem_append.1 member with old | new
  · exact h.shown q old
  · rw [List.mem_singleton.1 new]
    exact .inr shows

/-- **An update** shows what the changes make of the progress. -/
theorem goes_update {changes : Progress → Progress} {required : ℕ}
    (shows : ∀ p, Shows env c before.totalTargets before.completed p →
      p.requiredSamples = l.requiredSamples →
      Shows env c before.totalTargets before.completed
        { changes p with totalTargets := before.totalTargets } ∧ (changes p).requiredSamples = required) :
    Goes env c before (update changes) l fun _ => { l with requiredSamples := required } := by
  refine Triple.modify fun s h => ?_
  obtain ⟨p, current, showing, same⟩ := h.progress
  obtain ⟨shown, kept⟩ := shows p showing same
  rw [current]
  dsimp only
  rw [h.totalTargets]
  exact h.show shown kept

/-- The capture's list is cleared with its counts. -/
theorem Running.clear (h : Running env c before l s) (total : l'.total = 0)
    (invalidCounts : l'.invalidCounts.values.sum = 0) (required : l'.requiredSamples = l.requiredSamples) :
    Running env c before l' { s with lists := Function.update s.lists c.features [] } := by
  refine ⟨⟨h.places, ?_, ?_, h.completed, h.serial, h.totalTargets, h.shown⟩, ?_, ?_, fun _ =>
    invalidCounts⟩
  · intro f member
    dsimp only at member
    rw [Function.update_self] at member
    exact absurd member List.not_mem_nil
  · intro place other
    exact (Function.update_of_ne other _ _).trans (h.others place other)
  · dsimp only
    rw [Function.update_self, invalidCounts, total]
    rfl
  · rw [required]
    exact h.progress

/-- A feature of the capture is kept. -/
theorem Running.append (h : Running env c before l s) (v : FeatureVector) :
    Running env c before { l with total := l.total + 1 } { s with
      lists := Function.update s.lists c.features (s.lists c.features ++ [⟨v, c.target, c.phase⟩]) } := by
  refine ⟨⟨h.places, ?_, ?_, h.completed, h.serial, h.totalTargets, h.shown⟩, ?_, h.progress,
    h.readiness⟩
  · intro f member
    dsimp only at member
    rw [Function.update_self] at member
    rcases List.mem_append.1 member with old | new
    · exact h.kept f old
    · rw [List.mem_singleton.1 new]
      exact ⟨rfl, rfl⟩
  · intro place other
    exact (Function.update_of_ne other _ _).trans (h.others place other)
  · dsimp only
    rw [Function.update_self, List.length_append, add_right_comm, h.counted]
    rfl

theorem goes_append (v : FeatureVector) :
    Goes env c before (appendTo c.features ⟨v, c.target, c.phase⟩) l fun _ =>
      { l with total := l.total + 1 } :=
  fun _ h => h.append v

theorem quiet_listAt (place : ℕ) : Quiet (listAt place) := fun _ => rfl

theorem goes_throw (e : Stop) {l' : α → CaptureLocals} : Goes env c before (throw e : Capturing α) l l' :=
  Triple.throw fun _ h => h.toFramed

/-- The locals after a turn. -/
def Turn.locals : Turn → CaptureLocals
  | .next l => l
  | .done l => l

/-! ### Positioning -/

theorem goes_clearUnstable (positioning : c.phase = .positioning) (state : PositioningState) :
    Goes env c before (clearUnstable c l state) l id := by
  unfold clearUnstable
  refine Triple.ite (fun _ => ?_) fun _ => Triple.pure fun _ h => h
  exact fun s h => h.clear rfl (h.readiness positioning) rfl

theorem goes_keepReady (hint : Hint) (values : Values) :
    Goes env c before (keepReady c l hint values) l id := by
  unfold keepReady
  split
  · exact (goes_append _).bind fun _ => Triple.pure fun _ h => h
  · exact goes_throw _
  · exact Triple.pure fun _ h => h

theorem goes_observePosition (positioning : c.phase = .positioning) (values : Values) (hint : Hint)
    {state : PositioningState} (steady : state.Steady) :
    Goes env c before (observePosition c l values hint state) l Turn.locals := by
  unfold observePosition
  refine (goes_clearUnstable positioning state).bind fun l => (goes_keepReady hint values).bind fun l =>
    (goes_quiet (quiet_listAt _)).bind fun kept => ?_
  refine Triple.bind (@goes_update _ _ _ _ _ l.requiredSamples fun p shows same => ⟨?_, same⟩)
    fun _ => ?_
  · refine { shows with accepted := ?_, totalTargets := rfl, positioning := ?_ }
    · have least : minSamples ≤ p.requiredSamples := by
        rcases shows.required with base | doubled
        · exact base.ge
        · rw [doubled]
          decide
      exact (min_le_left _ _).trans least
    · intro state' some
      cases some
      exact ⟨positioning, steady⟩
  · refine Triple.ite (fun _ => ?_) fun _ => ?_
    · exact Triple.pure fun _ h => h.locals rfl rfl rfl
    · exact Triple.pure fun _ h => h

theorem goes_positionTurn (positioning : c.phase = .positioning) (packet : CalibrationPacket) :
    Goes env c before (positionTurn c l packet) l Turn.locals := by
  unfold positionTurn
  split
  · exact goes_throw _
  · exact goes_throw _
  · exact (goes_observePosition positioning _ _ (PositioningGate.observe_steady _ _ _ _)).before
      fun _ h => h.locals rfl rfl rfl

/-! ### Sampling -/

/-- A new hint. -/
theorem goes_hint (hint : Hint) :
    Goes env c before (update fun progress => { progress with hint := hint }) l fun _ => l :=
  goes_update fun _ shows same => ⟨{ shows with totalTargets := rfl }, same⟩

theorem Running.countSettled (h : Running env c before l s) (sampled : c.phase ≠ .positioning) (ageMs : ℚ)
    (kind : String) : Running env c before (countSettled c l ageMs kind) s := by
  unfold Eye.countSettled
  split
  · exact h.countInvalid sampled kind
  · exact h

theorem goes_missTurn (sampled : c.phase ≠ .positioning) (ageMs : ℚ) (blink : Bool) :
    Goes env c before (missTurn c l ageMs blink) l Turn.locals := by
  unfold missTurn
  dsimp only
  generalize (if blink = true then "blink" else "no_face") = kind
  have counted := (@goes_hint env c before (countSettled c l ageMs kind)
    (if blink = true then .blink else .noFace)).before fun s (h : Running env c before l s) =>
      h.countSettled sampled ageMs kind
  refine counted.bind fun _ => Triple.pure fun s h => ?_
  unfold Turn.locals
  dsimp only
  split
  · exact h
  · exact h.locals rfl rfl rfl

theorem goes_dropMoved : Goes env c before (dropMoved c l) l id := by
  unfold dropMoved
  refine Triple.ite (fun _ => Triple.pure fun _ h => h) fun _ => ?_
  exact fun s h => h.clear rfl rfl rfl

theorem goes_settlePose (pose : Option (List ℚ)) : Goes env c before (settlePose c l pose) l id := by
  unfold settlePose
  refine Triple.ite (fun _ => ?_) fun _ => Triple.pure fun _ h => h.locals rfl rfl rfl
  refine goes_dropMoved.bind fun l => (goes_quiet (quiet_listAt _)).bind fun kept => ?_
  refine Triple.bind (@goes_update _ _ _ _ _ l.requiredSamples fun p shows same => ⟨?_, same⟩)
    fun _ => Triple.pure fun _ h => h.locals rfl rfl rfl
  exact { shows with accepted := (min_le_left _ _).trans same.ge, totalTargets := rfl }

theorem extend_spec (kept : ℕ) (span : ℚ) : (extend c l kept span).total = l.total ∧
    (extend c l kept span).invalidCounts = l.invalidCounts ∧
    ((extend c l kept span).requiredSamples = minSamples * 2 ∨
      (extend c l kept span).requiredSamples = l.requiredSamples) := by
  unfold extend
  split
  · exact ⟨rfl, rfl, .inl rfl⟩
  · exact ⟨rfl, rfl, .inr rfl⟩

theorem goes_keepSample (packet : CalibrationPacket) (v : FeatureVector) :
    Goes env c before (keepSample c l packet v) l Turn.locals := by
  unfold keepSample
  dsimp only
  refine (goes_append v).bind fun _ => (goes_quiet (quiet_listAt _)).bind fun kept => ?_
  obtain ⟨total, invalidCounts, required⟩ := extend_spec (c := c)
    (l := { l with firstSampleMs := some (l.firstSampleMs.getD packet.capturedMs), total := l.total + 1 })
    kept.length (packet.capturedMs - l.firstSampleMs.getD packet.capturedMs)
  generalize extend c _ kept.length _ = extended at total invalidCounts required ⊢
  refine Triple.bind (@goes_update _ _ _ _ _ extended.requiredSamples fun p shows same => ⟨?_, rfl⟩)
    fun _ => ?_
  · refine { shows with accepted := min_le_left _ _, required := ?_, totalTargets := rfl }
    rcases required with doubled | kept
    · exact .inr doubled
    · rcases shows.required with base | doubled
      · exact .inl (kept.trans (same.symm.trans base))
      · exact .inr (kept.trans (same.symm.trans doubled))
  · refine Triple.ite (fun _ => ?_) fun _ => ?_
    · exact Triple.pure fun _ h => h.locals total invalidCounts rfl
    · exact Triple.pure fun _ h => h.locals total invalidCounts rfl

theorem goes_vectorTurn (sampled : c.phase ≠ .positioning) (packet : CalibrationPacket) (ageMs : ℚ)
    (v : FeatureVector) : Goes env c before (vectorTurn c l packet ageMs v) l Turn.locals := by
  unfold vectorTurn
  refine (goes_settlePose _).bind fun l => ?_
  dsimp only
  refine Triple.ite (fun _ => Triple.pure fun s h => ?_) fun _ => ?_
  · unfold Turn.locals
    dsimp only
    have set : Running env c before
        { l with stableSince := some (l.stableSince.getD packet.capturedMs) } s := h.locals rfl rfl rfl
    split
    · exact set.countSettled sampled _ _
    · exact set
  · exact (goes_keepSample packet v).before fun _ h => h.locals rfl rfl rfl

theorem goes_sampleTurn (sampled : c.phase ≠ .positioning) (packet : CalibrationPacket) (ageMs : ℚ) :
    Goes env c before (sampleTurn c l packet ageMs) l Turn.locals := by
  unfold sampleTurn
  split
  · exact goes_throw _
  · exact goes_missTurn sampled ageMs _
  · exact goes_missTurn sampled ageMs _
  · exact Triple.pure fun s h => h.countSettled sampled _ _
  · exact goes_vectorTurn sampled packet ageMs _

/-! ### The loop -/

theorem goes_timedTurn (packet : CalibrationPacket) (presentedMs : ℚ) :
    Goes env c before (timedTurn c l packet presentedMs) l Turn.locals := by
  unfold timedTurn
  refine (goes_quiet (quiet_checkViewport _)).bind fun _ => ?_
  dsimp only
  refine Triple.ite (fun _ => Triple.pure fun _ h => h) fun _ => ?_
  exact Triple.ite (fun positioning => goes_positionTurn positioning packet)
    fun sampled => goes_sampleTurn sampled packet _

theorem goes_markedTurn (packet : CalibrationPacket) (marker : TargetMarker) :
    Goes env c before (markedTurn env c l packet marker) l Turn.locals := by
  unfold markedTurn
  refine Triple.ite (fun _ => Triple.pure fun _ h => h) fun _ => ?_
  refine (goes_quiet (quiet_readClock env)).bind fun now => ?_
  refine Triple.ite (fun _ => Triple.pure fun _ h => h) fun _ => ?_
  dsimp only
  refine Triple.ite (fun _ => Triple.pure fun _ h => h.locals rfl rfl rfl) fun _ => ?_
  exact (goes_timedTurn packet _).before fun _ h => h.locals rfl rfl rfl

/-- **One packet** keeps the invariant. -/
theorem goes_packetTurn (packet : CalibrationPacket) :
    Goes env c before (packetTurn env c l packet) l Turn.locals := by
  unfold packetTurn
  split
  · exact Triple.pure fun _ h => h
  · exact goes_markedTurn packet _

theorem quiet_takeQueue (rest : List (Option CalibrationPacket)) :
    Quiet (modify fun source => { source with queue := rest } : Capturing PUnit) := fun _ => rfl

/-- **The loop** keeps the invariant, by induction on what the queue gives. -/
theorem goes_captureLoop (started : ℚ) (gets : List (Option CalibrationPacket)) :
    Goes env c before (captureLoop env c started gets l) l id := by
  induction gets generalizing l with
  | nil =>
    unfold captureLoop
    refine (goes_quiet (quiet_readClock env)).bind fun now => ?_
    refine Triple.ite (fun _ => Triple.pure fun _ h => h) fun _ => ?_
    exact (goes_quiet (quiet_checkCancelled env)).bind fun _ => goes_throw _
  | cons got rest ih =>
    unfold captureLoop
    refine (goes_quiet (quiet_readClock env)).bind fun now => ?_
    refine Triple.ite (fun _ => Triple.pure fun _ h => h) fun _ => ?_
    refine (goes_quiet (quiet_checkCancelled env)).bind fun _ => ?_
    cases got with
    | none => exact (goes_quiet (quiet_takeQueue rest)).bind fun _ => ih
    | some packet =>
      refine (goes_quiet (quiet_takeQueue rest)).bind fun _ => (goes_packetTurn packet).bind fun turn => ?_
      cases turn with
      | next l => exact ih
      | done l => exact Triple.pure fun _ h => h

/-! ## A capture -/

/-- The setup of the capture that begins with this source. -/
def setupOf (env : SourceEnv) (target : ℚ × ℚ) (phase : Phase) (before : Source) : CaptureSetup :=
  ⟨"target-" ++ toString (before.serial + 1), target, phase,
    env.profileId == .fixedDense5 && phase != .positioning, before.places⟩

/-- What a capture returns and leaves. -/
structure Captured (env : SourceEnv) (c : CaptureSetup) (before : Source) (samples : Samples) (s : Source) :
    Prop where
  places : s.places = before.places + 1
  features : samples.features = c.features
  counted : (s.lists samples.features).length + samples.invalidCounts.values.sum = samples.total
  kept : ∀ f ∈ s.lists samples.features, f.target = c.target ∧ f.phase = c.phase
  others : ∀ place, place ≠ samples.features → s.lists place = before.lists place
  completed : s.completed = before.completed + 1
  serial : s.serial = before.serial + 1
  totalTargets : s.totalTargets = before.totalTargets
  progress : ∃ p, s.progress = some p ∧ Shows env c before.totalTargets (before.completed + 1) p
  shown : ∀ p ∈ s.shown, p ∈ before.shown ∨ ∃ completed, completed ≤ before.completed + 1 ∧
    Shows env c before.totalTargets completed p

/-- What a capture leaves that does not return: its features are gone, unless it still waits. -/
structure Failed (env : SourceEnv) (c : CaptureSetup) (before : Source) (e : Stop) (s : Source) : Prop where
  others : ∀ place, place ≠ before.places → s.lists place = before.lists place
  cleared : e ≠ .waiting →
    s.lists before.places = [] ∨ s.lists before.places = before.lists before.places
  completed : s.completed = before.completed
  totalTargets : s.totalTargets = before.totalTargets
  shown : ∀ p ∈ s.shown, p ∈ before.shown ∨ Shows env c before.totalTargets before.completed p

theorem failed_of_same (same : s.work = before.work) (e : Stop) : Failed env c before e s := by
  simp only [Source.work, Prod.mk.injEq] at same
  obtain ⟨-, lists, completed, -, totalTargets, -, shown⟩ := same
  refine ⟨fun place _ => by rw [lists], fun _ => .inr (by rw [lists]), completed, totalTargets, ?_⟩
  rw [shown]
  exact fun p member => .inl member

/-- The progress a capture begins with. -/
def firstProgress (env : SourceEnv) (c : CaptureSetup) (before : Source) : Progress where
  calibrationId := env.calibrationId
  profileId := env.profileId
  phase := c.phase
  targetId := c.targetId
  target := c.target
  acceptedSamples := 0
  requiredSamples := minSamples
  completedTargets := before.completed
  totalTargets := before.totalTargets
  hint := .followTarget
  positioning := none

theorem shows_first : Shows env c before.totalTargets before.completed (firstProgress env c before) :=
  ⟨rfl, rfl, rfl, rfl, rfl, Nat.zero_le _, .inl rfl, rfl, rfl, fun _ known => absurd known (Option.not_mem_none _)⟩

/-- A source whose target is shown. -/
def Presented (env : SourceEnv) (c : CaptureSetup) (before s : Source) : Prop :=
  s.work = (before.places, before.lists, before.completed, before.serial + 1, before.totalTargets,
    some (firstProgress env c before), before.shown ++ [firstProgress env c before])

theorem Presented.failed (h : Presented env c before s) (e : Stop) : Failed env c before e s := by
  unfold Presented at h
  simp only [Source.work, Prod.mk.injEq] at h
  obtain ⟨-, lists, completed, -, totalTargets, -, shown⟩ := h
  refine ⟨fun place _ => by rw [lists], fun _ => .inr (by rw [lists]), completed, totalTargets, ?_⟩
  rw [shown]
  intro p member
  rcases List.mem_append.1 member with old | new
  · exact .inl old
  · rw [List.mem_singleton.1 new]
    exact .inr shows_first

/-- The loop starts with the invariant. -/
theorem Presented.running (h : Presented env c before s) (place : c.features = before.places) :
    Running env c before .new { s with
      places := s.places + 1, lists := Function.update s.lists s.places [] } := by
  unfold Presented at h
  simp only [Source.work, Prod.mk.injEq] at h
  obtain ⟨places, lists, completed, serial, totalTargets, progress, shown⟩ := h
  have fresh : Function.update s.lists s.places [] c.features = [] := by
    rw [place, places, Function.update_self]
  refine ⟨⟨?_, ?_, ?_, completed, serial, totalTargets, ?_⟩, ?_, ⟨_, progress, shows_first, rfl⟩,
    fun _ => rfl⟩
  · dsimp only
    rw [places]
  · dsimp only
    rw [fresh]
    exact fun f member => absurd member List.not_mem_nil
  · intro place' other
    dsimp only
    rw [Function.update_of_ne (by rw [places, ← place]; exact other), lists]
  · dsimp only
    rw [shown]
    intro p member
    rcases List.mem_append.1 member with old | new
    · exact .inl old
    · rw [List.mem_singleton.1 new]
      exact .inr shows_first
  · dsimp only
    rw [fresh]
    rfl

/-- A capture that has run its loop completes, or its position was not ready. -/
theorem complete_spec : Triple (Running env c before l) (complete c l) (Captured env c before)
    (Stopped env c before) := by
  unfold complete
  refine Triple.ite (fun _ => Triple.throw fun _ h => h.toFramed) fun _ => ?_
  intro s h
  obtain ⟨p, current, shows, -⟩ := h.progress
  have completes : Shows env c before.totalTargets (before.completed + 1)
      { p with completedTargets := s.completed + 1, totalTargets := s.totalTargets } :=
    { shows with
      completedTargets := congrArg (· + 1) h.completed
      totalTargets := h.totalTargets }
  have ran : (do
      modify fun source => { source with completed := source.completed + 1 }
      let completed := (← get).completed
      update fun progress => { progress with completedTargets := completed }
      return ⟨c.features, l.total, l.invalidCounts, l.extended⟩ : Capturing Samples).run s =
      .ok ⟨c.features, l.total, l.invalidCounts, l.extended⟩ (({ s with completed := s.completed + 1 }).show
        { p with completedTargets := s.completed + 1, totalTargets := s.totalTargets }) := by
    rcases s with ⟨⟩
    cases current
    rfl
  rw [ran]
  refine ⟨h.places, rfl, h.counted, h.kept, h.others, congrArg (· + 1) h.completed, h.serial,
    h.totalTargets, ⟨_, rfl, completes⟩, fun q member => ?_⟩
  rcases List.mem_append.1 member with old | new
  · exact (h.shown q old).imp_right fun showed => ⟨_, Nat.le_succ _, showed⟩
  · rw [List.mem_singleton.1 new]
    exact .inr ⟨_, le_rfl, completes⟩

theorem Framed.failed (h : Framed env c before s) (place : c.features = before.places)
    (e : Stop) : Failed env c before e { s with lists := Function.update s.lists c.features [] } := by
  refine ⟨fun other ne => ?_, fun _ => .inl ?_, h.completed, h.totalTargets, h.shown⟩
  · exact (Function.update_of_ne (by rwa [place]) _ _).trans (h.others other (by rwa [place]))
  · dsimp only
    rw [place, Function.update_self]

theorem Framed.waiting (h : Framed env c before s) (place : c.features = before.places) :
    Failed env c before .waiting s :=
  ⟨fun other ne => h.others other (by rwa [place]), fun ne => absurd rfl ne, h.completed,
    h.totalTargets, h.shown⟩

/-- A cleanup brings what was raised into another condition. -/
theorem triple_onRaise {body : Capturing α} {cleanup : Capturing Unit} {Q : α → Source → Prop}
    {F : Stop → Source → Prop} (spec : Triple P body Q F) (waits : ∀ s, F .waiting s → E .waiting s)
    (cleans : ∀ e, Triple (F e) cleanup (fun _ => E e) E) : Triple P (onRaise body cleanup) Q E := by
  have raised (e : Stop) : Triple (F e) (cleanup >>= fun _ => throw e : Capturing α) Q E :=
    (cleans e).bind fun _ => Triple.throw fun _ h => h
  intro s holds
  unfold onRaise
  cases ran : body.run s with
  | ok a s' =>
    simp only [EStateM.run] at ran ⊢
    rw [ran]
    exact spec.ok holds ran
  | error e s' =>
    have stopped := spec.error holds ran
    simp only [EStateM.run] at ran ⊢
    rw [ran]
    cases e with
    | waiting => exact waits s' stopped
    | failure reason => exact raised _ s' stopped
    | raised => exact raised _ s' stopped

/-- **A capture** returns what it counted and kept, or leaves nothing behind. -/
theorem capture_spec (env : SourceEnv) (target : ℚ × ℚ) (phase : Phase) (before : Source) :
    Triple (· = before) (capture env target phase)
      (Captured env (setupOf env target phase before) before)
      (Failed env (setupOf env target phase before) before) := by
  unfold capture
  have checked : Triple (fun s => s.work = before.work) (checkCancelled env)
      (fun _ s => s.work = before.work) (Failed env (setupOf env target phase before) before) :=
    (quiet_checkCancelled env).triple (fun same h => same.trans h) fun e _ h => failed_of_same h e
  have presented : Triple (fun s => s.work = before.work) (present env target phase)
      (fun id s => id = (setupOf env target phase before).targetId ∧
        Presented env (setupOf env target phase before) before s)
      (Failed env (setupOf env target phase before) before) := by
    intro s same
    simp only [Source.work, Prod.mk.injEq] at same
    obtain ⟨places, lists, completed, serial, totalTargets, -, shown⟩ := same
    have named : "target-" ++ toString (s.serial + 1) = (setupOf env target phase before).targetId := by
      rw [serial]
      rfl
    refine ⟨named, ?_⟩
    have first : (⟨env.calibrationId, env.profileId, phase, "target-" ++ toString (s.serial + 1), target, 0,
        minSamples, s.completed, s.totalTargets, .followTarget, none⟩ : Progress) =
        firstProgress env (setupOf env target phase before) before := by
      rw [named, completed, totalTargets]
      rfl
    unfold Presented
    rw [← first, ← places, ← lists, ← completed, ← serial, ← totalTargets, ← shown]
    rfl
  refine (checked.before fun s same => by rw [same]).bind fun _ => presented.bind fun targetId => ?_
  refine Triple.assuming fun named => ?_
  have clocked : Triple (Presented env (setupOf env target phase before) before) (readClock env)
      (fun _ => Presented env (setupOf env target phase before) before)
      (Failed env (setupOf env target phase before) before) :=
    (quiet_readClock env).triple (fun same h => same.trans h) fun e _ h => h.failed e
  refine clocked.bind fun started => ?_
  have opened : Triple (Presented env (setupOf env target phase before) before) newList
      (fun place s => place = before.places ∧
        Running env (setupOf env target phase before) before .new s)
      (Failed env (setupOf env target phase before) before) := by
    intro s h
    have places : s.places = before.places := congrArg (·.1) h
    exact ⟨places, h.running rfl⟩
  refine opened.bind fun features => Triple.assuming fun placed => ?_
  rw [named, placed]
  refine triple_onRaise (F := Stopped env (setupOf env target phase before) before) ?_
    (fun s h => h.waiting rfl) fun e s h => h.failed rfl e
  exact (goes_quiet quiet_get).bind fun source =>
    (goes_captureLoop started source.queue).bind fun l => complete_spec

end

end Mkk.Eye
