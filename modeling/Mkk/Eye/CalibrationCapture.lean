import Mkk.Eye.FacePositioning
import Mkk.Lib.Dict
import Mathlib.Algebra.Order.Group.MinMax

/-!
# Synchronized capture

`SynchronizedCapture` of `calibration_capture.py`. A capture is a program on the source's state that reads
the clock, the cancel event and the frame queue; it waits where the queue has nothing more. What the
estimator reads in a packet's frame comes with the packet. `shown` keeps every value the progress has
had, since `progress()` may be called between any two assignments. A list of features has a place, so that
clearing it is seen by everyone who holds it, and a kept feature remembers what it was captured for.
-/

namespace Mkk.Eye

open Lib

/-- `MIN_SAMPLES` -/
def minSamples : ℕ := 15

/-- `SESSION_LIMITS.valid_ratio_min` -/
def sessionValidRatioMin : ℚ := 0.85

inductive Phase where
  | positioning | training | validation | repair | verification | fitting
  deriving DecidableEq

def Phase.text : Phase → String
  | positioning => "positioning"
  | training => "training"
  | validation => "validation"
  | repair => "repair"
  | verification => "verification"
  | fitting => "fitting"

inductive Profile where
  | adaptiveDense5 | adaptiveSparse16 | fixedDense5
  deriving DecidableEq

def Profile.text : Profile → String
  | adaptiveDense5 => "adaptive-dense5-v2"
  | adaptiveSparse16 => "adaptive-sparse16-v2"
  | fixedDense5 => "fixed-dense5-v2"

/-! ## Packets -/

/-- A finite one-dimensional feature vector. -/
abbrev FeatureVector : Type := List ℚ

/-- A feature vector that is kept, with the target and the phase it was captured in. -/
structure KeptFeature where
  vector : FeatureVector
  target : ℚ × ℚ
  phase : Phase
  deriving DecidableEq

/-- `values` of an extraction: none, not a finite vector, or a vector. -/
inductive Values where
  | missing
  | malformed
  | vector (v : FeatureVector)
  deriving DecidableEq

/-- What `extract_features` does with a frame. -/
inductive Extraction where
  | raises
  | extracted (values : Values) (blink : Bool)
  deriving DecidableEq

/-- What `extract_positioning` does with a frame. -/
inductive PositioningExtraction where
  | unavailable
  | raises
  | extracted (values : Values) (blink : Bool) (placement : Option (FacePlacement PyFloat))
  deriving DecidableEq

/-- `CalibrationPacket.marker` -/
structure TargetMarker where
  calibrationId : String
  targetId : String
  presentedAtMonoMs : ℚ
  deriving DecidableEq

/-- `CalibrationPacket`, with what the estimator makes of its frame. -/
structure CalibrationPacket where
  marker : Option TargetMarker
  capturedMs : ℚ
  receivedAt : ℚ
  viewport : ℕ × ℕ
  features : Extraction
  positioning : PositioningExtraction
  deriving DecidableEq

/-! ## State -/

/-- `_progress` -/
structure Progress where
  calibrationId : String
  profileId : Profile
  phase : Phase
  targetId : String
  target : ℚ × ℚ
  acceptedSamples : ℕ
  requiredSamples : ℕ
  completedTargets : ℕ
  totalTargets : ℕ
  hint : Hint
  positioning : Option PositioningState
  deriving DecidableEq

/-- Why a part of a calibration did not return. -/
inductive Stop where
  | failure (reason : String)
  | raised
  | waiting
  deriving DecidableEq

/-- What a source is created with, the clock by the number of its readings and the cancel event by the
number of looks at it. -/
structure SourceEnv where
  calibrationId : String
  profileId : Profile
  clock : ℕ → ℚ
  cancelled : ℕ → Bool

/-- The source; an absent deadline is infinite. -/
structure Source where
  readings : ℕ
  looks : ℕ
  queue : List (Option CalibrationPacket)
  deadline : Option ℚ
  viewport : Option (ℕ × ℕ)
  totalTargets : ℕ
  completed : ℕ
  serial : ℕ
  progress : Option Progress
  shown : List Progress
  places : ℕ
  lists : ℕ → List KeptFeature

/-- `SynchronizedCapture.__init__` -/
def Source.new (queue : List (Option CalibrationPacket)) : Source where
  readings := 0
  looks := 0
  queue := queue
  deadline := none
  viewport := none
  totalTargets := 34
  completed := 0
  serial := 0
  progress := none
  shown := []
  places := 0
  lists := fun _ => []

/-- A part of a capture. -/
abbrev Capturing (α : Type) : Type := EStateM Stop Source α

/-- `self.clock()` -/
def readClock (env : SourceEnv) : Capturing ℚ := do
  let source ← get
  modify fun source => { source with readings := source.readings + 1 }
  return env.clock source.readings

/-- `self.cancel.is_set()` -/
def lookCancelled (env : SourceEnv) : Capturing Bool := do
  let source ← get
  modify fun source => { source with looks := source.looks + 1 }
  return env.cancelled source.looks

/-- `check_cancelled` -/
def checkCancelled (env : SourceEnv) : Capturing Unit := do
  let now ← readClock env
  let deadline := (← get).deadline
  if ∃ d ∈ deadline, d ≤ now then throw (.failure "calibration_timed_out")
  else do
    let cancelled ← lookCancelled env
    if cancelled then throw (.failure "calibration_cancelled") else return

/-- `self._progress = progress` -/
def Source.show (source : Source) (progress : Progress) : Source :=
  { source with progress := some progress, shown := source.shown ++ [progress] }

/-- `_update` -/
def update (changes : Progress → Progress) : Capturing Unit :=
  modify fun source => match source.progress with
    | some progress => source.show { changes progress with totalTargets := source.totalTargets }
    | none => source

/-- `set_fitting` -/
def setFitting : Capturing Unit :=
  update fun progress => { progress with phase := .fitting, hint := .fitting }

/-! ### Lists of features -/

/-- `[]`, at a new place. -/
def newList : Capturing ℕ := do
  let source ← get
  modify fun source =>
    { source with places := source.places + 1, lists := Function.update source.lists source.places [] }
  return source.places

def listAt (place : ℕ) : Capturing (List KeptFeature) := do
  return (← get).lists place

def setList (place : ℕ) (features : List KeptFeature) : Capturing Unit :=
  modify fun source => { source with lists := Function.update source.lists place features }

/-- `features.append(...)` -/
def appendTo (place : ℕ) (feature : KeptFeature) : Capturing Unit :=
  modify fun source =>
    { source with lists := Function.update source.lists place (source.lists place ++ [feature]) }

/-- `features.clear()` -/
def clearList (place : ℕ) : Capturing Unit := setList place []

/-! ## One packet -/

/-- What is fixed during one capture. -/
structure CaptureSetup where
  targetId : String
  target : ℚ × ℚ
  phase : Phase
  fixed : Bool
  features : ℕ

namespace CaptureSetup

/-- `validation` -/
def validation (c : CaptureSetup) : Bool := c.phase == .validation || c.phase == .verification

/-- `settle_ms` -/
def settleMs (c : CaptureSetup) : ℚ :=
  if c.fixed then (if c.validation then 750 else 1000) else 350

/-- `limit` -/
def limit (c : CaptureSetup) : ℚ :=
  if c.phase = .positioning then positioningTimeoutSeconds else 3.5

end CaptureSetup

/-- The local variables of `capture` that its loop changes. -/
structure CaptureLocals where
  gate : PositioningGate
  positioned : Bool
  total : ℕ
  invalidCounts : Dict String ℕ
  requiredSamples : ℕ
  extended : Bool
  presentedMs : Option ℚ
  firstSampleMs : Option ℚ
  lastCaptured : ℚ
  poseAnchor : Option (List ℚ)
  stableSince : Option ℚ

def CaptureLocals.new : CaptureLocals where
  gate := .reset
  positioned := false
  total := 0
  invalidCounts := .empty
  requiredSamples := minSamples
  extended := false
  presentedMs := none
  firstSampleMs := none
  lastCaptured := -1
  poseAnchor := none
  stableSince := none

/-- `total += 1` and `invalid_counts[kind] += 1` -/
def CaptureLocals.countInvalid (l : CaptureLocals) (kind : String) : CaptureLocals :=
  { l with
    total := l.total + 1
    invalidCounts := l.invalidCounts.insertWith id (fun count _ => count.getD 0 + 1) kind }

/-- How the loop goes on after a packet: `continue` or `break`. -/
inductive Turn where
  | next (l : CaptureLocals)
  | done (l : CaptureLocals)

/-- `usable` -/
def usableEyes (values : Values) (blink : Bool) : Bool :=
  match values with
  | .vector _ => !blink
  | _ => false

/-- Readiness starts again when the face is not still. -/
def clearUnstable (c : CaptureSetup) (l : CaptureLocals) (state : PositioningState) :
    Capturing CaptureLocals :=
  if state.stableMs = 0 then do
    clearList c.features
    return { l with total := 0 }
  else return l

/-- The vector of a ready position. -/
def keepReady (c : CaptureSetup) (l : CaptureLocals) (hint : Hint) (values : Values) :
    Capturing CaptureLocals :=
  match hint, values with
  | .positionReady, .vector v => do
    appendTo c.features ⟨v, c.target, c.phase⟩
    return { l with total := l.total + 1 }
  -- not reached: the gate is ready only for a usable vector
  | .positionReady, _ => throw .raised
  | _, _ => return l

/-- What is observed of a placement, kept and shown. -/
def observePosition (c : CaptureSetup) (l : CaptureLocals) (values : Values) (hint : Hint)
    (state : PositioningState) : Capturing Turn := do
  let l ← clearUnstable c l state
  let l ← keepReady c l hint values
  let accepted := (← listAt c.features).length
  update fun progress =>
    { progress with
      hint := hint, positioning := some state, acceptedSamples := min minSamples accepted }
  if positioningHoldMs ≤ state.stableMs ∧ minSamples ≤ accepted then
    return .done { l with positioned := true }
  else return .next l

/-- A packet in the positioning phase. -/
def positionTurn (c : CaptureSetup) (l : CaptureLocals) (packet : CalibrationPacket) :
    Capturing Turn :=
  match packet.positioning with
  | .unavailable => throw (.failure "face_position_unavailable")
  | .raises => throw .raised
  | .extracted values blink placement =>
    let (observed, state, gate) := l.gate.observe placement packet.capturedMs (usableEyes values blink)
    let hint := if blink && observed == .eyesVisible then .blink else observed
    observePosition c { l with gate := gate } values hint state

/-- An invalid frame counts once the target has settled. -/
def countSettled (c : CaptureSetup) (l : CaptureLocals) (ageMs : ℚ) (kind : String) : CaptureLocals :=
  if c.settleMs ≤ ageMs then l.countInvalid kind else l

/-- A frame without usable eyes. -/
def missTurn (c : CaptureSetup) (l : CaptureLocals) (ageMs : ℚ) (blink : Bool) : Capturing Turn := do
  let l := countSettled c l ageMs (if blink then "blink" else "no_face")
  update fun progress => { progress with hint := if blink then .blink else .noFace }
  return .next (if c.validation then l else { l with stableSince := none })

/-- `values[-3:] if values.size > 3 else None` -/
def poseOf (v : FeatureVector) : Option (List ℚ) :=
  if 3 < v.length then some (v.drop (v.length - 3)) else none

/-- `np.max(np.abs(pose - anchor)) > .06` -/
def PoseMoved (pose anchor : List ℚ) : Prop := ∃ d ∈ List.zipWith (· - ·) pose anchor, |d| > 0.06

instance (pose anchor : List ℚ) : Decidable (PoseMoved pose anchor) :=
  inferInstanceAs (Decidable (∃ d ∈ _, _))

/-- What was kept before the head moved is dropped, unless it is being checked. -/
def dropMoved (c : CaptureSetup) (l : CaptureLocals) : Capturing CaptureLocals :=
  if c.validation then return l
  else do
    clearList c.features
    return { l with firstSampleMs := none, total := 0, invalidCounts := .empty }

/-- The comparison of a pose with its anchor. -/
def settlePose (c : CaptureSetup) (l : CaptureLocals) (pose : Option (List ℚ)) :
    Capturing CaptureLocals :=
  if ∃ p ∈ pose, ∃ anchor ∈ l.poseAnchor, PoseMoved p anchor then do
    let l ← dropMoved c l
    let kept := (← listAt c.features).length
    update fun progress =>
      { progress with acceptedSamples := min l.requiredSamples kept, hint := .holdStill }
    return { l with stableSince := none, poseAnchor := pose }
  else return { l with poseAnchor := l.poseAnchor.or pose }

/-- One more block of samples, for short gaps while checking. -/
def extend (c : CaptureSetup) (l : CaptureLocals) (kept : ℕ) (span : ℚ) : CaptureLocals :=
  if (c.validation && !c.fixed && !l.extended) ∧ minSamples ≤ kept ∧ 500 ≤ span ∧
      (kept : ℚ) / max 1 l.total < sessionValidRatioMin then
    { l with requiredSamples := minSamples * 2, extended := true }
  else l

/-- The capture has what it needs. -/
def Enough (c : CaptureSetup) (l : CaptureLocals) (kept : ℕ) (span : ℚ) : Prop :=
  if c.fixed then 1000 ≤ span ∨ 30 ≤ kept else l.requiredSamples ≤ kept ∧ 500 ≤ span

instance (c : CaptureSetup) (l : CaptureLocals) (kept : ℕ) (span : ℚ) : Decidable (Enough c l kept span) := by
  unfold Enough
  infer_instance

/-- A sample that is kept. -/
def keepSample (c : CaptureSetup) (l : CaptureLocals) (packet : CalibrationPacket)
    (v : FeatureVector) : Capturing Turn := do
  let firstSampleMs := l.firstSampleMs.getD packet.capturedMs
  let span := packet.capturedMs - firstSampleMs
  appendTo c.features ⟨v, c.target, c.phase⟩
  let kept := (← listAt c.features).length
  let l := extend c { l with firstSampleMs := some firstSampleMs, total := l.total + 1 } kept span
  update fun progress =>
    { progress with
      acceptedSamples := min l.requiredSamples kept
      requiredSamples := l.requiredSamples
      hint := .moreSamples }
  if Enough c l kept span then return .done l else return .next l

/-- A frame with a finite feature vector. -/
def vectorTurn (c : CaptureSetup) (l : CaptureLocals) (packet : CalibrationPacket) (ageMs : ℚ)
    (v : FeatureVector) : Capturing Turn := do
  let l ← settlePose c l (poseOf v)
  let stableSince := l.stableSince.getD packet.capturedMs
  let l := { l with stableSince := some stableSince }
  if ageMs < c.settleMs ∨ packet.capturedMs - stableSince < 150 then
    return .next (if c.validation then countSettled c l ageMs "stabilizing" else l)
  else keepSample c l packet v

/-- A packet in another phase. -/
def sampleTurn (c : CaptureSetup) (l : CaptureLocals) (packet : CalibrationPacket) (ageMs : ℚ) :
    Capturing Turn :=
  match packet.features with
  | .raises => throw .raised
  | .extracted .missing blink => missTurn c l ageMs blink
  | .extracted _ true => missTurn c l ageMs true
  | .extracted .malformed false =>
    return .next (countSettled c l ageMs "invalid_features")
  | .extracted (.vector v) false => vectorTurn c l packet ageMs v

/-- `self.viewport` is that of the first packet. -/
def checkViewport (viewport : ℕ × ℕ) : Capturing Unit := do
  match (← get).viewport with
  | none => modify fun source => { source with viewport := some viewport }
  | some held => if held ≠ viewport then throw (.failure "viewport_changed") else return

/-- A packet whose marker names the target, presented at `presentedMs` first. -/
def timedTurn (c : CaptureSetup) (l : CaptureLocals) (packet : CalibrationPacket) (presentedMs : ℚ) :
    Capturing Turn := do
  checkViewport packet.viewport
  let ageMs := packet.capturedMs - presentedMs
  if ageMs < max 0 (c.settleMs - 150) ∨ c.limit * 1000 < ageMs then return .next l
  else if c.phase = .positioning then positionTurn c l packet
  else sampleTurn c l packet ageMs

/-- A packet with a marker. -/
def markedTurn (env : SourceEnv) (c : CaptureSetup) (l : CaptureLocals) (packet : CalibrationPacket)
    (marker : TargetMarker) : Capturing Turn :=
  if marker.calibrationId ≠ env.calibrationId ∨ marker.targetId ≠ c.targetId then return .next l
  else do
    let now ← readClock env
    if now - packet.receivedAt > 0.25 ∨ packet.capturedMs ≤ l.lastCaptured then return .next l
    else
      let presentedMs := l.presentedMs.getD marker.presentedAtMonoMs
      let l := { l with lastCaptured := packet.capturedMs, presentedMs := some presentedMs }
      if marker.presentedAtMonoMs ≠ presentedMs then return .next l
      else timedTurn c l packet presentedMs

/-- The body of the loop for a packet. -/
def packetTurn (env : SourceEnv) (c : CaptureSetup) (l : CaptureLocals) (packet : CalibrationPacket) :
    Capturing Turn :=
  match packet.marker with
  | none => return .next l
  | some marker => markedTurn env c l packet marker

/-! ## A capture -/

/-- The loop, over what the queue gives. -/
def captureLoop (env : SourceEnv) (c : CaptureSetup) (started : ℚ) :
    List (Option CalibrationPacket) → CaptureLocals → Capturing CaptureLocals
  | gets, l => do
    let now ← readClock env
    if c.limit ≤ now - started then return l
    else do
      checkCancelled env
      match gets with
      | [] => throw .waiting
      | none :: rest => do
        modify fun source => { source with queue := rest }
        captureLoop env c started rest l
      | some packet :: rest => do
        modify fun source => { source with queue := rest }
        match ← packetTurn env c l packet with
        | .next l => captureLoop env c started rest l
        | .done l => return l

/-- `except BaseException`: the cleanup runs when the body raises, not while it waits. -/
def onRaise {α : Type} (body : Capturing α) (cleanup : Capturing Unit) : Capturing α := fun source =>
  match body.run source with
  | .ok a source => .ok a source
  | .error .waiting source => .error .waiting source
  | .error e source => (cleanup >>= fun _ => throw e : Capturing α).run source

/-- `Samples`; the features are a place. -/
structure Samples where
  features : ℕ
  total : ℕ
  invalidCounts : Dict String ℕ
  extended : Bool

/-- A new target is shown. -/
def present (env : SourceEnv) (target : ℚ × ℚ) (phase : Phase) : Capturing String := do
  modify fun source => { source with serial := source.serial + 1 }
  let source ← get
  let targetId := "target-" ++ toString source.serial
  modify fun source => source.show {
    calibrationId := env.calibrationId, profileId := env.profileId, phase := phase
    targetId := targetId, target := target, acceptedSamples := 0, requiredSamples := minSamples
    completedTargets := source.completed, totalTargets := source.totalTargets
    hint := .followTarget, positioning := none }
  return targetId

/-- The capture after its loop. -/
def complete (c : CaptureSetup) (l : CaptureLocals) : Capturing Samples :=
  if c.phase = .positioning ∧ !l.positioned then throw (.failure "face_position_not_ready")
  else do
    modify fun source => { source with completed := source.completed + 1 }
    let completed := (← get).completed
    update fun progress => { progress with completedTargets := completed }
    return ⟨c.features, l.total, l.invalidCounts, l.extended⟩

/-- `capture` -/
def capture (env : SourceEnv) (target : ℚ × ℚ) (phase : Phase) : Capturing Samples := do
  checkCancelled env
  let targetId ← present env target phase
  let started ← readClock env
  let features ← newList
  let c : CaptureSetup :=
    ⟨targetId, target, phase, env.profileId == .fixedDense5 && phase != .positioning, features⟩
  onRaise (do
    let queue := (← get).queue
    let l ← captureLoop env c started queue .new
    complete c l) (clearList features)

end Mkk.Eye
