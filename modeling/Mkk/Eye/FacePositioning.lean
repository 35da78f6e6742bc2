import Mkk.Lib.Value
import Mkk.Lib.Rounding

/-!
# Face positioning

`PositioningGate` of `face_positioning.py`: what it says of a face's placement and for how long the face
has been still.
-/

namespace Mkk.Eye

open Lib

/-- `POSITIONING_HOLD_MS` -/
def positioningHoldMs : ℤ := 1000

/-- `POSITIONING_TIMEOUT_SECONDS` -/
def positioningTimeoutSeconds : ℚ := 30

/-- `HINTS` of the calibration protocol. -/
inductive Hint where
  | followTarget | holdStill | noFace | blink | moreSamples | fitting | centerFace | moveCloser
  | moveBack | faceForward | eyesVisible | positionReady
  deriving DecidableEq

def Hint.text : Hint → String
  | followTarget => "follow_target"
  | holdStill => "hold_still"
  | noFace => "no_face"
  | blink => "blink"
  | moreSamples => "more_samples"
  | fitting => "fitting"
  | centerFace => "center_face"
  | moveCloser => "move_closer"
  | moveBack => "move_back"
  | faceForward => "face_forward"
  | eyesVisible => "eyes_visible"
  | positionReady => "position_ready"

/-- `FacePlacement` over one type of numbers. -/
structure FacePlacement (N : Type) where
  centerX : N
  centerY : N
  width : N
  height : N
  yaw : N
  pitch : N
  roll : N
  eyesVisible : Bool
  deriving DecidableEq

/-- A float that is finite. -/
def finite? : PyFloat → Option ℚ
  | .finite q => some q
  | _ => none

/-- The placement in exact numbers, when `np.isfinite(placement.vector()).all()`. -/
def FacePlacement.finite? (p : FacePlacement PyFloat) : Option (FacePlacement ℚ) := do
  return {
    centerX := ← Eye.finite? p.centerX
    centerY := ← Eye.finite? p.centerY
    width := ← Eye.finite? p.width
    height := ← Eye.finite? p.height
    yaw := ← Eye.finite? p.yaw
    pitch := ← Eye.finite? p.pitch
    roll := ← Eye.finite? p.roll
    eyesVisible := p.eyesVisible }

/-- `state` of `observe`. -/
structure PositioningState where
  faceDetected : Bool
  eyesVisible : Bool
  centered : Bool
  distanceOk : Bool
  facingForward : Bool
  stableMs : ℤ
  deriving DecidableEq

structure PositioningGate where
  anchor : Option (FacePlacement ℚ)
  startedMs : Option ℚ
  lastMs : Option ℚ
  deriving DecidableEq

namespace PositioningGate

/-- `reset` -/
def reset : PositioningGate := ⟨none, none, none⟩

/-- The limits of `drift` for the parts of a placement. -/
def Drifted (anchor p : FacePlacement ℚ) : Prop :=
  |p.centerX - anchor.centerX| > 0.025 ∨ |p.centerY - anchor.centerY| > 0.035 ∨
  |p.width - anchor.width| > 0.035 ∨ |p.height - anchor.height| > 0.045 ∨
  |p.yaw - anchor.yaw| > 0.06 ∨ |p.pitch - anchor.pitch| > 0.06 ∨ |p.roll - anchor.roll| > 0.06

instance (anchor p : FacePlacement ℚ) : Decidable (Drifted anchor p) :=
  inferInstanceAs (Decidable (_ ∨ _))

/-- The state of a placement before `stable_ms` is set. -/
def placed (p : FacePlacement ℚ) (usable : Bool) : PositioningState where
  faceDetected := true
  eyesVisible := p.eyesVisible && usable
  centered := decide (|p.centerX - 0.5| ≤ 0.12) && decide (|p.centerY - 0.5| ≤ 0.14)
  distanceOk := decide (0.32 ≤ p.height) && decide (p.height ≤ 0.78) && decide (0.12 ≤ p.width) &&
    decide (p.width ≤ 0.65)
  facingForward := decide (|p.yaw| ≤ 0.45) && decide (|p.pitch| ≤ 0.55) && decide (|p.roll| ≤ 0.25)
  stableMs := 0

/-- The hint for a placement that is not ready. -/
def placementHint (p : FacePlacement ℚ) (state : PositioningState) : Hint :=
  if p.height < 0.32 ∨ p.width < 0.12 then .moveCloser
  else if !state.distanceOk then .moveBack
  else if !state.centered then .centerFace
  else if !state.facingForward then .faceForward
  else .eyesVisible

/-- `observe` -/
def observe (gate : PositioningGate) (placement : Option (FacePlacement PyFloat)) (capturedMs : ℚ)
    (usable : Bool) : Hint × PositioningState × PositioningGate :=
  match placement.bind (·.finite?) with
  | none => (.noFace, ⟨false, false, false, false, false, 0⟩, reset)
  | some p =>
    let state := placed p usable
    if !(state.eyesVisible && state.centered && state.distanceOk && state.facingForward) then
      (placementHint p state, state, reset)
    else
      let drift := ∃ anchor ∈ gate.anchor, Drifted anchor p
      let gap := ∃ lastMs ∈ gate.lastMs, ¬(0 < capturedMs - lastMs ∧ capturedMs - lastMs ≤ 250)
      let (anchor, startedMs) :=
        if gate.anchor = none ∨ drift ∨ gap then (p, capturedMs)
        else (gate.anchor.getD p, gate.startedMs.getD capturedMs)
      (.positionReady,
        { state with stableMs := min positioningHoldMs (max 0 (roundHalfEven (capturedMs - startedMs))) },
        ⟨some anchor, some startedMs, some capturedMs⟩)

end PositioningGate

end Mkk.Eye
