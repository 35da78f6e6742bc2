import Mkk.Eye.FacePositioning
import Mkk.Lib.Hoare
import Mkk.Lib.Roots

/-!
# The gaze stabilizer

`GazeStabilizer` of `gaze_stabilizer.py` in exact arithmetic: which live points are confirmed, and that a
jump is confirmed only by two points close to each other.
-/

namespace Mkk.Eye

open Lib

/-! ## The policy -/

def rapidShiftDistanceDiagonal : ℚ := 35 / 100

def rapidShiftSpeedDiagonalPerSecond : ℚ := 3

def rapidShiftConfirmDistanceDiagonal : ℚ := 12 / 100

def rapidShiftConfirmWindowMs : ℚ := 120

def invalidResetGapMs : ℚ := 500

/-- `rel_tol` and `abs_tol` of the comparisons. -/
def closeTolerance : ℚ := 1 / 10 ^ 12

/-- A smoother and its factory. Both may raise. -/
structure Smoothing (S ε : Type) where
  create : ℤ × ℤ → ℚ → Except ε S
  step : S → ℤ × ℤ → Except ε (ℚ × ℚ) × S

/-- What the constructor checks and keeps. -/
structure StabilizerConfig (S ε : Type) where
  width : ℤ
  height : ℤ
  emaAlpha : ℚ
  smoothing : Smoothing S ε
  widthPos : 0 < width
  heightPos : 0 < height
  alphaUnit : 0 ≤ emaAlpha ∧ emaAlpha ≤ 1

/-- A valid decision has coordinates only, an invalid one a reason only. -/
inductive StabilizerDecision where
  | valid (xPx yPx : ℤ)
  | invalid (reason : String)
  deriving DecidableEq

structure RapidShiftCandidate where
  point : ℤ × ℤ
  capturedAtMonoMs : ℚ
  deriving DecidableEq

/-- What is done with a point, or to the state. The stabilizer keeps no such record. -/
inductive Deed where
  | confirmed (point : ℤ × ℤ) (atMs : ℚ)
  | held (candidate : RapidShiftCandidate)
  | gap (lastMs nowMs : ℚ)
  | asked
  deriving DecidableEq

structure StabilizerState (S : Type) where
  smoother : Option S := none
  pending : Option RapidShiftCandidate := none
  lastConfirmedPoint : Option (ℤ × ℤ) := none
  lastConfirmedAtMs : Option ℚ := none
  lastValidInputAtMs : Option ℚ := none
  /-- What has been done, the latest first. -/
  deeds : List Deed := []

inductive StabilizerError (ε : Type) where
  | timestamp
  | smoother (e : ε)

abbrev Stabilizing (S ε : Type) := EStateM (StabilizerError ε) (StabilizerState S)

/-- `int(value)` -/
def truncate (q : ℚ) : ℤ := q.num.tdiv q.den

/-- `_greater_than_or_equal` of a square root. -/
def greaterThanOrEqual (value : Root) (boundary : ℚ) : Bool :=
  value.atLeast (boundary - max (closeTolerance * boundary) closeTolerance)

/-- `_less_than_or_equal` of a square root, for a boundary well below one. -/
def lessThanOrEqual (value : Root) (boundary : ℚ) : Bool := value.atMost (boundary + closeTolerance)

/-- `_validate_timestamp` -/
def validateTimestamp {S ε : Type} : PyFloat → Stabilizing S ε ℚ
  | .finite ms => if ms < 0 then throw .timestamp else return ms
  | _ => throw .timestamp

namespace StabilizerState

variable {S : Type}

/-- `reset`, with the deed it is. -/
def reset (s : StabilizerState S) (deed : Deed) : StabilizerState S := { deeds := deed :: s.deeds }

/-- The state after more than `INVALID_RESET_GAP_MS` without a valid input. -/
def resetAfterGap (now : ℚ) (s : StabilizerState S) : StabilizerState S :=
  match s.lastValidInputAtMs with
  | some last => if invalidResetGapMs < now - last then s.reset (.gap last now) else s
  | none => s

/-- A candidate that has waited too long is dropped. -/
def expire (now : ℚ) (s : StabilizerState S) : StabilizerState S :=
  { s with pending := s.pending.filter fun c =>
      !decide (rapidShiftConfirmWindowMs < now - c.capturedAtMonoMs) }

end StabilizerState

section

variable {S ε : Type} (c : StabilizerConfig S ε)

/-- `_distance_ratio` -/
def distanceRatio (first second : ℤ × ℤ) : Root :=
  (Root.hypot ((first.1 : ℚ) - second.1) ((first.2 : ℚ) - second.2)).div (Root.hypot c.width c.height)

/-- The comparison of `speed`, which is infinite when no time has passed. -/
def fastEnough (ratio : Root) (elapsedMs : ℚ) : Bool :=
  decide (elapsedMs ≤ 0) ||
    greaterThanOrEqual (ratio.div (Root.ofRat (elapsedMs / 1000))) rapidShiftSpeedDiagonalPerSecond

/-- `0 <= x <= width` and `0 <= y <= height` -/
def inViewport (x y : ℚ) : Bool := decide ((0 ≤ x ∧ x ≤ c.width) ∧ 0 ≤ y ∧ y ≤ c.height)

/-- The smoother that takes the point. -/
def smootherFor (point : ℤ × ℤ) ( reinitialize : Bool) : Stabilizing S ε S := do
  match (← get).smoother, reinitialize with
  | some smoother, false => return smoother
  | _, _ =>
    match c.smoothing.create point c.emaAlpha with
    | .ok smoother =>
      modify fun s => { s with smoother := some smoother }
      return smoother
    | .error e => throw (.smoother e)

/-- `_accept` -/
def accept (point : ℤ × ℤ) (now : ℚ) ( reinitialize : Bool) : Stabilizing S ε StabilizerDecision := do
  modify fun s => { s with
    lastConfirmedPoint := some point, lastConfirmedAtMs := some now, deeds := .confirmed point now :: s.deeds }
  let smoother ← smootherFor c point reinitialize
  let stepped := c.smoothing.step smoother point
  modify fun s => { s with smoother := some stepped.2 }
  match stepped.1 with
  | .error e => throw (.smoother e)
  | .ok filtered =>
    if inViewport c filtered.1 filtered.2 then return .valid (truncate filtered.1) (truncate filtered.2)
    else return .invalid "outside_viewport"

/-- `_evaluate_from_confirmed` -/
def evaluateFromConfirmed (point : ℤ × ℤ) (now : ℚ) : Stabilizing S ε StabilizerDecision := do
  let s ← get
  match s.lastConfirmedPoint, s.lastConfirmedAtMs with
  | some last, some atMs =>
    let ratio := distanceRatio c point last
    if greaterThanOrEqual ratio rapidShiftDistanceDiagonal && fastEnough ratio (now - atMs) then
      modify fun s => { s with
        pending := some ⟨point, now⟩, deeds := .held ⟨point, now⟩ :: s.deeds }
      return .invalid "rapid_shift_pending"
    else accept c point now false
  | _, _ => accept c point now true

/-- `confirms_pending` -/
def confirms (pending : RapidShiftCandidate) (point : ℤ × ℤ) (now : ℚ) : Bool :=
  decide (now - pending.capturedAtMonoMs ≤ rapidShiftConfirmWindowMs) &&
    lessThanOrEqual (distanceRatio c point pending.point) rapidShiftConfirmDistanceDiagonal

/-- What `process_valid` does with a point that comes in order. -/
def consider (point : ℤ × ℤ) (now : ℚ) : Stabilizing S ε StabilizerDecision := do
  modify fun s => { s.resetAfterGap now with lastValidInputAtMs := some now }
  match (← get).pending with
  | some pending =>
    modify fun s => { s with pending := none }
    if confirms c pending point now then accept c point now true
    else evaluateFromConfirmed c point now
  | none => evaluateFromConfirmed c point now

/-- `process_valid` -/
def processValid (xPx yPx capturedAtMonoMs : PyFloat) : Stabilizing S ε StabilizerDecision := do
  let now ← validateTimestamp capturedAtMonoMs
  match finite? xPx, finite? yPx with
  | some x, some y =>
    if inViewport c x y then
      if (← get).lastValidInputAtMs.any fun last => decide (now < last) then
        return .invalid "out_of_order"
      else consider c (roundHalfEven x, roundHalfEven y) now
    else return .invalid "outside_viewport"
  | _, _ => return .invalid "invalid_prediction"

/-- `observe_invalid` -/
def observeInvalid (capturedAtMonoMs : PyFloat) (reason : String) : Stabilizing S ε StabilizerDecision := do
  let now ← validateTimestamp capturedAtMonoMs
  modify fun s => (s.expire now).resetAfterGap now
  return .invalid reason

inductive StabilizerCall where
  | processValid (xPx yPx capturedAtMonoMs : PyFloat)
  | observeInvalid (capturedAtMonoMs : PyFloat) (reason : String)
  | reset

/-- The state a call leaves, also when it raises. -/
def StabilizerCall.after (s : StabilizerState S) : StabilizerCall → StabilizerState S
  | .processValid x y ms => leftBy ((Eye.processValid c x y ms).run s)
  | .observeInvalid ms reason => leftBy ((Eye.observeInvalid ms reason : Stabilizing S ε _).run s)
  | .reset => s.reset .asked

/-- The decision a call returns, if any. -/
def StabilizerCall.decision (s : StabilizerState S) : StabilizerCall → Option StabilizerDecision
  | .processValid x y ms => returnedBy ((Eye.processValid c x y ms).run s)
  | .observeInvalid ms reason => returnedBy ((Eye.observeInvalid ms reason : Stabilizing S ε _).run s)
  | .reset => none

/-- The state after a sequence of calls on a new stabilizer. -/
def stabilized (calls : List StabilizerCall) : StabilizerState S :=
  calls.foldl (StabilizerCall.after c) {}

end

end Mkk.Eye
