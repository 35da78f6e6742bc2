import Mkk.Gateway.Joiner
import Mkk.Lib.Lts

/-!
# The in-process gateway

`InProcessVisionGateway` of `gateway.py`, as a transition system: each section under the lock is one step,
and between its two locked sections `dispatch_next` goes through its own stages while other threads call the
gateway.
-/

namespace Mkk.Gateway.Harness

open Lib
open Eye (StreamFrameContext)

/-! ## State -/

inductive TransportMode where
  | synthetic
  | replay
  | cameraDevelopment
  deriving DecidableEq

/-- `VisionHandshake` -/
structure VisionHandshake where
  sessionId : String
  videoId : String
  mode : TransportMode
  required : sessionId ≠ "" ∧ videoId ≠ ""
  deriving DecidableEq

/-- `FrameEnvelope` -/
structure FrameEnvelope where
  context : StreamFrameContext
  required : context.sessionId ≠ "" ∧ context.videoId ≠ "" ∧ context.frameId ≠ ""
  even : context.sequence % 2 = 0
  nonneg : 0 ≤ context.capturedAtMonoMs
  deriving DecidableEq

inductive SessionState where
  | new
  | connected
  | disconnected
  | cancelled
  | closed
  deriving DecidableEq

/-- The state that `cancel` or `close` asks for. -/
def SessionState.final (cancelled : Bool) : SessionState := if cancelled then .cancelled else .closed

inductive DropReason where
  | superseded
  | cancelled
  | disconnected
  deriving DecidableEq

/-- `DropNotice` -/
structure DropNotice where
  frameId : String
  reason : DropReason
  deriving DecidableEq

inductive DeliveryOrder where
  | eyeFirst
  | faceFirst
  deriving DecidableEq

/-- `WorkerObservation`; whether its frame is closed when the adapter is done. -/
structure FaceObservation where
  sample : ExpressionSample
  latencyMs : ℚ
  deferred : Bool

/-- What `dispatch_next` returns or raises. -/
abbrev DispatchResult := Except Unit (Option DerivedObservation)

/-- Where the dispatch of a frame is. `pushed` holds what the first push gave, and whether the joiner was
cleared since. -/
inductive Stage where
  | idle
  | taken (e : FrameEnvelope)
  | inferred (e : FrameEnvelope) (gaze : D7GazeSample)
  | working (e : FrameEnvelope) (gaze : D7GazeSample)
  | processed (e : FrameEnvelope) (gaze : D7GazeSample) (face : FaceObservation)
  | ready (e : FrameEnvelope) (gaze : D7GazeSample) (face : FaceObservation)
  | pushed (e : FrameEnvelope) (gaze : D7GazeSample) (face : FaceObservation)
      (first : Option DerivedObservation) (cleared : Bool)
  | joined (e : FrameEnvelope) (result : Option DerivedObservation) (deferred cleared : Bool)
  | leaving (e : FrameEnvelope) (result : DispatchResult) (deferred cleared : Bool)
  | deferred

/-- What became of an envelope that left `_pending`. -/
inductive Fate where
  | dispatched
  | dropped (reason : DropReason)
  deriving DecidableEq

/-- A call of `dispatch_next` that ended, and whether the joiner was cleared between its pushes. -/
structure Dispatch where
  envelope : FrameEnvelope
  result : DispatchResult
  cleared : Bool

/-- `ReplayEyePort`, with coordinates that its constructor accepted. -/
structure ReplayEyePort where
  coordinates : List (ℚ × ℚ)
  cursor : ℕ := 0
  closed : Bool := false
  nonempty : coordinates ≠ []
  normalized : ∀ point ∈ coordinates, (0 ≤ point.1 ∧ point.1 ≤ 1) ∧ 0 ≤ point.2 ∧ point.2 ≤ 1

/-- The gateway, with the envelopes that were offered, those that left `_pending`, and the dispatches that
ended, each in order. -/
structure InProcessVisionGateway where
  deliveryOrder : DeliveryOrder
  eyePort : ReplayEyePort
  worker : Bool := false
  handshake : Option VisionHandshake := none
  pending : Option FrameEnvelope := none
  inFlight : Bool := false
  state : SessionState := .new
  restartPending : Bool := false
  joiner : ObservationJoiner := { toleranceMs := 100 }
  dropNotices : List DropNotice := []
  /-- A call of `_finish` has still to close the port. -/
  finishing : Bool := false
  stage : Stage := .idle
  offered : List FrameEnvelope := []
  left : List (FrameEnvelope × Fate) := []
  dispatches : List Dispatch := []

/-! ## Steps -/

/-- What the dispatch under way does between its locked sections. A factory, a start or a call that raises is
one that fails. -/
inductive Move where
  | frameFails
  | infer
  | readWorker
  | workerFails
  | workerEnds (observation : FaceObservation)
  | checkRestart (started : Bool)
  | pushFirst
  | pushSecond
  | flush

/-- The locked sections, and the moves between them. -/
inductive Step where
  | connect (handshake : VisionHandshake) (created started : Bool)
  | offer (envelope : FrameEnvelope)
  | restartWorker (closed created : Bool)
  | disconnect
  | finish (cancelled : Bool)
  | closeEye
  | take
  | move (m : Move)
  | leave
  | release

/-- `f"gaze-d7-{sha256(material)}"` of the five parts. -/
abbrev GazeEventId := StreamFrameContext → ℚ → ℚ → String

namespace ReplayEyePort

/-- `self._coordinates[self._cursor % len(self._coordinates)]` -/
def point (port : ReplayEyePort) : ℚ × ℚ :=
  port.coordinates.get ⟨port.cursor % port.coordinates.length,
    Nat.mod_lt _ (List.length_pos_of_ne_nil port.nonempty)⟩

/-- `infer`; a closed port raises. -/
def infer (eventId : GazeEventId) (port : ReplayEyePort) (e : FrameEnvelope) :
    Option D7GazeSample × ReplayEyePort :=
  if port.closed then (none, port)
  else
    let (x, y) := port.point
    (some ⟨e.context, eventId e.context x y, some x, some y, true, 9 / 10, none⟩,
      { port with cursor := port.cursor + 1 })

end ReplayEyePort

namespace InProcessVisionGateway

variable (g : InProcessVisionGateway)

/-- An envelope leaves `_pending`. -/
def drop (reason : DropReason) : InProcessVisionGateway :=
  match g.pending with
  | none => g
  | some e =>
    { g with
      pending := none
      dropNotices := g.dropNotices ++ [⟨e.context.frameId, reason⟩]
      left := g.left ++ [(e, .dropped reason)] }

/-- `_joiner.clear()`, which the dispatch under way may meet between its pushes. -/
def clearJoiner : InProcessVisionGateway :=
  { g with
    joiner := g.joiner.clear
    stage := match g.stage with
      | .pushed e gaze face first _ => .pushed e gaze face first true
      | stage => stage }

/-- `connect` -/
def connect (handshake : VisionHandshake) (created started : Bool) : InProcessVisionGateway :=
  if g.state = .cancelled ∨ g.state = .closed then g
  else if g.handshake.any fun active => decide (handshake ≠ active) then g
  else if g.state = .connected then g
  else if !created then { g with handshake := some handshake }
  else if !started then { g with handshake := some handshake, worker := true }
  else { g with handshake := some handshake, worker := true, state := .connected }

/-- `_require_connected` -/
def accepts (e : FrameEnvelope) : Bool :=
  decide (g.state = .connected) && g.handshake.any fun active =>
    decide (e.context.sessionId = active.sessionId) && decide (e.context.videoId = active.videoId)

/-- `offer` -/
def offer (e : FrameEnvelope) : InProcessVisionGateway :=
  if g.accepts e then { g.drop .superseded with pending := some e, offered := g.offered ++ [e] } else g

/-- `restart_worker` -/
def restartWorker (closed created : Bool) : InProcessVisionGateway :=
  if g.state ≠ .connected then g
  else if g.worker && !closed then g
  else if !created then g
  else { g with worker := true, restartPending := true }

/-- `disconnect` under the lock. -/
def disconnect : InProcessVisionGateway := { (g.drop .disconnected).clearJoiner with worker := false, state := .disconnected }

/-- `_finish` under the lock. -/
def finish (cancelled : Bool) : InProcessVisionGateway :=
  if g.state = .final cancelled then g
  else { (g.drop .cancelled).clearJoiner with worker := false, state := .final cancelled, finishing := true }

/-- `self._eye_port.close()` at the end of `_finish`. -/
def closeEye : Option InProcessVisionGateway :=
  if g.finishing then some { g with eyePort := { g.eyePort with closed := true } } else none

/-- The first locked section of `dispatch_next`, when it takes the pending envelope. -/
def take : Option InProcessVisionGateway :=
  match g.pending with
  | none => none
  | some e =>
    if g.state = .connected ∧ g.inFlight = false then
      some { g with
        pending := none, inFlight := true, stage := .taken e, left := g.left ++ [(e, .dispatched)] }
    else none

/-- The push that comes first in the delivery order, or second. -/
def push (gazeFirst : Bool) (gaze : D7GazeSample) (face : FaceObservation) :
    Option DerivedObservation × ObservationJoiner :=
  if gazeFirst = decide (g.deliveryOrder = .eyeFirst) then g.joiner.pushGaze gaze
  else g.joiner.pushFace face.sample face.latencyMs

/-- The `finally` of `dispatch_next`; a frame that is closed later keeps the gateway busy. -/
def leave : Option InProcessVisionGateway :=
  match g.stage with
  | .leaving e result true cleared =>
    some { g with stage := .deferred, dispatches := g.dispatches ++ [⟨e, result, cleared⟩] }
  | .leaving e result false cleared =>
    some { g with stage := .idle, inFlight := false, dispatches := g.dispatches ++ [⟨e, result, cleared⟩] }
  | _ => none

/-- The callback of `adapter_completion`. -/
def release : Option InProcessVisionGateway :=
  match g.stage with
  | .deferred => some { g with stage := .idle, inFlight := false }
  | _ => none

/-- A move of the dispatch; `none` when it is not at that point. -/
def move (eventId : GazeEventId) : Move → Option InProcessVisionGateway
  | .frameFails =>
    match g.stage with
    | .taken e => some { g with stage := .leaving e (.error ()) false false }
    | _ => none
  | .infer =>
    match g.stage with
    | .taken e =>
      match g.eyePort.infer eventId e with
      | (none, eyePort) => some { g with eyePort := eyePort, stage := .leaving e (.error ()) false false }
      | (some gaze, eyePort) => some { g with eyePort := eyePort, stage := .inferred e gaze }
    | _ => none
  | .readWorker =>
    match g.stage with
    | .inferred e gaze =>
      some { g with stage := if g.worker then .working e gaze else .leaving e (.error ()) false false }
    | _ => none
  | .workerFails =>
    match g.stage with
    | .working e _ => some { g with stage := .leaving e (.error ()) false false }
    | _ => none
  | .workerEnds observation =>
    match g.stage with
    | .working e gaze => some { g with stage := .processed e gaze observation }
    | _ => none
  | .checkRestart started =>
    match g.stage with
    | .processed e gaze face =>
      some { g with
        restartPending := false
        stage := if g.restartPending && !started then .leaving e (.error ()) face.deferred false
          else .ready e gaze face }
    | _ => none
  | .pushFirst =>
    match g.stage with
    | .ready e gaze face =>
      let (first, joiner) := g.push true gaze face
      some { g with joiner := joiner, stage := .pushed e gaze face first false }
    | _ => none
  | .pushSecond =>
    match g.stage with
    | .pushed e gaze face first cleared =>
      let (second, joiner) := g.push false gaze face
      some { g with joiner := joiner, stage := .joined e (second.or first) face.deferred cleared }
    | _ => none
  | .flush =>
    match g.stage with
    | .joined e (some o) deferred cleared => some { g with stage := .leaving e (.ok (some o)) deferred cleared }
    | .joined e none deferred cleared =>
      let (result, joiner) := g.joiner.flushNearest
      some { g with joiner := joiner, stage := .leaving e (.ok result) deferred cleared }
    | _ => none

end InProcessVisionGateway

/-- One step. -/
def step (eventId : GazeEventId) (g : InProcessVisionGateway) : Step → Option InProcessVisionGateway
  | .connect handshake created started => some (g.connect handshake created started)
  | .offer e => some (g.offer e)
  | .restartWorker closed created => some (g.restartWorker closed created)
  | .disconnect => some g.disconnect
  | .finish cancelled => some (g.finish cancelled)
  | .closeEye => g.closeEye
  | .take => g.take
  | .move m => g.move eventId m
  | .leave => g.leave
  | .release => g.release

/-! ## Frames -/

def Stage.envelope : Stage → Option FrameEnvelope
  | idle | deferred => none
  | taken e | inferred e _ | working e _ | processed e _ _ | ready e _ _ => some e
  | pushed e _ _ _ _ | joined e _ _ _ | leaving e _ _ _ => some e

/-- The notice of an envelope that was dropped. -/
def notice (left : FrameEnvelope × Fate) : Option DropNotice :=
  match left.2 with
  | .dispatched => none
  | .dropped reason => some ⟨left.1.context.frameId, reason⟩

/-- An envelope that was taken. -/
def dispatched (left : FrameEnvelope × Fate) : Option FrameEnvelope :=
  match left.2 with
  | .dispatched => some left.1
  | .dropped _ => none

/-- What was offered has left, in that order, or is pending. -/
structure Accounts (g : InProcessVisionGateway) : Prop where
  offered : g.offered = g.left.map Prod.fst ++ g.pending.toList
  notices : g.dropNotices = g.left.filterMap notice
  taken : g.left.filterMap dispatched = g.dispatches.map (·.envelope) ++ g.stage.envelope.toList
  flight : g.inFlight = true ↔ g.stage ≠ .idle
  session : ∀ e ∈ g.offered, ∃ active, g.handshake = some active ∧
    e.context.sessionId = active.sessionId ∧ e.context.videoId = active.videoId

/-- What a move changes: not the envelope, nor what the callers see. -/
def Moves (g g' : InProcessVisionGateway) : Prop :=
  ∃ eyePort joiner restartPending stage,
    g' = { g with eyePort := eyePort, joiner := joiner, restartPending := restartPending, stage := stage } ∧
      stage.envelope = g.stage.envelope ∧ g.stage ≠ .idle ∧ stage ≠ .idle

theorem moves_of_move {eventId : GazeEventId} {g g' : InProcessVisionGateway} {m : Move}
    (moved : g.move eventId m = some g') : Moves g g' := by
  unfold InProcessVisionGateway.move at moved
  split at moved
  · split at moved
    next e stage =>
      cases moved
      exact ⟨_, _, _, _, rfl, by rw [stage]; rfl, by simp [stage], by simp⟩
    · cases moved
  · split at moved
    next e stage =>
      split at moved
      · cases moved
        exact ⟨_, _, _, _, rfl, by rw [stage]; rfl, by simp [stage], by simp⟩
      · cases moved
        exact ⟨_, _, _, _, rfl, by rw [stage]; rfl, by simp [stage], by simp⟩
    · cases moved
  · split at moved
    next e gaze stage =>
      cases moved
      refine ⟨_, _, _, _, rfl, ?_, by simp [stage], ?_⟩
      · rw [stage]
        cases g.worker <;> rfl
      · cases g.worker <;> simp
    · cases moved
  · split at moved
    next e gaze stage =>
      cases moved
      exact ⟨_, _, _, _, rfl, by rw [stage]; rfl, by simp [stage], by simp⟩
    · cases moved
  · split at moved
    next e gaze stage =>
      cases moved
      exact ⟨_, _, _, _, rfl, by rw [stage]; rfl, by simp [stage], by simp⟩
    · cases moved
  next started =>
    split at moved
    next e gaze face stage =>
      cases moved
      refine ⟨_, _, _, _, rfl, ?_, by simp [stage], ?_⟩
      · rw [stage]
        cases g.restartPending && !started <;> rfl
      · cases g.restartPending && !started <;> simp
    · cases moved
  · split at moved
    next e gaze face stage =>
      cases moved
      exact ⟨_, _, _, _, rfl, by rw [stage]; rfl, by simp [stage], by simp⟩
    · cases moved
  · split at moved
    next e gaze face first cleared stage =>
      cases moved
      exact ⟨_, _, _, _, rfl, by rw [stage]; rfl, by simp [stage], by simp⟩
    · cases moved
  · split at moved
    next e o deferred cleared stage =>
      cases moved
      exact ⟨_, _, _, _, rfl, by rw [stage]; rfl, by simp [stage], by simp⟩
    next e deferred cleared stage =>
      cases moved
      exact ⟨_, _, _, _, rfl, by rw [stage]; rfl, by simp [stage], by simp⟩
    · cases moved

namespace Accounts

variable {g g' : InProcessVisionGateway}

theorem drop (h : Accounts g) (reason : DropReason) : Accounts (g.drop reason) := by
  unfold InProcessVisionGateway.drop
  split
  · exact h
  next e pending =>
    refine ⟨?_, ?_, ?_, h.flight, h.session⟩
    · rw [h.offered, pending]
      simp
    · rw [h.notices]
      simp [notice]
    · rw [← h.taken]
      simp [dispatched]

theorem clearJoiner (h : Accounts g) : Accounts g.clearJoiner := by
  unfold InProcessVisionGateway.clearJoiner
  refine ⟨h.offered, h.notices, ?_, ?_, h.session⟩
  · have taken := h.taken
    dsimp only
    cases stage : g.stage <;> rw [stage] at taken <;> exact taken
  · have flight := h.flight
    dsimp only
    cases stage : g.stage <;> rw [stage] at flight <;> simpa using flight

/-- A move keeps the envelope of the dispatch. -/
theorem move (h : Accounts g) (moves : Moves g g') : Accounts g' := by
  obtain ⟨eyePort, joiner, restartPending, stage, rfl, same, busy, on⟩ := moves
  refine ⟨h.offered, h.notices, ?_, ?_, h.session⟩
  · rw [h.taken]
    dsimp only
    rw [same]
  · rw [h.flight]
    simp [busy, on]

theorem connect (h : Accounts g) (handshake : VisionHandshake) (created started : Bool) :
    Accounts (g.connect handshake created started) := by
  -- a handshake that is kept is not replaced by another one
  have kept (fits : ¬ (g.handshake.any fun active => decide (handshake ≠ active)) = true) :
      ∀ e ∈ g.offered, ∃ active, some handshake = some active ∧
        e.context.sessionId = active.sessionId ∧ e.context.videoId = active.videoId := by
    intro e member
    obtain ⟨active, held, ids⟩ := h.session e member
    rw [held] at fits
    have same : handshake = active := by simpa using fits
    exact ⟨active, by rw [same], ids⟩
  unfold InProcessVisionGateway.connect
  split
  · exact h
  · split
    · exact h
    next fits =>
      split
      · exact h
      · split
        · exact ⟨h.offered, h.notices, h.taken, h.flight, kept fits⟩
        · split
          · exact ⟨h.offered, h.notices, h.taken, h.flight, kept fits⟩
          · exact ⟨h.offered, h.notices, h.taken, h.flight, kept fits⟩

theorem drop_pending (reason : DropReason) : (g.drop reason).pending = none := by
  unfold InProcessVisionGateway.drop
  split
  · assumption
  · rfl

theorem offer (h : Accounts g) (e : FrameEnvelope) : Accounts (g.offer e) := by
  unfold InProcessVisionGateway.offer
  split
  next accepted =>
    have dropped := h.drop .superseded
    have offered := dropped.offered
    rw [drop_pending] at offered
    have same : (g.drop .superseded).offered = g.offered ∧ (g.drop .superseded).handshake = g.handshake := by
      unfold InProcessVisionGateway.drop
      split <;> exact ⟨rfl, rfl⟩
    refine ⟨?_, dropped.notices, dropped.taken, dropped.flight, fun e' member => ?_⟩
    · rw [same.1] at offered
      simp [offered]
    · dsimp only
      rw [same.2]
      rcases List.mem_append.1 member with old | new
      · exact h.session e' old
      · obtain rfl := List.mem_singleton.1 new
        unfold InProcessVisionGateway.accepts at accepted
        cases held : g.handshake with
        | none => simp [held] at accepted
        | some active =>
          simp only [held, Option.any_some, Bool.and_eq_true, decide_eq_true_eq] at accepted
          exact ⟨active, rfl, accepted.2⟩
  · exact h

theorem restartWorker (h : Accounts g) (closed created : Bool) : Accounts (g.restartWorker closed created) := by
  unfold InProcessVisionGateway.restartWorker
  split
  · exact h
  · split
    · exact h
    · split
      · exact h
      · exact ⟨h.offered, h.notices, h.taken, h.flight, h.session⟩

theorem disconnect (h : Accounts g) : Accounts g.disconnect := by
  have cleared := (h.drop .disconnected).clearJoiner
  exact ⟨cleared.offered, cleared.notices, cleared.taken, cleared.flight, cleared.session⟩

theorem finish (h : Accounts g) (cancelled : Bool) : Accounts (g.finish cancelled) := by
  have cleared := (h.drop .cancelled).clearJoiner
  unfold InProcessVisionGateway.finish
  split
  · exact h
  · exact ⟨cleared.offered, cleared.notices, cleared.taken, cleared.flight, cleared.session⟩

theorem take (h : Accounts g) (taken : g.take = some g') : Accounts g' := by
  unfold InProcessVisionGateway.take at taken
  split at taken
  · cases taken
  next e pending =>
    split at taken
    next free =>
      cases taken
      have idle : g.stage = .idle := by
        by_contra busy
        exact absurd (h.flight.2 busy) (by simp [free.2])
      refine ⟨?_, ?_, ?_, ?_, h.session⟩
      · rw [h.offered, pending]
        simp
      · rw [h.notices]
        simp [notice]
      · have before := h.taken
        rw [idle] at before
        simp [dispatched, before, Stage.envelope]
      · simp
    · cases taken

end Accounts

/-- Only a connected gateway has a pending frame. -/
structure Frames (g : InProcessVisionGateway) : Prop where
  accounts : Accounts g
  connected : g.pending ≠ none → g.state = .connected

namespace Frames

variable {eventId : GazeEventId} {g g' : InProcessVisionGateway}

theorem move (h : Frames g) (moves : Moves g g') : Frames g' := by
  refine ⟨h.accounts.move moves, ?_⟩
  obtain ⟨eyePort, joiner, restartPending, stage, rfl, -⟩ := moves
  exact h.connected

theorem connect (h : Frames g) (handshake : VisionHandshake) (created started : Bool) :
    Frames (g.connect handshake created started) := by
  refine ⟨h.accounts.connect handshake created started, fun pending => ?_⟩
  have connected := h.connected
  unfold InProcessVisionGateway.connect at pending ⊢
  grind

theorem offer (h : Frames g) (e : FrameEnvelope) : Frames (g.offer e) := by
  refine ⟨h.accounts.offer e, fun pending => ?_⟩
  have state : (g.drop .superseded).state = g.state := by
    unfold InProcessVisionGateway.drop
    split <;> rfl
  unfold InProcessVisionGateway.offer at pending ⊢
  split
  next accepted =>
    rw [InProcessVisionGateway.accepts, Bool.and_eq_true, decide_eq_true_eq] at accepted
    exact state.trans accepted.1
  next refused =>
    rw [if_neg refused] at pending
    exact h.connected pending

theorem restartWorker (h : Frames g) (closed created : Bool) : Frames (g.restartWorker closed created) := by
  refine ⟨h.accounts.restartWorker closed created, fun pending => ?_⟩
  have connected := h.connected
  unfold InProcessVisionGateway.restartWorker at pending ⊢
  grind

theorem disconnect (h : Frames g) : Frames g.disconnect :=
  ⟨h.accounts.disconnect, fun pending => absurd (Accounts.drop_pending .disconnected) pending⟩

theorem finish (h : Frames g) (cancelled : Bool) : Frames (g.finish cancelled) := by
  refine ⟨h.accounts.finish cancelled, fun pending => ?_⟩
  unfold InProcessVisionGateway.finish at pending ⊢
  split
  next already =>
    rw [if_pos already] at pending
    exact h.connected pending
  next fresh =>
    rw [if_neg fresh] at pending
    exact absurd (Accounts.drop_pending .cancelled) pending

theorem take (h : Frames g) (taken : g.take = some g') : Frames g' := by
  refine ⟨h.accounts.take taken, fun pending => ?_⟩
  unfold InProcessVisionGateway.take at taken
  split at taken
  · cases taken
  · split at taken
    · cases taken
      exact absurd rfl pending
    · cases taken

/-- The call of `dispatch_next` ends, and the gateway is free unless its adapter still reads the frame. -/
theorem leave (h : Frames g) (left : g.leave = some g') : Frames g' := by
  have taken := h.accounts.taken
  have flight := h.accounts.flight
  unfold InProcessVisionGateway.leave at left
  split at left
  next e result cleared stage =>
    cases left
    rw [stage] at taken flight
    refine ⟨⟨h.accounts.offered, h.accounts.notices, ?_, ?_, h.accounts.session⟩, h.connected⟩
    · simp [taken, Stage.envelope]
    · simp [flight]
  next e result cleared stage =>
    cases left
    rw [stage] at taken
    refine ⟨⟨h.accounts.offered, h.accounts.notices, ?_, ?_, h.accounts.session⟩, h.connected⟩
    · simp [taken, Stage.envelope]
    · simp
  · cases left

theorem release (h : Frames g) (released : g.release = some g') : Frames g' := by
  have taken := h.accounts.taken
  unfold InProcessVisionGateway.release at released
  split at released
  next stage =>
    cases released
    rw [stage] at taken
    exact ⟨⟨h.accounts.offered, h.accounts.notices, taken, by simp, h.accounts.session⟩, h.connected⟩
  · cases released

theorem step {l : Step} (h : Frames g) (stepped : Harness.step eventId g l = some g') : Frames g' := by
  cases l with
  | connect handshake created started =>
    cases stepped
    exact h.connect handshake created started
  | offer e =>
    cases stepped
    exact h.offer e
  | restartWorker closed created =>
    cases stepped
    exact h.restartWorker closed created
  | disconnect =>
    cases stepped
    exact h.disconnect
  | finish cancelled =>
    cases stepped
    exact h.finish cancelled
  | closeEye =>
    replace stepped : g.closeEye = some g' := stepped
    unfold InProcessVisionGateway.closeEye at stepped
    split at stepped
    · cases stepped
      exact ⟨⟨h.accounts.offered, h.accounts.notices, h.accounts.taken, h.accounts.flight, h.accounts.session⟩,
        h.connected⟩
    · cases stepped
  | take => exact h.take stepped
  | move m => exact h.move (moves_of_move stepped)
  | leave => exact h.leave stepped
  | release => exact h.release stepped

end Frames

/-- A gateway before its first call. -/
def InProcessVisionGateway.new (deliveryOrder : DeliveryOrder) (eyePort : ReplayEyePort) :
    InProcessVisionGateway where
  deliveryOrder := deliveryOrder
  eyePort := eyePort

theorem frames_new (deliveryOrder : DeliveryOrder) (eyePort : ReplayEyePort) :
    Frames (.new deliveryOrder eyePort) where
  accounts := ⟨rfl, rfl, rfl, by simp [InProcessVisionGateway.new], by simp [InProcessVisionGateway.new]⟩
  connected pending := absurd rfl pending

theorem Frames.run {eventId : GazeEventId} {g g' : InProcessVisionGateway} {steps : List Step}
    {G : InProcessVisionGateway → Step → Prop} (h : Frames g) (ran : Lts.Steps (Harness.step eventId) G g steps g') :
    Frames g' :=
  ran.invariant (fun _ _ _ h _ stepped => h.step stepped) h

/-- **Every frame is accounted for.** However the callers and the dispatch interleave, the envelopes that were
offered left in that order, each once, or the last one is pending. Each that was dropped has its notice, each
that was dispatched has a call that ended or is the one under way, and a gateway that is not connected keeps
no frame. -/
theorem frames_accounted {eventId : GazeEventId} {deliveryOrder : DeliveryOrder} {eyePort : ReplayEyePort}
    {steps : List Step} {g : InProcessVisionGateway}
    (ran : Lts.Steps (step eventId) Lts.Free (.new deliveryOrder eyePort) steps g) :
    g.offered = g.left.map Prod.fst ++ g.pending.toList ∧
      g.dropNotices = g.left.filterMap notice ∧
      g.left.filterMap dispatched = g.dispatches.map (·.envelope) ++ g.stage.envelope.toList ∧
      (g.inFlight = true ↔ g.stage ≠ .idle) ∧
      (g.pending ≠ none → g.state = .connected) ∧
      ∀ e ∈ g.offered, ∃ active, g.handshake = some active ∧
        e.context.sessionId = active.sessionId ∧ e.context.videoId = active.videoId := by
  obtain ⟨⟨offered, notices, taken, flight, session⟩, connected⟩ :=
    (frames_new deliveryOrder eyePort).run ran
  exact ⟨offered, notices, taken, flight, connected, session⟩

theorem frame_required : ("s-1" : String) ≠ "" ∧ ("v-1" : String) ≠ "" ∧ ("f-1" : String) ≠ "" := by decide

theorem frame_required' : ("s-1" : String) ≠ "" ∧ ("v-1" : String) ≠ "" ∧ ("f-2" : String) ≠ "" := by decide

def firstFrame : FrameEnvelope where
  context := ⟨"s-1", "v-1", "f-1", 0, 0, 0, 0⟩
  required := frame_required
  even := rfl
  nonneg := le_refl 0

def secondFrame : FrameEnvelope where
  context := ⟨"s-1", "v-1", "f-2", 2, 0, 250, 0⟩
  required := frame_required'
  even := rfl
  nonneg := le_refl 0

theorem unit_point : ∀ point ∈ [((0 : ℚ), (0 : ℚ))], (0 ≤ point.1 ∧ point.1 ≤ 1) ∧ 0 ≤ point.2 ∧ point.2 ≤ 1 := by
  simp

def cornerPort : ReplayEyePort where
  coordinates := [(0, 0)]
  nonempty := List.cons_ne_nil _ _
  normalized := unit_point

def firstHandshake : VisionHandshake := ⟨"s-1", "v-1", .synthetic, ⟨frame_required.1, frame_required.2.1⟩⟩

/-- A frame that is superseded, one whose dispatch fails, one whose dispatch returns, and one that is
pending. -/
def firstSteps : List Step :=
  [.connect firstHandshake true true, .offer firstFrame, .offer secondFrame, .take, .move .frameFails, .leave,
    .offer firstFrame, .take, .move .infer, .move .readWorker,
    .move (.workerEnds ⟨⟨firstFrame.context, none⟩, 5, false⟩), .move (.checkRestart true), .move .pushFirst,
    .move .pushSecond, .move .flush, .leave, .offer secondFrame]

/-- A call that returned an observation. -/
def Dispatch.observed (d : Dispatch) : Bool := d.result.toOption.any Option.isSome

theorem firstSteps_accounted : ∃ g : InProcessVisionGateway,
    g.left.map Prod.snd = [.dropped .superseded, .dispatched, .dispatched] ∧
      g.dispatches.map Dispatch.observed = [false, true] ∧
      g.offered = g.left.map Prod.fst ++ g.pending.toList := by
  have ended : (Lts.runAll (step fun _ _ _ => "") (.new .eyeFirst cornerPort) firstSteps).any
      (fun g => decide (g.left.map Prod.snd = [.dropped .superseded, .dispatched, .dispatched] ∧
        g.dispatches.map Dispatch.observed = [false, true])) = true := by decide +kernel
  obtain ⟨g, ran, accounts⟩ := Lts.exists_steps_of_any ended
  obtain ⟨left, observed⟩ := of_decide_eq_true accounts
  exact ⟨g, left, observed, (frames_accounted ran).1⟩

end Mkk.Gateway.Harness
