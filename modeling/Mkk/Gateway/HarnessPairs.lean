import Mkk.Gateway.Harness

/-!
# What a dispatch returns

The two samples of a dispatch meet in the joiner under the id of their frame. Other threads may clear the
joiner between the pushes, and what is then left over never meets a later frame: the fallback by capture time
does not run (`observations_own`).
-/

namespace Mkk.Gateway

open Lib
open Eye (StreamFrameContext)

/-! ## The contexts in the joiner -/

namespace ObservationJoiner

variable {j : ObservationJoiner} {P P' : StreamFrameContext → Prop}

/-- What waits is of frames like these. -/
def Holds (P : StreamFrameContext → Prop) (j : ObservationJoiner) : Prop :=
  j.waiting.All (fun _ gaze => P gaze.context) fun _ face => P face.1.context

/-- An observation of one frame id, from frames like these. -/
structure Pair (P : StreamFrameContext → Prop) (frameId : String) (o : DerivedObservation) : Prop where
  exact : o.matchedBy = .frameId
  gaze : P o.gaze.context ∧ o.gaze.context.frameId = frameId
  face : P o.face.context ∧ o.face.context.frameId = frameId

theorem Holds.imp (h : Holds P j) (le : ∀ c, P c → P' c) : Holds P' j :=
  Rendezvous.All.imp h (fun _ _ => le _) fun _ _ => le _

theorem Pair.imp {frameId : String} {o : DerivedObservation} (h : Pair P frameId o) (le : ∀ c, P c → P' c) :
    Pair P' frameId o :=
  ⟨h.exact, h.gaze.imp_left (le _), h.face.imp_left (le _)⟩

theorem Holds.clear (j : ObservationJoiner) : Holds P j.clear := Rendezvous.All.new

theorem Holds.pushGaze (h : Holds P j) (kept : Kept j) {sample : D7GazeSample} (own : P sample.context) :
    Holds P (j.pushGaze sample).2 ∧
      ∀ o, (j.pushGaze sample).1 = some o → Pair P sample.context.frameId o := by
  obtain ⟨holds, taken⟩ := Rendezvous.All.arriveLeft (k := sample.context.frameId) h own
  refine ⟨holds, fun o joined => ?_⟩
  obtain ⟨face, met, rfl⟩ := Option.map_eq_some_iff.1 joined
  exact ⟨rfl, ⟨own, rfl⟩, taken face met, (kept.keys.arriveLeft (a := sample) rfl).2 face met⟩

theorem Holds.pushFace (h : Holds P j) (kept : Kept j) {sample : ExpressionSample} (latencyMs : ℚ)
    (own : P sample.context) : Holds P (j.pushFace sample latencyMs).2 ∧
      ∀ o, (j.pushFace sample latencyMs).1 = some o → Pair P sample.context.frameId o := by
  obtain ⟨holds, taken⟩ :=
    Rendezvous.All.arriveRight (k := sample.context.frameId) (b := (sample, latencyMs)) h own
  refine ⟨holds, fun o joined => ?_⟩
  obtain ⟨gaze, met, rfl⟩ := Option.map_eq_some_iff.1 joined
  have keyed := (kept.keys.arriveRight (b := (sample, latencyMs)) rfl).2
  exact ⟨rfl, ⟨taken gaze met, keyed gaze met⟩, own, rfl⟩

end ObservationJoiner

namespace Harness

open ObservationJoiner

/-! ## The two pushes -/

/-- No sample of the side that is pushed first waits under the key. -/
def Unmet (order : DeliveryOrder) (j : ObservationJoiner) (key : String) : Prop :=
  match order with
  | .eyeFirst => j.waiting.left.get? key = none
  | .faceFirst => j.waiting.right.get? key = none

/-- The joiner between two dispatches: the side that is pushed first is empty. -/
def Quiet (order : DeliveryOrder) (j : ObservationJoiner) : Prop := ∀ key, Unmet order j key

/-- The sample that was pushed first waits for the second one. -/
def Awaits (order : DeliveryOrder) (j : ObservationJoiner) (gaze : D7GazeSample) (face : FaceObservation) : Prop :=
  match order with
  | .eyeFirst => j.waiting.left.get? gaze.context.frameId = some gaze
  | .faceFirst => j.waiting.right.get? face.sample.context.frameId = some (face.sample, face.latencyMs)

/-- Nothing waits by itself on the first side, so there is no pair to flush. -/
theorem Quiet.flushNearest {order : DeliveryOrder} {j : ObservationJoiner} (quiet : Quiet order j) :
    j.flushNearest = (none, j) := by
  unfold ObservationJoiner.flushNearest
  cases found : j.best none j.waiting.left.entries with
  | none => rfl
  | some pair =>
    have nearest := best_nearest found
    cases order with
    | eyeFirst => cases (quiet pair.gazeKey).symm.trans nearest.gaze
    | faceFirst => cases (quiet pair.faceKey).symm.trans nearest.face

theorem quiet_clear (order : DeliveryOrder) (j : ObservationJoiner) : Quiet order j.clear := by
  intro key
  cases order with
  | eyeFirst => rfl
  | faceFirst => rfl

variable {g : InProcessVisionGateway} {gaze : D7GazeSample} {face : FaceObservation}
  {P : StreamFrameContext → Prop} {c : StreamFrameContext}

/-- Either push keeps the joiner, and pairs samples of the frame. -/
theorem push_pairs (gazeFirst : Bool) (kept : Kept g.joiner) (holds : Holds P g.joiner) (own : P c)
    (gazed : gaze.context = c) (faced : face.sample.context = c) : Kept (g.push gazeFirst gaze face).2 ∧
      Holds P (g.push gazeFirst gaze face).2 ∧
      ∀ o, (g.push gazeFirst gaze face).1 = some o → Pair P c.frameId o := by
  unfold InProcessVisionGateway.push
  split
  · obtain ⟨holds', pair⟩ := holds.pushGaze kept (by rw [gazed]; exact own)
    rw [gazed] at pair
    exact ⟨(kept.pushGaze gaze).1, holds', pair⟩
  · obtain ⟨holds', pair⟩ := holds.pushFace kept face.latencyMs (by rw [faced]; exact own)
    rw [faced] at pair
    exact ⟨(kept.pushFace face.sample face.latencyMs).1, holds', pair⟩

theorem pushFirst_awaits (quiet : Quiet g.deliveryOrder g.joiner) (gazed : gaze.context = c)
    (faced : face.sample.context = c) :
    (∀ key, key ≠ c.frameId → Unmet g.deliveryOrder (g.push true gaze face).2 key) ∧
      ((g.push true gaze face).1 = none → Awaits g.deliveryOrder (g.push true gaze face).2 gaze face) := by
  unfold InProcessVisionGateway.push
  unfold Quiet at quiet
  cases order : g.deliveryOrder with
  | eyeFirst =>
    rw [order] at quiet
    have alone := g.joiner.waiting.arriveLeft_alone gaze.context.frameId gaze quiet
    rw [if_pos (by simp)]
    exact ⟨by rw [← gazed]; exact alone.1, fun none => alone.2 (Option.map_eq_none_iff.1 none)⟩
  | faceFirst =>
    rw [order] at quiet
    have alone := g.joiner.waiting.arriveRight_alone face.sample.context.frameId (face.sample, face.latencyMs) quiet
    rw [if_neg (by simp)]
    exact ⟨by rw [← faced]; exact alone.1, fun none => alone.2 (Option.map_eq_none_iff.1 none)⟩

theorem pushSecond_meets (alone : ∀ key, key ≠ c.frameId → Unmet g.deliveryOrder g.joiner key)
    (gazed : gaze.context = c) (faced : face.sample.context = c) :
    Quiet g.deliveryOrder (g.push false gaze face).2 ∧
      (Awaits g.deliveryOrder g.joiner gaze face → (g.push false gaze face).1 ≠ none) := by
  unfold InProcessVisionGateway.push Quiet
  cases order : g.deliveryOrder with
  | eyeFirst =>
    rw [order] at alone
    have met := g.joiner.waiting.arriveRight_empties face.sample.context.frameId (face.sample, face.latencyMs)
      (by rw [faced]; exact alone)
    rw [if_neg (by simp)]
    refine ⟨met.1, fun awaits none => ?_⟩
    have missing := met.2.symm.trans (Option.map_eq_none_iff.1 none)
    have waits : g.joiner.waiting.left.get? gaze.context.frameId = some gaze := awaits
    rw [faced, ← gazed, waits] at missing
    cases missing
  | faceFirst =>
    rw [order] at alone
    have met := g.joiner.waiting.arriveLeft_empties gaze.context.frameId gaze (by rw [gazed]; exact alone)
    rw [if_pos (by simp)]
    refine ⟨met.1, fun awaits none => ?_⟩
    have missing := met.2.symm.trans (Option.map_eq_none_iff.1 none)
    have waits : g.joiner.waiting.right.get? face.sample.context.frameId =
        some (face.sample, face.latencyMs) := awaits
    rw [gazed, ← faced, waits] at missing
    cases missing

/-! ## The stages -/

/-- The envelopes that were dispatched so far. -/
def Dispatched (g : InProcessVisionGateway) (c : StreamFrameContext) : Prop :=
  ∃ e ∈ g.left.filterMap dispatched, e.context = c

/-- A dispatch ends with a pair of its frame, unless it raised or the joiner was cleared meanwhile. -/
def Returns (P : StreamFrameContext → Prop) (e : FrameEnvelope) (result : DispatchResult) (cleared : Bool) :
    Prop :=
  ∀ joined, result = .ok joined →
    (∀ o, joined = some o → Pair P e.context.frameId o) ∧ (joined = none → cleared = true)

/-- What holds at each stage. -/
def Holding (g : InProcessVisionGateway) : Prop :=
  match g.stage with
  | .idle | .deferred | .taken _ => Quiet g.deliveryOrder g.joiner
  | .inferred e gaze | .working e gaze => Quiet g.deliveryOrder g.joiner ∧ gaze.context = e.context
  | .processed e gaze face | .ready e gaze face =>
    Quiet g.deliveryOrder g.joiner ∧ gaze.context = e.context ∧ face.sample.context = e.context
  | .pushed e gaze face first cleared =>
    (∀ key, key ≠ e.context.frameId → Unmet g.deliveryOrder g.joiner key) ∧
      gaze.context = e.context ∧ face.sample.context = e.context ∧
      (∀ o, first = some o → Pair (Dispatched g) e.context.frameId o) ∧
      (first = none → cleared = true ∨ Awaits g.deliveryOrder g.joiner gaze face)
  | .joined e joined _ cleared =>
    Quiet g.deliveryOrder g.joiner ∧ Returns (Dispatched g) e (.ok joined) cleared
  | .leaving e result _ cleared =>
    Quiet g.deliveryOrder g.joiner ∧ Returns (Dispatched g) e result cleared

/-- The dispatches that ended, and the one under way. -/
structure Paired (g : InProcessVisionGateway) : Prop where
  frames : Frames g
  kept : Kept g.joiner
  holds : Holds (Dispatched g) g.joiner
  holding : Holding g
  returned : ∀ d ∈ g.dispatches, Returns (Dispatched g) d.envelope d.result d.cleared

/-- The worker's sample is of the frame it was given. -/
def AdapterKeeps (g : InProcessVisionGateway) (l : Step) : Prop :=
  ∀ observation, l = .move (.workerEnds observation) →
    ∀ e, g.stage.envelope = some e → observation.sample.context = e.context

/-- What a call leaves that meets neither the joiner nor the dispatch. -/
structure Untouched (g g' : InProcessVisionGateway) : Prop where
  order : g'.deliveryOrder = g.deliveryOrder
  joiner : g'.joiner = g.joiner
  stage : g'.stage = g.stage
  dispatches : g'.dispatches = g.dispatches
  more : ∀ c, Dispatched g c → Dispatched g' c

theorem Untouched.refl (g : InProcessVisionGateway) : Untouched g g := ⟨rfl, rfl, rfl, rfl, fun _ taken => taken⟩

theorem Returns.imp {e : FrameEnvelope} {result : DispatchResult} {cleared : Bool}
    {P' : StreamFrameContext → Prop} (h : Returns P e result cleared) (le : ∀ c, P c → P' c) :
    Returns P' e result cleared := fun joined same =>
  ⟨fun o found => ((h joined same).1 o found).imp le, (h joined same).2⟩

theorem returns_error (e : FrameEnvelope) (cleared : Bool) : Returns P e (.error ()) cleared := by
  intro joined same
  cases same

namespace Paired

variable {eventId : GazeEventId} {g' : InProcessVisionGateway}

/-- The frame of the dispatch under way was dispatched. -/
theorem dispatched_self (h : Paired g) {e : FrameEnvelope} (own : g.stage.envelope = some e) :
    Dispatched g e.context := by
  refine ⟨e, ?_, rfl⟩
  rw [h.frames.accounts.taken, own]
  simp

/-- A call that touches neither the joiner nor the dispatch. -/
theorem keep (h : Paired g) (frames : Frames g') (same : Untouched g g') : Paired g' where
  frames := frames
  kept := by
    rw [same.joiner]
    exact h.kept
  holds := by
    rw [same.joiner]
    exact h.holds.imp same.more
  holding := by
    have holding := h.holding
    unfold Holding at holding ⊢
    rw [same.order, same.joiner, same.stage]
    split at holding <;> try exact holding
    next e gaze face first cleared _ =>
      obtain ⟨alone, gazed, faced, pair, awaits⟩ := holding
      exact ⟨alone, gazed, faced, fun o found => (pair o found).imp same.more, awaits⟩
    · exact ⟨holding.1, holding.2.imp same.more⟩
    · exact ⟨holding.1, holding.2.imp same.more⟩
  returned d member := by
    rw [same.dispatches] at member
    exact (h.returned d member).imp same.more

theorem untouched_drop (g : InProcessVisionGateway) (reason : DropReason) : Untouched g (g.drop reason) := by
  unfold InProcessVisionGateway.drop
  split
  · exact .refl g
  · refine ⟨rfl, rfl, rfl, rfl, fun c taken => ?_⟩
    obtain ⟨e, member, rfl⟩ := taken
    exact ⟨e, by simpa [dispatched] using member, rfl⟩

theorem drop (h : Paired g) (reason : DropReason) : Paired (g.drop reason) :=
  h.keep ⟨h.frames.accounts.drop reason, fun pending => absurd (Accounts.drop_pending reason) pending⟩
    (untouched_drop g reason)

/-- A dispatch between its pushes loses its first sample. -/
theorem clearJoiner (h : Paired g) : Paired g.clearJoiner where
  frames := ⟨h.frames.accounts.clearJoiner, h.frames.connected⟩
  kept := ObservationJoiner.kept_new g.joiner.toleranceMs
  holds := .clear g.joiner
  holding := by
    have holding := h.holding
    have quiet : Quiet g.deliveryOrder g.joiner.clear := quiet_clear g.deliveryOrder g.joiner
    unfold Holding at holding ⊢
    unfold InProcessVisionGateway.clearJoiner
    cases stage : g.stage with
    | idle => exact quiet
    | deferred => exact quiet
    | taken e => exact quiet
    | inferred e gaze =>
      rw [stage] at holding
      exact ⟨quiet, holding.2⟩
    | working e gaze =>
      rw [stage] at holding
      exact ⟨quiet, holding.2⟩
    | processed e gaze face =>
      rw [stage] at holding
      exact ⟨quiet, holding.2⟩
    | ready e gaze face =>
      rw [stage] at holding
      exact ⟨quiet, holding.2⟩
    | pushed e gaze face first cleared =>
      rw [stage] at holding
      obtain ⟨-, gazed, faced, pair, -⟩ := holding
      exact ⟨fun key _ => quiet key, gazed, faced, pair, fun _ => .inl rfl⟩
    | joined e joined deferred cleared =>
      rw [stage] at holding
      exact ⟨quiet, holding.2⟩
    | leaving e result deferred cleared =>
      rw [stage] at holding
      exact ⟨quiet, holding.2⟩
  returned := h.returned

theorem connect (h : Paired g) (handshake : VisionHandshake) (created started : Bool) :
    Paired (g.connect handshake created started) := by
  refine h.keep (h.frames.connect handshake created started) ?_
  unfold InProcessVisionGateway.connect
  split_ifs <;> exact ⟨rfl, rfl, rfl, rfl, fun _ taken => taken⟩

theorem offer (h : Paired g) (e : FrameEnvelope) : Paired (g.offer e) := by
  have dropped := untouched_drop g .superseded
  refine h.keep (h.frames.offer e) ?_
  unfold InProcessVisionGateway.offer
  split
  · exact ⟨dropped.order, dropped.joiner, dropped.stage, dropped.dispatches, dropped.more⟩
  · exact .refl g

theorem restartWorker (h : Paired g) (closed created : Bool) : Paired (g.restartWorker closed created) := by
  refine h.keep (h.frames.restartWorker closed created) ?_
  unfold InProcessVisionGateway.restartWorker
  split_ifs <;> exact ⟨rfl, rfl, rfl, rfl, fun _ taken => taken⟩

/-- The end of `disconnect` and of `_finish`. -/
theorem detach (h : Paired g) (reason : DropReason) {state : SessionState} {finishing : Bool}
    (frames : Frames { (g.drop reason).clearJoiner with
      worker := false, state := state, finishing := finishing }) :
    Paired { (g.drop reason).clearJoiner with worker := false, state := state, finishing := finishing } :=
  (h.drop reason).clearJoiner.keep frames ⟨rfl, rfl, rfl, rfl, fun _ taken => taken⟩

theorem disconnect (h : Paired g) : Paired g.disconnect := h.detach .disconnected h.frames.disconnect

theorem finish (h : Paired g) (cancelled : Bool) : Paired (g.finish cancelled) := by
  have frames := h.frames.finish cancelled
  unfold InProcessVisionGateway.finish at frames ⊢
  split
  · exact h
  next fresh =>
    rw [if_neg fresh] at frames
    exact h.detach .cancelled frames

theorem closeEye (h : Paired g) (frames : Frames g') (closed : g.closeEye = some g') : Paired g' := by
  refine h.keep frames ?_
  unfold InProcessVisionGateway.closeEye at closed
  split at closed
  · cases closed
    exact ⟨rfl, rfl, rfl, rfl, fun _ taken => taken⟩
  · cases closed

theorem take (h : Paired g) (frames : Frames g') (taken : g.take = some g') : Paired g' := by
  have flight := h.frames.accounts.flight
  have holding := h.holding
  unfold InProcessVisionGateway.take at taken
  split at taken
  · cases taken
  next e pending =>
    split at taken
    next free =>
      have idle : g.stage = .idle := by
        by_contra busy
        exact absurd (flight.2 busy) (by simp [free.2])
      cases taken
      have more (c : StreamFrameContext) (old : Dispatched g c) :
          ∃ e' ∈ (g.left ++ [(e, Fate.dispatched)]).filterMap dispatched, e'.context = c := by
        obtain ⟨e', member, rfl⟩ := old
        refine ⟨e', ?_, rfl⟩
        rw [List.filterMap_append]
        exact List.mem_append_left _ member
      unfold Holding at holding
      rw [idle] at holding
      exact ⟨frames, h.kept, h.holds.imp more, holding, fun d member => (h.returned d member).imp more⟩
    · cases taken

theorem leave (h : Paired g) (frames : Frames g') (left : g.leave = some g') : Paired g' := by
  have holding := h.holding
  unfold Holding at holding
  unfold InProcessVisionGateway.leave at left
  split at left
  next e result cleared stage =>
    cases left
    rw [stage] at holding
    refine ⟨frames, h.kept, h.holds, holding.1, fun d member => ?_⟩
    rcases List.mem_append.1 member with old | new
    · exact h.returned d old
    · obtain rfl := List.mem_singleton.1 new
      exact holding.2
  next e result cleared stage =>
    cases left
    rw [stage] at holding
    refine ⟨frames, h.kept, h.holds, holding.1, fun d member => ?_⟩
    rcases List.mem_append.1 member with old | new
    · exact h.returned d old
    · obtain rfl := List.mem_singleton.1 new
      exact holding.2
  · cases left

theorem release (h : Paired g) (frames : Frames g') (released : g.release = some g') : Paired g' := by
  have holding := h.holding
  unfold Holding at holding
  unfold InProcessVisionGateway.release at released
  split at released
  next stage =>
    cases released
    rw [stage] at holding
    exact ⟨frames, h.kept, h.holds, holding, h.returned⟩
  · cases released

theorem move {m : Move} (h : Paired g) (frames : Frames g') (keeps : AdapterKeeps g (.move m))
    (moved : g.move eventId m = some g') : Paired g' := by
  have holding := h.holding
  unfold Holding at holding
  cases m with
  | frameFails =>
    unfold InProcessVisionGateway.move at moved
    dsimp only at moved
    split at moved
    next e stage =>
      cases moved
      rw [stage] at holding
      exact ⟨frames, h.kept, h.holds, ⟨holding, returns_error e false⟩, h.returned⟩
    · cases moved
  | infer =>
    unfold InProcessVisionGateway.move at moved
    dsimp only at moved
    split at moved
    next e stage =>
      rw [stage] at holding
      unfold ReplayEyePort.infer at moved
      split at moved
      next closed =>
        cases moved
        exact ⟨frames, h.kept, h.holds, ⟨holding, returns_error e false⟩, h.returned⟩
      next gaze eyePort inferred =>
        cases moved
        split at inferred
        · cases inferred
        · cases inferred
          exact ⟨frames, h.kept, h.holds, ⟨holding, rfl⟩, h.returned⟩
    · cases moved
  | readWorker =>
    unfold InProcessVisionGateway.move at moved
    dsimp only at moved
    split at moved
    next e gaze stage =>
      cases moved
      rw [stage] at holding
      refine ⟨frames, h.kept, h.holds, ?_, h.returned⟩
      unfold Holding
      dsimp only
      cases g.worker with
      | true => exact holding
      | false => exact ⟨holding.1, returns_error e false⟩
    · cases moved
  | workerFails =>
    unfold InProcessVisionGateway.move at moved
    dsimp only at moved
    split at moved
    next e gaze stage =>
      cases moved
      rw [stage] at holding
      exact ⟨frames, h.kept, h.holds, ⟨holding.1, returns_error e false⟩, h.returned⟩
    · cases moved
  | workerEnds observation =>
    unfold InProcessVisionGateway.move at moved
    dsimp only at moved
    split at moved
    next e gaze stage =>
      cases moved
      rw [stage] at holding
      have own := keeps observation rfl e (by rw [stage]; rfl)
      exact ⟨frames, h.kept, h.holds, ⟨holding.1, holding.2, own⟩, h.returned⟩
    · cases moved
  | checkRestart started =>
    unfold InProcessVisionGateway.move at moved
    dsimp only at moved
    split at moved
    next e gaze face stage =>
      cases moved
      rw [stage] at holding
      refine ⟨frames, h.kept, h.holds, ?_, h.returned⟩
      unfold Holding
      dsimp only
      cases g.restartPending && !started with
      | true => exact ⟨holding.1, returns_error e false⟩
      | false => exact holding
    · cases moved
  | pushFirst =>
    unfold InProcessVisionGateway.move at moved
    dsimp only at moved
    split at moved
    next e gaze face stage =>
      cases moved
      rw [stage] at holding
      obtain ⟨quiet, gazed, faced⟩ := holding
      have own := h.dispatched_self (e := e) (by rw [stage]; rfl)
      obtain ⟨kept, holds, pair⟩ := push_pairs true h.kept h.holds own gazed faced
      obtain ⟨alone, awaits⟩ := pushFirst_awaits quiet gazed faced
      exact ⟨frames, kept, holds, ⟨alone, gazed, faced, pair, fun none => .inr (awaits none)⟩, h.returned⟩
    · cases moved
  | pushSecond =>
    unfold InProcessVisionGateway.move at moved
    dsimp only at moved
    split at moved
    next e gaze face first cleared stage =>
      cases moved
      rw [stage] at holding
      obtain ⟨alone, gazed, faced, firstPair, awaits⟩ := holding
      have own := h.dispatched_self (e := e) (by rw [stage]; rfl)
      obtain ⟨kept, holds, pair⟩ := push_pairs false h.kept h.holds own gazed faced
      obtain ⟨quiet, met⟩ := pushSecond_meets alone gazed faced
      refine ⟨frames, kept, holds, ⟨quiet, fun joined same => ?_⟩, h.returned⟩
      cases same
      cases second : (g.push false gaze face).1 with
      | some o => exact ⟨fun o' found => pair o' (second.trans found), by simp⟩
      | none =>
        rw [Option.none_or]
        refine ⟨firstPair, fun none => ?_⟩
        rcases awaits none with lost | waits
        · exact lost
        · exact absurd second (met waits)
    · cases moved
  | flush =>
    unfold InProcessVisionGateway.move at moved
    dsimp only at moved
    split at moved
    next e o deferred cleared stage =>
      cases moved
      rw [stage] at holding
      exact ⟨frames, h.kept, h.holds, holding, h.returned⟩
    next e deferred cleared stage =>
      cases moved
      rw [stage] at holding
      have unjoined := holding.1.flushNearest
      rw [unjoined] at frames ⊢
      exact ⟨frames, h.kept, h.holds, holding, h.returned⟩
    · cases moved

theorem step {l : Step} (h : Paired g) (keeps : AdapterKeeps g l) (stepped : Harness.step eventId g l = some g') :
    Paired g' := by
  have frames := h.frames.step stepped
  cases l with
  | connect handshake created started =>
    cases stepped
    exact h.connect handshake created started
  | offer e =>
    cases stepped
    exact h.offer e
  | restartWorker closed created =>
    cases stepped
    exact h.restartWorker closed created
  | disconnect =>
    cases stepped
    exact h.disconnect
  | finish cancelled =>
    cases stepped
    exact h.finish cancelled
  | closeEye => exact h.closeEye frames stepped
  | take => exact h.take frames stepped
  | move m => exact h.move frames keeps stepped
  | leave => exact h.leave frames stepped
  | release => exact h.release frames stepped

end Paired

theorem paired_new (deliveryOrder : DeliveryOrder) (eyePort : ReplayEyePort) :
    Paired (.new deliveryOrder eyePort) where
  frames := frames_new deliveryOrder eyePort
  kept := ObservationJoiner.kept_new 100
  holds := .clear { toleranceMs := 100 }
  holding := quiet_clear deliveryOrder { toleranceMs := 100 }
  returned _ member := by cases member

/-- Of frames with different ids only the frame itself has its id. -/
theorem dispatched_unique {c : StreamFrameContext} (frames : Frames g)
    (distinct : (g.offered.map (·.context.frameId)).Nodup) {e : FrameEnvelope} (own : Dispatched g e.context)
    (taken : Dispatched g c) (same : c.frameId = e.context.frameId) : c = e.context := by
  have offered {e' : FrameEnvelope} (member : e' ∈ g.left.filterMap dispatched) : e' ∈ g.offered := by
    obtain ⟨⟨e'', fate⟩, listed, found⟩ := List.mem_filterMap.1 member
    rw [frames.accounts.offered]
    refine List.mem_append_left _ (List.mem_map.2 ⟨_, listed, ?_⟩)
    cases fate with
    | dispatched => exact Option.some.inj found
    | dropped reason => cases found
  obtain ⟨first, member, rfl⟩ := taken
  obtain ⟨second, member', same'⟩ := own
  have ids : first.context.frameId = second.context.frameId := by rw [same, same']
  rw [List.inj_on_of_nodup_map distinct (offered member) (offered member') ids, same']

/-- **What a dispatch returns.** However other threads connect, offer, restart, disconnect and close meanwhile,
a dispatch that returns an observation joined it under the id of its frame, never by capture time; and it
returns none only when the joiner was cleared between its two pushes. When all offered frames have different
ids, both samples are those of the frame that was dispatched. -/
theorem observations_own {eventId : GazeEventId} {deliveryOrder : DeliveryOrder} {eyePort : ReplayEyePort}
    {steps : List Step}
    (ran : Lts.Steps (step eventId) AdapterKeeps (.new deliveryOrder eyePort) steps g) :
    ∀ d ∈ g.dispatches, ∀ joined, d.result = .ok joined →
      (∀ o, joined = some o → o.matchedBy = .frameId ∧
        o.gaze.context.frameId = d.envelope.context.frameId ∧
        o.face.context.frameId = d.envelope.context.frameId ∧
        ((g.offered.map (·.context.frameId)).Nodup →
          o.gaze.context = d.envelope.context ∧ o.face.context = d.envelope.context)) ∧
      (joined = none → d.cleared = true) := by
  have paired : Paired g :=
    ran.invariant (fun _ _ _ h keeps stepped => h.step keeps stepped) (paired_new deliveryOrder eyePort)
  intro d member joined result
  obtain ⟨pair, missing⟩ := paired.returned d member joined result
  refine ⟨fun o found => ?_, missing⟩
  obtain ⟨exact, gaze, face⟩ := pair o found
  refine ⟨exact, gaze.2, face.2, fun distinct => ?_⟩
  have own : Dispatched g d.envelope.context := by
    refine ⟨d.envelope, ?_, rfl⟩
    rw [paired.frames.accounts.taken]
    exact List.mem_append_left _ (List.mem_map.2 ⟨d, member, rfl⟩)
  exact ⟨dispatched_unique paired.frames distinct own gaze.1 gaze.2,
    dispatched_unique paired.frames distinct own face.1 face.2⟩

/-- The sample of a worker, as a test. -/
def keepsContext (g : InProcessVisionGateway) : Step → Bool
  | .move (.workerEnds observation) =>
    g.stage.envelope.all fun e => decide (observation.sample.context = e.context)
  | _ => true

theorem adapterKeeps_of_test (g : InProcessVisionGateway) (l : Step) (h : keepsContext g l = true) :
    AdapterKeeps g l := by
  rintro observation rfl e own
  have test : g.stage.envelope.all (fun e => decide (observation.sample.context = e.context)) = true := h
  rw [own] at test
  exact of_decide_eq_true test

/-- A dispatch that ends. -/
def pairSteps : List Step :=
  [.connect firstHandshake true true, .offer firstFrame, .take, .move .infer, .move .readWorker,
    .move (.workerEnds ⟨⟨firstFrame.context, none⟩, 5, false⟩), .move (.checkRestart true), .move .pushFirst,
    .move .pushSecond, .move .flush, .leave]

theorem pairSteps_own : ∃ g : InProcessVisionGateway, ∃ d ∈ g.dispatches, ∃ o, d.result = .ok (some o) ∧
    o.matchedBy = .frameId := by
  have ended : (Lts.runWhile (step fun _ _ _ => "") keepsContext (.new .eyeFirst cornerPort) pairSteps).any
      (fun g => g.dispatches.any Dispatch.observed) = true := by decide +kernel
  obtain ⟨g, ran, returned⟩ := Lts.exists_guarded_steps_of_any keepsContext adapterKeeps_of_test ended
  obtain ⟨d, member, observed⟩ := List.any_eq_true.1 returned
  refine ⟨g, d, member, ?_⟩
  unfold Dispatch.observed at observed
  cases result : d.result with
  | error _ =>
    rw [result] at observed
    cases observed
  | ok joined =>
    rw [result] at observed
    obtain ⟨o, rfl⟩ := Option.isSome_iff_exists.1 (show joined.isSome = true from observed)
    exact ⟨o, rfl, ((observations_own ran d member (some o) result).1 o rfl).1⟩

end Harness

end Mkk.Gateway
