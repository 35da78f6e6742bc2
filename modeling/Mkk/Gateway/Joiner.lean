import Mkk.Gateway.FrameProcess
import Mkk.Lib.Rendezvous

/-!
# Joining gaze and face

`ObservationJoiner` of `gateway.py`: the outputs of one frame meet under its id, and what is left over meets
by capture time. Over any run every sample leaves in at most one observation (`run_account`), and a flush
joins the two closest whenever there are two to join (`Flushes`).
-/

namespace Mkk.Gateway

open Lib
open Eye (StreamFrameContext)

/-! ## Samples -/

/-- `D7GazeSample`, without the constants of its producer. -/
structure D7GazeSample where
  context : StreamFrameContext
  eventId : String
  screenXNorm : Option ℚ
  screenYNorm : Option ℚ
  valid : Bool
  confidence : ℚ
  reason : Option String
  deriving DecidableEq

inductive MatchedBy where
  | frameId
  | captureTime
  deriving DecidableEq

/-- `DerivedObservation` -/
structure DerivedObservation where
  gaze : D7GazeSample
  face : ExpressionSample
  matchedBy : MatchedBy
  faceLatencyMs : ℚ
  deriving DecidableEq

/-- The face of an observation, as it was pushed. -/
def DerivedObservation.pushedFace (o : DerivedObservation) : ExpressionSample × ℚ := (o.face, o.faceLatencyMs)

/-- `_gaze` and `_face` under the frames' ids, where a face waits with its latency. -/
structure ObservationJoiner where
  toleranceMs : ℚ
  waiting : Rendezvous String D7GazeSample (ExpressionSample × ℚ) := {}

namespace ObservationJoiner

variable (j : ObservationJoiner)

/-- `push_gaze` -/
def pushGaze (sample : D7GazeSample) : Option DerivedObservation × ObservationJoiner :=
  let (matching, waiting) := j.waiting.arriveLeft sample.context.frameId sample
  (matching.map fun face => ⟨sample, face.1, .frameId, face.2⟩, { j with waiting := waiting })

/-- `push_face` -/
def pushFace (sample : ExpressionSample) (latencyMs : ℚ) : Option DerivedObservation × ObservationJoiner :=
  let (matching, waiting) := j.waiting.arriveRight sample.context.frameId (sample, latencyMs)
  (matching.map fun gaze => ⟨gaze, sample, .frameId, latencyMs⟩, { j with waiting := waiting })

/-- `abs(face.captured_at_mono_ms - gaze.captured_at_mono_ms)` -/
def captureGap (gaze : D7GazeSample) (face : ExpressionSample) : ℚ :=
  |face.context.capturedAtMonoMs - gaze.context.capturedAtMonoMs|

/-- What `_nearest_face` asks of a face. -/
def eligible (gaze : D7GazeSample) (face : ExpressionSample) : Bool :=
  decide (face.context.sessionId = gaze.context.sessionId) &&
    decide (face.context.playbackEpoch = gaze.context.playbackEpoch) &&
    decide (captureGap gaze face ≤ j.toleranceMs)

/-- `_nearest_face`; the first one of several. -/
def nearestFace (gaze : D7GazeSample) : Option (String × ExpressionSample × ℚ) :=
  (j.waiting.right.entries.filter fun entry => j.eligible gaze entry.2.1).argmin
    fun entry => captureGap gaze entry.2.1

/-- A pair in the loop of `flush_nearest`: the keys, the gaze, the face and its latency. -/
structure Candidate where
  gazeKey : String
  faceKey : String
  gaze : D7GazeSample
  face : ExpressionSample
  latencyMs : ℚ

/-- `candidate[:3]`, compared from left to right. -/
def Candidate.rank (c : Candidate) : Lex (ℚ × Lex (String × String)) :=
  toLex (captureGap c.gaze c.face, toLex (c.gazeKey, c.faceKey))

/-- The pair of a gaze. -/
def candidate (entry : String × D7GazeSample) : Option Candidate :=
  (j.nearestFace entry.2).map fun face => ⟨entry.1, face.1, entry.2, face.2.1, face.2.2⟩

/-- The loop of `flush_nearest`, which keeps the least pair so far. -/
def best : Option Candidate → List (String × D7GazeSample) → Option Candidate
  | least, [] => least
  | least, entry :: rest =>
    match j.candidate entry with
    | none => best least rest
    | some pair =>
      match least with
      | none => best (some pair) rest
      | some least => best (some (if pair.rank < least.rank then pair else least)) rest

/-- `flush_nearest` -/
def flushNearest : Option DerivedObservation × ObservationJoiner :=
  match j.best none j.waiting.left.entries with
  | none => (none, j)
  | some pair =>
    (some ⟨pair.gaze, pair.face, .captureTime, pair.latencyMs⟩,
      { j with waiting := j.waiting.meet pair.gazeKey pair.faceKey })

/-- `clear` -/
def clear : ObservationJoiner := { j with waiting := {} }

/-! ## The nearest pair -/

variable {j}

theorem candidate_eq_some {entry : String × D7GazeSample} {pair : Candidate} (h : j.candidate entry = some pair) :
    pair.gazeKey = entry.1 ∧ pair.gaze = entry.2 ∧ j.eligible pair.gaze pair.face = true ∧
      j.waiting.right.get? pair.faceKey = some (pair.face, pair.latencyMs) ∧
      ∀ face ∈ j.waiting.right.values, j.eligible entry.2 face.1 = true →
        captureGap pair.gaze pair.face ≤ captureGap entry.2 face.1 := by
  obtain ⟨face, nearest, rfl⟩ := Option.map_eq_some_iff.1 h
  have member := List.argmin_mem nearest
  rw [List.mem_filter] at member
  refine ⟨rfl, rfl, member.2, Dict.mem_entries_iff.1 member.1, fun other listed eligible => ?_⟩
  obtain ⟨entry', waits, rfl⟩ := List.mem_map.1 listed
  exact List.le_of_mem_argmin (f := fun waiting : String × ExpressionSample × ℚ => captureGap entry.2 waiting.2.1)
    (List.mem_filter.2 ⟨waits, eligible⟩) nearest

theorem candidate_eq_none {entry : String × D7GazeSample} (h : j.candidate entry = none)
    {face : ExpressionSample × ℚ} (waits : face ∈ j.waiting.right.values) :
    j.eligible entry.2 face.1 = false := by
  unfold candidate nearestFace at h
  rw [Option.map_eq_none_iff, List.argmin_eq_none, List.filter_eq_nil_iff] at h
  obtain ⟨entry', listed, rfl⟩ := List.mem_map.1 waits
  exact Bool.eq_false_iff.2 (h entry' listed)

/-- The loop ends with a pair it met, and no pair it met is less. -/
theorem best_eq_some {least : Option Candidate} {entries : List (String × D7GazeSample)} {pair : Candidate}
    (h : j.best least entries = some pair) :
    (least = some pair ∨ ∃ entry ∈ entries, j.candidate entry = some pair) ∧
      (∀ met, least = some met → pair.rank ≤ met.rank) ∧
      ∀ entry ∈ entries, ∀ met, j.candidate entry = some met → pair.rank ≤ met.rank := by
  induction entries generalizing least with
  | nil =>
    subst h
    exact ⟨.inl rfl, fun met same => (congrArg Candidate.rank (Option.some.inj same)).le, by simp⟩
  | cons entry rest ih =>
    unfold best at h
    cases found : j.candidate entry with
    | none =>
      rw [found] at h
      obtain ⟨source, first, others⟩ := ih h
      refine ⟨source.imp_right fun ⟨e, listed, same⟩ => ⟨e, .tail _ listed, same⟩, first, ?_⟩
      intro e listed met same
      rcases List.mem_cons.1 listed with rfl | listed
      · cases found.symm.trans same
      · exact others e listed met same
    | some new =>
      rw [found] at h
      cases least with
      | none =>
        obtain ⟨source, first, others⟩ := ih h
        refine ⟨.inr ?_, by simp, ?_⟩
        · rcases source with same | ⟨e, listed, same⟩
          · exact ⟨entry, .head _, found.trans same⟩
          · exact ⟨e, .tail _ listed, same⟩
        · intro e listed met same
          rcases List.mem_cons.1 listed with rfl | listed
          · exact first met (found.symm.trans same)
          · exact others e listed met same
      | some old =>
        obtain ⟨source, first, others⟩ := ih h
        have bound := first _ rfl
        have lower : pair.rank ≤ new.rank ∧ pair.rank ≤ old.rank := by
          split at bound
          next less => exact ⟨bound, bound.trans less.le⟩
          next least => exact ⟨bound.trans (not_lt.1 least), bound⟩
        refine ⟨?_, ?_, ?_⟩
        · rcases source with same | ⟨e, listed, same⟩
          · split at same
            · exact .inr ⟨entry, .head _, found.trans same⟩
            · exact .inl same
          · exact .inr ⟨e, .tail _ listed, same⟩
        · intro met same
          cases same
          exact lower.2
        · intro e listed met same
          rcases List.mem_cons.1 listed with rfl | listed
          · cases found.symm.trans same
            exact lower.1
          · exact others e listed met same

/-- The loop ends with none only if it met none. -/
theorem best_eq_none {least : Option Candidate} {entries : List (String × D7GazeSample)}
    (h : j.best least entries = none) : least = none ∧ ∀ entry ∈ entries, j.candidate entry = none := by
  induction entries generalizing least with
  | nil => exact ⟨h, nofun⟩
  | cons entry rest ih =>
    unfold best at h
    cases found : j.candidate entry with
    | none =>
      rw [found] at h
      obtain ⟨first, others⟩ := ih h
      exact ⟨first, List.forall_mem_cons.2 ⟨found, others⟩⟩
    | some new =>
      rw [found] at h
      cases least with
      | none => cases (ih h).1
      | some old => cases (ih h).1

/-- A capture-time pair: the two samples that wait closest to each other. -/
structure Nearest (j : ObservationJoiner) (pair : Candidate) : Prop where
  gaze : j.waiting.left.get? pair.gazeKey = some pair.gaze
  face : j.waiting.right.get? pair.faceKey = some (pair.face, pair.latencyMs)
  eligible : j.eligible pair.gaze pair.face = true
  least : ∀ gaze ∈ j.waiting.left.values, ∀ face ∈ j.waiting.right.values, j.eligible gaze face.1 = true →
    captureGap pair.gaze pair.face ≤ captureGap gaze face.1

theorem best_nearest {pair : Candidate} (h : j.best none j.waiting.left.entries = some pair) :
    Nearest j pair := by
  obtain ⟨source, -, others⟩ := best_eq_some h
  rcases source with none | ⟨entry, listed, found⟩
  · cases none
  obtain ⟨key, gaze, eligible, face, -⟩ := candidate_eq_some found
  refine ⟨?_, face, eligible, fun gaze' waits face' waits' eligible' => ?_⟩
  · rw [key, gaze]
    exact Dict.mem_entries_iff.1 listed
  · obtain ⟨entry', listed', rfl⟩ := List.mem_map.1 waits
    cases found' : j.candidate entry' with
    | none => exact absurd eligible' (Bool.eq_false_iff.1 (candidate_eq_none found' waits'))
    | some other =>
      obtain ⟨-, -, -, -, closest⟩ := candidate_eq_some found'
      have ranked := others entry' listed' other found'
      have gap : captureGap pair.gaze pair.face ≤ captureGap other.gaze other.face :=
        (Prod.Lex.le_iff.1 ranked).elim le_of_lt fun same => same.1.le
      exact gap.trans (closest face' waits' eligible')

/-! ## Runs -/

inductive Call where
  | pushGaze (sample : D7GazeSample)
  | pushFace (sample : ExpressionSample) (latencyMs : ℚ)
  | flushNearest
  | clear

def Call.gaze : Call → Multiset D7GazeSample
  | pushGaze sample => {sample}
  | _ => 0

def Call.face : Call → Multiset (ExpressionSample × ℚ)
  | pushFace sample latencyMs => {(sample, latencyMs)}
  | _ => 0

variable (j)

def step : Call → Option DerivedObservation × ObservationJoiner
  | .pushGaze sample => j.pushGaze sample
  | .pushFace sample latencyMs => j.pushFace sample latencyMs
  | .flushNearest => j.flushNearest
  | .clear => (none, j.clear)

/-- The gaze that a call drops: one that another gaze of the same frame replaces, and what is cleared. -/
def lostGaze : Call → Multiset D7GazeSample
  | .pushGaze sample => j.waiting.replacedLeft sample.context.frameId
  | .clear => j.waiting.left.values
  | _ => 0

def lostFace : Call → Multiset (ExpressionSample × ℚ)
  | .pushFace sample _ => j.waiting.replacedRight sample.context.frameId
  | .clear => j.waiting.right.values
  | _ => 0

/-- The observations of a run, what it lost, and the joiner after it. -/
structure Run where
  joiner : ObservationJoiner
  emitted : Multiset DerivedObservation := 0
  lostGaze : Multiset D7GazeSample := 0
  lostFace : Multiset (ExpressionSample × ℚ) := 0

def run (j : ObservationJoiner) : List Call → Run
  | [] => { joiner := j }
  | call :: rest =>
    let after := run (j.step call).2 rest
    { joiner := after.joiner
      emitted := (j.step call).1.elim 0 ({·}) + after.emitted
      lostGaze := j.lostGaze call + after.lostGaze
      lostFace := j.lostFace call + after.lostFace }

variable {j}

/-- Samples wait under the ids of their frames, and of a frame on one side only. -/
structure Kept (j : ObservationJoiner) : Prop where
  apart : j.waiting.Apart
  keys : j.waiting.All (fun key gaze => gaze.context.frameId = key) fun key face => face.1.context.frameId = key

/-- Samples of one frame, or samples of two frames of one session and epoch captured closely. -/
structure Sound (toleranceMs : ℚ) (o : DerivedObservation) : Prop where
  exact : o.matchedBy = .frameId → o.face.context.frameId = o.gaze.context.frameId
  nearest : o.matchedBy = .captureTime → o.face.context.sessionId = o.gaze.context.sessionId ∧
    o.face.context.playbackEpoch = o.gaze.context.playbackEpoch ∧ captureGap o.gaze o.face ≤ toleranceMs ∧
    o.face.context.frameId ≠ o.gaze.context.frameId

theorem kept_new (toleranceMs : ℚ) : Kept { toleranceMs := toleranceMs } := ⟨Rendezvous.apart_new, .new⟩

namespace Kept

theorem pushGaze (h : Kept j) (sample : D7GazeSample) : Kept (j.pushGaze sample).2 ∧
    ∀ o, (j.pushGaze sample).1 = some o → Sound j.toleranceMs o := by
  obtain ⟨keys, taken⟩ := h.keys.arriveLeft (a := sample) rfl
  refine ⟨⟨h.apart.arriveLeft _ sample, keys⟩, fun o joined => ?_⟩
  obtain ⟨face, met, rfl⟩ := Option.map_eq_some_iff.1 joined
  exact ⟨fun _ => taken face met, nofun⟩

theorem pushFace (h : Kept j) (sample : ExpressionSample) (latencyMs : ℚ) : Kept (j.pushFace sample latencyMs).2 ∧
    ∀ o, (j.pushFace sample latencyMs).1 = some o → Sound j.toleranceMs o := by
  obtain ⟨keys, taken⟩ := h.keys.arriveRight (b := (sample, latencyMs)) rfl
  refine ⟨⟨h.apart.arriveRight _ (sample, latencyMs), keys⟩, fun o joined => ?_⟩
  obtain ⟨gaze, met, rfl⟩ := Option.map_eq_some_iff.1 joined
  exact ⟨fun _ => (taken gaze met).symm, nofun⟩

theorem flushNearest (h : Kept j) : Kept j.flushNearest.2 ∧
    ∀ o, j.flushNearest.1 = some o → Sound j.toleranceMs o := by
  unfold ObservationJoiner.flushNearest
  cases found : j.best none j.waiting.left.entries with
  | none => exact ⟨h, by simp⟩
  | some pair =>
    have nearest := best_nearest found
    refine ⟨⟨h.apart.meet _ _, h.keys.meet _ _⟩, ?_⟩
    rintro o ⟨⟩
    have eligible := nearest.eligible
    unfold ObservationJoiner.eligible at eligible
    simp only [Bool.and_eq_true, decide_eq_true_eq] at eligible
    refine ⟨nofun, fun _ => ⟨eligible.1.1, eligible.1.2, eligible.2, ?_⟩⟩
    dsimp only
    rw [h.keys.right _ _ nearest.face, h.keys.left _ _ nearest.gaze]
    exact (h.apart.ne nearest.gaze nearest.face).symm

theorem step (h : Kept j) (call : Call) : Kept (j.step call).2 ∧
    ∀ o, (j.step call).1 = some o → Sound j.toleranceMs o := by
  cases call with
  | pushGaze sample => exact h.pushGaze sample
  | pushFace sample latencyMs => exact h.pushFace sample latencyMs
  | flushNearest => exact h.flushNearest
  | clear => exact ⟨kept_new j.toleranceMs, by simp [ObservationJoiner.step]⟩

end Kept

theorem step_toleranceMs (call : Call) : (j.step call).2.toleranceMs = j.toleranceMs := by
  cases call with
  | pushGaze sample => rfl
  | pushFace sample latencyMs => rfl
  | flushNearest =>
    show j.flushNearest.2.toleranceMs = _
    unfold flushNearest
    split <;> rfl
  | clear => rfl

/-- The gaze and the face of an observation. -/
def pairOf (o : DerivedObservation) : D7GazeSample × ExpressionSample × ℚ := (o.gaze, o.pushedFace)

theorem account_step (call : Call) : Rendezvous.Account j.waiting (j.step call).2.waiting
    (call.gaze, call.face) ((j.step call).1.elim 0 fun o => {pairOf o}) (j.lostGaze call, j.lostFace call) := by
  cases call with
  | pushGaze sample =>
    have account := Rendezvous.Account.arriveLeft j.waiting sample.context.frameId sample
    unfold step pushGaze
    dsimp only
    rw [Option.elim_map]
    exact account
  | pushFace sample latencyMs =>
    have account := Rendezvous.Account.arriveRight j.waiting sample.context.frameId (sample, latencyMs)
    unfold step pushFace
    dsimp only
    rw [Option.elim_map]
    exact account
  | flushNearest =>
    unfold step flushNearest
    cases found : j.best none j.waiting.left.entries with
    | none => exact .refl _
    | some pair =>
      have nearest := best_nearest found
      exact .meet nearest.gaze nearest.face
  | clear => exact .clear _

theorem Kept.run (h : Kept j) (calls : List Call) : Kept (j.run calls).joiner ∧
    ∀ o ∈ (j.run calls).emitted, Sound j.toleranceMs o := by
  induction calls generalizing j with
  | nil => exact ⟨h, by simp [ObservationJoiner.run]⟩
  | cons call rest ih =>
    obtain ⟨left, sound⟩ := h.step call
    obtain ⟨last, others⟩ := ih left
    refine ⟨last, fun o member => ?_⟩
    rcases Multiset.mem_add.1 member with now | later
    · cases result : (j.step call).1 with
      | none =>
        rw [result] at now
        exact absurd now (Multiset.notMem_zero o)
      | some o' =>
        rw [result] at now
        obtain rfl := Multiset.mem_singleton.1 now
        exact sound o result
    · rw [← step_toleranceMs call]
      exact others o later

theorem map_elim {α β : Type} (f : α → β) (o : Option α) :
    (o.elim (0 : Multiset α) ({·})).map f = o.elim 0 fun a => {f a} := by
  cases o <;> rfl

/-- The accounts of the calls of a run add up. -/
theorem run_account (j : ObservationJoiner) (calls : List Call) :
    Rendezvous.Account j.waiting (j.run calls).joiner.waiting
      ((calls.map Call.gaze).sum, (calls.map Call.face).sum) ((j.run calls).emitted.map pairOf)
      ((j.run calls).lostGaze, (j.run calls).lostFace) := by
  induction calls generalizing j with
  | nil => exact .refl _
  | cons call rest ih =>
    have account := (account_step (j := j) call).trans (ih (j.step call).2)
    rw [← map_elim, ← Multiset.map_add] at account
    rw [List.map_cons, List.sum_cons, List.map_cons, List.sum_cons]
    exact account

/-! ## Flushes -/

/-- The gaze and the face wait, and `_nearest_face` would join them. -/
structure Waits (j : ObservationJoiner) (gaze : D7GazeSample) (face : ExpressionSample × ℚ) : Prop where
  left : gaze ∈ j.waiting.left.values
  right : face ∈ j.waiting.right.values
  eligible : j.eligible gaze face.1 = true

/-- A flush joins two samples exactly when two wait that may be joined; it takes them away, and no two
that wait are closer. -/
structure Flushes (j : ObservationJoiner) : Prop where
  joins : j.flushNearest.1.isSome = true ↔ ∃ gaze face, Waits j gaze face
  waited : ∀ o, j.flushNearest.1 = some o → o.matchedBy = .captureTime ∧ Waits j o.gaze o.pushedFace
  closest : ∀ o, j.flushNearest.1 = some o → ∀ gaze face, Waits j gaze face →
    captureGap o.gaze o.face ≤ captureGap gaze face.1
  leave : ∀ o, j.flushNearest.1 = some o →
    (j.waiting.left.values : Multiset D7GazeSample) = {o.gaze} + j.flushNearest.2.waiting.left.values ∧
    (j.waiting.right.values : Multiset (ExpressionSample × ℚ)) =
      {o.pushedFace} + j.flushNearest.2.waiting.right.values

theorem flushes (j : ObservationJoiner) : Flushes j := by
  cases found : j.best none j.waiting.left.entries with
  | none =>
    have flushed : j.flushNearest = (none, j) := by
      unfold flushNearest
      rw [found]
    have nothing {o : DerivedObservation} : j.flushNearest.1 ≠ some o := by
      rw [flushed]
      exact nofun
    refine ⟨⟨fun joins => ?_, ?_⟩, fun o joins => absurd joins nothing, fun o joins => absurd joins nothing,
      fun o joins => absurd joins nothing⟩
    · obtain ⟨o, joins⟩ := Option.isSome_iff_exists.1 joins
      exact absurd joins nothing
    · rintro ⟨gaze, face, waits⟩
      obtain ⟨entry, listed, rfl⟩ := List.mem_map.1 waits.left
      have none := candidate_eq_none ((best_eq_none found).2 entry listed) waits.right
      exact absurd waits.eligible (Bool.eq_false_iff.1 none)
  | some pair =>
    have flushed : j.flushNearest = (some ⟨pair.gaze, pair.face, .captureTime, pair.latencyMs⟩,
        { j with waiting := j.waiting.meet pair.gazeKey pair.faceKey }) := by
      unfold flushNearest
      rw [found]
    have nearest := best_nearest found
    have waits : Waits j pair.gaze (pair.face, pair.latencyMs) :=
      ⟨Dict.mem_values_iff.2 ⟨_, nearest.gaze⟩, Dict.mem_values_iff.2 ⟨_, nearest.face⟩, nearest.eligible⟩
    refine ⟨?_, ?_, ?_, ?_⟩
    · rw [flushed]
      exact ⟨fun _ => ⟨_, _, waits⟩, fun _ => rfl⟩
    all_goals
      rw [flushed]
      rintro o ⟨⟩
    · exact ⟨rfl, waits⟩
    · exact fun gaze face other => nearest.least gaze other.left face other.right other.eligible
    · exact ⟨Dict.values_pop nearest.gaze, Dict.values_pop nearest.face⟩

/-- **Joining.** Over any run every sample that was pushed is in exactly one observation, was replaced or
cleared, or waits; no frame waits on both sides; every observation joins one frame, or two frames of one
session and epoch captured within the tolerance; and a flush takes the two closest of those it may join. -/
theorem joined_once (toleranceMs : ℚ) (calls : List Call) :
    (calls.map Call.gaze).sum = (run ⟨toleranceMs, {}⟩ calls).emitted.map (·.gaze) +
        (run ⟨toleranceMs, {}⟩ calls).lostGaze + (run ⟨toleranceMs, {}⟩ calls).joiner.waiting.left.values ∧
      (calls.map Call.face).sum = (run ⟨toleranceMs, {}⟩ calls).emitted.map (·.pushedFace) +
        (run ⟨toleranceMs, {}⟩ calls).lostFace + (run ⟨toleranceMs, {}⟩ calls).joiner.waiting.right.values ∧
      (run ⟨toleranceMs, {}⟩ calls).joiner.waiting.Apart ∧
      (∀ o ∈ (run ⟨toleranceMs, {}⟩ calls).emitted, Sound toleranceMs o) ∧
      Flushes (run ⟨toleranceMs, {}⟩ calls).joiner := by
  obtain ⟨kept, sound⟩ := (kept_new toleranceMs).run calls
  obtain ⟨gazes, faces⟩ := run_account ⟨toleranceMs, {}⟩ calls
  rw [Multiset.map_map] at gazes faces
  exact ⟨gazes.of_empty, faces.of_empty, kept.apart, sound, flushes _⟩

end ObservationJoiner

end Mkk.Gateway
