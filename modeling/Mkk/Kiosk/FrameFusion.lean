import Mkk.Kiosk.ObservationBatch

/-!
# The fused frames

`fuseByFrameId` reads the three lists of samples into one map. Every sample is in the frame of its
key, but for a missing gaze whose reason was empty and gave way to another (`Collected`), and the
frames come out in the strict order of their sequence (`fuseByFrameId_fused`).
-/

namespace Mkk.Kiosk

open Lib

/-! ## Keys -/

theorem toString_nat_injective : Function.Injective (toString : ℕ → String) := by
  intro m n same
  have digits : Nat.toDigits 10 m = Nat.toDigits 10 n := by
    rw [← Nat.toList_repr, ← Nat.toList_repr, ← Nat.toString_eq_repr, ← Nat.toString_eq_repr, same]
  rw [← Nat.ofDigitChars_ten_toDigits (n := m), digits, Nat.ofDigitChars_ten_toDigits]

/-- Lists are split at the first occurrence of an element in one way only. -/
theorem split_first {α : Type} {c : α} {x y z w : List α} (fresh : c ∉ x) (fresh' : c ∉ y)
    (same : x ++ c :: z = y ++ c :: w) : x = y ∧ z = w := by
  induction x generalizing y with
  | nil =>
    cases y with
    | nil => exact ⟨rfl, (List.cons.inj same).2⟩
    | cons b y =>
      obtain ⟨rfl, -⟩ := List.cons.inj same
      exact absurd List.mem_cons_self fresh'
  | cons a x ih =>
    cases y with
    | nil =>
      obtain ⟨rfl, -⟩ := List.cons.inj same
      exact absurd List.mem_cons_self fresh
    | cons b y =>
      obtain ⟨rfl, rest⟩ := List.cons.inj same
      obtain ⟨rfl, rfl⟩ := ih (fun member => fresh (List.mem_cons_of_mem _ member))
        (fun member => fresh' (List.mem_cons_of_mem _ member)) rest
      exact ⟨rfl, rfl⟩

/-- The key of a frame is its epoch and its id. -/
theorem FrameStamp.key_eq_iff {a b : FrameStamp} :
    a.key = b.key ↔ a.playbackEpoch = b.playbackEpoch ∧ a.frameId = b.frameId := by
  constructor
  · intro same
    have lists : (toString a.playbackEpoch).toList ++ ':' :: a.frameId.toList =
        (toString b.playbackEpoch).toList ++ ':' :: b.frameId.toList := by
      have lists := congrArg String.toList same
      simpa [FrameStamp.key, String.toList_append] using lists
    have digits (n : ℕ) : ':' ∉ (toString n).toList := by
      intro colon
      rw [Nat.toString_eq_repr, Nat.toList_repr] at colon
      have digit := Nat.isDigit_of_mem_toDigits (by decide) (by decide) colon
      revert digit
      decide
    obtain ⟨epochs, ids⟩ := split_first (digits a.playbackEpoch) (digits b.playbackEpoch) lists
    exact ⟨toString_nat_injective (String.toList_injective epochs), String.toList_injective ids⟩
  · rintro ⟨epochs, ids⟩
    rw [FrameStamp.key, FrameStamp.key, epochs, ids]

/-! ## One sample -/

section Steps

variable {options : BuildOptions} {frames frames' : Dict String FusedFrame} {frame : FusedFrame}

theorem check_eq_ok_iff {condition : Bool} {text : String} {u : Unit} :
    check condition text = .ok u ↔ condition = true := by
  unfold check
  cases condition <;> simp

/-- Every frame is under its key. -/
def Keyed (frames : Dict String FusedFrame) : Prop := ∀ k f, frames.get? k = some f → f.key = k

/-- The frame a sample belongs to has the stamp of the sample. -/
theorem frameFor_eq_ok (keyed : Keyed frames) {stamp : FrameStamp} (found : frameFor frames stamp = .ok frame) :
    frame.toFrameStamp = stamp ∧
      (frames.get? stamp.key = none ∧ frame = { toFrameStamp := stamp } ∨
        frames.get? stamp.key = some frame) := by
  unfold frameFor at found
  split at found
  · rename_i absent
    cases found
    exact ⟨rfl, .inl ⟨absent, rfl⟩⟩
  · rename_i present existing
    simp only [Api.bind_eq_ok_iff, requireSameFrameContext, check_eq_ok_iff, Bool.and_eq_true,
      decide_eq_true_eq] at found
    obtain ⟨-, ⟨⟨captured, video⟩, epoch⟩, -, sequence, found⟩ := found
    cases found
    refine ⟨?_, .inr existing⟩
    obtain ⟨-, id⟩ := FrameStamp.key_eq_iff.1 (keyed _ _ existing)
    cases stamp
    cases frame with | mk own => cases own; simp_all

/-- What reading a gaze sample does. -/
theorem addGazeSample_eq_ok (keyed : Keyed frames) {sample : GazeSample}
    (read : addGazeSample options frames sample = .ok frames') :
    ∃ frame : FusedFrame, frame.toFrameStamp = sample.stamp ∧
      (frames.get? sample.stamp.key = none ∧ frame = { toFrameStamp := sample.stamp } ∨
        frames.get? sample.stamp.key = some frame) ∧
      (frame.gaze = some sample ∧ frames' = frames ∨ frame.gaze = none ∧
        frames' = frames.set sample.stamp.key { frame with gaze := some sample }) := by
  unfold addGazeSample at read
  obtain ⟨_, -, read⟩ := Api.bind_eq_ok_iff.1 read
  obtain ⟨frame, found, read⟩ := Api.bind_eq_ok_iff.1 read
  obtain ⟨stamp, place⟩ := frameFor_eq_ok keyed found
  refine ⟨frame, stamp, place, ?_⟩
  split at read
  · rename_i gaze known
    simp only [Api.bind_eq_ok_iff, check_eq_ok_iff, decide_eq_true_eq] at read
    obtain ⟨_, same, kept⟩ := read
    cases kept
    exact .inl ⟨same ▸ known, rfl⟩
  · rename_i unknown
    cases read
    exact .inr ⟨unknown, rfl⟩

/-- What reading an expression sample does. -/
theorem addExpressionSample_eq_ok (keyed : Keyed frames) {sample : ExpressionSample}
    (read : addExpressionSample options frames sample = .ok frames') :
    ∃ frame : FusedFrame, frame.toFrameStamp = sample.stamp ∧
      (frames.get? sample.stamp.key = none ∧ frame = { toFrameStamp := sample.stamp } ∨
        frames.get? sample.stamp.key = some frame) ∧
      (frame.expression = some sample ∧ frames' = frames ∨ frame.expression = none ∧
        frames' = frames.set sample.stamp.key { frame with expression := some sample }) := by
  unfold addExpressionSample at read
  obtain ⟨_, -, read⟩ := Api.bind_eq_ok_iff.1 read
  obtain ⟨frame, found, read⟩ := Api.bind_eq_ok_iff.1 read
  obtain ⟨stamp, place⟩ := frameFor_eq_ok keyed found
  refine ⟨frame, stamp, place, ?_⟩
  split at read
  · rename_i expression known
    simp only [Api.bind_eq_ok_iff, check_eq_ok_iff, decide_eq_true_eq] at read
    obtain ⟨_, same, kept⟩ := read
    cases kept
    exact .inl ⟨same ▸ known, rfl⟩
  · rename_i unknown
    cases read
    exact .inr ⟨unknown, rfl⟩

/-- What reading a missing gaze does. -/
theorem addUnavailableGaze_eq_ok (keyed : Keyed frames) {sample : GazeUnavailableSample}
    (read : addUnavailableGaze options frames sample = .ok frames') :
    ∃ frame : FusedFrame, frame.toFrameStamp = sample.toFrameStamp ∧
      (frames.get? sample.key = none ∧ frame = { toFrameStamp := sample.toFrameStamp } ∨
        frames.get? sample.key = some frame) ∧
      frame.gaze = none ∧ (∀ r ∈ frame.gazeReason, r = "" ∨ r = sample.reason) ∧
      frames' = frames.set sample.key { frame with gazeReason := some sample.reason } := by
  unfold addUnavailableGaze at read
  obtain ⟨_, -, read⟩ := Api.bind_eq_ok_iff.1 read
  obtain ⟨_, -, read⟩ := Api.bind_eq_ok_iff.1 read
  dsimp only at read
  split at read
  · rename_i existing present
    simp only [Api.bind_eq_ok_iff, check_eq_ok_iff, Bool.and_eq_true, decide_eq_true_eq,
      Bool.not_eq_true', Bool.or_eq_false_iff, Option.isSome_eq_false_iff, Option.isNone_iff_eq_none,
      Bool.and_eq_false_iff, decide_eq_false_iff_not, not_not] at read
    obtain ⟨-, ⟨⟨⟨captured, video⟩, epoch⟩, sequence⟩, -, ⟨gaze, reason⟩, read⟩ := read
    cases read
    refine ⟨existing, ?_, .inr present, gaze, fun r known => ?_, rfl⟩
    · obtain ⟨-, id⟩ := FrameStamp.key_eq_iff.1 (keyed _ _ present)
      cases sample with | mk own => cases own; cases existing with | mk other => cases other; simp_all
    · rw [Option.mem_def] at known
      rw [known] at reason
      simpa [isTruthy] using reason
  · rename_i absent
    cases read
    refine ⟨{ toFrameStamp := sample.toFrameStamp }, rfl, .inl ⟨absent, rfl⟩, rfl, ?_, rfl⟩
    intro r known
    cases known

end Steps

/-! ## The three lists -/

section Loops

variable {options : BuildOptions} {base frames frames' : Dict String FusedFrame}

/-- The map after some gaze samples: one frame for each. -/
def GazeRead (samples : List GazeSample) (frames : Dict String FusedFrame) : Prop :=
  ∀ k f, frames.get? k = some f ↔
    ∃ g ∈ samples, g.stamp.key = k ∧ f = { toFrameStamp := g.stamp, gaze := some g }

theorem GazeRead.keyed {samples : List GazeSample} (h : GazeRead samples frames) : Keyed frames := by
  intro k f found
  obtain ⟨g, -, rfl, rfl⟩ := (h k f).1 found
  rfl

theorem GazeRead.add {samples : List GazeSample} {sample : GazeSample} (h : GazeRead samples frames)
    (read : addGazeSample options frames sample = .ok frames') : GazeRead (samples ++ [sample]) frames' := by
  obtain ⟨frame, -, ⟨absent, rfl⟩ | present, added⟩ := addGazeSample_eq_ok h.keyed read
  · obtain ⟨known, -⟩ | ⟨-, rfl⟩ := added
    · cases known
    intro k f
    rw [Dict.get?_set]
    split_ifs with same
    · subst same
      constructor
      · rintro ⟨⟩
        exact ⟨sample, by simp, rfl, rfl⟩
      · rintro ⟨g, listed, same, rfl⟩
        rcases List.mem_append.1 listed with earlier | new
        · rw [(h _ _).2 ⟨g, earlier, same, rfl⟩] at absent
          cases absent
        · obtain rfl := List.mem_singleton.1 new
          rfl
    · rw [h k f]
      constructor
      · rintro ⟨g, earlier, rest⟩
        exact ⟨g, List.mem_append_left _ earlier, rest⟩
      · rintro ⟨g, listed, at', rest⟩
        rcases List.mem_append.1 listed with earlier | new
        · exact ⟨g, earlier, at', rest⟩
        · obtain rfl := List.mem_singleton.1 new
          exact absurd at'.symm same
  · obtain ⟨g, earlier, at', rfl⟩ := (h _ _).1 present
    obtain ⟨known, rfl⟩ | ⟨unknown, -⟩ := added
    · cases known
      intro k f
      rw [h k f]
      constructor
      · rintro ⟨g, earlier, rest⟩
        exact ⟨g, List.mem_append_left _ earlier, rest⟩
      · rintro ⟨g', listed, rest⟩
        rcases List.mem_append.1 listed with earlier' | new
        · exact ⟨g', earlier', rest⟩
        · obtain rfl := List.mem_singleton.1 new
          exact ⟨g', earlier, rest⟩
    · cases unknown

/-- The map after some missing gazes: the frames there were, and one for each. -/
structure MissingRead (base : Dict String FusedFrame) (samples : List GazeUnavailableSample)
    (frames : Dict String FusedFrame) : Prop where
  kept : ∀ k f, base.get? k = some f → frames.get? k = some f
  read : ∀ u ∈ samples, ∃ r, frames.get? u.key =
    some { toFrameStamp := u.toFrameStamp, gazeReason := some r } ∧ (u.reason = "" ∨ u.reason = r)
  only : ∀ k f, frames.get? k = some f → base.get? k = some f ∨
    ∃ u ∈ samples, u.key = k ∧ f = { toFrameStamp := u.toFrameStamp, gazeReason := some u.reason }

theorem MissingRead.keyed {samples : List GazeUnavailableSample} (h : MissingRead base samples frames)
    (keyed : Keyed base) : Keyed frames := by
  intro k f found
  obtain old | ⟨u, -, rfl, rfl⟩ := h.only k f found
  · exact keyed k f old
  · rfl

theorem MissingRead.add {samples : List GazeUnavailableSample} {sample : GazeUnavailableSample}
    (keyed : Keyed base) (gazes : ∀ k f, base.get? k = some f → f.gaze.isSome = true)
    (h : MissingRead base samples frames) (read : addUnavailableGaze options frames sample = .ok frames') :
    MissingRead base (samples ++ [sample]) frames' := by
  obtain ⟨frame, stamp, place, unseen, reasons, rfl⟩ := addUnavailableGaze_eq_ok (h.keyed keyed) read
  have fresh : { frame with gazeReason := some sample.reason } =
      ({ toFrameStamp := sample.toFrameStamp, gazeReason := some sample.reason } : FusedFrame) := by
    rcases place with ⟨-, rfl⟩ | present
    · rfl
    · obtain old | ⟨u, -, -, rfl⟩ := h.only _ _ present
      · have seen := gazes _ _ old
        rw [unseen] at seen
        cases seen
      · change u.toFrameStamp = sample.toFrameStamp at stamp
        rw [← stamp]
  rw [fresh]
  refine { kept := fun k f found => ?_, read := fun u listed => ?_, only := fun k f found => ?_ }
  · rw [Dict.get?_set]
    split_ifs with same
    · subst same
      have old := h.kept _ _ found
      rcases place with ⟨absent, -⟩ | present
      · rw [absent] at old
        cases old
      · rw [present] at old
        cases old
        have seen := gazes _ _ found
        rw [unseen] at seen
        cases seen
    · exact h.kept k f found
  · rw [Dict.get?_set]
    rcases List.mem_append.1 listed with earlier | new
    · obtain ⟨r, found, reason⟩ := h.read u earlier
      split_ifs with same
      · rw [same] at found
        rcases place with ⟨absent, -⟩ | present
        · rw [absent] at found
          cases found
        · rw [present] at found
          cases found
          refine ⟨sample.reason, ?_, ?_⟩
          · change u.toFrameStamp = sample.toFrameStamp at stamp
            rw [stamp]
          · rcases reason with empty | rfl
            · exact .inl empty
            · exact reasons _ rfl
      · exact ⟨r, found, reason⟩
    · obtain rfl := List.mem_singleton.1 new
      rw [if_pos rfl]
      exact ⟨u.reason, rfl, .inr rfl⟩
  · rw [Dict.get?_set] at found
    split_ifs at found with same
    · cases found
      exact .inr ⟨sample, by simp, same.symm, rfl⟩
    · obtain old | ⟨u, earlier, rest⟩ := h.only k f found
      · exact .inl old
      · exact .inr ⟨u, List.mem_append_left _ earlier, rest⟩

/-- Two frames that differ in the expression at most. -/
structure SameGaze (f f' : FusedFrame) : Prop where
  stamp : f'.toFrameStamp = f.toFrameStamp
  gaze : f'.gaze = f.gaze
  reason : f'.gazeReason = f.gazeReason

/-- The map after some expression samples. -/
structure ExpressionRead (base : Dict String FusedFrame) (samples : List ExpressionSample)
    (frames : Dict String FusedFrame) : Prop where
  keyed : Keyed frames
  kept : ∀ k f, base.get? k = some f → ∃ f', frames.get? k = some f' ∧ SameGaze f f'
  read : ∀ e ∈ samples, ∃ f, frames.get? e.stamp.key = some f ∧ f.toFrameStamp = e.stamp ∧
    f.expression = some e
  only : ∀ k f, frames.get? k = some f → (∃ f', base.get? k = some f' ∧ SameGaze f' f) ∨
    ∃ e ∈ samples, SameGaze { toFrameStamp := e.stamp } f
  expression : ∀ k f e, frames.get? k = some f → f.expression = some e →
    e ∈ samples ∧ e.stamp = f.toFrameStamp

theorem ExpressionRead.add {samples : List ExpressionSample} {sample : ExpressionSample}
    (h : ExpressionRead base samples frames) (read : addExpressionSample options frames sample = .ok frames') :
    ExpressionRead base (samples ++ [sample]) frames' := by
  have widen {e : ExpressionSample} (earlier : e ∈ samples) : e ∈ samples ++ [sample] :=
    List.mem_append_left _ earlier
  obtain ⟨frame, stamp, place, ⟨known, rfl⟩ | ⟨unknown, rfl⟩⟩ := addExpressionSample_eq_ok h.keyed read
  · refine { h with read := ?_, only := ?_, expression := ?_ }
    · intro e listed
      rcases List.mem_append.1 listed with earlier | new
      · exact h.read e earlier
      · obtain rfl := List.mem_singleton.1 new
        rcases place with ⟨-, rfl⟩ | present
        · cases known
        · exact ⟨frame, present, stamp, known⟩
    · intro k f found
      exact (h.only k f found).imp id fun ⟨e, earlier, same⟩ => ⟨e, widen earlier, same⟩
    · intro k f e found own
      obtain ⟨earlier, same⟩ := h.expression k f e found own
      exact ⟨widen earlier, same⟩
  · refine { keyed := ?_, kept := ?_, read := ?_, only := ?_, expression := ?_ }
    · intro k f found
      rw [Dict.get?_set] at found
      split_ifs at found with same
      · cases found
        rw [same, ← stamp]
      · exact h.keyed k f found
    · intro k f found
      obtain ⟨f', later, same⟩ := h.kept k f found
      by_cases at' : k = sample.stamp.key
      · subst at'
        rcases place with ⟨absent, -⟩ | present
        · rw [absent] at later
          cases later
        · rw [present] at later
          cases later
          exact ⟨_, Dict.get?_set_self _ _ _, same.stamp, same.gaze, same.reason⟩
      · exact ⟨f', by rw [Dict.get?_set_ne _ at']; exact later, same⟩
    · intro e listed
      by_cases at' : e.stamp.key = sample.stamp.key
      · rw [at', Dict.get?_set_self]
        refine ⟨_, rfl, ?_⟩
        rcases List.mem_append.1 listed with earlier | new
        · obtain ⟨f, found, same, own⟩ := h.read e earlier
          rw [at'] at found
          rcases place with ⟨absent, -⟩ | present
          · rw [absent] at found
            cases found
          · rw [present] at found
            cases found
            rw [unknown] at own
            cases own
        · obtain rfl := List.mem_singleton.1 new
          exact ⟨stamp, rfl⟩
      · rcases List.mem_append.1 listed with earlier | new
        · rw [Dict.get?_set_ne _ at']
          exact h.read e earlier
        · obtain rfl := List.mem_singleton.1 new
          exact absurd rfl at'
    · intro k f found
      rw [Dict.get?_set] at found
      split_ifs at found with same
      · cases found
        rcases place with ⟨absent, rfl⟩ | present
        · exact .inr ⟨sample, by simp, rfl, rfl, rfl⟩
        · subst same
          rcases h.only _ _ present with ⟨f', old, same⟩ | ⟨e, earlier, same⟩
          · exact .inl ⟨f', old, same.stamp, same.gaze, same.reason⟩
          · exact .inr ⟨e, widen earlier, same.stamp, same.gaze, same.reason⟩
      · exact (h.only k f found).imp id fun ⟨e, earlier, same⟩ => ⟨e, widen earlier, same⟩
    · intro k f e found own
      rw [Dict.get?_set] at found
      split_ifs at found
      · cases found
        cases own
        exact ⟨by simp, stamp.symm⟩
      · obtain ⟨earlier, same⟩ := h.expression k f e found own
        exact ⟨widen earlier, same⟩

/-- A loop over a list keeps what its body keeps of the samples read so far. -/
theorem foldlM_reads {ε α σ : Type} {f : σ → α → Except ε σ} {Read : List α → σ → Prop}
    (turn : ∀ done a s s', f s a = .ok s' → Read done s → Read (done ++ [a]) s') {l done : List α}
    {s s' : σ} (looped : l.foldlM f s = .ok s') (before : Read done s) : Read (done ++ l) s' := by
  induction l generalizing s done with
  | nil =>
    cases looped
    rwa [List.append_nil]
  | cons a rest ih =>
    rw [List.foldlM_cons] at looped
    obtain ⟨next, first, looped⟩ := Api.bind_eq_ok_iff.1 looped
    rw [List.append_cons]
    exact ih looped (turn done a s next first before)

/-- All stamps of the samples. -/
def BuildOptions.stamps (options : BuildOptions) : List FrameStamp :=
  options.gazeSamples.map (·.stamp) ++ options.gazeUnavailableSamples.map (·.toFrameStamp) ++
    options.expressionSamples.map (·.stamp)

/-- What the map holds of the samples. -/
structure Collected (options : BuildOptions) (frames : Dict String FusedFrame) : Prop where
  keyed : Keyed frames
  known : ∀ k f, frames.get? k = some f → f.toFrameStamp ∈ options.stamps
  gaze : ∀ g ∈ options.gazeSamples, ∃ f, frames.get? g.stamp.key = some f ∧ f.toFrameStamp = g.stamp ∧
    f.gaze = some g
  ofGaze : ∀ k f g, frames.get? k = some f → f.gaze = some g → g.stamp = f.toFrameStamp
  missing : ∀ u ∈ options.gazeUnavailableSamples, ∃ f r, frames.get? u.key = some f ∧
    f.toFrameStamp = u.toFrameStamp ∧ f.gaze = none ∧ f.gazeReason = some r ∧
    (u.reason = "" ∨ u.reason = r)
  reason : ∀ k f r, frames.get? k = some f → f.gazeReason = some r →
    ∃ u ∈ options.gazeUnavailableSamples, u.toFrameStamp = f.toFrameStamp ∧ u.reason = r
  expression : ∀ e ∈ options.expressionSamples, ∃ f, frames.get? e.stamp.key = some f ∧
    f.toFrameStamp = e.stamp ∧ f.expression = some e
  ofExpression : ∀ k f e, frames.get? k = some f → f.expression = some e →
    e ∈ options.expressionSamples ∧ e.stamp = f.toFrameStamp

/-- **The map of frames** holds every sample. -/
theorem collectFrames_collected (collected : collectFrames options = .ok frames) :
    Collected options frames := by
  obtain ⟨seen, gazes, collected⟩ := Api.bind_eq_ok_iff.1 collected
  obtain ⟨known, missing, expressions⟩ := Api.bind_eq_ok_iff.1 collected
  have first : GazeRead ([] ++ options.gazeSamples) seen :=
    foldlM_reads (fun _ _ _ _ read before => before.add read) gazes fun k f => by simp
  rw [List.nil_append] at first
  have seenGaze : ∀ k f, seen.get? k = some f → f.gaze.isSome = true := by
    intro k f found
    obtain ⟨g, -, -, rfl⟩ := (first k f).1 found
    rfl
  have second : MissingRead seen ([] ++ options.gazeUnavailableSamples) known :=
    foldlM_reads (fun _ _ _ _ read before => before.add first.keyed seenGaze read) missing {
      kept := fun _ _ found => found
      read := fun _ listed => by cases listed
      only := fun _ _ found => .inl found }
  rw [List.nil_append] at second
  have plain : ∀ k f, known.get? k = some f → f.expression = none := by
    intro k f found
    rcases second.only k f found with old | ⟨u, -, -, rfl⟩
    · obtain ⟨g, -, -, rfl⟩ := (first k f).1 old
      rfl
    · rfl
  have third : ExpressionRead known ([] ++ options.expressionSamples) frames :=
    foldlM_reads (fun _ _ _ _ read before => before.add read) expressions {
      keyed := second.keyed first.keyed
      kept := fun k f found => ⟨f, found, rfl, rfl, rfl⟩
      read := fun _ listed => by cases listed
      only := fun k f found => .inl ⟨f, found, rfl, rfl, rfl⟩
      expression := fun k f e found own => by rw [plain k f found] at own; cases own }
  rw [List.nil_append] at third
  refine { keyed := third.keyed, known := ?_, gaze := ?_, ofGaze := ?_, missing := ?_, reason := ?_,
           expression := third.read, ofExpression := third.expression }
  · intro k f found
    rcases third.only k f found with ⟨f', old, same⟩ | ⟨e, listed, same⟩
    · rw [same.stamp]
      rcases second.only k f' old with old | ⟨u, listed, -, rfl⟩
      · obtain ⟨g, listed, -, rfl⟩ := (first k f').1 old
        exact List.mem_append_left _ (List.mem_append_left _ (List.mem_map_of_mem listed))
      · exact List.mem_append_left _ (List.mem_append_right _ (List.mem_map_of_mem listed))
    · rw [same.stamp]
      exact List.mem_append_right _ (List.mem_map_of_mem listed)
  · intro g listed
    have found := second.kept _ _ ((first _ _).2 ⟨g, listed, rfl, rfl⟩)
    obtain ⟨f, later, same⟩ := third.kept _ _ found
    exact ⟨f, later, same.stamp, same.gaze⟩
  · intro k f g found own
    rcases third.only k f found with ⟨f', old, same⟩ | ⟨e, listed, same⟩
    · rw [same.gaze] at own
      rw [same.stamp]
      rcases second.only k f' old with old | ⟨u, -, -, rfl⟩
      · obtain ⟨g, -, -, rfl⟩ := (first k f').1 old
        cases own
        rfl
      · cases own
    · rw [same.gaze] at own
      cases own
  · intro u listed
    obtain ⟨r, found, reason⟩ := second.read u listed
    obtain ⟨f, later, same⟩ := third.kept _ _ found
    exact ⟨f, r, later, same.stamp, same.gaze, same.reason, reason⟩
  · intro k f r found own
    rcases third.only k f found with ⟨f', old, same⟩ | ⟨e, listed, same⟩
    · rw [same.reason] at own
      rcases second.only k f' old with old | ⟨u, listed, -, rfl⟩
      · obtain ⟨g, -, -, rfl⟩ := (first k f').1 old
        cases own
      · cases own
        exact ⟨u, listed, same.stamp.symm, rfl⟩
    · rw [same.reason] at own
      cases own

end Loops

/-! ## The order of the frames -/

section Order

variable {options : BuildOptions} {C : Type} [LinearOrder C] {collate : String → C}

theorem FrameStamp.isTruthy_key (stamp : FrameStamp) : isTruthy (some stamp.key) = true := by
  have colon : ':' ∈ stamp.key.toList := by simp [FrameStamp.key]
  have nonempty : stamp.key ≠ "" := by
    intro empty
    rw [empty] at colon
    cases colon
  simpa [isTruthy] using nonempty

/-- Frames of one sequence have one key, which is that of the owner. -/
theorem checkOwners_eq_ok {owners : Dict ℕ String} {frames : List FusedFrame}
    (checked : checkOwners owners frames = .ok ()) :
    (∀ f ∈ frames, ∀ owner : FrameStamp, owners.get? f.sequence = some owner.key → owner.key = f.key) ∧
      frames.Pairwise fun f g => f.sequence = g.sequence → f.key = g.key := by
  induction frames generalizing owners with
  | nil => exact ⟨fun _ listed => (nomatch listed), List.Pairwise.nil⟩
  | cons frame rest ih =>
    unfold checkOwners at checked
    obtain ⟨_, own, checked⟩ := Api.bind_eq_ok_iff.1 checked
    obtain ⟨later, apart⟩ := ih checked
    have follows : ∀ g ∈ rest, frame.sequence = g.sequence → frame.key = g.key := by
      intro g listed same
      exact later g listed frame.toFrameStamp (by rw [← same, Dict.get?_set_self])
    refine ⟨fun f listed owner found => ?_, List.pairwise_cons.2 ⟨follows, apart⟩⟩
    have first (found : owners.get? frame.sequence = some owner.key) : owner.key = frame.key := by
      rw [check_eq_ok_iff, found, owner.isTruthy_key] at own
      simpa using own
    rcases List.mem_cons.1 listed with rfl | listed
    · exact first found
    · by_cases same : f.sequence = frame.sequence
      · rw [same] at found
        rw [first found]
        exact follows f listed same.symm
      · exact later f listed owner (by rw [Dict.get?_set_ne _ same]; exact found)

/-- What the fused frames hold of the samples, in the order of their sequence. -/
structure Fused (options : BuildOptions) (frames : List FusedFrame) : Prop where
  increasing : frames.Pairwise fun f g => f.sequence < g.sequence
  distinct : (frames.map (·.key)).Nodup
  stamps : ∀ stamp, stamp ∈ options.stamps ↔ ∃ f ∈ frames, f.toFrameStamp = stamp
  gaze : ∀ g ∈ options.gazeSamples, ∃ f ∈ frames, f.toFrameStamp = g.stamp ∧ f.gaze = some g
  ofGaze : ∀ f ∈ frames, ∀ g ∈ f.gaze, g.stamp = f.toFrameStamp
  missing : ∀ u ∈ options.gazeUnavailableSamples, ∃ f ∈ frames, ∃ r, f.toFrameStamp = u.toFrameStamp ∧
    f.gaze = none ∧ f.gazeReason = some r ∧ (u.reason = "" ∨ u.reason = r)
  reason : ∀ f ∈ frames, ∀ r ∈ f.gazeReason,
    ∃ u ∈ options.gazeUnavailableSamples, u.toFrameStamp = f.toFrameStamp ∧ u.reason = r
  expression : ∀ e ∈ options.expressionSamples, ∃ f ∈ frames, f.toFrameStamp = e.stamp ∧
    f.expression = some e
  ofExpression : ∀ f ∈ frames, ∀ e ∈ f.expression,
    e ∈ options.expressionSamples ∧ e.stamp = f.toFrameStamp

/-- **The fused frames** hold every sample and are in the strict order of their sequence. -/
theorem fuseByFrameId_fused {frames : List FusedFrame} (fused : fuseByFrameId options collate = .ok frames) :
    Fused options frames := by
  obtain ⟨map, collected, fused⟩ := Api.bind_eq_ok_iff.1 fused
  obtain ⟨_, owned, fused⟩ := Api.bind_eq_ok_iff.1 fused
  cases fused
  have holds := collectFrames_collected collected
  have listed (f : FusedFrame) : f ∈ sortOn (frameRank collate) map.values ↔ ∃ k, map.get? k = some f := by
    rw [mem_sortOn, Dict.mem_values_iff]
  have place {k : String} {f : FusedFrame} (found : map.get? k = some f) :
      f ∈ sortOn (frameRank collate) map.values := (listed f).2 ⟨k, found⟩
  have keys : map.values.map (·.key) = map.keys := by
    rw [Dict.values, Dict.keys, List.map_map]
    exact List.map_congr_left fun e member => holds.keyed e.1 e.2 (Dict.mem_entries_iff.1 member)
  have distinct : ((sortOn (frameRank collate) map.values).map (·.key)).Nodup := by
    rw [((sortOn_perm (frameRank collate) map.values).map _).nodup_iff, keys]
    exact map.nodup
  refine { increasing := ?_, distinct := distinct, stamps := ?_, gaze := ?_, ofGaze := ?_, missing := ?_,
           reason := ?_, expression := ?_, ofExpression := ?_ }
  · have apart : (sortOn (frameRank collate) map.values).Pairwise fun f g => f.key ≠ g.key :=
      List.pairwise_map.1 distinct
    refine ((pairwise_sortOn (frameRank collate) map.values).and
      ((checkOwners_eq_ok owned).2.and apart)).imp ?_
    rintro f g ⟨ranked, owned, differ⟩
    rcases Prod.Lex.toLex_le_toLex.1 ranked with less | ⟨same, -⟩
    · exact less
    · exact absurd (owned same) differ
  · intro stamp
    constructor
    · intro known
      rcases List.mem_append.1 known with gazes | expression
      · rcases List.mem_append.1 gazes with gaze | missing
        · obtain ⟨g, member, rfl⟩ := List.mem_map.1 gaze
          obtain ⟨f, found, same, -⟩ := holds.gaze g member
          exact ⟨f, place found, same⟩
        · obtain ⟨u, member, rfl⟩ := List.mem_map.1 missing
          obtain ⟨f, r, found, same, -⟩ := holds.missing u member
          exact ⟨f, place found, same⟩
      · obtain ⟨e, member, rfl⟩ := List.mem_map.1 expression
        obtain ⟨f, found, same, -⟩ := holds.expression e member
        exact ⟨f, place found, same⟩
    · rintro ⟨f, member, rfl⟩
      obtain ⟨k, found⟩ := (listed f).1 member
      exact holds.known k f found
  · intro g member
    obtain ⟨f, found, own⟩ := holds.gaze g member
    exact ⟨f, place found, own⟩
  · intro f member g own
    obtain ⟨k, found⟩ := (listed f).1 member
    exact holds.ofGaze k f g found own
  · intro u member
    obtain ⟨f, r, found, own⟩ := holds.missing u member
    exact ⟨f, place found, r, own⟩
  · intro f member r own
    obtain ⟨k, found⟩ := (listed f).1 member
    exact holds.reason k f r found own
  · intro e member
    obtain ⟨f, found, own⟩ := holds.expression e member
    exact ⟨f, place found, own⟩
  · intro f member e own
    obtain ⟨k, found⟩ := (listed f).1 member
    exact holds.ofExpression k f e found own

end Order

end Mkk.Kiosk
