import Mkk.Gateway.VisionStream
import Mkk.Lib.JsValue

/-!
# Calibration progress on the wire

`validate_progress`, with which the Gateway checks the progress of the Eye worker. `Progress.Checked` says
what it makes sure of.
-/

namespace Mkk.Gateway

open Lib

/-- `PROFILES`. -/
def profiles : List String := ["adaptive-dense5-v2", "adaptive-sparse16-v2", "fixed-dense5-v2"]

/-- `PHASES`. -/
def phases : List String :=
  ["positioning", "training", "validation", "repair", "verification", "fitting"]

/-- `HINTS`. -/
def hints : List String :=
  ["follow_target", "hold_still", "no_face", "blink", "more_samples", "fitting", "center_face",
    "move_closer", "move_back", "face_forward", "eyes_visible", "position_ready"]

/-- `POSITIONING_FLAGS`. -/
def positioningFlags : List String :=
  ["face_detected", "eyes_visible", "centered", "distance_ok", "facing_forward"]

def countFields : List String :=
  ["accepted_samples", "required_samples", "completed_targets", "total_targets"]

def progressFields : List String :=
  ["calibration_id", "profile_id", "phase", "target_id", "target", "accepted_samples",
    "required_samples", "completed_targets", "total_targets", "hint"]

/-- A text that is one of these. -/
def oneOf (v : Value) (texts : List String) : Bool := texts.any (v.isText ·)

/-- Two numbers between 0 and 1; a tuple stands as a list. -/
def targetInside : Value → Except DecodeError Bool
  | .list [x, y] => do
    let first ← numberBetween x 0 1
    if first then numberBetween y 0 1 else return false
  | _ => .ok false

/-- An integer from 0 to 128, and no bool. -/
def countInside (v : Value) : Except DecodeError Bool :=
  match v with
  | .int _ => numberBetween v 0 128
  | _ => .ok false

def checkCounts (value : Members) : List String → Except DecodeError Unit
  | [] => .ok ()
  | field :: rest => do
    let inside ← countInside (Value.get value field)
    require inside (.protocol "invalid calibration progress count")
    checkCounts value rest

/-- A count that was checked. -/
def countOf (value : Members) (field : String) : ℤ :=
  match Value.get value field with
  | .int n => n
  | _ => 0

def isFlag : Value → Bool
  | .bool _ => true
  | _ => false

def isTrue : Value → Bool
  | .bool b => b
  | _ => false

/-- The member `positioning` of a progress in this phase. -/
def positioningValid (phase : Value) : Value → Bool
  | .dict positioning =>
    phase.isText "positioning" &&
    Value.sameNames (positioning.map (·.1)) (positioningFlags ++ ["stable_ms"]) &&
    positioningFlags.all (fun key => isFlag (Value.get positioning key)) &&
    match Value.get positioning "stable_ms" with
    | .int n => decide (0 ≤ n ∧ n ≤ 1000) &&
        (decide (n ≤ 0) || positioningFlags.all fun key => isTrue (Value.get positioning key))
    | _ => false
  | _ => false

/-- `validate_progress`; its `ValueError` is the protocol error. -/
def validateProgress : Value → Except DecodeError Members
  | .dict value => do
    let names := value.map (·.1)
    require (progressFields.all (names.contains ·) &&
      names.all fun name => progressFields.contains name || name == "positioning")
      (.protocol "invalid calibration progress fields")
    require (isId (Value.get value "calibration_id") && isId (Value.get value "target_id") &&
      oneOf (Value.get value "profile_id") profiles && oneOf (Value.get value "phase") phases &&
      oneOf (Value.get value "hint") hints) (.protocol "invalid calibration progress identity")
    let inside ← targetInside (Value.get value "target")
    require inside (.protocol "invalid calibration target")
    checkCounts value countFields
    require (decide (1 ≤ countOf value "required_samples" ∧
      countOf value "accepted_samples" ≤ countOf value "required_samples" ∧
      countOf value "completed_targets" ≤ countOf value "total_targets"))
      (.protocol "inconsistent calibration progress")
    require (!names.contains "positioning" ||
      positioningValid (Value.get value "phase") (Value.get value "positioning"))
      (.protocol "invalid face positioning progress")
    return value
  | _ => .error (.protocol "invalid calibration progress fields")

/-! ## What it makes sure of -/

/-- A number between 0 and 1 as a value. -/
inductive UnitNumber : Value → Prop where
  | int {n : ℤ} (nonneg : 0 ≤ n) (le : n ≤ 1) : UnitNumber (.int n)
  | float {q : ℚ} (nonneg : 0 ≤ q) (le : q ≤ 1) : UnitNumber (.float (.finite q))

/-- A `positioning` that was accepted. -/
structure PositioningChecked (positioning : Members) : Prop where
  names : Value.sameNames (positioning.map (·.1)) (positioningFlags ++ ["stable_ms"]) = true
  flags : ∀ key ∈ positioningFlags, ∃ b, Value.get positioning key = .bool b
  stable : ∃ n, Value.get positioning "stable_ms" = .int n ∧ 0 ≤ n ∧ n ≤ 1000 ∧
    (0 < n → ∀ key ∈ positioningFlags, Value.get positioning key = .bool true)

/-- A progress that was accepted. -/
structure ProgressChecked (value : Members) : Prop where
  fields : ∀ name ∈ progressFields, name ∈ value.map (·.1)
  names : ∀ name ∈ value.map (·.1), name ∈ progressFields ∨ name = "positioning"
  calibrationId : ∃ s, Value.get value "calibration_id" = .str s ∧ Api.isIdentifier s = true
  targetId : ∃ s, Value.get value "target_id" = .str s ∧ Api.isIdentifier s = true
  profileId : ∃ s ∈ profiles, Value.get value "profile_id" = .str s
  phase : ∃ s ∈ phases, Value.get value "phase" = .str s
  hint : ∃ s ∈ hints, Value.get value "hint" = .str s
  target : ∃ x y, Value.get value "target" = .list [x, y] ∧ UnitNumber x ∧ UnitNumber y
  counts : ∀ field ∈ countFields, ∃ n, Value.get value field = .int n ∧ 0 ≤ n ∧ n ≤ 128
  consistent : 1 ≤ countOf value "required_samples" ∧
    countOf value "accepted_samples" ≤ countOf value "required_samples" ∧
    countOf value "completed_targets" ≤ countOf value "total_targets"
  positioning : "positioning" ∈ value.map (·.1) → Value.get value "phase" = .str "positioning" ∧
    ∃ p, Value.get value "positioning" = .dict p ∧ PositioningChecked p

section
variable {v : Value} {value : Members}

theorem isId_iff : isId v = true ↔ ∃ s, v = .str s ∧ Api.isIdentifier s = true := by
  cases v with
  | str s => simp [isId]
  | _ => simp [isId]

theorem isText_iff {text : String} : v.isText text = true ↔ v = .str text := by
  cases v with
  | str s => simp [Value.isText]
  | _ => simp [Value.isText]

theorem oneOf_iff {texts : List String} : oneOf v texts = true ↔ ∃ s ∈ texts, v = .str s := by
  unfold oneOf
  rw [List.any_eq_true]
  simp only [isText_iff]

theorem isFlag_iff : isFlag v = true ↔ ∃ b, v = .bool b := by
  cases v with
  | bool b => simp [isFlag]
  | _ => simp [isFlag]

theorem isTrue_iff : isTrue v = true ↔ v = .bool true := by
  cases v with
  | bool b => simp [isTrue]
  | _ => simp [isTrue]

theorem unitNumber_of_numberBetween (h : numberBetween v 0 1 = .ok true) : UnitNumber v := by
  unfold numberBetween at h
  cases v with
  | int n =>
    unfold Value.checkNumber at h
    dsimp only at h
    split_ifs at h
    simp only [Except.ok.injEq, decide_eq_true_eq] at h
    exact .int (by exact_mod_cast h.1) (by exact_mod_cast h.2)
  | float x =>
    cases x with
    | finite q =>
      simp only [Value.checkNumber, Except.ok.injEq, decide_eq_true_eq] at h
      exact .float h.1 h.2
    | infinity negative => cases h
    | nan => cases h
  | _ => cases h

theorem target_of_targetInside (h : targetInside v = .ok true) :
    ∃ x y, v = .list [x, y] ∧ UnitNumber x ∧ UnitNumber y := by
  unfold targetInside at h
  split at h
  · rename_i x y
    rw [Api.bind_eq_ok_iff] at h
    obtain ⟨first, hx, hy⟩ := h
    cases first with
    | true => exact ⟨x, y, rfl, unitNumber_of_numberBetween hx, unitNumber_of_numberBetween hy⟩
    | false => cases hy
  · cases h

theorem count_of_countInside (h : countInside v = .ok true) : ∃ n, v = .int n ∧ 0 ≤ n ∧ n ≤ 128 := by
  unfold countInside numberBetween at h
  cases v with
  | int n =>
    unfold Value.checkNumber at h
    dsimp only at h
    split_ifs at h
    simp only [Except.ok.injEq, decide_eq_true_eq] at h
    exact ⟨n, rfl, by exact_mod_cast h.1, by exact_mod_cast h.2⟩
  | _ => cases h

theorem counts_of_checkCounts {fields : List String} (h : checkCounts value fields = .ok ()) :
    ∀ field ∈ fields, ∃ n, Value.get value field = .int n ∧ 0 ≤ n ∧ n ≤ 128 := by
  induction fields with
  | nil => exact fun _ member => nomatch member
  | cons field rest ih =>
    rw [checkCounts, Api.bind_eq_ok_iff] at h
    obtain ⟨inside, count, h⟩ := h
    rw [Api.bind_eq_ok_iff] at h
    obtain ⟨_, required, h⟩ := h
    rw [require_eq_ok_iff] at required
    subst required
    intro name member
    rcases List.mem_cons.1 member with rfl | member
    · exact count_of_countInside count
    · exact ih h name member

theorem checked_of_positioningValid {phase : Value} (h : positioningValid phase v = true) :
    phase = .str "positioning" ∧ ∃ p, v = .dict p ∧ PositioningChecked p := by
  unfold positioningValid at h
  split at h
  · rename_i p
    simp only [Bool.and_eq_true, List.all_eq_true, isText_iff, isFlag_iff] at h
    obtain ⟨⟨⟨phase, names⟩, flags⟩, stable⟩ := h
    refine ⟨phase, p, rfl, names, flags, ?_⟩
    split at stable
    · rename_i n found
      simp only [Bool.and_eq_true, Bool.or_eq_true, decide_eq_true_eq, List.all_eq_true, isTrue_iff] at stable
      exact ⟨n, found, stable.1.1, stable.1.2, fun positive => stable.2.resolve_left (not_le.2 positive)⟩
    · cases stable
  · cases h

/-- **What `validate_progress` accepts is checked.** -/
theorem progressChecked (h : validateProgress v = .ok value) : v = .dict value ∧ ProgressChecked value := by
  unfold validateProgress at h
  split at h
  · rename_i members
    simp only [Api.bind_eq_ok_iff, require_eq_ok_iff, Bool.and_eq_true, Bool.or_eq_true,
      List.all_eq_true, decide_eq_true_eq, isId_iff, oneOf_iff, List.contains_iff_mem, beq_iff_eq,
      pure, Except.pure, Except.ok.injEq] at h
    obtain ⟨_, ⟨fields, names⟩, _, ⟨⟨⟨⟨calibrationId, targetId⟩, profileId⟩, phase⟩, hint⟩, inside, target, _,
      required, _, counts, _, consistent, _, positioning, rfl⟩ := h
    subst required
    refine ⟨rfl, fields, names, calibrationId, targetId, profileId, phase, hint,
      target_of_targetInside target, counts_of_checkCounts counts, consistent, fun named => ?_⟩
    rcases positioning with absent | valid
    · rw [Bool.not_eq_true', List.contains_eq_mem, decide_eq_false_iff_not] at absent
      exact absurd named absent
    · exact checked_of_positioningValid valid
  · cases h

theorem toDouble_isSome_of_le {n : ℕ} (le : n ≤ 128) : (toDouble n).isSome = true := by
  have each : ∀ n ≤ 128, (toDouble (n : ℕ)).isSome = true := by decide +kernel
  exact each n le

theorem numberBetween_of_unitNumber (h : UnitNumber v) : numberBetween v 0 1 = .ok true := by
  cases h with
  | @int n nonneg le =>
    obtain ⟨m, rfl⟩ := Int.eq_ofNat_of_zero_le nonneg
    unfold numberBetween Value.checkNumber
    dsimp only
    rw [if_pos (toDouble_isSome_of_le (by omega))]
    exact congrArg Except.ok (decide_eq_true ⟨by exact_mod_cast nonneg, by exact_mod_cast le⟩)
  | float nonneg le => exact congrArg Except.ok (decide_eq_true ⟨nonneg, le⟩)

theorem countInside_of_le {n : ℤ} (nonneg : 0 ≤ n) (le : n ≤ 128) : countInside (.int n) = .ok true := by
  obtain ⟨m, rfl⟩ := Int.eq_ofNat_of_zero_le nonneg
  unfold countInside numberBetween Value.checkNumber
  dsimp only
  rw [if_pos (toDouble_isSome_of_le (by omega))]
  exact congrArg Except.ok (decide_eq_true ⟨by exact_mod_cast nonneg, by exact_mod_cast le⟩)

theorem checkCounts_of_counts {fields : List String}
    (h : ∀ field ∈ fields, ∃ n, Value.get value field = .int n ∧ 0 ≤ n ∧ n ≤ 128) :
    checkCounts value fields = .ok () := by
  induction fields with
  | nil => rfl
  | cons field rest ih =>
    obtain ⟨n, found, nonneg, le⟩ := h field List.mem_cons_self
    rw [checkCounts, found, Api.bind_ok (countInside_of_le nonneg le)]
    exact ih fun name member => h name (List.mem_cons_of_mem _ member)

theorem positioningValid_of_checked {positioning : Members} (h : PositioningChecked positioning) :
    positioningValid (.str "positioning") (.dict positioning) = true := by
  obtain ⟨n, found, nonneg, le, steady⟩ := h.stable
  unfold positioningValid
  dsimp only
  rw [found]
  simp only [Bool.and_eq_true, Bool.or_eq_true, decide_eq_true_eq, List.all_eq_true, isText_iff,
    isFlag_iff, isTrue_iff]
  refine ⟨⟨⟨trivial, h.names⟩, h.flags⟩, ⟨nonneg, le⟩, ?_⟩
  exact (le_or_gt n 0).imp id steady

/-- **What is checked is accepted.** -/
theorem validateProgress_of_checked (h : ProgressChecked value) : validateProgress (.dict value) = .ok value := by
  obtain ⟨x, y, target, first, second⟩ := h.target
  have inside : targetInside (Value.get value "target") = .ok true := by
    rw [target, targetInside, Api.bind_ok (numberBetween_of_unitNumber first)]
    exact numberBetween_of_unitNumber second
  unfold validateProgress
  simp only [Api.bind_eq_ok_iff, require_eq_ok_iff, Bool.and_eq_true, Bool.or_eq_true,
    List.all_eq_true, decide_eq_true_eq, isId_iff, oneOf_iff, List.contains_iff_mem, beq_iff_eq,
    pure, Except.pure]
  refine ⟨(), ⟨h.fields, h.names⟩, (), ⟨⟨⟨⟨h.calibrationId, h.targetId⟩, h.profileId⟩, h.phase⟩, h.hint⟩,
    true, inside, (), rfl, (), checkCounts_of_counts h.counts, (), h.consistent, (), ?_, trivial⟩
  by_cases named : "positioning" ∈ value.map (·.1)
  · obtain ⟨phase, p, found, checked⟩ := h.positioning named
    rw [phase, found]
    exact .inr (positioningValid_of_checked checked)
  · left
    rw [Bool.not_eq_true', List.contains_eq_mem, decide_eq_false_iff_not]
    exact named

end

end Mkk.Gateway
