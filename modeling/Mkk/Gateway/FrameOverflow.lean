import Mkk.Gateway.VisionStream
import Mkk.Lib.Raises

/-!
# Numbers a frame cannot have

`math.isfinite` raises an `OverflowError` on an integer beyond the largest double, and `from_payload`
does not catch it. It does on the metadata of `FrameOverflow`, and on no other
(`fromPayload_overflow_iff`): a number it checks is huge, and all it checks before passes.
-/

namespace Mkk.Gateway

open Lib Lib.Base64 Mkk.Common Mkk.Eye

/-- An integer no double holds: `math.isfinite` raises on it. -/
def IsHuge (v : Value) : Prop := ∃ n, v = .int n ∧ toDouble n = none

/-- A finite number with a property. -/
def IsNumber (p : ℚ → Prop) (v : Value) : Prop := ∃ q, v.checkNumber = .number q ∧ p q

/-- A loop that checks a list gets to a bad element, past good ones only. -/
def Reaches {α : Type} (good bad : α → Prop) (l : List α) : Prop :=
  ∃ earlier a later, l = earlier ++ a :: later ∧ (∀ b ∈ earlier, good b) ∧ bad a

section
variable (layout rect camera payload : Members) (name : String)

def dimensionNames : List String :=
  ["viewport_width_px", "viewport_height_px", "source_width_px", "source_height_px"]

def rectNames : List String := ["element_rect", "content_rect"]

/-- `_RECT_FIELDS`, in the order they are checked. -/
def sideNames : List String := ["x_px", "y_px", "width_px", "height_px"]

/-- A side of a rectangle passes its check. -/
def IsSide (field : String) : Prop :=
  IsNumber (fun q => field ∈ ["width_px", "height_px"] → 0 < q) (Value.get rect field)

/-- A rectangle of the layout passes its checks. -/
def IsRect : Prop :=
  ∃ rect, Value.get layout name = .dict rect ∧
    Value.sameNames (rect.map (·.1)) sideNames = true ∧ ∀ field ∈ sideNames, IsSide rect field

/-- A side of the rectangle is huge, and the checks get to it. -/
def RectOverflow : Prop :=
  ∃ rect, Value.get layout name = .dict rect ∧
    Value.sameNames (rect.map (·.1)) sideNames = true ∧
    Reaches (IsSide rect) (fun field => IsHuge (Value.get rect field)) sideNames

def IsDimension : Prop := IsNumber (0 < ·) (Value.get layout name)

/-- The names of the layout and `object_fit` pass. -/
def LayoutNames : Prop :=
  Value.sameNames (layout.map (·.1)) (dimensionNames ++ "object_fit" :: rectNames) = true ∧
    (Value.get layout "object_fit").isText "contain" = true

/-- A layout that passes. -/
structure IsLayout : Prop where
  names : LayoutNames layout
  dimensions : ∀ name ∈ dimensionNames, IsDimension layout name
  rects : ∀ name ∈ rectNames, IsRect layout name

/-- A number of the layout is huge, and the checks get to it. -/
inductive LayoutOverflow : Prop where
  | dimension (names : LayoutNames layout)
      (huge : Reaches (IsDimension layout) (fun name => IsHuge (Value.get layout name)) dimensionNames)
  | side (names : LayoutNames layout) (dimensions : ∀ name ∈ dimensionNames, IsDimension layout name)
      (huge : Reaches (IsRect layout) (RectOverflow layout) rectNames)

/-- A natural number. -/
def IsNat (least : ℕ) (v : Value) : Prop := ∃ n : ℕ, v = .int n ∧ least ≤ n

/-- The camera frame passes. -/
structure IsCamera : Prop where
  names : Value.sameNames (camera.map (·.1)) FrameMetadata.cameraFields = true
  encoding : ∃ s, Value.get camera "encoding" = .str s ∧ isMediaType s = true
  sizes : ∀ name ∈ ["width_px", "height_px", "byte_length"], IsNat 1 (Value.get camera name)

/-- The names and the kind of the metadata pass. -/
structure LegalStart : Prop where
  names : Value.sameNames ((payload.map (·.1)).filter (· ≠ "calibration_target"))
    FrameMetadata.frameFields = true
  kind : (Value.get payload "type").isText "frame" = true ∧
    (Value.get payload "protocol_version").isText "1.0" = true

/-- They pass, and there is no media in the metadata. -/
structure LegalHead : Prop extends LegalStart payload where
  media : embedsMedia (.dict payload) = false

/-- What is read of the context before the moment of capture passes. -/
structure LegalIds : Prop where
  ids : ∀ name ∈ ["session_id", "video_id", "frame_id"], isId (Value.get payload name) = true
  sequence : IsNat 0 (Value.get payload "sequence")

/-- The context passes. -/
structure LegalContext : Prop extends LegalIds payload where
  captured : IsNumber (0 ≤ ·) (Value.get payload "captured_at_mono_ms")
  times : ∀ name ∈ ["video_time_ms", "playback_epoch"], IsNat 0 (Value.get payload name)

/-- The moment of a calibration target is huge, and the checks of the marker get to it. -/
def MarkerOverflow (v : Value) : Prop :=
  ∃ marker, v = .dict marker ∧
    Value.sameNames (marker.map (·.1)) ["calibration_id", "target_id", "presented_at_mono_ms"] = true ∧
    (∀ name ∈ ["calibration_id", "target_id"], isId (Value.get marker name) = true) ∧
    IsHuge (Value.get marker "presented_at_mono_ms")

/-- A number of the metadata is huge, and the checks get to it: the moment of capture, one of the layout
or the moment of the calibration target. -/
inductive FrameOverflow : Prop where
  | captured (head : LegalHead payload) (ids : LegalIds payload)
      (huge : IsHuge (Value.get payload "captured_at_mono_ms"))
  | layout {layout : Members} (head : LegalHead payload) (context : LegalContext payload)
      (found : Value.get payload "layout" = .dict layout) (huge : LayoutOverflow layout)
  | marker {layout camera : Members} (head : LegalHead payload) (context : LegalContext payload)
      (found : Value.get payload "layout" = .dict layout) (legal : IsLayout layout)
      (seen : Value.get payload "camera_frame" = .dict camera) (passes : IsCamera camera)
      (huge : MarkerOverflow (Value.get payload "calibration_target"))

end

/-! ## Checks that overflow -/

theorem reaches_cons {α : Type} {good bad : α → Prop} {a : α} {l : List α} :
    Reaches good bad (a :: l) ↔ bad a ∨ (good a ∧ Reaches good bad l) := by
  constructor
  · rintro ⟨earlier, b, later, split, passed, found⟩
    cases earlier with
    | nil =>
      cases split
      exact .inl found
    | cons c earlier =>
      cases split
      exact .inr ⟨passed _ List.mem_cons_self, earlier, b, later, rfl,
        fun x member => passed x (List.mem_cons_of_mem _ member), found⟩
  · rintro (found | ⟨passes, earlier, b, later, rfl, passed, found⟩)
    · exact ⟨[], a, l, rfl, nofun, found⟩
    · refine ⟨a :: earlier, b, later, rfl, fun x member => ?_, found⟩
      rcases List.mem_cons.1 member with rfl | member
      · exact passes
      · exact passed x member

theorem not_reaches_nil {α : Type} {good bad : α → Prop} : ¬Reaches good bad [] := by
  rintro ⟨earlier, b, later, split, -⟩
  exact List.append_ne_nil_of_right_ne_nil earlier (List.cons_ne_nil b later) split.symm

theorem require_ne_overflow {condition : Bool} {text : String} :
    require condition (.protocol text) ≠ .error .overflow := by
  unfold require
  split
  · exact nofun
  · exact nofun

section
variable {payload layout rect camera : Members} {name text : String} {v : Value}

theorem checkNumber_overflow_iff : v.checkNumber = .overflow ↔ IsHuge v := by
  cases v with
  | int n =>
    dsimp only [Value.checkNumber]
    split_ifs with held
    · refine ⟨nofun, ?_⟩
      rintro ⟨m, same, huge⟩
      cases same
      rw [huge] at held
      cases held
    · exact ⟨fun _ => ⟨n, rfl, Option.not_isSome_iff_eq_none.1 held⟩, fun _ => rfl⟩
  | float x =>
    cases x with
    | finite q => exact ⟨nofun, fun ⟨_, same, _⟩ => nomatch same⟩
    | infinity b => exact ⟨nofun, fun ⟨_, same, _⟩ => nomatch same⟩
    | nan => exact ⟨nofun, fun ⟨_, same, _⟩ => nomatch same⟩
  | none => exact ⟨nofun, fun ⟨_, same, _⟩ => nomatch same⟩
  | bool b => exact ⟨nofun, fun ⟨_, same, _⟩ => nomatch same⟩
  | str s => exact ⟨nofun, fun ⟨_, same, _⟩ => nomatch same⟩
  | list l => exact ⟨nofun, fun ⟨_, same, _⟩ => nomatch same⟩
  | dict d => exact ⟨nofun, fun ⟨_, same, _⟩ => nomatch same⟩

theorem finiteNumber_overflow_iff : finiteNumber v text = .error .overflow ↔ IsHuge v := by
  rw [← checkNumber_overflow_iff, finiteNumber]
  cases v.checkNumber with
  | number q => exact ⟨nofun, nofun⟩
  | other => exact ⟨nofun, nofun⟩
  | overflow => exact ⟨fun _ => rfl, fun _ => rfl⟩

theorem finiteNumber_ok_iff {q : ℚ} : finiteNumber v text = .ok q ↔ v.checkNumber = .number q := by
  rw [finiteNumber]
  cases v.checkNumber with
  | number r =>
    refine ⟨fun h => ?_, fun h => ?_⟩
    · cases h
      rfl
    · cases h
      rfl
  | other => exact ⟨nofun, nofun⟩
  | overflow => exact ⟨nofun, nofun⟩

theorem numberBetween_overflow_iff {lower upper : ℚ} :
    numberBetween v lower upper = .error .overflow ↔ IsHuge v := by
  rw [← checkNumber_overflow_iff, numberBetween]
  cases v.checkNumber with
  | number q => exact ⟨nofun, nofun⟩
  | other => exact ⟨nofun, nofun⟩
  | overflow => exact ⟨fun _ => rfl, fun _ => rfl⟩

theorem nonNegativeNumber_overflow_iff :
    nonNegativeNumber payload name = .error .overflow ↔ IsHuge (Value.get payload name) := by
  unfold nonNegativeNumber IsHuge
  dsimp only
  split
  next n found =>
    rw [found]
    cases rounded : toDouble n with
    | none => exact ⟨fun _ => ⟨n, rfl, rounded⟩, fun _ => rfl⟩
    | some q =>
      refine ⟨fun h => ?_, ?_⟩
      · dsimp only at h
        split_ifs at h
        all_goals cases h
      · rintro ⟨m, same, huge⟩
        cases same
        rw [rounded] at huge
        cases huge
  next q found =>
    rw [found]
    refine ⟨fun h => ?_, fun ⟨_, same, _⟩ => nomatch same⟩
    split_ifs at h
    all_goals cases h
  next other _ =>
    exact ⟨nofun, fun ⟨n, same, _⟩ => absurd same (other n)⟩

theorem nonNegativeNumber_isOk_iff : (∃ q, nonNegativeNumber payload name = .ok q) ↔
    IsNumber (0 ≤ ·) (Value.get payload name) := by
  unfold nonNegativeNumber IsNumber
  dsimp only
  split
  next n found =>
    rw [found, Value.checkNumber]
    cases rounded : toDouble n with
    | none =>
      constructor
      · rintro ⟨_, h⟩
        cases h
      · rintro ⟨_, h, -⟩
        rw [if_neg (by exact Bool.false_ne_true)] at h
        cases h
    | some q =>
      rw [if_pos (by rfl)]
      constructor
      · rintro ⟨r, h⟩
        dsimp only at h
        split_ifs at h with negative
        exact ⟨n, rfl, by exact_mod_cast not_lt.1 negative⟩
      · rintro ⟨r, same, nonneg⟩
        cases same
        exact ⟨q, if_neg (not_lt.2 (by exact_mod_cast nonneg))⟩
  next q found =>
    rw [found, Value.checkNumber]
    constructor
    · rintro ⟨r, h⟩
      split_ifs at h with negative
      exact ⟨q, rfl, not_lt.1 negative⟩
    · rintro ⟨r, same, nonneg⟩
      cases same
      exact ⟨q, if_neg (not_lt.2 nonneg)⟩
  next noInt noFloat =>
    constructor
    · rintro ⟨_, h⟩
      cases h
    rintro ⟨q, checked, -⟩
    cases found : Value.get payload name with
    | int n => exact absurd found (noInt n)
    | float x =>
      cases x with
      | finite r => exact absurd found (noFloat r)
      | infinity b => rw [found] at checked; cases checked
      | nan => rw [found] at checked; cases checked
    | none => rw [found] at checked; cases checked
    | bool b => rw [found] at checked; cases checked
    | str s => rw [found] at checked; cases checked
    | list l => rw [found] at checked; cases checked
    | dict d => rw [found] at checked; cases checked

/-! ### The layout -/

theorem validateDimensions_ok_iff {names : List String} :
    validateDimensions layout names = .ok () ↔ ∀ name ∈ names, IsDimension layout name := by
  induction names with
  | nil => exact ⟨fun _ => nofun, fun _ => rfl⟩
  | cons name rest ih =>
    simp only [validateDimensions, Api.bind_eq_ok_iff, finiteNumber_ok_iff, require_eq_ok_iff, ih,
      List.forall_mem_cons, decide_eq_true_eq]
    constructor
    · rintro ⟨q, checked, _, pos, others⟩
      exact ⟨⟨q, checked, pos⟩, others⟩
    · rintro ⟨⟨q, checked, pos⟩, others⟩
      exact ⟨q, checked, (), pos, others⟩

theorem validateDimensions_overflow_iff {names : List String} :
    validateDimensions layout names = .error .overflow ↔
      Reaches (IsDimension layout) (fun name => IsHuge (Value.get layout name)) names := by
  induction names with
  | nil => exact ⟨nofun, fun h => absurd h not_reaches_nil⟩
  | cons name rest ih =>
    simp only [validateDimensions, bind_eq_error_iff, finiteNumber_overflow_iff, finiteNumber_ok_iff,
      require_ne_overflow, require_eq_ok_iff, ih, reaches_cons, decide_eq_true_eq, false_or]
    refine or_congr_right ⟨?_, ?_⟩
    · rintro ⟨q, checked, _, pos, later⟩
      exact ⟨⟨q, checked, pos⟩, later⟩
    · rintro ⟨⟨q, checked, pos⟩, later⟩
      exact ⟨q, checked, (), pos, later⟩

/-- The check of a side, as the loop writes it. -/
theorem side_iff {q : ℚ} : (name ∉ ["width_px", "height_px"] || decide (0 < q)) = true ↔
    (name ∈ ["width_px", "height_px"] → 0 < q) := by
  rw [Bool.or_eq_true, decide_eq_true_eq, decide_eq_true_eq, imp_iff_not_or]

theorem validateRectFields_ok_iff {fields : List String} :
    validateRectFields rect fields = .ok () ↔ ∀ field ∈ fields, IsSide rect field := by
  induction fields with
  | nil => exact ⟨fun _ => nofun, fun _ => rfl⟩
  | cons field rest ih =>
    simp only [validateRectFields, Api.bind_eq_ok_iff, finiteNumber_ok_iff, require_eq_ok_iff, ih,
      List.forall_mem_cons, side_iff]
    constructor
    · rintro ⟨q, checked, _, pos, others⟩
      exact ⟨⟨q, checked, pos⟩, others⟩
    · rintro ⟨⟨q, checked, pos⟩, others⟩
      exact ⟨q, checked, (), pos, others⟩

theorem validateRectFields_overflow_iff {fields : List String} :
    validateRectFields rect fields = .error .overflow ↔
      Reaches (IsSide rect) (fun field => IsHuge (Value.get rect field)) fields := by
  induction fields with
  | nil => exact ⟨nofun, fun h => absurd h not_reaches_nil⟩
  | cons field rest ih =>
    simp only [validateRectFields, bind_eq_error_iff, finiteNumber_overflow_iff, finiteNumber_ok_iff,
      require_ne_overflow, require_eq_ok_iff, ih, reaches_cons, side_iff, false_or]
    refine or_congr_right ⟨?_, ?_⟩
    · rintro ⟨q, checked, _, pos, later⟩
      exact ⟨⟨q, checked, pos⟩, later⟩
    · rintro ⟨⟨q, checked, pos⟩, later⟩
      exact ⟨q, checked, (), pos, later⟩

theorem validateRects_ok_iff {names : List String} :
    validateRects layout names = .ok () ↔ ∀ name ∈ names, IsRect layout name := by
  induction names with
  | nil => exact ⟨fun _ => nofun, fun _ => rfl⟩
  | cons name rest ih =>
    rw [validateRects, List.forall_mem_cons, ← ih]
    split
    next rect found =>
      simp only [Api.bind_eq_ok_iff, require_eq_ok_iff]
      constructor
      · rintro ⟨_, names, _, sides, others⟩
        exact ⟨⟨rect, found, names, validateRectFields_ok_iff.1 sides⟩, others⟩
      · rintro ⟨⟨rect', found', names, sides⟩, others⟩
        rw [found] at found'
        cases found'
        exact ⟨(), names, (), validateRectFields_ok_iff.2 sides, others⟩
    next other =>
      exact ⟨nofun, fun ⟨⟨rect, found, _⟩, _⟩ => absurd found (other rect)⟩

theorem validateRects_overflow_iff {names : List String} :
    validateRects layout names = .error .overflow ↔
      Reaches (IsRect layout) (RectOverflow layout) names := by
  induction names with
  | nil => exact ⟨nofun, fun h => absurd h not_reaches_nil⟩
  | cons name rest ih =>
    rw [validateRects, reaches_cons, ← ih]
    split
    next rect found =>
      simp only [bind_eq_error_iff, require_ne_overflow, require_eq_ok_iff, false_or]
      constructor
      · rintro ⟨_, names, huge | ⟨_, sides, later⟩⟩
        · exact .inl ⟨rect, found, names, validateRectFields_overflow_iff.1 huge⟩
        · exact .inr ⟨⟨rect, found, names, validateRectFields_ok_iff.1 sides⟩, later⟩
      · rintro (⟨rect', found', names, huge⟩ | ⟨⟨rect', found', names, sides⟩, later⟩)
        · rw [found] at found'
          cases found'
          exact ⟨(), names, .inl (validateRectFields_overflow_iff.2 huge)⟩
        · rw [found] at found'
          cases found'
          exact ⟨(), names, .inr ⟨(), validateRectFields_ok_iff.2 sides, later⟩⟩
    next other =>
      refine ⟨nofun, ?_⟩
      rintro (⟨rect, found, _⟩ | ⟨⟨rect, found, _⟩, _⟩)
      · exact absurd found (other rect)
      · exact absurd found (other rect)

theorem validateLayout_ok_iff : validateLayout layout = .ok () ↔ IsLayout layout := by
  unfold validateLayout
  dsimp only
  simp only [Api.bind_eq_ok_iff, require_eq_ok_iff, Bool.and_eq_true]
  constructor
  · rintro ⟨_, names, _, dimensions, rects⟩
    exact ⟨names, validateDimensions_ok_iff.1 dimensions, validateRects_ok_iff.1 rects⟩
  · intro h
    exact ⟨(), h.names, (), validateDimensions_ok_iff.2 h.dimensions, validateRects_ok_iff.2 h.rects⟩

theorem validateLayout_overflow_iff : validateLayout layout = .error .overflow ↔ LayoutOverflow layout := by
  unfold validateLayout
  dsimp only
  simp only [bind_eq_error_iff, require_ne_overflow, require_eq_ok_iff, Bool.and_eq_true, false_or]
  constructor
  · rintro ⟨_, names, huge | ⟨_, dimensions, huge⟩⟩
    · exact .dimension names (validateDimensions_overflow_iff.1 huge)
    · exact .side names (validateDimensions_ok_iff.1 dimensions) (validateRects_overflow_iff.1 huge)
  · rintro (⟨names, huge⟩ | ⟨names, dimensions, huge⟩)
    · exact ⟨(), names, .inl (validateDimensions_overflow_iff.2 huge)⟩
    · exact ⟨(), names, .inr ⟨(), validateDimensions_ok_iff.2 dimensions, validateRects_overflow_iff.2 huge⟩⟩

/-! ### The metadata -/

theorem identifier_isOk_iff : (∃ s, identifier payload name = .ok s) ↔
    isId (Value.get payload name) = true := by
  unfold identifier isId
  split
  · split_ifs with legal
    · exact ⟨fun _ => legal, fun _ => ⟨_, rfl⟩⟩
    · exact ⟨fun ⟨_, h⟩ => (nomatch h), fun h => absurd h legal⟩
  · exact ⟨fun ⟨_, h⟩ => (nomatch h), nofun⟩

theorem identifier_ne_overflow : identifier payload name ≠ .error .overflow := by
  unfold identifier
  split
  · split_ifs <;> exact nofun
  · exact nofun

theorem nonNegativeInt_isOk_iff : (∃ n, nonNegativeInt payload name = .ok n) ↔
    IsNat 0 (Value.get payload name) := by
  unfold nonNegativeInt
  split
  next n found => exact ⟨fun _ => ⟨n, found, Nat.zero_le n⟩, fun _ => ⟨n, rfl⟩⟩
  next other => exact ⟨fun ⟨_, h⟩ => (nomatch h), fun ⟨n, found, _⟩ => absurd found (other n)⟩

theorem nonNegativeInt_ne_overflow : nonNegativeInt payload name ≠ .error .overflow := by
  unfold nonNegativeInt
  split <;> exact nofun

theorem positiveInt_isOk_iff : (∃ n, positiveInt payload name = .ok n) ↔
    IsNat 1 (Value.get payload name) := by
  unfold positiveInt
  split
  next n found => exact ⟨fun _ => ⟨n + 1, found, Nat.succ_pos n⟩, fun _ => ⟨n + 1, rfl⟩⟩
  next other =>
    refine ⟨fun ⟨_, h⟩ => (nomatch h), ?_⟩
    rintro ⟨n, found, pos⟩
    obtain ⟨k, rfl⟩ := Nat.exists_eq_succ_of_ne_zero (Nat.one_le_iff_ne_zero.1 pos)
    exact absurd found (other k)

theorem positiveInt_ne_overflow : positiveInt payload name ≠ .error .overflow := by
  unfold positiveInt
  split <;> exact nofun

theorem mapping_eq_ok_iff {members : Members} : FrameMetadata.mapping payload name text = .ok members ↔
    Value.get payload name = .dict members := by
  refine ⟨mapping_ok, fun found => ?_⟩
  rw [FrameMetadata.mapping, found]

theorem mapping_ne_overflow : FrameMetadata.mapping payload name text ≠ .error .overflow := by
  unfold FrameMetadata.mapping
  split <;> exact nofun

theorem encodingOf_isOk_iff : (∃ s, FrameMetadata.encodingOf camera = .ok s) ↔
    ∃ s, Value.get camera "encoding" = .str s ∧ isMediaType s = true := by
  unfold FrameMetadata.encodingOf
  split
  next s found =>
    rw [found]
    split_ifs with legal
    · exact ⟨fun _ => ⟨s, rfl, legal⟩, fun _ => ⟨s, rfl⟩⟩
    · refine ⟨fun ⟨_, h⟩ => (nomatch h), ?_⟩
      rintro ⟨t, same, legal'⟩
      cases same
      exact absurd legal' legal
  next other => exact ⟨fun ⟨_, h⟩ => (nomatch h), fun ⟨s, found, _⟩ => absurd found (other s)⟩

theorem encodingOf_ne_overflow : FrameMetadata.encodingOf camera ≠ .error .overflow := by
  unfold FrameMetadata.encodingOf
  split
  · split_ifs <;> exact nofun
  · exact nofun

theorem contextOf_isOk_iff : (∃ c, FrameMetadata.contextOf payload = .ok c) ↔ LegalContext payload := by
  simp only [FrameMetadata.contextOf, Api.bind_eq_ok_iff, pure, Except.pure, Except.ok.injEq]
  constructor
  · rintro ⟨_, _, session, _, video, _, frame, _, sequence, _, captured, _, time, _, epoch, -⟩
    refine {
      ids := List.forall_mem_cons.2 ⟨identifier_isOk_iff.1 ⟨_, session⟩, List.forall_mem_cons.2
        ⟨identifier_isOk_iff.1 ⟨_, video⟩, List.forall_mem_singleton.2 (identifier_isOk_iff.1 ⟨_, frame⟩)⟩⟩
      sequence := nonNegativeInt_isOk_iff.1 ⟨_, sequence⟩
      captured := nonNegativeNumber_isOk_iff.1 ⟨_, captured⟩
      times := List.forall_mem_cons.2 ⟨nonNegativeInt_isOk_iff.1 ⟨_, time⟩,
        List.forall_mem_singleton.2 (nonNegativeInt_isOk_iff.1 ⟨_, epoch⟩)⟩ }
  · intro h
    obtain ⟨_, session⟩ := identifier_isOk_iff.2 (h.ids "session_id" (by decide))
    obtain ⟨_, video⟩ := identifier_isOk_iff.2 (h.ids "video_id" (by decide))
    obtain ⟨_, frame⟩ := identifier_isOk_iff.2 (h.ids "frame_id" (by decide))
    obtain ⟨_, sequence⟩ := nonNegativeInt_isOk_iff.2 h.sequence
    obtain ⟨_, captured⟩ := nonNegativeNumber_isOk_iff.2 h.captured
    obtain ⟨_, time⟩ := nonNegativeInt_isOk_iff.2 (h.times "video_time_ms" (by decide))
    obtain ⟨_, epoch⟩ := nonNegativeInt_isOk_iff.2 (h.times "playback_epoch" (by decide))
    exact ⟨_, _, session, _, video, _, frame, _, sequence, _, captured, _, time, _, epoch, rfl⟩

theorem contextOf_overflow_iff : FrameMetadata.contextOf payload = .error .overflow ↔
    LegalIds payload ∧ IsHuge (Value.get payload "captured_at_mono_ms") := by
  simp only [FrameMetadata.contextOf, bind_eq_error_iff, identifier_ne_overflow,
    nonNegativeInt_ne_overflow, nonNegativeNumber_overflow_iff, pure, Except.pure, reduceCtorEq,
    false_or, and_false, exists_false, or_false]
  constructor
  · rintro ⟨_, session, _, video, _, frame, _, sequence, huge⟩
    refine ⟨⟨List.forall_mem_cons.2 ⟨identifier_isOk_iff.1 ⟨_, session⟩, List.forall_mem_cons.2
      ⟨identifier_isOk_iff.1 ⟨_, video⟩, List.forall_mem_singleton.2 (identifier_isOk_iff.1 ⟨_, frame⟩)⟩⟩,
      nonNegativeInt_isOk_iff.1 ⟨_, sequence⟩⟩, huge⟩
  · rintro ⟨h, huge⟩
    obtain ⟨_, session⟩ := identifier_isOk_iff.2 (h.ids "session_id" (by decide))
    obtain ⟨_, video⟩ := identifier_isOk_iff.2 (h.ids "video_id" (by decide))
    obtain ⟨_, frame⟩ := identifier_isOk_iff.2 (h.ids "frame_id" (by decide))
    obtain ⟨_, sequence⟩ := nonNegativeInt_isOk_iff.2 h.sequence
    exact ⟨_, session, _, video, _, frame, _, sequence, huge⟩

theorem validateTargetMarker_overflow_iff :
    validateTargetMarker v = .error .overflow ↔ MarkerOverflow v := by
  unfold validateTargetMarker
  split
  next marker =>
    dsimp only
    simp only [bind_eq_error_iff, require_ne_overflow, require_eq_ok_iff, numberBetween_overflow_iff,
      Bool.and_eq_true, pure, Except.pure, reduceCtorEq, false_or, and_false, exists_false, or_false]
    constructor
    · rintro ⟨_, ⟨⟨names, calibration⟩, target⟩, huge⟩
      exact ⟨marker, rfl, names, List.forall_mem_cons.2 ⟨calibration, List.forall_mem_singleton.2 target⟩,
        huge⟩
    · rintro ⟨_, same, names, ids, huge⟩
      cases same
      exact ⟨(), ⟨⟨names, ids "calibration_id" (by decide)⟩, ids "target_id" (by decide)⟩, huge⟩
  next other => exact ⟨nofun, fun ⟨marker, same, _⟩ => absurd same (other marker)⟩

theorem targetOf_overflow_iff : FrameMetadata.targetOf payload = .error .overflow ↔
    MarkerOverflow (Value.get payload "calibration_target") := by
  rw [← validateTargetMarker_overflow_iff]
  unfold FrameMetadata.targetOf
  split_ifs with listed
  · cases validateTargetMarker (Value.get payload "calibration_target") with
    | ok marker => exact ⟨nofun, nofun⟩
    | error e =>
      refine ⟨fun h => ?_, fun h => ?_⟩
      · cases h
        rfl
      · cases h
        rfl
  · have missing : Value.get payload "calibration_target" = .none := by
      unfold Value.get
      rw [List.find?_eq_none.2 fun m member => ?_]
      · rfl
      · rw [beq_iff_eq]
        exact fun same => listed (same ▸ List.mem_map_of_mem member)
    rw [missing]
    exact ⟨nofun, nofun⟩

theorem isCamera_iff : IsCamera camera ↔
    Value.sameNames (camera.map (·.1)) FrameMetadata.cameraFields = true ∧
    (∃ s, FrameMetadata.encodingOf camera = .ok s) ∧ (∃ n, positiveInt camera "width_px" = .ok n) ∧
    (∃ n, positiveInt camera "height_px" = .ok n) ∧ ∃ n, positiveInt camera "byte_length" = .ok n := by
  simp only [encodingOf_isOk_iff, positiveInt_isOk_iff]
  constructor
  · intro h
    exact ⟨h.names, h.encoding, h.sizes _ (by decide), h.sizes _ (by decide), h.sizes _ (by decide)⟩
  · rintro ⟨names, encoding, width, height, length⟩
    exact ⟨names, encoding, List.forall_mem_cons.2 ⟨width, List.forall_mem_cons.2 ⟨height,
      List.forall_mem_singleton.2 length⟩⟩⟩

theorem checkHead_ok_iff {u : Unit} : FrameMetadata.checkHead payload = .ok u ↔ LegalStart payload := by
  simp only [FrameMetadata.checkHead, Api.bind_eq_ok_iff, require_eq_ok_iff, Bool.and_eq_true]
  exact ⟨fun ⟨_, names, kind⟩ => ⟨names, kind⟩, fun h => ⟨(), h.names, h.kind⟩⟩

theorem checkHead_ne_overflow : FrameMetadata.checkHead payload ≠ .error .overflow := by
  simp only [FrameMetadata.checkHead, ne_eq, bind_eq_error_iff, require_ne_overflow, false_or, and_false,
    exists_false, not_false_eq_true]

/-- The fields after the look for media have a number that is huge. -/
theorem readFields_overflow_iff : FrameMetadata.readFields payload = .error .overflow ↔
    (LegalIds payload ∧ IsHuge (Value.get payload "captured_at_mono_ms")) ∨
    ∃ layout, LegalContext payload ∧ Value.get payload "layout" = .dict layout ∧
      (LayoutOverflow layout ∨ IsLayout layout ∧ ∃ camera,
        Value.get payload "camera_frame" = .dict camera ∧ IsCamera camera ∧
        MarkerOverflow (Value.get payload "calibration_target")) := by
  simp only [FrameMetadata.readFields, bind_eq_error_iff, require_ne_overflow, require_eq_ok_iff,
    contextOf_overflow_iff, mapping_ne_overflow, validateLayout_overflow_iff, encodingOf_ne_overflow,
    positiveInt_ne_overflow, targetOf_overflow_iff, mapping_eq_ok_iff, pure, Except.pure, reduceCtorEq,
    false_or, and_false, exists_false, or_false]
  refine or_congr_right ⟨?_, ?_⟩
  · rintro ⟨c, read, layout, found, huge | ⟨_, legal, camera, seen, _, fields, _, encoding, _, width, _,
      height, _, length, huge⟩⟩
    · exact ⟨layout, contextOf_isOk_iff.1 ⟨c, read⟩, found, .inl huge⟩
    · exact ⟨layout, contextOf_isOk_iff.1 ⟨c, read⟩, found, .inr ⟨validateLayout_ok_iff.1 legal, camera,
        seen, isCamera_iff.2 ⟨fields, ⟨_, encoding⟩, ⟨_, width⟩, ⟨_, height⟩, ⟨_, length⟩⟩, huge⟩⟩
  · rintro ⟨layout, context, found, huge | ⟨legal, camera, seen, passes, huge⟩⟩
    · obtain ⟨c, read⟩ := contextOf_isOk_iff.2 context
      exact ⟨c, read, layout, found, .inl huge⟩
    · obtain ⟨c, read⟩ := contextOf_isOk_iff.2 context
      obtain ⟨fields, ⟨_, encoding⟩, ⟨_, width⟩, ⟨_, height⟩, _, length⟩ := isCamera_iff.1 passes
      exact ⟨c, read, layout, found, .inr ⟨(), validateLayout_ok_iff.2 legal, camera, seen, (), fields, _,
        encoding, _, width, _, height, _, length, huge⟩⟩

theorem frameOverflow_iff : FrameOverflow payload ↔
    LegalHead payload ∧ FrameMetadata.readFields payload = .error .overflow := by
  rw [readFields_overflow_iff]
  constructor
  · rintro (⟨head, ids, huge⟩ | ⟨head, context, found, huge⟩ | ⟨head, context, found, legal, seen,
      passes, huge⟩)
    · exact ⟨head, .inl ⟨ids, huge⟩⟩
    · exact ⟨head, .inr ⟨_, context, found, .inl huge⟩⟩
    · exact ⟨head, .inr ⟨_, context, found, .inr ⟨legal, _, seen, passes, huge⟩⟩⟩
  · rintro ⟨head, ⟨ids, huge⟩ | ⟨_, context, found, huge | ⟨legal, _, seen, passes, huge⟩⟩⟩
    · exact .captured head ids huge
    · exact .layout head context found huge
    · exact .marker head context found legal seen passes huge

theorem fromPayload_overflow_iff :
    FrameMetadata.fromPayload payload = .error .overflow ↔ FrameOverflow payload := by
  simp only [FrameMetadata.fromPayload, frameOverflow_iff, bind_eq_error_iff, checkHead_ne_overflow,
    checkHead_ok_iff, require_ne_overflow, require_eq_ok_iff, Bool.not_eq_true', false_or]
  constructor
  · rintro ⟨_, start, _, media, huge⟩
    exact ⟨⟨start, media⟩, huge⟩
  · rintro ⟨head, huge⟩
    exact ⟨(), head.toLegalStart, (), head.media, huge⟩

end

end Mkk.Gateway
