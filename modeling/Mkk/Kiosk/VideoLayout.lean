import Mkk.Api.Contract
import Mkk.Lib.Rounding
import Mkk.Lib.Value
import Mathlib.Tactic.FieldSimp

/-!
# Where the video is on the screen

`calculateContainedVideoLayout` puts the video into its element without distortion and rounds the
rectangle it takes up to millionths of a pixel; `mapGazeToVideoPoint` reads a gaze point of the viewport
in that rectangle. Pixels are exact rationals. The rounding can leave a rectangle of no width, and then
the mapping divides by zero; `layout_faithful_iff` says when everything is as it should be.
-/

namespace Mkk.Kiosk

open Lib

/-! ## The layout -/

/-- `PixelRect`. -/
structure PixelRect where
  xPx : ℚ
  yPx : ℚ
  widthPx : ℚ
  heightPx : ℚ
deriving DecidableEq

/-- `VideoLayoutInput`. -/
structure VideoLayoutInput where
  viewportWidthPx : ℚ
  viewportHeightPx : ℚ
  sourceWidthPx : ℚ
  sourceHeightPx : ℚ
  elementRect : PixelRect

/-- `VideoLayout`, whose `object_fit` is always `contain`. -/
structure VideoLayout where
  viewportWidthPx : ℚ
  viewportHeightPx : ℚ
  sourceWidthPx : ℚ
  sourceHeightPx : ℚ
  elementRect : PixelRect
  contentRect : PixelRect
deriving DecidableEq

/-- `requirePositiveFinite`; the error is the text of a `RangeError`. -/
def requirePositiveFinite (value : ℚ) (name : String) : Except String Unit :=
  if 0 < value then .ok () else .error (name ++ " must be a positive finite number.")

/-- `normalizePixel`. -/
def normalizePixel (value : ℚ) : ℚ := roundHalfUp (value * 1000000) / 1000000

/-- The scale of the video in its element. -/
def containScale (input : VideoLayoutInput) : ℚ :=
  min (input.elementRect.widthPx / input.sourceWidthPx)
    (input.elementRect.heightPx / input.sourceHeightPx)

/-- `calculateContainedVideoLayout`. -/
def calculateContainedVideoLayout (input : VideoLayoutInput) : Except String VideoLayout := do
  let element := input.elementRect
  requirePositiveFinite input.viewportWidthPx "viewport_width_px"
  requirePositiveFinite input.viewportHeightPx "viewport_height_px"
  requirePositiveFinite input.sourceWidthPx "source_width_px"
  requirePositiveFinite input.sourceHeightPx "source_height_px"
  requirePositiveFinite element.widthPx "element_rect.width_px"
  requirePositiveFinite element.heightPx "element_rect.height_px"
  let contentWidth := input.sourceWidthPx * containScale input
  let contentHeight := input.sourceHeightPx * containScale input
  return {
    viewportWidthPx := input.viewportWidthPx
    viewportHeightPx := input.viewportHeightPx
    sourceWidthPx := input.sourceWidthPx
    sourceHeightPx := input.sourceHeightPx
    elementRect := element
    contentRect := {
      xPx := normalizePixel (element.xPx + (element.widthPx - contentWidth) / 2)
      yPx := normalizePixel (element.yPx + (element.heightPx - contentHeight) / 2)
      widthPx := normalizePixel contentWidth
      heightPx := normalizePixel contentHeight } }

/-! ## Samples -/

/-- `ObservationBase`. -/
structure ObservationBase where
  sessionId : String
  eventId : String
  sequence : ℕ
  frameId : String
  capturedAtMonoMs : ℚ
  videoId : String
  videoTimeMs : ℕ
  playbackEpoch : ℕ
  producerId : String
  modelRevision : String
  confidence : ℚ
deriving DecidableEq

inductive GazeOutcome where
  | valid (screenXNorm screenYNorm : ℚ)
  | invalid (reason : String)
deriving DecidableEq

/-- `GazeSample`. -/
structure GazeSample extends ObservationBase where
  calibrationId : String
  outcome : GazeOutcome
deriving DecidableEq

/-! ## The mapping -/

/-- `POINT_EPSILON`. -/
def pointEpsilon : ℚ := 1 / 10 ^ 9

/-- `n / m`, where `m` is not negative zero. -/
def jsDivide (n m : ℚ) : PyFloat :=
  if m = 0 then (if n = 0 then .nan else .infinity (n < 0)) else .finite (n / m)

/-- `x < q`. -/
def jsBelow : PyFloat → ℚ → Bool
  | .finite x, q => x < q
  | .infinity negative, _ => negative
  | .nan, _ => false

/-- `x > q`. -/
def jsAbove : PyFloat → ℚ → Bool
  | .finite x, q => q < x
  | .infinity negative, _ => !negative
  | .nan, _ => false

/-- `Math.min(1, Math.max(0, x))`. -/
def jsClamp : PyFloat → PyFloat
  | .finite x => .finite (min 1 (max 0 x))
  | .infinity negative => .finite (if negative then 0 else 1)
  | .nan => .nan

/-- `VideoPointMapping`. -/
inductive VideoPointMapping where
  | invalid (reason : String)
  | outside
  | point (videoXNorm videoYNorm : PyFloat)
deriving DecidableEq

/-- `requireNormalizedCoordinate`. -/
def requireNormalizedCoordinate (value : ℚ) (fieldName : String) : Except String Unit :=
  if value < 0 ∨ 1 < value then
    .error (fieldName ++ " must be a finite number between 0 and 1.")
  else .ok ()

/-- `pointIsInsideRect`. -/
def pointIsInsideRect (x y : ℚ) (rect : PixelRect) : Bool :=
  rect.xPx - pointEpsilon ≤ x && x ≤ rect.xPx + rect.widthPx + pointEpsilon &&
    rect.yPx - pointEpsilon ≤ y && y ≤ rect.yPx + rect.heightPx + pointEpsilon

/-- The part of `mapGazeToVideoPoint` after the coordinates were read. -/
def mapScreenPoint (screenX screenY : ℚ) (rect : PixelRect) : VideoPointMapping :=
  if pointIsInsideRect screenX screenY rect then
    let videoX := jsDivide (screenX - rect.xPx) rect.widthPx
    let videoY := jsDivide (screenY - rect.yPx) rect.heightPx
    if jsBelow videoX (-pointEpsilon) || jsAbove videoX (1 + pointEpsilon) ||
        jsBelow videoY (-pointEpsilon) || jsAbove videoY (1 + pointEpsilon) then .outside
    else .point (jsClamp videoX) (jsClamp videoY)
  else .outside

/-- `mapGazeToVideoPoint`. -/
def mapGazeToVideoPoint (sample : GazeSample) (layout : VideoLayout) : Except String VideoPointMapping :=
  match sample.outcome with
  | .invalid reason => .ok (.invalid reason)
  | .valid x y => do
    requireNormalizedCoordinate x "screen_x_norm"
    requireNormalizedCoordinate y "screen_y_norm"
    return mapScreenPoint (x * layout.viewportWidthPx) (y * layout.viewportHeightPx) layout.contentRect

/-! ## What the layout and the mapping should do -/

/-- A millionth of a pixel. -/
def roundingStep : ℚ := 1 / 1000000

section
variable (input : VideoLayoutInput) (rect : PixelRect) (x y : ℚ)

/-- A rectangle of positive size that lies in the element and in its centre, with the aspect ratio of the
source, each up to the rounding step. -/
structure FitsElement : Prop where
  positive : 0 < rect.widthPx ∧ 0 < rect.heightPx
  horizontal : input.elementRect.xPx - roundingStep ≤ rect.xPx ∧
    rect.xPx + rect.widthPx ≤ input.elementRect.xPx + input.elementRect.widthPx + roundingStep
  vertical : input.elementRect.yPx - roundingStep ≤ rect.yPx ∧
    rect.yPx + rect.heightPx ≤ input.elementRect.yPx + input.elementRect.heightPx + roundingStep
  centred : |rect.xPx + rect.widthPx / 2 - (input.elementRect.xPx + input.elementRect.widthPx / 2)| ≤
      roundingStep ∧
    |rect.yPx + rect.heightPx / 2 - (input.elementRect.yPx + input.elementRect.heightPx / 2)| ≤
      roundingStep
  aspect : ∃ width height, 0 < width ∧ 0 < height ∧ |rect.widthPx - width| ≤ roundingStep ∧
    |rect.heightPx - height| ≤ roundingStep ∧
    width * input.sourceHeightPx = height * input.sourceWidthPx

/-- A point of the rectangle. -/
def InRect : Prop :=
  (rect.xPx ≤ x ∧ x ≤ rect.xPx + rect.widthPx) ∧ rect.yPx ≤ y ∧ y ≤ rect.yPx + rect.heightPx

/-- A point that is farther than the epsilon from the rectangle, in one of the coordinates. -/
def FarFromRect : Prop :=
  (x < rect.xPx - pointEpsilon ∨ rect.xPx + rect.widthPx + pointEpsilon < x) ∨
    y < rect.yPx - pointEpsilon ∨ rect.yPx + rect.heightPx + pointEpsilon < y

/-- What the mapping should make of a point of the screen. -/
structure MapsPoint (mapped : VideoPointMapping) : Prop where
  /-- Where it divides it does not divide by zero. -/
  divisors : pointIsInsideRect x y rect = true → rect.widthPx ≠ 0 ∧ rect.heightPx ≠ 0
  result : mapped = .outside ∨ ∃ u v : ℚ, mapped = .point (.finite u) (.finite v) ∧
    (0 ≤ u ∧ u ≤ 1) ∧ 0 ≤ v ∧ v ≤ 1
  inside : InRect rect x y → mapped ≠ .outside
  far : FarFromRect rect x y → mapped = .outside
  back : ∀ u v : ℚ, mapped = .point (.finite u) (.finite v) →
    |rect.xPx + u * rect.widthPx - x| ≤ pointEpsilon ∧ |rect.yPx + v * rect.heightPx - y| ≤ pointEpsilon

/-- Neither side of the video is shorter than half a rounding step, once it is as large as the element
allows. -/
structure Visible : Prop where
  width : 1 / 2000000 ≤ input.elementRect.widthPx
  height : 1 / 2000000 ≤ input.elementRect.heightPx
  scaledWidth : 1 / 2000000 ≤ input.sourceWidthPx * (input.elementRect.heightPx / input.sourceHeightPx)
  scaledHeight : 1 / 2000000 ≤ input.sourceHeightPx * (input.elementRect.widthPx / input.sourceWidthPx)

end

/-! ## Rounding -/

section
variable {v : ℚ}

theorem abs_normalizePixel_sub_le (v : ℚ) : |normalizePixel v - v| ≤ roundingStep / 2 := by
  obtain ⟨low, high⟩ := roundHalfUp_sub_mem (v * 1000000)
  unfold normalizePixel roundingStep
  rw [abs_le]
  constructor
  · linarith
  · linarith

theorem normalizePixel_pos_iff : 0 < normalizePixel v ↔ 1 / 2000000 ≤ v := by
  have unit : (0 : ℚ) < 1000000 := by norm_num
  unfold normalizePixel
  rw [div_pos_iff_of_pos_right unit, Int.cast_pos, roundHalfUp_pos_iff]
  constructor
  · intro h
    linarith
  · intro h
    linarith

end

/-! ## One coordinate -/

section
variable {start size x : ℚ}

theorem coordinate_mem (positive : 0 < size) (low : start ≤ x) (high : x ≤ start + size) :
    0 ≤ (x - start) / size ∧ (x - start) / size ≤ 1 :=
  ⟨div_nonneg (sub_nonneg.2 low) positive.le, (div_le_one positive).2 (by linarith)⟩

/-- Reading a clamped coordinate back. -/
theorem abs_back_le (positive : 0 < size) (low : start - pointEpsilon ≤ x)
    (high : x ≤ start + size + pointEpsilon) :
    |start + min 1 (max 0 ((x - start) / size)) * size - x| ≤ pointEpsilon := by
  have some_room : 0 ≤ pointEpsilon := by
    unfold pointEpsilon
    norm_num
  rcases lt_or_ge x start with before | after
  · have negative : (x - start) / size ≤ 0 := div_nonpos_of_nonpos_of_nonneg (by linarith) positive.le
    rw [max_eq_left negative, min_eq_right zero_le_one, zero_mul, add_zero, abs_le]
    constructor
    · linarith
    · linarith
  · have nonneg : 0 ≤ (x - start) / size := div_nonneg (sub_nonneg.2 after) positive.le
    rw [max_eq_right nonneg]
    rcases le_or_gt x (start + size) with inside | beyond
    · rw [min_eq_right ((div_le_one positive).2 (by linarith)), div_mul_cancel₀ _ positive.ne',
        add_sub_cancel, sub_self, abs_zero]
      exact some_room
    · rw [min_eq_left ((one_le_div positive).2 (by linarith)), one_mul, abs_le]
      constructor
      · linarith
      · linarith

end

/-! ## A point of the screen -/

section
variable {rect : PixelRect} {x y : ℚ} {mapped : VideoPointMapping}

theorem pointIsInsideRect_iff : pointIsInsideRect x y rect = true ↔
    (rect.xPx - pointEpsilon ≤ x ∧ x ≤ rect.xPx + rect.widthPx + pointEpsilon) ∧
      rect.yPx - pointEpsilon ≤ y ∧ y ≤ rect.yPx + rect.heightPx + pointEpsilon := by
  simp only [pointIsInsideRect, Bool.and_eq_true, decide_eq_true_eq, and_assoc]

theorem pointEpsilon_nonneg : 0 ≤ pointEpsilon := by
  unfold pointEpsilon
  norm_num

/-- A coordinate passes the second test. -/
theorem jsRange_iff {n m : ℚ} (nonzero : m ≠ 0) :
    (jsBelow (jsDivide n m) (-pointEpsilon) || jsAbove (jsDivide n m) (1 + pointEpsilon)) = false ↔
      -pointEpsilon ≤ n / m ∧ n / m ≤ 1 + pointEpsilon := by
  rw [jsDivide, if_neg nonzero, jsBelow, jsAbove, Bool.or_eq_false_iff, decide_eq_false_iff_not,
    decide_eq_false_iff_not, not_lt, not_lt]

/-- The mapping into a rectangle of positive size. -/
theorem mapScreenPoint_cases (positive : 0 < rect.widthPx ∧ 0 < rect.heightPx) :
    (mapScreenPoint x y rect = .outside ∧ ¬InRect rect x y) ∨
    (pointIsInsideRect x y rect = true ∧ mapScreenPoint x y rect =
      .point (.finite (min 1 (max 0 ((x - rect.xPx) / rect.widthPx))))
        (.finite (min 1 (max 0 ((y - rect.yPx) / rect.heightPx))))) := by
  obtain ⟨width, height⟩ := positive
  have room := pointEpsilon_nonneg
  unfold mapScreenPoint
  by_cases inside : pointIsInsideRect x y rect = true
  · rw [if_pos inside]
    dsimp only
    split_ifs with beyond
    · refine .inl ⟨rfl, fun ⟨⟨left, right⟩, top, bottom⟩ => ?_⟩
      obtain ⟨low, high⟩ := coordinate_mem width left right
      obtain ⟨low', high'⟩ := coordinate_mem height top bottom
      have first := (@jsRange_iff (x - rect.xPx) _ width.ne').2 ⟨by linarith, by linarith⟩
      have second := (@jsRange_iff (y - rect.yPx) _ height.ne').2 ⟨by linarith, by linarith⟩
      rw [Bool.or_assoc, first, second] at beyond
      exact absurd beyond (by decide)
    · refine .inr ⟨inside, ?_⟩
      rw [jsDivide, if_neg width.ne', jsDivide, if_neg height.ne']
      rfl
  · rw [if_neg inside]
    refine .inl ⟨rfl, fun ⟨⟨left, right⟩, top, bottom⟩ => inside (pointIsInsideRect_iff.2 ?_)⟩
    exact ⟨⟨by linarith, by linarith⟩, by linarith, by linarith⟩

theorem clamp_mem (q : ℚ) : 0 ≤ min 1 (max 0 q) ∧ min 1 (max 0 q) ≤ 1 :=
  ⟨le_min zero_le_one (le_max_left _ _), min_le_left _ _⟩

/-- **A rectangle of positive size is mapped as it should.** -/
theorem mapsPoint_of_pos (positive : 0 < rect.widthPx ∧ 0 < rect.heightPx) :
    MapsPoint rect x y (mapScreenPoint x y rect) := by
  have divisors : pointIsInsideRect x y rect = true → rect.widthPx ≠ 0 ∧ rect.heightPx ≠ 0 :=
    fun _ => ⟨positive.1.ne', positive.2.ne'⟩
  rcases @mapScreenPoint_cases rect x y positive with ⟨outside, notIn⟩ | ⟨inside, point⟩
  · rw [outside]
    exact ⟨divisors, .inl rfl, fun within => absurd within notIn, fun _ => rfl, nofun⟩
  · rw [point]
    obtain ⟨⟨left, right⟩, top, bottom⟩ := pointIsInsideRect_iff.1 inside
    refine ⟨divisors, .inr ⟨_, _, rfl, clamp_mem _, clamp_mem _⟩, fun _ => nofun, fun far => ?_, ?_⟩
    · rcases far with (before | after) | before | after
      · exact absurd left (not_le.2 before)
      · exact absurd right (not_le.2 after)
      · exact absurd top (not_le.2 before)
      · exact absurd bottom (not_le.2 after)
    · intro u v same
      cases same
      exact ⟨abs_back_le positive.1 left right, abs_back_le positive.2 top bottom⟩

end

/-! ## The layout of an input -/

section
variable {input : VideoLayoutInput} {layout : VideoLayout}

theorem requirePositiveFinite_eq_ok_iff {value : ℚ} {name : String} {u : Unit} :
    requirePositiveFinite value name = .ok u ↔ 0 < value := by
  unfold requirePositiveFinite
  split <;> simp_all

/-- The sizes of an input are positive. -/
structure VideoLayoutInput.Legal (input : VideoLayoutInput) : Prop where
  sourceWidth : 0 < input.sourceWidthPx
  sourceHeight : 0 < input.sourceHeightPx
  width : 0 < input.elementRect.widthPx
  height : 0 < input.elementRect.heightPx

/-- The content of an element along one side, before it is rounded. -/
def contentSpan (start size content : ℚ) : ℚ × ℚ :=
  (normalizePixel (start + (size - content) / 2), normalizePixel content)

theorem calculateContainedVideoLayout_ok (accepted : calculateContainedVideoLayout input = .ok layout) :
    input.Legal ∧
    (layout.contentRect.xPx, layout.contentRect.widthPx) = contentSpan input.elementRect.xPx
      input.elementRect.widthPx (input.sourceWidthPx * containScale input) ∧
    (layout.contentRect.yPx, layout.contentRect.heightPx) = contentSpan input.elementRect.yPx
      input.elementRect.heightPx (input.sourceHeightPx * containScale input) := by
  simp only [calculateContainedVideoLayout, Api.bind_eq_ok_iff, requirePositiveFinite_eq_ok_iff, pure,
    Except.pure, Except.ok.injEq] at accepted
  obtain ⟨_, -, _, -, _, sourceWidth, _, sourceHeight, _, width, _, height, rfl⟩ := accepted
  exact ⟨⟨sourceWidth, sourceHeight, width, height⟩, rfl, rfl⟩

/-- As large as the element allows. -/
theorem sourceWidth_mul_scale (h : input.Legal) : input.sourceWidthPx * containScale input =
    min input.elementRect.widthPx
      (input.sourceWidthPx * (input.elementRect.heightPx / input.sourceHeightPx)) := by
  rw [containScale, mul_min_of_nonneg _ _ h.sourceWidth.le, mul_div_cancel₀ _ h.sourceWidth.ne']

theorem sourceHeight_mul_scale (h : input.Legal) : input.sourceHeightPx * containScale input =
    min (input.sourceHeightPx * (input.elementRect.widthPx / input.sourceWidthPx))
      input.elementRect.heightPx := by
  rw [containScale, mul_min_of_nonneg _ _ h.sourceHeight.le, mul_div_cancel₀ _ h.sourceHeight.ne']

theorem containScale_pos (h : input.Legal) : 0 < containScale input :=
  lt_min (div_pos h.width h.sourceWidth) (div_pos h.height h.sourceHeight)

theorem visible_iff (h : input.Legal) : Visible input ↔
    1 / 2000000 ≤ input.sourceWidthPx * containScale input ∧
      1 / 2000000 ≤ input.sourceHeightPx * containScale input := by
  rw [sourceWidth_mul_scale h, sourceHeight_mul_scale h, le_min_iff, le_min_iff]
  exact ⟨fun v => ⟨⟨v.width, v.scaledWidth⟩, v.scaledHeight, v.height⟩,
    fun ⟨⟨width, scaledWidth⟩, scaledHeight, height⟩ => ⟨width, height, scaledWidth, scaledHeight⟩⟩

/-- One side of the layout: in the element and in its middle, up to the rounding step. -/
theorem contentSpan_spec {start size content : ℚ} (fits : content ≤ size) :
    let (position, length) := contentSpan start size content
    (start - roundingStep ≤ position ∧ position + length ≤ start + size + roundingStep) ∧
      |position + length / 2 - (start + size / 2)| ≤ roundingStep := by
  obtain ⟨low, high⟩ := abs_le.1 (abs_normalizePixel_sub_le (start + (size - content) / 2))
  obtain ⟨low', high'⟩ := abs_le.1 (abs_normalizePixel_sub_le content)
  have step : 0 < roundingStep := by
    unfold roundingStep
    norm_num
  refine ⟨⟨?_, ?_⟩, abs_le.2 ⟨?_, ?_⟩⟩
  all_goals linarith

theorem fitsElement_iff (accepted : calculateContainedVideoLayout input = .ok layout) :
    FitsElement input layout.contentRect ↔ Visible input := by
  obtain ⟨legal, horizontal, vertical⟩ := calculateContainedVideoLayout_ok accepted
  obtain ⟨left, width⟩ := Prod.mk.inj horizontal
  obtain ⟨top, height⟩ := Prod.mk.inj vertical
  have positive : 0 < layout.contentRect.widthPx ∧ 0 < layout.contentRect.heightPx ↔ Visible input := by
    rw [width, height, visible_iff legal, normalizePixel_pos_iff, normalizePixel_pos_iff]
  refine ⟨fun h => positive.1 h.positive, fun visible => ?_⟩
  have fits : input.sourceWidthPx * containScale input ≤ input.elementRect.widthPx :=
    (sourceWidth_mul_scale legal).le.trans (min_le_left _ _)
  have fits' : input.sourceHeightPx * containScale input ≤ input.elementRect.heightPx :=
    (sourceHeight_mul_scale legal).le.trans (min_le_right _ _)
  obtain ⟨inWidth, centredWidth⟩ := @contentSpan_spec input.elementRect.xPx _ _ fits
  obtain ⟨inHeight, centredHeight⟩ := @contentSpan_spec input.elementRect.yPx _ _ fits'
  have step : roundingStep / 2 ≤ roundingStep := by
    unfold roundingStep
    norm_num
  have scale := containScale_pos legal
  refine ⟨positive.2 visible, ?_, ?_, ⟨?_, ?_⟩, ?_⟩
  · rw [left, width]
    exact inWidth
  · rw [top, height]
    exact inHeight
  · rw [left, width]
    exact centredWidth
  · rw [top, height]
    exact centredHeight
  · refine ⟨input.sourceWidthPx * containScale input, input.sourceHeightPx * containScale input,
      mul_pos legal.sourceWidth scale, mul_pos legal.sourceHeight scale, ?_, ?_, ?_⟩
    · rw [width]
      exact (abs_normalizePixel_sub_le _).trans step
    · rw [height]
      exact (abs_normalizePixel_sub_le _).trans step
    · ring

/-- The gaze is read where the layout is: no coordinate in range is refused. -/
theorem mapGazeToVideoPoint_valid {sample : GazeSample} {x y : ℚ} (valid : sample.outcome = .valid x y)
    (inX : 0 ≤ x ∧ x ≤ 1) (inY : 0 ≤ y ∧ y ≤ 1) : mapGazeToVideoPoint sample layout =
      .ok (mapScreenPoint (x * layout.viewportWidthPx) (y * layout.viewportHeightPx)
        layout.contentRect) := by
  have passes {value : ℚ} {name : String} (inside : 0 ≤ value ∧ value ≤ 1) :
      requireNormalizedCoordinate value name = .ok () :=
    if_neg fun out => out.elim (not_lt.2 inside.1) (not_lt.2 inside.2)
  rw [mapGazeToVideoPoint, valid]
  dsimp only
  rw [Api.bind_ok (passes inX), Api.bind_ok (passes inY)]
  rfl

/-- **When layout and mapping are faithful.** The rectangle of a layout fits its element and every valid
gaze in range is mapped as it should exactly when the video is visible: neither of its sides is shorter
than half a rounding step. -/
theorem layout_faithful_iff (accepted : calculateContainedVideoLayout input = .ok layout) :
    (FitsElement input layout.contentRect ∧
      ∀ (sample : GazeSample) (x y : ℚ), sample.outcome = .valid x y → 0 ≤ x ∧ x ≤ 1 → 0 ≤ y ∧ y ≤ 1 →
        ∃ mapped, mapGazeToVideoPoint sample layout = .ok mapped ∧
          MapsPoint layout.contentRect (x * layout.viewportWidthPx) (y * layout.viewportHeightPx)
            mapped) ↔
    Visible input := by
  refine ⟨fun h => (fitsElement_iff accepted).1 h.1, fun visible => ?_⟩
  have fits := (fitsElement_iff accepted).2 visible
  exact ⟨fits, fun sample x y valid inX inY =>
    ⟨_, mapGazeToVideoPoint_valid valid inX inY, mapsPoint_of_pos fits.positive⟩⟩

end

/-- A video of 16:9 in a wider element. -/
def wideInput : VideoLayoutInput where
  viewportWidthPx := 1200
  viewportHeightPx := 900
  sourceWidthPx := 1920
  sourceHeightPx := 1080
  elementRect := { xPx := 100, yPx := 50, widthPx := 1000, heightPx := 800 }

def wideLayout : VideoLayout where
  viewportWidthPx := 1200
  viewportHeightPx := 900
  sourceWidthPx := 1920
  sourceHeightPx := 1080
  elementRect := { xPx := 100, yPx := 50, widthPx := 1000, heightPx := 800 }
  contentRect := { xPx := 100, yPx := 675 / 4, widthPx := 1000, heightPx := 1125 / 2 }

def centreGaze : GazeSample where
  sessionId := "session-0001"
  eventId := "gaze-0001"
  sequence := 1
  frameId := "frame-0001"
  capturedAtMonoMs := 1000
  videoId := "video-0001"
  videoTimeMs := 0
  playbackEpoch := 0
  producerId := "eye-worker"
  modelRevision := "eye-v1"
  confidence := 1
  calibrationId := "calibration-0001"
  outcome := .valid (1 / 2) (1 / 2)

theorem layout_faithful_wide : FitsElement wideInput wideLayout.contentRect ∧
    ∃ mapped, mapGazeToVideoPoint centreGaze wideLayout = .ok mapped ∧
      MapsPoint wideLayout.contentRect (1 / 2 * 1200) (1 / 2 * 900) mapped := by
  have accepted : calculateContainedVideoLayout wideInput = .ok wideLayout := by decide +kernel
  have visible : Visible wideInput :=
    ⟨by decide +kernel, by decide +kernel, by decide +kernel, by decide +kernel⟩
  have half : (0 : ℚ) ≤ 1 / 2 ∧ (1 : ℚ) / 2 ≤ 1 := by decide +kernel
  obtain ⟨fits, maps⟩ := (layout_faithful_iff accepted).2 visible
  exact ⟨fits, maps centreGaze _ _ rfl half half⟩

/-- A video a pixel wide and as high as can be. -/
def thinInput : VideoLayoutInput where
  viewportWidthPx := 100
  viewportHeightPx := 100
  sourceWidthPx := 1
  sourceHeightPx := 10 ^ 9
  elementRect := { xPx := 0, yPx := 0, widthPx := 100, heightPx := 100 }

def thinLayout : VideoLayout where
  viewportWidthPx := 100
  viewportHeightPx := 100
  sourceWidthPx := 1
  sourceHeightPx := 10 ^ 9
  elementRect := { xPx := 0, yPx := 0, widthPx := 100, heightPx := 100 }
  contentRect := { xPx := 50, yPx := 0, widthPx := 0, heightPx := 100 }

/-- The rectangle of the thin video is rounded to no width, and a gaze at the middle of the screen is
mapped to a coordinate that is not a number. -/
theorem thin_video_unmapped : calculateContainedVideoLayout thinInput = .ok thinLayout ∧
    thinLayout.contentRect.widthPx = 0 ∧
    mapGazeToVideoPoint centreGaze thinLayout = .ok (.point .nan (.finite (1 / 2))) ∧
    ¬MapsPoint thinLayout.contentRect 50 50 (.point .nan (.finite (1 / 2))) := by
  refine ⟨by decide +kernel, rfl, by decide +kernel, fun maps => ?_⟩
  rcases maps.result with outside | ⟨u, v, point, _⟩
  · cases outside
  · cases point

end Mkk.Kiosk
