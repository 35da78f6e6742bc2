import Mkk.Api.Contract
import Mkk.Lib.Recency
import Mkk.Lib.Value

/-!
# Expression samples

`ExpressionSample` of `models.py` with what its constructor checks, `result.py`, and the conversion of a
backend's result by `SelectedFaceAdapter._to_sample`.
-/

namespace Mkk.Face

open Lib

/-! ## Samples -/

structure FaceFrameContext where
  sessionId : String
  sequence : ℤ
  frameId : String
  capturedAtMonoMs : PyFloat
  videoId : String
  videoTimeMs : ℤ
  playbackEpoch : ℤ
  deriving DecidableEq

/-- The arguments of `ExpressionSample`. -/
structure SampleFields where
  schemaVersion : String
  sessionId : String
  eventId : String
  sequence : ℤ
  frameId : String
  capturedAtMonoMs : PyFloat
  videoId : String
  videoTimeMs : ℤ
  playbackEpoch : ℤ
  producerId : String
  modelRevision : String
  taxonomyVersion : String
  faceDetected : Bool
  faceCount : ℤ
  scores : Dict String PyFloat
  quality : PyFloat
  valid : Bool
  confidence : PyFloat
  reason : Option String
  deriving DecidableEq

/-- `_ID_PATTERN` -/
def idPattern (s : String) : Bool :=
  match s.toList with
  | [] => false
  | c :: rest => Api.isAsciiAlnum c && rest.all Api.isIdentifierChar

/-- `_LABEL_PATTERN` -/
def labelPattern (s : String) : Bool :=
  match s.toList with
  | [] => false
  | c :: rest => c.isLower && rest.all (fun c => c.isLower || c.isDigit || c == '_') &&
      decide (rest.length ≤ 63)

/-- `_REASON_PATTERN` -/
def reasonPattern (s : String) : Bool :=
  match s.toList with
  | [] => false
  | c :: rest => (c.isLower || c.isDigit) &&
      rest.all fun c => c.isLower || c.isDigit || c == '_' || c == '-'

/-- A condition that must hold, and the text of the `ValueError` otherwise. -/
abbrev Check := Bool × String

/-- `_validate_string` -/
def stringChecks (value name : String) (maxLength : ℕ) (pattern : String → Bool) : List Check :=
  [(decide (1 ≤ value.length ∧ value.length ≤ maxLength),
      name ++ " must be a non-empty string up to " ++ toString maxLength ++ " characters"),
    (pattern value, name ++ " has an invalid format")]

/-- `_validate_integer` -/
def integerCheck (value : ℤ) (name : String) : Check :=
  (decide (0 ≤ value), name ++ " must be a non-negative integer")

/-- `_validate_number` with `normalized=True`. -/
def unitChecks (value : PyFloat) (name : String) : List Check :=
  match value with
  | .finite q => [(decide (0 ≤ q ∧ q ≤ 1), name ++ " must be between 0.0 and 1.0")]
  | _ => [(false, name ++ " must be a finite number")]

/-- The checks of `captured_at_mono_ms`. -/
def captureChecks : PyFloat → List Check
  | .finite q => [(decide (0 ≤ q), "captured_at_mono_ms must be non-negative")]
  | _ => [(false, "captured_at_mono_ms must be a finite number")]

namespace SampleFields

/-- The checks that tie the fields of a result to each other. -/
def outcomeChecks (f : SampleFields) : List Check :=
  (if f.faceDetected then [(decide (1 ≤ f.faceCount), "face_detected=true requires face_count of at least 1")]
    else [(decide (f.faceCount = 0), "face_detected=false requires face_count=0")]) ++
  if f.valid then
    [(f.faceDetected && decide (f.faceCount = 1), "valid samples require exactly one detected face"),
      (!f.scores.entries.isEmpty, "valid samples require at least one score"),
      (f.reason.isNone, "valid samples cannot have a reason")]
  else
    [(f.scores.entries.isEmpty, "invalid samples cannot contain scores"),
      (f.reason.isSome, "invalid samples require a reason")]

/-- `__post_init__` -/
def checks (f : SampleFields) : List Check :=
  [(decide (f.schemaVersion = "1.0"), "schema_version must be '1.0'")] ++
  stringChecks f.sessionId "session_id" 128 idPattern ++
  stringChecks f.eventId "event_id" 128 idPattern ++
  stringChecks f.frameId "frame_id" 128 idPattern ++
  stringChecks f.videoId "video_id" 128 idPattern ++
  stringChecks f.producerId "producer_id" 128 idPattern ++
  stringChecks f.modelRevision "model_revision" 128 (fun _ => true) ++
  stringChecks f.taxonomyVersion "taxonomy_version" 128 (fun _ => true) ++
  [integerCheck f.sequence "sequence", integerCheck f.videoTimeMs "video_time_ms",
    integerCheck f.playbackEpoch "playback_epoch", integerCheck f.faceCount "face_count"] ++
  captureChecks f.capturedAtMonoMs ++ unitChecks f.quality "quality" ++
  unitChecks f.confidence "confidence" ++
  (f.scores.entries.flatMap fun e => stringChecks e.1 "score label" 64 labelPattern ++
    unitChecks e.2 ("score '" ++ e.1 ++ "'")) ++
  (match f.reason with
    | some reason => stringChecks reason "reason" 128 reasonPattern
    | none => []) ++
  f.outcomeChecks

end SampleFields

/-- A sample that its constructor accepted. -/
structure ExpressionSample where
  fields : SampleFields
  accepted : fields.checks.all (·.1) = true

/-- `ExpressionSample(...)`, with the text of the `ValueError`. -/
def SampleFields.build (f : SampleFields) : Except String ExpressionSample :=
  if accepted : f.checks.all (·.1) = true then .ok ⟨f, accepted⟩
  else .error (((f.checks.find? fun check => !check.1).map (·.2)).getD "")

theorem SampleFields.build_fields (sample : ExpressionSample) : sample.fields.build = .ok sample := by
  unfold build
  rw [dif_pos sample.accepted]

theorem SampleFields.fields_of_build {f : SampleFields} {sample : ExpressionSample}
    (h : f.build = .ok sample) : sample.fields = f := by
  unfold build at h
  split at h
  · cases h
    rfl
  · cases h

/-! ## The adapter's identity -/

/-- `metadata.adapter_id` -/
def adapterId : String := "mediapipe-face-landmarker-adapter"

/-- `metadata.model_revision` -/
def modelRevision : String := "face-landmarker-float16-v1"

/-- `metadata.taxonomy_version` -/
def taxonomyVersion : String := "face-observable-actions-v1"

/-- The texts the event id is made of: the digest of a text, and the text of a float. -/
structure Texts where
  digest : String → String
  floatText : PyFloat → String

/-- `event_id` -/
def eventId (texts : Texts) (context : FaceFrameContext) : String :=
  "expression-" ++ texts.digest (String.intercalate "|" [adapterId, modelRevision, taxonomyVersion,
    context.sessionId, toString context.sequence, context.frameId, texts.floatText context.capturedAtMonoMs,
    context.videoId, toString context.videoTimeMs, toString context.playbackEpoch])

/-- `max(0.0, min(1.0, value))` -/
def clampUnit : PyFloat → PyFloat
  | .finite q => .finite (max 0 (min 1 q))
  | .infinity true => .finite 0
  | .infinity false => .finite 1
  | .nan => .finite 1

/-- `invalid_sample` -/
def invalidSample (texts : Texts) (context : FaceFrameContext) (reason : String) (faceCount : ℤ)
    (quality : PyFloat) : Except String ExpressionSample :=
  SampleFields.build {
    schemaVersion := "1.0"
    sessionId := context.sessionId
    eventId := eventId texts context
    sequence := context.sequence
    frameId := context.frameId
    capturedAtMonoMs := context.capturedAtMonoMs
    videoId := context.videoId
    videoTimeMs := context.videoTimeMs
    playbackEpoch := context.playbackEpoch
    producerId := adapterId
    modelRevision := modelRevision
    taxonomyVersion := taxonomyVersion
    faceDetected := decide (0 < faceCount)
    faceCount := faceCount
    scores := Dict.empty
    quality := clampUnit quality
    valid := false
    confidence := clampUnit (.finite 0)
    reason := some reason }

/-! ## Results of the backend -/

structure FaceInference where
  faceCount : ℤ
  blendshapes : List (Dict String PyFloat)
  quality : Option PyFloat

/-- `SOURCE_LABELS` -/
def sourceLabels : List String :=
  ["_neutral", "browDownLeft", "browDownRight", "browInnerUp",
    "browOuterUpLeft", "browOuterUpRight", "cheekPuff", "cheekSquintLeft",
    "cheekSquintRight", "eyeBlinkLeft", "eyeBlinkRight", "eyeLookDownLeft",
    "eyeLookDownRight", "eyeLookInLeft", "eyeLookInRight", "eyeLookOutLeft",
    "eyeLookOutRight", "eyeLookUpLeft", "eyeLookUpRight", "eyeSquintLeft",
    "eyeSquintRight", "eyeWideLeft", "eyeWideRight", "jawForward", "jawLeft",
    "jawOpen", "jawRight", "mouthClose", "mouthDimpleLeft", "mouthDimpleRight",
    "mouthFrownLeft", "mouthFrownRight", "mouthFunnel", "mouthLeft",
    "mouthLowerDownLeft", "mouthLowerDownRight", "mouthPressLeft",
    "mouthPressRight", "mouthPucker", "mouthRight", "mouthRollLower",
    "mouthRollUpper", "mouthShrugLower", "mouthShrugUpper", "mouthSmileLeft",
    "mouthSmileRight", "mouthStretchLeft", "mouthStretchRight",
    "mouthUpperUpLeft", "mouthUpperUpRight", "noseSneerLeft", "noseSneerRight"]

/-- `_canonical_label`: an underscore before each capital but a first one, then lower case. -/
def canonicalLabel (label : String) : String :=
  match label.toList with
  | [] => ""
  | c :: rest => String.ofList (c.toLower :: rest.flatMap fun c =>
      if c.isUpper then ['_', c.toLower] else [c])

example : canonicalLabel "mouthSmileLeft" = "mouth_smile_left" := by decide +kernel

/-- `CANONICAL_LABELS.get(source, "unknown")` -/
def canonicalOf (source : String) : String :=
  if sourceLabels.contains source && source != "_neutral" then canonicalLabel source else "unknown"

/-- `normalized` after one more blendshape. -/
def addScore (normalized : Dict String PyFloat) (e : String × PyFloat) :
    Except String (Dict String PyFloat) :=
  match e.2 with
  | .finite q =>
    if 0 ≤ q ∧ q ≤ 1 then
      .ok (if e.1 = "_neutral" then normalized else normalized.set (canonicalOf e.1) (.finite q))
    else .error "blendshape score is outside 0..1"
  | _ => .error "blendshape score is outside 0..1"

/-- `_normalize`; the labels of a mapping are distinct. -/
def normalize (values : Dict String PyFloat) : Except String (Dict String PyFloat) := do
  let missing := sourceLabels.filter fun label => !values.keys.contains label
  let unknown := values.keys.filter fun label => !sourceLabels.contains label
  if !missing.isEmpty || decide (1 < unknown.length) then throw "unexpected blendshape taxonomy"
  let normalized ← values.entries.foldlM addScore Dict.empty
  if normalized.entries.isEmpty then throw "no emitted blendshape scores"
  return normalized

/-- `quality < threshold` -/
def belowThreshold (threshold : ℚ) : PyFloat → Bool
  | .finite q => decide (q < threshold)
  | .infinity negative => negative
  | .nan => false

/-- The sample of one usable face. -/
def validSample (texts : Texts) (context : FaceFrameContext) (scores : Dict String PyFloat)
    (quality : PyFloat) : Except String ExpressionSample :=
  SampleFields.build {
    schemaVersion := "1.0"
    sessionId := context.sessionId
    eventId := eventId texts context
    sequence := context.sequence
    frameId := context.frameId
    capturedAtMonoMs := context.capturedAtMonoMs
    videoId := context.videoId
    videoTimeMs := context.videoTimeMs
    playbackEpoch := context.playbackEpoch
    producerId := adapterId
    modelRevision := modelRevision
    taxonomyVersion := taxonomyVersion
    faceDetected := true
    faceCount := 1
    scores := scores
    quality := quality
    valid := true
    confidence := quality
    reason := none }

/-- `_to_sample` -/
def toSample (texts : Texts) (threshold : ℚ) (context : FaceFrameContext) (result : FaceInference) :
    Except String ExpressionSample :=
  let quality := result.quality.getD (.finite 0)
  if result.faceCount = 0 then invalidSample texts context "no_face" 0 (.finite 0)
  else if 2 ≤ result.faceCount then invalidSample texts context "multi_face" result.faceCount quality
  else match result.blendshapes with
    | [values] =>
      match normalize values with
      | .error _ => invalidSample texts context "malformed_output" 1 (.finite 0)
      | .ok scores =>
        if result.quality.isNone || belowThreshold threshold quality then
          invalidSample texts context "low_quality" 1 quality
        else validSample texts context scores quality
    | _ => invalidSample texts context "malformed_output" 1 (.finite 0)

/-! ## Samples of a context -/

/-- What a sample says beside its context. -/
structure Derived where
  faceDetected : Bool
  faceCount : ℤ
  scores : Dict String PyFloat
  quality : PyFloat
  valid : Bool
  confidence : PyFloat
  reason : Option String

def SampleFields.derived (f : SampleFields) : Derived :=
  ⟨f.faceDetected, f.faceCount, f.scores, f.quality, f.valid, f.confidence, f.reason⟩

/-- The fields of a context's sample. -/
def fieldsOf (texts : Texts) (context : FaceFrameContext) (d : Derived) : SampleFields where
  schemaVersion := "1.0"
  sessionId := context.sessionId
  eventId := eventId texts context
  sequence := context.sequence
  frameId := context.frameId
  capturedAtMonoMs := context.capturedAtMonoMs
  videoId := context.videoId
  videoTimeMs := context.videoTimeMs
  playbackEpoch := context.playbackEpoch
  producerId := adapterId
  modelRevision := modelRevision
  taxonomyVersion := taxonomyVersion
  faceDetected := d.faceDetected
  faceCount := d.faceCount
  scores := d.scores
  quality := d.quality
  valid := d.valid
  confidence := d.confidence
  reason := d.reason

/-- The sample is the context's own. -/
def ExpressionSample.Carries (sample : ExpressionSample) (texts : Texts) (context : FaceFrameContext) : Prop :=
  sample.fields = fieldsOf texts context sample.fields.derived

variable {texts : Texts} {context : FaceFrameContext} {sample : ExpressionSample}

theorem carries_of_build {d : Derived} (h : (fieldsOf texts context d).build = .ok sample) :
    sample.Carries texts context := by
  unfold ExpressionSample.Carries
  rw [SampleFields.fields_of_build h]
  rfl

theorem carries_invalidSample {reason : String} {faceCount : ℤ} {quality : PyFloat}
    (h : invalidSample texts context reason faceCount quality = .ok sample) : sample.Carries texts context :=
  carries_of_build (d := ⟨decide (0 < faceCount), faceCount, Dict.empty, clampUnit quality, false,
    clampUnit (.finite 0), some reason⟩) h

theorem carries_validSample {scores : Dict String PyFloat} {quality : PyFloat}
    (h : validSample texts context scores quality = .ok sample) : sample.Carries texts context :=
  carries_of_build (d := ⟨true, 1, scores, quality, true, quality, none⟩) h

theorem carries_toSample {threshold : ℚ} {result : FaceInference}
    (h : toSample texts threshold context result = .ok sample) : sample.Carries texts context := by
  unfold toSample at h
  dsimp only at h
  split at h
  · exact carries_invalidSample h
  · split at h
    · exact carries_invalidSample h
    · split at h
      · split at h
        · exact carries_invalidSample h
        · split at h
          · exact carries_invalidSample h
          · exact carries_validSample h
      · exact carries_invalidSample h

end Mkk.Face
