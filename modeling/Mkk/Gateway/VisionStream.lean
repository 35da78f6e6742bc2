import Mkk.Common.VisionToken
import Mkk.Eye.Adapter
import Mkk.Lib.Value

/-!
# Binary frames of the Vision stream

A frame travels as a magic number, the length of a header, the header and the image; the header is
the frame's metadata as JSON. The JSON reader and writer are parameters. What `decode_binary_frame`
accepts is written again and read back as it was (`frame_survives`), so the Eye worker gets the
frame the Gateway accepted.
-/

namespace Mkk.Gateway

open Lib Lib.Base64 Mkk.Common Mkk.Eye

/-- `VisionStreamProtocolError`, its subclass for frames that are too large, or the `OverflowError` of
a number no double holds, which nothing catches. The `RecursionError` of a stack that is full is added
where the reader is followed with its stack (`decodeFrame`). -/
inductive DecodeError where
  | protocol (text : String)
  | tooLarge (text : String)
  | overflow

abbrev Members := List (String × Value)

/-- `if not condition: raise error`. -/
def require (condition : Bool) (error : DecodeError) : Except DecodeError Unit :=
  if condition then .ok () else .error error

theorem require_eq_ok_iff {condition : Bool} {error : DecodeError} {u : Unit} :
    require condition error = .ok u ↔ condition = true := by
  unfold require
  split <;> simp_all

/-! ## The calibration target -/

/-- `_id`. -/
def isId : Value → Bool
  | .str s => Api.isIdentifier s
  | _ => false

/-- `_number`; it raises for an integer no double holds. -/
def numberBetween (v : Value) (lower upper : ℚ) : Except DecodeError Bool :=
  match v.checkNumber with
  | .number q => .ok (decide (lower ≤ q ∧ q ≤ upper))
  | .other => .ok false
  | .overflow => .error .overflow

/-- `validate_target_marker`, whose `ValueError` the frame reader turns into its own. -/
def validateTargetMarker (value : Value) : Except DecodeError Members :=
  match value with
  | .dict marker => do
    let invalid : DecodeError := .protocol "invalid calibration marker"
    let fields := ["calibration_id", "target_id", "presented_at_mono_ms"]
    require (Value.sameNames (marker.map (·.1)) fields && isId (Value.get marker "calibration_id") &&
      isId (Value.get marker "target_id")) invalid
    let presented ← numberBetween (Value.get marker "presented_at_mono_ms") 0 (10 ^ 15)
    require presented invalid
    return marker
  | _ => .error (.protocol "invalid calibration marker")

/-! ## Fields -/

section
variable (payload : Members) (name : String)

/-- `_identifier`. -/
def identifier : Except DecodeError String :=
  match Value.get payload name with
  | .str s => if Api.isIdentifier s then .ok s else .error (.protocol (name ++ " is required"))
  | _ => .error (.protocol (name ++ " is required"))

/-- `_non_negative_int`. -/
def nonNegativeInt : Except DecodeError ℕ :=
  match Value.get payload name with
  | .int (.ofNat n) => .ok n
  | _ => .error (.protocol (name ++ " must be a non-negative integer"))

/-- `_positive_int`. -/
def positiveInt : Except DecodeError ℕ :=
  match Value.get payload name with
  | .int (.ofNat (n + 1)) => .ok (n + 1)
  | _ => .error (.protocol (name ++ " must be a positive integer"))

/-- `_non_negative_number`, as a float. -/
def nonNegativeNumber : Except DecodeError ℚ :=
  let negative : DecodeError := .protocol (name ++ " must be a non-negative number")
  match Value.get payload name with
  | .int n =>
    match toDouble n with
    | none => .error .overflow
    | some q => if n < 0 then .error negative else .ok q
  | .float (.finite q) => if q < 0 then .error negative else .ok q
  | _ => .error negative

end

/-- A finite number, or the error with this text. -/
def finiteNumber (v : Value) (text : String) : Except DecodeError ℚ :=
  match v.checkNumber with
  | .number q => .ok q
  | .other => .error (.protocol text)
  | .overflow => .error .overflow

/-- The loop of `_validate_layout` over the dimensions. -/
def validateDimensions (layout : Members) : List String → Except DecodeError Unit
  | [] => .ok ()
  | name :: rest => do
    let invalid := "lookbook layout dimensions are invalid"
    let q ← finiteNumber (Value.get layout name) invalid
    require (0 < q) (.protocol invalid)
    validateDimensions layout rest

/-- Its inner loop over the fields of a rectangle. -/
def validateRectFields (rect : Members) : List String → Except DecodeError Unit
  | [] => .ok ()
  | field :: rest => do
    let invalid := "lookbook layout rectangle is invalid"
    let q ← finiteNumber (Value.get rect field) invalid
    require (field ∉ ["width_px", "height_px"] || 0 < q) (.protocol invalid)
    validateRectFields rect rest

/-- Its loop over the rectangles. -/
def validateRects (layout : Members) : List String → Except DecodeError Unit
  | [] => .ok ()
  | name :: rest =>
    match Value.get layout name with
    | .dict rect => do
      let fields := ["x_px", "y_px", "width_px", "height_px"]
      require (Value.sameNames (rect.map (·.1)) fields)
        (.protocol "lookbook layout rectangle fields are invalid")
      validateRectFields rect fields
      validateRects layout rest
    | _ => .error (.protocol "lookbook layout rectangle is invalid")

/-- `_validate_layout`. -/
def validateLayout (layout : Members) : Except DecodeError Unit := do
  let dimensions :=
    ["viewport_width_px", "viewport_height_px", "source_width_px", "source_height_px"]
  let rects := ["element_rect", "content_rect"]
  require (Value.sameNames (layout.map (·.1)) (dimensions ++ "object_fit" :: rects) &&
    (Value.get layout "object_fit").isText "contain") (.protocol "lookbook layout is invalid")
  validateDimensions layout dimensions
  validateRects layout rects

/-! ## Embedded media -/

/-- A name without underscores, in lower case; only the letters of the words below matter. -/
def normalizedName (key : String) : List Char :=
  (key.toList.filter (· ≠ '_')).map Char.toLower

def mentions (name : List Char) (word : String) : Bool :=
  decide (word.toList <:+: name)

/-- The name says that its value is an image. -/
def namesMedia (key : String) : Bool :=
  let name := normalizedName key
  let media := mentions name "image" || mentions name "frame"
  let payload := ["base64", "binary", "blob", "bytes", "content", "data", "payload", "raw"].any
    (mentions name)
  name == "base64".toList || (media && payload)

mutual

/-- `_reject_embedded_media` finds something, when the stack is deep enough for its calls
(`rejectEmbeddedMedia` has the stack). -/
def embedsMedia : Value → Bool
  | .dict members => embedsMediaMembers members
  | .list elements => embedsMediaElements elements
  | _ => false

def embedsMediaMembers : Members → Bool
  | [] => false
  | (key, child) :: rest => namesMedia key || embedsMedia child || embedsMediaMembers rest

def embedsMediaElements : List Value → Bool
  | [] => false
  | child :: rest => embedsMedia child || embedsMediaElements rest

end

/-! ## Metadata -/

def isMediaTypeChar (c : Char) : Bool :=
  ('a' ≤ c ∧ c ≤ 'z') ∨ ('0' ≤ c ∧ c ≤ '9')

/-- `_MEDIA_TYPE_PATTERN`. -/
def isMediaType (s : String) : Bool :=
  match s.toList with
  | 'i' :: 'm' :: 'a' :: 'g' :: 'e' :: '/' :: c :: rest =>
    isMediaTypeChar c && rest.all (fun c => isMediaTypeChar c || c ∈ ['.', '+', '-']) &&
      decide (rest.length ≤ 63)
  | _ => false

structure FrameMetadata where
  context : StreamFrameContext
  layout : Members
  encoding : String
  widthPx : ℕ
  heightPx : ℕ
  byteLength : ℕ
  calibrationTarget : Option Members

/-- `StreamFrameContext.as_payload`. -/
def asContextPayload (c : StreamFrameContext) : Members :=
  [("session_id", .str c.sessionId), ("video_id", .str c.videoId), ("frame_id", .str c.frameId),
    ("sequence", .int c.sequence), ("captured_at_mono_ms", .float (.finite c.capturedAtMonoMs)),
    ("video_time_ms", .int c.videoTimeMs), ("playback_epoch", .int c.playbackEpoch)]

namespace FrameMetadata

/-- The member of the payload a calibration frame has more. -/
def targetMember (target : Option Members) : Members :=
  match target with
  | some marker => [("calibration_target", .dict marker)]
  | none => []

def cameraPayload (m : FrameMetadata) : Members :=
  [("encoding", .str m.encoding), ("width_px", .int m.widthPx), ("height_px", .int m.heightPx),
    ("byte_length", .int m.byteLength)]

/-- `as_payload`. -/
def asPayload (m : FrameMetadata) : Members :=
  [("type", .str "frame"), ("protocol_version", .str "1.0")] ++ asContextPayload m.context ++
    [("layout", .dict m.layout)] ++ targetMember m.calibrationTarget ++
    [("camera_frame", .dict m.cameraPayload)]

/-- `_FRAME_FIELDS`. -/
def frameFields : List String :=
  ["type", "protocol_version", "session_id", "video_id", "frame_id", "sequence",
    "captured_at_mono_ms", "video_time_ms", "playback_epoch", "layout", "camera_frame"]

/-- `_CAMERA_FRAME_FIELDS`. -/
def cameraFields : List String := ["encoding", "width_px", "height_px", "byte_length"]

/-- The dictionary under a name, or the error with this text. -/
def mapping (payload : Members) (name text : String) : Except DecodeError Members :=
  match Value.get payload name with
  | .dict members => .ok members
  | _ => .error (.protocol text)

/-- The context `from_payload` reads. -/
def contextOf (payload : Members) : Except DecodeError StreamFrameContext := do
  let sessionId ← identifier payload "session_id"
  let videoId ← identifier payload "video_id"
  let frameId ← identifier payload "frame_id"
  let sequence ← nonNegativeInt payload "sequence"
  let capturedAtMonoMs ← nonNegativeNumber payload "captured_at_mono_ms"
  let videoTimeMs ← nonNegativeInt payload "video_time_ms"
  let playbackEpoch ← nonNegativeInt payload "playback_epoch"
  return { sessionId, videoId, frameId, sequence, capturedAtMonoMs, videoTimeMs, playbackEpoch }

/-- The media type of the camera frame. -/
def encodingOf (camera : Members) : Except DecodeError String :=
  match Value.get camera "encoding" with
  | .str s => if isMediaType s then .ok s else .error (.protocol "camera frame encoding is invalid")
  | _ => .error (.protocol "camera frame encoding is invalid")

/-- The marker, when the payload has one. -/
def targetOf (payload : Members) : Except DecodeError (Option Members) :=
  if "calibration_target" ∈ payload.map (·.1) then
    some <$> validateTargetMarker (Value.get payload "calibration_target")
  else .ok none

/-- The checks of `from_payload` before it looks for embedded media. -/
def checkHead (payload : Members) : Except DecodeError Unit := do
  require (Value.sameNames ((payload.map (·.1)).filter (· ≠ "calibration_target")) frameFields)
    (.protocol "frame metadata fields are invalid")
  require ((Value.get payload "type").isText "frame" &&
    (Value.get payload "protocol_version").isText "1.0") (.protocol "unsupported frame message")

/-- The rest of `from_payload`. -/
def readFields (payload : Members) : Except DecodeError FrameMetadata := do
  let context ← contextOf payload
  let layout ← mapping payload "layout" "frame layout is required"
  validateLayout layout
  let camera ← mapping payload "camera_frame" "camera_frame metadata is required"
  require (Value.sameNames (camera.map (·.1)) cameraFields)
    (.protocol "camera_frame fields are invalid")
  let encoding ← encodingOf camera
  let widthPx ← positiveInt camera "width_px"
  let heightPx ← positiveInt camera "height_px"
  let byteLength ← positiveInt camera "byte_length"
  let calibrationTarget ← targetOf payload
  return { context, layout, encoding, widthPx, heightPx, byteLength, calibrationTarget }

/-- `from_payload`, on a stack that has room for the look at the whole payload. -/
def fromPayload (payload : Members) : Except DecodeError FrameMetadata := do
  checkHead payload
  require (!embedsMedia (.dict payload)) (.protocol "raw media must not be in frame metadata")
  readFields payload

end FrameMetadata

/-! ## Frames -/

/-- `DecodedBinaryFrame`. -/
structure DecodedBinaryFrame where
  metadata : FrameMetadata
  imageBytes : Bytes

/-- `MAGIC`. -/
def magic : Bytes := "MCM1".toList.map fun c => UInt8.ofNat c.toNat

/-- `MAX_METADATA_BYTES`. -/
def maxMetadataBytes : ℕ := 65535

/-- A length in four bytes, the most significant first. -/
def bigEndian (n : ℕ) : Bytes :=
  [n / 2 ^ 24, n / 2 ^ 16, n / 2 ^ 8, n].map UInt8.ofNat

def fromBigEndian (bytes : Bytes) : ℕ :=
  bytes.foldl (fun n b => n * 256 + b.toNat) 0

section
variable (loads : String → Option Value) (dumps : Value → String)

/-- The object in the header of a frame. -/
def readMetadata (header : Bytes) : Except DecodeError Members :=
  match (utf8Decode header).bind loads with
  | none => .error (.protocol "binary frame metadata is not valid JSON")
  | some (.dict payload) => .ok payload
  | some _ => .error (.protocol "binary frame metadata must be an object")

/-- `decode_binary_frame`. -/
def decodeBinaryFrame (message : Bytes) (maxFrameBytes : ℕ) : Except DecodeError DecodedBinaryFrame := do
  require (8 ≤ message.length) (.protocol "binary frame prefix is invalid")
  require (message.take 4 == magic) (.protocol "binary frame magic is invalid")
  let metadataLength := fromBigEndian ((message.drop 4).take 4)
  require (metadataLength ≤ maxMetadataBytes) (.tooLarge "frame metadata is too large")
  require (8 + metadataLength ≤ message.length) (.protocol "binary frame metadata is truncated")
  let imageBytes := message.drop (8 + metadataLength)
  require (imageBytes.length ≤ maxFrameBytes) (.tooLarge "binary frame is too large")
  let payload ← readMetadata loads ((message.drop 8).take metadataLength)
  let metadata ← FrameMetadata.fromPayload payload
  require (metadata.byteLength == imageBytes.length)
    (.protocol "binary frame payload length does not match metadata")
  return { metadata, imageBytes }

/-- `encode_binary_frame`. -/
def encodeBinaryFrame (metadata : Members) (imageBytes : Bytes) : Except DecodeError Bytes :=
  let header := utf8Encode (dumps (.dict metadata))
  if maxMetadataBytes < header.length then .error (.tooLarge "frame metadata is too large")
  else .ok (magic ++ bigEndian header.length ++ header ++ imageBytes)

/-- The body `HttpEyeWorkerClient.infer` sends. -/
def inferBody (frame : DecodedBinaryFrame) : Except DecodeError Bytes :=
  encodeBinaryFrame dumps frame.metadata.asPayload frame.imageBytes

end

/-! ## Writing what was read -/

/-- What `from_payload` makes sure of. -/
structure FrameMetadata.Accepted (m : FrameMetadata) : Prop where
  sessionId : Api.isIdentifier m.context.sessionId = true
  videoId : Api.isIdentifier m.context.videoId = true
  frameId : Api.isIdentifier m.context.frameId = true
  captured : 0 ≤ m.context.capturedAtMonoMs
  layout : validateLayout m.layout = .ok ()
  layoutMedia : embedsMedia (.dict m.layout) = false
  encoding : isMediaType m.encoding = true
  widthPx : 0 < m.widthPx
  heightPx : 0 < m.heightPx
  byteLength : 0 < m.byteLength
  target : ∀ marker, m.calibrationTarget = some marker →
    validateTargetMarker (.dict marker) = .ok marker ∧ embedsMedia (.dict marker) = false

section
variable {payload : Members} {name : String}

theorem identifier_ok {s : String} (h : identifier payload name = .ok s) :
    Api.isIdentifier s = true := by
  unfold identifier at h
  split at h
  · split_ifs at h with legal
    cases h
    exact legal
  · cases h

theorem positiveInt_ok {n : ℕ} (h : positiveInt payload name = .ok n) : 0 < n := by
  unfold positiveInt at h
  split at h
  · cases h
    exact Nat.succ_pos _
  · cases h

theorem nonNegativeNumber_ok {q : ℚ} (h : nonNegativeNumber payload name = .ok q) : 0 ≤ q := by
  unfold nonNegativeNumber at h
  dsimp only at h
  split at h
  · split at h
    · cases h
    · rename_i rounded
      split_ifs at h with negative
      cases h
      exact toDouble_nonneg rounded (not_lt.1 negative)
  · split_ifs at h with negative
    cases h
    exact not_lt.1 negative
  · cases h

theorem mapping_ok {members : Members} {text : String}
    (h : FrameMetadata.mapping payload name text = .ok members) :
    Value.get payload name = .dict members := by
  unfold FrameMetadata.mapping at h
  split at h
  · rename_i found
    cases h
    exact found
  · cases h

/-- A value of a dictionary without embedded media has none. -/
theorem embedsMedia_get (clear : embedsMedia (.dict payload) = false) :
    embedsMedia (Value.get payload name) = false := by
  rw [embedsMedia] at clear
  unfold Value.get
  induction payload with
  | nil => rfl
  | cons m rest ih =>
    obtain ⟨key, child⟩ := m
    rw [embedsMediaMembers, Bool.or_eq_false_iff, Bool.or_eq_false_iff] at clear
    rw [List.find?_cons]
    split
    · exact clear.1.2
    · exact ih clear.2

theorem validateTargetMarker_ok {v : Value} {marker : Members}
    (h : validateTargetMarker v = .ok marker) : v = .dict marker := by
  unfold validateTargetMarker at h
  split at h
  · simp only [Api.bind_eq_ok_iff] at h
    obtain ⟨-, -, -, -, -, -, h⟩ := h
    cases h
    rfl
  · cases h

theorem encodingOf_ok {s : String} (h : FrameMetadata.encodingOf payload = .ok s) :
    isMediaType s = true := by
  unfold FrameMetadata.encodingOf at h
  split at h
  · split_ifs at h with legal
    cases h
    exact legal
  · cases h

theorem targetOf_ok {target : Option Members} (h : FrameMetadata.targetOf payload = .ok target)
    (clear : embedsMedia (.dict payload) = false) : ∀ marker, target = some marker →
      validateTargetMarker (.dict marker) = .ok marker ∧ embedsMedia (.dict marker) = false := by
  intro marker found
  subst found
  unfold FrameMetadata.targetOf at h
  split_ifs at h
  · cases valid : validateTargetMarker (Value.get payload "calibration_target") with
    | error e =>
      rw [valid] at h
      cases h
    | ok marker' =>
      have member := validateTargetMarker_ok valid
      rw [valid] at h
      cases h
      exact ⟨member ▸ valid, member ▸ embedsMedia_get clear⟩
  · cases h

/-- **What `from_payload` returns meets its own checks.** -/
theorem fromPayload_accepted {m : FrameMetadata} (h : FrameMetadata.fromPayload payload = .ok m) :
    m.Accepted := by
  simp only [FrameMetadata.fromPayload, FrameMetadata.readFields, FrameMetadata.contextOf,
    Api.bind_eq_ok_iff, require_eq_ok_iff, pure, Except.pure, Except.ok.injEq] at h
  obtain ⟨_, -, _, media, _, ⟨sessionId, sid, videoId, vid, frameId, fid, sequence, -,
    captured, cap, time, -, epoch, -, rfl⟩, layout, lay, _, valid, camera, -, _, -, encoding, enc,
    width, wid, height, hei, length, len, target, tar, rfl⟩ := h
  have clear : embedsMedia (.dict payload) = false := by
    rwa [Bool.not_eq_true'] at media
  exact {
    sessionId := identifier_ok sid
    videoId := identifier_ok vid
    frameId := identifier_ok fid
    captured := nonNegativeNumber_ok cap
    layout := valid
    layoutMedia := mapping_ok lay ▸ embedsMedia_get clear
    encoding := encodingOf_ok enc
    widthPx := positiveInt_ok wid
    heightPx := positiveInt_ok hei
    byteLength := positiveInt_ok len
    target := targetOf_ok tar clear }

end

section
variable {m : FrameMetadata}

/-- The names of the payload, with the target of a calibration frame. -/
theorem names_asPayload : m.asPayload.map (·.1) =
    ["type", "protocol_version", "session_id", "video_id", "frame_id", "sequence",
      "captured_at_mono_ms", "video_time_ms", "playback_epoch", "layout"] ++
    (if m.calibrationTarget.isSome then ["calibration_target"] else []) ++ ["camera_frame"] := by
  unfold FrameMetadata.asPayload FrameMetadata.targetMember
  cases m.calibrationTarget with
  | none => rfl
  | some marker => rfl

theorem sameNames_asPayload : Value.sameNames
    ((m.asPayload.map (·.1)).filter (· ≠ "calibration_target")) FrameMetadata.frameFields = true := by
  rw [names_asPayload]
  cases m.calibrationTarget.isSome with
  | false => decide +kernel
  | true => decide +kernel

theorem embedsMediaMembers_append (more : Members) : embedsMediaMembers (payload ++ more) =
    (embedsMediaMembers payload || embedsMediaMembers more) := by
  induction payload with
  | nil => rfl
  | cons m rest ih =>
    obtain ⟨key, child⟩ := m
    rw [List.cons_append, embedsMediaMembers, embedsMediaMembers, ih]
    simp only [Bool.or_assoc]

/-- No name of the format is a name of embedded media. -/
theorem embedsMedia_asPayload (accepted : m.Accepted) : embedsMedia (.dict m.asPayload) = false := by
  have names : ∀ key ∈ "calibration_target" :: FrameMetadata.frameFields ++ FrameMetadata.cameraFields,
      namesMedia key = false := by decide +kernel
  have scalar {key : String} {v : Value} {rest : Members} (listed : namesMedia key = false)
      (plain : embedsMedia v = false) (clear : embedsMediaMembers rest = false) :
      embedsMediaMembers ((key, v) :: rest) = false := by
    rw [embedsMediaMembers, listed, plain, clear]
    rfl
  have camera : embedsMedia (.dict m.cameraPayload) = false := by
    rw [embedsMedia, FrameMetadata.cameraPayload]
    refine scalar (names _ ?_) rfl (scalar (names _ ?_) rfl (scalar (names _ ?_) rfl
      (scalar (names _ ?_) rfl rfl)))
    all_goals decide
  have target : embedsMediaMembers (FrameMetadata.targetMember m.calibrationTarget) = false := by
    cases found : m.calibrationTarget with
    | none => rfl
    | some marker => exact scalar (names _ List.mem_cons_self) (accepted.target marker found).2 rfl
  have context : embedsMediaMembers ([("type", .str "frame"), ("protocol_version", .str "1.0")] ++
      asContextPayload m.context) = false := by
    refine scalar (names _ ?_) rfl (scalar (names _ ?_) rfl (scalar (names _ ?_) rfl
      (scalar (names _ ?_) rfl (scalar (names _ ?_) rfl (scalar (names _ ?_) rfl
      (scalar (names _ ?_) rfl (scalar (names _ ?_) rfl (scalar (names _ ?_) rfl rfl))))))))
    all_goals decide
  rw [embedsMedia, FrameMetadata.asPayload, embedsMediaMembers_append, embedsMediaMembers_append,
    embedsMediaMembers_append, context, target]
  rw [scalar (names _ (by decide)) accepted.layoutMedia rfl, scalar (names _ (by decide)) camera rfl]
  rfl

theorem contextOf_asPayload (accepted : m.Accepted) :
    FrameMetadata.contextOf m.asPayload = .ok m.context := by
  have text {name : String} {s : String} (legal : Api.isIdentifier s = true)
      (found : Value.get m.asPayload name = .str s) : identifier m.asPayload name = .ok s := by
    rw [identifier, found]
    exact if_pos legal
  have whole {name : String} {n : ℕ} (found : Value.get m.asPayload name = .int n) :
      nonNegativeInt m.asPayload name = .ok n := by
    rw [nonNegativeInt, found]
  have captured : nonNegativeNumber m.asPayload "captured_at_mono_ms" =
      .ok m.context.capturedAtMonoMs := by
    have found : Value.get m.asPayload "captured_at_mono_ms" =
      .float (.finite m.context.capturedAtMonoMs) := rfl
    simp only [nonNegativeNumber, found]
    exact if_neg (not_lt.2 accepted.captured)
  unfold FrameMetadata.contextOf
  rw [Api.bind_ok (text accepted.sessionId rfl), Api.bind_ok (text accepted.videoId rfl),
    Api.bind_ok (text accepted.frameId rfl), Api.bind_ok (whole rfl), Api.bind_ok captured,
    Api.bind_ok (whole rfl), Api.bind_ok (whole rfl)]
  rfl

/-- The members after the ones every frame has. -/
theorem get_target : Value.get m.asPayload "camera_frame" = .dict m.cameraPayload ∧
    ∀ marker, m.calibrationTarget = some marker →
      Value.get m.asPayload "calibration_target" = .dict marker := by
  unfold FrameMetadata.asPayload FrameMetadata.targetMember
  refine ⟨?_, fun marker found => ?_⟩
  · cases m.calibrationTarget with
    | none => rfl
    | some marker => rfl
  · rw [found]
    rfl

theorem targetOf_asPayload (accepted : m.Accepted) :
    FrameMetadata.targetOf m.asPayload = .ok m.calibrationTarget := by
  unfold FrameMetadata.targetOf
  cases found : m.calibrationTarget with
  | none =>
    rw [names_asPayload, found, if_neg (by decide +kernel)]
  | some marker =>
    have listed : "calibration_target" ∈ m.asPayload.map (·.1) := by
      rw [names_asPayload, found]
      exact List.mem_append_left _ (List.mem_append_right _ List.mem_cons_self)
    rw [if_pos listed, get_target.2 marker found, (accepted.target marker found).1]
    rfl

theorem camera_asPayload (accepted : m.Accepted) :
    FrameMetadata.encodingOf m.cameraPayload = .ok m.encoding ∧
    positiveInt m.cameraPayload "width_px" = .ok m.widthPx ∧
    positiveInt m.cameraPayload "height_px" = .ok m.heightPx ∧
    positiveInt m.cameraPayload "byte_length" = .ok m.byteLength := by
  have positive {name : String} {n : ℕ} (pos : 0 < n)
      (found : Value.get m.cameraPayload name = .int n) :
      positiveInt m.cameraPayload name = .ok n := by
    obtain ⟨k, rfl⟩ := Nat.exists_eq_succ_of_ne_zero pos.ne'
    rw [positiveInt, found]
  refine ⟨?_, positive accepted.widthPx rfl, positive accepted.heightPx rfl,
    positive accepted.byteLength rfl⟩
  have found : Value.get m.cameraPayload "encoding" = .str m.encoding := rfl
  rw [FrameMetadata.encodingOf, found]
  exact if_pos accepted.encoding

/-- **Metadata that was accepted is accepted again.** -/
theorem fromPayload_asPayload (accepted : m.Accepted) :
    FrameMetadata.fromPayload m.asPayload = .ok m := by
  have layout : FrameMetadata.mapping m.asPayload "layout" "frame layout is required" =
      .ok m.layout := rfl
  have camera : FrameMetadata.mapping m.asPayload "camera_frame" "camera_frame metadata is required" =
      .ok m.cameraPayload := by
    rw [FrameMetadata.mapping, get_target.1]
  obtain ⟨encoding, width, height, length⟩ := camera_asPayload accepted
  have media : (!embedsMedia (.dict m.asPayload)) = true := by
    rw [embedsMedia_asPayload accepted]
    rfl
  have head : FrameMetadata.checkHead m.asPayload = .ok () :=
    Api.bind_eq_ok_iff.2 ⟨(), require_eq_ok_iff.2 sameNames_asPayload, require_eq_ok_iff.2 rfl⟩
  refine Api.bind_eq_ok_iff.2 ⟨(), head, Api.bind_eq_ok_iff.2 ⟨(), require_eq_ok_iff.2 media, ?_⟩⟩
  rw [FrameMetadata.readFields]
  rw [Api.bind_ok (contextOf_asPayload accepted), Api.bind_ok layout, Api.bind_ok accepted.layout,
    Api.bind_ok camera]
  refine Api.bind_eq_ok_iff.2 ⟨(), require_eq_ok_iff.2 rfl, ?_⟩
  rw [Api.bind_ok encoding, Api.bind_ok width, Api.bind_ok height, Api.bind_ok length,
    Api.bind_ok (targetOf_asPayload accepted)]
  rfl

end

/-! ## The frame -/

theorem fromBigEndian_bigEndian {n : ℕ} (small : n ≤ maxMetadataBytes) :
    fromBigEndian (bigEndian n) = n := by
  unfold maxMetadataBytes at small
  simp only [bigEndian, fromBigEndian, List.map_cons, List.map_nil, List.foldl_cons, List.foldl_nil,
    UInt8.toNat_ofNat']
  omega

section
variable {loads : String → Option Value} {dumps : Value → String} {message : Bytes} {max : ℕ}
  {frame : DecodedBinaryFrame}

/-- What `decode_binary_frame` makes sure of. -/
theorem decodeBinaryFrame_ok (h : decodeBinaryFrame loads message max = .ok frame) :
    frame.metadata.Accepted ∧ frame.metadata.byteLength = frame.imageBytes.length ∧
      frame.imageBytes.length ≤ max := by
  simp only [decodeBinaryFrame, Api.bind_eq_ok_iff, require_eq_ok_iff, pure, Except.pure,
    Except.ok.injEq] at h
  obtain ⟨_, -, _, -, _, -, _, -, _, fits, payload, -, metadata, read, _, same, rfl⟩ := h
  exact ⟨fromPayload_accepted read, beq_iff_eq.1 same, of_decide_eq_true fits⟩

/-- Where the parts of a message stand. -/
theorem frame_parts {header image : Bytes} (fits : header.length ≤ maxMetadataBytes) :
    (magic ++ bigEndian header.length ++ header ++ image).length = 8 + (header.length + image.length) ∧
    fromBigEndian (((magic ++ bigEndian header.length ++ header ++ image).drop 4).take 4) =
      header.length ∧
    ((magic ++ bigEndian header.length ++ header ++ image).drop 8).take header.length = header ∧
    (magic ++ bigEndian header.length ++ header ++ image).drop (8 + header.length) = image := by
  have four : magic.length = 4 := rfl
  have size : (bigEndian header.length).length = 4 := rfl
  have prefixed : (magic ++ bigEndian header.length ++ header ++ image).drop 8 = header ++ image := by
    rw [List.append_assoc, List.append_assoc, ← List.append_assoc]
    exact List.drop_left' (by simp [four, size])
  have stated : ((magic ++ bigEndian header.length ++ header ++ image).drop 4).take 4 =
      bigEndian header.length := rfl
  refine ⟨?_, ?_, ?_, ?_⟩
  · simp only [List.length_append, four, size]
    omega
  · rw [stated, fromBigEndian_bigEndian fits]
  · rw [prefixed, List.take_left]
  · rw [← List.drop_drop, prefixed, List.drop_left]

/-- The parts of a message come back. -/
theorem decodeBinaryFrame_parts {header image : Bytes} {limit : ℕ} {payload : Members}
    {metadata : FrameMetadata} (fits : header.length ≤ maxMetadataBytes)
    (room : image.length ≤ limit) (json : readMetadata loads header = .ok payload)
    (read : FrameMetadata.fromPayload payload = .ok metadata)
    (same : metadata.byteLength = image.length) :
    decodeBinaryFrame loads (magic ++ bigEndian header.length ++ header ++ image) limit =
      .ok ⟨metadata, image⟩ := by
  obtain ⟨length, stated, head, tail⟩ := @frame_parts header image fits
  have long : decide (8 ≤ (magic ++ bigEndian header.length ++ header ++ image).length) = true := by
    rw [length]
    exact decide_eq_true (by omega)
  refine Api.bind_eq_ok_iff.2 ⟨(), require_eq_ok_iff.2 long, ?_⟩
  refine Api.bind_eq_ok_iff.2 ⟨(), require_eq_ok_iff.2 rfl, ?_⟩
  rw [stated]
  refine Api.bind_eq_ok_iff.2 ⟨(), require_eq_ok_iff.2 (decide_eq_true fits), ?_⟩
  refine Api.bind_eq_ok_iff.2 ⟨(), require_eq_ok_iff.2 (decide_eq_true (by rw [length]; omega)), ?_⟩
  rw [head, tail]
  refine Api.bind_eq_ok_iff.2 ⟨(), require_eq_ok_iff.2 (decide_eq_true room), ?_⟩
  rw [Api.bind_ok json, Api.bind_ok read]
  refine Api.bind_eq_ok_iff.2 ⟨(), require_eq_ok_iff.2 (beq_iff_eq.2 same), ?_⟩
  rfl

/-- **A frame survives being written again.** What the Gateway accepted is sent to the Eye worker in
a form `decode_binary_frame` reads as the same frame, under any limit its image keeps, once the
header fits and JSON reads back what it wrote; and metadata that was read is read again from its own
payload. -/
theorem frame_survives (loads : String → Option Value) (dumps : Value → String) :
    (∀ message max frame limit, decodeBinaryFrame loads message max = .ok frame →
      loads (dumps (.dict frame.metadata.asPayload)) = some (.dict frame.metadata.asPayload) →
      (utf8Encode (dumps (.dict frame.metadata.asPayload))).length ≤ maxMetadataBytes →
      limit = max ∨ frame.imageBytes.length ≤ limit →
      ∃ body, inferBody dumps frame = .ok body ∧ decodeBinaryFrame loads body limit = .ok frame) ∧
    ∀ payload m, FrameMetadata.fromPayload payload = .ok m →
      FrameMetadata.fromPayload m.asPayload = .ok m := by
  refine ⟨fun message max frame limit read json fits room => ?_, fun payload m read => ?_⟩
  · obtain ⟨accepted, same, within⟩ := decodeBinaryFrame_ok read
    refine ⟨_, if_neg (not_lt.2 fits), ?_⟩
    refine decodeBinaryFrame_parts fits ?_ ?_ (fromPayload_asPayload accepted) same
    · rcases room with rfl | room
      · exact within
      · exact room
    · rw [readMetadata, utf8Decode_utf8Encode, Option.bind_some, json]
  · exact fromPayload_asPayload (fromPayload_accepted read)

end

/-- A calibration frame whose header gives the moment of capture as an integer. -/
def smallMetadata : FrameMetadata where
  context :=
    { sessionId := "visitor-a", videoId := "video-0001", frameId := "frame-0001", sequence := 3,
      capturedAtMonoMs := 1200, videoTimeMs := 0, playbackEpoch := 0 }
  layout :=
    let rect : Value := .dict [("x_px", .int 0), ("y_px", .float (.finite (1 / 2))),
      ("width_px", .int 640), ("height_px", .int 360)]
    [("viewport_width_px", .int 640), ("viewport_height_px", .int 360), ("source_width_px", .int 1280),
      ("source_height_px", .int 720), ("object_fit", .str "contain"), ("element_rect", rect),
      ("content_rect", rect)]
  encoding := "image/jpeg"
  widthPx := 640
  heightPx := 480
  byteLength := 4
  calibrationTarget := some [("calibration_id", .str "calibration-0001"),
    ("target_id", .str "target-2"), ("presented_at_mono_ms", .int 1100)]

def smallPayload : Members :=
  smallMetadata.asPayload.map fun (name, v) =>
    if name = "captured_at_mono_ms" then (name, .int 1200) else (name, v)

theorem fromPayload_smallPayload : FrameMetadata.fromPayload smallPayload = .ok smallMetadata := by
  rfl

/-- The header of the frame, with the text of the moment of capture. -/
def smallHeader (captured : String) : String :=
  ("\x7b\"type\":\"frame\",\"protocol_version\":\"1.0\",\"session_id\":\"visit" ++
    "or-a\",\"video_id\":\"video-0001\",\"frame_id\":\"frame-0001\",\"seque" ++
    "nce\":3,\"captured_at_mono_ms\":") ++
    captured ++
  (",\"video_time_ms\":0,\"playback_epoch\":0,\"layout\":\x7b\"viewport_wi" ++
    "dth_px\":640,\"viewport_height_px\":360,\"source_width_px\":1280," ++
    "\"source_height_px\":720,\"object_fit\":\"contain\",\"element_rect\"" ++
    ":\x7b\"x_px\":0,\"y_px\":0.5,\"width_px\":640,\"height_px\":360\x7d,\"conte" ++
    "nt_rect\":\x7b\"x_px\":0,\"y_px\":0.5,\"width_px\":640,\"height_px\":360" ++
    "\x7d\x7d,\"calibration_target\":\x7b\"calibration_id\":\"calibration-0001\"" ++
    ",\"target_id\":\"target-2\",\"presented_at_mono_ms\":1100\x7d,\"camera" ++
    "_frame\":\x7b\"encoding\":\"image/jpeg\",\"width_px\":640,\"height_px\":" ++
    "480,\"byte_length\":4\x7d\x7d")

/-- What the JSON module does on the headers of the frame: it writes the moment as a float. -/
def smallLoads (text : String) : Option Value :=
  if text = smallHeader "1200" then some (.dict smallPayload)
  else if text = smallHeader "1200.0" then some (.dict smallMetadata.asPayload)
  else none

def smallDumps (_ : Value) : String := smallHeader "1200.0"

def smallImage : Bytes := [0xff, 0xd8, 0xff, 0xd9]

def smallMessage : Bytes :=
  let header := utf8Encode (smallHeader "1200")
  magic ++ bigEndian header.length ++ header ++ smallImage

theorem smallHeader_sizes : (smallHeader "1200").utf8ByteSize = 654 ∧
    (smallHeader "1200.0").utf8ByteSize = 656 := by
  decide +kernel

theorem frame_survives_small :
    decodeBinaryFrame smallLoads smallMessage 524288 = .ok ⟨smallMetadata, smallImage⟩ ∧
    ∃ body, inferBody smallDumps ⟨smallMetadata, smallImage⟩ = .ok body ∧
      decodeBinaryFrame smallLoads body 524288 = .ok ⟨smallMetadata, smallImage⟩ := by
  obtain ⟨short, long⟩ := smallHeader_sizes
  have other : smallHeader "1200.0" ≠ smallHeader "1200" := by
    intro same
    rw [same, short] at long
    cases long
  have json : readMetadata smallLoads (utf8Encode (smallHeader "1200")) = .ok smallPayload := by
    rw [readMetadata, utf8Decode_utf8Encode, Option.bind_some, smallLoads, if_pos rfl]
  have again : smallLoads (smallDumps (.dict smallMetadata.asPayload)) =
      some (.dict smallMetadata.asPayload) := by
    rw [smallDumps, smallLoads, if_neg other, if_pos rfl]
  have fits : (utf8Encode (smallHeader "1200")).length ≤ maxMetadataBytes := by
    change (smallHeader "1200").utf8ByteSize ≤ 65535
    omega
  have fits' : (utf8Encode (smallDumps (.dict smallMetadata.asPayload))).length ≤ maxMetadataBytes := by
    change (smallHeader "1200.0").utf8ByteSize ≤ 65535
    omega
  have read : decodeBinaryFrame smallLoads smallMessage 524288 = .ok ⟨smallMetadata, smallImage⟩ :=
    decodeBinaryFrame_parts fits (by decide) json fromPayload_smallPayload rfl
  exact ⟨read, (frame_survives smallLoads smallDumps).1 _ _ _ _ read again fits' (.inl rfl)⟩

end Mkk.Gateway
