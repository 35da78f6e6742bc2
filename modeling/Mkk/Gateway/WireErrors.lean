import Mkk.Gateway.Connection
import Mkk.Gateway.MediaScan

/-!
# Errors of malformed messages

The readers of a binary frame and of a control message with every exception they raise. `_handle` ends
in a close on a `VisionStreamProtocolError` and catches no other. Three others are reachable: `json.loads`
raises a plain `ValueError` on an integer of too many digits, `math.isfinite` an `OverflowError` on
an integer beyond the largest double, and the look for embedded media a `RecursionError` on a header that
nests deep. `malformed_input_handled` says on which messages they are.
-/

namespace Mkk.Gateway

open Lib Lib.Base64 Mkk.Common Mkk.Eye

/-- What `json.loads` raises: a `JSONDecodeError`, the plain `ValueError` of an integer of too many
digits, or a `RecursionError`. -/
inductive LoadsError where
  | decode
  | value
  | recursion
deriving DecidableEq

/-! ## The readers -/

/-- The checks of `decode_binary_frame` before it reads the header; it goes on with the header and the
image. -/
def splitFrame (message : Bytes) (maxFrameBytes : ℕ) : Except DecodeError (Bytes × Bytes) := do
  require (8 ≤ message.length) (.protocol "binary frame prefix is invalid")
  require (message.take 4 == magic) (.protocol "binary frame magic is invalid")
  let metadataLength := fromBigEndian ((message.drop 4).take 4)
  require (metadataLength ≤ maxMetadataBytes) (.tooLarge "frame metadata is too large")
  require (8 + metadataLength ≤ message.length) (.protocol "binary frame metadata is truncated")
  let imageBytes := message.drop (8 + metadataLength)
  require (imageBytes.length ≤ maxFrameBytes) (.tooLarge "binary frame is too large")
  return ((message.drop 8).take metadataLength, imageBytes)

/-- What `from_payload` reads after the look for media, and the last check of the frame. -/
def readImage (payload : Members) (imageBytes : Bytes) : Except DecodeError DecodedBinaryFrame := do
  let metadata ← FrameMetadata.readFields payload
  require (metadata.byteLength == imageBytes.length)
    (.protocol "binary frame payload length does not match metadata")
  return { metadata, imageBytes }

/-- The metadata of a header's object, and the last check of the frame. -/
def readFrame (room : ℕ) (payload : Members) (imageBytes : Bytes) :
    Except WireError DecodedBinaryFrame := do
  reading (FrameMetadata.checkHead payload)
  rejectEmbeddedMedia room (.dict payload)
  reading (readImage payload imageBytes)

/-- A value that has to be an object. -/
def asObject (v : Value) (text : String) : Except DecodeError Members :=
  match v with
  | .dict members => .ok members
  | _ => .error (.protocol text)

/-- The action of a control message. -/
def controlActions : List (String × ControlAction) :=
  [("start_calibration", .startCalibration), ("start_inference", .startInference),
    ("stop_inference", .stopInference), ("stop_session", .stopSession)]

/-- `action`, if it is in `_CONTROL_ACTIONS`. -/
def actionOf (v : Value) : Except DecodeError ControlAction :=
  let invalid : DecodeError := .protocol "control action is invalid"
  match v with
  | .str s =>
    match controlActions.lookup s with
    | some action => .ok action
    | none => .error invalid
  | _ => .error invalid

/-- A number of a point, which Python compares exactly. -/
def inUnit : Value → Bool
  | .int n => decide (0 ≤ n ∧ n ≤ 1)
  | .float (.finite q) => decide (0 ≤ q ∧ q ≤ 1)
  | _ => false

def isUnitPoint : Value → Bool
  | .list [x, y] => inUnit x && inUnit y
  | _ => false

/-- `_validate_calibration_payload`. -/
def validateCalibrationPayload (payload : Value) : Except DecodeError Members := do
  let members ← asObject payload "calibration payload is invalid"
  require (Value.sameNames (members.map (·.1)) ["pattern_id", "points"])
    (.protocol "calibration payload is invalid")
  require (isId (Value.get members "pattern_id")) (.protocol "calibration pattern_id is invalid")
  match Value.get members "points" with
  | .list points => do
    require (1 ≤ points.length && points.length ≤ 64 && points.all isUnitPoint)
      (.protocol "calibration points are invalid")
    return members
  | _ => .error (.protocol "calibration points are invalid")

/-- `_CONTROL_FIELDS`. -/
def controlFields : List String := ["type", "protocol_version", "request_id", "action", "payload"]

/-- `request_id`. -/
def controlRequestId (control : Members) : Except DecodeError String :=
  match Value.get control "request_id" with
  | .str s => if Api.isIdentifier s then .ok s else .error (.protocol "control request_id is invalid")
  | _ => .error (.protocol "control request_id is invalid")

/-- The payload of a calibration; no other action has one. -/
def controlPayload (control : Members) : ControlAction → Except DecodeError (Option Members)
  | .startCalibration => some <$> validateCalibrationPayload (Value.get control "payload")
  | _ => do
    require (!(control.map (·.1)).contains "payload") (.protocol "control payload is not allowed")
    return none

/-- The checks of `_control_message` on the object. -/
def readControl (control : Members) : Except DecodeError (String × ControlAction × Option Members) := do
  require ((control.map (·.1)).all (controlFields.contains ·))
    (.protocol "control message has unknown fields")
  require ((Value.get control "type").isText "control" &&
    (Value.get control "protocol_version").isText "1.0") (.protocol "control message is invalid")
  let requestId ← controlRequestId control
  let action ← actionOf (Value.get control "action")
  let payload ← controlPayload control action
  return (requestId, action, payload)

section
variable (loads : String → Except LoadsError Value)

/-- `json.loads` where only a `JSONDecodeError` is caught. -/
def parseJson (text invalid : String) : Except WireError Value :=
  match loads text with
  | .ok v => .ok v
  | .error .decode => .error (.reader (.protocol invalid))
  | .error .value => .error .value
  | .error .recursion => .error .recursion

/-- The value of a header; a `UnicodeDecodeError` is caught as well. -/
def parseHeader (header : Bytes) : Except WireError Value :=
  match utf8Decode header with
  | none => .error (.reader (.protocol "binary frame metadata is not valid JSON"))
  | some text => parseJson loads text "binary frame metadata is not valid JSON"

/-- `decode_binary_frame`, on a stack with room for this many calls of `_reject_embedded_media` one
inside another. -/
def decodeFrame (room : ℕ) (message : Bytes) (maxFrameBytes : ℕ) :
    Except WireError DecodedBinaryFrame := do
  let (header, imageBytes) ← reading (splitFrame message maxFrameBytes)
  let raw ← parseHeader loads header
  let payload ← reading (asObject raw "binary frame metadata must be an object")
  readFrame room payload imageBytes

/-- `_json_message`. -/
def jsonMessage (text : String) : Except WireError Members := do
  let value ← parseJson loads text "text message is not valid JSON"
  reading (asObject value "text message must be an object")

/-- `_control_message`. -/
def controlMessage (text : String) : Except WireError (String × ControlAction × Option Members) := do
  let control ← jsonMessage loads text
  reading (readControl control)

/-- A binary message as the handler reads it. -/
def binaryIncoming (room : ℕ) (message : Bytes) (maxFrameBytes : ℕ) : Incoming :=
  match decodeFrame loads room message maxFrameBytes with
  | .ok frame => .binary (.ok frame)
  | .error (.reader e) => .binary (.error e)
  | .error .value => .unreadable
  | .error .recursion => .unreadable

/-- A text message as the handler reads it. -/
def textIncoming (text : String) : Incoming :=
  match controlMessage loads text with
  | .ok (requestId, action, payload) =>
    let pattern := payload.bind fun members =>
      match Value.get members "pattern_id" with
      | .str s => some s
      | _ => none
    .text (some { requestId, action, pattern })
  | .error e => if e.isProtocolError then .text none else .unreadable

end

/-- `json.loads` returns, or raises the error that the readers catch. -/
def Caught (result : Except LoadsError Value) : Prop := RaisesOnly (· = .decode) result

/-- A message whose frame is well formed up to a header with this text. -/
structure HeaderText (message : Bytes) (maxFrameBytes : ℕ) (text : String) : Prop where
  long : 8 ≤ message.length
  magic : message.take 4 = magic
  small : fromBigEndian ((message.drop 4).take 4) ≤ maxMetadataBytes
  whole : 8 + fromBigEndian ((message.drop 4).take 4) ≤ message.length
  fits : (message.drop (8 + fromBigEndian ((message.drop 4).take 4))).length ≤ maxFrameBytes
  text : utf8Decode ((message.drop 8).take (fromBigEndian ((message.drop 4).take 4))) = some text

/-! ## What is handled -/

section
variable {α β : Type} {loads : String → Except LoadsError Value} {text invalid : String} {v : Value}
  {message : Bytes} {room max : ℕ}

theorem parseJson_ok_iff : parseJson loads text invalid = .ok v ↔ loads text = .ok v := by
  unfold parseJson
  split
  next w found =>
    rw [found, Except.ok.injEq, Except.ok.injEq]
  all_goals
    rename_i found
    rw [found]
    exact ⟨nofun, nofun⟩

theorem handled_parseJson_iff : Handled (parseJson loads text invalid) ↔ Caught (loads text) := by
  unfold parseJson
  split
  next w found =>
    rw [found]
    exact ⟨fun _ => raisesOnly_ok, fun _ => raisesOnly_ok⟩
  all_goals
    rename_i found
    rw [found, Handled, Caught, raisesOnly_error_iff, raisesOnly_error_iff]
  · exact ⟨fun _ => rfl, fun _ => rfl⟩
  · exact ⟨nofun, nofun⟩
  · exact ⟨nofun, nofun⟩

theorem asObject_eq_ok_iff {members : Members} : asObject v text = .ok members ↔ v = .dict members := by
  unfold asObject
  split
  · rw [Except.ok.injEq, Value.dict.injEq]
  next other => exact ⟨nofun, fun same => absurd same (other members)⟩

theorem asObject_ne_overflow : asObject v text ≠ .error .overflow := by
  unfold asObject
  split <;> exact nofun

theorem require_tooLarge_ne_overflow {condition : Bool} :
    require condition (.tooLarge text) ≠ .error .overflow := by
  unfold require
  split <;> exact nofun

theorem splitFrame_ne_overflow : splitFrame message max ≠ .error .overflow := by
  unfold splitFrame
  simp only [ne_eq, bind_eq_error_iff, require_ne_overflow, require_tooLarge_ne_overflow, pure,
    Except.pure, reduceCtorEq, false_or, and_false, exists_false, not_false_eq_true]

/-- The framing of a message passes with a header that decodes to this text. -/
theorem headerText_iff : HeaderText message max text ↔
    ∃ parts, splitFrame message max = .ok parts ∧ utf8Decode parts.1 = some text := by
  unfold splitFrame
  simp only [Api.bind_eq_ok_iff, require_eq_ok_iff, decide_eq_true_eq, beq_iff_eq, pure, Except.pure,
    Except.ok.injEq]
  constructor
  · intro h
    exact ⟨_, ⟨(), h.long, (), h.magic, (), h.small, (), h.whole, (), h.fits, rfl⟩, h.text⟩
  · rintro ⟨parts, ⟨_, long, _, magic, _, small, _, whole, _, fits, rfl⟩, text⟩
    exact ⟨long, magic, small, whole, fits, text⟩

theorem readImage_overflow_iff {payload : Members} {image : Bytes} :
    readImage payload image = .error .overflow ↔ FrameMetadata.readFields payload = .error .overflow := by
  simp only [readImage, bind_eq_error_iff, require_ne_overflow, pure, Except.pure, reduceCtorEq, and_false,
    exists_false, or_false]

theorem handled_readFrame_iff {payload : Members} {image : Bytes} :
    Handled (readFrame room payload image) ↔ ¬ScanOverflow room payload ∧ ¬FrameOverflow payload := by
  simp only [readFrame, handled_bind_iff, handled_reading_iff, reading_eq_ok_iff, checkHead_ok_iff,
    checkHead_ne_overflow, handled_rejectEmbeddedMedia_iff, rejectEmbeddedMedia_ok_iff,
    readImage_overflow_iff, frameOverflow_iff, ne_eq, not_false_eq_true, true_and, forall_const]
  constructor
  · intro h
    refine ⟨fun scan => (h scan.toLegalStart).1 scan.deep, fun ⟨head, huge⟩ => ?_⟩
    obtain ⟨fits, fields⟩ := h head.toLegalStart
    exact fields ⟨head.media, not_lt.1 fun deep => fits ((tooDeep_iff_of_clear head.media).2 deep)⟩ huge
  · rintro ⟨fits, legal⟩ start
    exact ⟨fun deep => fits ⟨start, deep⟩, fun clear huge => legal ⟨⟨start, clear.1⟩, huge⟩⟩

theorem handled_decodeFrame_iff : Handled (decodeFrame loads room message max) ↔
    ∀ text, HeaderText message max text → Caught (loads text) ∧
      ∀ payload, loads text = .ok (.dict payload) →
        ¬ScanOverflow room payload ∧ ¬FrameOverflow payload := by
  simp only [decodeFrame, handled_bind_iff, handled_reading_iff, splitFrame_ne_overflow,
    asObject_ne_overflow, reading_eq_ok_iff, asObject_eq_ok_iff, handled_readFrame_iff, ne_eq,
    not_false_eq_true, true_and]
  constructor
  · intro h text framed
    obtain ⟨parts, split, decoded⟩ := headerText_iff.1 framed
    have read : parseHeader loads parts.1 =
        parseJson loads text "binary frame metadata is not valid JSON" := by
      rw [parseHeader, decoded]
    obtain ⟨parsed, rest⟩ := h parts split
    rw [read] at parsed
    refine ⟨handled_parseJson_iff.1 parsed, fun payload found => ?_⟩
    exact rest (.dict payload) (read.trans (parseJson_ok_iff.2 found)) payload rfl
  · intro h parts split
    cases decoded : utf8Decode parts.1 with
    | none =>
      rw [parseHeader, decoded]
      refine ⟨fun e raised => ?_, nofun⟩
      cases raised
      rfl
    | some text =>
      obtain ⟨parsed, legal⟩ := h text (headerText_iff.2 ⟨parts, split, decoded⟩)
      rw [parseHeader, decoded]
      refine ⟨handled_parseJson_iff.2 parsed, fun raw found payload same => ?_⟩
      subst same
      exact legal payload (parseJson_ok_iff.1 found)

theorem validateCalibrationPayload_ne_overflow : validateCalibrationPayload v ≠ .error .overflow := by
  unfold validateCalibrationPayload
  simp only [ne_eq, bind_eq_error_iff, asObject_ne_overflow, require_ne_overflow, false_or, not_exists,
    not_and]
  intro members _ _ _ _ _
  split
  · simp only [bind_eq_error_iff, require_ne_overflow, pure, Except.pure, reduceCtorEq, and_false,
      exists_false, or_self, not_false_eq_true]
  · exact nofun

theorem controlPayload_ne_overflow {control : Members} {action : ControlAction} :
    controlPayload control action ≠ .error .overflow := by
  have other : (do
      require (!(control.map (·.1)).contains "payload") (.protocol "control payload is not allowed")
      return (none : Option Members) : Except DecodeError (Option Members)) ≠ .error .overflow := by
    simp only [ne_eq, bind_eq_error_iff, require_ne_overflow, pure, Except.pure, reduceCtorEq, and_false,
      exists_false, or_self, not_false_eq_true]
  cases action with
  | startCalibration =>
    intro raised
    rw [controlPayload] at raised
    cases read : validateCalibrationPayload (Value.get control "payload") with
    | ok members =>
      rw [read] at raised
      cases raised
    | error e =>
      rw [read] at raised
      cases raised
      exact validateCalibrationPayload_ne_overflow read
  | startInference => exact other
  | stopInference => exact other
  | stopSession => exact other

/-- No check of a control message touches the size of a number. -/
theorem readControl_ne_overflow {control : Members} : readControl control ≠ .error .overflow := by
  have requestId : controlRequestId control ≠ .error .overflow := by
    unfold controlRequestId
    split
    · split_ifs <;> exact nofun
    · exact nofun
  have action {v : Value} : actionOf v ≠ .error .overflow := by
    unfold actionOf
    dsimp only
    split
    · split <;> exact nofun
    · exact nofun
  simp only [readControl, ne_eq, bind_eq_error_iff, require_ne_overflow, requestId, action,
    controlPayload_ne_overflow, pure, Except.pure, reduceCtorEq, false_or, and_false, exists_false,
    not_false_eq_true]

theorem handled_controlMessage_iff :
    Handled (controlMessage loads text) ↔ Caught (loads text) := by
  simp only [controlMessage, jsonMessage, handled_bind_iff, handled_reading_iff, asObject_ne_overflow,
    readControl_ne_overflow, handled_parseJson_iff, ne_eq, not_false_eq_true, implies_true, and_true]

/-- The readers of a frame's object agree when the stack is deep enough. -/
theorem readFrame_ok_iff {payload : Members} {image : Bytes} {frame : DecodedBinaryFrame} :
    (∃ room, readFrame room payload image = .ok frame) ↔
      ∃ metadata, FrameMetadata.fromPayload payload = .ok metadata ∧
        metadata.byteLength = image.length ∧ ⟨metadata, image⟩ = frame := by
  simp only [readFrame, readImage, FrameMetadata.fromPayload, Api.bind_eq_ok_iff, reading_eq_ok_iff,
    rejectEmbeddedMedia_ok_iff, require_eq_ok_iff, Bool.not_eq_true', beq_iff_eq, pure, Except.pure,
    Except.ok.injEq]
  constructor
  · rintro ⟨room, _, head, _, clear, metadata, fields, _, length, same⟩
    exact ⟨metadata, ⟨(), head, (), clear.1, fields⟩, length, same⟩
  · rintro ⟨metadata, ⟨_, head, _, clear, fields⟩, length, same⟩
    exact ⟨nesting (.dict payload), (), head, (), ⟨clear, le_rfl⟩, metadata, fields, (), length, same⟩

/-- On a stack that is deep enough the reader is the one the Eye worker reads frames with, on what
`json.loads` reads. -/
theorem decodeFrame_ok_iff {frame : DecodedBinaryFrame} :
    (∃ room, decodeFrame loads room message max = .ok frame) ↔
      decodeBinaryFrame (fun text => (loads text).toOption) message max = .ok frame := by
  have header {bytes : Bytes} {payload : Members} :
      (∃ raw, parseHeader loads bytes = .ok raw ∧ raw = .dict payload) ↔
        readMetadata (fun text => (loads text).toOption) bytes = .ok payload := by
    unfold parseHeader readMetadata
    cases utf8Decode bytes with
    | none =>
      constructor
      · rintro ⟨_, failed, -⟩
        cases failed
      · intro failed
        cases failed
    | some text =>
      simp only [parseJson_ok_iff, exists_eq_right, Option.bind_some]
      cases loads text with
      | error e => constructor <;> rintro ⟨⟩
      | ok v =>
        cases v with
        | dict members =>
          simp only [Except.toOption, Except.ok.injEq, Value.dict.injEq]
        | none | bool | int | float | str | list => constructor <;> rintro ⟨⟩
  simp only [decodeFrame, decodeBinaryFrame, splitFrame, Api.bind_eq_ok_iff, reading_eq_ok_iff,
    asObject_eq_ok_iff, ← header, require_eq_ok_iff, beq_iff_eq, pure, Except.pure, Except.ok.injEq]
  constructor
  · rintro ⟨room, _, ⟨_, long, _, magic, _, small, _, whole, _, fits, rfl⟩, raw, parsed, payload, same, read⟩
    obtain ⟨metadata, fields, length, frame⟩ := readFrame_ok_iff.1 ⟨room, read⟩
    exact ⟨(), long, (), magic, (), small, (), whole, (), fits, payload, ⟨raw, parsed, same⟩, metadata,
      fields, (), length, frame⟩
  · rintro ⟨_, long, _, magic, _, small, _, whole, _, fits, payload, ⟨raw, parsed, same⟩, metadata, fields,
      _, length, frame⟩
    obtain ⟨room, read⟩ := readFrame_ok_iff.2 ⟨metadata, fields, length, frame⟩
    exact ⟨room, _, ⟨(), long, (), magic, (), small, (), whole, (), fits, rfl⟩, raw, parsed, payload, same,
      read⟩

/-- The handler ends on an exception of a reader: with a close if it catches it, without a word if not. -/
def Ends (e : WireError) (s t : Connection) : Prop :=
  if e.isProtocolError then
    (t.stage = .finished .protocolError ∨ t.stage = .finished .frameTooLarge) ∧
      ∃ code reason, t.sent.getLast? = some (.close code reason)
  else t.stage = .finished .raised ∧ t.sent = s.sent

variable {settings : Settings} {s : Connection} {rateAt acceptAt : ℚ} {e : WireError}

theorem ends_protocolError {t : Connection} (caught : e.isProtocolError = true) :
    Ends e s t.protocolError := by
  rw [Ends, if_pos caught]
  exact ⟨.inl rfl, _, _, List.getLast?_concat⟩

theorem ends_binaryIncoming (raised : decodeFrame loads room message max = .error e)
    (received : s.received = some (binaryIncoming loads room message max)) :
    Ends e s (s.messagePart settings rateAt acceptAt) := by
  rw [binaryIncoming, raised] at received
  rw [Connection.messagePart, received]
  cases e with
  | value => exact ⟨rfl, rfl⟩
  | recursion => exact ⟨rfl, rfl⟩
  | reader d =>
    cases d with
    | protocol s => exact ends_protocolError rfl
    | tooLarge s => exact ⟨.inr rfl, _, _, List.getLast?_concat⟩
    | overflow => exact ⟨rfl, rfl⟩

theorem ends_textIncoming (raised : controlMessage loads text = .error e)
    (received : s.received = some (textIncoming loads text)) :
    Ends e s (s.messagePart settings rateAt acceptAt) := by
  rw [textIncoming, raised] at received
  dsimp only at received
  split_ifs at received with caught
  · rw [Connection.messagePart, received]
    exact ends_protocolError caught
  · rw [Connection.messagePart, received, Ends, if_neg caught]
    exact ⟨rfl, rfl⟩

/-- **Which malformed messages end in a close.** Every binary message does unless its header is well
framed and `json.loads` raises an error on it that is not its own, or reads an object in which the look
for media runs out of room or whose checks get to a huge number; every text message does unless
`json.loads` raises such an error on it. On the others the exception leaves the handler, which sends
nothing. -/
theorem malformed_input_handled (loads : String → Except LoadsError Value) :
    (∀ room message max, Handled (decodeFrame loads room message max) ↔
      ∀ text, HeaderText message max text → Caught (loads text) ∧
        ∀ payload, loads text = .ok (.dict payload) →
          ¬ScanOverflow room payload ∧ ¬FrameOverflow payload) ∧
    (∀ text, Handled (controlMessage loads text) ↔ Caught (loads text)) ∧
    ∀ (settings : Settings) (s : Connection) (rateAt acceptAt : ℚ) (e : WireError),
      (∀ room message max, decodeFrame loads room message max = .error e →
        s.received = some (binaryIncoming loads room message max) →
        Ends e s (s.messagePart settings rateAt acceptAt)) ∧
      ∀ text, controlMessage loads text = .error e → s.received = some (textIncoming loads text) →
        Ends e s (s.messagePart settings rateAt acceptAt) :=
  ⟨fun _ _ _ => handled_decodeFrame_iff, fun _ => handled_controlMessage_iff, fun _ _ _ _ _ =>
    ⟨fun _ _ _ => ends_binaryIncoming, fun _ => ends_textIncoming⟩⟩

end

/-! ## Three messages -/

/-- What `json.loads` does on the digits of an integer. -/
def loadsDigits (text : String) : Except LoadsError Value :=
  let digits := text.toList
  if digits ≠ [] ∧ digits.head? ≠ some '0' ∧ digits.all Char.isDigit then
    if 4300 < digits.length then .error .value
    else .ok (.int (digits.foldl (fun n c => 10 * n + (c.toNat - 48)) 0 : ℕ))
  else .error .decode

/-- An integer of 4301 digits. -/
def longText : String := String.ofList (List.replicate 4301 '1')

/-- A frame captured at the millisecond 10^400. -/
def hugePayload : Members :=
  smallMetadata.asPayload.map fun (name, v) =>
    if name = "captured_at_mono_ms" then (name, .int (10 ^ 400)) else (name, v)

def hugeHeader : String := smallHeader (String.ofList ('1' :: List.replicate 400 '0'))

/-- An empty list in this many lists, one inside another. -/
def nested : ℕ → Value
  | 0 => .list []
  | depth + 1 => .list [nested depth]

/-- A frame whose layout is a thousand lists. -/
def deepPayload : Members :=
  { smallMetadata with calibrationTarget := none }.asPayload.map fun (name, v) =>
    if name = "layout" then (name, nested 999) else (name, v)

/-- The header of the frame, up to the lists and after them. -/
def deepHeaderEnds : String × String :=
  ("\x7b\"type\":\"frame\",\"protocol_version\":\"1.0\",\"session_id\":\"visitor-a\",\"video_id\":" ++
    "\"video-0001\",\"frame_id\":\"frame-0001\",\"sequence\":3,\"captured_at_mono_ms\":1200.0," ++
    "\"video_time_ms\":0,\"playback_epoch\":0,\"layout\":",
  ",\"camera_frame\":\x7b\"encoding\":\"image/jpeg\",\"width_px\":640,\"height_px\":480," ++
    "\"byte_length\":4\x7d\x7d")

/-- The header of the frame with this many lists. -/
def deepHeader (lists : ℕ) : String :=
  deepHeaderEnds.1 ++ String.ofList (List.replicate lists '[') ++
    String.ofList (List.replicate lists ']') ++ deepHeaderEnds.2

/-- What `json.loads` does on one header, and on digits. -/
def loadsHeader (header : String) (payload : Members) (text : String) : Except LoadsError Value :=
  if text = header then .ok (.dict payload) else loadsDigits text

/-- A frame with this header. -/
def headerMessage (header : String) : Bytes :=
  let bytes := utf8Encode header
  magic ++ bigEndian bytes.length ++ bytes ++ smallImage

theorem loadsDigits_longText : loadsDigits longText = .error .value := by
  have digits : longText.toList = List.replicate 4301 '1' := String.toList_ofList
  have legal : longText.toList ≠ [] ∧ longText.toList.head? ≠ some '0' ∧
      longText.toList.all Char.isDigit = true := by
    rw [digits]
    refine ⟨nofun, by decide, List.all_eq_true.2 fun c member => ?_⟩
    rw [List.eq_of_mem_replicate member]
    rfl
  unfold loadsDigits
  dsimp only
  rw [if_pos legal, if_pos]
  rw [digits, List.length_replicate]
  decide

theorem frameOverflow_hugePayload : FrameOverflow hugePayload := by
  refine .captured ⟨⟨by rfl, ⟨by rfl, by rfl⟩⟩, by rfl⟩ ⟨?_, 3, by rfl, Nat.zero_le _⟩
    ⟨10 ^ 400, by rfl, ?_⟩
  · exact List.forall_mem_cons.2 ⟨by rfl, List.forall_mem_cons.2 ⟨by rfl,
      List.forall_mem_singleton.2 (by rfl)⟩⟩
  · decide +kernel

theorem nested_deep (depth : ℕ) : embedsMedia (nested depth) = false ∧
    nesting (nested depth) = depth + 1 := by
  induction depth with
  | zero => exact ⟨rfl, rfl⟩
  | succ depth ih =>
    refine ⟨embedsMedia_list_iff.2 (List.forall_mem_singleton.2 ih.1), ?_⟩
    rw [nested, nesting, nestingElements, nestingElements, ih.2, Nat.max_zero]

/-- The look gets to the last of the lists, past members without media. -/
theorem scanOverflow_deepPayload : ScanOverflow 1000 deepPayload := by
  refine ⟨⟨by rfl, ⟨by rfl, by rfl⟩⟩, ?_⟩
  have before : ∀ m ∈ [("type", .str "frame"), ("protocol_version", .str "1.0")] ++
      asContextPayload smallMetadata.context,
      namesMedia m.1 = false ∧ embedsMedia m.2 = false ∧ nesting m.2 ≤ 999 := by
    decide +kernel
  refine ⟨_, ("layout", nested 999), [("camera_frame", .dict smallMetadata.cameraPayload)], by rfl,
    before, by decide +kernel, (tooDeep_iff_of_clear (nested_deep 999).1).2 ?_⟩
  rw [(nested_deep 999).2]
  decide

theorem utf8ByteSize_replicate (count : ℕ) (c : Char) :
    (String.ofList (List.replicate count c)).utf8ByteSize = count * c.utf8Size := by
  induction count with
  | zero => rw [Nat.zero_mul, List.replicate_zero, String.ofList_nil, String.utf8ByteSize_empty]
  | succ count ih =>
    rw [List.replicate_succ, String.ofList_cons, String.utf8ByteSize_append, ih,
      String.utf8ByteSize_singleton, Nat.succ_mul, Nat.add_comm]

theorem deepHeader_size {lists : ℕ} (few : lists ≤ 1000) : (deepHeader lists).utf8ByteSize ≤ 65535 := by
  have ends : deepHeaderEnds.1.utf8ByteSize + deepHeaderEnds.2.utf8ByteSize ≤ 1000 := by decide +kernel
  have opening : '['.utf8Size = 1 := rfl
  have closing : ']'.utf8Size = 1 := rfl
  rw [deepHeader, String.utf8ByteSize_append, String.utf8ByteSize_append, String.utf8ByteSize_append,
    utf8ByteSize_replicate, utf8ByteSize_replicate, opening, closing]
  omega

/-- A frame with a header that is not too long is well framed. -/
theorem headerText_headerMessage {header : String} (fits : header.utf8ByteSize ≤ 65535) :
    HeaderText (headerMessage header) 524288 header := by
  obtain ⟨length, stated, head, tail⟩ := @frame_parts (utf8Encode header) smallImage fits
  refine ⟨?_, rfl, ?_, ?_, ?_, ?_⟩
  · rw [headerMessage, length]
    omega
  · rw [headerMessage, stated]
    exact fits
  · rw [headerMessage, stated, length]
    omega
  · rw [headerMessage, stated, tail]
    decide
  · rw [headerMessage, stated, head, utf8Decode_utf8Encode]

/-- An integer of 4301 digits as a text message, a frame captured at the millisecond 10^400, and one whose
layout is a thousand lists where the stack has room for a thousand calls: the exception of each leaves
the handler. -/
theorem malformed_input_unhandled : ¬Handled (controlMessage loadsDigits longText) ∧
    ¬Handled (decodeFrame (loadsHeader hugeHeader hugePayload) 1000 (headerMessage hugeHeader) 524288) ∧
    ¬Handled (decodeFrame (loadsHeader (deepHeader 1000) deepPayload) 1000
      (headerMessage (deepHeader 1000)) 524288) := by
  have huge := @headerText_headerMessage hugeHeader (by decide +kernel)
  have deep := headerText_headerMessage (deepHeader_size (le_refl 1000))
  refine ⟨fun handled => ?_, fun handled => ?_, fun handled => ?_⟩
  · exact absurd (handled_controlMessage_iff.1 handled _ loadsDigits_longText) nofun
  · exact ((handled_decodeFrame_iff.1 handled _ huge).2 _ (if_pos rfl)).2 frameOverflow_hugePayload
  · exact ((handled_decodeFrame_iff.1 handled _ deep).2 _ (if_pos rfl)).1 scanOverflow_deepPayload

end Mkk.Gateway
