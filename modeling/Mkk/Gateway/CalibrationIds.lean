import Mkk.Api.CompleteFailures
import Mkk.Gateway.ControlAnswers
import Mkk.Gateway.WireErrors
import Mkk.Lib.JsValue

/-!
# Calibration ids

The `calibration_id` of a calibration is its `request_id` behind a prefix, and that of an unavailable one a
longer prefix with the `request_id` or its digest. Only the second keeps the limit of an identifier:
`calibration_ids_accepted` says on which runs every id is one.
-/

namespace Mkk.Gateway

open Lib Lib.Lts Lib.Base64

/-- The calibration a message of the Gateway names. -/
def GatewayMessage.calibrationId : GatewayMessage → Option String
  | .controlResult _ _ _ _ calibrationId => calibrationId
  | _ => none

/-- The ids that were put in a `control_result`. -/
def Connection.answeredIds (s : Connection) : List String := s.sent.filterMap (·.calibrationId)

/-- These, and the id the Eye worker was given for the calibration that is running. -/
def Connection.calibrationIds (s : Connection) : List String :=
  s.answeredIds ++ (s.calibrationTask.map (·.calibrationId)).toList

/-- `requireIdentifier` of the Kiosk. -/
def requireIdentifier (value : JsValue) (name : String) : Except String String :=
  match value with
  | .string s => if Api.isIdentifier s then .ok s else .error (name ++ " is invalid.")
  | _ => .error (name ++ " is invalid.")

/-- A `calibration_target`. -/
def targetMarker (calibrationId targetId : String) (presentedAt : Value) : Members :=
  [("calibration_id", .str calibrationId), ("target_id", .str targetId),
    ("presented_at_mono_ms", presentedAt)]

/-- An id passes each of the checks that are made of it. -/
structure Accepted (calibrationId : String) : Prop where
  pattern : Api.isIdentifier calibrationId = true
  marker : ∀ targetId presentedAt, Api.isIdentifier targetId = true →
    numberBetween presentedAt 0 (10 ^ 15) = .ok true →
    validateTargetMarker (.dict (targetMarker calibrationId targetId presentedAt)) =
      .ok (targetMarker calibrationId targetId presentedAt)
  reply : requireIdentifier (.string calibrationId) "calibration_id" = .ok calibrationId

def Connection.IdsAccepted (s : Connection) : Prop := ∀ id ∈ s.calibrationIds, Accepted id

/-- `hexdigest()[:16]`. -/
structure ShortDigest (digest : String) : Prop where
  length : digest.length = 16
  hex : ∀ c ∈ digest.toList, Api.isHexDigit c = true

/-- What the server hands to the handler: nothing else is read. -/
inductive FromWire (loads : String → Except LoadsError Value) (maxFrameBytes : ℕ) : Incoming → Prop where
  | disconnect : FromWire loads maxFrameBytes .disconnect
  | binary (room : ℕ) (message : Bytes) :
    FromWire loads maxFrameBytes (binaryIncoming loads room message maxFrameBytes)
  | text (text : String) : FromWire loads maxFrameBytes (textIncoming loads text)
  | other : FromWire loads maxFrameBytes .other

/-- A message that arrives is one of the server's. -/
def Wired (loads : String → Except LoadsError Value) (maxFrameBytes : ℕ) (step : ConnectionStep) : Prop :=
  ∀ message, step = .receive message → FromWire loads maxFrameBytes message

/-- The `start_calibration` a step begins a calibration with. -/
def Connection.begins (s : Connection) (step : ConnectionStep) : Option ControlMessage :=
  (s.takes step).filter fun message => message.action = .startCalibration && s.calibrationTask.isNone

/-- Its `request_id` leaves room for the prefix. -/
def Fits (s : Connection) (step : ConnectionStep) : Prop :=
  ∀ message, s.begins step = some message → message.requestId.length ≤ 116

/-! ## The checks -/

section

variable {id requestId : String}

theorem isIdentifier_chars (h : Api.isIdentifier id = true) :
    ∀ c ∈ id.toList, Api.isIdentifierChar c = true := by
  unfold Api.isIdentifier at h
  intro c member
  cases chars : id.toList with
  | nil =>
    rw [chars] at member
    cases member
  | cons first rest =>
    rw [chars] at h member
    simp only [Bool.and_eq_true] at h
    rcases List.mem_cons.1 member with rfl | later
    · rw [Api.isIdentifierChar, h.1.1, Bool.true_or]
    · exact List.all_eq_true.1 h.1.2 c later

theorem isIdentifier_length (h : Api.isIdentifier id = true) : id.length ≤ 128 := by
  unfold Api.isIdentifier at h
  rw [← String.length_toList]
  cases chars : id.toList with
  | nil => exact Nat.zero_le _
  | cons first rest =>
    rw [chars] at h
    simp only [Bool.and_eq_true, decide_eq_true_eq] at h
    exact h.2

/-- The prefix of a calibration leaves 116 characters. -/
theorem isIdentifier_calibration_iff (h : Api.isIdentifier requestId = true) :
    Api.isIdentifier ("calibration-" ++ requestId) = true ↔ requestId.length ≤ 116 := by
  have prefixed : ("calibration-" ++ requestId).length = 12 + requestId.length :=
    String.length_append _ _
  constructor
  · intro identified
    have short := isIdentifier_length identified
    omega
  · intro short
    refine Api.isIdentifier_append (by decide) (isIdentifier_chars h) ?_
    rw [show "calibration-".length = 12 from rfl]
    omega

/-- The id of an unavailable calibration always is an identifier. -/
theorem isIdentifier_unavailable {settings : Settings}
    (digests : ∀ requestId, ShortDigest (settings.digest requestId))
    (h : Api.isIdentifier requestId = true) :
    Api.isIdentifier (calibrationUnavailableId settings requestId) = true := by
  have length : calibrationUnavailablePrefix.length = 24 := by decide
  unfold calibrationUnavailableId
  split
  next short =>
    rw [length] at short
    refine Api.isIdentifier_append (by decide) (isIdentifier_chars h) ?_
    omega
  next long =>
    refine Api.isIdentifier_append (by decide)
      (fun c member => Api.isIdentifierChar_of_hex ((digests requestId).hex c member)) ?_
    rw [length, (digests requestId).length]
    omega

/-- The three checks agree. -/
theorem accepted_iff : Accepted id ↔ Api.isIdentifier id = true := by
  refine ⟨fun h => h.pattern, fun identified => ⟨identified, fun targetId presentedAt target inside => ?_, ?_⟩⟩
  · have passes : (Value.sameNames ((targetMarker id targetId presentedAt).map (·.1))
        ["calibration_id", "target_id", "presented_at_mono_ms"] &&
        isId (Value.get (targetMarker id targetId presentedAt) "calibration_id") &&
        isId (Value.get (targetMarker id targetId presentedAt) "target_id")) = true := by
      rw [Bool.and_eq_true, Bool.and_eq_true]
      exact ⟨⟨by rfl, identified⟩, target⟩
    have read : Value.get (targetMarker id targetId presentedAt) "presented_at_mono_ms" = presentedAt := rfl
    unfold validateTargetMarker
    simp only [passes, read, inside]
    rfl
  · rw [requireIdentifier, if_pos identified]

end

/-! ## What a step names -/

/-- The ids a step answers with, and the calibration that runs after it. -/
structure Names (settings : Settings) (s : Connection) (step : ConnectionStep) (t : Connection) : Prop where
  received : ∀ control, t.received = some (.text (some control)) →
    s.received = some (.text (some control)) ∨ step = .receive (.text (some control))
  answered : ∀ id ∈ t.answeredIds, id ∈ s.answeredIds ∨
    (∃ task, s.calibrationTask = some task ∧
      (id = task.calibrationId ∨ id = calibrationUnavailableId settings task.requestId)) ∨
    ∃ control, s.received = some (.text (some control)) ∧
      id = calibrationUnavailableId settings control.requestId
  task : ∀ task, t.calibrationTask = some task →
    (∃ before, s.calibrationTask = some before ∧ before.requestId = task.requestId ∧
      before.calibrationId = task.calibrationId) ∨
    ∃ control, s.begins step = some control ∧ s.received = some (.text (some control)) ∧
      task.requestId = control.requestId ∧ task.calibrationId = "calibration-" ++ control.requestId

/-- Nothing is named and no calibration begun. -/
structure Unnamed (s t : Connection) : Prop where
  received : t.received = s.received ∨ t.received = none
  answered : t.answeredIds = s.answeredIds
  task : t.calibrationTask = s.calibrationTask ∨ t.calibrationTask = none

section

variable {settings : Settings} {s t u : Connection} {step : ConnectionStep} {rateAt acceptAt : ℚ}

theorem Unnamed.names (h : Unnamed s t) : Names settings s step t where
  received := fun control received => by
    rcases h.received with same | none
    · exact .inl (same ▸ received)
    · rw [none] at received
      cases received
  answered := fun id member => .inl (h.answered ▸ member)
  task := fun task running => by
    rcases h.task with same | none
    · exact .inl ⟨task, same ▸ running, rfl, rfl⟩
    · rw [none] at running
      cases running

theorem answeredIds_send (s : Connection) (m : GatewayMessage) :
    (s.send m).answeredIds = s.answeredIds ++ m.calibrationId.toList := by
  unfold Connection.answeredIds Connection.send
  rw [List.filterMap_append]
  cases named : m.calibrationId with
  | none => rw [List.filterMap_cons_none named, List.filterMap_nil, Option.toList_none]
  | some id => rw [List.filterMap_cons_some named, List.filterMap_nil, Option.toList_some]

/-- After a change of what is not named. -/
theorem Unnamed.of (received : t.received = s.received ∨ t.received = none) (sent : t.sent = s.sent)
    (task : t.calibrationTask = s.calibrationTask ∨ t.calibrationTask = none) : Unnamed s t :=
  ⟨received, by rw [Connection.answeredIds, sent, Connection.answeredIds], task⟩

theorem Unnamed.send (h : Unnamed s t) {m : GatewayMessage} (none : m.calibrationId = none) :
    Unnamed s (t.send m) :=
  ⟨h.received, by rw [answeredIds_send, none, Option.toList_none, List.append_nil, h.answered], h.task⟩

theorem Unnamed.finish (h : Unnamed s t) {reason : HandlerEnd} : Unnamed s (t.finish reason) :=
  ⟨h.received, h.answered, h.task⟩

theorem Unnamed.afterPart (h : Unnamed s t) {process message : Bool} :
    Unnamed s (t.afterPart process message) := ⟨h.received, h.answered, h.task⟩

theorem Unnamed.close (h : Unnamed s t) {code : ℕ} {text : String} {reason : HandlerEnd} :
    Unnamed s (t.close code text reason) := (h.send rfl).finish

theorem Unnamed.protocolError (h : Unnamed s t) : Unnamed s t.protocolError := (h.send rfl).close

theorem Unnamed.closeNormally (h : Unnamed s t) {requestId : String} :
    Unnamed s (t.closeNormally requestId) := (h.send rfl).close

theorem Unnamed.binaryMessage (h : Unnamed s t) {decoded : Except DecodeError DecodedBinaryFrame} :
    Unnamed s (t.binaryMessage settings decoded rateAt acceptAt) := by
  unfold Connection.binaryMessage
  split
  · exact h.close
  · exact h.protocolError
  · exact h.finish
  · split
    next binary _ =>
      have taken : Unnamed s { t with taken := t.taken ++ [binary.metadata.context] } :=
        ⟨h.received, h.answered, h.task⟩
      unfold Connection.takeFrame
      dsimp only
      split
      · exact taken.send rfl
      · split_ifs
        · exact taken.send rfl
        · exact taken.send rfl
        · exact taken.send rfl
        · exact taken.send rfl
        · exact ⟨h.received, h.answered, h.task⟩
    · exact h.protocolError

theorem Unnamed.stopSession (h : Unnamed s t) {requestId : String} :
    Unnamed s (t.stopSession settings requestId) := by
  have ended : Unnamed s (if t.calibrationTask.isSome then t.endCalibration settings else t) := by
    split
    · exact ⟨h.received, h.answered, .inr rfl⟩
    · exact h
  unfold Connection.stopSession
  generalize (if t.calibrationTask.isSome then t.endCalibration settings else t) = next at ended ⊢
  dsimp only
  split
  · exact ended.closeNormally
  · exact ⟨ended.received, ended.answered, ended.task⟩

theorem begins_of_takes {control : ControlMessage} (takes : s.takes step = some control)
    (action : control.action = .startCalibration) (free : s.calibrationTask = none) :
    s.begins step = some control := by
  rw [Connection.begins, takes, Option.filter_some, if_pos]
  rw [action, free]
  rfl

theorem names_startCalibration {control : ControlMessage}
    (received : s.received = some (.text (some control)))
    (begins : s.calibrationTask = none → s.begins step = some control)
    (h : Unnamed s t) (running : t.calibrationTask = s.calibrationTask) :
    Names settings s step (t.startCalibration settings control.requestId) := by
  have quiet : Names settings s step t := h.names
  unfold Connection.startCalibration
  split
  · refine ⟨quiet.received, fun id member => ?_, quiet.task⟩
    rw [answeredIds_send, h.answered] at member
    rcases List.mem_append.1 member with before | now
    · exact .inl before
    · cases List.mem_singleton.1 now
      exact .inr (.inr ⟨control, received, rfl⟩)
  next free =>
    rw [Bool.not_eq_true, Option.isSome_eq_false_iff, Option.isNone_iff_eq_none, running] at free
    refine ⟨quiet.received, fun id member => ?_, fun task begun => ?_⟩
    · exact .inl (h.answered ▸ member)
    · cases begun
      exact .inr ⟨control, begins free, received, rfl, rfl⟩

theorem names_messagePart (stage : s.stage = .handling false false true) :
    Names settings s (.handle rateAt acceptAt) (s.messagePart settings rateAt acceptAt) := by
  have next : Unnamed s { s with received := none, stage := .select } := .of (.inr rfl) rfl (.inl rfl)
  unfold Connection.messagePart
  dsimp only
  split
  · exact next.names
  · exact next.finish.names
  · exact next.binaryMessage.names
  next control received =>
    have takes : s.takes (.handle rateAt acceptAt) = some control := by
      unfold Connection.takes
      rw [stage, received]
    unfold Connection.controlMessage
    split
    · unfold Connection.startInference
      split
      · exact (next.send rfl).names
      · refine Unnamed.names (Unnamed.send ?_ rfl)
        exact .of (.inr rfl) rfl (.inl rfl)
    · refine Unnamed.names (Unnamed.send ?_ rfl)
      exact .of (.inr rfl) rfl (.inl rfl)
    next action =>
      exact names_startCalibration received (fun free => begins_of_takes takes action free) next rfl
    · exact next.stopSession.names
  · exact next.protocolError.names
  · exact next.finish.names
  · exact next.names

theorem names_calibrationPart {process message : Bool} {calibration : CalibrationTask}
    {result : Except TaskError (Bool × Option String)} {before : CalibrationTask}
    (running : s.calibrationTask = some before) (requestId : before.requestId = calibration.requestId)
    (calibrationId : before.calibrationId = calibration.calibrationId) :
    Names settings s step (s.calibrationPart settings process message calibration result) := by
  have ended (valid : Bool) (reason : Option String) {t : Connection}
      (h : Unnamed ((s.endCalibration settings).send
        (.controlResult calibration.requestId .startCalibration valid reason
          (some (if valid then calibration.calibrationId
            else calibrationUnavailableId settings calibration.requestId)))) t) :
      Names settings s step t := by
    have received : t.received = s.received ∨ t.received = none := h.received
    have task : t.calibrationTask = none := h.task.elim id id
    refine ⟨fun control arrived => ?_, fun id member => ?_, fun later running => ?_⟩
    · rcases received with same | none
      · exact .inl (same ▸ arrived)
      · rw [none] at arrived
        cases arrived
    · rw [h.answered, answeredIds_send] at member
      rcases List.mem_append.1 member with earlier | now
      · exact .inl earlier
      · cases List.mem_singleton.1 now
        refine .inr (.inl ⟨before, running, ?_⟩)
        split
        · exact .inl calibrationId.symm
        · exact .inr (congrArg _ requestId.symm)
    · rw [task] at running
      cases running
  have same {t : Connection} : Unnamed t t := .of (.inl rfl) rfl (.inl rfl)
  unfold Connection.calibrationPart
  dsimp only
  split
  · exact ended _ _ same.closeNormally
  · exact ended _ _ same.afterPart

/-- **What a step names.** -/
theorem names_step (h : connectionStep settings s step = some t) : Names settings s step t := by
  cases step with
  | receive message =>
    dsimp only [connectionStep] at h
    split_ifs at h
    cases h
    refine ⟨fun control arrived => .inr ?_, fun id member => .inl member, fun task running =>
      .inl ⟨task, running, rfl, rfl⟩⟩
    cases arrived
    rfl
  | calibrated result =>
    obtain ⟨calibration, running, h⟩ := Option.bind_eq_some_iff.1 h
    split_ifs at h
    cases h
    refine ⟨fun control arrived => .inl arrived, fun id member => .inl member, fun task later => .inl ?_⟩
    cases later
    exact ⟨calibration, running, rfl, rfl⟩
  | frame j move =>
    obtain ⟨p, -, h⟩ := Option.bind_eq_some_iff.1 h
    obtain ⟨q, -, rfl⟩ := Option.map_eq_some_iff.1 h
    exact Unnamed.names (.of (.inl rfl) rfl (.inl rfl))
  | wake =>
    dsimp only [connectionStep, Connection.wake] at h
    split_ifs at h
    cases h
    exact Unnamed.names (.of (.inl rfl) rfl (.inl rfl))
  | handle rateAt acceptAt =>
    dsimp only [connectionStep, Connection.handle] at h
    split at h
    · split at h
      next running =>
        cases h
        exact names_calibrationPart running rfl rfl
      · cases h
    next message _ =>
      split at h
      next process found =>
        split at h
        next outcome ended =>
          cases h
          have idle : Unnamed s { s with processTask := none } := .of (.inl rfl) rfl (.inl rfl)
          refine Unnamed.names ?_
          unfold Connection.processPart
          split
          · exact idle.finish
          · dsimp only
            split
            · exact (idle.send rfl).closeNormally
            · exact (idle.send rfl).afterPart
        · cases h
      · cases h
    next stage =>
      cases h
      exact names_messagePart stage
    · cases h

/-- The id of a calibration that is begun is given to the Eye worker. -/
theorem calibrationId_of_begins {control : ControlMessage} (h : connectionStep settings s step = some t)
    (begins : s.begins step = some control) : "calibration-" ++ control.requestId ∈ t.calibrationIds := by
  obtain ⟨takes, begun⟩ := Option.filter_eq_some_iff.1 begins
  simp only [Bool.and_eq_true, decide_eq_true_eq, Option.isNone_iff_eq_none] at begun
  obtain ⟨action, free⟩ := begun
  unfold Connection.takes at takes
  split at takes
  next rateAt acceptAt message stage received =>
    cases takes
    dsimp only [connectionStep, Connection.handle] at h
    rw [stage] at h
    cases h
    unfold Connection.messagePart
    rw [received]
    dsimp only
    unfold Connection.controlMessage
    rw [action]
    dsimp only
    unfold Connection.startCalibration
    rw [if_neg (by rw [free]; nofun)]
    exact List.mem_append_right _ (List.mem_singleton_self _)
  · cases takes

/-! ## Runs -/

/-- What is known of the ids of a connection. -/
structure Identified (s : Connection) : Prop where
  received : ∀ control, s.received = some (.text (some control)) →
    Api.isIdentifier control.requestId = true
  task : ∀ task, s.calibrationTask = some task → Api.isIdentifier task.requestId = true
  ids : s.IdsAccepted

variable {loads : String → Except LoadsError Value} {maxFrameBytes : ℕ}

theorem Connection.IdsAccepted.task (h : s.IdsAccepted) {task : CalibrationTask}
    (running : s.calibrationTask = some task) : Api.isIdentifier task.calibrationId = true := by
  refine (h task.calibrationId (List.mem_append_right _ ?_)).pattern
  rw [running]
  exact List.mem_singleton_self _

/-- `_control_message` only accepts a `request_id` that is an identifier. -/
theorem isIdentifier_of_wire {control : ControlMessage}
    (h : FromWire loads maxFrameBytes (.text (some control))) : Api.isIdentifier control.requestId = true := by
  generalize message : Incoming.text (some control) = arrived at h
  cases h with
  | disconnect => cases message
  | binary room bytes =>
    unfold binaryIncoming at message
    split at message <;> cases message
  | text text =>
    unfold textIncoming at message
    split at message
    next requestId action payload read =>
      cases message
      unfold Gateway.controlMessage at read
      obtain ⟨members, -, read⟩ := Api.bind_eq_ok_iff.1 read
      rw [reading_eq_ok_iff] at read
      unfold readControl at read
      obtain ⟨_, -, read⟩ := Api.bind_eq_ok_iff.1 read
      obtain ⟨_, -, read⟩ := Api.bind_eq_ok_iff.1 read
      obtain ⟨found, checked, read⟩ := Api.bind_eq_ok_iff.1 read
      obtain ⟨_, -, read⟩ := Api.bind_eq_ok_iff.1 read
      obtain ⟨_, -, read⟩ := Api.bind_eq_ok_iff.1 read
      cases read
      unfold controlRequestId at checked
      split at checked
      · split_ifs at checked with identified
        cases checked
        exact identified
      · cases checked
    · split_ifs at message
      cases message
  | other => cases message

theorem Identified.start : Identified settings.start := ⟨nofun, nofun, nofun⟩

/-- A step after which the ids are identifiers begins no calibration with a long `request_id`. -/
theorem Identified.fits (known : Identified s) (h : connectionStep settings s step = some t)
    (after : t.IdsAccepted) : Fits s step := by
  intro control begins
  have requested : Api.isIdentifier control.requestId = true := by
    obtain ⟨takes, -⟩ := Option.filter_eq_some_iff.1 begins
    unfold Connection.takes at takes
    split at takes
    next received =>
      cases takes
      exact known.received _ received
    · cases takes
  exact (isIdentifier_calibration_iff requested).1 (after _ (calibrationId_of_begins h begins)).pattern

/-- A step that begins none with a long `request_id` keeps the ids identifiers. -/
theorem identified_step (digests : ∀ requestId, ShortDigest (settings.digest requestId))
    (known : Identified s) (wired : Wired loads maxFrameBytes step) (fits : Fits s step)
    (h : connectionStep settings s step = some t) : Identified t := by
  have names := names_step h
  refine ⟨fun control arrived => ?_, fun task running => ?_, fun id member => accepted_iff.2 ?_⟩
  · rcases names.received control arrived with before | now
    · exact known.received control before
    · exact isIdentifier_of_wire (wired _ now)
  · rcases names.task task running with ⟨before, earlier, same, -⟩ | ⟨control, -, received, same, -⟩
    · exact same ▸ known.task before earlier
    · exact same ▸ known.received control received
  · rcases List.mem_append.1 member with answered | named
    · rcases names.answered id answered with before | ⟨task, running, rfl | rfl⟩ | ⟨control, received, rfl⟩
      · exact (known.ids id (List.mem_append_left _ before)).pattern
      · exact known.ids.task running
      · exact isIdentifier_unavailable digests (known.task task running)
      · exact isIdentifier_unavailable digests (known.received control received)
    · obtain ⟨task, running, rfl⟩ := Option.map_eq_some_iff.1 (Option.mem_toList.1 named)
      rcases names.task task running with ⟨before, earlier, -, same⟩ | ⟨control, begins, received, -, same⟩
      · exact same ▸ known.ids.task earlier
      · rw [same, isIdentifier_calibration_iff (known.received control received)]
        exact fits control begins

/-- **Which calibration ids are identifiers.** In every run in which a calibration is only begun with a
`request_id` of at most 116 characters, every `calibration_id` in a `control_result` or at the Eye worker
passes the checks of the Gateway and the Kiosk; the first step that begins one with a longer `request_id`
breaks that. -/
theorem calibration_ids_accepted (settings : Settings) (loads : String → Except LoadsError Value)
    (maxFrameBytes : ℕ) (digests : ∀ requestId, ShortDigest (settings.digest requestId)) :
    ∀ ls c, Steps (connectionStep settings)
      (fun s step => Wired loads maxFrameBytes step ∧ Fits s step) settings.start ls c →
      c.IdsAccepted ∧ ∀ step d, Wired loads maxFrameBytes step → connectionStep settings c step = some d →
        (d.IdsAccepted ↔ Fits c step) := by
  intro ls c run
  have known : Identified c := run.invariant (P := Identified)
    (fun s step t before guarded h => identified_step digests before guarded.1 guarded.2 h) .start
  exact ⟨known.ids, fun step d wired h =>
    ⟨fun after => known.fits h after, fun fits => (identified_step digests known wired fits h).ids⟩⟩

end

/-! ## Two runs -/

/-- The text of a `start_calibration`. -/
def calibrationText (requestId : String) : String :=
  "\x7b\"type\":\"control\",\"protocol_version\":\"1.0\",\"request_id\":\"" ++ requestId ++
    "\",\"action\":\"start_calibration\",\"payload\":\x7b\"pattern_id\":\"nine-point-v1\",\"points\":" ++
    "[[0.5,0.5]]\x7d\x7d"

/-- The value of this text. -/
def calibrationValue (requestId : String) : Value :=
  .dict [("type", .str "control"), ("protocol_version", .str "1.0"), ("request_id", .str requestId),
    ("action", .str "start_calibration"), ("payload", .dict [("pattern_id", .str "nine-point-v1"),
      ("points", .list [.list [.float (.finite (1 / 2)), .float (.finite (1 / 2))]])])]

/-- What `json.loads` does on these texts, and on digits. -/
def loadsCalibrations (requestIds : List String) (text : String) : Except LoadsError Value :=
  match requestIds.find? (calibrationText · == text) with
  | some requestId => .ok (calibrationValue requestId)
  | none => loadsDigits text

/-- A `request_id` of this length. -/
def longId (length : ℕ) : String := String.ofList (List.replicate length 'c')

/-- A session in which the digest of `longId 128` is known. -/
def digestSettings : Settings := { visitorSettings true with digest := fun _ => "e5dc28d67309c1f3" }

theorem shortDigest_settings (requestId : String) : ShortDigest (digestSettings.digest requestId) := by
  change ShortDigest "e5dc28d67309c1f3"
  have hex : "e5dc28d67309c1f3".toList.all Api.isHexDigit = true := by decide +kernel
  exact ⟨by rfl, List.all_eq_true.1 hex⟩

/-- A control message arrives as text and the handler deals with it. -/
def sends (requestIds : List String) (requestId : String) : List ConnectionStep :=
  arrives (textIncoming (loadsCalibrations requestIds) (calibrationText requestId)) 0

/-- A run of messages that the server hands over. -/
theorem steps_wired {G : Connection → ConnectionStep → Prop} {settings : Settings}
    {loads : String → Except LoadsError Value} {maxFrameBytes : ℕ} {s t : Connection}
    {ls : List ConnectionStep} (run : Steps (connectionStep settings) G s ls t)
    (wired : ∀ step ∈ ls, Wired loads maxFrameBytes step) :
    Steps (connectionStep settings) (fun s step => Wired loads maxFrameBytes step ∧ G s step) s ls t := by
  induction run with
  | nil => exact .nil _
  | cons guarded moved _ ih =>
    refine .cons ⟨wired _ (List.mem_cons_self), guarded⟩ moved (ih fun step later => ?_)
    exact wired step (List.mem_cons_of_mem _ later)

theorem wired_sends (requestIds : List String) (requestId : String) :
    ∀ step ∈ sends requestIds requestId, Wired (loadsCalibrations requestIds) 524288 step := by
  intro step member message arrived
  subst arrived
  rcases List.mem_cons.1 member with same | later
  · cases same
    exact .text _
  · rcases List.mem_cons.1 later with same | last
    · cases same
    · cases List.mem_singleton.1 last

/-- The ids of a running calibration, and of one with a long `request_id` that has to wait for it. -/
theorem calibration_ids_accepted_twice : ∃ c : Connection, c.IdsAccepted ∧
    c.calibrationIds = ["calibration-unavailable-e5dc28d67309c1f3", "calibration-control-1"] := by
  have reached : ∃ c, Steps (connectionStep digestSettings) Fits digestSettings.start
      (sends ["control-1", longId 128] "control-1" ++ sends ["control-1", longId 128] (longId 128)) c ∧
      decide (c.calibrationIds =
        ["calibration-unavailable-e5dc28d67309c1f3", "calibration-control-1"]) = true := by
    refine exists_guarded_steps_of_any
      (fun s step => (s.begins step).all fun control => decide (control.requestId.length ≤ 116))
      (fun s step short control begins => ?_) (by decide +kernel)
    rw [begins] at short
    exact of_decide_eq_true short
  obtain ⟨c, run, named⟩ := reached
  refine ⟨c, (calibration_ids_accepted digestSettings (loadsCalibrations ["control-1", longId 128]) 524288
    shortDigest_settings _ c (steps_wired run fun step member => ?_)).1, of_decide_eq_true named⟩
  rcases List.mem_append.1 member with first | second
  · exact wired_sends _ _ step first
  · exact wired_sends _ _ step second

/-- The Eye worker is given an id of 129 characters. -/
theorem calibration_id_too_long : ¬∀ (settings : Settings) (loads : String → Except LoadsError Value)
    (maxFrameBytes : ℕ), (∀ requestId, ShortDigest (settings.digest requestId)) → ∀ ls c,
    Steps (connectionStep settings) (fun _ step => Wired loads maxFrameBytes step) settings.start ls c →
    c.IdsAccepted := by
  intro claim
  have reached : ∃ c, Steps (connectionStep digestSettings) Free digestSettings.start
      (sends [longId 117] (longId 117)) c ∧
      decide (("calibration-" ++ longId 117) ∈ c.calibrationIds) = true :=
    exists_steps_of_any (by decide +kernel)
  obtain ⟨c, run, named⟩ := reached
  have accepted := claim digestSettings (loadsCalibrations [longId 117]) 524288
    shortDigest_settings _ c ((steps_wired run (wired_sends _ _)).mono fun _ _ g => g.1)
    _ (of_decide_eq_true named)
  exact absurd accepted.pattern (by decide +kernel)

end Mkk.Gateway
