import Mkk.Gateway.Connection

/-!
# Answers to control messages

Over every run of a connection: what is answered, what waits for its answer and what was cancelled, as
multisets of the control messages that were taken up.
-/

namespace Mkk.Gateway

open Lib Lib.Lts

/-! ## What is asked and answered -/

/-- A control message by its `request_id` and action. -/
abbrev Control := String × ControlAction

def ControlMessage.control (message : ControlMessage) : Control := (message.requestId, message.action)

/-- The control message a `control_result` answers. -/
def GatewayMessage.control : GatewayMessage → Option Control
  | .controlResult requestId action _ _ _ => some (requestId, action)
  | _ => none

def CalibrationTask.control (task : CalibrationTask) : Control := (task.requestId, .startCalibration)

/-- The control messages that have been answered. -/
def Connection.replied (s : Connection) : Multiset Control := (s.sent.filterMap (·.control) : List Control)

/-- The control messages in the two slots of the handler. -/
def Connection.slots (s : Connection) : Multiset Control :=
  ((s.calibrationTask.map (·.control)).toList : Multiset Control) +
    ((s.closeRequested.map fun requestId => (requestId, .stopSession)).toList : List Control)

/-- The control messages that wait for their answer, until the connection is closed normally. -/
def Connection.awaiting (s : Connection) : Multiset Control :=
  if s.stage = .finished .normal then 0 else s.slots

/-- The control message a step takes up. -/
def Connection.takes (s : Connection) (step : ConnectionStep) : Option ControlMessage :=
  match step, s.stage, s.received with
  | .handle _ _, .handling false false true, some (.text (some message)) => some message
  | _, _, _ => none

/-- The calibration a step cancels. -/
def Connection.cancels (s : Connection) (step : ConnectionStep) : Option Control :=
  match s.takes step with
  | some message =>
    if message.action = .stopSession then s.calibrationTask.map (·.control) else none
  | none => none

/-- A connection with the control messages it took up and the calibrations it cancelled. -/
structure Conversation where
  connection : Connection
  accepted : Multiset Control := 0
  cancelled : Multiset Control := 0

/-- One step of a conversation. -/
def conversationStep (settings : Settings) (c : Conversation) (step : ConnectionStep) : Option Conversation :=
  (connectionStep settings c.connection step).map fun next =>
    { connection := next
      accepted := c.accepted + ((c.connection.takes step).map (·.control)).toList
      cancelled := c.cancelled + (c.connection.cancels step).toList }

/-- The conversation when the loop begins. -/
def Settings.conversation (settings : Settings) : Conversation := { connection := settings.start }

/-- A `stop_session` is not taken up while another one waits, and the frame one waits for does not end
while a calibration is running. -/
def SlotsFree (s : Connection) (step : ConnectionStep) : Prop :=
  (∀ message, s.takes step = some message → message.action = .stopSession → s.closeRequested = none) ∧
  (∀ rateAt acceptAt message, step = .handle rateAt acceptAt → s.stage = .handling false true message →
    s.closeRequested.isSome = true → s.calibrationTask = none)

/-! ## Parts of the handler -/

section

variable {settings : Settings} {s t u : Connection} {rateAt acceptAt : ℚ}

theorem answered_send (s : Connection) (m : GatewayMessage) :
    (s.send m).replied = s.replied + m.control.toList := by
  unfold Connection.replied Connection.send
  rw [List.filterMap_append, ← Multiset.coe_add]
  cases m <;> rfl

/-- Nothing is asked or answered, and the connection is not closed normally. -/
structure Unmoved (s t : Connection) : Prop where
  replied : t.replied = s.replied
  slots : t.slots = s.slots
  open_ : t.stage ≠ .finished .normal

theorem Unmoved.of (answered : t.replied = s.replied) (calibrationTask : t.calibrationTask = s.calibrationTask)
    (closeRequested : t.closeRequested = s.closeRequested) (stage : t.stage ≠ .finished .normal) :
    Unmoved s t :=
  ⟨answered, by unfold Connection.slots; rw [calibrationTask, closeRequested], stage⟩

theorem Unmoved.trans (h : Unmoved s t) (h' : Unmoved t u) : Unmoved s u :=
  ⟨h'.replied.trans h.replied, h'.slots.trans h.slots, h'.open_⟩

theorem Unmoved.send {m : GatewayMessage} (stage : s.stage ≠ .finished .normal) (none : m.control = none) :
    Unmoved s (s.send m) := by
  refine .of ?_ rfl rfl stage
  rw [answered_send, none]
  exact add_zero _

theorem Unmoved.finish {reason : HandlerEnd} (other : reason ≠ .normal) : Unmoved s (s.finish reason) :=
  .of rfl rfl rfl fun same => other (HandlerStage.finished.inj same)

theorem Unmoved.close {code : ℕ} {text : String} {reason : HandlerEnd} (other : reason ≠ .normal) :
    Unmoved s (s.close code text reason) := by
  refine .of ?_ rfl rfl fun same => other (HandlerStage.finished.inj same)
  exact (answered_send s _).trans (add_zero _)

theorem Unmoved.protocolError : Unmoved s s.protocolError := by
  refine .of ?_ rfl rfl nofun
  exact (answered_send (s.send .invalidMessage) _).trans
    ((add_zero _).trans ((answered_send s _).trans (add_zero _)))

/-- A binary message asks and answers nothing. -/
theorem unmoved_binaryMessage (stage : s.stage ≠ .finished .normal)
    (decoded : Except DecodeError DecodedBinaryFrame) :
    Unmoved s (s.binaryMessage settings decoded rateAt acceptAt) := by
  unfold Connection.binaryMessage
  split
  · exact .close nofun
  · exact .protocolError
  · exact .finish nofun
  · split
    · rename_i binary _
      have dropped (reason : DropReason) (retryable : Bool) : Unmoved s ({ s with
          taken := s.taken ++ [binary.metadata.context] }.drop binary.metadata.context reason retryable) := by
        exact .of ((answered_send _ _).trans (add_zero _)) rfl rfl stage
      unfold Connection.takeFrame
      dsimp only
      split
      · exact dropped _ _
      · split_ifs
        · exact dropped _ _
        · exact dropped _ _
        · exact dropped _ _
        · exact dropped _ _
        · exact .of rfl rfl rfl stage
    · exact .protocolError

/-- What is asked by a step is answered, waits or is cancelled, but for what is lost. -/
structure Balanced (s t : Connection) (taken cancelled lost : Multiset Control) : Prop where
  balance : s.replied + s.awaiting + taken = t.replied + t.awaiting + cancelled + lost

theorem Unmoved.balanced (h : Unmoved s t) (stage : s.stage ≠ .finished .normal) : Balanced s t 0 0 0 := by
  constructor
  unfold Connection.awaiting
  rw [if_neg stage, if_neg h.open_, h.replied, h.slots, add_zero, add_zero]

theorem answered_closeNormally (s : Connection) (requestId : String) :
    (s.closeNormally requestId).replied = s.replied + {(requestId, .stopSession)} := by
  unfold Connection.closeNormally Connection.close
  exact (answered_send _ _).trans ((add_zero _).trans (answered_send _ _))

theorem awaiting_closeNormally (s : Connection) (requestId : String) :
    (s.closeNormally requestId).awaiting = 0 := if_pos rfl

theorem awaiting_of_open (stage : s.stage ≠ .finished .normal) : s.awaiting = s.slots := if_neg stage

/-- `start_inference` and `stop_inference` are answered at once. -/
theorem balanced_answer (stage : s.stage ≠ .finished .normal) (same : t.replied = s.replied)
    (slots : t.slots = s.slots) (open_ : t.stage ≠ .finished .normal) {m : GatewayMessage} {control : Control}
    (answers : m.control = some control) : Balanced s (t.send m) {control} 0 0 := by
  constructor
  rw [awaiting_of_open stage, awaiting_of_open (s := t.send m) open_, answered_send, answers, same,
    show (t.send m).slots = t.slots from rfl, slots, add_zero, add_zero, add_right_comm]
  rfl

theorem balanced_startCalibration (stage : s.stage ≠ .finished .normal) (requestId : String) :
    Balanced s (s.startCalibration settings requestId) {(requestId, .startCalibration)} 0 0 := by
  unfold Connection.startCalibration
  split
  · exact balanced_answer stage rfl rfl stage rfl
  next free =>
    rw [Bool.not_eq_true, Option.isSome_eq_false_iff, Option.isNone_iff_eq_none] at free
    constructor
    rw [awaiting_of_open stage, awaiting_of_open (by exact stage)]
    unfold Connection.slots Connection.replied
    rw [free, add_zero, add_zero, add_assoc]
    refine congrArg (_ + ·) ?_
    rw [Option.map_none, Option.toList_none, Multiset.coe_nil, zero_add, add_comm]
    rfl

/-- `stop_session` ends the calibration that is running, and may take the place of another. -/
theorem balanced_stopSession (stage : s.stage ≠ .finished .normal) (requestId : String) :
    Balanced s (s.stopSession settings requestId) {(requestId, .stopSession)}
      (s.calibrationTask.map (·.control)).toList
      ((s.closeRequested.map fun requestId => (requestId, .stopSession)).toList : List Control) := by
  have ended : (if s.calibrationTask.isSome then s.endCalibration settings else s).replied = s.replied ∧
      (if s.calibrationTask.isSome then s.endCalibration settings else s).calibrationTask = none ∧
      (if s.calibrationTask.isSome then s.endCalibration settings else s).stage = s.stage := by
    split
    · exact ⟨rfl, rfl, rfl⟩
    next free =>
      rw [Bool.not_eq_true, Option.isSome_eq_false_iff, Option.isNone_iff_eq_none] at free
      exact ⟨rfl, free, rfl⟩
  unfold Connection.stopSession
  generalize (if s.calibrationTask.isSome then s.endCalibration settings else s) = next at ended ⊢
  obtain ⟨answered, calibration, same⟩ := ended
  constructor
  rw [awaiting_of_open stage]
  unfold Connection.slots
  dsimp only
  split
  · rw [answered_closeNormally, awaiting_closeNormally, answered]
    abel
  · have open_ : ({ next with closeRequested := some requestId } : Connection).awaiting =
        {(requestId, .stopSession)} := by
      rw [awaiting_of_open (s := { next with closeRequested := some requestId }) (same.trans_ne stage)]
      unfold Connection.slots
      rw [show ({ next with closeRequested := some requestId } : Connection).calibrationTask = none from
        calibration, Option.map_none, Option.toList_none, Multiset.coe_nil, zero_add]
      rfl
    rw [open_, show ({ next with closeRequested := some requestId } : Connection).replied = s.replied from
      answered]
    abel

theorem balanced_controlMessage (stage : s.stage ≠ .finished .normal) (message : ControlMessage) :
    Balanced s (s.controlMessage settings message) {message.control}
      (if message.action = .stopSession then (s.calibrationTask.map (·.control)).toList else [] : List Control)
      (if message.action = .stopSession then
        ((s.closeRequested.map fun requestId => (requestId, .stopSession)).toList : List Control)
        else [] : List Control) := by
  obtain ⟨requestId, action, pattern⟩ := message
  cases action with
  | startInference =>
    change Balanced s (s.startInference requestId) {(requestId, .startInference)} 0 0
    unfold Connection.startInference
    split
    · exact balanced_answer stage rfl rfl stage rfl
    · exact balanced_answer (t := { s with inferenceStarted := true }) stage rfl rfl stage rfl
  | stopInference =>
    exact balanced_answer (t := { s with inferenceStarted := false }) stage rfl rfl stage rfl
  | startCalibration => exact balanced_startCalibration stage requestId
  | stopSession => exact balanced_stopSession stage requestId

/-- A calibration that is done is answered, and so is the `stop_session` that waits when no frame does. -/
theorem balanced_calibrationPart (stage : s.stage ≠ .finished .normal) (process message : Bool)
    {calibration : CalibrationTask} (running : (s.calibrationTask.map (·.control)) = some calibration.control)
    (result : Except TaskError (Bool × Option String)) :
    Balanced s (s.calibrationPart settings process message calibration result) 0 0 0 := by
  constructor
  have slots : s.slots = {calibration.control} +
      ((s.closeRequested.map fun requestId => (requestId, .stopSession)).toList : List Control) := by
    unfold Connection.slots
    rw [running]
    rfl
  unfold Connection.calibrationPart
  dsimp only
  rw [awaiting_of_open stage, slots]
  split
  next requestId asked idle =>
    rw [answered_closeNormally, awaiting_closeNormally, answered_send, asked]
    change _ = s.replied + {calibration.control} + {(requestId, .stopSession)} + 0 + 0 + 0
    rw [Option.map_some, Option.toList_some, Multiset.coe_singleton]
    abel
  · rw [awaiting_of_open (by unfold Connection.afterPart; dsimp only; split <;> nofun)]
    unfold Connection.afterPart
    change _ = (s.send _).replied + _ + 0 + 0
    rw [answered_send]
    unfold Connection.slots
    change s.replied + _ + 0 = s.replied + {calibration.control} + (0 + _) + 0 + 0
    abel

/-- A frame that is done answers the `stop_session` that waits for it; a calibration that is running then
is lost. -/
theorem balanced_processPart (stage : s.stage ≠ .finished .normal) (message : Bool) (process : FrameProcess)
    (outcome : Option FrameOutcome) : ∃ lost, Balanced s (s.processPart message process outcome) 0 0 lost ∧
      ((s.closeRequested.isSome = true → s.calibrationTask = none) → lost = 0) := by
  unfold Connection.processPart
  split
  · have raised : Unmoved s ({ s with processTask := none }.finish .raised) := .of rfl rfl rfl nofun
    exact ⟨0, raised.balanced stage, fun _ => rfl⟩
  · dsimp only
    split
    next requestId asked =>
      refine ⟨((s.calibrationTask.map (·.control)).toList : List Control), ⟨?_⟩, fun free => ?_⟩
      · rw [awaiting_of_open stage, answered_closeNormally, awaiting_closeNormally, answered_send]
        unfold Connection.slots
        rw [asked, Option.map_some, Option.toList_some, Multiset.coe_singleton]
        change _ = s.replied + 0 + _ + 0 + 0 + _
        abel
      · rw [free (by rw [asked]; rfl)]
        rfl
    · refine ⟨0, ?_, fun _ => rfl⟩
      have sent : Unmoved s (Connection.afterPart ({ s with processTask := none }.send
          (.frame process.context ‹_›)) false message) := by
        refine .of ((answered_send _ _).trans (add_zero _)) rfl rfl ?_
        unfold Connection.afterPart
        dsimp only
        split <;> nofun
      exact sent.balanced stage

/-! ## Steps and runs -/

variable {step : ConnectionStep}

theorem balanced_messagePart (stage : s.stage = .handling false false true) : ∃ lost,
    Balanced s (s.messagePart settings rateAt acceptAt)
      ((s.takes (.handle rateAt acceptAt)).map (·.control)).toList
      (s.cancels (.handle rateAt acceptAt)).toList lost ∧
      (SlotsFree s (.handle rateAt acceptAt) → lost = 0) := by
  have open_ : s.stage ≠ .finished .normal := by rw [stage]; nofun
  have next : Unmoved s { s with received := none, stage := .select } := .of rfl rfl rfl nofun
  have silent {u : Connection} (none : s.takes (.handle rateAt acceptAt) = none)
      (h : Unmoved { s with received := .none, stage := .select } u) :
      ∃ lost, Balanced s u ((s.takes (.handle rateAt acceptAt)).map (·.control)).toList
        (s.cancels (.handle rateAt acceptAt)).toList lost ∧
        (SlotsFree s (.handle rateAt acceptAt) → lost = 0) := by
    refine ⟨0, ?_, fun _ => rfl⟩
    unfold Connection.cancels
    rw [none]
    exact (next.trans h).balanced open_
  unfold Connection.messagePart
  dsimp only
  split
  next received =>
    exact silent (by unfold Connection.takes; rw [stage, received]) (.of rfl rfl rfl nofun)
  next received => exact silent (by unfold Connection.takes; rw [stage, received]) (.finish nofun)
  next decoded received =>
    exact silent (by unfold Connection.takes; rw [stage, received])
      (unmoved_binaryMessage (show HandlerStage.select ≠ .finished .normal from nofun) decoded)
  next message received =>
    have takes : s.takes (.handle rateAt acceptAt) = some message := by
      unfold Connection.takes
      rw [stage, received]
    have balanced := @balanced_controlMessage settings { s with received := none, stage := .select }
      (show HandlerStage.select ≠ .finished .normal from nofun) message
    have cancels : s.cancels (.handle rateAt acceptAt) =
        if message.action = .stopSession then s.calibrationTask.map (·.control) else none := by
      unfold Connection.cancels
      rw [takes]
    refine ⟨if message.action = .stopSession then
      ((s.closeRequested.map fun requestId => (requestId, .stopSession)).toList : List Control)
      else ([] : List Control), ⟨?_⟩, fun free => ?_⟩
    · rw [next.replied.symm, awaiting_of_open open_, next.slots.symm, ← awaiting_of_open next.open_, takes,
        cancels]
      refine balanced.balance.trans ?_
      by_cases stop : message.action = .stopSession
      · simp only [if_pos stop]
      · simp only [if_neg stop]
        rfl
    · by_cases stop : message.action = .stopSession
      · rw [if_pos stop, free.1 message takes stop]
        rfl
      · rw [if_neg stop]
        rfl
  next received => exact silent (by unfold Connection.takes; rw [stage, received]) .protocolError
  next received => exact silent (by unfold Connection.takes; rw [stage, received]) (.finish nofun)
  next received =>
    exact silent (by unfold Connection.takes; rw [stage, received]) (.of rfl rfl rfl nofun)

/-- What a step takes up is answered, waits or is cancelled, but for what is lost when a slot is not
free. -/
theorem balanced_step (h : connectionStep settings s step = some t) : ∃ lost,
    Balanced s t ((s.takes step).map (·.control)).toList (s.cancels step).toList lost ∧
      (SlotsFree s step → lost = 0) := by
  have quiet (answered : t.replied = s.replied) (awaiting : t.awaiting = s.awaiting) :
      Balanced s t 0 0 0 := ⟨by rw [answered, awaiting, add_zero, add_zero]⟩
  cases step with
  | receive message =>
    dsimp only [connectionStep] at h
    split_ifs at h
    cases h
    exact ⟨0, quiet rfl rfl, fun _ => rfl⟩
  | calibrated result =>
    obtain ⟨calibration, running, h⟩ := Option.bind_eq_some_iff.1 h
    split_ifs at h
    cases h
    refine ⟨0, quiet rfl ?_, fun _ => rfl⟩
    unfold Connection.awaiting Connection.slots
    rw [running]
    rfl
  | frame j move =>
    obtain ⟨p, -, h⟩ := Option.bind_eq_some_iff.1 h
    obtain ⟨q, -, rfl⟩ := Option.map_eq_some_iff.1 h
    exact ⟨0, quiet rfl rfl, fun _ => rfl⟩
  | wake =>
    dsimp only [connectionStep, Connection.wake] at h
    split_ifs at h with awake
    cases h
    refine ⟨0, quiet rfl ?_, fun _ => rfl⟩
    unfold Connection.awaiting
    rw [awake.1, if_neg nofun, if_neg nofun]
    rfl
  | handle rateAt acceptAt =>
    dsimp only [connectionStep, Connection.handle] at h
    split at h
    next process message stage =>
      have open_ : s.stage ≠ .finished .normal := by rw [stage]; nofun
      split at h
      next requestId calibrationId result running =>
        cases h
        have none : s.takes (.handle rateAt acceptAt) = none := by
          unfold Connection.takes
          rw [stage]
        refine ⟨0, ?_, fun _ => rfl⟩
        unfold Connection.cancels
        rw [none]
        exact balanced_calibrationPart open_ process message (by rw [running]; rfl) result
      · cases h
    next message stage =>
      have open_ : s.stage ≠ .finished .normal := by rw [stage]; nofun
      split at h
      next process found =>
        split at h
        next outcome ended =>
          cases h
          have none : s.takes (.handle rateAt acceptAt) = none := by
            unfold Connection.takes
            rw [stage]
          obtain ⟨lost, balanced, kept⟩ := balanced_processPart open_ message process outcome
          refine ⟨lost, ?_, fun free => kept (free.2 _ _ message rfl stage)⟩
          unfold Connection.cancels
          rw [none]
          exact balanced
        · cases h
      · cases h
    next stage =>
      cases h
      exact balanced_messagePart stage
    · cases h

variable {c d : Conversation}

/-- A step adds to what is accepted what it adds to the answers, the slots and the cancellations, and what
it loses. -/
theorem conversation_step (h : conversationStep settings c step = some d) : ∃ lost,
    c.connection.replied + c.connection.awaiting + c.cancelled + d.accepted =
      d.connection.replied + d.connection.awaiting + d.cancelled + lost + c.accepted ∧
      (SlotsFree c.connection step → lost = 0) := by
  obtain ⟨next, moved, rfl⟩ := Option.map_eq_some_iff.1 h
  obtain ⟨lost, ⟨balance⟩, free⟩ := balanced_step moved
  refine ⟨lost, ?_, free⟩
  dsimp only
  calc c.connection.replied + c.connection.awaiting + c.cancelled +
        (c.accepted + ((c.connection.takes step).map (·.control)).toList)
      = c.connection.replied + c.connection.awaiting + ((c.connection.takes step).map (·.control)).toList +
        (c.cancelled + c.accepted) := by abel
    _ = next.replied + next.awaiting + (c.connection.cancels step).toList + lost +
        (c.cancelled + c.accepted) := by rw [balance]
    _ = next.replied + next.awaiting + (c.cancelled + (c.connection.cancels step).toList) + lost +
        c.accepted := by abel

/-- Only calibrations are cancelled. -/
theorem cancelled_step (h : conversationStep settings c step = some d)
    (only : ∀ control ∈ c.cancelled, control.2 = .startCalibration) :
    ∀ control ∈ d.cancelled, control.2 = .startCalibration := by
  obtain ⟨next, -, rfl⟩ := Option.map_eq_some_iff.1 h
  intro control member
  rcases Multiset.mem_add.1 member with before | now
  · exact only control before
  · have cancels := Option.mem_toList.1 (Multiset.mem_coe.1 now)
    unfold Connection.cancels at cancels
    split at cancels
    · split at cancels
      · obtain ⟨task, -, rfl⟩ := Option.map_eq_some_iff.1 cancels
        rfl
      · cases cancels
    · cases cancels

end

/-- **Every control message is answered once.** In every run, what is answered, waits or was cancelled was
taken up, with its `request_id` and action, as often. In every run in which the slots are free when they are
taken, and no calibration is running when the frame ends that a `stop_session` waits for, what was taken up
has been answered when the connection is closed normally, but for cancelled calibrations. -/
theorem controls_answered (settings : Settings) :
    (∀ ls c, Steps (conversationStep settings) Free settings.conversation ls c →
      c.connection.replied + c.connection.awaiting + c.cancelled ≤ c.accepted ∧
      ∀ control ∈ c.cancelled, control.2 = .startCalibration) ∧
    ∀ ls c, Steps (conversationStep settings) (fun c => SlotsFree c.connection) settings.conversation ls c →
      c.accepted = c.connection.replied + c.connection.awaiting + c.cancelled ∧
      (c.connection.stage = .finished .normal → c.accepted = c.connection.replied + c.cancelled) := by
  constructor
  · intro ls c run
    refine run.invariant (P := fun c => c.connection.replied + c.connection.awaiting + c.cancelled ≤
      c.accepted ∧ ∀ control ∈ c.cancelled, control.2 = .startCalibration)
      (fun c step d known _ h => ⟨?_, cancelled_step h known.2⟩) ⟨le_rfl, nofun⟩
    obtain ⟨lost, balance, -⟩ := conversation_step h
    refine le_of_add_le_add_right (a := c.accepted) ?_
    calc d.connection.replied + d.connection.awaiting + d.cancelled + c.accepted
        ≤ d.connection.replied + d.connection.awaiting + d.cancelled + lost + c.accepted :=
          add_le_add_left (Multiset.le_add_right _ lost) _
      _ = c.connection.replied + c.connection.awaiting + c.cancelled + d.accepted := balance.symm
      _ ≤ c.accepted + d.accepted := add_le_add_left known.1 _
      _ = d.accepted + c.accepted := add_comm _ _
  · intro ls c run
    have accounted := run.invariant (P := fun c => c.accepted =
      c.connection.replied + c.connection.awaiting + c.cancelled) (fun c step d known free h => ?_) rfl
    · refine ⟨accounted, fun closed => ?_⟩
      rw [accounted, show c.connection.awaiting = 0 from if_pos closed, add_zero]
    · obtain ⟨lost, balance, kept⟩ := conversation_step h
      rw [kept free, add_zero, ← known, add_comm] at balance
      exact add_right_cancel balance

/-! ## Two runs -/

/-- A control message of a visitor arrives and the handler deals with it. -/
def asks (requestId : String) (action : ControlAction) (second : ℚ) : List ConnectionStep :=
  arrives (.text (some { requestId, action, pattern := none })) second

/-- Frame 0 ends and the handler wakes for it. -/
def frameEnds (second : ℚ) : List ConnectionStep :=
  [.frame 0 .begin, .frame 0 (.eyeDone (.error .other)), .frame 0 (.resume false), .wake,
    .handle second second]

/-- A `stop_session` cancels a calibration and waits for the frame in processing. -/
def stopsOnce : List ConnectionStep :=
  asks "control-1" .startInference 0 ++ frameArrives 1 1 ++ asks "control-2" .startCalibration 2 ++
    asks "control-3" .stopSession 3 ++ frameEnds 4

/-- The handler deals with a frame that a `stop_session` waits for. -/
def Connection.waited (s : Connection) (step : ConnectionStep) : Bool :=
  match step, s.stage with
  | .handle _ _, .handling false true _ => s.closeRequested.isSome
  | _, _ => false

instance (s : Connection) (step : ConnectionStep) : Decidable (SlotsFree s step) :=
  decidable_of_iff
    ((∀ message ∈ s.takes step, message.action = .stopSession → s.closeRequested = none) ∧
      (s.waited step = true → s.calibrationTask.isNone = true)) <| by
    refine and_congr Iff.rfl ⟨fun free rateAt acceptAt message handles stage waits => ?_, fun free => ?_⟩
    · subst handles
      unfold Connection.waited at free
      rw [stage] at free
      exact Option.isNone_iff_eq_none.1 (free waits)
    · unfold Connection.waited
      split
      · rename_i rateAt acceptAt message stage
        exact fun waits => Option.isNone_iff_eq_none.2 (free rateAt acceptAt message rfl stage waits)
      · exact fun waits => absurd waits Bool.false_ne_true

/-- Two of three control messages are answered when the connection is closed normally, and one was
cancelled. -/
theorem controls_answered_stopped : ∃ c,
    Steps (conversationStep (visitorSettings false)) (fun c => SlotsFree c.connection)
      (visitorSettings false).conversation stopsOnce c ∧
    c.accepted.card = 3 ∧ c.cancelled.card = 1 ∧
    c.accepted = c.connection.replied + c.cancelled := by
  obtain ⟨c, run, ended⟩ := exists_guarded_steps_of_any _
    (fun c step => @of_decide_eq_true (SlotsFree c.connection step) _)
    (show (runWhile (conversationStep (visitorSettings false)) _ (visitorSettings false).conversation
      stopsOnce).any (fun c => decide (c.connection.stage = .finished .normal) &&
        decide (c.accepted.card = 3) && decide (c.cancelled.card = 1)) = true by decide +kernel)
  simp only [Bool.and_eq_true, decide_eq_true_eq] at ended
  obtain ⟨⟨closed, asked⟩, cancelled⟩ := ended
  exact ⟨c, run, asked, cancelled, ((controls_answered _).2 _ c run).2 closed⟩

/-- A frame is in processing when two `stop_session` messages are taken up. -/
def stopsTwice : List ConnectionStep :=
  asks "control-1" .startInference 0 ++ frameArrives 1 1 ++ asks "control-2" .stopSession 2 ++
    asks "control-3" .stopSession 3 ++ frameEnds 4

/-- The first of two `stop_session` messages is not answered when the connection is closed normally. -/
theorem stop_session_unanswered : ¬∀ (settings : Settings) ls c,
    Steps (conversationStep settings) Free settings.conversation ls c →
    c.connection.replied + c.connection.awaiting + c.cancelled ≤ c.accepted ∧
    (c.connection.stage = .finished .normal → c.accepted = c.connection.replied + c.cancelled) := by
  intro claim
  have reached : ∃ c, Steps (conversationStep (visitorSettings false)) Free
      (visitorSettings false).conversation stopsTwice c ∧
      (decide (c.connection.stage = .finished .normal) && decide (c.accepted.card = 3) &&
        decide (c.connection.replied.card = 2) && decide (c.cancelled.card = 0)) = true :=
    exists_steps_of_any (by decide +kernel)
  obtain ⟨c, run, ended⟩ := reached
  simp only [Bool.and_eq_true, decide_eq_true_eq] at ended
  obtain ⟨⟨⟨closed, asked⟩, answered⟩, cancelled⟩ := ended
  have counted := congrArg Multiset.card ((claim _ _ c run).2 closed)
  rw [Multiset.card_add] at counted
  omega

end Mkk.Gateway
