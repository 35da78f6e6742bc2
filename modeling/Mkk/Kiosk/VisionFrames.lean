import Mkk.Kiosk.VisionClient

/-!
# Frames stay with their session

`SessionInv` ties the session of the client to the websocket that was opened for it; `Keeps` is what
every step but three leaves as it is. `frames_on_own_socket` says when each frame goes to the websocket
of its own session, `frame_on_next_session` what happens else.
-/

namespace Mkk.Kiosk

open Lib Lib.Lts
open Eye (StreamFrameContext)

/-! ## What most steps keep -/

/-- The `sendFrame` call behind a frame. -/
def ClientMessage.sender : ClientMessage → Option ℕ
  | .frame call _ _ => some call
  | _ => none

/-- The frames that were sent, with their websockets. -/
def VisionClient.sentFrames (s : VisionClient) : List (ℕ × ClientMessage) :=
  s.transmitted.filter fun sent => sent.2.sender.isSome

/-- Websockets stay with their sessions and calls with their frames, no frame is sent, and the session
stays or ends. -/
structure Keeps (s t : VisionClient) : Prop where
  sockets : t.sockets.map (·.session) = s.sockets.map (·.session)
  frames : t.frames.map (fun call => (call.context, call.socket)) =
    s.frames.map fun call => (call.context, call.socket)
  sent : t.sentFrames = s.sentFrames
  session : t.socket = s.socket ∧ t.sessionContext = s.sessionContext ∨
    t.socket = none ∧ t.sessionContext = none

section
variable {s t u : VisionClient} {i j k c : ℕ} {call : FrameCall}

theorem Keeps.refl (s : VisionClient) : Keeps s s :=
  ⟨rfl, rfl, rfl, .inl ⟨rfl, rfl⟩⟩

theorem Keeps.trans (h : Keeps s t) (h' : Keeps t u) : Keeps s u where
  sockets := h'.sockets.trans h.sockets
  frames := h'.frames.trans h.frames
  sent := h'.sent.trans h.sent
  session := by
    rcases h'.session with ⟨socket, context⟩ | none
    · rw [socket, context]
      exact h.session
    · exact .inr none

/-- A change of what `Keeps` does not read. -/
theorem Keeps.of_eq (sockets : t.sockets = s.sockets) (frames : t.frames = s.frames)
    (sent : t.transmitted = s.transmitted) (socket : t.socket = s.socket)
    (session : t.sessionContext = s.sessionContext) : Keeps s t where
  sockets := by rw [sockets]
  frames := by rw [frames]
  sent := by
    unfold VisionClient.sentFrames
    rw [sent]
  session := .inl ⟨socket, session⟩

/-- A change of what `Keeps` does not read, before a step. -/
theorem Keeps.after (h : Keeps t u) (sockets : t.sockets = s.sockets) (frames : t.frames = s.frames)
    (sent : t.transmitted = s.transmitted) (socket : t.socket = s.socket)
    (session : t.sessionContext = s.sessionContext) : Keeps s u :=
  (Keeps.of_eq sockets frames sent socket session).trans h

theorem Keeps.modifySocket {f : VisionSocket → VisionSocket} (keeps : ∀ a, (f a).session = a.session) :
    Keeps s (s.modifySocket k f) where
  sockets := map_modify_of_keeps keeps
  frames := rfl
  sent := rfl
  session := .inl ⟨rfl, rfl⟩

theorem Keeps.modifyFrame {f : FrameCall → FrameCall}
    (keeps : ∀ a, ((f a).context, (f a).socket) = (a.context, a.socket)) :
    Keeps s (s.modifyFrame j f) where
  sockets := rfl
  frames := map_modify_of_keeps keeps
  sent := rfl
  session := .inl ⟨rfl, rfl⟩

theorem Keeps.modifyStart (f : StartCall → StartCall) : Keeps s (s.modifyStart i f) :=
  .of_eq rfl rfl rfl rfl rfl

theorem Keeps.modifyControl (f : ControlCall → ControlCall) : Keeps s (s.modifyControl c f) :=
  .of_eq rfl rfl rfl rfl rfl

theorem Keeps.notify (notification : Notification) : Keeps s (s.notify notification) :=
  .of_eq rfl rfl rfl rfl rfl

/-- Another message than a frame. -/
theorem Keeps.send {message : ClientMessage} (other : message.sender = none) :
    Keeps s (s.send k message) := by
  unfold VisionClient.send
  split
  · refine ⟨rfl, rfl, ?_, .inl ⟨rfl, rfl⟩⟩
    simp [VisionClient.sentFrames, List.filter_append, other]
  · exact .refl s

/-! ## Closing -/

theorem Keeps.detachSocket : Keeps s s.detachSocket := by
  unfold VisionClient.detachSocket
  split
  · exact .refl s
  · exact .modifySocket fun _ => rfl

theorem Keeps.rejectWaiters : Keeps s s.rejectWaiters where
  sockets := rfl
  frames := map_mapIdx_of_keeps fun _ call => by split <;> rfl
  sent := rfl
  session := .inl ⟨rfl, rfl⟩

theorem Keeps.clearSessionState (none : s.socket = none) : Keeps s s.clearSessionState :=
  ⟨rfl, rfl, rfl, .inr ⟨none, rfl⟩⟩

theorem Keeps.closeBrowserSocket (socket : Option ℕ) : Keeps s (s.closeBrowserSocket socket) := by
  cases socket with
  | none => exact .refl s
  | some k =>
    refine .modifySocket fun socket => ?_
    unfold VisionSocket.close
    split <;> rfl

/-- The session of a closed client has ended. -/
theorem Keeps.ended (h : Keeps s t) : Keeps s { t with socket := none }.clearSessionState :=
  ⟨h.sockets, h.frames, h.sent, .inr ⟨rfl, rfl⟩⟩

theorem Keeps.closeSocket : Keeps s s.closeSocket := by
  unfold VisionClient.closeSocket
  dsimp only
  have waiters : Keeps s { s.detachSocket.rejectWaiters with socket := none }.clearSessionState :=
    (Keeps.detachSocket.trans .rejectWaiters).ended
  exact waiters.trans (.closeBrowserSocket s.socket)

theorem Keeps.failTransport : Keeps s s.failTransport := by
  unfold VisionClient.failTransport
  dsimp only
  exact (Keeps.rejectWaiters.trans .detachSocket).ended.trans (.closeBrowserSocket s.socket)

/-! ## Controls -/

theorem Keeps.sendControl {action : CalibrationAction} {patternId : Option String}
    (h : s.sendControl action patternId = some t) : Keeps s t := by
  unfold VisionClient.sendControl at h
  split at h
  · cases h
  · split at h
    · cases h
    · cases h
      exact (Keeps.send rfl).after rfl rfl rfl rfl rfl

theorem Keeps.startFailed : Keeps s (s.startFailed i) :=
  Keeps.closeSocket.trans (.modifyStart _)

theorem Keeps.opened (call : StartCall) : Keeps s (s.opened i k call) := by
  unfold VisionClient.opened
  dsimp only
  have waiting (f : StartCall → StartCall) :
      Keeps s { s.modifyStart i f with socketOpenWaiter := none, readyWaiter := some i } :=
    .of_eq rfl rfl rfl rfl rfl
  split
  · exact .startFailed
  · split
    · exact (waiting _).trans .startFailed
    · exact (waiting _).trans (.send rfl)

theorem Keeps.handshaken (call : StartCall) : Keeps s (s.handshaken i call) := by
  unfold VisionClient.handshaken
  split
  · exact .of_eq rfl rfl rfl rfl rfl
  · exact .startFailed

theorem Keeps.resumeStart {cancelled : Bool} {call : StartCall}
    (h : s.resumeStart i cancelled call = some t) : Keeps s t := by
  unfold VisionClient.resumeStart at h
  split at h
  · split_ifs at h
    cases h
    exact .startFailed
  · split_ifs at h
    cases h
    exact .startFailed
  · split_ifs at h
    cases h
    exact .opened call
  · split_ifs at h
    cases h
    exact .handshaken call
  · cases h

theorem Keeps.beginCalibration (patternId : String) : Keeps s (s.beginCalibration patternId) := by
  unfold VisionClient.beginCalibration
  dsimp only
  split
  · rename_i sent
    exact (Keeps.sendControl sent).after rfl rfl rfl rfl rfl
  · exact .of_eq rfl rfl rfl rfl rfl

theorem Keeps.beginInference : Keeps s s.beginInference := by
  unfold VisionClient.beginInference
  cases sent : s.sendControl .startInference none with
  | none => exact .refl s
  | some t => exact .sendControl sent

theorem Keeps.beginStop : Keeps s s.beginStop := by
  unfold VisionClient.beginStop
  split
  · rename_i none
    exact .clearSessionState none
  · split
    · exact .closeSocket
    · cases sent : s.sendControl .stopSession none with
      | none => exact .closeSocket
      | some t => exact .sendControl sent

theorem Keeps.calibrationSettled (waiter : Deferred ControlResult) :
    Keeps s (s.calibrationSettled waiter) := by
  unfold VisionClient.calibrationSettled
  split
  · exact .of_eq rfl rfl rfl rfl rfl
  · exact .of_eq rfl rfl rfl rfl rfl

theorem Keeps.inferenceSettled (waiter : Deferred ControlResult) :
    Keeps s (s.inferenceSettled waiter) := by
  unfold VisionClient.inferenceSettled
  split
  · split
    · exact .of_eq rfl rfl rfl rfl rfl
    · exact .refl s
  · exact .refl s

theorem Keeps.controlSettled (call : ControlCall) : Keeps s (s.controlSettled c call) := by
  unfold VisionClient.controlSettled
  dsimp only
  split
  · exact (Keeps.calibrationSettled _).after rfl rfl rfl rfl rfl
  · exact (Keeps.inferenceSettled _).after rfl rfl rfl rfl rfl
  · exact .of_eq rfl rfl rfl rfl rfl
  · exact Keeps.closeSocket.after rfl rfl rfl rfl rfl

/-! ## Frames and messages -/

theorem Keeps.endFrame : Keeps s (s.endFrame j) := by
  have ended : Keeps s (s.modifyFrame j fun call => { call with stage := .ended }) :=
    .modifyFrame fun _ => rfl
  exact ended.trans (.of_eq rfl rfl rfl rfl rfl)

theorem Keeps.frameFailed : Keeps s (s.frameFailed j) := by
  refine .trans (.modifyFrame fun call => ?_) .endFrame
  unfold VisionClient.catchFrame
  split <;> rfl

theorem Keeps.frameDelivered (call : FrameCall) : Keeps s (s.frameDelivered j call) := by
  unfold VisionClient.frameDelivered
  split
  · exact .endFrame
  · exact .frameFailed

theorem Keeps.settleFrame (f : Deferred FrameDeliveryResult → Deferred FrameDeliveryResult) :
    Keeps s (s.settleFrame j f) := by
  have answered : Keeps s (s.modifyFrame j fun call => { call with deferred := f call.deferred }) :=
    .modifyFrame fun _ => rfl
  exact answered.trans (.of_eq rfl rfl rfl rfl rfl)

theorem Keeps.handleReady {session : VisionSessionContext} {limit : Option ℕ}
    (h : s.handleReady session limit = some t) : Keeps s t := by
  unfold VisionClient.handleReady at h
  split at h
  · split_ifs at h
    cases h
    exact .modifyStart _
  · cases h

theorem Keeps.controlAnswered {body : Option ControlResult} (h : s.controlAnswered c body = some t) :
    Keeps s t := by
  unfold VisionClient.controlAnswered at h
  split at h
  · cases h
  · split_ifs at h
    cases h
    exact .modifyControl _

theorem Keeps.handleProgress {progress : Option (Option CalibrationProgress)}
    (h : s.handleProgress call progress = some t) : Keeps s t := by
  unfold VisionClient.handleProgress at h
  split at h
  · cases h
    exact .refl _
  · split at h
    · cases h
      exact .refl _
    · cases h
    · dsimp only at h
      split_ifs at h
      · cases h
        exact .of_eq rfl rfl rfl rfl rfl
      · cases h
        exact .of_eq rfl rfl rfl rfl rfl

theorem Keeps.handleExpression {field : SampleField} (h : s.handleExpression call field = some t) :
    Keeps s t := by
  unfold VisionClient.handleExpression at h
  split at h
  · split_ifs at h
    cases h
    exact .refl _
  · split_ifs at h
    · cases h
      exact .refl _
    · cases h
      exact .notify _

theorem Keeps.handleGaze {field : SampleField} (h : s.handleGaze call field = some t) : Keeps s t := by
  unfold VisionClient.handleGaze at h
  split at h
  · cases h
  · split_ifs at h
    · cases h
      exact .refl _
    · cases h
      exact .notify _
  · split_ifs at h
    · cases h
      exact .refl _
    · cases h
      exact .notify _

theorem Keeps.andThen {r : VisionClient × Bool} {f : VisionClient → Option VisionClient}
    (h : Keeps s r.1) (keeps : ∀ {t u}, f t = some u → Keeps t u) :
    Keeps s (VisionClient.andThen r f).1 := by
  unfold VisionClient.andThen
  split_ifs
  · split
    · rename_i done
      exact h.trans (keeps done)
    · exact h
  · exact h

theorem Keeps.handleResult (message : ResultMessage) : Keeps s (s.handleResult message).1 := by
  unfold VisionClient.handleResult
  split
  · exact .refl s
  · split_ifs
    · exact .refl s
    · refine .andThen (.andThen (.andThen (.andThen (.refl s) .handleProgress) .handleExpression)
        .handleGaze) fun done => ?_
      cases done
      exact .settleFrame _

theorem Keeps.handleDrop (frame : StreamFrameContext) (reason : Option VisionDropReason) :
    Keeps s (s.handleDrop frame reason).1 := by
  unfold VisionClient.handleDrop
  split
  · split
    · dsimp only
      exact .settleFrame _
    · exact .refl s
  · exact .refl s

theorem Keeps.handleErrorMessage (frame : Option StreamFrameContext) :
    Keeps s (s.handleErrorMessage frame) := by
  unfold VisionClient.handleErrorMessage
  split
  · split
    · exact .settleFrame _
    · exact .failTransport
  · exact .failTransport

theorem Keeps.orFail {r : VisionClient × Bool} (h : Keeps s r.1) : Keeps s (VisionClient.orFail r) := by
  unfold VisionClient.orFail
  split
  · exact h
  · exact h.trans .failTransport

theorem Keeps.handleMessage (message : ServerMessage) : Keeps s (s.handleMessage message) := by
  cases message with
  | refused => exact .failTransport
  | ready session limit =>
    dsimp only [VisionClient.handleMessage]
    cases done : s.handleReady session limit with
    | none => exact .failTransport
    | some t => exact .handleReady done
  | controlResult id body =>
    dsimp only [VisionClient.handleMessage]
    split
    · exact .failTransport
    · rename_i c _
      have removed : Keeps s { s with controlWaiters := s.controlWaiters.filter (· ≠ c) } :=
        .of_eq rfl rfl rfl rfl rfl
      generalize { s with controlWaiters := s.controlWaiters.filter (· ≠ c) } = u at removed ⊢
      cases done : u.controlAnswered c body with
      | none => exact removed.trans .failTransport
      | some t => exact removed.trans (.controlAnswered done)
  | result message => exact (Keeps.handleResult message).orFail
  | drop frame reason => exact (Keeps.handleDrop frame reason).orFail
  | error frame => exact .handleErrorMessage frame
  | close => exact .failTransport

/-- A `startSession` call opens its websocket. -/
structure Opens (s t : VisionClient) (i : ℕ) (call : StartCall) : Prop where
  found : s.starts[i]? = some call
  sockets : t.sockets = s.sockets ++ [{ session := call.context }]
  frames : t.frames = s.frames
  sent : t.transmitted = s.transmitted
  socket : t.socket = some s.sockets.length
  session : t.sessionContext = some call.context

/-- A `sendFrame` call passes its checks. -/
structure Checked (s t : VisionClient) (context : FrameContext) (call : FrameCall) : Prop where
  session : ∃ session, s.sessionContext = some session ∧ context.sessionId = session.sessionId
  context : call.context = context
  socket : call.socket = s.socket
  frames : t.frames = s.frames ++ [call]
  keeps : t.sockets = s.sockets ∧ t.transmitted = s.transmitted ∧ t.socket = s.socket ∧
    t.sessionContext = s.sessionContext

/-- A `sendFrame` call sends its frame, on the websocket that is open then. -/
structure SendsFrame (s t : VisionClient) (j k : ℕ) (call : FrameCall) (byteLength : ℕ) : Prop where
  found : s.frames[j]? = some call
  unaborted : call.aborted = false
  fits : byteLength ≤ call.maxFrameBytes
  openSocket : s.openSocket = some k
  sent : t.transmitted = s.transmitted ++ [(k, .frame j call.context byteLength)]
  frames : t.frames.map (fun call => (call.context, call.socket)) =
    s.frames.map fun call => (call.context, call.socket)
  keeps : t.sockets = s.sockets ∧ t.socket = s.socket ∧ t.sessionContext = s.sessionContext

theorem openSocket_eq_some (h : s.openSocket = some k) :
    s.socket = some k ∧ s.sockets[k]?.any (fun socket => socket.readyState = .open) = true := by
  unfold VisionClient.openSocket at h
  obtain ⟨found, isOpen⟩ := Option.filter_eq_some_iff.1 h
  exact ⟨found, isOpen⟩

/-- Everything a step can do to what `Keeps` reads. -/
theorem visionStep_cases {step : VisionStep} (h : visionStep s step = some t) : Keeps s t ∨
    (∃ i call, step = .token i true ∧ call.aborted = false ∧ Opens s t i call) ∨
    (∃ context call signal, step = .sendFrame context true signal ∧ Checked s t context call) ∨
    ∃ j k call byteLength headerLength, step = .encoded j (.image byteLength headerLength) ∧
      headerLength ≤ VisionClient.maxMetadataBytes ∧ SendsFrame s t j k call byteLength := by
  cases step with
  | startSession context signal =>
    cases h
    left
    unfold VisionClient.beginStart
    split
    · exact .refl s
    · exact .of_eq rfl rfl rfl rfl rfl
  | abortStart i =>
    obtain ⟨call, found, h⟩ := Option.bind_eq_some_iff.1 h
    split_ifs at h
    cases h
    exact .inl (.modifyStart _)
  | token i valid =>
    obtain ⟨call, found, h⟩ := Option.bind_eq_some_iff.1 h
    split_ifs at h
    cases h
    unfold VisionClient.tokenReady
    split_ifs with refused
    · exact .inl (.modifyStart _)
    · simp only [Bool.or_eq_true, Bool.not_eq_true', not_or, Bool.not_eq_false,
        Bool.not_eq_true] at refused
      obtain ⟨rfl, unaborted⟩ := refused
      exact .inr (.inl ⟨i, call, rfl, unaborted, found, rfl, rfl, rfl, rfl, rfl⟩)
  | started i cancelled =>
    obtain ⟨call, found, h⟩ := Option.bind_eq_some_iff.1 h
    exact .inl (.resumeStart h)
  | startCalibration patternId =>
    cases h
    exact .inl (.beginCalibration patternId)
  | startInference =>
    cases h
    exact .inl .beginInference
  | stopSession =>
    cases h
    exact .inl .beginStop
  | control c =>
    obtain ⟨call, found, h⟩ := Option.bind_eq_some_iff.1 h
    split_ifs at h
    cases h
    exact .inl (.controlSettled call)
  | timeout c =>
    obtain ⟨call, found, h⟩ := Option.bind_eq_some_iff.1 h
    split_ifs at h
    cases h
    exact .inl ((Keeps.modifyControl _).trans .failTransport)
  | sendFrame context positive signal =>
    cases h
    unfold VisionClient.beginFrame
    split
    · rename_i session limit found ready
      split_ifs with passes
      · simp only [Bool.and_eq_true, beq_iff_eq] at passes
        obtain ⟨⟨⟨⟨-, own⟩, -⟩, rfl⟩, -⟩ := passes
        exact .inr (.inr (.inl ⟨context, _, signal, rfl, ⟨session, found, own⟩, rfl, rfl, rfl,
          rfl, rfl, rfl, rfl⟩))
      · exact .inl (.refl s)
    · exact .inl (.refl s)
  | abortFrame j =>
    obtain ⟨call, found, h⟩ := Option.bind_eq_some_iff.1 h
    split_ifs at h
    cases h
    exact .inl (.modifyFrame fun _ => rfl)
  | encoded j image =>
    obtain ⟨call, found, h⟩ := Option.bind_eq_some_iff.1 h
    split_ifs at h
    cases h
    cases image with
    | failed => exact .inl .frameFailed
    | image byteLength headerLength =>
      unfold VisionClient.frameEncoded
      dsimp only
      split_ifs with aborted large long
      · exact .inl .frameFailed
      · exact .inl (.modifyFrame fun _ => rfl)
      · exact .inl .frameFailed
      · split
        · exact .inl .frameFailed
        · rename_i k current
          have isOpen := (openSocket_eq_some current).2
          refine .inr (.inr (.inr ⟨j, k, call, byteLength, headerLength, rfl, by omega, found,
            Bool.eq_false_iff.2 aborted, by omega, current, ?_, ?_, ?_⟩))
          · unfold VisionClient.send VisionClient.modifyFrame
            rw [if_pos isOpen]
          · unfold VisionClient.send VisionClient.modifyFrame
            rw [if_pos isOpen]
            exact map_modify_of_keeps fun _ => rfl
          · unfold VisionClient.send VisionClient.modifyFrame
            rw [if_pos isOpen]
            exact ⟨rfl, rfl, rfl⟩
  | delivered j =>
    obtain ⟨call, found, h⟩ := Option.bind_eq_some_iff.1 h
    split_ifs at h
    cases h
    exact .inl (.frameDelivered call)
  | socketOpen k =>
    obtain ⟨socket, found, h⟩ := Option.bind_eq_some_iff.1 h
    split_ifs at h
    cases h
    left
    have moved : Keeps s (s.modifySocket k fun socket => { socket with readyState := .open }) :=
      .modifySocket fun _ => rfl
    split
    · exact moved.trans (.modifyStart _)
    · exact moved
  | socketMessage k message =>
    dsimp only [visionStep] at h
    split_ifs at h
    cases h
    exact .inl (.handleMessage message)
  | socketError k =>
    dsimp only [visionStep] at h
    split_ifs at h
    cases h
    exact .inl .failTransport
  | socketClosing k =>
    obtain ⟨socket, found, h⟩ := Option.bind_eq_some_iff.1 h
    split_ifs at h
    cases h
    exact .inl (.modifySocket fun _ => rfl)
  | socketClose k =>
    obtain ⟨socket, found, h⟩ := Option.bind_eq_some_iff.1 h
    have moved : Keeps s (s.modifySocket k fun socket => { socket with readyState := .closed }) :=
      .modifySocket fun _ => rfl
    dsimp only at h
    split_ifs at h
    · cases h
      exact .inl (moved.trans .failTransport)
    · cases h
      exact .inl moved

end

/-! ## The session of a frame -/

/-- The session of the client is the one its websocket was opened for, and so it was when a frame was
checked against it. -/
structure SessionInv (s : VisionClient) : Prop where
  session : ∀ k, s.socket = some k → ∃ socket, s.sockets[k]? = some socket ∧
    s.sessionContext = some socket.session
  ended : s.socket = none → s.sessionContext = none
  checked : ∀ (j : ℕ) call, s.frames[j]? = some call → ∃ k socket, call.socket = some k ∧
    s.sockets[k]? = some socket ∧ call.context.sessionId = socket.session.sessionId

/-- Every frame that was sent is that of its call and went to the websocket of the session it was
checked against, which was opened for the session the frame names. -/
def FramesOwn (s : VisionClient) : Prop :=
  ∀ k j context byteLength, (k, .frame j context byteLength) ∈ s.transmitted →
    ∃ call socket, s.frames[j]? = some call ∧ call.context = context ∧ call.socket = some k ∧
      s.sockets[k]? = some socket ∧ socket.session.sessionId = context.sessionId

/-- The session a call was checked against has ended. -/
def SessionEnded (s : VisionClient) (j : ℕ) : Prop :=
  ∃ call, s.frames[j]? = some call ∧ s.socket ≠ call.socket

/-- What a call has sent. -/
def sentBy (s : VisionClient) (j : ℕ) : List (ℕ × ClientMessage) :=
  s.transmitted.filter fun sent => sent.2.sender = some j

/-- When the encoder of a frame gives a picture that can be sent to a caller that still waits, the
session of the frame has not ended, or no websocket is open. -/
def EncodesInTime (s : VisionClient) (step : VisionStep) : Prop :=
  ∀ j byteLength headerLength call, step = .encoded j (.image byteLength headerLength) →
    s.frames[j]? = some call → call.aborted = false → byteLength ≤ call.maxFrameBytes →
    headerLength ≤ VisionClient.maxMetadataBytes → s.socket = call.socket ∨ s.openSocket = none

section
variable {s t u : VisionClient} {j k : ℕ}

/-- Nothing is read of a websocket but its session, nor of a call but its frame and its websocket. -/
theorem SessionInv.of_same (inv : SessionInv s)
    (sockets : t.sockets.map (·.session) = s.sockets.map (·.session))
    (frames : t.frames.map (fun call => (call.context, call.socket)) =
      s.frames.map fun call => (call.context, call.socket))
    (session : t.socket = s.socket ∧ t.sessionContext = s.sessionContext ∨
      t.socket = none ∧ t.sessionContext = none) : SessionInv t where
  session k hk := by
    rcases session with ⟨socket, context⟩ | ⟨socket, -⟩
    · obtain ⟨a, found, own⟩ := inv.session k (socket ▸ hk)
      obtain ⟨b, found', same⟩ := getElem?_of_map_eq sockets found
      exact ⟨b, found', by rw [context, own, same]⟩
    · rw [socket] at hk
      cases hk
  ended none := by
    rcases session with ⟨socket, context⟩ | ⟨-, context⟩
    · rw [context]
      exact inv.ended (socket ▸ none)
    · exact context
  checked j call found := by
    obtain ⟨call', found', same⟩ := getElem?_of_map_eq frames.symm found
    obtain ⟨k, socket, own, socketFound, name⟩ := inv.checked j call' found'
    obtain ⟨socket', socketFound', same'⟩ := getElem?_of_map_eq sockets socketFound
    simp only [Prod.mk.injEq] at same
    obtain ⟨context, place⟩ := same
    exact ⟨k, socket', place.symm.trans own, socketFound', by rw [← context, name, same']⟩

theorem SessionInv.opens {i : ℕ} {call : StartCall} (inv : SessionInv s) (h : Opens s t i call) :
    SessionInv t where
  session k hk := by
    rw [h.socket] at hk
    cases hk
    refine ⟨{ session := call.context }, ?_, h.session⟩
    rw [h.sockets]
    exact List.getElem?_concat_length
  ended none := by
    rw [h.socket] at none
    cases none
  checked j call' found := by
    rw [h.frames] at found
    obtain ⟨k, socket, own, socketFound, name⟩ := inv.checked j call' found
    refine ⟨k, socket, own, ?_, name⟩
    rw [h.sockets, List.getElem?_append_left (List.getElem?_eq_some_iff.1 socketFound).1]
    exact socketFound

theorem SessionInv.checks {context : FrameContext} {call : FrameCall} (inv : SessionInv s)
    (h : Checked s t context call) : SessionInv t := by
  obtain ⟨sockets, -, socket, sessionContext⟩ := h.keeps
  exact {
    session := by
      rw [socket, sockets, sessionContext]
      exact inv.session
    ended := by
      rw [socket, sessionContext]
      exact inv.ended
    checked := by
      intro j call' found
      rw [h.frames] at found
      rw [sockets]
      rcases getElem?_concat_cases found with found | ⟨-, rfl⟩
      · exact inv.checked j call' found
      · obtain ⟨session, current, name⟩ := h.session
        cases held : s.socket with
        | none =>
          rw [inv.ended held] at current
          cases current
        | some k =>
          obtain ⟨a, found, own⟩ := inv.session k held
          rw [own] at current
          cases current
          exact ⟨k, a, h.socket.trans held, found, by rw [h.context, name]⟩ }

theorem SessionInv.step {step : VisionStep} (inv : SessionInv s) (h : visionStep s step = some t) :
    SessionInv t := by
  obtain keeps | ⟨i, call, -, -, opens⟩ | ⟨context, call, signal, -, checks⟩ |
    ⟨j, k, call, n, m, -, -, sends⟩ := visionStep_cases h
  · exact inv.of_same keeps.sockets keeps.frames keeps.session
  · exact inv.opens opens
  · exact inv.checks checks
  · obtain ⟨sockets, socket, session⟩ := sends.keeps
    exact inv.of_same (by rw [sockets]) sends.frames (.inl ⟨socket, session⟩)

/-- Websockets and calls are never forgotten. -/
structure Grows (s t : VisionClient) : Prop where
  sockets : ∀ (k : ℕ) socket, s.sockets[k]? = some socket → ∃ socket', t.sockets[k]? = some socket' ∧
    socket'.session = socket.session
  frames : ∀ (j : ℕ) call, s.frames[j]? = some call → ∃ call', t.frames[j]? = some call' ∧
    call'.context = call.context ∧ call'.socket = call.socket

theorem Grows.of_same (sockets : t.sockets.map (·.session) = s.sockets.map (·.session))
    (frames : t.frames.map (fun call => (call.context, call.socket)) =
      s.frames.map fun call => (call.context, call.socket)) : Grows s t where
  sockets _ _ found := getElem?_of_map_eq sockets found
  frames _ _ found := by
    obtain ⟨call', found', same⟩ := getElem?_of_map_eq frames found
    simp only [Prod.mk.injEq] at same
    exact ⟨call', found', same⟩

theorem visionStep_grows {step : VisionStep} (h : visionStep s step = some t) : Grows s t := by
  obtain keeps | ⟨i, call, -, -, opens⟩ | ⟨context, call, signal, -, checks⟩ |
    ⟨j, k, call, n, m, -, -, sends⟩ := visionStep_cases h
  · exact .of_same keeps.sockets keeps.frames
  · refine ⟨fun k socket found => ⟨socket, ?_, rfl⟩, fun j call' found => ⟨call', ?_, rfl, rfl⟩⟩
    · rw [opens.sockets, List.getElem?_append_left (List.getElem?_eq_some_iff.1 found).1]
      exact found
    · rw [opens.frames]
      exact found
  · refine ⟨fun k socket found => ⟨socket, ?_, rfl⟩, fun j call' found => ⟨call', ?_, rfl, rfl⟩⟩
    · rw [checks.keeps.1]
      exact found
    · rw [checks.frames, List.getElem?_append_left (List.getElem?_eq_some_iff.1 found).1]
      exact found
  · exact .of_same (by rw [sends.keeps.1]) sends.frames

theorem FramesOwn.mono (own : FramesOwn s) (grows : Grows s t)
    (sent : t.sentFrames = s.sentFrames) : FramesOwn t := by
  intro k j context n member
  have member' : (k, ClientMessage.frame j context n) ∈ s.sentFrames := by
    rw [← sent]
    exact List.mem_filter.2 ⟨member, rfl⟩
  obtain ⟨call, socket, found, rfl, place, socketFound, name⟩ :=
    own k j context n (List.mem_filter.1 member').1
  obtain ⟨call', found', context', place'⟩ := grows.frames j call found
  obtain ⟨socket', socketFound', session⟩ := grows.sockets k socket socketFound
  exact ⟨call', socket', found', context', place'.trans place, socketFound', by rw [session, name]⟩

/-- A frame that is sent in time goes to the websocket of its session. -/
theorem FramesOwn.sends {call : FrameCall} {byteLength : ℕ} (own : FramesOwn s) (inv : SessionInv s)
    (h : SendsFrame s t j k call byteLength) (current : s.socket = call.socket) : FramesOwn t := by
  have grows : Grows s t := .of_same (by rw [h.keeps.1]) h.frames
  intro k' j' context n member
  rw [h.sent, List.mem_append] at member
  rcases member with member | member
  · obtain ⟨call, socket, found, rfl, place, socketFound, name⟩ := own k' j' context n member
    obtain ⟨call', found', context', place'⟩ := grows.frames j' call found
    obtain ⟨socket', socketFound', session⟩ := grows.sockets k' socket socketFound
    exact ⟨call', socket', found', context', place'.trans place, socketFound',
      by rw [session, name]⟩
  · simp only [List.mem_singleton, Prod.mk.injEq, ClientMessage.frame.injEq] at member
    obtain ⟨rfl, rfl, rfl, -⟩ := member
    obtain ⟨k, socket, place, socketFound, name⟩ := inv.checked j' call h.found
    obtain rfl : k = k' := Option.some.inj
      ((current.trans place).symm.trans (openSocket_eq_some h.openSocket).1)
    obtain ⟨call', found', context', place'⟩ := grows.frames j' call h.found
    obtain ⟨socket', socketFound', session⟩ := grows.sockets k socket socketFound
    exact ⟨call', socket', found', context', place'.trans place, socketFound',
      by rw [session, ← name]⟩

/-! ## Ended sessions -/

/-- A session that has ended stays ended: `socket` is only ever set to a new websocket. -/
theorem SessionEnded.step {step : VisionStep} (inv : SessionInv s) (h : visionStep s step = some t)
    (ended : SessionEnded s j) : SessionEnded t j := by
  obtain ⟨call, found, other⟩ := ended
  obtain ⟨k, socket, place, socketFound, -⟩ := inv.checked j call found
  obtain ⟨call', found', -, place'⟩ := (visionStep_grows h).frames j call found
  refine ⟨call', found', ?_⟩
  rw [place']
  obtain keeps | ⟨i, start, -, -, opens⟩ | ⟨context, checked, signal, -, checks⟩ |
    ⟨j', k', sender, n, m, -, -, sends⟩ := visionStep_cases h
  · rcases keeps.session with ⟨same, -⟩ | ⟨none, -⟩
    · rw [same]
      exact other
    · rw [none, place]
      exact fun h => nomatch h
  · have old := (List.getElem?_eq_some_iff.1 socketFound).1
    rw [opens.socket, place]
    intro same
    have := Option.some.inj same
    omega
  · rw [checks.keeps.2.2.1]
    exact other
  · rw [sends.keeps.2.1]
    exact other

theorem sentBy_of_sentFrames (sent : t.sentFrames = s.sentFrames) : sentBy t j = sentBy s j := by
  have read (u : VisionClient) : sentBy u j = u.sentFrames.filter fun sent => sent.2.sender = some j := by
    unfold sentBy VisionClient.sentFrames
    rw [List.filter_filter]
    refine List.filter_congr fun sent _ => ?_
    cases sent.2.sender with
    | none => rfl
    | some call => simp
  rw [read t, read s, sent]

/-- A call whose session has ended sends nothing in a step in time. -/
theorem sentBy_step {step : VisionStep} (inTime : EncodesInTime s step)
    (h : visionStep s step = some t) (ended : SessionEnded s j) : sentBy t j = sentBy s j := by
  obtain keeps | ⟨i, call, -, -, opens⟩ | ⟨context, call, signal, -, checks⟩ |
    ⟨j', k, call, n, m, rfl, header, sends⟩ := visionStep_cases h
  · exact sentBy_of_sentFrames keeps.sent
  · unfold sentBy
    rw [opens.sent]
  · unfold sentBy
    rw [checks.keeps.2.1]
  · unfold sentBy
    rw [sends.sent, List.filter_append]
    by_cases own : j' = j
    · -- the guard excludes it
      subst own
      obtain ⟨call', found, other⟩ := ended
      rw [sends.found] at found
      cases found
      rcases inTime j' n m call rfl sends.found sends.unaborted sends.fits header with same | closed
      · exact absurd same other
      · rw [sends.openSocket] at closed
        cases closed
    · simp [ClientMessage.sender, own]

/-- What holds in every state of a run in time. -/
structure FrameInv (s : VisionClient) : Prop where
  session : SessionInv s
  own : FramesOwn s

theorem FrameInv.start : FrameInv {} where
  session :=
    { session := fun _ h => nomatch h
      ended := fun _ => rfl
      checked := fun _ _ h => nomatch h }
  own _ _ _ _ member := nomatch member

theorem FrameInv.step {step : VisionStep} (inv : FrameInv s) (inTime : EncodesInTime s step)
    (h : visionStep s step = some t) : FrameInv t where
  session := inv.session.step h
  own := by
    obtain keeps | ⟨i, call, -, -, opens⟩ | ⟨context, call, signal, -, checks⟩ |
      ⟨j, k, call, n, m, rfl, header, sends⟩ := visionStep_cases h
    · exact inv.own.mono (visionStep_grows h) keeps.sent
    · refine inv.own.mono (visionStep_grows h) ?_
      unfold VisionClient.sentFrames
      rw [opens.sent]
    · refine inv.own.mono (visionStep_grows h) ?_
      unfold VisionClient.sentFrames
      rw [checks.keeps.2.1]
    · rcases inTime j n m call rfl sends.found sends.unaborted sends.fits header with same | closed
      · exact inv.own.sends inv.session sends same
      · rw [sends.openSocket] at closed
        cases closed

end

/-- **Frames stay with their session.** In every run in which no encoder of a frame gives a picture to
send after the session of the frame has ended while a websocket is open, every frame goes to the
websocket that was opened for its session, and a call whose session has ended never sends one. -/
theorem frames_on_own_socket {ls : List VisionStep} {s : VisionClient}
    (run : Steps visionStep EncodesInTime {} ls s) :
    FramesOwn s ∧ ∀ j, SessionEnded s j → ∀ ks t, Steps visionStep EncodesInTime s ks t →
      sentBy t j = sentBy s j := by
  have inv : FrameInv s := run.invariant (fun _ _ _ inv inTime h => inv.step inTime h) .start
  refine ⟨inv.own, fun j ended ks t later => ?_⟩
  have kept : SessionInv t ∧ SessionEnded t j ∧ sentBy t j = sentBy s j := by
    refine later.invariant (P := fun u => SessionInv u ∧ SessionEnded u j ∧ sentBy u j = sentBy s j)
      (fun u step v ⟨session, ended, same⟩ inTime h => ?_) ⟨inv.session, ended, rfl⟩
    exact ⟨session.step h, ended.step session h, (sentBy_step inTime h ended).trans same⟩
  exact kept.2.2

section
variable (a b : VisionSessionContext)

/-- A session is started, calibrated and a frame of it is encoded. -/
def firstVisitor (context : FrameContext) : List VisionStep :=
  [.startSession a false, .token 0 true, .socketOpen 0, .started 0 false,
    .socketMessage 0 (.ready a (some 524288)), .started 0 false, .startCalibration "fixed-dense5-v2",
    .sendFrame context true false]

/-- It is stopped, and the next one is started up to the end of its handshake. -/
def nextVisitor : List VisionStep :=
  [.stopSession, .socketMessage 0 (.controlResult "control-2" (some
      { action := .stopSession, valid := true, reason := none, calibrationId := none })), .control 1,
    .startSession b false, .token 1 true, .socketOpen 1, .started 1 false,
    .socketMessage 1 (.ready b (some 524288)), .started 1 false]

end

def visitorA : VisionSessionContext := { sessionId := "visitor-a", videoId := "video-0001" }

def visitorB : VisionSessionContext := { sessionId := "visitor-b", videoId := "video-0001" }

def frameOfA : FrameContext :=
  { sessionId := "visitor-a", videoId := "video-0001", frameId := "frame-0001", sequence := 1,
    capturedAtMonoMs := 1200, videoTimeMs := 0, playbackEpoch := 0, calibrationTarget := none }

/-- A frame was sent on a websocket of another session. -/
def strays (s : VisionClient) : Bool :=
  s.transmitted.any fun sent =>
    match sent.2 with
    | .frame _ context _ => s.sockets[sent.1]?.all (·.session.sessionId ≠ context.sessionId)
    | _ => false

theorem not_framesOwn_of_strays {s : VisionClient} (h : strays s = true) : ¬ FramesOwn s := by
  intro own
  obtain ⟨⟨k, message⟩, member, astray⟩ := List.any_eq_true.1 h
  cases message with
  | frame j context n =>
    obtain ⟨-, socket, -, -, -, found, name⟩ := own k j context n member
    simp only [found, Option.all_some, ne_eq, decide_not, Bool.not_eq_true',
      decide_eq_false_iff_not] at astray
    exact astray name
  | hello context => cases astray
  | control id action patternId => cases astray

/-- The encoder finishes while the session of its frame goes on. -/
def currentSession (s : VisionClient) : VisionStep → Bool
  | .encoded j _ => s.frames[j]?.all fun call => s.socket = call.socket
  | _ => true

theorem encodesInTime_of_currentSession {s : VisionClient} {step : VisionStep}
    (h : currentSession s step = true) : EncodesInTime s step := by
  rintro j n m call rfl found - - -
  simp only [currentSession, found, Option.all_some, decide_eq_true_eq] at h
  exact .inl h

/-- A frame that is sent, and what the theorem says of its run. -/
theorem frames_on_own_socket_sent : ∃ ls s, Steps visionStep EncodesInTime {} ls s ∧
    (sentBy s 0).length = 1 ∧
    (FramesOwn s ∧ ∀ j, SessionEnded s j → ∀ ks t, Steps visionStep EncodesInTime s ks t →
      sentBy t j = sentBy s j) := by
  have reached : ∃ s, Steps visionStep EncodesInTime {}
      (firstVisitor visitorA frameOfA ++ [.encoded 0 (.image 4000 500)] ++ nextVisitor visitorB) s ∧
      decide ((sentBy s 0).length = 1) = true :=
    exists_guarded_steps_of_any currentSession (fun _ _ => encodesInTime_of_currentSession)
      (by decide +kernel)
  obtain ⟨s, run, sent⟩ := reached
  exact ⟨_, s, run, of_decide_eq_true sent, frames_on_own_socket run⟩

/-- The frame of one visitor is sent on the websocket of the next, whose handshake is complete. -/
theorem frame_on_next_session : ¬ ∀ ls s, Steps visionStep Free {} ls s → FramesOwn s := by
  intro claim
  have reached : ∃ s, Steps visionStep Free {}
      (firstVisitor visitorA frameOfA ++ nextVisitor visitorB ++ [.encoded 0 (.image 4000 500)]) s ∧
      (s.ready.isSome && strays s) = true := exists_steps_of_any (by decide +kernel)
  obtain ⟨s, run, ended⟩ := reached
  obtain ⟨-, astray⟩ := Bool.and_eq_true_iff.1 ended
  exact not_framesOwn_of_strays astray (claim _ s run)

end Mkk.Kiosk
