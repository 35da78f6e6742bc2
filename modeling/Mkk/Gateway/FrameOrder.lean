import Mkk.Gateway.Handler
import Mkk.Lib.Window
import Mathlib.Data.Finset.Card
import Mathlib.Data.List.Perm.Basic

/-!
# Every frame is answered once

What `_handle` keeps in every run: `OrderInv` for the frames it accepted, `AnswerInv` for the answers it
owes, `CloseInv` for its last message. `frames_answered` states the consequences.
-/

namespace Mkk.Gateway

open Lib Lib.Lts
open Eye (StreamFrameContext)

/-! ## The order of accepted frames -/

/-- The contexts of the frames that were accepted. -/
def Connection.accepted (s : Connection) : List StreamFrameContext := s.frames.map (·.context)

/-- Accepted frames have rising sequences and epochs that do not fall, the window holds the last keys,
and a key does not come back within the window. -/
structure OrderInv (s : Connection) : Prop where
  sequences : (s.accepted.map (·.sequence)).Pairwise (· < ·)
  last : ∀ context ∈ s.accepted, (context.sequence : ℤ) ≤ s.lastSequence
  epochs : (s.accepted.map (·.playbackEpoch)).Pairwise (· ≤ ·)
  current : ∀ context ∈ s.accepted, ∃ epoch, s.currentEpoch = some epoch ∧
    context.playbackEpoch ≤ epoch
  window : s.frameOrder = (s.accepted.map frameKey).rtake frameWindow
  nodup : s.frameOrder.Nodup
  keys : s.frameKeys = s.frameOrder.toFinset
  apart : ∀ (i j : ℕ) key, i < j → (s.accepted.map frameKey)[i]? = some key →
    (s.accepted.map frameKey)[j]? = some key → i + frameWindow < j

section
variable {settings : Settings} {s t : Connection}

theorem OrderInv.start : OrderInv settings.start where
  sequences := .nil
  last _ member := nomatch member
  epochs := .nil
  current _ member := nomatch member
  window := (List.rtake_nil frameWindow).symm
  nodup := .nil
  keys := rfl
  apart _ _ _ _ found := nomatch found

/-- Only what is known of the frames is read. -/
theorem OrderInv.of_same (inv : OrderInv s) (accepted : t.accepted = s.accepted)
    (lastSequence : t.lastSequence = s.lastSequence) (currentEpoch : t.currentEpoch = s.currentEpoch)
    (frameOrder : t.frameOrder = s.frameOrder) (frameKeys : t.frameKeys = s.frameKeys) : OrderInv t where
  sequences := accepted ▸ inv.sequences
  last := by
    rw [accepted, lastSequence]
    exact inv.last
  epochs := accepted ▸ inv.epochs
  current := by
    rw [accepted, currentEpoch]
    exact inv.current
  window := by
    rw [frameOrder, accepted]
    exact inv.window
  nodup := frameOrder ▸ inv.nodup
  keys := by
    rw [frameKeys, frameOrder]
    exact inv.keys
  apart := by
    rw [accepted]
    exact inv.apart

/-- A later frame with a key that is not in the window passes. -/
theorem passes_of_later {context : StreamFrameContext} (unknown : frameKey context ∉ s.frameKeys)
    (current : ∀ epoch, s.currentEpoch = some epoch → epoch ≤ context.playbackEpoch)
    (later : s.lastSequence < context.sequence) : s.rejectionReason context = none := by
  have stale : s.currentEpoch.any (context.playbackEpoch < ·) = false := by
    cases epoch : s.currentEpoch with
    | none => rfl
    | some e =>
      rw [Option.any_some, decide_eq_false_iff_not]
      exact (current e epoch).not_gt
  unfold Connection.rejectionReason
  rw [if_neg unknown, stale, if_neg Bool.false_ne_true, if_neg later.not_ge]

/-- What `rejection_reason` lets pass. -/
theorem rejectionReason_eq_none {context : StreamFrameContext} (h : s.rejectionReason context = none) :
    frameKey context ∉ s.frameKeys ∧ (∀ epoch, s.currentEpoch = some epoch →
      epoch ≤ context.playbackEpoch) ∧ s.lastSequence < context.sequence := by
  unfold Connection.rejectionReason at h
  split_ifs at h with known stale late
  refine ⟨known, fun epoch current => ?_, by omega⟩
  rw [current, Option.any_some, decide_eq_true_eq] at stale
  omega

/-- The window after `accept`. -/
theorem accept_frameOrder (context : StreamFrameContext) (now : ℚ) :
    (s.accept context now).frameOrder = pushBounded frameWindow s.frameOrder (frameKey context) :=
  rfl

/-- The keys after `accept` are those of the window. -/
theorem accept_frameKeys (context : StreamFrameContext) (now : ℚ) (nodup : s.frameOrder.Nodup)
    (keys : s.frameKeys = s.frameOrder.toFinset) :
    (s.accept context now).frameKeys = (s.accept context now).frameOrder.toFinset := by
  unfold Connection.accept
  dsimp only
  rw [List.toFinset_append, List.toFinset_cons, List.toFinset_nil, insert_empty_eq,
    Finset.union_comm, ← Finset.insert_eq, keys]
  split
  · cases order : s.frameOrder with
    | nil => rfl
    | cons first rest =>
      rw [order] at nodup
      simp only [List.head?_cons, Option.elim_some, List.tail_cons]
      congr 1
      ext key
      have other := (List.nodup_cons.1 nodup).1
      simp only [Finset.mem_erase, List.mem_toFinset, List.mem_cons]
      constructor
      · rintro ⟨ne, rfl | member⟩
        · exact absurd rfl ne
        · exact member
      · intro member
        refine ⟨?_, .inr member⟩
        rintro rfl
        exact other member
  · rfl

/-- `current_epoch` after `accept` is the epoch of the frame, when it was not above it. -/
theorem accept_currentEpoch (context : StreamFrameContext) (now : ℚ)
    (current : ∀ epoch, s.currentEpoch = some epoch → epoch ≤ context.playbackEpoch) :
    (s.accept context now).currentEpoch = some context.playbackEpoch := by
  unfold Connection.accept
  dsimp only
  cases known : s.currentEpoch with
  | none => simp
  | some epoch =>
    have := current epoch known
    simp only [Option.elim_some, Option.some.injEq]
    split
    · exact max_self _
    · exact max_eq_right this

theorem OrderInv.accepts {metadata : FrameMetadata} (inv : OrderInv s)
    (accepts : Accepts settings s t metadata) : OrderInv t := by
  obtain ⟨fresh, epoch, sequence⟩ := rejectionReason_eq_none accepts.rejection
  obtain ⟨now, rfl⟩ := accepts.result
  generalize before : ({ s with
      received := none
      stage := .select
      taken := s.taken ++ [metadata.context] } : Connection) = u
  have same : OrderInv u := by
    subst before
    exact inv.of_same rfl rfl rfl rfl rfl
  replace fresh : frameKey metadata.context ∉ u.frameKeys := by
    subst before
    exact fresh
  replace epoch : ∀ epoch, u.currentEpoch = some epoch → epoch ≤ metadata.context.playbackEpoch := by
    subst before
    exact epoch
  replace sequence : u.lastSequence < metadata.context.sequence := by
    subst before
    exact sequence
  clear before
  have accepted : ((u.accept metadata.context now).startProcess settings metadata).accepted =
      u.accepted ++ [metadata.context] := by
    unfold Connection.accepted Connection.startProcess Connection.accept
    rw [List.map_append]
    rfl
  have current := accept_currentEpoch metadata.context now epoch
  refine {
    sequences := ?_
    last := ?_
    epochs := ?_
    current := ?_
    window := ?_
    nodup := ?_
    keys := accept_frameKeys metadata.context now same.nodup same.keys
    apart := ?_ }
  · rw [accepted, List.map_append, List.pairwise_append]
    refine ⟨same.sequences, List.pairwise_singleton _ _, fun n member m single => ?_⟩
    obtain ⟨context, earlier, rfl⟩ := List.mem_map.1 member
    have := same.last context earlier
    rw [List.map_singleton, List.mem_singleton] at single
    omega
  · intro context member
    rw [accepted] at member
    change (context.sequence : ℤ) ≤ metadata.context.sequence
    rcases List.mem_append.1 member with member | member
    · have := same.last context member
      omega
    · rw [List.mem_singleton.1 member]
  · rw [accepted, List.map_append, List.pairwise_append]
    refine ⟨same.epochs, List.pairwise_singleton _ _, fun n member m single => ?_⟩
    obtain ⟨context, earlier, rfl⟩ := List.mem_map.1 member
    obtain ⟨known, found, below⟩ := same.current context earlier
    rw [List.map_singleton, List.mem_singleton] at single
    rw [single]
    exact below.trans (epoch known found)
  · intro context member
    rw [accepted] at member
    refine ⟨metadata.context.playbackEpoch, current, ?_⟩
    rcases List.mem_append.1 member with member | member
    · obtain ⟨known, found, below⟩ := same.current context member
      exact below.trans (epoch known found)
    · rw [List.mem_singleton.1 member]
  · rw [accepted, List.map_append, List.map_singleton]
    refine (accept_frameOrder metadata.context now).trans ?_
    rw [same.window]
    exact pushBounded_rtake (by decide)
  · refine (accept_frameOrder metadata.context now).symm ▸ nodup_pushBounded same.nodup ?_
    rw [same.keys, List.mem_toFinset] at fresh
    exact fresh
  · intro i j key earlier first second
    rw [accepted, List.map_append, List.map_singleton] at first second
    rcases getElem?_concat_cases second with second | ⟨place, own⟩
    · have inside := (List.getElem?_eq_some_iff.1 second).1
      rw [List.getElem?_append_left (by omega)] at first
      exact same.apart i j key earlier first second
    · rw [List.getElem?_append_left (by omega)] at first
      by_contra recent
      rw [same.keys, List.mem_toFinset, same.window] at fresh
      refine fresh (mem_rtake (i := i) (own ▸ first) ?_)
      omega

theorem OrderInv.step {step : ConnectionStep} (inv : OrderInv s)
    (h : connectionStep settings s step = some t) : OrderInv t := by
  have same (same : SameFrames s t) : OrderInv t :=
    inv.of_same (by unfold Connection.accepted; rw [same.frames]) same.lastSequence same.currentEpoch
      same.frameOrder same.frameKeys
  obtain ⟨quiet, -, -⟩ | ⟨j, move, p, q, -, processes⟩ | ⟨rateAt, acceptAt, -, -, rest⟩ :=
    connectionStep_cases h
  · exact same quiet.same
  · obtain ⟨found, moved, rfl⟩ := processes
    refine inv.of_same ?_ rfl rfl rfl rfl
    unfold Connection.accepted
    refine List.ext_getElem? fun i => ?_
    rw [List.getElem?_map, List.getElem?_map, List.getElem?_set]
    split_ifs with place inside
    · subst place
      have identity := congrArg (·.1) (processStep_identity moved)
      rw [found, Option.map_some, Option.map_some]
      exact congrArg some identity
    · rw [List.getElem?_eq_none (by omega)]
    · rfl
  · rcases rest with ⟨p, outcome, answers⟩ | ⟨p, raises⟩ | ⟨context, drops⟩ | ⟨metadata, accepts⟩
    · exact same answers.same
    · exact same raises.same
    · exact same drops.same
    · exact inv.accepts accepts

/-! ## The answers -/

/-- The frames that were answered, one for each answer. -/
def Connection.answered (s : Connection) : List StreamFrameContext :=
  s.sent.filterMap GatewayMessage.answers

/-- The frame in processing, if there is one. -/
def Connection.inProcessing (s : Connection) : List StreamFrameContext :=
  (s.process.map (·.context)).toList

/-- The processing of a frame with this context raised. -/
def Connection.Failed (s : Connection) (context : StreamFrameContext) : Prop :=
  ∃ p ∈ s.frames, p.stage = .ended none ∧ p.context = context

/-- Each frame that was taken up has one answer, or is the one in processing. When the handler ends, that
one is never answered, or the one whose processing raised and ended the handler; none is left when it ends
after `stop_session`. -/
structure AnswerInv (s : Connection) : Prop where
  working : s.stage.isFinished = false → (s.answered ++ s.inProcessing).Perm s.taken
  ended : (s.answered ++ s.inProcessing).Perm s.taken ∨
    ∃ context, s.Failed context ∧ (s.answered ++ [context]).Perm s.taken
  normal : s.stage = .finished .normal → s.answered.Perm s.taken

theorem AnswerInv.start : AnswerInv settings.start where
  working _ := .nil
  ended := .inl .nil
  normal _ := .nil

/-- The answers among what was sent: the close is none. -/
theorem answered_of_sends {messages : List GatewayMessage} (h : Sends s t messages) :
    t.answered = s.answered ++ messages.filterMap GatewayMessage.answers := by
  unfold Connection.answered
  rcases h with sent | ⟨code, text, sent, -⟩
  · rw [sent, List.filterMap_append]
  · rw [sent, List.filterMap_append, List.filterMap_append]
    exact List.append_nil _

theorem answers_plain {messages : List GatewayMessage} (plain : Plain messages) :
    messages.filterMap GatewayMessage.answers = [] :=
  List.filterMap_eq_nil_iff.2 fun m member => (plain m member).1

theorem answered_quiet (quiet : Quiet s t) : t.answered = s.answered := by
  obtain ⟨messages, sends, plain⟩ := quiet.sends
  rw [answered_of_sends sends, answers_plain plain, List.append_nil]

theorem answered_answers {p : FrameProcess} {outcome : FrameOutcome} (answers : Answers s t p outcome) :
    t.answered = s.answered ++ [p.context] := by
  obtain ⟨messages, sends, plain⟩ := answers.sends
  have first : (GatewayMessage.frame p.context outcome).answers = some p.context := rfl
  rw [answered_of_sends sends, List.filterMap_cons_some first, answers_plain plain]

/-- A step of a frame changes neither its context nor the frame in processing. -/
theorem inProcessing_processes {j : ℕ} {move : ProcessStep} {p q : FrameProcess}
    (h : Processes s t j move p q) : t.inProcessing = s.inProcessing := by
  obtain ⟨found, moved, rfl⟩ := h
  unfold Connection.inProcessing Connection.process
  cases s.processTask with
  | none => rfl
  | some k =>
    dsimp only [Option.bind_some]
    rw [List.getElem?_set]
    split_ifs with place inside
    · subst place
      have identity : q.context = p.context := congrArg (·.1) (processStep_identity moved)
      rw [found, Option.map_some, Option.map_some, identity]
    · rw [List.getElem?_eq_none (by omega)]
    · rfl

/-- A frame whose processing raised stays one in a step of a frame. -/
theorem failed_processes {j : ℕ} {move : ProcessStep} {p q : FrameProcess} (h : Processes s t j move p q)
    (context : StreamFrameContext) (failed : s.Failed context) : t.Failed context := by
  obtain ⟨found, moved, rfl⟩ := h
  obtain ⟨p', member, stage, rfl⟩ := failed
  obtain ⟨i, found'⟩ := List.mem_iff_getElem?.1 member
  by_cases place : j = i
  · subst place
    cases found.symm.trans found'
    have inside := (List.getElem?_eq_some_iff.1 found).1
    have identity : q.context = p.context := congrArg (·.1) (processStep_identity moved)
    exact ⟨q, List.mem_set inside q, processStep_ended stage moved, identity⟩
  · refine ⟨p', List.mem_iff_getElem?.2 ⟨i, ?_⟩, stage, rfl⟩
    rw [← found']
    exact List.getElem?_set_ne place

/-! ## Ending normally -/

theorem takeFrame_stage {metadata : FrameMetadata} {rateAt acceptAt : ℚ} (received : s.received = none)
    (stage : s.stage = .select) : (s.takeFrame settings metadata rateAt acceptAt).stage = .select := by
  rcases takeFrame_cases settings rateAt acceptAt metadata received stage with drops | accepts
  · exact drops.stage
  · obtain ⟨now, result⟩ := accepts.result
    rw [result]
    rfl

theorem controlMessage_normal {control : ControlMessage} (stage : s.stage = .select)
    (normal : (s.controlMessage settings control).stage = .finished .normal) :
    (s.controlMessage settings control).processTask = none := by
  have working {reason : HandlerEnd} (h : s.stage = .finished reason) : False := nomatch stage.symm.trans h
  revert normal
  unfold Connection.controlMessage
  split
  · unfold Connection.startInference
    split
    · exact fun h => (working h).elim
    · exact fun h => (working h).elim
  · exact fun h => (working h).elim
  · unfold Connection.startCalibration
    split
    · exact fun h => (working h).elim
    · exact fun h => (working h).elim
  · unfold Connection.stopSession
    dsimp only
    have kept : (if s.calibrationTask.isSome then s.endCalibration settings else s).stage = s.stage := by
      split <;> rfl
    generalize (if s.calibrationTask.isSome then s.endCalibration settings else s) = u at kept ⊢
    split
    · rename_i idle
      exact fun _ => Option.isNone_iff_eq_none.1 idle
    · exact fun h => (working (kept.symm.trans h)).elim

/-- The handler ends normally only when no frame is in processing. -/
theorem messagePart_normal {rateAt acceptAt : ℚ}
    (normal : (s.messagePart settings rateAt acceptAt).stage = .finished .normal) :
    (s.messagePart settings rateAt acceptAt).processTask = none := by
  revert normal
  unfold Connection.messagePart
  dsimp only
  split
  · exact nofun
  · exact nofun
  · unfold Connection.binaryMessage
    split
    · exact nofun
    · exact nofun
    · exact nofun
    · split
      · intro normal
        rw [takeFrame_stage rfl rfl] at normal
        cases normal
      · exact nofun
  · exact controlMessage_normal rfl
  · exact nofun
  · exact nofun
  · exact nofun

theorem handle_normal {rateAt acceptAt : ℚ} (h : s.handle settings rateAt acceptAt = some t)
    (normal : t.stage = .finished .normal) : t.processTask = none := by
  have goesOn {u : Connection} {process message : Bool}
      (h : (u.afterPart process message).stage = .finished .normal) : False := by
    unfold Connection.afterPart at h
    dsimp only at h
    split at h
    · cases h
    · cases h
  unfold Connection.handle at h
  split at h
  · split at h
    · cases h
      revert normal
      unfold Connection.calibrationPart
      dsimp only
      split
      · rename_i idle
        exact fun _ => idle
      · exact fun h => (goesOn h).elim
    · cases h
  · split at h
    · split at h
      · cases h
        revert normal
        unfold Connection.processPart
        split
        · exact nofun
        · dsimp only
          split
          · exact fun _ => rfl
          · exact fun h => (goesOn h).elim
      · cases h
    · cases h
  · cases h
    exact messagePart_normal normal
  · cases h

/-- A step that ends the handler normally leaves no frame in processing. -/
theorem connectionStep_normal {step : ConnectionStep} (h : connectionStep settings s step = some t)
    (normal : t.stage = .finished .normal) :
    s.stage = .finished .normal ∨ s.stage.isFinished = false ∧ t.inProcessing = [] := by
  cases step with
  | receive message =>
    dsimp only [connectionStep] at h
    split_ifs at h
    cases h
    exact .inl normal
  | calibrated result =>
    obtain ⟨calibration, -, h⟩ := Option.bind_eq_some_iff.1 h
    split_ifs at h
    cases h
    exact .inl normal
  | frame j move =>
    obtain ⟨p, -, h⟩ := Option.bind_eq_some_iff.1 h
    obtain ⟨q, -, rfl⟩ := Option.map_eq_some_iff.1 h
    exact .inl normal
  | wake =>
    dsimp only [connectionStep, Connection.wake] at h
    split_ifs at h
    cases h
    cases normal
  | handle rateAt acceptAt =>
    refine .inr ⟨?_, ?_⟩
    · cases stage : s.stage with
      | finished reason =>
        dsimp only [connectionStep, Connection.handle] at h
        rw [stage] at h
        cases h
      | select => rfl
      | handling calibration process message => rfl
    · unfold Connection.inProcessing Connection.process
      rw [handle_normal h normal]
      rfl

/-- The invariant for a step of a handler that worked. -/
theorem AnswerInv.of_perm (perm : (t.answered ++ t.inProcessing).Perm t.taken)
    (normal : t.stage = .finished .normal → t.inProcessing = []) : AnswerInv t where
  working _ := perm
  ended := .inl perm
  normal h := by
    rw [normal h, List.append_nil] at perm
    exact perm

/-- A step that answers and takes up nothing. -/
theorem AnswerInv.of_same (inv : AnswerInv s) (answered : t.answered = s.answered)
    (inProcessing : t.inProcessing = s.inProcessing) (failed : ∀ context, s.Failed context → t.Failed context)
    (taken : t.taken = s.taken) (later : s.stage.isFinished ≤ t.stage.isFinished)
    (normal : t.stage = .finished .normal →
      s.stage = .finished .normal ∨ s.stage.isFinished = false ∧ t.inProcessing = []) : AnswerInv t where
  working working := by
    rw [answered, inProcessing, taken]
    refine inv.working ?_
    rw [working] at later
    exact Bool.eq_false_of_le_false later
  ended := by
    rw [answered, inProcessing, taken]
    exact inv.ended.imp_right fun ⟨context, raised, perm⟩ => ⟨context, failed context raised, perm⟩
  normal h := by
    rw [answered, taken]
    rcases normal h with before | ⟨working, idle⟩
    · exact inv.normal before
    · have perm := inv.working working
      rwa [← inProcessing, idle, List.append_nil] at perm

theorem AnswerInv.step {step : ConnectionStep} (inv : AnswerInv s)
    (h : connectionStep settings s step = some t) : AnswerInv t := by
  have normal := connectionStep_normal h
  obtain ⟨quiet, later, -⟩ | ⟨j, move, p, q, -, processes⟩ | ⟨rateAt, acceptAt, -, working, rest⟩ :=
    connectionStep_cases h
  · refine inv.of_same (answered_quiet quiet) ?_ (fun context failed => ?_) quiet.taken later normal
    · unfold Connection.inProcessing Connection.process
      rw [quiet.processTask, quiet.same.frames]
    · unfold Connection.Failed
      rwa [quiet.same.frames]
  · have same := inProcessing_processes processes
    have failed := failed_processes processes
    obtain ⟨found, moved, rfl⟩ := processes
    exact inv.of_same rfl same failed rfl le_rfl normal
  · have owed := inv.working working
    replace normal (h : t.stage = .finished .normal) : t.inProcessing = [] := by
      rcases normal h with before | ⟨-, idle⟩
      · rw [before] at working
        cases working
      · exact idle
    rcases rest with ⟨p, outcome, answers⟩ | ⟨p, raises⟩ | ⟨context, drops⟩ | ⟨metadata, accepts⟩
    · have before : s.inProcessing = [p.context] := by
        unfold Connection.inProcessing
        rw [answers.found]
        rfl
      have after : t.inProcessing = [] := by
        unfold Connection.inProcessing Connection.process
        rw [answers.processTask]
        rfl
      refine .of_perm ?_ normal
      rw [answered_answers answers, after, List.append_nil, answers.taken, ← before]
      exact owed
    · have before : s.inProcessing = [p.context] := by
        unfold Connection.inProcessing
        rw [raises.found]
        rfl
      have answered : t.answered = s.answered := by
        unfold Connection.answered
        rw [raises.sent]
      have failed : t.Failed p.context := by
        obtain ⟨i, -, found⟩ := Option.bind_eq_some_iff.1 raises.found
        exact ⟨p, raises.same.frames ▸ List.mem_of_getElem? found, raises.stage, rfl⟩
      refine ⟨fun h => ?_, .inr ⟨p.context, failed, ?_⟩, fun h => ?_⟩
      · rw [raises.raised] at h
        cases h
      · rw [answered, raises.taken, ← before]
        exact owed
      · rw [raises.raised] at h
        cases h
    · have answered : t.answered = s.answered ++ [context] := by
        obtain ⟨reason, retryable, sent⟩ := drops.sent
        unfold Connection.answered
        rw [sent, List.filterMap_append]
        rfl
      have same : t.inProcessing = s.inProcessing := by
        unfold Connection.inProcessing Connection.process
        rw [drops.processTask, drops.same.frames]
      refine .of_perm ?_ normal
      rw [answered, same, drops.taken, List.append_assoc]
      refine (List.perm_append_comm.append_left s.answered).trans ?_
      rw [← List.append_assoc]
      exact owed.append_right [context]
    · have before : s.inProcessing = [] := by
        unfold Connection.inProcessing Connection.process
        rw [accepts.idle]
        rfl
      obtain ⟨now, rfl⟩ := accepts.result
      rw [before, List.append_nil] at owed
      refine .of_perm ?_ normal
      have after : (((({ s with
          received := none
          stage := .select
          taken := s.taken ++ [metadata.context] } : Connection).accept metadata.context
            now).startProcess settings metadata)).inProcessing = [metadata.context] := by
        unfold Connection.inProcessing Connection.process Connection.startProcess Connection.accept
        dsimp only [Option.bind_some]
        rw [List.getElem?_concat_length]
        rfl
      rw [after]
      exact owed.append_right [metadata.context]

/-! ## The last message -/

/-- A close is the last message, and while the handler works there is none. -/
structure CloseInv (s : Connection) : Prop where
  final : ∀ m ∈ s.sent.dropLast, m.isClose = false
  working : s.stage.isFinished = false → ∀ m ∈ s.sent, m.isClose = false

theorem CloseInv.start : CloseInv settings.start where
  final _ member := nomatch member
  working _ _ member := nomatch member

/-- What a working handler sends keeps the invariant. -/
theorem CloseInv.sends {messages : List GatewayMessage} (before : ∀ m ∈ s.sent, m.isClose = false)
    (h : Sends s t messages) (plain : ∀ m ∈ messages, m.isClose = false) : CloseInv t := by
  have all (m : GatewayMessage) (member : m ∈ s.sent ++ messages) : m.isClose = false := by
    rcases List.mem_append.1 member with member | member
    · exact before m member
    · exact plain m member
  rcases h with sent | ⟨code, text, sent, finished⟩
  · refine ⟨fun m member => ?_, fun _ m member => ?_⟩
    · rw [sent] at member
      exact all m (List.mem_of_mem_dropLast member)
    · rw [sent] at member
      exact all m member
  · refine ⟨fun m member => ?_, fun working => ?_⟩
    · rw [sent, List.dropLast_concat] at member
      exact all m member
    · rw [finished] at working
      cases working

theorem CloseInv.step {step : ConnectionStep} (inv : CloseInv s)
    (h : connectionStep settings s step = some t) : CloseInv t := by
  obtain ⟨quiet, later, silent⟩ | ⟨j, move, p, q, -, processes⟩ | ⟨rateAt, acceptAt, -, working, rest⟩ :=
    connectionStep_cases h
  · cases finished : s.stage.isFinished with
    | true =>
      have same := silent finished
      rw [finished] at later
      refine ⟨by rw [same]; exact inv.final, fun working => ?_⟩
      rw [working] at later
      exact absurd later (by decide)
    | false =>
      obtain ⟨messages, sends, plain⟩ := quiet.sends
      exact .sends (inv.working finished) sends fun m member => (plain m member).2
  · obtain ⟨found, moved, rfl⟩ := processes
    exact ⟨inv.final, inv.working⟩
  · have open' := inv.working working
    rcases rest with ⟨p, outcome, answers⟩ | ⟨p, raises⟩ | ⟨context, drops⟩ | ⟨metadata, accepts⟩
    · obtain ⟨messages, sends, plain⟩ := answers.sends
      refine .sends open' sends fun m member => ?_
      rcases List.mem_cons.1 member with rfl | member
      · rfl
      · exact (plain m member).2
    · have silent : Sends s t [] := .inl (by rw [raises.sent, List.append_nil])
      exact .sends open' silent fun _ member => nomatch member
    · obtain ⟨reason, retryable, sent⟩ := drops.sent
      refine .sends open' (.inl sent) fun m member => ?_
      rw [List.mem_singleton.1 member]
      rfl
    · obtain ⟨now, rfl⟩ := accepts.result
      exact ⟨inv.final, fun _ => open'⟩

/-- A handler that sent a close has ended. -/
theorem CloseInv.finished (inv : CloseInv s) (closed : ∃ m ∈ s.sent, m.isClose = true) :
    s.stage.isFinished = true := by
  obtain ⟨m, member, isClose⟩ := closed
  by_contra working
  rw [inv.working (by simpa using working) m member] at isClose
  cases isClose

/-! ## One frame at a time -/

/-- A frame whose coroutine has not ended is the one in processing. -/
def OneInv (s : Connection) : Prop :=
  ∀ (i : ℕ) p, s.frames[i]? = some p → p.ended = false → s.processTask = some i

theorem OneInv.step {step : ConnectionStep} (inv : OneInv s)
    (h : connectionStep settings s step = some t) : OneInv t := by
  intro i p found running
  have stays {p : FrameProcess} (h : p.ended = false) {outcome : Option FrameOutcome}
      (stage : p.stage = .ended outcome) : False := by
    unfold FrameProcess.ended at h
    rw [stage] at h
    cases h
  obtain ⟨quiet, -, -⟩ | ⟨j, move, p', q, -, processes⟩ | ⟨rateAt, acceptAt, -, -, rest⟩ :=
    connectionStep_cases h
  · rw [quiet.same.frames] at found
    rw [quiet.processTask]
    exact inv i p found running
  · obtain ⟨found', moved, rfl⟩ := processes
    dsimp only at found ⊢
    rw [List.getElem?_set] at found
    split_ifs at found with place inside
    · subst place
      cases found
      refine inv j p' found' ?_
      by_contra ended
      cases stage : p'.stage with
      | ended outcome => exact stays running (processStep_ended stage moved)
      | _ =>
        unfold FrameProcess.ended at ended
        rw [stage] at ended
        exact ended rfl
    · exact inv i p found running
  · -- the frame that was in processing has ended
    have settled {p' : FrameProcess} {outcome : Option FrameOutcome} (current : s.process = some p')
        (stage : p'.stage = .ended outcome) (found : s.frames[i]? = some p) : False := by
      unfold Connection.process at current
      rw [inv i p found running, Option.bind_some, found] at current
      cases current
      exact stays running stage
    rcases rest with ⟨p', outcome, answers⟩ | ⟨p', raises⟩ | ⟨context, drops⟩ | ⟨metadata, accepts⟩
    · rw [answers.same.frames] at found
      exact (settled answers.found answers.stage found).elim
    · rw [raises.same.frames] at found
      exact (settled raises.found raises.stage found).elim
    · rw [drops.same.frames] at found
      rw [drops.processTask]
      exact inv i p found running
    · obtain ⟨now, rfl⟩ := accepts.result
      rcases getElem?_concat_cases found with found | ⟨rfl, -⟩
      · have current := inv i p found running
        rw [accepts.idle] at current
        cases current
      · rfl

end

/-- **Every frame is answered once.** In every run: accepted frames have rising sequences and epochs that
do not fall, and a key is not accepted again among the next 512; one frame at most is in processing; the
keys are those of the window; each frame that is taken up has exactly one answer with its context, the
one in processing when the handler ends without `stop_session` apart; and nothing follows a close. -/
theorem frames_answered {settings : Settings} {ls : List ConnectionStep} {s : Connection}
    (run : Steps (connectionStep settings) Free settings.start ls s) :
    (s.accepted.map (·.sequence)).Pairwise (· < ·) ∧
    (s.accepted.map (·.playbackEpoch)).Pairwise (· ≤ ·) ∧
    (∀ (i j : ℕ) key, i < j → (s.accepted.map frameKey)[i]? = some key →
      (s.accepted.map frameKey)[j]? = some key → i + frameWindow < j) ∧
    (∀ (i j : ℕ) p q, s.frames[i]? = some p → s.frames[j]? = some q → p.ended = false →
      q.ended = false → i = j) ∧
    (s.frameKeys = s.frameOrder.toFinset ∧ s.frameKeys.card ≤ frameWindow) ∧
    AnswerInv s ∧
    ((∃ m ∈ s.sent, m.isClose = true) →
      ∀ step t, connectionStep settings s step = some t → t.sent = s.sent) := by
  have order : OrderInv s := run.invariant (fun _ _ _ inv _ h => inv.step h) .start
  have answer : AnswerInv s := run.invariant (fun _ _ _ inv _ h => inv.step h) .start
  have close : CloseInv s := run.invariant (fun _ _ _ inv _ h => inv.step h) .start
  have one : OneInv s := run.invariant (fun _ _ _ inv _ h => inv.step h) fun _ _ found => nomatch found
  refine ⟨order.sequences, order.epochs, order.apart, fun i j p q first second hp hq => ?_,
    ⟨order.keys, ?_⟩, answer, fun closed step t h => ?_⟩
  · have same := one i p first hp
    rw [one j q second hq] at same
    exact (Option.some.inj same).symm
  · rw [order.keys]
    refine (List.toFinset_card_le _).trans ?_
    rw [order.window, length_rtake]
    exact min_le_left _ _
  · have finished := close.finished closed
    obtain ⟨-, -, silent⟩ | ⟨j, move, p, q, -, processes⟩ | ⟨rateAt, acceptAt, -, working, -⟩ :=
      connectionStep_cases h
    · exact silent finished
    · rw [processes.result]
    · rw [finished] at working
      cases working

/-! ## A frame that is not answered, and one that is accepted again -/

/-- The frames of this session among the messages that were received. -/
def deliveredFrames (settings : Settings) (ls : List ConnectionStep) : List StreamFrameContext :=
  ls.filterMap fun step =>
    match step with
    | .receive (.binary (.ok binary)) =>
      if Connection.validates settings binary.metadata then some binary.metadata.context else none
    | _ => none

/-- A session without a Face worker in which nothing is going on, after frames with these contexts. -/
structure Resting (settings : Settings) (contexts : List StreamFrameContext) (s : Connection) : Prop where
  stage : s.stage = .select
  received : s.received = none
  processTask : s.processTask = none
  calibrationTask : s.calibrationTask = none
  closeRequested : s.closeRequested = none
  inferenceStarted : s.inferenceStarted = true
  calibrationStarted : s.calibrationStarted = false
  maxFps : s.maxFps = settings.maxFps
  idle : ∀ p ∈ s.frames, p.pending = []
  accepted : s.accepted = contexts

/-- One frame arrives, is accepted, and is answered when Eye does not. -/
def oneFrame (j : ℕ) (context : StreamFrameContext) (now : ℚ) : List ConnectionStep :=
  arrives (.binary (.ok (frameOf context none))) now ++
    [.frame j .begin, .frame j (.eyeDone (.error .other)), .frame j (.resume false), .wake, .handle now now]

/-- A step of the frame accepted last. -/
theorem connectionStep_last {settings : Settings} {s : Connection} {frames : List FrameProcess}
    {p q : FrameProcess} {move : ProcessStep} (all : s.frames = frames ++ [p])
    (moved : processStep s.inferenceStarted p move = some q) :
    connectionStep settings s (.frame frames.length move) = some { s with frames := frames ++ [q] } := by
  have found : s.frames[frames.length]? = some p := by
    rw [all]
    exact List.getElem?_concat_length
  have replaced : s.frames.set frames.length q = frames ++ [q] := by
    rw [all, List.set_append_right _ _ le_rfl, Nat.sub_self]
    rfl
  dsimp only [connectionStep]
  rw [found, Option.bind_some, moved, Option.map_some, replaced]

/-- A frame that was just accepted in a session without a Face worker and without a calibration. -/
def freshFrame (context : StreamFrameContext) : FrameProcess where
  context
  marked := false
  calibrating := false
  path := .gazeOnly

/-- The frame accepted last is processed, which Eye fails to do, and answered. -/
theorem oneFrame_answered (settings : Settings) (now : ℚ) {s : Connection} {frames : List FrameProcess}
    {context : StreamFrameContext} (stage : s.stage = .select) (received : s.received = none)
    (calibrationTask : s.calibrationTask = none) (closeRequested : s.closeRequested = none)
    (inferenceStarted : s.inferenceStarted = true) (all : s.frames = frames ++ [freshFrame context])
    (processTask : s.processTask = some frames.length) :
    ∃ q outcome, q.pending = [] ∧ q.context = context ∧ Steps (connectionStep settings) Free s
      [.frame frames.length .begin, .frame frames.length (.eyeDone (.error .other)),
        .frame frames.length (.resume false), .wake, .handle now now]
      { s with
        stage := .select
        frames := frames ++ [q]
        processTask := none
        sent := s.sent ++ [.frame context outcome] } := by
  let p₁ : FrameProcess := { freshFrame context with eyeTask := .running, stage := .eye }
  let p₂ : FrameProcess := { p₁ with eyeTask := .done (.error .other) }
  let p₃ : FrameProcess := p₂.gazeResult (.error "eye_worker_unavailable") (some "not_observed")
  have h₁ : connectionStep settings s (.frame frames.length .begin) =
      some { s with frames := frames ++ [p₁] } := by
    refine connectionStep_last all ?_
    rw [inferenceStarted]
    rfl
  have h₂ : connectionStep settings { s with frames := frames ++ [p₁] }
      (.frame frames.length (.eyeDone (.error .other))) = some { s with frames := frames ++ [p₂] } :=
    connectionStep_last rfl rfl
  have h₃ : connectionStep settings { s with frames := frames ++ [p₂] }
      (.frame frames.length (.resume false)) = some { s with frames := frames ++ [p₃] } :=
    connectionStep_last rfl rfl
  have current : ({ s with frames := frames ++ [p₃] } : Connection).process = some p₃ := by
    unfold Connection.process
    dsimp only
    rw [processTask, Option.bind_some]
    exact List.getElem?_concat_length
  have h₄ : connectionStep settings { s with frames := frames ++ [p₃] } .wake =
      some { s with frames := frames ++ [p₃], stage := .handling false true false } := by
    dsimp only [connectionStep, Connection.wake]
    rw [current, calibrationTask, received, stage]
    rfl
  have h₅ : connectionStep settings { s with
      frames := frames ++ [p₃]
      stage := .handling false true false } (.handle now now) = some { s with
      stage := .select
      frames := frames ++ [p₃]
      processTask := none
      sent := s.sent ++ [.frame context
        (.result none none (some "eye_worker_unavailable") none (some "not_observed"))] } := by
    have current' : ({ s with
        frames := frames ++ [p₃]
        stage := .handling false true false } : Connection).process = some p₃ := current
    dsimp only [connectionStep, Connection.handle]
    rw [current']
    change some (Connection.processPart _ false p₃ (some _)) = _
    unfold Connection.processPart
    dsimp only
    rw [closeRequested]
    rfl
  exact ⟨p₃, _, rfl, rfl, .cons trivial h₁ (.cons trivial h₂ (.cons trivial h₃ (.cons trivial h₄
    (.single trivial h₅))))⟩

theorem takeFrame_accepts {settings : Settings} {s : Connection} {metadata : FrameMetadata}
    {rateAt acceptAt : ℚ} (passes : s.rejectionReason metadata.context = none)
    (processTask : s.processTask = none) (noWork : s.hasPendingWork = false)
    (rate : s.rateLimited rateAt = false) (unmarked : metadata.calibrationTarget = none)
    (inferenceStarted : s.inferenceStarted = true) :
    s.takeFrame settings metadata rateAt acceptAt = (({ s with
      taken := s.taken ++ [metadata.context] } : Connection).accept metadata.context
        acceptAt).startProcess settings metadata := by
  have passes' : ({ s with taken := s.taken ++ [metadata.context] } : Connection).rejectionReason
      metadata.context = none := passes
  have noWork' : ({ s with taken := s.taken ++ [metadata.context] } : Connection).hasPendingWork =
      false := noWork
  have rate' : ({ s with taken := s.taken ++ [metadata.context] } : Connection).rateLimited rateAt =
      false := rate
  unfold Connection.takeFrame
  dsimp only
  rw [passes', noWork', rate']
  dsimp only
  rw [processTask, unmarked, inferenceStarted]
  rfl

theorem accepts_oneFrame {s : Connection} {contexts : List StreamFrameContext}
    (context : StreamFrameContext) {now : ℚ} (resting : Resting (visitorSettings false) contexts s)
    (own : Connection.validates (visitorSettings false) (frameOf context none).metadata = true)
    (passes : s.rejectionReason context = none) (rate : s.rateLimited now = false) :
    ∃ t, Steps (connectionStep (visitorSettings false)) Free s
      (oneFrame s.frames.length context now) t ∧
      Resting (visitorSettings false) (contexts ++ [context]) t ∧ t.lastReceivedAt = some now ∧
      t.lastSequence = context.sequence ∧ t.currentEpoch = some context.playbackEpoch := by
  have noWork : s.hasPendingWork = false := by
    unfold Connection.hasPendingWork
    exact List.any_eq_false.2 fun p member => by rw [resting.idle p member]; exact nofun
  have h₁ : connectionStep (visitorSettings false) s (.receive (.binary (.ok (frameOf context none)))) =
      some { s with received := some (.binary (.ok (frameOf context none))) } := by
    dsimp only [connectionStep]
    rw [resting.received, resting.stage]
    rfl
  have h₂ : connectionStep (visitorSettings false)
      { s with received := some (.binary (.ok (frameOf context none))) } .wake =
      some { s with
        received := some (.binary (.ok (frameOf context none)))
        stage := .handling false false true } := by
    dsimp only [connectionStep, Connection.wake, Connection.process]
    rw [resting.processTask, resting.calibrationTask, resting.stage]
    rfl
  let u : Connection := (({ s with
      received := none
      stage := .select
      taken := s.taken ++ [context] } : Connection).accept context now).startProcess (visitorSettings false)
        (frameOf context none).metadata
  have h₃ : connectionStep (visitorSettings false) { s with
      received := some (.binary (.ok (frameOf context none)))
      stage := .handling false false true } (.handle now now) = some u := by
    dsimp only [connectionStep, Connection.handle, Connection.messagePart, Connection.binaryMessage]
    rw [if_pos own]
    exact congrArg some (takeFrame_accepts (s := { s with received := none, stage := .select }) passes
      resting.processTask noWork rate rfl resting.inferenceStarted)
  have frames : u.frames = s.frames ++ [freshFrame context] := by
    change s.frames ++ [({
      context
      marked := false
      calibrating := s.calibrationStarted
      path := if s.calibrationStarted && !s.inferenceStarted then .calibration
        else if false then .face else .gazeOnly } : FrameProcess)] = _
    rw [resting.calibrationStarted]
    rfl
  obtain ⟨q, outcome, pending, own', run⟩ := oneFrame_answered (visitorSettings false) now (s := u) rfl rfl
    resting.calibrationTask resting.closeRequested resting.inferenceStarted
    frames rfl
  refine ⟨_, .cons trivial h₁ (.cons trivial h₂ (.cons trivial h₃ run)), {
    stage := rfl
    received := rfl
    processTask := rfl
    calibrationTask := resting.calibrationTask
    closeRequested := resting.closeRequested
    inferenceStarted := resting.inferenceStarted
    calibrationStarted := resting.calibrationStarted
    maxFps := resting.maxFps
    idle := ?_
    accepted := ?_ }, rfl, rfl, ?_⟩
  · intro p member
    rcases List.mem_append.1 member with member | member
    · exact resting.idle p member
    · rw [List.mem_singleton.1 member]
      exact pending
  · unfold Connection.accepted
    dsimp only
    rw [List.map_append, List.map_singleton, own', ← resting.accepted]
    rfl
  · exact accept_currentEpoch (s := { s with
      received := none
      stage := .select
      taken := s.taken ++ [context] }) context now (rejectionReason_eq_none passes).2.1

/-- A session after the first `n` frames, one a second. -/
structure AfterFrames (n : ℕ) (s : Connection) : Prop where
  resting : Resting (visitorSettings false) ((List.range n).map contextOf) s
  lastSequence : s.lastSequence = n - 1
  currentEpoch : ∀ epoch, s.currentEpoch = some epoch → epoch = 0
  lastReceivedAt : ∀ last, s.lastReceivedAt = some last → last = n - 1

theorem frameKey_contextOf_inj {n m : ℕ} (h : frameKey (contextOf n) = frameKey (contextOf m)) : n = m := by
  have ids : ("frame-" ++ toString n).toList = ("frame-" ++ toString m).toList :=
    congrArg (fun key => key.2.toList) h
  rw [String.toList_append, String.toList_append] at ids
  have digits := List.append_cancel_left ids
  have read := congrArg (Nat.ofDigitChars 10 · 0) digits
  simpa using read

/-- The clock allows a frame a second after the last one. -/
theorem AfterFrames.rate {n : ℕ} {s : Connection} (h : AfterFrames n s) : s.rateLimited n = false := by
  unfold Connection.rateLimited
  rw [h.resting.maxFps]
  cases last : s.lastReceivedAt with
  | none => rfl
  | some at' =>
    rw [Option.any_some, decide_eq_false_iff_not, h.lastReceivedAt at' last]
    have : (visitorSettings false).maxFps = 4 := rfl
    rw [this]
    norm_num

theorem exists_afterFrames (n : ℕ) : ∃ ls s,
    Steps (connectionStep (visitorSettings false)) Free (visitorSettings false).start ls s ∧
      AfterFrames n s := by
  induction n with
  | zero =>
    let message : Incoming := .text (some { requestId := "control-1", action := .startInference, pattern := none })
    let s₀ := (visitorSettings false).start
    let s₁ : Connection := { s₀ with received := some message }
    let s₂ : Connection := { s₁ with stage := .handling false false true }
    let s₃ : Connection := { s₀ with
      inferenceStarted := true
      sent := [.controlResult "control-1" .startInference true none none] }
    have h₁ : connectionStep (visitorSettings false) s₀ (.receive message) = some s₁ := rfl
    have h₂ : connectionStep (visitorSettings false) s₁ .wake = some s₂ := rfl
    have h₃ : connectionStep (visitorSettings false) s₂ (.handle 0 0) = some s₃ := rfl
    refine ⟨_, s₃, .cons trivial h₁ (.cons trivial h₂ (.single trivial h₃)), {
      resting := ?_
      lastSequence := rfl
      currentEpoch := fun _ known => nomatch known
      lastReceivedAt := fun _ known => nomatch known }⟩
    exact {
      stage := rfl
      received := rfl
      processTask := rfl
      calibrationTask := rfl
      closeRequested := rfl
      inferenceStarted := rfl
      calibrationStarted := rfl
      maxFps := rfl
      idle := fun _ member => nomatch member
      accepted := rfl }
  | succ n ih =>
    obtain ⟨ls, s, run, after⟩ := ih
    have order : OrderInv s := run.invariant (fun _ _ _ inv _ h => inv.step h) .start
    have unknown : frameKey (contextOf n) ∉ s.frameKeys := by
      rw [order.keys, order.window, List.mem_toFinset, after.resting.accepted]
      intro member
      have member := List.mem_of_mem_drop member
      rw [List.map_map, List.mem_map] at member
      obtain ⟨m, earlier, same⟩ := member
      rw [frameKey_contextOf_inj same, List.mem_range] at earlier
      exact lt_irrefl n earlier
    have fresh : s.rejectionReason (contextOf n) = none :=
      passes_of_later unknown (fun epoch known => (after.currentEpoch epoch known).le) (by
        rw [after.lastSequence]
        change (n : ℤ) - 1 < n
        omega)
    obtain ⟨t, one, resting, received, sequence, epoch⟩ :=
      accepts_oneFrame (contextOf n) after.resting rfl fresh after.rate
    refine ⟨_, t, run.trans one, ?_, ?_, ?_, ?_⟩
    · rw [List.range_succ, List.map_append]
      exact resting
    · rw [sequence]
      change (n : ℤ) = _
      omega
    · intro e known
      rw [epoch] at known
      cases known
      rfl
    · intro last known
      rw [received] at known
      cases known
      push_cast
      ring

/-- A frame is read while the one before it is in processing and the session is being stopped. -/
def stoppedSession : List ConnectionStep :=
  controlArrives .startInference 0 ++ frameArrives 1 1 ++ [.frame 0 .begin] ++
    controlArrives .stopSession 2 ++
    [.receive (.binary (.ok (frameOf (contextOf 2) none))), .frame 0 (.eyeDone (.error .other)),
      .frame 0 (.resume false), .wake, .handle 3 3]

theorem stoppedSession_unanswered : ∃ s,
    Steps (connectionStep (visitorSettings false)) Free (visitorSettings false).start stoppedSession s ∧
      s.stage = .finished .normal ∧
      (s.sent.filterMap GatewayMessage.answers).length <
        (deliveredFrames (visitorSettings false) stoppedSession).length := by
  have reached : ∃ s,
      Steps (connectionStep (visitorSettings false)) Free (visitorSettings false).start stoppedSession s ∧
      (decide (s.stage = .finished .normal) && decide ((s.sent.filterMap GatewayMessage.answers).length <
        (deliveredFrames (visitorSettings false) stoppedSession).length)) = true :=
    exists_steps_of_any (by decide +kernel)
  obtain ⟨s, run, ends⟩ := reached
  simp only [Bool.and_eq_true, decide_eq_true_eq] at ends
  exact ⟨s, run, ends⟩

theorem frames_answered_stopped : ∃ s,
    Steps (connectionStep (visitorSettings false)) Free (visitorSettings false).start stoppedSession s ∧
      s.stage = .finished .normal ∧ AnswerInv s := by
  obtain ⟨s, run, stage, -⟩ := stoppedSession_unanswered
  obtain ⟨-, -, -, -, -, answer, -⟩ := frames_answered run
  exact ⟨s, run, stage, answer⟩

/-- The first key comes again when as many frames as the window holds came after it. -/
theorem exists_frameKey_again : ∃ ls s,
    Steps (connectionStep (visitorSettings false)) Free (visitorSettings false).start ls s ∧
      (s.accepted.map frameKey)[0]? = (s.accepted.map frameKey)[frameWindow + 1]? ∧
      (s.accepted.map frameKey)[0]?.isSome := by
  obtain ⟨ls, s, run, after⟩ := exists_afterFrames (frameWindow + 1)
  have order : OrderInv s := run.invariant (fun _ _ _ inv _ h => inv.step h) .start
  let again : StreamFrameContext := { contextOf 0 with sequence := frameWindow + 1 }
  have forgotten : frameKey again ∉ s.frameKeys := by
    rw [order.keys, order.window, List.mem_toFinset, after.resting.accepted, List.map_map,
      List.range_succ_eq_map, List.map_cons, rtake_cons (by simp)]
    intro member
    obtain ⟨m, later, same⟩ := List.mem_map.1 member
    have zero : m = 0 := frameKey_contextOf_inj same
    obtain ⟨k, -, successor⟩ := List.mem_map.1 later
    rw [zero] at successor
    cases successor
  have passes : s.rejectionReason again = none :=
    passes_of_later forgotten (fun epoch known => (after.currentEpoch epoch known).le) (by
      rw [after.lastSequence]
      change ((frameWindow + 1 : ℕ) : ℤ) - 1 < ((frameWindow + 1 : ℕ) : ℤ)
      omega)
  obtain ⟨t, one, resting, -⟩ := accepts_oneFrame again after.resting rfl passes after.rate
  have accepted : t.accepted = (List.range (frameWindow + 1)).map contextOf ++ [again] := resting.accepted
  refine ⟨_, t, run.trans one, ?_⟩
  rw [accepted, List.map_append]
  constructor
  · rw [List.getElem?_append_left (by simp), List.getElem?_append_right (by simp)]
    simp
    rfl
  · rw [List.getElem?_append_left (by simp)]
    simp

/-- Neither is a key accepted once only, nor is every frame answered. -/
theorem frame_unanswered :
    (¬ ∀ (settings : Settings) ls s, Steps (connectionStep settings) Free settings.start ls s →
      ∀ (i j : ℕ) key, (s.accepted.map frameKey)[i]? = some key →
        (s.accepted.map frameKey)[j]? = some key → i = j) ∧
    ¬ ∀ (settings : Settings) ls s, Steps (connectionStep settings) Free settings.start ls s →
      s.stage = .finished .normal →
        (s.sent.filterMap GatewayMessage.answers).Perm (deliveredFrames settings ls) := by
  constructor
  · intro claim
    obtain ⟨ls, s, run, same, known⟩ := exists_frameKey_again
    obtain ⟨key, first⟩ := Option.isSome_iff_exists.1 known
    have twice := claim _ ls s run 0 (frameWindow + 1) key first (same ▸ first)
    cases twice
  · intro claim
    obtain ⟨s, run, stage, fewer⟩ := stoppedSession_unanswered
    exact fewer.ne (claim _ _ s run stage).length_eq

end Mkk.Gateway
