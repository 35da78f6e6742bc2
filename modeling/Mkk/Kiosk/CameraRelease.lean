import Mkk.Kiosk.FrameSource

/-!
# The camera is given back

What `FrameSource` keeps in every run: `OpenInv` for the tracks, `CaptureInv` for the pictures.
`camera_released` states the consequences.
-/

namespace Mkk.Kiosk

open Lib

/-! ## Tracks -/

/-- An operation that may still open is the one `openTask` names, nothing is held meanwhile, and a
live track is of that operation or of the stream that is held. -/
structure OpenInv (s : FrameSource) : Prop where
  task : ∀ i, s.openTask = some i → ∃ op, s.opens[i]? = some op ∧
    op.active s.lifecycleGeneration = true
  old : ∀ (i : ℕ) op, s.opens[i]? = some op → op.generation ≤ s.lifecycleGeneration
  pending : ∀ (i : ℕ) op, s.opens[i]? = some op → op.opening = true →
    op.active s.lifecycleGeneration = true → s.openTask = some i ∧ s.stream = none
  owned : ∀ (i : ℕ) op, s.opens[i]? = some op → op.stream = true → op.opening = true ∧
    op.active s.lifecycleGeneration = true
  live : ∀ (i : ℕ) op, s.opens[i]? = some op → op.live = true → op.stream = true ∨ s.stream = some i
  both : s.stream = s.video
  shut : s.reopened = false → s.stream = none ∧ ∀ (i : ℕ) op, s.opens[i]? = some op →
    op.opening = true → op.active s.lifecycleGeneration = false

section
variable {s t : FrameSource} {i : ℕ} {op op' : OpenOperation}

theorem OpenInv.start (devices : Bool) : OpenInv { mediaDevices := devices } where
  task _ h := nomatch h
  old _ _ h := nomatch h
  pending _ _ h := nomatch h
  owned _ _ h := nomatch h
  live _ _ h := nomatch h
  both := rfl
  shut _ := ⟨rfl, fun _ _ h => nomatch h⟩

/-- What an operation may become when only it moves. -/
structure Moves (s : FrameSource) (i : ℕ) (op op' : OpenOperation) : Prop where
  generation : op'.generation = op.generation
  aborted : op'.aborted = op.aborted
  opening : op'.opening = true → op.opening = true
  owned : op'.stream = true → op'.opening = true ∧ op'.active s.lifecycleGeneration = true
  live : op'.live = true → op'.stream = true ∨ s.stream = some i

theorem Moves.active (moves : Moves s i op op') (generation : ℕ) :
    op'.active generation = op.active generation := by
  unfold OpenOperation.active
  rw [moves.generation, moves.aborted]

/-- An operation that fails gives its stream back. -/
theorem Moves.fail (error : Thrown) (live : op.live = true → op.stream = true ∨ s.stream = some i) :
    Moves s i op (op.fail s.lifecycleGeneration error) where
  generation := rfl
  aborted := rfl
  opening h := nomatch h
  owned h := nomatch h
  live h := by
    simp only [OpenOperation.fail, OpenOperation.releaseOpenResources, Bool.and_eq_true,
      Bool.not_eq_true'] at h
    rcases live h.1 with held | stream
    · rw [h.2] at held
      cases held
    · exact .inr stream

theorem OpenInv.modify (inv : OpenInv s) (found : s.opens[i]? = some op)
    {f : OpenOperation → OpenOperation} (moves : Moves s i op (f op)) :
    OpenInv (s.modifyOpen i f) where
  task k hk := by
    obtain ⟨op₁, found₁, active⟩ := inv.task k hk
    refine ⟨if i = k then f op₁ else op₁, ?_, ?_⟩
    · unfold FrameSource.modifyOpen
      rw [List.getElem?_modify, found₁]
      rfl
    · split_ifs with same
      · subst same
        rw [found] at found₁
        cases found₁
        exact (moves.active _).trans active
      · exact active
  old k op' h := by
    obtain ⟨op₁, found₁, rfl⟩ := getElem?_modify_cases h
    split_ifs with same
    · subst same
      rw [found] at found₁
      cases found₁
      rw [moves.generation]
      exact inv.old _ _ found
    · exact inv.old k op₁ found₁
  pending k op' h opening active := by
    obtain ⟨op₁, found₁, rfl⟩ := getElem?_modify_cases h
    split_ifs at opening active with same
    · subst same
      rw [found] at found₁
      cases found₁
      exact inv.pending _ _ found (moves.opening opening) ((moves.active _).symm.trans active)
    · exact inv.pending k op₁ found₁ opening active
  owned k op' h held := by
    obtain ⟨op₁, found₁, rfl⟩ := getElem?_modify_cases h
    split_ifs at held ⊢ with same
    · subst same
      rw [found] at found₁
      cases found₁
      exact moves.owned held
    · exact inv.owned k op₁ found₁ held
  live k op' h live := by
    obtain ⟨op₁, found₁, rfl⟩ := getElem?_modify_cases h
    split_ifs at live ⊢ with same
    · subst same
      rw [found] at found₁
      cases found₁
      exact moves.live live
    · exact inv.live k op₁ found₁ live
  both := inv.both
  shut closed := by
    obtain ⟨none, inactive⟩ := inv.shut closed
    refine ⟨none, fun k op' h opening => ?_⟩
    obtain ⟨op₁, found₁, rfl⟩ := getElem?_modify_cases h
    split_ifs at opening ⊢ with same
    · subst same
      rw [found] at found₁
      cases found₁
      exact (moves.active _).trans (inactive _ _ found (moves.opening opening))
    · exact inactive k op₁ found₁ opening

theorem OpenInv.beginOpen (inv : OpenInv s) : OpenInv s.beginOpen := by
  unfold FrameSource.beginOpen
  dsimp only
  split
  · exact { inv with shut := fun h => nomatch h }
  · rename_i idle
    simp only [Bool.or_eq_true, Bool.not_eq_true', not_or, Bool.not_eq_true, Bool.not_eq_false,
      Option.isSome_eq_false_iff, Option.isNone_iff_eq_none] at idle
    obtain ⟨⟨closed, running⟩, -⟩ := idle
    have free : s.openTask = none := by
      cases task : s.openTask with
      | none => rfl
      | some i =>
        obtain ⟨op, found, active⟩ := inv.task i task
        simp only [OpenOperation.active, Bool.and_eq_true, Bool.not_eq_true'] at active
        rw [task, Option.bind_some, found, Option.filter_some, active.1] at running
        cases running
    have empty : s.stream = none := by
      have both := inv.both
      cases held : s.stream with
      | none => rfl
      | some i =>
        have opened : s.isOpen = true := by
          unfold FrameSource.isOpen
          rw [← both, held]
          rfl
        exact absurd (opened.symm.trans closed) (by decide)
    exact {
      task := by
        intro k hk
        cases hk
        refine ⟨_, List.getElem?_concat_length, ?_⟩
        simp [OpenOperation.active]
      old := by
        intro k op h
        rcases getElem?_concat_cases h with h | ⟨-, rfl⟩
        · exact inv.old k op h
        · exact le_rfl
      pending := by
        intro k op h opening active
        rcases getElem?_concat_cases h with h | ⟨rfl, rfl⟩
        · have := (inv.pending k op h opening active).1
          rw [free] at this
          cases this
        · exact ⟨rfl, empty⟩
      owned := by
        intro k op h held
        rcases getElem?_concat_cases h with h | ⟨-, rfl⟩
        · exact inv.owned k op h held
        · cases held
      live := by
        intro k op h live
        rcases getElem?_concat_cases h with h | ⟨-, rfl⟩
        · exact inv.live k op h live
        · cases live
      both := inv.both
      shut := fun h => nomatch h }

theorem OpenInv.mediaReady (inv : OpenInv s) (found : s.opens[i]? = some op)
    (waits : op.stage = .media) (result : MediaResult) : OpenInv (s.mediaReady i op result) := by
  have live := inv.live i op found
  have opening : op.opening = true := by
    unfold OpenOperation.opening
    rw [waits]
  have acquired (error : Thrown) : Moves s i op
      ({ op with stream := true, live := true }.fail s.lifecycleGeneration error) :=
    let acquiredOp : OpenOperation := { op with stream := true, live := true }
    have failed : Moves s i acquiredOp (acquiredOp.fail s.lifecycleGeneration error) :=
      .fail error fun _ => .inl rfl
    { failed with opening := fun h => nomatch h }
  cases result with
  | denied name => exact inv.modify found (.fail _ live)
  | stream videoTracks videoError =>
    unfold FrameSource.mediaReady
    dsimp only
    split_ifs with cancelled
    · exact inv.modify found (acquired _)
    · exact inv.modify found (acquired _)
    · cases videoError with
      | some name => exact inv.modify found (acquired _)
      | none =>
        refine inv.modify found ⟨rfl, rfl, fun _ => opening, fun _ => ⟨rfl, ?_⟩, fun _ => .inl rfl⟩
        rwa [Bool.not_eq_true', Bool.not_eq_false] at cancelled

theorem OpenInv.played (inv : OpenInv s) (found : s.opens[i]? = some op)
    (waits : op.stage = .play) (error : Option Thrown) : OpenInv (s.played i error) := by
  have opening : op.opening = true := by
    unfold OpenOperation.opening
    rw [waits]
  cases error with
  | some error => exact inv.modify found (.fail error (inv.live i op found))
  | none =>
    exact inv.modify found ⟨rfl, rfl, fun _ => opening,
      fun held => ⟨rfl, (inv.owned i op found held).2⟩, inv.live i op found⟩

theorem OpenInv.dataReady (inv : OpenInv s) (found : s.opens[i]? = some op)
    (waits : op.stage = .data) (error : Option Thrown) : OpenInv (s.dataReady i op error) := by
  have opening : op.opening = true := by
    unfold OpenOperation.opening
    rw [waits]
  cases error with
  | some error => exact inv.modify found (.fail error (inv.live i op found))
  | none =>
    unfold FrameSource.dataReady
    dsimp only
    split_ifs with cancelled
    · exact inv.modify found (.fail _ (inv.live i op found))
    · -- the stream is handed over; no other operation may open
      rw [Bool.not_eq_true', Bool.not_eq_false] at cancelled
      obtain ⟨task, empty⟩ := inv.pending i op found opening cancelled
      have alone {k : ℕ} {op' : OpenOperation} (h : s.opens[k]? = some op')
          (opens : op'.opening = true) (active : op'.active s.lifecycleGeneration = true) : i = k := by
        have := (inv.pending k op' h opens active).1
        rw [task] at this
        exact Option.some.inj this
      exact {
        task := by
          intro k hk
          obtain ⟨op₁, found₁, active⟩ := inv.task k hk
          refine ⟨_, by
            unfold FrameSource.modifyOpen
            rw [List.getElem?_modify, found₁]
            rfl, ?_⟩
          dsimp only
          split_ifs
          · exact active
          · exact active
        old := by
          intro k op' h
          obtain ⟨op₁, found₁, rfl⟩ := getElem?_modify_cases h
          split_ifs
          · exact inv.old k op₁ found₁
          · exact inv.old k op₁ found₁
        pending := by
          intro k op' h opens active
          obtain ⟨op₁, found₁, rfl⟩ := getElem?_modify_cases h
          split_ifs at opens active with same
          · cases opens
          · exact absurd (alone found₁ opens active) same
        owned := by
          intro k op' h held
          obtain ⟨op₁, found₁, rfl⟩ := getElem?_modify_cases h
          split_ifs at held ⊢
          exact inv.owned k op₁ found₁ held
        live := by
          intro k op' h live
          obtain ⟨op₁, found₁, rfl⟩ := getElem?_modify_cases h
          split_ifs at live ⊢ with same
          · exact .inr (congrArg some same)
          · rcases inv.live k op₁ found₁ live with held | stream
            · exact .inl held
            · rw [empty] at stream
              cases stream
        both := rfl
        shut := by
          intro closed
          have := (inv.shut closed).2 i op found opening
          rw [cancelled] at this
          cases this }

theorem OpenInv.settleOpen (inv : OpenInv s) (found : s.opens[i]? = some op)
    {error : Option CameraAccessErrorCode} (waits : op.stage = .settled error) :
    OpenInv (s.settleOpen i op error) := by
  have done : op.opening = false := by
    unfold OpenOperation.opening
    rw [waits]
  unfold FrameSource.settleOpen
  dsimp only
  generalize (if error.isNone && !op.active s.lifecycleGeneration then
    some CameraAccessErrorCode.cancelled else error) = outcome
  have moved : OpenInv (s.modifyOpen i fun op => { op with stage := .ended outcome }) := by
    refine inv.modify found ⟨rfl, rfl, (fun h => nomatch h), fun held => ?_, inv.live i op found⟩
    rw [(inv.owned i op found held).1] at done
    cases done
  refine { moved with task := fun k hk => ?_, pending := fun k op' h opens active => ?_ }
  · dsimp only at hk
    split_ifs at hk
    exact moved.task k hk
  · obtain ⟨task, empty⟩ := moved.pending k op' h opens active
    refine ⟨?_, empty⟩
    change s.openTask = some k at task
    have other : s.openTask ≠ some i := by
      rw [task]
      intro same
      obtain rfl := Option.some.inj same
      obtain ⟨op₁, found₁, rfl⟩ := getElem?_modify_cases h
      rw [if_pos rfl] at opens
      cases opens
    dsimp only
    rw [if_neg other]
    exact task

/-- After `stop` no operation may open, nothing is held and no track is live. -/
structure Stopped (s : FrameSource) : Prop where
  task : s.openTask = none
  stream : s.stream = none
  video : s.video = none
  old : ∀ (i : ℕ) op, s.opens[i]? = some op → op.generation < s.lifecycleGeneration
  released : ∀ (i : ℕ) op, s.opens[i]? = some op → op.stream = false ∧ op.live = false

theorem Stopped.openInv (stopped : Stopped s) : OpenInv s := by
  have inactive {k : ℕ} {op : OpenOperation} (h : s.opens[k]? = some op) :
      op.active s.lifecycleGeneration = false := by
    have := stopped.old k op h
    simp only [OpenOperation.active, Bool.and_eq_false_iff, beq_eq_false_iff_ne]
    exact .inr (by omega)
  exact {
    task := by
      intro k hk
      rw [stopped.task] at hk
      cases hk
    old := fun k op h => (stopped.old k op h).le
    pending := by
      intro k op h _ active
      rw [inactive h] at active
      cases active
    owned := by
      intro k op h held
      rw [(stopped.released k op h).1] at held
      cases held
    live := by
      intro k op h live
      rw [(stopped.released k op h).2] at live
      cases live
    both := stopped.stream.trans stopped.video.symm
    shut := fun _ => ⟨stopped.stream, fun _ _ h _ => inactive h⟩ }

/-- What `stop` does to one operation. -/
theorem getElem?_stop (k : ℕ) : s.stop.opens[k]? = s.opens[k]?.map fun op =>
    if s.stream = some k then
      { (if s.openTask = some k then { op with aborted := true }.releaseOpenResources else op) with
        live := false }
    else if s.openTask = some k then { op with aborted := true }.releaseOpenResources else op := by
  have kept (s : FrameSource) : s.stopCapture.opens = s.opens ∧ s.stopCapture.stream = s.stream := by
    unfold FrameSource.stopCapture
    split
    · exact ⟨rfl, rfl⟩
    · exact ⟨rfl, rfl⟩
  have task (s : FrameSource) : s.stopOpenTask.stream = s.stream ∧ s.stopOpenTask.opens[k]? =
      s.opens[k]?.map fun op =>
        if s.openTask = some k then { op with aborted := true }.releaseOpenResources else op := by
    unfold FrameSource.stopOpenTask
    split
    · rename_i none
      simp [none]
    · rename_i i running
      refine ⟨rfl, ?_⟩
      simp only [FrameSource.modifyOpen, List.getElem?_modify, running, Option.some.injEq]
      rfl
  have held (s : FrameSource) : s.stopHeld.opens[k]? = s.opens[k]?.map fun op =>
      if s.stream = some k then { op with live := false } else op := by
    unfold FrameSource.stopHeld
    split
    · rename_i none
      simp [none]
    · rename_i i stream
      simp only [FrameSource.stopStream, List.getElem?_modify, stream, Option.some.injEq]
      rfl
  unfold FrameSource.stop
  dsimp only
  rw [held, (kept _).1, (kept _).2, (task _).2, (task _).1, Option.map_map]
  rfl

theorem stop_fields : s.stop.openTask = none ∧ s.stop.stream = none ∧ s.stop.video = none ∧
    s.stop.lifecycleGeneration = s.lifecycleGeneration + 1 ∧ s.stop.reopened = false ∧
    s.stop.captureOperation = none := by
  unfold FrameSource.stop FrameSource.stopOpenTask FrameSource.stopCapture FrameSource.stopHeld
  cases s.openTask <;> cases s.captureOperation <;> cases s.stream <;>
    exact ⟨rfl, rfl, rfl, rfl, rfl, rfl⟩

theorem OpenInv.stopped (inv : OpenInv s) : Stopped s.stop := by
  obtain ⟨task, stream, video, generation, -, -⟩ := stop_fields (s := s)
  -- each operation before `stop`, and what is left of it
  have left (k : ℕ) (op' : OpenOperation) (h : s.stop.opens[k]? = some op') :
      ∃ op, s.opens[k]? = some op ∧ op'.generation = op.generation ∧
        op'.stream = (op.stream && !decide (s.openTask = some k)) ∧
        (op'.live = true → op.live = true ∧ s.stream ≠ some k ∧
          (s.openTask = some k → op.stream = false)) := by
    rw [getElem?_stop] at h
    obtain ⟨op, found, rfl⟩ := Option.map_eq_some_iff.1 h
    refine ⟨op, found, ?_⟩
    split_ifs with held running running
    · exact ⟨rfl, by simp [running, OpenOperation.releaseOpenResources], fun live => nomatch live⟩
    · exact ⟨rfl, by simp [running], fun live => nomatch live⟩
    · refine ⟨rfl, by simp [running, OpenOperation.releaseOpenResources], fun live => ?_⟩
      simp only [OpenOperation.releaseOpenResources, Bool.and_eq_true, Bool.not_eq_true'] at live
      exact ⟨live.1, held, fun _ => live.2⟩
    · exact ⟨rfl, by simp [running], fun live => ⟨live, held, fun h => absurd h running⟩⟩
  refine ⟨task, stream, video, fun k op' h => ?_, fun k op' h => ?_⟩
  · obtain ⟨op, found, same, -, -⟩ := left k op' h
    have := inv.old k op found
    rw [generation, same]
    omega
  · obtain ⟨op, found, -, held, live⟩ := left k op' h
    have owner (h : op.stream = true) : s.openTask = some k := by
      obtain ⟨opening, active⟩ := inv.owned k op found h
      exact (inv.pending k op found opening active).1
    refine ⟨?_, ?_⟩
    · rw [held, Bool.and_eq_false_iff]
      cases h : op.stream with
      | false => exact .inl rfl
      | true => exact .inr (by simp [owner h])
    · cases h : op'.live with
      | false => rfl
      | true =>
        obtain ⟨was, apart, task⟩ := live h
        rcases inv.live k op found was with h | h
        · rw [task (owner h)] at h
          cases h
        · exact absurd h apart

theorem OpenInv.step (inv : OpenInv s) {l : FrameStep} (h : frameStep s l = some t) : OpenInv t := by
  cases l with
  | «open» =>
    cases h
    exact inv.beginOpen
  | media i result =>
    obtain ⟨op, found, h⟩ := Option.bind_eq_some_iff.1 h
    split_ifs at h with waits
    cases h
    exact inv.mediaReady found waits result
  | play i error =>
    obtain ⟨op, found, h⟩ := Option.bind_eq_some_iff.1 h
    split_ifs at h with waits
    cases h
    exact inv.played found waits error
  | data i error =>
    obtain ⟨op, found, h⟩ := Option.bind_eq_some_iff.1 h
    split_ifs at h with waits
    cases h
    exact inv.dataReady found waits error
  | settle i =>
    obtain ⟨op, found, h⟩ := Option.bind_eq_some_iff.1 h
    split at h
    · rename_i waits
      cases h
      exact inv.settleOpen found waits
    · cases h
  | stop =>
    cases h
    exact inv.stopped.openInv
  | capture ready context =>
    cases h
    unfold FrameSource.beginCapture
    split
    · exact inv
    · split
      · dsimp only
        split
        · exact inv
        · split
          · exact { inv with }
          · exact { inv with }
          · exact { inv with }
      · exact inv
  | frame j error =>
    obtain ⟨op, -, h⟩ := Option.bind_eq_some_iff.1 h
    split at h
    · cases h
      unfold FrameSource.frameCreated
      split
      · exact { inv with }
      · dsimp only
        split
        · exact { inv with }
        · exact { inv with }
    · cases h
  | consume j error =>
    obtain ⟨op, -, h⟩ := Option.bind_eq_some_iff.1 h
    split at h
    · cases h
      unfold FrameSource.consumed
      split
      · exact { inv with }
      · split
        · exact { inv with }
        · exact { inv with }
    · cases h

end

/-! ## Pictures -/

/-- What one capture keeps: its picture is closed as often as it was created and given up, and a
capture during which `stop` was called is aborted. -/
structure CaptureOk (op : CaptureOperation) : Prop where
  balance : op.closed + (if op.frame then 1 else 0) = if op.created then 1 else 0
  waiting : op.stage = .frame → op.created = false
  ended : op.capturing = false → op.frame = false
  aborted : op.stopped = true → op.capturing = true → op.aborted = true
  delivered : op.stage = .ended (.ok .delivered) → op.stopped = false

structure CaptureInv (s : FrameSource) : Prop where
  ok : ∀ op ∈ s.captures, CaptureOk op
  current : ∀ (j : ℕ) op, s.captures[j]? = some op → op.capturing = true → op.aborted = false →
    s.captureOperation = some j

section
variable {s t : FrameSource} {j : ℕ} {op op' : CaptureOperation}

theorem CaptureOk.releaseCaptureFrame (ok : CaptureOk op) :
    op.releaseCaptureFrame.closed = if op.created then 1 else 0 := by
  have balance := ok.balance
  unfold CaptureOperation.releaseCaptureFrame
  cases given : op.frame with
  | false => simpa [given] using balance
  | true => simpa [given] using balance

/-- A capture that ends. -/
theorem CaptureOk.endCapture (ok : CaptureOk op)
    {result : Except CameraAccessErrorCode FrameCaptureOutcome}
    (delivered : result = .ok .delivered → op.stopped = false) :
    CaptureOk { op.releaseCaptureFrame with stage := .ended result } where
  balance := ok.releaseCaptureFrame
  waiting h := nomatch h
  ended _ := rfl
  aborted _ h := nomatch h
  delivered h := by
    cases h
    exact delivered rfl

theorem CaptureInv.modify (inv : CaptureInv s) (found : s.captures[j]? = some op)
    {f : CaptureOperation → CaptureOperation} (ok : CaptureOk (f op))
    (current : (f op).capturing = true → (f op).aborted = false →
      op.capturing = true ∧ op.aborted = false) : CaptureInv (s.modifyCapture j f) where
  ok op' h := by
    obtain ⟨k, hk⟩ := List.getElem?_of_mem h
    unfold FrameSource.modifyCapture at hk
    rw [List.getElem?_modify] at hk
    obtain ⟨op₁, found₁, rfl⟩ := Option.map_eq_some_iff.1 hk
    split_ifs with same
    · subst same
      rw [found] at found₁
      cases found₁
      exact ok
    · exact inv.ok op₁ (List.mem_of_getElem? found₁)
  current k op' h capturing intact := by
    unfold FrameSource.modifyCapture at h
    rw [List.getElem?_modify] at h
    obtain ⟨op₁, found₁, rfl⟩ := Option.map_eq_some_iff.1 h
    split_ifs at capturing intact with same
    · subst same
      rw [found] at found₁
      cases found₁
      obtain ⟨capturing, intact⟩ := current capturing intact
      exact inv.current j _ found capturing intact
    · exact inv.current k op₁ found₁ capturing intact

/-- The capture in progress, if it is this one, ends. -/
theorem CaptureInv.finish (inv : CaptureInv s) (found : s.captures[j]? = some op)
    {f : CaptureOperation → CaptureOperation} (ok : CaptureOk (f op))
    (ends : (f op).capturing = false) :
    CaptureInv { s.modifyCapture j f with
      captureOperation := if s.captureOperation = some j then none else s.captureOperation } := by
  have moved := inv.modify found ok fun h => absurd (h.symm.trans ends) (by decide)
  refine { moved with current := fun k op' h capturing intact => ?_ }
  have task := moved.current k op' h capturing intact
  change s.captureOperation = some k at task
  have other : s.captureOperation ≠ some j := by
    rw [task]
    intro same
    obtain rfl := Option.some.inj same
    change (s.modifyCapture k f).captures[k]? = some op' at h
    unfold FrameSource.modifyCapture at h
    rw [List.getElem?_modify, found] at h
    simp only [if_true, Option.map_eq_map, Option.map_some, Option.some.injEq] at h
    subst h
    rw [ends] at capturing
    cases capturing
  dsimp only
  rw [if_neg other]
  exact task

theorem CaptureInv.endCapture (inv : CaptureInv s) (found : s.captures[j]? = some op)
    {result : Except CameraAccessErrorCode FrameCaptureOutcome}
    (delivered : result = .ok .delivered → op.stopped = false) :
    CaptureInv (s.endCapture j result) :=
  inv.finish found ((inv.ok op (List.mem_of_getElem? found)).endCapture delivered) rfl

theorem not_stopped_of_active (ok : CaptureOk op) (capturing : op.capturing = true)
    (active : s.captureActive j op = true) : op.stopped = false := by
  simp only [FrameSource.captureActive, Bool.and_eq_true, Bool.not_eq_true'] at active
  cases stopped : op.stopped with
  | false => rfl
  | true =>
    have := ok.aborted stopped capturing
    rw [active.1.1.1.1] at this
    cases this

theorem CaptureInv.frameCreated (inv : CaptureInv s) (found : s.captures[j]? = some op)
    (waits : op.stage = .frame) (error : Option Thrown) :
    CaptureInv (s.frameCreated j op error) := by
  have ok := inv.ok op (List.mem_of_getElem? found)
  have fresh := ok.waiting waits
  have balance := ok.balance
  rw [fresh] at balance
  have capturing : op.capturing = true := by
    unfold CaptureOperation.capturing
    rw [waits]
  have once : op.closed = 0 := by
    simp only [Bool.false_eq_true, if_false] at balance
    omega
  cases error with
  | some error => exact inv.endCapture found fun h => nomatch h
  | none =>
    unfold FrameSource.frameCreated
    dsimp only
    have both {f g : CaptureOperation → CaptureOperation} :
        (s.modifyCapture j f).modifyCapture j g = s.modifyCapture j (g ∘ f) := by
      unfold FrameSource.modifyCapture
      rw [List.modify_modify_eq]
    split
    · rw [both]
      refine inv.modify found ?_ fun _ intact => ⟨capturing, intact⟩
      exact {
        balance := by simp [once]
        waiting := fun h => nomatch h
        ended := fun h => nomatch h
        aborted := fun stopped _ => ok.aborted stopped capturing
        delivered := fun h => nomatch h }
    · -- the picture came too late and is closed at once
      unfold FrameSource.endCapture
      rw [both]
      refine inv.finish found ?_ rfl
      exact {
        balance := by simp [once, CaptureOperation.releaseCaptureFrame]
        waiting := fun h => nomatch h
        ended := fun _ => rfl
        aborted := fun _ h => nomatch h
        delivered := fun h => nomatch h }

theorem CaptureInv.consumed (inv : CaptureInv s) (found : s.captures[j]? = some op)
    (waits : op.stage = .consume) (error : Option Thrown) : CaptureInv (s.consumed j op error) := by
  have capturing : op.capturing = true := by
    unfold CaptureOperation.capturing
    rw [waits]
  cases error with
  | some error => exact inv.endCapture found fun h => nomatch h
  | none =>
    unfold FrameSource.consumed
    dsimp only
    split
    · rename_i active
      exact inv.endCapture found fun _ =>
        not_stopped_of_active (inv.ok op (List.mem_of_getElem? found)) capturing active
    · exact inv.endCapture found fun h => nomatch h

theorem CaptureInv.beginCapture (inv : CaptureInv s) (ready : Bool) (context : Option Thrown) :
    CaptureInv (s.beginCapture ready context) := by
  have added {new : CaptureOperation} (ok : CaptureOk new) : ∀ op ∈ s.captures ++ [new], CaptureOk op := by
    intro op h
    rcases List.mem_append.1 h with old | added
    · exact inv.ok op old
    · rw [List.mem_singleton.1 added]
      exact ok
  unfold FrameSource.beginCapture
  split
  · exact inv
  · rename_i idle
    rw [Bool.not_eq_true, Option.isSome_eq_false_iff, Option.isNone_iff_eq_none] at idle
    have failed {video stream : ℕ} {code : CameraAccessErrorCode} :
        CaptureInv { s with captures := s.captures ++
          [{ generation := s.lifecycleGeneration, stream, video, stage := .ended (.error code) }] } :=
      { ok := added
          { balance := rfl
            waiting := fun h => nomatch h
            ended := fun _ => rfl
            aborted := fun h => nomatch h
            delivered := fun h => nomatch h }
        current := by
          intro k op h capturing intact
          rcases getElem?_concat_cases h with h | ⟨-, rfl⟩
          · exact inv.current k op h capturing intact
          · cases capturing }
    split
    · dsimp only
      split
      · exact inv
      · split
        · exact {
            ok := added
              { balance := rfl
                waiting := fun _ => rfl
                ended := fun h => nomatch h
                aborted := fun h => nomatch h
                delivered := fun h => nomatch h }
            current := by
              intro k op h capturing intact
              rcases getElem?_concat_cases h with h | ⟨rfl, -⟩
              · have := inv.current k op h capturing intact
                rw [idle] at this
                cases this
              · rfl }
        · exact failed
        · exact failed
    · exact inv

/-- What `stop` does to one capture. -/
theorem getElem?_stop_captures (k : ℕ) : s.stop.captures[k]? = s.captures[k]?.map fun op =>
    let op := if op.capturing then { op with stopped := true } else op
    if s.captureOperation = some k then { op with aborted := true }.releaseCaptureFrame else op := by
  have task (s : FrameSource) : s.stopOpenTask.captures = s.captures ∧
      s.stopOpenTask.captureOperation = s.captureOperation := by
    unfold FrameSource.stopOpenTask
    split
    · exact ⟨rfl, rfl⟩
    · exact ⟨rfl, rfl⟩
  have held (s : FrameSource) : s.stopHeld.captures = s.captures := by
    unfold FrameSource.stopHeld
    split
    · rfl
    · rfl
  have current (s : FrameSource) : s.stopCapture.captures[k]? = s.captures[k]?.map fun op =>
      if s.captureOperation = some k then { op with aborted := true }.releaseCaptureFrame else op := by
    unfold FrameSource.stopCapture
    split
    · rename_i none
      simp [none]
    · rename_i j running
      simp only [FrameSource.modifyCapture, List.getElem?_modify, running, Option.some.injEq]
      rfl
  unfold FrameSource.stop
  dsimp only
  rw [held, current, (task _).1, (task _).2, List.getElem?_map, Option.map_map]
  rfl

theorem CaptureInv.stop (inv : CaptureInv s) : CaptureInv s.stop := by
  -- each capture is marked, and the one in progress is aborted and gives its picture up
  have left {k : ℕ} {op' : CaptureOperation} (h : s.stop.captures[k]? = some op') :
      CaptureOk op' ∧ (op'.capturing = true → op'.aborted = true) := by
    rw [getElem?_stop_captures] at h
    obtain ⟨op, found, rfl⟩ := Option.map_eq_some_iff.1 h
    have ok := inv.ok op (List.mem_of_getElem? found)
    dsimp only
    cases capturing : op.capturing with
    | false =>
      have done := ok.ended capturing
      simp only [Bool.false_eq_true, if_false]
      split_ifs
      · refine ⟨?_, fun h => ?_⟩
        · exact {
            balance := ok.releaseCaptureFrame
            waiting := ok.waiting
            ended := fun _ => rfl
            aborted := fun _ _ => rfl
            delivered := ok.delivered }
        · exact rfl
      · exact ⟨ok, fun h => absurd (h.symm.trans capturing) (by decide)⟩
    | true =>
      have undelivered : op.stage ≠ .ended (.ok .delivered) := by
        intro ended
        unfold CaptureOperation.capturing at capturing
        rw [ended] at capturing
        cases capturing
      simp only [if_true]
      split_ifs with current
      · exact ⟨
          { balance := ok.releaseCaptureFrame
            waiting := ok.waiting
            ended := fun _ => rfl
            aborted := fun _ _ => rfl
            delivered := fun h => absurd h undelivered }, fun _ => rfl⟩
      · have aborted : op.aborted = true := by
          by_contra intact
          exact current (inv.current k op found capturing (Bool.not_eq_true _ ▸ intact))
        exact ⟨
          { balance := ok.balance
            waiting := ok.waiting
            ended := ok.ended
            aborted := fun _ _ => aborted
            delivered := fun h => absurd h undelivered }, fun _ => aborted⟩
  refine ⟨fun op' h => ?_, fun k op' h capturing intact => ?_⟩
  · obtain ⟨k, hk⟩ := List.getElem?_of_mem h
    exact (left hk).1
  · rw [(left h).2 capturing] at intact
    cases intact

theorem CaptureInv.step (inv : CaptureInv s) {l : FrameStep} (h : frameStep s l = some t) :
    CaptureInv t := by
  cases l with
  | «open» =>
    cases h
    unfold FrameSource.beginOpen
    dsimp only
    split
    · exact { inv with }
    · exact { inv with }
  | media i result =>
    obtain ⟨op, -, h⟩ := Option.bind_eq_some_iff.1 h
    split_ifs at h
    cases h
    unfold FrameSource.mediaReady
    split
    · exact { inv with }
    · dsimp only
      split
      · exact { inv with }
      · split
        · exact { inv with }
        · split
          · exact { inv with }
          · exact { inv with }
  | play i error =>
    obtain ⟨op, -, h⟩ := Option.bind_eq_some_iff.1 h
    split_ifs at h
    cases h
    unfold FrameSource.played
    split
    · exact { inv with }
    · exact { inv with }
  | data i error =>
    obtain ⟨op, -, h⟩ := Option.bind_eq_some_iff.1 h
    split_ifs at h
    cases h
    unfold FrameSource.dataReady
    split
    · exact { inv with }
    · split
      · exact { inv with }
      · exact { inv with }
  | settle i =>
    obtain ⟨op, -, h⟩ := Option.bind_eq_some_iff.1 h
    split at h
    · cases h
      exact { inv with }
    · cases h
  | stop =>
    cases h
    exact inv.stop
  | capture ready context =>
    cases h
    exact inv.beginCapture ready context
  | frame j error =>
    obtain ⟨op, found, h⟩ := Option.bind_eq_some_iff.1 h
    split at h
    · rename_i waits
      cases h
      exact inv.frameCreated found waits error
    · cases h
  | consume j error =>
    obtain ⟨op, found, h⟩ := Option.bind_eq_some_iff.1 h
    split at h
    · rename_i waits
      cases h
      exact inv.consumed found waits error
    · cases h

end

/-! ## The guarantees -/

/-- A picture is closed once: never twice, not before it exists, and by the end of its capture. -/
def FramesClosedOnce (s : FrameSource) : Prop :=
  ∀ op ∈ s.captures, op.closed ≤ (if op.created then 1 else 0) ∧
    (op.created = true → op.capturing = false → op.closed = 1)

/-- At most one capture is in progress and not cancelled. -/
def OneCapture (s : FrameSource) : Prop :=
  ∀ (j k : ℕ) op op', s.captures[j]? = some op → s.captures[k]? = some op' →
    op.capturing = true → op.aborted = false → op'.capturing = true → op'.aborted = false → j = k

/-- A capture during which `stop` was called does not deliver. -/
def StoppedUndelivered (s : FrameSource) : Prop :=
  ∀ op ∈ s.captures, op.stopped = true → op.stage ≠ .ended (.ok .delivered)

/-- While no operation opens, the only live tracks are those of the stream that is held, and none is
held after a `stop` without an `open` since. -/
def TracksReleased (s : FrameSource) : Prop :=
  (∀ op ∈ s.opens, op.opening = false) →
    (∀ (i : ℕ) op, s.opens[i]? = some op → op.live = true → s.stream = some i) ∧
    (s.reopened = false → s.stream = none ∧ ∀ op ∈ s.opens, op.live = false)

/-- **The camera is given back.** -/
theorem camera_released (devices : Bool) {ls : List FrameStep} {s : FrameSource}
    (run : Lts.Steps frameStep Lts.Free { mediaDevices := devices } ls s) :
    FramesClosedOnce s ∧ OneCapture s ∧ StoppedUndelivered s ∧ TracksReleased s := by
  have tracks : OpenInv s :=
    run.invariant (fun _ _ _ inv _ h => OpenInv.step inv h) (.start devices)
  have pictures : CaptureInv s :=
    run.invariant (fun _ _ _ inv _ h => CaptureInv.step inv h)
      ⟨List.forall_mem_nil _, fun _ _ h => nomatch h⟩
  refine ⟨?_, ?_, ?_, ?_⟩
  · intro op h
    have ok := pictures.ok op h
    have balance := ok.balance
    refine ⟨by omega, fun created ended => ?_⟩
    rw [created, ok.ended ended] at balance
    simpa using balance
  · intro j k op op' hj hk capturing intact capturing' intact'
    have first := pictures.current j op hj capturing intact
    rw [pictures.current k op' hk capturing' intact'] at first
    exact (Option.some.inj first).symm
  · intro op h stopped delivered
    rw [(pictures.ok op h).delivered delivered] at stopped
    cases stopped
  · intro none
    have held (i : ℕ) (op : OpenOperation) (h : s.opens[i]? = some op) (live : op.live = true) :
        s.stream = some i := by
      rcases tracks.live i op h live with owned | stream
      · have opening := (tracks.owned i op h owned).1
        rw [none op (List.mem_of_getElem? h)] at opening
        cases opening
      · exact stream
    refine ⟨held, fun closed => ?_⟩
    have empty := (tracks.shut closed).1
    refine ⟨empty, fun op h => ?_⟩
    obtain ⟨i, hi⟩ := List.getElem?_of_mem h
    cases live : op.live with
    | false => rfl
    | true =>
      have := held i op hi live
      rw [empty] at this
      cases this

/-- The camera opens, a picture is taken and handed over, and the visitor leaves meanwhile. -/
def leavingRun : List FrameStep :=
  [.open, .media 0 (.stream 1 none), .play 0 none, .data 0 none, .settle 0, .capture true none,
    .frame 0 none, .open, .stop, .consume 0 none]

theorem camera_released_leaving : ∃ s,
    Lts.Steps frameStep Lts.Free { mediaDevices := true } leavingRun s ∧
    s.captures.map (·.closed) = [1] ∧ s.opens.map (·.live) = [false] ∧
    FramesClosedOnce s ∧ OneCapture s ∧ StoppedUndelivered s ∧ TracksReleased s := by
  obtain ⟨s, run, seen⟩ := Lts.exists_steps_of_any
    (p := fun s => s.captures.map (·.closed) = [1] ∧ s.opens.map (·.live) = [false])
    (show (Lts.runAll frameStep { mediaDevices := true } leavingRun).any _ = true by decide +kernel)
  obtain ⟨closed, released⟩ := of_decide_eq_true seen
  exact ⟨s, run, closed, released, camera_released true run⟩

end Mkk.Kiosk
