import Mkk.Api.Buffer
import Mkk.Api.SourceEvidence
import Mkk.Lib.Ordered

/-!
# Batches in order

What a session takes in when the frames of one playback reach it in their order: every batch is accepted
(`Reads.append`) and the buffer is the list of the frames (`Reads.entries`). The checks of `append_batch`
ask for nothing else; `checkObservation_iff` is the one that looks at the media.
-/

namespace Mkk.Api

open Lib

/-- A frame that may come after another one. -/
structure FrameObservationV2.Follows (o p : FrameObservationV2) : Prop where
  sequence : o.sequence < p.sequence
  epoch : o.playbackEpoch ≤ p.playbackEpoch
  captured : o.capturedAtMonoMs ≤ p.capturedAtMonoMs
  offset : o.sessionOffsetMs ≤ p.sessionOffsetMs
  videoTime : o.playbackEpoch = p.playbackEpoch → o.videoTimeMs ≤ p.videoTimeMs

/-- Different frames, each after the ones before. -/
structure InOrder (frames : List FrameObservationV2) : Prop where
  follows : frames.Pairwise FrameObservationV2.Follows
  once : (frames.map FrameObservationV2.key).Nodup

section InOrder

variable {frames more : List FrameObservationV2} {o : FrameObservationV2}

theorem InOrder.left (h : InOrder (frames ++ more)) : InOrder frames where
  follows := (List.pairwise_append.1 h.follows).1
  once := by
    have both := h.once
    rw [List.map_append] at both
    exact both.of_append_left

theorem InOrder.right (h : InOrder (frames ++ more)) : InOrder more where
  follows := (List.pairwise_append.1 h.follows).2.1
  once := by
    have both := h.once
    rw [List.map_append] at both
    exact both.of_append_right

/-- The analysis order of frames in order is the order they are in. -/
theorem InOrder.ordered_eq (h : InOrder frames) : ordered frames = frames := by
  apply sortOn_eq_self
  refine h.follows.imp fun {o p} follows => ?_
  rcases follows.epoch.lt_or_eq with less | same
  · exact (Prod.Lex.toLex_lt_toLex.2 (.inl less)).le
  · refine (Prod.Lex.toLex_le_toLex.2 (.inr ⟨same, ?_⟩))
    rcases follows.captured.lt_or_eq with less | same
    · exact (Prod.Lex.toLex_lt_toLex.2 (.inl less)).le
    · exact Prod.Lex.toLex_le_toLex.2 (.inr ⟨same, (Prod.Lex.toLex_lt_toLex.2 (.inl follows.sequence)).le⟩)

theorem InOrder.offsets (h : InOrder frames) :
    movesBack ((ordered frames).map (·.sessionOffsetMs)) = false := by
  rw [h.ordered_eq, movesBack_eq_false_iff]
  exact List.pairwise_map.2 (h.follows.imp fun follows => follows.offset)

/-- Inside an epoch the video time does not go back. -/
theorem InOrder.videoTimes (h : InOrder frames) (epoch : ℕ) :
    movesBack (videoTimes (frames.filter fun f => f.playbackEpoch = epoch)) = false := by
  have own := h.follows.filter fun f => decide (f.playbackEpoch = epoch)
  rw [movesBack_eq_false_iff, Api.videoTimes, sortOn_eq_self (own.imp fun follows => follows.sequence.le)]
  refine List.pairwise_map.2 (own.imp_of_mem fun {o p} ho hp follows => follows.videoTime ?_)
  have epochO := (List.mem_filter.1 ho).2
  have epochP := (List.mem_filter.1 hp).2
  simp only [decide_eq_true_eq] at epochO epochP
  rw [epochO, epochP]

theorem InOrder.lastVideoTimes_ok (h : InOrder frames) (last : Dict ℕ ℕ) :
    ∃ last', lastVideoTimes frames last = .ok last' := by
  suffices every : ∃ last', lastVideoTimes frames last = .ok last' ∧ True from every.imp fun _ => And.left
  refine @foldlM_ok _ _ _ _ (fun _ _ => True) _ (fun done e rest last split _ => ?_) _ trivial
  have listed : e ∈ (epochFrames frames).entries := split ▸ by simp
  have found := Dict.mem_entries_iff.1 (show (e.1, e.2) ∈ (epochFrames frames).entries from listed)
  rw [get?_epochFrames] at found
  dsimp only at found
  split_ifs at found with none
  rw [← Option.some.inj found, h.videoTimes e.1]
  exact ⟨_, rfl, trivial⟩

theorem resolveHits_isOk {context : SessionRecommendationContext} (valid : ∀ o ∈ frames, o.Valid) :
    ∃ hits, resolveHits context frames = .ok hits := by
  unfold resolveHits
  cases context.sourceApproved with
  | none => exact ⟨_, rfl⟩
  | some metadata =>
    have each : ((frames.mapM fun item => do
        return (item.key, ← resolveSourceAoiHits item context.sourceAoiBindings) :
        Except PyError (List ((ℕ × String) × List ResolvedSourceAoiHit)))).isOk = true := by
      refine mapM_isOk_iff.2 fun o listed => ?_
      obtain ⟨hits, resolved⟩ := resolveSourceAoiHits_ok context.sourceAoiBindings (valid o listed).attention
      rw [resolved]
      rfl
    obtain ⟨items, read⟩ := isOk_iff_exists.1 each
    exact ⟨_, by rw [bind_ok read]; rfl⟩

end InOrder

/-! ## Reading -/

/-- What the copies hold once some frames were read in their order. -/
structure Prospective.Reads (done : List FrameObservationV2) (p : Prospective) : Prop where
  entries : p.observations.entries = done.map fun o => (o.key, o)
  sequences : ∀ n k, p.sequenceIndex.get? n = some k → ∃ o ∈ done, o.sequence = n
  highest : p.highestEpoch = -1 ∨ ∃ o ∈ done, (o.playbackEpoch : ℤ) = p.highestEpoch

section Reads

variable {done more : List FrameObservationV2} {o : FrameObservationV2} {p : Prospective}

theorem Prospective.Reads.keys (h : p.Reads done) : p.observations.keys = done.map (·.key) := by
  rw [Dict.keys, h.entries, List.map_map]
  rfl

theorem Prospective.Reads.values (h : p.Reads done) : p.observations.values = done := by
  rw [Dict.values, h.entries, List.map_map]
  exact List.map_id' done

/-- **The next frame** is read into the copies as a new one. -/
theorem Prospective.Reads.read (h : p.Reads done) (inOrder : InOrder (done ++ [o]))
    (room : done.length < maxBufferedObservations) :
    ∃ p', p.read o = .ok p' ∧ p'.Reads (done ++ [o]) ∧ p'.changed = true := by
  have follows (d) (listed : d ∈ done) : d.Follows o :=
    (List.pairwise_append.1 inOrder.follows).2.2 d listed o List.mem_cons_self
  have newSequence : p.sequenceIndex.get? o.sequence = none := by
    by_contra known
    obtain ⟨k, known⟩ := Option.ne_none_iff_exists'.1 known
    obtain ⟨d, listed, same⟩ := h.sequences _ k known
    have := (follows d listed).sequence
    omega
  have newKey : o.key ∉ p.observations.keys := by
    rw [h.keys]
    intro known
    have once := inOrder.once
    rw [List.map_append, List.nodup_append] at once
    exact once.2.2 _ known _ (List.mem_map_of_mem List.mem_cons_self) rfl
  have epoch : ¬(o.playbackEpoch : ℤ) < p.highestEpoch := by
    rcases h.highest with none | ⟨d, listed, same⟩
    · omega
    · have := (follows d listed).epoch
      omega
  have free : ¬maxBufferedObservations ≤ p.observations.size := by
    rw [Dict.size, h.entries, List.length_map]
    omega
  have found := Dict.get?_none_iff.2 newKey
  refine ⟨{
      observations := p.observations.set o.key o
      sequenceIndex := p.sequenceIndex.set o.sequence o.key
      highestEpoch := max p.highestEpoch o.playbackEpoch
      changed := true }, ?_, ?_, rfl⟩
  · simp [Prospective.read, newSequence, found, epoch, free]
  · constructor
    · rw [Dict.entries_set_of_notMem newKey, h.entries, List.map_append]
      rfl
    · intro n k known
      rw [Dict.get?_set] at known
      split_ifs at known with same
      · exact ⟨o, by simp, same.symm⟩
      · obtain ⟨d, listed, same⟩ := h.sequences n k known
        exact ⟨d, List.mem_append_left _ listed, same⟩
    · have top : max p.highestEpoch (o.playbackEpoch : ℤ) = o.playbackEpoch :=
        max_eq_right (not_lt.1 epoch)
      exact .inr ⟨o, by simp, top.symm⟩

/-- **All frames of a batch** are read. -/
theorem Prospective.Reads.readAll {batch : List FrameObservationV2} (h : p.Reads done)
    (inOrder : InOrder (done ++ batch)) (room : (done ++ batch).length ≤ maxBufferedObservations) :
    ∃ p', batch.foldlM Prospective.read p = .ok p' ∧ p'.Reads (done ++ batch) ∧
      (batch ≠ [] → p'.changed = true) := by
  refine @foldlM_ok _ _ _ _ (fun read (p : Prospective) =>
    p.Reads (done ++ read) ∧ (read ≠ [] → p.changed = true)) _ ?_ _
    ⟨by rwa [List.append_nil], fun empty => absurd rfl empty⟩
  rintro read o rest p rfl ⟨reads, -⟩
  rw [← List.append_assoc] at inOrder room
  have next : InOrder (done ++ read ++ [o]) := by
    rw [List.append_cons] at inOrder
    exact inOrder.left
  obtain ⟨p', one, later, changed⟩ := reads.read next (by
    simp only [List.length_append, List.length_cons] at room ⊢
    omega)
  exact ⟨p', one, by rwa [← List.append_assoc], fun _ => changed⟩

end Reads

/-! ## Appending -/

/-- What a collecting session holds once some frames were appended in their order. -/
structure Reads (done : List FrameObservationV2) (s : V2SessionState) : Prop where
  collecting : s.status = .collecting
  reads : s.prospective.Reads done

section Append

variable {config : StoreConfig} {context : SessionRecommendationContext} {fingerprint : String}
  {now : ℚ} {batch : ObservationBatchV2} {s s' : V2SessionState} {done : List FrameObservationV2}

theorem Reads.fresh (config : StoreConfig) (now : ℚ) : Reads [] (.fresh config now) where
  collecting := rfl
  reads := {
    entries := rfl
    sequences := fun n k known => by cases known
    highest := .inl rfl }

/-- **A batch in order is accepted**, and its frames are the next of the buffer. -/
theorem Reads.append (h : Reads done s) (valid : ∀ o ∈ done, o.Valid)
    (inOrder : InOrder (done ++ batch.observations))
    (room : (done ++ batch.observations).length ≤ maxBufferedObservations)
    (newId : s.batchFingerprints.get? batch.batchId = none)
    (newSequence : s.batchSequenceIndex.get? batch.batchSequence = none) :
    ∃ s', s.append config context fingerprint now batch = .ok (⟨batch.batchId, .accepted⟩, s') ∧
      Reads (done ++ batch.observations) s' ∧
      s'.batchFingerprints = s.batchFingerprints.set batch.batchId fingerprint ∧
      s'.batchSequenceIndex = s.batchSequenceIndex.set batch.batchSequence batch.batchId ∧
      s'.expiresAt = now + config.collectingTtl := by
  obtain ⟨p, read, reads, changed⟩ := h.reads.readAll inOrder room
  have some : batch.observations ≠ [] := by
    intro empty
    have := batch.bounded.1
    rw [empty] at this
    exact absurd this (by decide)
  obtain ⟨last, times⟩ := inOrder.lastVideoTimes_ok s.lastVideoTimeByEpoch
  obtain ⟨hits, resolved⟩ : ∃ hits, resolveHits context (done ++ batch.observations) = .ok hits :=
    resolveHits_isOk fun o listed => (List.mem_append.1 listed).elim (valid o) (batch.framesValid o)
  refine ⟨s.buffered config fingerprint now batch p last hits, ?_, ⟨h.collecting, ?_⟩, rfl, rfl, rfl⟩
  · have frames := reads.values
    rw [← frames] at times resolved
    have offsets := inOrder.offsets
    rw [← frames] at offsets
    unfold V2SessionState.prospective at read
    unfold V2SessionState.append
    rw [if_neg (not_not.2 h.collecting), newId]
    simp only [newSequence, Option.mem_def, reduceCtorEq, false_and, exists_false, if_false]
    rw [bind_ok read, if_neg (by rw [offsets]; decide), bind_ok times, bind_ok resolved, changed some]
    rfl
  · exact ⟨reads.entries, reads.sequences, reads.highest⟩

end Append

/-! ## The checks before the lock -/

/-- The attention of a Kiosk: it comes with a gaze, knows its manifest and names no candidates. -/
structure FrameObservationV2.KioskAttention (manifestVersion : String) (o : FrameObservationV2) : Prop where
  gaze : o.attention.isSome = true → o.gaze.isSome = true
  manifest : ∀ a ∈ o.attention, a.manifestVersion = manifestVersion
  candidates : ∀ a ∈ o.attention, a.candidates = []

/-- The AOIs of the session's video are approved. -/
structure SessionRecommendationContext.Approved (context : SessionRecommendationContext) : Prop where
  source : ∀ m ∈ context.sourceAoiMetadata, m.approvalStatus = .approved
  legacy : context.sourceAoiMetadata = none → ∃ m ∈ context.aoiMetadata, m.approvalStatus = .approved

section Checks

variable {env : StoreEnv} {context : SessionRecommendationContext} {o : FrameObservationV2}

theorem checkAttention_ok (own : o.KioskAttention context.manifestVersion) (approved : context.Approved) :
    checkAttention context o = .ok () := by
  unfold checkAttention
  cases looks : o.attention with
  | none => rfl
  | some attention =>
    have gaze : o.gaze ≠ none := Option.isSome_iff_ne_none.1 (own.gaze (by rw [looks]; rfl))
    have manifest := own.manifest attention looks
    have candidates := own.candidates attention looks
    have unapproved : ¬((∃ m ∈ context.sourceAoiMetadata, m.approvalStatus ≠ .approved) ∨
        (context.sourceAoiMetadata = none ∧ ∀ m ∈ context.aoiMetadata, m.approvalStatus ≠ .approved)) := by
      rintro (⟨m, listed, un⟩ | ⟨none, un⟩)
      · exact un (approved.source m listed)
      · obtain ⟨m, listed, is⟩ := approved.legacy none
        exact un m listed is
    dsimp only
    rw [if_neg gaze, if_neg (not_not.2 manifest), if_neg (not_not.2 candidates),
      if_neg fun both => unapproved both.2]

/-- What is left to check is that the frame is inside the media. -/
theorem checkObservation_iff (own : o.KioskAttention context.manifestVersion)
    (approved : context.Approved) : (checkObservation context o).isOk = true ↔
      ∀ m ∈ context.aoiMetadata, o.videoTimeMs < m.durationMs := by
  unfold checkObservation
  rw [bind_ok (checkAttention_ok own approved)]
  by_cases late : ∃ m ∈ context.aoiMetadata, o.videoTimeMs ≥ m.durationMs
  · rw [if_pos late]
    obtain ⟨m, listed, beyond⟩ := late
    exact iff_of_false Bool.false_ne_true fun inside => absurd (inside m listed) (not_lt.2 beyond)
  · rw [if_neg late]
    refine iff_of_true rfl fun m listed => ?_
    by_contra beyond
    exact late ⟨m, listed, not_lt.1 beyond⟩

/-- A batch of the session's own frames passes when they are all inside the media. -/
theorem checkBatch_ok_iff {sessionId : String} {batch : ObservationBatchV2}
    (found : env.context sessionId = some context) (session : batch.sessionId = sessionId)
    (video : batch.videoId = context.videoId)
    (own : ∀ o ∈ batch.observations, o.KioskAttention context.manifestVersion)
    (approved : context.Approved) :
    checkBatch env sessionId (some false) batch = .ok context ↔
      ∀ o ∈ batch.observations, ∀ m ∈ context.aoiMetadata, o.videoTimeMs < m.durationMs := by
  constructor
  · intro passed o listed
    exact (checkObservation_iff (own o listed) approved).1 ((checkBatch_eq_ok env passed).2.2 o listed)
  · intro inside
    have opened : env.getContext sessionId (some false) = .ok (context, false) := by
      unfold StoreEnv.getContext
      rw [found]
    have each : (batch.observations.mapM (checkObservation context)).isOk = true :=
      mapM_isOk_iff.2 fun o listed => (checkObservation_iff (own o listed) approved).2 (inside o listed)
    obtain ⟨units, checked⟩ := isOk_iff_exists.1 each
    unfold checkBatch
    rw [bind_ok opened]
    dsimp only
    rw [if_neg (not_not.2 session), if_neg (not_not.2 video), if_neg Bool.false_ne_true, bind_ok checked]
    rfl

end Checks

/-! ## A session's batches -/

/-- What the store holds of a session that has taken in some batches and nothing else. -/
structure Buffered (env : StoreEnv) (sessionId : String) (batches : List ObservationBatchV2)
    (states : Sessions) (now : ℚ) : Prop where
  reads : Reads (batches.flatMap (·.observations)) (openSession env states sessionId now).1
  ids : ∀ id, (openSession env states sessionId now).1.batchFingerprints.get? id ≠ none →
    ∃ b ∈ batches, b.batchId = id
  sequences : ∀ n, (openSession env states sessionId now).1.batchSequenceIndex.get? n ≠ none →
    ∃ b ∈ batches, b.batchSequence = n

/-- Batches a session can take in one after another. -/
structure BatchesInOrder (batches : List ObservationBatchV2) : Prop where
  inOrder : InOrder (batches.flatMap (·.observations))
  room : (batches.flatMap (·.observations)).length ≤ maxBufferedObservations
  ids : (batches.map (·.batchId)).Nodup
  sequences : (batches.map (·.batchSequence)).Nodup

section BatchesInOrder

variable {batches more : List ObservationBatchV2} {batch b : ObservationBatchV2}

theorem BatchesInOrder.left (h : BatchesInOrder (batches ++ more)) : BatchesInOrder batches := by
  obtain ⟨inOrder, room, ids, sequences⟩ := h
  rw [List.flatMap_append] at inOrder room
  rw [List.length_append] at room
  rw [List.map_append] at ids sequences
  exact ⟨inOrder.left, (Nat.le_add_right _ _).trans room, ids.of_append_left, sequences.of_append_left⟩

theorem BatchesInOrder.right (h : BatchesInOrder (batches ++ more)) : BatchesInOrder more := by
  obtain ⟨inOrder, room, ids, sequences⟩ := h
  rw [List.flatMap_append] at inOrder room
  rw [List.length_append] at room
  rw [List.map_append] at ids sequences
  exact ⟨inOrder.right, (Nat.le_add_left _ _).trans room, ids.of_append_right, sequences.of_append_right⟩

/-- The last one is none of those before. -/
theorem BatchesInOrder.apart (h : BatchesInOrder (batches ++ [batch])) (listed : b ∈ batches) :
    b.batchId ≠ batch.batchId ∧ b.batchSequence ≠ batch.batchSequence := by
  have last : batch ∈ [batch] := List.mem_singleton_self batch
  have ids := h.ids
  have sequences := h.sequences
  rw [List.map_append] at ids sequences
  exact ⟨(List.nodup_append.1 ids).2.2 _ (List.mem_map_of_mem listed) _ (List.mem_map_of_mem last),
    (List.nodup_append.1 sequences).2.2 _ (List.mem_map_of_mem listed) _ (List.mem_map_of_mem last)⟩

end BatchesInOrder

/-- The frames a session has buffered. -/
def bufferedFrames (states : Sessions) (sessionId : String) : List FrameObservationV2 :=
  ((states.get? sessionId).map fun s => s.observations.values).getD []

section Store

variable {env : StoreEnv} {context : SessionRecommendationContext} {sessionId : String}
  {batches : List ObservationBatchV2} {batch : ObservationBatchV2} {states : Sessions} {now : ℚ}

/-- A session the store does not know yet. -/
theorem Buffered.unknown (unknown : states.get? sessionId = none) : Buffered env sessionId [] states now := by
  have opened : (openSession env states sessionId now).1 = .fresh env.config now := by
    rw [openSession_eq, unknown]
    rfl
  constructor
  · rw [opened]
    exact Reads.fresh _ _
  · rw [opened]
    exact fun id known => absurd rfl known
  · rw [opened]
    exact fun n known => absurd rfl known

/-- What the store holds of a session is read off its own state. -/
theorem Buffered.of_get? {states' : Sessions} (h : Buffered env sessionId batches states now)
    (same : states'.get? sessionId = states.get? sessionId) : Buffered env sessionId batches states' now := by
  have opened : (openSession env states' sessionId now).1 = (openSession env states sessionId now).1 := by
    rw [openSession_eq, openSession_eq, same]
  obtain ⟨reads, ids, sequences⟩ := h
  rw [← opened] at reads ids sequences
  exact ⟨reads, ids, sequences⟩

theorem Buffered.bufferedFrames_eq (h : Buffered env sessionId batches states now) :
    bufferedFrames states sessionId = batches.flatMap (·.observations) := by
  have values := h.reads.reads.values
  rw [← values, openSession_eq, bufferedFrames]
  cases states.get? sessionId with
  | none => rfl
  | some s => rfl

/-- **The next batch** of a session is accepted. -/
theorem Buffered.append (h : Buffered env sessionId batches states now)
    (passed : checkBatch env sessionId (some false) batch = .ok context)
    (together : BatchesInOrder (batches ++ [batch])) :
    ∃ states', appendBatch env states now sessionId (some false) batch =
        (.ok ⟨batch.batchId, .accepted⟩, states') ∧
      (∀ later, Buffered env sessionId (batches ++ [batch]) states' later) ∧
      ∃ s, states'.get? sessionId = some s ∧ s.expiresAt = now + env.config.collectingTtl := by
  have inOrder := together.inOrder
  have room := together.room
  simp only [List.flatMap_append, List.flatMap_cons, List.flatMap_nil, List.append_nil] at inOrder room
  have valid : ∀ o ∈ batches.flatMap (·.observations), o.Valid := by
    intro o listed
    obtain ⟨b, -, own⟩ := List.mem_flatMap.1 listed
    exact b.framesValid o own
  obtain ⟨s', appended, reads, ids, sequences, expires⟩ := @Reads.append env.config context (env.hashing.fingerprint batch) now _ _ _ h.reads valid inOrder room
    (by
      by_contra known
      obtain ⟨b, listed, same⟩ := h.ids _ known
      exact (together.apart listed).1 same)
    (by
      by_contra known
      obtain ⟨b, listed, same⟩ := h.sequences _ known
      exact (together.apart listed).2 same)
  refine ⟨(openSession env states sessionId now).2.set sessionId s', ?_, fun later => ?_,
    s', Dict.get?_set_self _ _ _, expires⟩
  · unfold appendBatch
    rw [passed]
    dsimp only
    rw [appended]
  · have opened : (openSession env ((openSession env states sessionId now).2.set sessionId s') sessionId
        later).1 = s' := by
      rw [openSession_eq, Dict.get?_set_self]
      rfl
    constructor
    · rw [opened]
      simpa only [List.flatMap_append, List.flatMap_cons, List.flatMap_nil, List.append_nil] using reads
    · rw [opened, ids]
      intro id known
      rw [Dict.get?_set] at known
      split_ifs at known with same
      · exact ⟨batch, by simp, same.symm⟩
      · obtain ⟨b, listed, is⟩ := h.ids id known
        exact ⟨b, List.mem_append_left _ listed, is⟩
    · rw [opened, sequences]
      intro n known
      rw [Dict.get?_set] at known
      split_ifs at known with same
      · exact ⟨batch, by simp, same.symm⟩
      · obtain ⟨b, listed, is⟩ := h.sequences n known
        exact ⟨b, List.mem_append_left _ listed, is⟩

end Store

end Mkk.Api
