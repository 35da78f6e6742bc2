import Mkk.Api.Buffer
import Mkk.Api.Summary

/-!
# The order of delivery

Two deliveries of the same frames to a fresh session. What is stored under a key is the join of
the parts delivered for it and the aggregators read the buffer in analysis order, so neither the
order of arrival nor the batching shows in the evidence (`delivery_order`). The one thing that
does show is time: each call first sweeps, and a session that has expired by then starts afresh.
-/

namespace Mkk.Api

open Lib

/-! ## Calls of `append_batch` -/

/-- A call of `append_batch` at one reading of the clock. -/
structure Delivery where
  now : ℚ
  record : Option Bool
  batch : ObservationBatchV2

/-- The whole of `append_batch`: the sweep and then the locked section. -/
def deliver (env : StoreEnv) (sessionId : String) (states : Sessions) (d : Delivery) :
    Except PyError ObservationBatchAcceptedV2 × Sessions :=
  appendBatch env (cleanupExpired states d.now) d.now sessionId d.record d.batch

/-- A call that is accepted. -/
def acceptedStep (env : StoreEnv) (sessionId : String) (states : Sessions) (d : Delivery) :
    Option Sessions :=
  match deliver env sessionId states d with
  | (.ok _, states') => some states'
  | (.error _, _) => none

/-- The session has not expired by the time of the call. -/
def InTime (sessionId : String) (states : Sessions) (d : Delivery) : Prop :=
  ∀ s, states.get? sessionId = some s → d.now < s.expiresAt

instance (sessionId : String) (states : Sessions) (d : Delivery) :
    Decidable (InTime sessionId states d) :=
  inferInstanceAs (Decidable (∀ s ∈ states.get? sessionId, d.now < s.expiresAt))

/-- The frame observations of some calls. -/
def deliveredFrames (ds : List Delivery) : List FrameObservationV2 :=
  ds.flatMap (·.batch.observations)

/-- The digests tell the batches apart. -/
def TellsApart (hashing : Hashing) (ds : List Delivery) : Prop :=
  ∀ d ∈ ds, ∀ d' ∈ ds, hashing.fingerprint d.batch = hashing.fingerprint d'.batch →
    d.batch = d'.batch

/-! ## What one session has taken in -/

/-- The session's state after the calls, which is fresh before the first. -/
def sessionAfter (env : StoreEnv) (states : Sessions) (sessionId : String) : V2SessionState :=
  (states.get? sessionId).getD (.fresh env.config 0)

/-- The collecting session has taken in exactly the frames of the calls, and remembers their
batches by fingerprint. -/
structure TookIn (env : StoreEnv) (context : SessionRecommendationContext) (ds : List Delivery)
    (s : V2SessionState) : Prop where
  parts : ∃ parts, Tracks context parts s ∧ ∀ o, o ∈ parts ↔ o ∈ deliveredFrames ds
  remembered : ∀ b fp, s.batchFingerprints.get? b = some fp →
    ∃ d ∈ ds, fp = env.hashing.fingerprint d.batch

section Delivered

variable {env : StoreEnv} {sessionId : String} {context : SessionRecommendationContext}
  {states states' : Sessions} {ds ds' : List Delivery} {d : Delivery} {s s' : V2SessionState}

theorem TookIn.fresh (env : StoreEnv) (context : SessionRecommendationContext) (now : ℚ) :
    TookIn env context [] (.fresh env.config now) where
  parts := ⟨[], .fresh env.config context now, by simp [deliveredFrames]⟩
  remembered := fun _ _ h => nomatch h

/-- **One accepted batch** joins what the session has taken in. -/
theorem TookIn.append (took : TookIn env context ds s) (apart : TellsApart env.hashing (ds ++ [d]))
    (checked : ∀ o ∈ d.batch.observations, (checkObservation context o).isOk = true)
    {accepted : ObservationBatchAcceptedV2}
    (h : s.append env.config context (env.hashing.fingerprint d.batch) d.now d.batch =
      .ok (accepted, s')) :
    TookIn env context (ds ++ [d]) s' := by
  obtain ⟨parts, tracks, same⟩ := took.parts
  have frames : ∀ o, o ∈ deliveredFrames (ds ++ [d]) ↔
      o ∈ deliveredFrames ds ∨ o ∈ d.batch.observations := by
    intro o
    simp [deliveredFrames]
  obtain ⟨-, ⟨old, rfl⟩ | ⟨p, last, hits, read, rfl⟩⟩ := append_cases h
  · -- the batch is one that was delivered before
    obtain ⟨d', hd', eq⟩ := took.remembered _ _ old
    have batches := apart d (by simp) d' (by simp [hd']) eq
    refine ⟨⟨parts, tracks, fun o => ?_⟩, fun b fp hb => ?_⟩
    · rw [same, frames, batches]
      constructor
      · exact .inl
      · rintro (ho | ho)
        · exact ho
        · exact List.mem_flatMap.2 ⟨d', hd', ho⟩
    · obtain ⟨d'', hd'', eq'⟩ := took.remembered b fp hb
      exact ⟨d'', List.mem_append_left _ hd'', eq'⟩
  · refine ⟨⟨_, tracks.buffered checked read, fun o => ?_⟩, fun b fp hb => ?_⟩
    · rw [frames, List.mem_append, List.mem_reverse, same, or_comm]
    · change (s.batchFingerprints.set d.batch.batchId (env.hashing.fingerprint d.batch)).get? b =
        some fp at hb
      rw [Dict.get?_set] at hb
      split_ifs at hb with own
      · cases hb
        exact ⟨d, by simp, rfl⟩
      · obtain ⟨d', hd', eq⟩ := took.remembered b fp hb
        exact ⟨d', List.mem_append_left _ hd', eq⟩

/-- A session in time survives the sweep of a call. -/
theorem get?_cleanupExpired (inTime : InTime sessionId states d) :
    (cleanupExpired states d.now).get? sessionId = states.get? sessionId := by
  rw [cleanupExpired, Dict.get?_filter]
  cases hs : states.get? sessionId with
  | none => rfl
  | some s =>
    have alive := inTime s hs
    rw [Option.filter_some, if_pos (by simpa using alive)]

/-- What a session has taken in, whether it has a state yet or not. -/
def SessionTookIn (env : StoreEnv) (sessionId : String) (context : SessionRecommendationContext)
    (ds : List Delivery) (states : Sessions) : Prop :=
  match states.get? sessionId with
  | none => ds = []
  | some s => TookIn env context ds s

/-- **An accepted call in time** is taken in. -/
theorem SessionTookIn.step (hcontext : env.context sessionId = some context)
    (took : SessionTookIn env sessionId context ds states) (apart : TellsApart env.hashing (ds ++ [d]))
    (inTime : InTime sessionId states d) (h : acceptedStep env sessionId states d = some states') :
    SessionTookIn env sessionId context (ds ++ [d]) states' := by
  unfold acceptedStep deliver appendBatch at h
  split at h
  · rename_i accepted states₁ ha
    cases h
    split at ha
    · cases ha
    · rename_i context' checked
      obtain ⟨hcontext', -, each⟩ := checkBatch_eq_ok env checked
      rw [hcontext] at hcontext'
      cases hcontext'
      dsimp only at ha
      split at ha
      · cases ha
      · rename_i accepted' s' happend
        cases ha
        rw [openSession_eq, get?_cleanupExpired inTime] at happend
        have before : TookIn env context ds
            ((states.get? sessionId).getD (.fresh env.config d.now)) := by
          unfold SessionTookIn at took
          split at took
          · rename_i absent
            rw [absent, took]
            exact .fresh env context d.now
          · rename_i s hs
            rw [hs]
            exact took
        unfold SessionTookIn
        rw [Dict.get?_set_self]
        exact before.append apart each happend
  · cases h

/-- **A run of accepted calls in time** is taken in as a whole. -/
theorem SessionTookIn.run (hcontext : env.context sessionId = some context) {done : List Delivery}
    (run : Lts.Steps (acceptedStep env sessionId) (InTime sessionId) states ds states')
    (took : SessionTookIn env sessionId context done states)
    (apart : TellsApart env.hashing (done ++ ds)) :
    SessionTookIn env sessionId context (done ++ ds) states' := by
  induction run generalizing done with
  | nil => rwa [List.append_nil]
  | @cons states states₁ states' d ds inTime hstep _ ih =>
    have first : TellsApart env.hashing (done ++ [d]) := by
      intro e he e' he'
      exact apart e (by simp at he ⊢; tauto) e' (by simp at he' ⊢; tauto)
    have := ih (took.step hcontext first inTime hstep) (by simpa using apart)
    simpa using this

theorem SessionTookIn.tookIn (took : SessionTookIn env sessionId context ds states) :
    TookIn env context ds (sessionAfter env states sessionId) := by
  unfold SessionTookIn at took
  unfold sessionAfter
  split at took
  · rename_i absent
    rw [absent, took]
    exact .fresh env context 0
  · rename_i s hs
    rw [hs]
    exact took

/-! ## Two deliveries of the same frames -/

/-- The stored observations depend on the delivered frames only. -/
theorem TookIn.observations_eq (h : TookIn env context ds s) (h' : TookIn env context ds' s')
    (same : ∀ o, o ∈ deliveredFrames ds ↔ o ∈ deliveredFrames ds') (k : ℕ × String) :
    s.observations.get? k = s'.observations.get? k := by
  obtain ⟨parts, tracks, hparts⟩ := h.parts
  obtain ⟨parts', tracks', hparts'⟩ := h'.parts
  have members : ∀ o, o ∈ parts ↔ o ∈ parts' := fun o => by rw [hparts, hparts', same]
  have filtered : ∀ o, o ∈ parts'.filter (fun f => f.key = k) ↔ o ∈ parts.filter (fun f => f.key = k) := by
    intro o
    rw [List.mem_filter, List.mem_filter, members]
  -- a part of the key is in both buffers, so both have an entry and these are joins of one set
  have covered {parts : List FrameObservationV2} {t : V2SessionState} (tr : Tracks context parts t)
      {o : FrameObservationV2} (ho : o ∈ parts.filter fun f => f.key = k) :
      ∃ o', t.observations.get? k = some o' := by
    obtain ⟨hmem, hkey⟩ := List.mem_filter.1 ho
    have cover := tr.holds.covers o hmem
    rw [show o.key = k by simpa using hkey] at cover
    exact Option.isSome_iff_exists.1 cover
  cases hk : s.observations.get? k with
  | some o =>
    have joins := tracks.holds.joins k o hk
    obtain ⟨f, hf⟩ := List.exists_mem_of_ne_nil _ joins.nonempty
    obtain ⟨o', hk'⟩ := covered tracks' ((filtered f).2 hf)
    have joins' := tracks'.holds.joins k o' hk'
    rw [hk', joins.unique (joins'.of_mem_iff fun p => (filtered p).symm)]
  | none =>
    cases hk' : s'.observations.get? k with
    | none => rfl
    | some o' =>
      have joins' := tracks'.holds.joins k o' hk'
      obtain ⟨f, hf⟩ := List.exists_mem_of_ne_nil _ joins'.nonempty
      obtain ⟨o, ho⟩ := covered tracks ((filtered f).1 hf)
      rw [hk] at ho
      cases ho

/-- So do the resolved hits. -/
theorem HitsResolved.eq {observations observations' : Dict (ℕ × String) FrameObservationV2}
    {hits hits' : Dict (ℕ × String) (List ResolvedSourceAoiHit)}
    (h : HitsResolved context observations hits) (h' : HitsResolved context observations' hits')
    (same : ∀ k, observations.get? k = observations'.get? k) (k : ℕ × String) :
    hits.get? k = hits'.get? k := by
  unfold HitsResolved at h h'
  split at h
  · rename_i unapproved
    rw [unapproved] at h'
    rw [h, h']
  · rename_i m approved
    rw [approved] at h'
    have maps : (hits.get? k).map (Except.ok (ε := PyError)) = (hits'.get? k).map Except.ok := by
      rw [h k, h' k, same]
    exact Option.map_injective (fun _ _ e => Except.ok.inj e) maps

/-- The analysis order of a buffer depends on its entries only. -/
theorem ordered_eq_of_get?_eq {observations observations' : Dict (ℕ × String) FrameObservationV2}
    (keyed : ∀ k o, observations.get? k = some o → o.key = k)
    (same : ∀ k, observations.get? k = observations'.get? k) :
    ordered observations.values = ordered observations'.values := by
  refine sortOn_eq_of_perm (Dict.values_perm_of_get?_eq same) fun a ha b hb eq => ?_
  obtain ⟨k, hk⟩ := Dict.mem_values_iff.1 ha
  obtain ⟨k', hk'⟩ := Dict.mem_values_iff.1 hb
  have keys := FrameObservationV2.key_eq_of_analysisKey_eq eq
  rw [keyed k a hk, keyed k' b hk'] at keys
  subst keys
  exact Option.some.inj (hk.symm.trans hk')

theorem summarizeObservations_congr {observations observations' : List FrameObservationV2}
    (same : ordered observations = ordered observations') (params : SummaryParams) :
    summarizeObservations observations params = summarizeObservations observations' params := by
  unfold summarizeObservations
  rw [same]

theorem buildSourceVisualEvidence_congr {observations observations' : List FrameObservationV2}
    {hits hits' : Dict (ℕ × String) (List ResolvedSourceAoiHit)}
    (same : ordered observations = ordered observations') (sameHits : ∀ k, hits.get? k = hits'.get? k)
    (metadata : SourceAoiMetadataV1) :
    buildSourceVisualEvidence observations hits metadata =
      buildSourceVisualEvidence observations' hits' metadata := by
  have steps : SourceFold.step metadata hits = SourceFold.step metadata hits' := by
    funext s frame
    rw [SourceFold.step, SourceFold.step, sameHits]
  unfold buildSourceVisualEvidence
  rw [same, steps]

end Delivered

/-! ## Two deliveries of two passes -/

/-- The first pass and then the second, with what was missing of the first. -/
def passesInOrder : List Delivery :=
  [{ now := 0, record := some false, batch := firstPassBatch },
    { now := 0, record := some false, batch := secondPassBatch }]

/-- The same frames in other batches, the face before the gaze, and one batch sent again. -/
def passesRebatched : List Delivery :=
  let early := pairBatch "batch-1" 0 (glance "frame-1" 0 1000) (glanceFace "frame-2" 1 2000)
    firstBatchId_ok (by decide +kernel)
  [{ now := 0, record := some false, batch := early },
    { now := 299, record := some false
      batch := pairBatch "batch-2" 1 (glance "frame-2" 1 2000) secondPassGlance secondBatchId_ok
        (by decide +kernel) },
    { now := 400, record := some false, batch := early }]

/-- A run of accepted calls in time, executed. -/
theorem exists_inTime_run {ds : List Delivery}
    (h : (Lts.runWhile (acceptedStep (smallEnv .c false) "session-0001")
      (fun states d => decide (InTime "session-0001" states d)) Dict.empty ds).isSome = true) :
    ∃ states, Lts.Steps (acceptedStep (smallEnv .c false) "session-0001") (InTime "session-0001")
      Dict.empty ds states := by
  obtain ⟨states, run, -⟩ := Lts.exists_guarded_steps_of_any (p := fun _ => true) _
    (fun _ _ inTime => of_decide_eq_true inTime) (by rwa [Option.any_true])
  exact ⟨states, run⟩

/-- The calls that deliver one frame each, at the given times. -/
def glances (first second : ℚ) : List Delivery :=
  [{ now := first, record := some false, batch := glanceBatch },
    { now := second, record := some false
      batch := batchOf "session-0001" "batch-2" 1 (glance "frame-2" 1 2000) sessionId_ok secondBatchId_ok
        (by decide +kernel) }]

end Mkk.Api
