import Mkk.Api.Store

/-!
# What a step of the store does to a session

`step_move` says once how any operation can change the state of any one session, and
`begin_cases` how `begin_completion` can. The invariants of the later modules are case
analyses over these two.
-/

namespace Mkk.Api

open Lib

/-! ## `append_batch` on one state -/

/-- The copies a batch is read into. -/
def V2SessionState.prospective (s : V2SessionState) : Prospective :=
  ⟨s.observations, s.sequenceIndex, s.highestPlaybackEpoch, false⟩

/-- A batch that was read: what its observations made of the copies, and the checks they passed. -/
structure BatchRead (context : SessionRecommendationContext) (batch : ObservationBatchV2)
    (s : V2SessionState) (p : Prospective) (last : Dict ℕ ℕ)
    (hits : Dict (ℕ × String) (List ResolvedSourceAoiHit)) : Prop where
  newId : s.batchFingerprints.get? batch.batchId = none
  sequence : ∀ b ∈ s.batchSequenceIndex.get? batch.batchSequence, b = batch.batchId
  read : batch.observations.foldlM Prospective.read s.prospective = .ok p
  offsets : movesBack ((ordered p.observations.values).map (·.sessionOffsetMs)) = false
  times : lastVideoTimes p.observations.values s.lastVideoTimeByEpoch = .ok last
  hits : resolveHits context p.observations.values = .ok hits

section Append

variable {config : StoreConfig} {context : SessionRecommendationContext} {fingerprint : String}
  {now : ℚ} {batch : ObservationBatchV2} {s s' : V2SessionState}
  {accepted : ObservationBatchAcceptedV2}

/-- **Every result of `append_batch`**: the batch was delivered before, or it is read. -/
theorem append_cases (h : s.append config context fingerprint now batch = .ok (accepted, s')) :
    s.status = .collecting ∧
      ((s.batchFingerprints.get? batch.batchId = some fingerprint ∧ s' = s) ∨
        ∃ p last hits, BatchRead context batch s p last hits ∧
          s' = s.buffered config fingerprint now batch p last hits) := by
  unfold V2SessionState.append at h
  split at h
  · cases h
  · rename_i status
    refine ⟨not_not.1 status, ?_⟩
    split at h
    · rename_i old hold
      split at h
      · cases h
      · rename_i same
        cases h
        exact .inl ⟨by rw [hold, not_not.1 same], rfl⟩
    · rename_i newId
      split at h
      · cases h
      · rename_i sequence
        obtain ⟨p, read, h⟩ := bind_eq_ok_iff.1 h
        split at h
        · cases h
        · rename_i offsets
          obtain ⟨last, times, h⟩ := bind_eq_ok_iff.1 h
          obtain ⟨hits, hhits, h⟩ := bind_eq_ok_iff.1 h
          cases h
          exact .inr ⟨p, last, hits, ⟨newId, by simpa using sequence, read, by simpa using offsets,
            times, hhits⟩, rfl⟩

/-- `append_batch` works on a collecting session and touches its buffer only. -/
theorem append_frame (h : s.append config context fingerprint now batch = .ok (accepted, s')) :
    s.status = .collecting ∧ s'.status = .collecting ∧ s'.accepted = s.accepted ∧
      s'.decision = s.decision ∧ s'.activeJobId = s.activeJobId ∧ s'.activeJob = s.activeJob := by
  obtain ⟨status, ⟨-, rfl⟩ | ⟨p, last, hits, -, rfl⟩⟩ := append_cases h
  · exact ⟨status, status, rfl, rfl, rfl, rfl⟩
  · exact ⟨status, status, rfl, rfl, rfl, rfl⟩

end Append

/-! ## `begin_completion` on one state -/

/-- The results `begin_completion` can have on a state. -/
inductive Begins (hashing : Hashing) (config : StoreConfig) (context : SessionRecommendationContext)
    (client : CentralRecommendationClient) (completed : Bool) (now : ℚ) (jobId : String)
    (s : V2SessionState) : Except PyError Begun → V2SessionState → Prop where
  /-- It raised before the flip. -/
  | refused (e : PyError) :
      Begins hashing config context client completed now jobId s (.error e) s
  /-- The session had been completed before. -/
  | again (accepted : RecommendationAcceptedV2) (status : s.status ≠ .collecting)
      (h : s.accepted = some accepted) :
      Begins hashing config context client completed now jobId s (.ok (accepted, none)) s
  /-- It raised after the flip. -/
  | stuck (e : PyError) (accepted : RecommendationAcceptedV2) (version : RecommendationVersionV2)
      (status : s.status = .collecting) (incomplete : completed = false)
      (ids : startIds hashing config context client = .ok (accepted, version)) (id : Option String)
      (drawn : id = s.activeJobId ∨ id = some jobId) :
      Begins hashing config context client completed now jobId s (.error e)
        { s.flip config accepted now with activeJobId := id }
  /-- A decision was made under the lock. -/
  | decided (accepted : RecommendationAcceptedV2) (version : RecommendationVersionV2)
      (decision : RecommendationDecisionV2) (status : s.status = .collecting)
      (incomplete : completed = false)
      (ids : startIds hashing config context client = .ok (accepted, version))
      (own : decision.recommendationId = accepted.recommendationId) :
      Begins hashing config context client completed now jobId s (.ok (accepted, none))
        ((s.flip config accepted now).settle config decision now)
  /-- A job was handed out. -/
  | started (accepted : RecommendationAcceptedV2) (version : RecommendationVersionV2)
      (p : Prepared) (status : s.status = .collecting) (incomplete : completed = false)
      (ids : startIds hashing config context client = .ok (accepted, version))
      (prepared : prepare config context accepted version s.observations.values s.resolvedSourceHits =
        .ok p) (ready : p.ready context client = true)
      (valid : (p.request context client accepted).Valid) :
      Begins hashing config context client completed now jobId s
        (.ok (accepted, some ⟨context.sessionId, jobId, accepted, p.request context client accepted,
          p.summary, p.version⟩))
        { s.flip config accepted now with
          activeJobId := some jobId
          activeJob := some ⟨context.sessionId, jobId, accepted, p.request context client accepted,
            p.summary, p.version⟩ }

section Begin

variable {hashing : Hashing} {config : StoreConfig} {context : SessionRecommendationContext}
  {client : CentralRecommendationClient} {accepted : RecommendationAcceptedV2}
  {version : RecommendationVersionV2} {now : ℚ} {jobId : String} {s : V2SessionState}

/-- A decision without a product carries the identifiers it was made for. -/
theorem decideWithoutProduct_own {status : DecisionStatus} {code : DecisionReasonCode}
    {explanation : String} {quality : RecommendationDataQualityV2} {d : RecommendationDecisionV2}
    (h : decideWithoutProduct accepted status code explanation quality version = .ok d) :
    d.recommendationId = accepted.recommendationId ∧
      d.decisionRequestId = accepted.decisionRequestId := by
  obtain ⟨reason, -, h⟩ := bind_eq_ok_iff.1 h
  obtain ⟨rfl, -⟩ := construct_eq_ok_iff.1 h
  exact ⟨rfl, rfl⟩

/-- A fallback decision is the one its fields describe. -/
theorem demoFallbackDecision_some {summary : EvidenceSummary} {d : RecommendationDecisionV2}
    (h : demoFallbackDecision config context client accepted summary version = .ok (some d)) :
    ∃ reference product, fallbackGround context summary.evidence
        (context.products.head (by rw [← List.length_pos_iff, context.tenProducts]; decide)) =
      some (reference, product) ∧
      config.allowInsufficientSignalDemo = true ∧ client.modelId = stubModelId ∧
      d = fallbackDecision accepted reference product summary.dataQuality version ∧
      ContractModel.FieldsValid d := by
  unfold demoFallbackDecision at h
  split at h
  · cases h
  · rename_i product rest hp
    split at h
    · cases h
    · rename_i hstub
      split at h
      · cases h
      · rename_i reference product' hground
        simp only [bind_eq_ok_iff] at h
        obtain ⟨-, -, -, -, -, -, -, -, d', hd', h⟩ := h
        cases h
        obtain ⟨rfl, valid⟩ := construct_eq_ok_iff.1 hd'
        simp only [not_or, ne_eq, not_not, Bool.not_eq_false] at hstub
        refine ⟨reference, product', ?_, hstub.1, hstub.2, rfl, valid⟩
        simpa [hp] using hground

theorem Prepared.decide_own {p : Prepared} {d : RecommendationDecisionV2}
    (h : p.decide config context client accepted = .ok d) :
    d.recommendationId = accepted.recommendationId := by
  obtain ⟨fallback, hf, h⟩ := bind_eq_ok_iff.1 h
  cases fallback with
  | some d' =>
    cases h
    obtain ⟨reference, product, -, -, -, rfl, -⟩ := demoFallbackDecision_some hf
    rfl
  | none =>
    simp only [Prepared.insufficient] at h
    split at h <;> exact (decideWithoutProduct_own h).1

/-- The decision of a job is for the outcome the job was started for. -/
theorem CompletionJob.decide_own {job : CompletionJob} {casefold : Casefold} {jobEnd : JobEnd}
    {d : RecommendationDecisionV2} (h : job.decide casefold jobEnd = .ok d) :
    d.recommendationId = job.accepted.recommendationId ∧
      d.decisionRequestId = job.accepted.decisionRequestId := by
  have refuse {e : CentralModelError} (h : job.refuse e = .ok d) :
      d.recommendationId = job.accepted.recommendationId ∧
        d.decisionRequestId = job.accepted.decisionRequestId := by
    unfold CompletionJob.refuse at h
    split_ifs at h <;> exact decideWithoutProduct_own h
  cases jobEnd with
  | startFailed => exact decideWithoutProduct_own h
  | reply reply =>
    cases reply with
    | refused e => exact refuse h
    | crashed => exact decideWithoutProduct_own h
    | returned raw =>
      simp only [CompletionJob.decide, CompletionJob.run] at h
      split at h
      · exact refuse h
      · split at h
        · exact decideWithoutProduct_own h
        · rename_i decision hd
          cases h
          obtain ⟨-, -, h⟩ := bind_eq_ok_iff.1 hd
          obtain ⟨rfl, -⟩ := construct_eq_ok_iff.1 h
          exact ⟨rfl, rfl⟩

theorem settleWith_begins {completed : Bool} (status : s.status = .collecting)
    (incomplete : completed = false)
    (ids : startIds hashing config context client = .ok (accepted, version))
    {x : Except PyError RecommendationDecisionV2}
    (own : ∀ d, x = .ok d → d.recommendationId = accepted.recommendationId) :
    Begins hashing config context client completed now jobId s
      ((s.flip config accepted now).settleWith config accepted now x).1
      ((s.flip config accepted now).settleWith config accepted now x).2 := by
  cases x with
  | error e => exact .stuck e accepted version status incomplete ids s.activeJobId (.inl rfl)
  | ok d => exact .decided accepted version d status incomplete ids (own d rfl)

theorem startJob_begins {completed : Bool} (status : s.status = .collecting)
    (incomplete : completed = false)
    (ids : startIds hashing config context client = .ok (accepted, version)) {p : Prepared}
    (prepared : prepare config context accepted version s.observations.values s.resolvedSourceHits =
      .ok p) (ready : p.ready context client = true) :
    Begins hashing config context client completed now jobId s
      ((s.flip config accepted now).startJob context client accepted p jobId).1
      ((s.flip config accepted now).startJob context client accepted p jobId).2 := by
  unfold V2SessionState.startJob
  split
  · rename_i e _
    exact .stuck e accepted version status incomplete ids (some jobId) (.inr rfl)
  · rename_i request hrequest
    obtain ⟨rfl, valid⟩ := construct_eq_ok_iff.1 hrequest
    exact .started accepted version p status incomplete ids prepared ready valid

theorem begin_begins (s : V2SessionState) (hashing : Hashing) (config : StoreConfig)
    (context : SessionRecommendationContext) (client : CentralRecommendationClient)
    (completed : Bool) (now : ℚ) (jobId : String) :
    Begins hashing config context client completed now jobId s
      (s.begin hashing config context client completed now jobId).1
      (s.begin hashing config context client completed now jobId).2 := by
  unfold V2SessionState.begin
  split
  · rename_i status
    split
    · exact .refused _
    · rename_i accepted h
      exact .again accepted status h
  · rename_i status
    rw [not_not] at status
    split
    · exact .refused _
    · rename_i incomplete
      rw [Bool.not_eq_true] at incomplete
      split
      · exact .refused _
      · rename_i accepted version ids
        unfold V2SessionState.conclude
        dsimp only
        split
        · refine settleWith_begins status incomplete ids fun d hd => ?_
          obtain ⟨_, -, hd⟩ := bind_eq_ok_iff.1 hd
          exact (decideWithoutProduct_own hd).1
        · split
          · rename_i e _
            exact .stuck e accepted version status incomplete ids s.activeJobId (.inl rfl)
          · rename_i p prepared
            split
            · rename_i ready
              exact startJob_begins status incomplete ids prepared ready
            · exact settleWith_begins status incomplete ids fun d hd => p.decide_own hd

/-- **Every result of `begin_completion`**. -/
theorem begin_cases {completed : Bool} {result : Except PyError Begun} {s' : V2SessionState}
    (h : s.begin hashing config context client completed now jobId = (result, s')) :
    Begins hashing config context client completed now jobId s result s' := by
  have begins := begin_begins s hashing config context client completed now jobId
  rwa [h] at begins

/-- The outcome's identifier is the digest of the run and the session. -/
theorem startIds_own (ids : startIds hashing config context client = .ok (accepted, version)) :
    accepted.recommendationId = recommendationId hashing config context.sessionId ∧
      ContractModel.FieldsValid accepted ∧ ContractModel.FieldsValid version := by
  obtain ⟨a, ha, h⟩ := bind_eq_ok_iff.1 ids
  obtain ⟨v, hv, h⟩ := bind_eq_ok_iff.1 h
  cases h
  obtain ⟨rfl, va⟩ := construct_eq_ok_iff.1 ha
  obtain ⟨rfl, vv⟩ := construct_eq_ok_iff.1 hv
  exact ⟨rfl, va, vv⟩

theorem startIds_request (ids : startIds hashing config context client = .ok (accepted, version)) :
    accepted.decisionRequestId = decisionRequestId hashing config context.sessionId := by
  obtain ⟨a, ha, h⟩ := bind_eq_ok_iff.1 ids
  obtain ⟨v, -, h⟩ := bind_eq_ok_iff.1 h
  cases h
  obtain ⟨rfl, -⟩ := construct_eq_ok_iff.1 ha
  rfl

end Begin

/-! ## One step -/

/-- The state a session is in for `append_batch` and `begin_completion`. -/
def currentState (env : StoreEnv) (w : World) (sessionId : String) : V2SessionState :=
  (w.states.get? sessionId).getD (.fresh env.config w.clock)

theorem currentState_absent {env : StoreEnv} {w : World} {sid : String}
    (h : w.states.get? sid = none) : currentState env w sid = .fresh env.config w.clock := by
  rw [currentState, h]; rfl

theorem currentState_present {env : StoreEnv} {w : World} {sid : String} {s : V2SessionState}
    (h : w.states.get? sid = some s) : currentState env w sid = s := by
  rw [currentState, h]; rfl

/-- The states an event can leave a session in. -/
inductive SessionMove (env : StoreEnv) (w : World) (sid : String) :
    Event → Option V2SessionState → Prop where
  | kept (e : Event) : SessionMove env w sid e (w.states.get? sid)
  | swept (now : ℚ) (s : V2SessionState) (h : w.states.get? sid = some s)
      (expired : s.expiresAt ≤ now) (past : now ≤ w.clock) : SessionMove env w sid (.sweep now) none
  | cancelled (record : Option Bool) : SessionMove env w sid (.cancel sid record) none
  /-- A refused call on a session that had no state yet. -/
  | opened (e : Event) (absent : w.states.get? sid = none) :
      SessionMove env w sid e (some (.fresh env.config w.clock))
  | appended (record : Option Bool) (batch : ObservationBatchV2)
      (context : SessionRecommendationContext) (accepted : ObservationBatchAcceptedV2)
      (s' : V2SessionState) (checked : checkBatch env sid record batch = .ok context)
      (h : (currentState env w sid).append env.config context (env.hashing.fingerprint batch) w.clock
        batch = .ok (accepted, s')) :
      SessionMove env w sid (.append sid record batch) (some s')
  | begun (record : Option Bool) (client : CentralRecommendationClient) (jobId : String)
      (context : SessionRecommendationContext) (completed : Bool)
      (checked : checkBegin env sid record = .ok (context, completed)) (undrawn : jobId ∉ w.drawnIds)
      (result : Except PyError Begun) (s' : V2SessionState)
      (h : (currentState env w sid).begin env.hashing env.config context client completed w.clock
        jobId = (result, s')) :
      SessionMove env w sid (.begin sid record client jobId) (some s')
  | registered (job : CompletionJob) (s : V2SessionState) (own : job.sessionId = sid)
      (h : w.states.get? sid = some s) (active : s.activeJobId = some job.jobId) :
      SessionMove env w sid (.register job) (some { s with activeJobHandle := some ⟨job.jobId⟩ })
  | committed (job : CompletionJob) (jobEnd : JobEnd) (decision : RecommendationDecisionV2)
      (s : V2SessionState) (own : job.sessionId = sid) (known : job ∈ w.jobs)
      (decided : job.decide env.casefold jobEnd = .ok decision) (h : w.states.get? sid = some s)
      (pending : s.status = .pending) (active : s.activeJobId = some job.jobId) :
      SessionMove env w sid (.commit job jobEnd) (some { s.clearTransient with
        decision := some decision
        status := .terminal
        activeJobId := none
        activeJob := none
        activeJobHandle := none
        expiresAt := w.clock + env.config.decisionTtl })

section Step

variable {env : StoreEnv} {w w' : World} {e : Event}

variable (env)

theorem openSession_eq (states : Sessions) (sessionId : String) (now : ℚ) :
    (openSession env states sessionId now).1 =
      (states.get? sessionId).getD (.fresh env.config now) := by
  unfold openSession
  cases states.get? sessionId <;> rfl

/-- Opening a session leaves the others as they are. -/
theorem get?_openSession (states : Sessions) (sessionId sid : String) (now : ℚ) :
    (openSession env states sessionId now).2.get? sid = states.get? sid ∨
      sid = sessionId ∧ states.get? sid = none ∧
        (openSession env states sessionId now).2.get? sid = some (.fresh env.config now) := by
  unfold openSession
  cases h : states.get? sessionId with
  | some s => exact .inl rfl
  | none =>
    by_cases hs : sid = sessionId
    · subst hs
      exact .inr ⟨rfl, h, Dict.get?_set_self ..⟩
    · exact .inl (Dict.get?_set_ne _ hs _)

theorem getContext_eq_ok {sessionId : String} {record : Option Bool}
    {context : SessionRecommendationContext} {completed : Bool}
    (h : env.getContext sessionId record = .ok (context, completed)) :
    env.context sessionId = some context ∧ context.sessionId = sessionId ∧
      record = some completed := by
  unfold StoreEnv.getContext at h
  split at h <;> cases h
  rename_i hcontext
  exact ⟨hcontext, env.ownContext sessionId _ hcontext, rfl⟩

/-- A checked call is about the session's own context, whose source AOIs are approved. -/
theorem checkBegin_eq_ok {sessionId : String} {record : Option Bool}
    {context : SessionRecommendationContext} {completed : Bool}
    (h : checkBegin env sessionId record = .ok (context, completed)) :
    env.context sessionId = some context ∧ context.sessionId = sessionId ∧
      ∀ m ∈ context.sourceAoiMetadata, m.approvalStatus = .approved := by
  obtain ⟨⟨context', completed'⟩, found, h⟩ := bind_eq_ok_iff.1 h
  obtain ⟨hcontext, own, -⟩ := getContext_eq_ok env found
  dsimp only at h
  split at h <;> cases h
  rename_i approved
  exact ⟨hcontext, own, by simpa using approved⟩

/-- A checked batch is about the session's own context, and so is each of its observations. -/
theorem checkBatch_eq_ok {sessionId : String} {record : Option Bool} {batch : ObservationBatchV2}
    {context : SessionRecommendationContext}
    (h : checkBatch env sessionId record batch = .ok context) :
    env.context sessionId = some context ∧ context.sessionId = sessionId ∧
      ∀ o ∈ batch.observations, (checkObservation context o).isOk = true := by
  obtain ⟨⟨context', completed⟩, found, h⟩ := bind_eq_ok_iff.1 h
  obtain ⟨hcontext, own, -⟩ := getContext_eq_ok env found
  dsimp only at h
  split_ifs at h
  obtain ⟨_, checked, h⟩ := bind_eq_ok_iff.1 h
  cases h
  exact ⟨hcontext, own, mapM_isOk_iff.1 (isOk_iff_exists.2 ⟨_, checked⟩)⟩

/-- `begin_completion` is refused before the lock, or its result and the state it leaves are
those of the session's state. -/
theorem beginCompletion_cases {states states' : Sessions} {now : ℚ} {sessionId : String}
    {record : Option Bool} {client : CentralRecommendationClient} {jobId : String}
    {result : Except PyError Begun}
    (h : beginCompletion env states now sessionId record client jobId = (result, states')) :
    (∃ e, checkBegin env sessionId record = .error e ∧ result = .error e ∧ states' = states) ∨
      ∃ context completed s', checkBegin env sessionId record = .ok (context, completed) ∧
        ((states.get? sessionId).getD (.fresh env.config now)).begin env.hashing env.config context
          client completed now jobId = (result, s') ∧
        states' = (openSession env states sessionId now).2.set sessionId s' := by
  unfold beginCompletion at h
  split at h
  · rename_i e he
    obtain ⟨rfl, rfl⟩ := Prod.mk.inj h
    exact .inl ⟨e, he, rfl, rfl⟩
  · rename_i context completed checked
    obtain ⟨hresult, hstates⟩ := Prod.mk.inj h
    refine .inr ⟨context, completed, _, checked, ?_, hstates.symm⟩
    rw [← openSession_eq]
    exact Prod.ext hresult rfl

variable {env}

theorem activeState_eq_some {states : Sessions} {job : CompletionJob} {s : V2SessionState} :
    activeState states job = some s ↔ states.get? job.sessionId = some s ∧ s.status = .pending ∧
      s.activeJobId = some job.jobId := by
  simp [activeState, Option.filter_eq_some_iff]

theorem appendBatch_move (w : World) (sessionId sid : String) (record : Option Bool)
    (batch : ObservationBatchV2) :
    SessionMove env w sid (.append sessionId record batch)
      ((appendBatch env w.states w.clock sessionId record batch).2.get? sid) := by
  unfold appendBatch
  split
  · exact .kept _
  · rename_i context checked
    dsimp only
    have others := get?_openSession env w.states sessionId sid w.clock
    split
    · rcases others with h | ⟨-, absent, h⟩
      · rw [h]; exact .kept _
      · rw [h]; exact .opened _ absent
    · rename_i accepted s' h
      by_cases hs : sid = sessionId
      · subst hs
        rw [Dict.get?_set_self]
        rw [openSession_eq] at h
        exact .appended record batch context accepted s' checked h
      · rw [Dict.get?_set_ne _ hs]
        rcases others with h | ⟨h, -⟩
        · rw [h]; exact .kept _
        · exact (hs h).elim

theorem beginCompletion_move (w : World) (sessionId sid : String) (record : Option Bool)
    (client : CentralRecommendationClient) {jobId : String} (undrawn : jobId ∉ w.drawnIds) :
    SessionMove env w sid (.begin sessionId record client jobId)
      ((beginCompletion env w.states w.clock sessionId record client jobId).2.get? sid) := by
  obtain ⟨result, states', h⟩ : ∃ r t, beginCompletion env w.states w.clock sessionId record client
    jobId = (r, t) := ⟨_, _, rfl⟩
  rw [h]
  rcases beginCompletion_cases env h with ⟨e, -, -, rfl⟩ | ⟨context, completed, s', checked, hs', rfl⟩
  · exact .kept _
  · by_cases hs : sid = sessionId
    · subst hs
      rw [Dict.get?_set_self]
      exact .begun record client jobId context completed checked undrawn result s' hs'
    · rw [Dict.get?_set_ne _ hs]
      rcases get?_openSession env w.states sessionId sid w.clock with h | ⟨h, -⟩
      · rw [h]; exact .kept _
      · exact (hs h).elim

/-- **Every step moves a session in one of these ways**. -/
theorem step_move (h : step env w e = some w') (sid : String) :
    SessionMove env w sid e (w'.states.get? sid) := by
  cases e with
  | tick duration =>
    simp only [step] at h
    split at h <;> cases h
    exact .kept _
  | sweep now =>
    simp only [step] at h
    split at h <;> cases h
    rename_i past
    simp only [World.remove, cleanupExpired, Dict.get?_filter]
    have kept : SessionMove env w sid (.sweep now) (w.states.get? sid) := .kept _
    cases hs : w.states.get? sid with
    | none => rwa [hs] at kept
    | some s =>
      by_cases hlt : now < s.expiresAt
      · rw [Option.filter_some, if_pos (by simpa using hlt)]
        rwa [hs] at kept
      · rw [Option.filter_some, if_neg (by simpa using hlt)]
        exact .swept now s hs (not_lt.1 hlt) past
  | append sessionId record batch =>
    cases h
    exact appendBatch_move w sessionId sid record batch
  | begin sessionId record client jobId =>
    simp only [step] at h
    split at h <;> cases h
    rename_i undrawn
    exact beginCompletion_move w sessionId sid record client undrawn
  | register job =>
    simp only [step] at h
    split at h <;> cases h
    simp only [registerHandle]
    split
    · exact .kept _
    · rename_i s hs
      split
      · rename_i active
        by_cases hsid : sid = job.sessionId
        · subst hsid
          rw [Dict.get?_set_self]
          exact .registered job s rfl hs active
        · rw [Dict.get?_set_ne _ hsid]
          exact .kept _
      · exact .kept _
  | commit job jobEnd =>
    simp only [step] at h
    split at h
    · rename_i known
      split at h <;> cases h
      · exact .kept _
      · rename_i decision decided
        simp only [commitTerminal]
        split
        · exact .kept _
        · rename_i s hs
          obtain ⟨hs, pending, active⟩ := activeState_eq_some.1 hs
          by_cases hsid : sid = job.sessionId
          · subst hsid
            rw [Dict.get?_set_self]
            exact .committed job jobEnd decision s rfl known decided hs pending active
          · rw [Dict.get?_set_ne _ hsid]
            exact .kept _
    · cases h
  | cancel sessionId record =>
    cases h
    simp only [World.remove, cancelSession]
    split
    · exact .kept _
    · by_cases hsid : sid = sessionId
      · subst hsid
        rw [Dict.get?_pop_self]
        exact .cancelled record
      · rw [Dict.get?_pop_ne _ hsid]
        exact .kept _
  | get sessionId record =>
    cases h
    exact .kept _

end Step

end Mkk.Api
