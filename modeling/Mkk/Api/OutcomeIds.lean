import Mkk.Api.Publication

/-!
# What a recommendation id names

The id of an outcome is a digest of the run and the session, while `cancel` and the TTLs
remove the state that makes `complete` idempotent. A session that is completed again after
that gets the same id for a new outcome (`restarted_outcome_differs`). As long as no session is
completed again after its started completion was removed, an id names one outcome
(`outcome_unique`).
-/

namespace Mkk.Api

open Lib

/-- The call starts a completion: it passes the checks on a session that still collects. -/
def StartsCompletion (env : StoreEnv) (w : World) (sid : String) (record : Option Bool)
    (client : CentralRecommendationClient) : Prop :=
  ∃ context, checkBegin env sid record = .ok (context, false) ∧
    (currentState env w sid).status = .collecting ∧
    (startIds env.hashing env.config context client).isOk = true

/-- No completion starts for a session whose started completion was removed; the sessions that
are completed are in `S`. -/
def NotRestarted (env : StoreEnv) (S : Set String) (w : World) : Event → Prop
  | .begin sid record client _ => StartsCompletion env w sid record client → sid ∈ S ∧ sid ∉ w.retired
  | _ => True

section Moves

variable {env : StoreEnv} {w w' : World} {e : Event} {sid : String} {s s' : V2SessionState}

/-- Only the sweep and `cancel` remove a session, and they record a started completion. -/
theorem retired_of_removed (h : step env w e = some w') (hs : w.states.get? sid = some s)
    (started : s.accepted.isSome = true) (removed : w'.states.get? sid = none) :
    sid ∈ w'.retired := by
  have recorded {after : Sessions} (ha : after.get? sid = none) :
      sid ∈ (w.remove after).retired := by
    refine List.mem_append_left _ (List.mem_map.2 ⟨(sid, s), List.mem_filter.2 ⟨?_, ?_⟩, rfl⟩)
    · exact Dict.mem_entries_iff.2 hs
    · simp [started, ha]
  cases e with
  | sweep now =>
    simp only [step] at h
    split at h <;> cases h
    exact recorded removed
  | cancel sessionId record => cases h; exact recorded removed
  | tick | append | begin | register | commit | get =>
    have move := step_move h sid
    rw [removed] at move
    generalize ho : (none : Option V2SessionState) = o at move
    cases move with
    | kept => rw [hs] at ho; cases ho
    | _ => cases ho

theorem retired_mono (h : step env w e = some w') : ∀ sid ∈ w.retired, sid ∈ w'.retired := by
  intro sid hsid
  cases e with
  | sweep => simp only [step] at h; split at h <;> cases h; exact List.mem_append_right _ hsid
  | cancel => cases h; exact List.mem_append_right _ hsid
  | tick | begin | register => simp only [step] at h; split at h <;> cases h; exact hsid
  | commit => simp only [step] at h; split at h <;> [split at h; skip] <;> cases h <;> exact hsid
  | append | get => cases h; exact hsid

end Moves

/-! ## The identifiers in a world -/

/-- A session's state carries the session's own identifier, and only once it was started. -/
structure OwnIds (env : StoreEnv) (S : Set String) (sid : String) (s : V2SessionState) : Prop where
  accepted : ∀ a ∈ s.accepted,
    sid ∈ S ∧ a.recommendationId = recommendationId env.hashing env.config sid ∧
      s.status ≠ .collecting
  decision : ∀ d ∈ s.decision, d.recommendationId = recommendationId env.hashing env.config sid

/-- The decision is still the session's, or the session was removed and not started again. -/
def Settled (w : World) (sid : String) (d : RecommendationDecisionV2) : Prop :=
  (∃ s, w.states.get? sid = some s ∧ s.status = .terminal ∧ s.decision = some d ∧
    s.accepted.isSome = true) ∨
    (sid ∈ w.retired ∧ ∀ s, w.states.get? sid = some s → s.accepted = none)

/-- What a run without restarts keeps. -/
structure OutcomeInv (env : StoreEnv) (S : Set String) (w : World) : Prop where
  states : ∀ sid s, w.states.get? sid = some s → OwnIds env S sid s
  jobs : ∀ job ∈ w.jobs, job.accepted.recommendationId =
    recommendationId env.hashing env.config job.sessionId
  returned : ∀ d ∈ w.returned, ∃ sid ∈ S,
    d.recommendationId = recommendationId env.hashing env.config sid ∧ Settled w sid d
  unique : ∀ d ∈ w.returned, ∀ d' ∈ w.returned, d.recommendationId = d'.recommendationId → d = d'

section Steps

variable {env : StoreEnv} {S : Set String} {w w' : World} {e : Event} {sid : String}

theorem OwnIds.fresh (sid : String) (now : ℚ) : OwnIds env S sid (.fresh env.config now) :=
  ⟨fun _ h => (nomatch h), fun _ h => (nomatch h)⟩

/-- Of a state in a run, whether stored or fresh. -/
theorem OutcomeInv.current (inv : OutcomeInv env S w) (sid : String) :
    OwnIds env S sid (currentState env w sid) := by
  unfold currentState
  cases hs : w.states.get? sid with
  | none => exact .fresh sid _
  | some s => exact inv.states sid s hs

theorem OutcomeInv.states_step (inv : OutcomeInv env S w) (guard : NotRestarted env S w e)
    (h : step env w e = some w') {s' : V2SessionState} (hs' : w'.states.get? sid = some s') :
    OwnIds env S sid s' := by
  have move := step_move h sid
  generalize ho : w'.states.get? sid = o at move hs'
  cases move with
  | kept => exact inv.states sid s' hs'
  | swept => cases hs'
  | cancelled => cases hs'
  | opened => cases hs'; exact .fresh sid _
  | appended record batch context accepted s₁ checked h =>
    cases hs'
    obtain ⟨status, status', haccepted, hdecision, -⟩ := append_frame h
    have own := inv.current sid
    exact ⟨fun a ha => ((own.accepted a (haccepted ▸ ha)).2.2 status).elim,
      fun d hd => own.decision d (hdecision ▸ hd)⟩
  | begun record client jobId context completed checked undrawn result s₁ hb =>
    cases hs'
    have own := inv.current sid
    have hcontext := (checkBegin_eq_ok env checked).2.1
    have starts {accepted : RecommendationAcceptedV2} {version : RecommendationVersionV2}
        (status : (currentState env w sid).status = .collecting) (incomplete : completed = false)
        (ids : startIds env.hashing env.config context client = .ok (accepted, version)) :
        sid ∈ S ∧ accepted.recommendationId = recommendationId env.hashing env.config sid := by
      subst incomplete
      exact ⟨(guard ⟨context, checked, status, isOk_iff_exists.2 ⟨_, ids⟩⟩).1,
        hcontext ▸ (startIds_own ids).1⟩
    cases begin_cases hb with
    | refused | again => exact own
    | stuck e accepted version status incomplete ids id drawn =>
      obtain ⟨hS, hid⟩ := starts status incomplete ids
      exact ⟨fun a ha => by cases ha; exact ⟨hS, hid, by simp [V2SessionState.flip]⟩,
        fun d hd => own.decision d hd⟩
    | decided accepted version decision status incomplete ids hown =>
      obtain ⟨hS, hid⟩ := starts status incomplete ids
      exact ⟨fun a ha => by cases ha; exact ⟨hS, hid, by simp [V2SessionState.settle]⟩,
        fun d hd => by cases hd; exact hown.trans hid⟩
    | started accepted version p status incomplete ids =>
      obtain ⟨hS, hid⟩ := starts status incomplete ids
      exact ⟨fun a ha => by cases ha; exact ⟨hS, hid, by simp [V2SessionState.flip]⟩,
        fun d hd => own.decision d hd⟩
  | registered job s own hs active =>
    cases hs'
    exact ⟨(inv.states sid s hs).accepted, (inv.states sid s hs).decision⟩
  | committed job jobEnd decision s own known decided hs pending active =>
    cases hs'
    exact ⟨fun a ha => ⟨((inv.states sid s hs).accepted a ha).1,
        ((inv.states sid s hs).accepted a ha).2.1, by simp⟩,
      fun d hd => by
        cases hd
        exact (CompletionJob.decide_own decided).1.trans (own ▸ inv.jobs job known)⟩

/-- A decision that was returned stays settled. -/
theorem Settled.step {d : RecommendationDecisionV2} (settled : Settled w sid d)
    (guard : NotRestarted env S w e) (h : step env w e = some w') : Settled w' sid d := by
  rcases settled with ⟨s, hs, terminal, hd, started⟩ | ⟨retired, idle⟩
  · rcases terminal_of_move (step_move h sid) hs terminal with removed | ⟨s', hs', ht, hd', ha⟩
    · refine .inr ⟨retired_of_removed h hs started removed, fun s' hs' => ?_⟩
      rw [removed] at hs'
      cases hs'
    · exact .inl ⟨s', hs', ht, hd'.trans hd, ha ▸ started⟩
  · refine .inr ⟨retired_mono h sid retired, fun s' hs' => ?_⟩
    have current : (currentState env w sid).accepted = none := by
      unfold currentState
      cases hs : w.states.get? sid with
      | none => rfl
      | some s => exact idle s hs
    have move := step_move h sid
    generalize ho : w'.states.get? sid = o at move hs'
    cases move with
    | kept => exact idle s' hs'
    | swept => cases hs'
    | cancelled => cases hs'
    | opened => cases hs'; rfl
    | appended record batch context accepted s₁ checked h =>
      cases hs'
      exact (append_frame h).2.2.1.trans current
    | begun record client jobId context completed checked undrawn result s₁ hb =>
      cases hs'
      cases begin_cases hb with
      | refused | again => exact current
      | stuck _ accepted version status incomplete ids | decided accepted version _ status incomplete ids
      | started accepted version _ status incomplete ids =>
        subst incomplete
        exact ((guard ⟨context, checked, status, isOk_iff_exists.2 ⟨_, ids⟩⟩).2 retired).elim
    | registered job s own hs active => cases hs'; exact idle s hs
    | committed job jobEnd decision s own known decided hs pending active =>
      cases hs'
      exact idle s hs

/-- What `get_recommendation` shows is the decision of a terminal session. -/
theorem getRecommendation_shown {record : Option Bool} {d : RecommendationDecisionV2}
    (own : ∀ s, w.states.get? sid = some s → OwnIds env S sid s)
    (h : d ∈ shownDecision (getRecommendation env w.states sid record)) :
    ∃ s, w.states.get? sid = some s ∧ s.status = .terminal ∧ s.decision = some d ∧
      s.accepted.isSome = true := by
  obtain ⟨r, hr⟩ : ∃ r, getRecommendation env w.states sid record = r := ⟨_, rfl⟩
  rw [hr] at h
  unfold shownDecision at h
  split at h
  · obtain ⟨-, -, hr⟩ := bind_eq_ok_iff.1 hr
    split at hr
    · cases hr
    · rename_i d' s a hs
      obtain ⟨s₁, hs₁, hs⟩ := Option.bind_eq_some_iff.1 hs
      obtain ⟨a₁, ha, hs⟩ := Option.map_eq_some_iff.1 hs
      cases hs
      split at hr
      · cases hr
      · rename_i notPending
        split at hr
        · cases hr
        · rename_i decision hd
          cases hr
          cases List.mem_singleton.1 h
          have collecting := ((own s hs₁).accepted a ha).2.2
          refine ⟨s, hs₁, ?_, hd, by rw [ha]; rfl⟩
          cases hst : s.status <;> simp_all
  · cases h

/-- **A run without restarts keeps the invariant**, step by step. -/
theorem OutcomeInv.step (inj : Set.InjOn (recommendationId env.hashing env.config) S)
    (inv : OutcomeInv env S w) (guard : NotRestarted env S w e) (h : step env w e = some w') :
    OutcomeInv env S w' := by
  have states := fun sid s' (hs' : w'.states.get? sid = some s') => inv.states_step guard h hs'
  have jobs : ∀ job ∈ w'.jobs, job.accepted.recommendationId =
      recommendationId env.hashing env.config job.sessionId := by
    intro job hjob
    rcases step_jobs h hjob with hjob | ⟨-, -, -, own⟩
    · exact inv.jobs job hjob
    · exact own
  have kept : ∀ d ∈ w.returned, ∃ sid ∈ S,
      d.recommendationId = recommendationId env.hashing env.config sid ∧ Settled w' sid d := by
    intro d hd
    obtain ⟨sid, hS, hid, settled⟩ := inv.returned d hd
    exact ⟨sid, hS, hid, settled.step guard h⟩
  by_cases hget : ∃ sessionId record, e = .get sessionId record
  · obtain ⟨sessionId, record, rfl⟩ := hget
    cases h
    -- a shown decision is the terminal one of its session
    have shown (d : RecommendationDecisionV2)
        (hd : d ∈ shownDecision (getRecommendation env w.states sessionId record)) :
        ∃ s, w.states.get? sessionId = some s ∧ s.decision = some d ∧ sessionId ∈ S ∧
          d.recommendationId = recommendationId env.hashing env.config sessionId ∧
          Settled w sessionId d ∧ s.accepted.isSome = true := by
      obtain ⟨s, hs, terminal, hd, started⟩ :=
        getRecommendation_shown (fun s hs => inv.states sessionId s hs) hd
      obtain ⟨a, ha⟩ := Option.isSome_iff_exists.1 started
      exact ⟨s, hs, hd, ((inv.states sessionId s hs).accepted a ha).1,
        (inv.states sessionId s hs).decision d hd, .inl ⟨s, hs, terminal, hd, started⟩, started⟩
    -- an older decision of the same id is the session's decision too
    have agrees (d : RecommendationDecisionV2)
        (hd : d ∈ shownDecision (getRecommendation env w.states sessionId record))
        (d' : RecommendationDecisionV2) (hd' : d' ∈ w.returned)
        (hid : d'.recommendationId = d.recommendationId) : d' = d := by
      obtain ⟨s, hs, hdec, hS, hown, -, started⟩ := shown d hd
      obtain ⟨sid', hS', hid', settled⟩ := inv.returned d' hd'
      obtain rfl : sid' = sessionId := inj hS' hS (hid'.symm.trans (hid.trans hown))
      rcases settled with ⟨s₁, hs₁, -, hdec', -⟩ | ⟨-, idle⟩
      · rw [hs] at hs₁
        cases hs₁
        exact Option.some.inj (hdec'.symm.trans hdec)
      · rw [idle s hs] at started
        cases started
    refine ⟨states, jobs, fun d hd => ?_, fun d hd d' hd' hid => ?_⟩
    · rcases List.mem_append.1 hd with hd | hd
      · obtain ⟨-, -, -, hS, hown, settled, -⟩ := shown d hd
        exact ⟨sessionId, hS, hown, settled⟩
      · exact kept d hd
    · rcases List.mem_append.1 hd with hd | hd <;> rcases List.mem_append.1 hd' with hd' | hd'
      · obtain ⟨s, hs, hdec, -⟩ := shown d hd
        obtain ⟨s', hs', hdec', -⟩ := shown d' hd'
        rw [hs] at hs'
        cases hs'
        exact Option.some.inj (hdec.symm.trans hdec')
      · exact (agrees d hd d' hd' hid.symm).symm
      · exact agrees d' hd' d hd hid
      · exact inv.unique d hd d' hd' hid
  · have same : w'.returned = w.returned := by
      cases e with
      | get sessionId record => exact (hget ⟨_, _, rfl⟩).elim
      | tick | sweep | begin | register => simp only [Mkk.Api.step] at h; split at h <;> cases h; rfl
      | commit => simp only [Mkk.Api.step] at h; split at h <;> [split at h; skip] <;> cases h <;> rfl
      | append | cancel => cases h; rfl
    exact ⟨states, jobs, fun d hd => kept d (same ▸ hd),
      fun d hd d' hd' => inv.unique d (same ▸ hd) d' (same ▸ hd')⟩

theorem OutcomeInv.init : OutcomeInv env S {} :=
  ⟨fun _ _ h => (nomatch h), fun _ h => (nomatch h), fun _ h => (nomatch h), fun _ h => (nomatch h)⟩

/-- **One outcome for each id.** In every run in which no completion starts for a session whose
started completion was removed by cancel or expiry, any two decisions that
`get_recommendation` returns under one recommendation id are equal, when the digest tells the
run's sessions apart. -/
theorem outcome_unique (inj : Set.InjOn (recommendationId env.hashing env.config) S)
    {es : List Event} (run : Lts.Steps (Mkk.Api.step env) (NotRestarted env S) {} es w) :
    ∀ d ∈ w.returned, ∀ d' ∈ w.returned, d.recommendationId = d'.recommendationId → d = d' :=
  (run.invariant (fun _ _ _ inv guard h => inv.step inj guard h) OutcomeInv.init).unique

end Steps

/-! ## A restarted session -/

/-- A frame in which no face was found. -/
def blankFrame : FrameObservationV2 :=
  { glance "frame-1" 0 1000 with
    gaze := none, gazeReason := some "face_not_found"
    attention := none, attentionReason := some "face_not_found" }

def blankBatch : ObservationBatchV2 :=
  batchOf "session-0001" "batch-1" 0 blankFrame sessionId_ok firstBatchId_ok (by decide +kernel)

def stubClient : CentralRecommendationClient := ⟨stubModelId, "revision-1", "prompt-1"⟩

/-- The session ends without a frame, is cancelled and ends again with one. -/
def restartedRun : List Event :=
  [.begin "session-0001" (some false) stubClient "job-1",
    .get "session-0001" (some false),
    .cancel "session-0001" (some false),
    .append "session-0001" (some false) blankBatch,
    .begin "session-0001" (some false) stubClient "job-2",
    .get "session-0001" (some false)]

/-- Two outcomes are returned under one id. -/
theorem restarted_outcome_differs :
    ∃ w, Lts.Steps (step (smallEnv .c false)) Lts.Free {} restartedRun w ∧
      ∃ d ∈ w.returned, ∃ d' ∈ w.returned, d.recommendationId = d'.recommendationId ∧ d ≠ d' := by
  obtain ⟨w, run, hw⟩ := Lts.exists_steps_of_any
    (p := fun w : World => w.returned.any fun d => w.returned.any fun d' =>
      decide (d.recommendationId = d'.recommendationId ∧ d ≠ d'))
    (show (Lts.runAll (step (smallEnv .c false)) {} restartedRun).any _ = true by decide +kernel)
  refine ⟨w, run, ?_⟩
  obtain ⟨d, hd, h⟩ := List.any_eq_true.1 hw
  obtain ⟨d', hd', h⟩ := List.any_eq_true.1 h
  exact ⟨d, hd, d', hd', of_decide_eq_true h⟩

/-- The session ends once and its outcome is read twice. -/
def completedRun : List Event :=
  [.append "session-0001" (some false) blankBatch,
    .begin "session-0001" (some false) stubClient "job-1",
    .get "session-0001" (some false),
    .get "session-0001" (some false)]

theorem outcome_unique_completed :
    ∃ w, Lts.Steps (step (smallEnv .c false)) (NotRestarted (smallEnv .c false) {"session-0001"}) {}
        completedRun w ∧ w.returned.length = 2 ∧
      ∀ d ∈ w.returned, ∀ d' ∈ w.returned, d.recommendationId = d'.recommendationId → d = d' := by
  obtain ⟨w, run, hw⟩ := Lts.exists_guarded_steps_of_any
    (G := NotRestarted (smallEnv .c false) {"session-0001"})
    (p := fun w : World => w.returned.length = 2)
    (fun w e => match e with
      | .begin sid _ _ _ => decide (sid = "session-0001" ∧ sid ∉ w.retired)
      | _ => true)
    (fun w e h => by
      cases e with
      | begin sid record client jobId => exact fun _ => of_decide_eq_true h
      | _ => trivial)
    (show (Lts.runWhile (step (smallEnv .c false)) _ {} completedRun).any _ = true by decide +kernel)
  exact ⟨w, run, of_decide_eq_true hw, outcome_unique (Set.injOn_singleton ..) run⟩

end Mkk.Api
