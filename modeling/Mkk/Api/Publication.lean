import Mkk.Api.StoreSteps

/-!
# Who publishes a decision

Jobs run outside the lock and outlive the state they were started from. A decision of a job
reaches a session only while the session is pending for that very job, a published decision
stays until the session is removed, and a job whose session was removed never publishes: job
ids are drawn fresh, so no later state is ever pending for it. `publication` says the three
over all runs.
-/

namespace Mkk.Api

open Lib

/-- The decision of a session. -/
def decisionAt (w : World) (sid : String) : Option RecommendationDecisionV2 :=
  (w.states.get? sid).bind (·.decision)

/-- The state is pending for the job. -/
def PendingFor (w : World) (sid : String) (job : CompletionJob) : Prop :=
  ∃ s, w.states.get? sid = some s ∧ s.status = .pending ∧ s.activeJobId = some job.jobId

section Moves

variable {env : StoreEnv} {w w' : World} {e : Event} {sid : String} {s s' : V2SessionState}

/-- The current state and the stored one agree on what a fresh state leaves empty. -/
theorem currentState_decision (env : StoreEnv) (w : World) (sid : String) :
    (currentState env w sid).decision = decisionAt w sid := by
  unfold currentState decisionAt
  cases w.states.get? sid <;> rfl

/-- A new decision comes from the session's own completion or from the job it is pending for. -/
theorem decision_of_move {o : Option V2SessionState} (h : SessionMove env w sid e o)
    {d : RecommendationDecisionV2} (hd : o.bind (·.decision) = some d) :
    decisionAt w sid = some d ∨ (∃ record client jobId, e = .begin sid record client jobId) ∨
      ∃ job jobEnd, e = .commit job jobEnd ∧ sid = job.sessionId ∧
        job.decide env.casefold jobEnd = .ok d ∧ PendingFor w sid job := by
  cases h with
  | kept => exact .inl hd
  | swept => cases hd
  | cancelled => cases hd
  | opened => cases hd
  | appended record batch context accepted s' checked h =>
    left
    obtain ⟨-, -, -, hdec, -⟩ := append_frame h
    rw [← currentState_decision env, ← hdec]
    exact hd
  | begun record client jobId => exact .inr (.inl ⟨record, client, jobId, rfl⟩)
  | registered job s own h active =>
    left
    rw [decisionAt, h]
    exact hd
  | committed job jobEnd decision s own known decided h pending active =>
    cases hd
    exact .inr (.inr ⟨job, jobEnd, rfl, own.symm, decided, s, h, pending, active⟩)

/-- A terminal state keeps its decision as long as it is there. -/
theorem terminal_of_move {o : Option V2SessionState} (h : SessionMove env w sid e o)
    (hs : w.states.get? sid = some s) (terminal : s.status = .terminal) :
    o = none ∨ ∃ s', o = some s' ∧ s'.status = .terminal ∧ s'.decision = s.decision ∧
      s'.accepted = s.accepted := by
  cases h with
  | kept => exact .inr ⟨s, hs, terminal, rfl, rfl⟩
  | swept => exact .inl rfl
  | cancelled => exact .inl rfl
  | opened e absent => rw [absent] at hs; cases hs
  | appended record batch context accepted s' checked h =>
    rw [currentState_present hs] at h
    rw [(append_frame h).1] at terminal
    cases terminal
  | begun record client jobId context completed checked undrawn result s' h =>
    rw [currentState_present hs] at h
    right
    cases begin_cases h with
    | refused | again => exact ⟨_, rfl, terminal, rfl, rfl⟩
    | stuck _ _ _ status | decided _ _ _ status | started _ _ _ status =>
      rw [terminal] at status
      cases status
  | registered job s₁ own h active =>
    rw [hs] at h
    cases h
    exact .inr ⟨_, rfl, terminal, rfl, rfl⟩
  | committed job jobEnd decision s₁ own known decided h pending active =>
    rw [hs] at h
    cases h
    rw [terminal] at pending
    cases pending

/-- A state becomes pending for a job id only when that id is drawn for it. -/
theorem active_of_move {o : Option V2SessionState} (h : SessionMove env w sid e o) {id : String}
    (ho : o = some s') (active : s'.activeJobId = some id) :
    (∃ s, w.states.get? sid = some s ∧ s.activeJobId = some id) ∨
      ∃ record client, e = .begin sid record client id ∧ id ∉ w.drawnIds := by
  have old (hc : (currentState env w sid).activeJobId = some id) :
      ∃ s, w.states.get? sid = some s ∧ s.activeJobId = some id := by
    cases hs : w.states.get? sid with
    | none => rw [currentState_absent hs] at hc; cases hc
    | some s => exact ⟨s, rfl, by rwa [currentState_present hs] at hc⟩
  cases h with
  | kept => exact .inl ⟨s', ho, active⟩
  | swept => cases ho
  | cancelled => cases ho
  | opened => cases ho; cases active
  | appended record batch context accepted s₁ checked h =>
    cases ho
    obtain ⟨-, -, -, -, hactive, -⟩ := append_frame h
    exact .inl (old (hactive ▸ active))
  | begun record client jobId context completed checked undrawn result s₁ h =>
    cases ho
    have drawn (hid : some id = (currentState env w sid).activeJobId ∨ some id = some jobId) :
        (∃ s, w.states.get? sid = some s ∧ s.activeJobId = some id) ∨
          ∃ record' client', Event.begin sid record client jobId = .begin sid record' client' id ∧
            id ∉ w.drawnIds := by
      rcases hid with hid | hid
      · exact .inl (old hid.symm)
      · cases hid; exact .inr ⟨record, client, rfl, undrawn⟩
    cases begin_cases h with
    | refused | again => exact .inl (old active)
    | stuck e accepted version status incomplete ids id' hid => exact drawn (active ▸ hid)
    | decided => exact .inl (old active)
    | started => exact drawn (.inr active.symm)
  | registered job s own h active' => cases ho; exact .inl ⟨s, h, active⟩
  | committed => cases ho; cases active

end Moves

/-! ## Job ids -/

/-- The store's bookkeeping of job ids: an active id was drawn, and the id of a job that was
handed out is active for that job's session only. -/
structure JobIds (w : World) : Prop where
  jobs : ∀ job ∈ w.jobs, job.jobId ∈ w.drawnIds
  active : ∀ sid s id, w.states.get? sid = some s → s.activeJobId = some id → id ∈ w.drawnIds
  own : ∀ sid s, w.states.get? sid = some s → ∀ job ∈ w.jobs, s.activeJobId = some job.jobId →
    sid = job.sessionId

section Jobs

variable {env : StoreEnv} {w w' : World} {e : Event}

/-- Job ids are drawn by `begin_completion` only, and never again. -/
theorem step_drawn (h : step env w e = some w') : ∀ id ∈ w.drawnIds, id ∈ w'.drawnIds := by
  intro id hid
  cases e with
  | begin sessionId record client jobId =>
    simp only [step] at h
    split at h <;> cases h
    exact List.mem_cons_of_mem _ hid
  | tick | sweep | register => simp only [step] at h; split at h <;> cases h; exact hid
  | commit => simp only [step] at h; split at h <;> [split at h; skip] <;> cases h <;> exact hid
  | append | cancel | get => cases h; exact hid

/-- A job that is handed out carries its session and the id that was drawn for it. -/
theorem beginCompletion_handedOut {states states' : Sessions} {now : ℚ} {sessionId : String}
    {record : Option Bool} {client : CentralRecommendationClient} {jobId : String}
    {result : Except PyError Begun} {job : CompletionJob}
    (h : beginCompletion env states now sessionId record client jobId = (result, states'))
    (hjob : job ∈ handedOut result) :
    job.sessionId = sessionId ∧ job.jobId = jobId ∧
      job.accepted.recommendationId = recommendationId env.hashing env.config sessionId := by
  rcases beginCompletion_cases env h with ⟨e, -, rfl, -⟩ | ⟨context, completed, s', checked, hs', -⟩
  · cases hjob
  · obtain ⟨-, own, -⟩ := checkBegin_eq_ok env checked
    cases begin_cases hs' with
    | refused | again | stuck | decided => cases hjob
    | started accepted version p status incomplete ids =>
      cases List.mem_singleton.1 hjob
      exact ⟨own, rfl, own ▸ (startIds_own ids).1⟩

/-- The jobs after a step: those before it, and the one that `begin_completion` hands out. -/
theorem step_jobs (h : step env w e = some w') {job : CompletionJob} (hjob : job ∈ w'.jobs) :
    job ∈ w.jobs ∨ (∃ record client, e = .begin job.sessionId record client job.jobId) ∧
      job.jobId ∉ w.drawnIds ∧ job.jobId ∈ w'.drawnIds ∧
      job.accepted.recommendationId = recommendationId env.hashing env.config job.sessionId := by
  cases e with
  | begin sessionId record client jobId =>
    simp only [step] at h
    split at h <;> cases h
    rename_i undrawn
    rcases List.mem_append.1 hjob with hjob | hjob
    · obtain ⟨rfl, rfl, own⟩ := beginCompletion_handedOut rfl hjob
      exact .inr ⟨⟨record, client, rfl⟩, undrawn, List.mem_cons_self, own⟩
    · exact .inl hjob
  | tick | sweep | register => simp only [step] at h; split at h <;> cases h; exact .inl hjob
  | commit => simp only [step] at h; split at h <;> [split at h; skip] <;> cases h <;> exact .inl hjob
  | append | cancel | get => cases h; exact .inl hjob

theorem step_jobs_mono (h : step env w e = some w') {job : CompletionJob} (hjob : job ∈ w.jobs) :
    job ∈ w'.jobs := by
  cases e with
  | begin =>
    simp only [step] at h
    split at h <;> cases h
    exact List.mem_append_right _ hjob
  | tick | sweep | register => simp only [step] at h; split at h <;> cases h; exact hjob
  | commit => simp only [step] at h; split at h <;> [split at h; skip] <;> cases h <;> exact hjob
  | append | cancel | get => cases h; exact hjob

theorem JobIds.init : JobIds {} := ⟨by simp, by simp, by simp⟩

/-- **The bookkeeping is kept by every step**. -/
theorem JobIds.step (inv : JobIds w) (h : step env w e = some w') : JobIds w' where
  jobs job hjob := by
    rcases step_jobs h hjob with hjob | ⟨-, -, drawn, -⟩
    · exact step_drawn h _ (inv.jobs job hjob)
    · exact drawn
  active sid s id hs active := by
    have move := step_move h sid
    rcases active_of_move move hs active with ⟨s₀, hs₀, active₀⟩ | ⟨record, client, rfl, -⟩
    · exact step_drawn h _ (inv.active sid s₀ id hs₀ active₀)
    · simp only [Mkk.Api.step] at h
      split at h <;> cases h
      exact List.mem_cons_self
  own sid s hs job hjob active := by
    rcases active_of_move (step_move h sid) hs active with ⟨s₀, hs₀, active₀⟩ |
      ⟨record, client, rfl, undrawn⟩
    · rcases step_jobs h hjob with hjob | ⟨-, undrawn, -⟩
      · exact inv.own sid s₀ hs₀ job hjob active₀
      · exact (undrawn (inv.active sid s₀ _ hs₀ active₀)).elim
    · rcases step_jobs h hjob with hjob | ⟨⟨record', client', he⟩, -⟩
      · exact (undrawn (inv.jobs job hjob)).elim
      · cases he; rfl

theorem JobIds.of_reachable (h : Reachable env w) : JobIds w := by
  obtain ⟨es, run⟩ := h
  exact run.invariant (fun _ _ _ inv _ hstep => inv.step hstep) JobIds.init

/-! ## Jobs whose session was removed -/

/-- No session is pending for the job. -/
def Dead (w : World) (job : CompletionJob) : Prop :=
  ∀ sid s, w.states.get? sid = some s → s.activeJobId ≠ some job.jobId

/-- A job dies with the state it was started from. -/
theorem dead_of_removed (inv : JobIds w) {job : CompletionJob} (hjob : job ∈ w.jobs)
    (removed : w.states.get? job.sessionId = none) : Dead w job := by
  intro sid s hs active
  obtain rfl := inv.own sid s hs job hjob active
  rw [removed] at hs
  cases hs

theorem Dead.step {job : CompletionJob} (dead : Dead w job) (drawn : job.jobId ∈ w.drawnIds)
    (h : step env w e = some w') : Dead w' job := by
  intro sid s hs active
  rcases active_of_move (step_move h sid) hs active with ⟨s₀, hs₀, active₀⟩ | ⟨-, -, -, undrawn⟩
  · exact dead sid s₀ hs₀ active₀
  · exact undrawn drawn

/-- A dead job stays dead along every run. -/
theorem Dead.steps {job : CompletionJob} {es : List Event} (dead : Dead w job)
    (drawn : job.jobId ∈ w.drawnIds) (run : Lts.Steps (Mkk.Api.step env) Lts.Free w es w') :
    Dead w' job :=
  (run.invariant (P := fun v => Dead v job ∧ job.jobId ∈ v.drawnIds)
    (fun _ _ _ inv _ hstep => ⟨inv.1.step inv.2 hstep, step_drawn hstep _ inv.2⟩) ⟨dead, drawn⟩).1

/-- A dead job's commit changes no session. -/
theorem Dead.commit {job : CompletionJob} (dead : Dead w job) {jobEnd : JobEnd}
    (h : Mkk.Api.step env w (.commit job jobEnd) = some w') : w'.states = w.states := by
  have inactive : activeState w.states job = none := by
    by_contra hne
    obtain ⟨s, hs⟩ := Option.ne_none_iff_exists'.1 hne
    obtain ⟨hs, -, active⟩ := activeState_eq_some.1 hs
    exact dead _ s hs active
  simp only [Mkk.Api.step] at h
  split at h
  · split at h <;> cases h
    · rfl
    · simp only [commitTerminal, inactive]
  · cases h

/-! ## All runs -/

/-- A terminal decision stays while the session is there. -/
theorem terminal_steps {sid : String} {s : V2SessionState} {es : List Event}
    (run : Lts.Steps (Mkk.Api.step env) (fun v _ => (v.states.get? sid).isSome = true) w es w')
    (hs : w.states.get? sid = some s) (terminal : s.status = .terminal) :
    w'.states.get? sid = none ∨ ∃ s', w'.states.get? sid = some s' ∧ s'.status = .terminal ∧
      s'.decision = s.decision := by
  have last := run.invariant (P := fun v => v.states.get? sid = none ∨
      ∃ s', v.states.get? sid = some s' ∧ s'.status = .terminal ∧ s'.decision = s.decision) ?_
    (.inr ⟨s, hs, terminal, rfl⟩)
  · exact last
  · rintro v e v' (absent | ⟨s₁, hs₁, terminal₁, hd⟩) present hstep
    · rw [absent] at present; cases present
    · rcases terminal_of_move (step_move hstep sid) hs₁ terminal₁ with h | ⟨s₂, hs₂, ht, hd₂, -⟩
      · exact .inl h
      · exact .inr ⟨s₂, hs₂, ht, hd₂.trans hd⟩

/-- A job is handed out and its session is cancelled. -/
def cancelledRun : List Event :=
  [.append "session-0001" (some false) glanceBatch,
    .begin "session-0001" (some false) lunaClient "job-1",
    .cancel "session-0001" (some false)]

end Jobs

end Mkk.Api
