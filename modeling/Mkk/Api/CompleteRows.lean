import Mkk.Api.Complete
import Mkk.Api.JobDecision

/-!
# The durable row of a completion

`complete` inserts the row of its job only after `begin_completion` has made the job visible to
`cancel` and to the expiry sweep. A closing statement that runs in between finds no row, and the
row that is inserted afterwards belongs to a job nobody will ever finish. In every other
interleaving whose repository calls run, the row is closed: as long as it is open, the session is
live in memory, or somebody still has to run a statement that closes it.
-/

namespace Mkk.Api

open Lib Lib.Lts

/-! ## Statements on the row -/

section Rows

variable {catalog : String → String → Bool} {provider : String} {s t : JobTable catalog} {id : String}

/-- The open rows of the decision request belong to the session. -/
def OwnRows (sid id : String) (t : JobTable catalog) : Prop :=
  ∀ r ∈ t.rows, r.decisionRequestId = id → r.status.active = true → r.sessionId = sid

theorem RowChange.sessionId {now : ℚ} {r r' : JobRow} (h : RowChange now r r') :
    r'.sessionId = r.sessionId := by
  cases h <;> rfl

/-- A call whose operation gave this answer. -/
theorem dbStep_of_run {op : Operation} {now : ℚ} {reply : Reply}
    (h : op.run provider s now = (reply, t)) : dbStep provider s ⟨op, now, reply⟩ = some t := by
  simp [dbStep, h]

variable (provider) in
theorem claimJob_dbStep {request : String} {now : ℚ} {b : Bool}
    (h : claimJob s request now = .ok (b, t)) :
    dbStep provider s ⟨.claimJob request, now, .flag b⟩ = some t := by
  apply dbStep_of_run
  simp only [Operation.run, h, flagged]

variable (provider) in
theorem savePending_dbStep {sid : String} {accepted : RecommendationAcceptedV2}
    {version : RecommendationVersionV2} {now : ℚ} {b : Bool}
    (h : savePending provider s sid accepted version now = .ok (b, t)) :
    dbStep provider s ⟨.savePending sid accepted version, now, .flag b⟩ = some t := by
  apply dbStep_of_run
  simp only [Operation.run, h, flagged]

theorem saveDecision_dbStep {sid : String} {decision : RecommendationDecisionV2} {now : ℚ} {b : Bool}
    (h : saveDecision provider s sid decision now = .ok (b, t)) :
    dbStep provider s ⟨.saveDecision sid decision, now, .flag b⟩ = some t := by
  apply dbStep_of_run
  simp only [Operation.run, h, flagged]

variable (provider) in
theorem Closer.dbStep {c : Closer} {now : ℚ} {b : Bool} (h : c.statement s now = .ok (b, t)) :
    ∃ call : DbCall, Mkk.Api.dbStep provider s call = some t ∧
      ∀ sid accepted version, call.op ≠ .savePending sid accepted version := by
  unfold Closer.statement at h
  split at h
  · refine ⟨⟨.markCancelled c.decisionRequestId, now, .flag b⟩, dbStep_of_run ?_, nofun⟩
    simp only [Operation.run, h, flagged]
  · refine ⟨⟨.failJob c.decisionRequestId .orphanCleanup, now, .flag b⟩, dbStep_of_run ?_, nofun⟩
    simp only [Operation.run, h, flagged]

/-- Only `save_pending` opens a row. -/
theorem noneActive_step {call : DbCall} (h : dbStep provider s call = some t)
    (op : ∀ sid accepted version, call.op ≠ .savePending sid accepted version)
    (none : NoneWith JobStatus.active id s) : NoneWith JobStatus.active id t := by
  intro r' hr' hid
  rcases row_origin h hr' with old | ⟨r, hr, change⟩ | ⟨new, -⟩
  · exact none r' old hid
  · have closed := none r hr (change.legal.1.symm.trans hid)
    rw [change.legal.2.1.active] at closed
    cases closed
  · cases new with
    | pending sid accepted version opened => exact absurd opened (op sid accepted version)
    | decided sid decision _ => exact decision.status.job_inactive

/-- The open rows stay the session's when `save_pending` runs for the session only. -/
theorem ownRows_step {call : DbCall} {sid : String} (h : dbStep provider s call = some t)
    (op : ∀ other accepted version, call.op = .savePending other accepted version → other = sid)
    (own : OwnRows sid id s) : OwnRows sid id t := by
  intro r' hr' hid active
  rcases row_origin h hr' with old | ⟨r, hr, change⟩ | ⟨new, -⟩
  · exact own r' old hid active
  · rw [change.sessionId]
    exact own r hr (change.legal.1.symm.trans hid) change.legal.2.1.active
  · cases new with
    | pending other accepted version opened => exact op other accepted version opened
    | decided other decision _ =>
      have closed := decision.status.job_inactive
      rw [show decision.status.job.active = true from active] at closed
      cases closed

/-- An `UPDATE` that closes the open row of a decision request leaves none open. -/
theorem closed_of_update {f : JobRow → JobRow} {n : ℕ}
    (closes : ∀ r, (f r).status.active = false)
    (h : updateCounting s (JobRow.openFor id) f = .ok (n, t)) : NoneWith JobStatus.active id t := by
  intro r hr hid
  rcases (Table.mem_update (updateCounting_eq_ok h).2).1 hr with ⟨-, notOpen⟩ | ⟨old, -, -, rfl⟩
  · by_contra active
    have : r.openFor id = true := openFor_iff.2 ⟨hid, by simpa using active⟩
    rw [this] at notOpen
    cases notOpen
  · exact closes old

/-- **A closer's statement closes the row**. -/
theorem Closer.closes {c : Closer} {now : ℚ} {b : Bool} (h : c.statement s now = .ok (b, t)) :
    NoneWith JobStatus.active c.decisionRequestId t := by
  unfold Closer.statement at h
  split at h
  · obtain ⟨⟨n, t'⟩, hn, hb⟩ := bind_eq_ok_iff.1 h
    cases hb
    exact closed_of_update (fun _ => rfl) hn
  · obtain ⟨⟨n, t'⟩, hn, hb⟩ := bind_eq_ok_iff.1 h
    cases hb
    exact closed_of_update (fun _ => rfl) hn

theorem failJob_closes {reason : JobFailureReasonCode} {now : ℚ} {b : Bool}
    (h : failJob s id reason now = .ok (b, t)) : NoneWith JobStatus.active id t := by
  unfold failJob at h
  split at h
  · cases h
  · obtain ⟨⟨n, t'⟩, hn, hb⟩ := bind_eq_ok_iff.1 h
    cases hb
    exact closed_of_update (fun _ => rfl) hn

/-- **`save_decision` closes the row** of the session's decision request. -/
theorem saveDecision_closes {sid : String} {decision : RecommendationDecisionV2} {now : ℚ} {b : Bool}
    (own : OwnRows sid decision.decisionRequestId s)
    (h : saveDecision provider s sid decision now = .ok (b, t)) :
    NoneWith JobStatus.active decision.decisionRequestId t := by
  intro r hr hid
  rcases saveDecision_cases h with ⟨fresh, rows⟩ | ⟨-, ht⟩
  · rw [rows, List.mem_append, List.mem_singleton] at hr
    rcases hr with hr | rfl
    · exact absurd hid (id_ne_of_fresh fresh hr)
    · exact decision.status.job_inactive
  · rcases (Table.mem_update ht).1 hr with ⟨old, unchosen⟩ | ⟨old, -, -, rfl⟩
    · by_contra active
      have active : r.status.active = true := by simpa using active
      have : chosen sid decision r = true := by
        rw [chosen, Bool.and_eq_true, decide_eq_true_eq]
        exact ⟨openFor_iff.2 ⟨hid, active⟩, own r old hid active⟩
      rw [this, Bool.and_true] at unchosen
      exact of_decide_eq_false unchosen old
    · exact decision.status.job_inactive

end Rows

/-! ## Who still answers for the row -/

/-- The session is pending for a job of the decision request. -/
def Live (sid id : String) (w : World) : Prop :=
  ∃ s a, w.states.get? sid = some s ∧ s.status = .pending ∧ s.activeJobId.isSome = true ∧
    s.accepted = some a ∧ a.decisionRequestId = id

/-- A decision of the request is still to be saved by `complete`. -/
def Caller.Saving (id : String) : Caller → Prop
  | .publishing _ decision => decision.decisionRequestId = id
  | _ => False

/-- A decision of the request is still to be saved by the job. -/
def JobTask.Saving (id : String) : JobTask → Prop
  | .saving _ decision => decision.decisionRequestId = id
  | _ => False

section Race

variable {catalog : String → String → Bool} {env : StoreEnv} {provider sid id : String}
  {r r' : Race catalog}

/-- A closing statement of the decision request is still to run. -/
def Race.Owed (id : String) (r : Race catalog) : Prop :=
  ∃ c ∈ r.closers, c.decisionRequestId = id

/-- Somebody still answers for the row. -/
def Race.Held (sid id : String) (r : Race catalog) : Prop :=
  Live sid id r.world ∨ r.Owed id ∨ r.caller.Saving id ∨ r.task.Saving id

/-- What `complete` holds is about the decision request. -/
def Caller.About (id : String) : Caller → Prop
  | .begun accepted job | .saved accepted job | .claimed accepted job | .submitted accepted job
  | .failing accepted job => accepted.decisionRequestId = id ∧ job.accepted.decisionRequestId = id
  | .failed accepted _ decision | .committing accepted _ decision =>
    accepted.decisionRequestId = id ∧ decision.decisionRequestId = id
  | .publishing _ decision => decision.decisionRequestId = id
  | _ => True

/-- What the job holds is about the decision request. -/
def JobTask.About (id : String) : JobTask → Prop
  | .queued job | .running job => job.accepted.decisionRequestId = id
  | .decided _ _ decision | .saving _ decision => decision.decisionRequestId = id
  | _ => True

/-- `complete` has not inserted the row of a job. -/
def Caller.unsaved : Caller → Bool
  | .idle | .begun .. | .concluded _ | .storing .. => true
  | _ => false

/-- `complete` has not submitted a job. -/
def Caller.unsubmitted : Caller → Bool
  | .submitted .. | .returned _ | .raised _ => false
  | _ => true

theorem Caller.unsubmitted_of_unsaved {c : Caller} (h : c.unsaved = true) : c.unsubmitted = true := by
  cases c <;> first | rfl | cases h

/-- **The invariant of the row.** -/
structure RowInv (sid id : String) (r : Race catalog) : Prop where
  caller : r.caller.About id
  task : r.task.About id
  own : OwnRows sid id r.table
  unsaved : r.caller.unsaved = true → NoneWith JobStatus.active id r.table
  early : r.caller.unsubmitted = true → r.task = .absent
  begun : ∀ accepted job, r.caller = .begun accepted job → Live sid id r.world ∨ r.Owed id
  held : NoneWith JobStatus.active id r.table ∨ r.Held sid id

/-- A closed row needs nobody to answer for it. -/
theorem RowInv.of_closed (caller : r.caller.About id) (task : r.task.About id)
    (closed : NoneWith JobStatus.active id r.table)
    (early : r.caller.unsubmitted = true → r.task = .absent)
    (begun : ∀ accepted job, r.caller = .begun accepted job → Live sid id r.world ∨ r.Owed id) :
    RowInv sid id r where
  caller := caller
  task := task
  own row hrow hid active := by
    rw [closed row hrow hid] at active
    cases active
  unsaved _ := closed
  early := early
  begun := begun
  held := .inl closed

/-- A call that is over, its row closed. -/
theorem RowInv.ended (task : r.task.About id) (closed : NoneWith JobStatus.active id r.table)
    {caller : Caller} (about : caller.About id) (gone : caller.unsubmitted = false) :
    RowInv sid id { r with caller := caller } := by
  refine .of_closed about task closed ?_ ?_
  · intro h
    rw [show caller.unsubmitted = true from h] at gone
    cases gone
  · intro accepted job h
    rw [show caller = .begun accepted job from h] at gone
    cases gone

/-! ## Steps of the store -/

theorem store_eq_some {e : Event} (h : r.store env e = some r') :
    ∃ w, step env r.world e = some w ∧ r' = { r with world := w } := by
  obtain ⟨w, hw, rfl⟩ := Option.map_eq_some_iff.1 h
  exact ⟨w, hw, rfl⟩

theorem repository_eq_some {outcome : Outcome}
    {statement : ℚ → Except DbError (Bool × JobTable catalog)}
    {next : Option Bool → Race catalog → Race catalog}
    (h : r.repository outcome statement next = some r') :
    ∃ answer t, outcome.apply r.table statement = some (answer, t) ∧
      r' = next answer { r with table := t } := by
  obtain ⟨⟨answer, t⟩, ha, rfl⟩ := Option.map_eq_some_iff.1 h
  exact ⟨answer, t, ha, rfl⟩

theorem repository_ran {outcome : Outcome} {now : ℚ}
    {statement : ℚ → Except DbError (Bool × JobTable catalog)}
    {next : Option Bool → Race catalog → Race catalog} (ran : outcome = .ran now)
    (h : r.repository outcome statement next = some r') :
    ∃ b t, statement now = .ok (b, t) ∧ r' = next (some b) { r with table := t } := by
  subst ran
  obtain ⟨answer, t, ha, rfl⟩ := repository_eq_some h
  simp only [Outcome.apply] at ha
  split at ha
  · rename_i b t' hb
    cases ha
    exact ⟨b, t, hb, rfl⟩
  · cases ha

/-- A live session stays live, is removed, or its job is committed. -/
theorem Live.step {w w' : World} {e : Event} (live : Live sid id w) (h : step env w e = some w') :
    Live sid id w' ∨ (w'.states.get? sid = none ∧ ((∃ record, e = .cancel sid record) ∨
      ∃ now, e = .sweep now)) ∨
      ∃ job jobEnd, e = .commit job jobEnd ∧ (activeState w.states job).isSome = true := by
  obtain ⟨s, a, hs, pending, active, ha, hid⟩ := live
  have move := step_move h sid
  generalize ho : w'.states.get? sid = o at move
  cases move with
  | kept => exact .inl ⟨s, a, ho.trans hs, pending, active, ha, hid⟩
  | swept now s' => exact .inr (.inl ⟨rfl, .inr ⟨now, rfl⟩⟩)
  | cancelled record => exact .inr (.inl ⟨rfl, .inl ⟨record, rfl⟩⟩)
  | opened e absent =>
    rw [hs] at absent
    cases absent
  | appended record batch context accepted s' checked happend =>
    rw [currentState_present hs] at happend
    rw [(append_frame happend).1] at pending
    cases pending
  | begun record client jobId context completed checked undrawn result s' hb =>
    rw [currentState_present hs] at hb
    cases begin_cases hb with
    | refused | again => exact .inl ⟨s, a, ho, pending, active, ha, hid⟩
    | stuck _ _ _ status | decided _ _ _ status | started _ _ _ status =>
      rw [pending] at status
      cases status
  | registered job s' own hs' active' =>
    rw [hs] at hs'
    cases hs'
    exact .inl ⟨_, a, ho, pending, active, ha, hid⟩
  | committed job jobEnd decision s' own known decided hs' pending' active' =>
    refine .inr (.inr ⟨job, jobEnd, rfl, ?_⟩)
    rw [Option.isSome_iff_exists]
    exact ⟨s', activeState_eq_some.2 ⟨own ▸ hs', pending', active'⟩⟩

/-- A step that leaves the table, the caller and the job alone. -/
theorem RowInv.moved (inv : RowInv sid id r) (caller : r'.caller = r.caller) (task : r'.task = r.task)
    (table : r'.table = r.table)
    (answers : Live sid id r.world ∨ r.Owed id → Live sid id r'.world ∨ r'.Owed id) :
    RowInv sid id r' where
  caller := by
    rw [caller]
    exact inv.caller
  task := by
    rw [task]
    exact inv.task
  own := by
    rw [table]
    exact inv.own
  unsaved := by
    rw [caller, table]
    exact inv.unsaved
  early := by
    rw [caller, task]
    exact inv.early
  begun accepted job h := by
    rw [caller] at h
    exact answers (inv.begun accepted job h)
  held := by
    rw [table]
    rcases inv.held with closed | live | owed | saving
    · exact .inl closed
    · exact .inr ((answers (.inl live)).imp_right .inl)
    · exact .inr ((answers (.inr owed)).imp_right .inl)
    · simp only [Race.Held, caller, task]
      exact .inr (.inr (.inr saving))

/-- An operation of another request. -/
theorem RowInv.other (inv : RowInv sid id r) {e : Event} (background : e.background = true)
    (h : r.store env e = some r') : RowInv sid id r' := by
  obtain ⟨w, hw, rfl⟩ := store_eq_some h
  refine inv.moved rfl rfl rfl ?_
  rintro (live | owed)
  · rcases live.step hw with live | ⟨-, ⟨record, rfl⟩ | ⟨now, rfl⟩⟩ | ⟨job, jobEnd, rfl, -⟩
    · exact .inl live
    · cases background
    · cases background
    · cases background
  · exact .inr owed

/-- A removal leaves a closer behind for a live session. -/
theorem RowInv.removed (inv : RowInv sid id r) {kind : CloserKind} {e : Event}
    (removal : (∃ record, e = .cancel sid record) ∨ ∃ now, e = .sweep now)
    (h : r.remove env sid kind e = some r') : RowInv sid id r' := by
  obtain ⟨r₁, h₁, rfl⟩ := Option.map_eq_some_iff.1 h
  obtain ⟨w, hw, rfl⟩ := store_eq_some h₁
  refine inv.moved rfl rfl rfl ?_
  rintro (live | ⟨c, hc, hid⟩)
  · rcases live.step hw with live' | ⟨gone, -⟩ | ⟨job, jobEnd, rfl, -⟩
    · exact .inl live'
    · obtain ⟨s, a, hs, pending, -, ha, hid⟩ := live
      refine .inr ⟨⟨kind, a.decisionRequestId, s.activeJob, false⟩, List.mem_append_left _ ?_, hid⟩
      simp [closersOf, hs, gone, pending, ha]
    · rcases removal with ⟨record, h⟩ | ⟨now, h⟩ <;> cases h
  · exact .inr ⟨c, List.mem_append_right _ hc, hid⟩

/-! ## The condition -/

/-- The repository call of a step. -/
def RaceLabel.outcome : RaceLabel → Option Outcome
  | .caller (.savePending o) | .caller (.claimJob o) | .caller (.failJob o)
  | .caller (.saveFailure o) | .caller (.saveRead o) | .closer (.close _ o) | .task (.save o) => some o
  | _ => none

/-- Every repository call runs its statement. -/
def RepositoryRuns (l : RaceLabel) : Prop := ∀ o ∈ l.outcome, ∃ now, o = .ran now

/-- The last closing statement of a job that was removed from memory does not run before
`save_pending` has inserted the row. -/
def ClosedInTime (sid id : String) (r : Race catalog) : RaceLabel → Prop
  | .closer (.close i _) => ∀ accepted job, r.caller = .begun accepted job →
    Live sid id r.world ∨ ∃ c ∈ r.closers.eraseIdx i, c.decisionRequestId = id
  | _ => True

/-! ## Steps of the closers -/

theorem mem_set_request {l : List Closer} {i : ℕ} {c c₀ : Closer} (c' : Closer)
    (hi : l[i]? = some c)
    (same : c'.decisionRequestId = c.decisionRequestId) (h : c₀ ∈ l) :
    ∃ c₁ ∈ l.set i c', c₁.decisionRequestId = c₀.decisionRequestId := by
  obtain ⟨j, hj⟩ := List.mem_iff_getElem?.1 h
  by_cases hij : i = j
  · subst hij
    rw [hi] at hj
    cases hj
    have bound : i < l.length := (List.getElem?_eq_some_iff.1 hi).1
    exact ⟨c', List.mem_set bound _, same⟩
  · refine ⟨c₀, List.mem_iff_getElem?.2 ⟨j, ?_⟩, rfl⟩
    rw [List.getElem?_set_ne hij]
    exact hj

theorem RowInv.closerStep (inv : RowInv sid id r) {l : CloserStep}
    (runs : RepositoryRuns (.closer l)) (inTime : ClosedInTime sid id r (.closer l))
    (h : closerStep env sid r l = some r') : RowInv sid id r' := by
  cases l with
  | cancel record => exact inv.removed (.inl ⟨record, rfl⟩) h
  | sweep now => exact inv.removed (.inr ⟨now, rfl⟩) h
  | clear i =>
    obtain ⟨c, hi, h⟩ := Option.bind_eq_some_iff.1 h
    split at h
    · cases h
    · cases h
      refine inv.moved rfl rfl rfl ?_
      rintro (live | ⟨c₀, hc₀, hid⟩)
      · exact .inl live
      · obtain ⟨c₁, hc₁, same⟩ := mem_set_request { c with cleared := true } hi rfl hc₀
        exact .inr ⟨c₁, hc₁, same.trans hid⟩
  | close i outcome =>
    obtain ⟨c, hi, h⟩ := Option.bind_eq_some_iff.1 h
    split at h
    · obtain ⟨now, ran⟩ := runs outcome rfl
      obtain ⟨b, t, ht, rfl⟩ := repository_ran ran h
      obtain ⟨call, hcall, other⟩ := Closer.dbStep "" ht
      by_cases hid : c.decisionRequestId = id
      · exact .of_closed inv.caller inv.task (hid ▸ Closer.closes ht) inv.early inTime
      · have owed : r.Owed id → ∃ c ∈ r.closers.eraseIdx i, c.decisionRequestId = id := by
          rintro ⟨c₀, hc₀, hid₀⟩
          obtain ⟨j, hj⟩ := List.mem_iff_getElem?.1 hc₀
          refine ⟨c₀, List.mem_eraseIdx_iff_getElem?.2 ⟨j, ?_, hj⟩, hid₀⟩
          rintro rfl
          rw [hi] at hj
          cases hj
          exact hid hid₀
        exact {
          caller := inv.caller
          task := inv.task
          own := ownRows_step hcall (fun _ _ _ h => absurd h (other _ _ _)) inv.own
          unsaved := fun unsaved => noneActive_step hcall other (inv.unsaved unsaved)
          early := inv.early
          begun := inTime
          held := by
            rcases inv.held with closed | live | owes | saving
            · exact .inl (noneActive_step hcall other closed)
            · exact .inr (.inl live)
            · exact .inr (.inr (.inl (owed owes)))
            · exact .inr (.inr (.inr saving)) }
    · cases h

/-! ## Steps of the job -/

/-- The store commits a job: the session stays live, or the decision is published. -/
theorem commit_cases (sid id : String) {job : CompletionJob} {jobEnd : JobEnd}
    {next : Bool → Race catalog → Race catalog} (h : r.commit env job jobEnd next = some r') :
    ∃ w published, r' = next published { r with world := w } ∧
      (Live sid id r.world → Live sid id w ∨ published = true) := by
  obtain ⟨r₁, h₁, rfl⟩ := Option.map_eq_some_iff.1 h
  obtain ⟨w, hw, rfl⟩ := store_eq_some h₁
  refine ⟨w, _, rfl, ?_⟩
  intro live
  rcases live.step hw with live' | ⟨-, ⟨record, h⟩ | ⟨now, h⟩⟩ | ⟨job', jobEnd', h, active⟩
  · exact .inl live'
  · cases h
  · cases h
  · cases h
    exact .inr active

/-- The job moves on without a decision that was published. -/
theorem RowInv.retask (inv : RowInv sid id r) {task : JobTask} {disposed : Bool}
    (about : task.About id) (idle : ¬ r.task.Saving id) (there : r.task ≠ .absent) :
    RowInv sid id { r with task := task, disposed := disposed } where
  caller := inv.caller
  task := about
  own := inv.own
  unsaved := inv.unsaved
  early unsubmitted := absurd (inv.early unsubmitted) there
  begun := inv.begun
  held := by
    rcases inv.held with closed | live | owed | saving | saving
    · exact .inl closed
    · exact .inr (.inl live)
    · exact .inr (.inr (.inl owed))
    · exact .inr (.inr (.inr (.inl saving)))
    · exact absurd saving idle

theorem RowInv.taskStep (inv : RowInv sid id r) {l : TaskStep} (runs : RepositoryRuns (.task l))
    (h : taskStep env provider sid r l = some r') : RowInv sid id r' := by
  have about := inv.task
  unfold Mkk.Api.taskStep at h
  split at h
  · rename_i job htask
    rw [htask] at about
    cases h
    refine inv.retask ?_ (by rw [htask]; exact not_false) (by rw [htask]; nofun)
    split
    · trivial
    · exact about
  · rename_i reply job htask
    rw [htask] at about
    split at h
    · cases h
      exact inv.retask trivial (by rw [htask]; exact not_false) (by rw [htask]; nofun)
    · rename_i decision hrun
      cases h
      have own := @CompletionJob.decide_own _ _ (.reply reply) _ hrun
      exact inv.retask (own.2.trans about) (by rw [htask]; exact not_false) (by rw [htask]; nofun)
  · rename_i job htask
    cases h
    exact inv.retask trivial (by rw [htask]; exact not_false) (by rw [htask]; nofun)
  · rename_i job htask
    cases h
    exact inv.retask trivial (by rw [htask]; exact not_false) (by rw [htask]; nofun)
  · rename_i job reply decision htask
    rw [htask] at about
    obtain ⟨w, published, rfl, lives⟩ := commit_cases sid id h
    have late : ¬ r.caller.unsubmitted = true := by
      intro unsubmitted
      rw [inv.early unsubmitted] at htask
      cases htask
    have begun : ∀ accepted job, r.caller ≠ .begun accepted job := by
      intro accepted job h
      exact late (by rw [h]; rfl)
    have later : ¬ r.caller.unsaved = true := fun h => late (Caller.unsubmitted_of_unsaved h)
    have held : NoneWith JobStatus.active id r.table ∨ (Live sid id w ∨ published = true) ∨
        r.Owed id ∨ r.caller.Saving id := by
      rcases inv.held with closed | live | owed | saving | saving
      · exact .inl closed
      · exact .inr (.inl (lives live))
      · exact .inr (.inr (.inl owed))
      · exact .inr (.inr (.inr saving))
      · rw [htask] at saving
        exact saving.elim
    cases published with
    | true =>
      exact {
        caller := inv.caller
        task := about
        own := inv.own
        unsaved := fun unsaved => absurd unsaved later
        early := fun unsubmitted => absurd unsubmitted late
        begun := fun accepted job h => absurd h (begun accepted job)
        held := .inr (.inr (.inr (.inr about))) }
    | false =>
      exact {
        caller := inv.caller
        task := trivial
        own := inv.own
        unsaved := fun unsaved => absurd unsaved later
        early := fun unsubmitted => absurd unsubmitted late
        begun := fun accepted job h => absurd h (begun accepted job)
        held := by
          rcases held with closed | (live | none) | owed | saving
          · exact .inl closed
          · exact .inr (.inl live)
          · cases none
          · exact .inr (.inr (.inl owed))
          · exact .inr (.inr (.inr (.inl saving))) }
  · rename_i outcome job decision htask
    rw [htask] at about
    obtain ⟨now, ran⟩ := runs outcome rfl
    obtain ⟨b, t, ht, rfl⟩ := repository_ran ran h
    have closed := saveDecision_closes (about ▸ inv.own) ht
    exact .of_closed inv.caller trivial (about ▸ closed)
      (fun h => by rw [inv.early h] at htask; cases htask) inv.begun
  · cases h

/-! ## Steps of `complete` -/

/-- The job `begin_completion` hands out makes its session live. -/
theorem beginCompletion_live {w : World} {record : Option Bool} {client : CentralRecommendationClient}
    {jobId : String} {accepted : RecommendationAcceptedV2} {job : CompletionJob} {states' : Sessions}
    (h : beginCompletion env w.states w.clock sid record client jobId =
      (.ok (accepted, some job), states')) :
    accepted.decisionRequestId = decisionRequestId env.hashing env.config sid ∧
      job.accepted = accepted ∧ ∃ s, states'.get? sid = some s ∧ s.status = .pending ∧
        s.activeJobId.isSome = true ∧ s.accepted = some accepted := by
  rcases beginCompletion_cases env h with ⟨e, -, he, -⟩ | ⟨context, completed, s', checked, hb, rfl⟩
  · cases he
  · obtain ⟨hcontext, -, -⟩ := checkBegin_eq_ok env checked
    cases begin_cases hb with
    | started _ version p status incomplete ids prepared ready valid =>
      have request := startIds_request ids
      rw [env.ownContext sid context hcontext] at request
      exact ⟨request, rfl, _, Dict.get?_set_self .., rfl, rfl, rfl⟩

/-- `complete` moves on, its row inserted. -/
theorem RowInv.moveOn (inv : RowInv sid id r) {caller : Caller} {w : World}
    (about : caller.About id) (late : caller.unsaved = false)
    (unsubmitted : caller.unsubmitted = true → r.caller.unsubmitted = true)
    (idle : ¬ r.caller.Saving id) (lives : Live sid id r.world → Live sid id w ∨ caller.Saving id) :
    RowInv sid id { r with world := w, caller := caller } where
  caller := about
  task := inv.task
  own := inv.own
  unsaved unsaved := by
    rw [late] at unsaved
    cases unsaved
  early h := inv.early (unsubmitted h)
  begun accepted job h := by
    rw [show caller = .begun accepted job from h] at late
    cases late
  held := by
    rcases inv.held with closed | live | owed | saving | saving
    · exact .inl closed
    · rcases lives live with live | saving
      · exact .inr (.inl live)
      · exact .inr (.inr (.inr (.inl saving)))
    · exact .inr (.inr (.inl owed))
    · exact absurd saving idle
    · exact .inr (.inr (.inr (.inr saving)))

/-- The store goes on with an event that is no removal and no commit. -/
theorem Live.kept {w w' : World} {e : Event} (live : Live sid id w) (h : Mkk.Api.step env w e = some w')
    (cancel : ∀ record, e ≠ .cancel sid record) (sweep : ∀ now, e ≠ .sweep now)
    (commit : ∀ job jobEnd, e ≠ .commit job jobEnd) : Live sid id w' := by
  rcases live.step h with live | ⟨-, ⟨record, h⟩ | ⟨now, h⟩⟩ | ⟨job, jobEnd, h, -⟩
  · exact live
  · exact absurd h (cancel record)
  · exact absurd h (sweep now)
  · exact absurd h (commit job jobEnd)

/-- `begin_completion` hands out a job of a live session, or none. -/
theorem RowInv.began (inv : RowInv sid id r)
    (request : id = decisionRequestId env.hashing env.config sid)
    (closed : NoneWith JobStatus.active id r.table) (absent : r.task = .absent)
    {record : Option Bool} {client : CentralRecommendationClient} {jobId : String} {w : World}
    (hw : Mkk.Api.step env r.world (.begin sid record client jobId) = some w)
    {begun : Except PyError Begun × Sessions}
    (hb : beginCompletion env r.world.states r.world.clock sid record client jobId = begun) :
    RowInv sid id { r with
      world := w, caller := .ofBegun begun.1, job := jobOfBegun begun.1 } := by
  obtain ⟨result, states'⟩ := begun
  have states : w.states = states' := by
    simp only [Mkk.Api.step, hb] at hw
    split at hw
    · cases hw
    · cases hw
      rfl
  have quiet (caller : Caller) (about : caller.About id) (job : Option CompletionJob)
      (fresh : ∀ accepted job, caller = .begun accepted job → Live sid id w) :
      RowInv sid id { r with world := w, caller := caller, job := job } :=
    .of_closed about inv.task closed (fun _ => absent) fun a j h => .inl (fresh a j h)
  rcases result with e | ⟨accepted, job⟩
  · exact quiet (.raised e) trivial none fun _ _ h => by cases h
  · cases job with
    | none => exact quiet (.concluded accepted) trivial none fun _ _ h => by cases h
    | some job =>
      obtain ⟨own, jobAccepted, s, hs, pending, active, hs'⟩ := beginCompletion_live hb
      have own := own.trans request.symm
      refine quiet (.begun accepted job) ⟨own, jobAccepted ▸ own⟩ (some job) ?_
      intro _ _ _
      exact ⟨s, accepted, states ▸ hs, pending, active, hs', own⟩

theorem RowInv.callerStep (inv : RowInv sid id r)
    (request : id = decisionRequestId env.hashing env.config sid) {l : CallerStep}
    (runs : RepositoryRuns (.caller l)) (h : callerStep env provider sid r l = some r') :
    RowInv sid id r' := by
  have about := inv.caller
  unfold Mkk.Api.callerStep at h
  split at h
  · -- notReady
    rename_i hcaller
    cases h
    have closed := inv.unsaved (by rw [hcaller]; rfl)
    exact .ended inv.task closed trivial rfl
  · -- begin
    rename_i record client jobId hcaller
    have closed := inv.unsaved (by rw [hcaller]; rfl)
    have absent := inv.early (by rw [hcaller]; rfl)
    obtain ⟨r₁, h₁, rfl⟩ := Option.map_eq_some_iff.1 h
    obtain ⟨w, hw, rfl⟩ := store_eq_some h₁
    exact inv.began request closed absent hw rfl
  · -- savePending
    rename_i outcome accepted job hcaller
    obtain ⟨now, ran⟩ := runs outcome rfl
    obtain ⟨b, t, ht, rfl⟩ := repository_ran ran h
    have answers := inv.begun accepted job hcaller
    have absent := inv.early (by rw [hcaller]; rfl)
    rw [hcaller] at about
    have stepped := savePending_dbStep provider ht
    have next : ((if some b = some true then Caller.saved accepted job
        else .failing accepted job).About id) := by
      split <;> exact about
    exact {
      caller := next
      task := inv.task
      own := ownRows_step stepped (fun _ _ _ h => by cases h; rfl) inv.own
      unsaved := fun unsaved => by split at unsaved <;> cases unsaved
      early := fun _ => absent
      begun := fun _ _ h => by split at h <;> cases h
      held := .inr (answers.imp_right .inl) }
  · -- claimJob
    rename_i outcome accepted job hcaller
    obtain ⟨now, ran⟩ := runs outcome rfl
    obtain ⟨b, t, ht, rfl⟩ := repository_ran ran h
    have absent := inv.early (by rw [hcaller]; rfl)
    rw [hcaller] at about
    have stepped := claimJob_dbStep provider ht
    have after : RowInv sid id { r with table := t } := {
      caller := inv.caller
      task := inv.task
      own := ownRows_step stepped (fun _ _ _ h => nomatch h) inv.own
      unsaved := fun h => noneActive_step stepped (fun _ _ _ h => nomatch h) (inv.unsaved h)
      early := inv.early
      begun := inv.begun
      held := inv.held.imp_left (noneActive_step stepped fun _ _ _ h => nomatch h) }
    have idle : ¬ r.caller.Saving id := by
      rw [hcaller]
      exact not_false
    have unsubmitted : r.caller.unsubmitted = true := by rw [hcaller]; rfl
    by_cases won : b = true
    · rw [if_pos (congrArg some won)]
      exact after.moveOn about rfl (fun _ => unsubmitted) idle .inl
    · rw [if_neg (fun h => won (Option.some.inj h))]
      exact after.moveOn about rfl (fun _ => unsubmitted) idle .inl
  · -- submit
    rename_i accepted job hcaller
    rw [hcaller] at about
    cases h
    have absent := inv.early (by rw [hcaller]; rfl)
    exact {
      caller := about
      task := about.2
      own := inv.own
      unsaved := fun h => nomatch h
      early := fun h => nomatch h
      begun := fun _ _ h => nomatch h
      held := by
        rcases inv.held with closed | live | owed | saving | saving
        · exact .inl closed
        · exact .inr (.inl live)
        · exact .inr (.inr (.inl owed))
        · rw [hcaller] at saving
          exact saving.elim
        · rw [absent] at saving
          exact saving.elim }
  · -- submit raised
    rename_i accepted job hcaller
    rw [hcaller] at about
    cases h
    exact inv.moveOn about rfl (fun _ => by rw [hcaller]; rfl) (by rw [hcaller]; exact not_false) .inl
  · -- register
    rename_i accepted job hcaller
    obtain ⟨r₁, h₁, rfl⟩ := Option.map_eq_some_iff.1 h
    obtain ⟨w, hw, rfl⟩ := store_eq_some h₁
    exact inv.moveOn trivial rfl (fun h => nomatch h) (by rw [hcaller]; exact not_false)
      fun live => .inl (live.kept hw (fun _ h => nomatch h) (fun _ h => nomatch h)
        fun _ _ h => nomatch h)
  · -- startFailure
    rename_i accepted job hcaller
    rw [hcaller] at about
    have idle : ¬ r.caller.Saving id := by
      rw [hcaller]
      exact not_false
    split at h
    · cases h
      exact inv.moveOn trivial rfl (fun h => nomatch h) idle .inl
    · split at h
      · cases h
        exact inv.moveOn trivial rfl (fun h => nomatch h) idle .inl
      · rename_i decision hdecision
        cases h
        have own := @CompletionJob.decide_own _ env.casefold .startFailed _ hdecision
        exact inv.moveOn ⟨about.1, own.2.trans about.2⟩ rfl (fun _ => by rw [hcaller]; rfl) idle .inl
  · -- failJob
    rename_i outcome accepted job decision hcaller
    rw [hcaller] at about
    have absent := inv.early (by rw [hcaller]; rfl)
    obtain ⟨now, ran⟩ := runs outcome rfl
    obtain ⟨b, t, ht, rfl⟩ := repository_ran ran h
    exact .of_closed about inv.task (about.1 ▸ failJob_closes ht) (fun _ => absent)
      fun _ _ h => nomatch h
  · -- commitFailure
    rename_i accepted job decision hcaller
    rw [hcaller] at about
    obtain ⟨w, published, rfl, lives⟩ := commit_cases sid id h
    have idle : ¬ r.caller.Saving id := by
      rw [hcaller]
      exact not_false
    cases published with
    | true =>
      show RowInv sid id { r with world := w, caller := .publishing accepted decision }
      exact inv.moveOn about.2 rfl
        (fun _ => by rw [hcaller]; rfl) idle fun _ => .inr about.2
    | false =>
      show RowInv sid id { r with world := w, caller := .returned accepted }
      refine inv.moveOn trivial rfl (fun h => nomatch h) idle ?_
      intro live
      exact .inl ((lives live).resolve_right fun h => nomatch h)
  · -- saveFailure
    rename_i outcome accepted decision hcaller
    rw [hcaller] at about
    obtain ⟨now, ran⟩ := runs outcome rfl
    obtain ⟨b, t, ht, rfl⟩ := repository_ran ran h
    have closed := saveDecision_closes (about ▸ inv.own) ht
    exact .ended (r := { r with table := t }) inv.task (about ▸ closed) trivial rfl
  · -- read
    rename_i record accepted hcaller
    have closed := inv.unsaved (by rw [hcaller]; rfl)
    have absent := inv.early (by rw [hcaller]; rfl)
    obtain ⟨r₁, h₁, rfl⟩ := Option.map_eq_some_iff.1 h
    obtain ⟨w, hw, rfl⟩ := store_eq_some h₁
    refine .of_closed ?_ inv.task closed (fun _ => absent) ?_
    · dsimp only
      split <;> trivial
    · intro _ _ h
      dsimp only at h
      split at h <;> cases h
  · -- saveRead
    rename_i outcome accepted decision hcaller
    have closed := inv.unsaved (by rw [hcaller]; rfl)
    obtain ⟨now, ran⟩ := runs outcome rfl
    obtain ⟨b, t, ht, rfl⟩ := repository_ran ran h
    have stepped := saveDecision_dbStep ht
    exact .ended (r := { r with table := t }) inv.task
      (noneActive_step stepped (fun _ _ _ h => nomatch h) closed) trivial rfl
  · cases h

/-! ## Runs -/

/-- No call is under way, and no row of the decision request is open. -/
structure Race.AtRest (id : String) (r : Race catalog) : Prop where
  caller : r.caller = .idle
  closers : r.closers = []
  task : r.task = .absent
  closed : NoneWith JobStatus.active id r.table

/-- All calls have returned, and no decision is still to be saved. -/
structure Race.Settled (r : Race catalog) : Prop where
  caller : (∃ accepted, r.caller = .returned accepted) ∨ ∃ e, r.caller = .raised e
  closers : r.closers = []
  task : ∀ job decision, r.task ≠ .saving job decision

/-- No job is live in memory for the session. -/
def NoJob (sid : String) (w : World) : Prop :=
  ∀ s, w.states.get? sid = some s → s.activeJobId = none

theorem RowInv.step (inv : RowInv sid id r)
    (request : id = decisionRequestId env.hashing env.config sid) {l : RaceLabel}
    (guard : RepositoryRuns l ∧ ClosedInTime sid id r l)
    (h : raceStep env provider sid r l = some r') : RowInv sid id r' := by
  cases l with
  | caller l => exact inv.callerStep request guard.1 h
  | closer l => exact inv.closerStep guard.1 guard.2 h
  | task l => exact inv.taskStep guard.1 h
  | other e =>
    simp only [raceStep] at h
    split at h
    · rename_i background
      exact inv.other background h
    · cases h

/-- **The row is closed.** In every interleaving whose repository calls run their statements and
whose closing statements come in time, once every call has returned and no job is live, the row
of the decision request is terminal. -/
theorem completion_row_closed {r₀ : Race catalog} {ls : List RaceLabel}
    (start : r₀.AtRest (decisionRequestId env.hashing env.config sid))
    (run : Steps (raceStep env provider sid) (fun r l => RepositoryRuns l ∧
      ClosedInTime sid (decisionRequestId env.hashing env.config sid) r l) r₀ ls r)
    (settled : r.Settled) (noJob : NoJob sid r.world) :
    ∀ row ∈ r.table.rows, row.decisionRequestId = decisionRequestId env.hashing env.config sid →
      row.status.terminal = true := by
  have initial : RowInv sid (decisionRequestId env.hashing env.config sid) r₀ := by
    refine .of_closed ?_ ?_ start.closed (fun _ => start.task) ?_
    · rw [start.caller]
      trivial
    · rw [start.task]
      trivial
    · intro accepted job h
      rw [start.caller] at h
      cases h
  have inv := run.invariant (fun _ _ _ inv guard h => inv.step rfl guard h) initial
  intro row hrow hid
  rw [JobStatus.terminal_eq]
  rcases inv.held with closed | ⟨s, a, hs, -, active, -⟩ | ⟨c, hc, -⟩ | saving | saving
  · rw [closed row hrow hid]
    rfl
  · rw [noJob s hs] at active
    cases active
  · rw [settled.closers] at hc
    cases hc
  · rcases settled.caller with ⟨accepted, h⟩ | ⟨e, h⟩
    · rw [h] at saving
      exact saving.elim
    · rw [h] at saving
      exact saving.elim
  · unfold JobTask.Saving at saving
    split at saving
    · rename_i job decision htask
      exact absurd htask (settled.task job decision)
    · exact saving.elim

end Race

/-! ## A row that stays open -/

/-- The session of one glance, and an empty table. -/
def glancedRace : Race (fun _ _ => true) where
  world := { states := glancedStates }
  table := Table.empty

theorem glancedRace_reachable : Reachable (smallEnv .c false) glancedRace.world :=
  ⟨[.append "session-0001" (some false) glanceBatch], .single trivial rfl⟩

def glanceRequest : String := "decision-v2-efdc49a849bee724b16459d9cd9a58e5"

theorem glanceRequest_eq :
    decisionRequestId (smallEnv .c false).hashing (smallEnv .c false).config "session-0001" =
      glanceRequest := by
  decide +kernel

def beginGlance : RaceLabel := .caller (.begin (some false) lunaClient "job-1")

/-- The session is cancelled before its row is inserted. -/
def cancelledEarly : List RaceLabel :=
  [beginGlance, .closer (.cancel (some false)), .closer (.clear 0), .closer (.close 0 (.ran 1)),
    .caller (.savePending (.ran 2)), .caller (.claimJob (.ran 3)), .caller (.submit true),
    .caller .register, .task .start]

/-- The session is cancelled after its job was submitted. -/
def cancelledLate : List RaceLabel :=
  [beginGlance, .caller (.savePending (.ran 1)), .caller (.claimJob (.ran 2)),
    .caller (.submit true), .caller .register, .task .start, .closer (.cancel (some false)),
    .closer (.clear 0), .task .cancelled, .closer (.close 0 (.ran 3))]

def Outcome.hasRun : Outcome → Bool
  | .ran _ => true
  | _ => false

/-- A test for settled races without a live job whose row satisfies `q`. -/
def settledWith (q : JobStatus → Bool) (r : Race (fun _ _ => true)) : Bool :=
  (match r.caller with | .returned _ | .raised _ => true | _ => false) && decide (r.closers = []) &&
  (match r.task with | .saving .. => false | _ => true) &&
  ((r.world.states.get? "session-0001").all fun s => s.activeJobId.isNone) &&
  (jobRow r.table glanceRequest).any fun row => q row.status

theorem settledWith_spec {q : JobStatus → Bool} {r : Race (fun _ _ => true)}
    (h : settledWith q r = true) : r.Settled ∧ NoJob "session-0001" r.world ∧
      ∃ row ∈ r.table.rows, row.decisionRequestId = glanceRequest ∧ q row.status = true := by
  simp only [settledWith, Bool.and_eq_true] at h
  obtain ⟨⟨⟨⟨caller, closers⟩, task⟩, noJob⟩, row⟩ := h
  refine ⟨⟨?_, of_decide_eq_true closers, ?_⟩, ?_, ?_⟩
  · split at caller
    · rename_i accepted h
      exact .inl ⟨accepted, h⟩
    · rename_i e h
      exact .inr ⟨e, h⟩
    · cases caller
  · intro job decision h
    rw [h] at task
    cases task
  · intro s hs
    rw [hs] at noJob
    exact Option.isNone_iff_eq_none.1 noJob
  · obtain ⟨row, hrow, hq⟩ := (Option.any_eq_true _ _).1 row
    obtain ⟨mem, hid⟩ := jobRow_eq_some.1 hrow
    exact ⟨row, mem, hid, hq⟩

theorem repositoryRuns_of_all {l : RaceLabel} (h : l.outcome.all Outcome.hasRun = true) :
    RepositoryRuns l := by
  intro o ho
  rw [Option.mem_def.1 ho] at h
  cases o with
  | ran now => exact ⟨now, rfl⟩
  | answered b => cases h
  | raised => cases h

theorem glancedRace_atRest : glancedRace.AtRest
    (decisionRequestId (smallEnv .c false).hashing (smallEnv .c false).config "session-0001") :=
  ⟨rfl, rfl, rfl, fun _ h => (List.not_mem_nil h).elim⟩

/-- A `cancel` that closes the row before it is inserted leaves it running for good. -/
theorem completion_row_open : ∃ r₀ : Race (fun _ _ => true), ∃ ls r,
    Reachable (smallEnv .c false) r₀.world ∧
      r₀.AtRest (decisionRequestId (smallEnv .c false).hashing (smallEnv .c false).config
        "session-0001") ∧
      Steps (raceStep (smallEnv .c false) "self_hosted" "session-0001") (fun _ l => RepositoryRuns l)
        r₀ ls r ∧
      r.Settled ∧ NoJob "session-0001" r.world ∧ ∃ row ∈ r.table.rows,
        row.decisionRequestId = decisionRequestId (smallEnv .c false).hashing
          (smallEnv .c false).config "session-0001" ∧
        row.status = .running := by
  have executed : (runWhile (raceStep (smallEnv .c false) "self_hosted" "session-0001")
      (fun _ l => l.outcome.all Outcome.hasRun) glancedRace cancelledEarly).any
        (settledWith fun s => decide (s = .running)) = true := by
    decide +kernel
  obtain ⟨r, run, settled⟩ := exists_guarded_steps_of_any _
    (fun _ _ h => repositoryRuns_of_all h) executed
  obtain ⟨settled, noJob, row, hrow, hid, running⟩ := settledWith_spec settled
  exact ⟨glancedRace, cancelledEarly, r, glancedRace_reachable, glancedRace_atRest, run, settled,
    noJob, row, hrow, hid.trans glanceRequest_eq.symm, of_decide_eq_true running⟩

/-- The repository runs, and no closing statement comes before `save_pending`. -/
def runsInTime (r : Race (fun _ _ => true)) (l : RaceLabel) : Bool :=
  l.outcome.all Outcome.hasRun && match l, r.caller with
    | .closer (.close ..), .begun .. => false
    | _, _ => true

theorem runsInTime_spec (sid id : String) (r : Race (fun _ _ => true)) (l : RaceLabel)
    (h : runsInTime r l = true) : RepositoryRuns l ∧ ClosedInTime sid id r l := by
  obtain ⟨runs, late⟩ := Bool.and_eq_true_iff.1 h
  refine ⟨repositoryRuns_of_all runs, ?_⟩
  unfold ClosedInTime
  split
  · intro accepted job hcaller
    rw [hcaller] at late
    cases late
  · trivial

/-- A `cancel` after the job was submitted closes the row. -/
theorem completion_row_closed_late : ∃ r : Race (fun _ _ => true), ∃ row ∈ r.table.rows,
    row.decisionRequestId = glanceRequest ∧ row.status = .cancelled ∧ row.status.terminal = true := by
  have executed : (runWhile (raceStep (smallEnv .c false) "self_hosted" "session-0001")
      runsInTime glancedRace cancelledLate).any
        (settledWith fun s => decide (s = .cancelled)) = true := by
    decide +kernel
  obtain ⟨r, run, settled⟩ := exists_guarded_steps_of_any _ (runsInTime_spec _ _) executed
  obtain ⟨settled, noJob, row, hrow, hid, cancelled⟩ := settledWith_spec settled
  have closed := completion_row_closed glancedRace_atRest run settled noJob row hrow
    (hid.trans glanceRequest_eq.symm)
  exact ⟨r, row, hrow, hid, of_decide_eq_true cancelled, closed⟩

end Mkk.Api
