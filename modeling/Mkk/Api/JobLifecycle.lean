import Mkk.Api.Persistence

/-!
# The life of a job row

Nothing in the source writes down which changes a row of `recommendation_job_v2` can see.
They are recovered here from the eight operations: `dbStep_move` says once what any call can
make of the table, and `job_lifecycle` is read off it. A lifetime of a row is a stretch of
calls between which the row is there.
-/

namespace Mkk.Api

open Lib Lib.Lts

/-! ## Calls -/

/-- A public operation of `PostgresDecisionPersistence` on the table. -/
inductive Operation where
  | markInflightJobsFailedOnStartup
  | savePending (sessionId : String) (accepted : RecommendationAcceptedV2)
      (version : RecommendationVersionV2)
  | claimJob (decisionRequestId : String)
  | saveDecision (sessionId : String) (decision : RecommendationDecisionV2)
  | markCancelled (decisionRequestId : String)
  | failJob (decisionRequestId : String) (reason : JobFailureReasonCode)
  | cleanupOrphanJobs (orphanSeconds : ℚ)
  | cleanupRetention (retentionSeconds : ℚ)
  deriving DecidableEq

/-- How a call ends. -/
inductive Reply where
  | flag (b : Bool)
  | count (n : ℕ)
  | raised (e : DbError)
  deriving DecidableEq, Repr

section Run

variable {catalog : String → String → Bool}

def flagged (t : JobTable catalog) :
    Except DbError (Bool × JobTable catalog) → Reply × JobTable catalog
  | .ok (b, t') => (.flag b, t')
  | .error e => (.raised e, t)

def counted (t : JobTable catalog) :
    Except DbError (ℕ × JobTable catalog) → Reply × JobTable catalog
  | .ok (n, t') => (.count n, t')
  | .error e => (.raised e, t)

/-- Run an operation at `now`. -/
def Operation.run (centralProvider : String) (t : JobTable catalog) (now : ℚ) :
    Operation → Reply × JobTable catalog
  | .markInflightJobsFailedOnStartup => counted t (Api.markInflightJobsFailedOnStartup t now)
  | .savePending sessionId accepted version =>
    flagged t (Api.savePending centralProvider t sessionId accepted version now)
  | .claimJob id => flagged t (Api.claimJob t id now)
  | .saveDecision sessionId decision =>
    flagged t (Api.saveDecision centralProvider t sessionId decision now)
  | .markCancelled id => flagged t (Api.markCancelled t id now)
  | .failJob id reason => flagged t (Api.failJob t id reason now)
  | .cleanupOrphanJobs seconds => counted t (Api.cleanupOrphanJobs t seconds now)
  | .cleanupRetention seconds => counted t (Api.cleanupRetention t seconds now)

/-- A call, the reading of `now()` it ran at, and how it ended. -/
structure DbCall where
  op : Operation
  now : ℚ
  reply : Reply
  deriving DecidableEq

/-- The table after a call that ended as it says. -/
def dbStep (centralProvider : String) (t : JobTable catalog) (call : DbCall) :
    Option (JobTable catalog) :=
  let (reply, t') := call.op.run centralProvider t call.now
  if reply = call.reply then some t' else none

/-- `claim_job` returned `True` for the row. -/
def DbCall.claims (id : String) (call : DbCall) : Bool :=
  decide (call.op = .claimJob id ∧ call.reply = .flag true)

/-- `save_decision` returned `True` for a decision of the row. -/
def DbCall.saves (id : String) (call : DbCall) : Bool :=
  match call.op with
  | .saveDecision _ decision =>
    decide (decision.decisionRequestId = id ∧ call.reply = .flag true)
  | _ => false

end Run

/-! ## What a call can make of the table -/

/-- The moves a row's status can make. -/
inductive JobMove : JobStatus → JobStatus → Prop where
  | claim : JobMove .pending .running
  | settle {a b : JobStatus} (active : a.active = true) (terminal : b.terminal = true) : JobMove a b

/-- What an `UPDATE` makes of a row it selects. -/
inductive RowChange (now : ℚ) : JobRow → JobRow → Prop where
  | claimed (r : JobRow) (pending : r.status = .pending) : RowChange now r (r.claimed now)
  | decided (r : JobRow) (decision : RecommendationDecisionV2) (active : r.status.active = true) :
      RowChange now r (r.decided decision now)
  | failed (r : JobRow) (failure : JobFailureReasonCode) (active : r.status.active = true) :
      RowChange now r (r.failed failure now)
  | cancelled (r : JobRow) (active : r.status.active = true) : RowChange now r (r.cancelled now)

/-- A row that is new in the table. -/
inductive NewRow (provider : String) (call : DbCall) : JobRow → Prop where
  | pending (sessionId : String) (accepted : RecommendationAcceptedV2)
      (version : RecommendationVersionV2) (op : call.op = .savePending sessionId accepted version) :
      NewRow provider call (pendingRow provider sessionId accepted version call.now)
  | decided (sessionId : String) (decision : RecommendationDecisionV2)
      (op : call.op = .saveDecision sessionId decision) :
      NewRow provider call (decisionRow provider sessionId decision call.now)

section Step

variable {catalog : String → String → Bool} {provider : String} {s t : JobTable catalog}
  {call : DbCall}

/-- What a call can make of the table. -/
inductive TableMove (provider : String) (s : JobTable catalog) (call : DbCall) :
    JobTable catalog → Prop where
  | same : TableMove provider s call s
  | updated (t : JobTable catalog) (p : JobRow → Bool) (f : JobRow → JobRow)
      (h : s.update p f = .ok t) (change : ∀ r, p r = true → RowChange call.now r (f r)) :
      TableMove provider s call t
  | inserted (t : JobTable catalog) (row : JobRow) (h : t.rows = s.rows ++ [row])
      (fresh : s.conflicts row = false) (new : NewRow provider call row) :
      TableMove provider s call t
  | deleted (p : JobRow → Bool) (seconds : ℚ) (op : call.op = .cleanupRetention seconds)
      (terminal : ∀ r, p r = true → r.status.terminal = true) :
      TableMove provider s call (s.delete p)

theorem raising_eq_ok {α : Type} {x : Except Violation α} {a : α} (h : raising x = .ok a) :
    x = .ok a := by
  cases x with
  | ok b => exact congrArg Except.ok (Except.ok.inj h)
  | error v => cases h

/-- The one statement of most operations. -/
theorem updateCounting_eq_ok {p : JobRow → Bool} {f : JobRow → JobRow} {n : ℕ}
    (h : updateCounting s p f = .ok (n, t)) : n = s.count p ∧ s.update p f = .ok t := by
  obtain ⟨t', ht, h⟩ := bind_eq_ok_iff.1 h
  cases h
  exact ⟨rfl, raising_eq_ok ht⟩

theorem count_pos_iff {p : JobRow → Bool} : 0 < s.count p ↔ ∃ r ∈ s.rows, p r = true :=
  List.countP_pos_iff

theorem openFor_iff {id : String} {r : JobRow} :
    r.openFor id = true ↔ r.decisionRequestId = id ∧ r.status.active = true := by
  simp [JobRow.openFor]

/-- `decision_request_id` is the primary key. -/
theorem eq_of_id {a b : JobRow} (ha : a ∈ s.rows) (hb : b ∈ s.rows)
    (h : a.decisionRequestId = b.decisionRequestId) : a = b := by
  apply Table.eq_of_clash ha hb
  simp [jobSchema, JobRow.clash, h]

/-- Looking a decision request up finds its row. -/
theorem jobRow_eq_some {id : String} {r : JobRow} :
    jobRow s id = some r ↔ r ∈ s.rows ∧ r.decisionRequestId = id := by
  constructor
  · intro h
    have found := List.find?_some h
    exact ⟨List.mem_of_find?_eq_some h, by simpa using found⟩
  · rintro ⟨hr, rfl⟩
    have some : (jobRow s r.decisionRequestId).isSome = true := by
      rw [jobRow, List.find?_isSome]
      exact ⟨r, hr, by simp⟩
    obtain ⟨r', h'⟩ := Option.isSome_iff_exists.1 some
    have found := List.find?_some h'
    have same : r' = r := eq_of_id (List.mem_of_find?_eq_some h') hr (by simpa using found)
    rw [h', same]

/-- A row that was let in has a new `decision_request_id`. -/
theorem id_ne_of_fresh {row r : JobRow} (fresh : s.conflicts row = false) (hr : r ∈ s.rows) :
    r.decisionRequestId ≠ row.decisionRequestId := by
  intro same
  simp only [Table.conflicts, List.any_eq_false] at fresh
  apply fresh r hr
  simp [jobSchema, JobRow.clash, same]

/-- `save_pending` inserts its row or leaves the table. -/
theorem savePending_cases {sessionId : String} {accepted : RecommendationAcceptedV2}
    {version : RecommendationVersionV2} {now : ℚ} {b : Bool}
    (h : savePending provider s sessionId accepted version now = .ok (b, t)) :
    t = s ∨ (b = true ∧ s.conflicts (pendingRow provider sessionId accepted version now) = false ∧
      t.rows = s.rows ++ [pendingRow provider sessionId accepted version now]) := by
  obtain ⟨⟨inserted, t'⟩, ht, hb⟩ := bind_eq_ok_iff.1 h
  rcases Table.insertNew_cases (raising_eq_ok ht) with ⟨rfl, -, rfl⟩ | ⟨rfl, fresh, rows⟩
  · cases hb
    exact .inl rfl
  · cases hb
    exact .inr ⟨rfl, fresh, rows⟩

/-- The rows `save_decision` changes. -/
def chosen (sessionId : String) (decision : RecommendationDecisionV2) (r : JobRow) : Bool :=
  r.openFor decision.decisionRequestId && decide (r.sessionId = sessionId)

/-- **What `save_decision` does**: it inserts its row, or changes the chosen ones. -/
theorem saveDecision_cases {sessionId : String} {decision : RecommendationDecisionV2} {now : ℚ}
    {b : Bool} (h : saveDecision provider s sessionId decision now = .ok (b, t)) :
    (s.conflicts (decisionRow provider sessionId decision now) = false ∧
        t.rows = s.rows ++ [decisionRow provider sessionId decision now]) ∨
      (b = decide (s.count (chosen sessionId decision) = 1) ∧
        s.update (fun r => decide (r ∈ s.rows) && chosen sessionId decision r)
          (·.decided decision now) = .ok t) := by
  obtain ⟨⟨inserted, t₁⟩, h₁, hb⟩ := bind_eq_ok_iff.1 h
  obtain ⟨t₂, h₂, hb⟩ := bind_eq_ok_iff.1 hb
  cases hb
  have h₂ := raising_eq_ok h₂
  rcases Table.insertNew_cases (raising_eq_ok h₁) with ⟨rfl, -, rfl⟩ | ⟨rfl, fresh, rows⟩
  · refine .inr ⟨?_, h₂⟩
    simp only [Bool.toNat_false, Nat.zero_add]
    rfl
  · refine .inl ⟨fresh, ?_⟩
    -- the snapshot has no row of the decision, so the second part finds nothing
    have unchosen : ∀ r ∈ t₁.rows,
        (if decide (r ∈ s.rows) && (r.openFor decision.decisionRequestId &&
          decide (r.sessionId = sessionId)) then r.decided decision now else r) = r := by
      intro r _
      rw [if_neg]
      intro hp
      simp only [Bool.and_eq_true, decide_eq_true_eq, openFor_iff] at hp
      exact id_ne_of_fresh fresh hp.1 hp.2.1.1
    rw [Table.rows_of_update h₂, List.map_congr_left unchosen, List.map_id', rows]

theorem flagged_cases {x : Except DbError (Bool × JobTable catalog)} {reply : Reply}
    (h : flagged s x = (reply, t)) :
    (t = s ∧ ∃ e, reply = .raised e) ∨ ∃ b, reply = .flag b ∧ x = .ok (b, t) := by
  rcases x with e | ⟨b, t'⟩ <;> cases h
  · exact .inl ⟨rfl, e, rfl⟩
  · exact .inr ⟨b, rfl, rfl⟩

theorem counted_cases {x : Except DbError (ℕ × JobTable catalog)} {reply : Reply}
    (h : counted s x = (reply, t)) : t = s ∨ ∃ n, x = .ok (n, t) := by
  rcases x with e | ⟨n, t'⟩ <;> cases h
  · exact .inl rfl
  · exact .inr ⟨n, rfl⟩

theorem run_of_dbStep (h : dbStep provider s call = some t) :
    call.op.run provider s call.now = (call.reply, t) := by
  unfold dbStep at h
  generalize call.op.run provider s call.now = result at h
  obtain ⟨reply, t'⟩ := result
  simp only at h
  split at h
  · rename_i same
    cases h
    rw [same]
  · cases h

/-- **Every call makes one of these moves.** -/
theorem dbStep_move (h : dbStep provider s call = some t) : TableMove provider s call t := by
  have run := run_of_dbStep h
  cases hop : call.op with
  | markInflightJobsFailedOnStartup =>
    rw [hop] at run
    rcases counted_cases run with rfl | ⟨n, hn⟩
    · exact .same
    · obtain ⟨-, ht⟩ := updateCounting_eq_ok hn
      exact .updated t _ _ ht fun r hp => .failed r _ hp
  | savePending sessionId accepted version =>
    rw [hop] at run
    rcases flagged_cases run with ⟨rfl, -⟩ | ⟨b, -, hb⟩
    · exact .same
    · rcases savePending_cases hb with rfl | ⟨-, fresh, rows⟩
      · exact .same
      · exact .inserted t _ rows fresh (.pending sessionId accepted version hop)
  | claimJob id =>
    rw [hop] at run
    rcases flagged_cases run with ⟨rfl, -⟩ | ⟨b, -, hb⟩
    · exact .same
    · obtain ⟨⟨n, t'⟩, hn, hb⟩ := bind_eq_ok_iff.1 hb
      cases hb
      obtain ⟨-, ht⟩ := updateCounting_eq_ok hn
      refine .updated t _ _ ht ?_
      intro r hp
      simp only [Bool.and_eq_true, decide_eq_true_eq] at hp
      exact .claimed r hp.2
  | saveDecision sessionId decision =>
    rw [hop] at run
    rcases flagged_cases run with ⟨rfl, -⟩ | ⟨b, -, hb⟩
    · exact .same
    · rcases saveDecision_cases hb with ⟨fresh, rows⟩ | ⟨-, ht⟩
      · exact .inserted t _ rows fresh (.decided sessionId decision hop)
      · refine .updated t _ _ ht ?_
        intro r hp
        simp only [Bool.and_eq_true, chosen, openFor_iff] at hp
        exact .decided r decision hp.2.1.2
  | markCancelled id =>
    rw [hop] at run
    rcases flagged_cases run with ⟨rfl, -⟩ | ⟨b, -, hb⟩
    · exact .same
    · obtain ⟨⟨n, t'⟩, hn, hb⟩ := bind_eq_ok_iff.1 hb
      cases hb
      obtain ⟨-, ht⟩ := updateCounting_eq_ok hn
      exact .updated t _ _ ht fun r hp => .cancelled r (openFor_iff.1 hp).2
  | failJob id reason =>
    rw [hop] at run
    rcases flagged_cases run with ⟨rfl, -⟩ | ⟨b, -, hb⟩
    · exact .same
    · unfold failJob at hb
      split at hb
      · cases hb
      · obtain ⟨⟨n, t'⟩, hn, hb⟩ := bind_eq_ok_iff.1 hb
        cases hb
        obtain ⟨-, ht⟩ := updateCounting_eq_ok hn
        exact .updated t _ _ ht fun r hp => .failed r _ (openFor_iff.1 hp).2
  | cleanupOrphanJobs seconds =>
    rw [hop] at run
    rcases counted_cases run with rfl | ⟨n, hn⟩
    · exact .same
    · unfold cleanupOrphanJobs at hn
      split at hn
      · cases hn
      · obtain ⟨-, ht⟩ := updateCounting_eq_ok hn
        refine .updated t _ _ ht ?_
        intro r hp
        exact .failed r _ (Bool.and_eq_true_iff.1 hp).1
  | cleanupRetention seconds =>
    rw [hop] at run
    rcases counted_cases run with rfl | ⟨n, hn⟩
    · exact .same
    · unfold cleanupRetention at hn
      split at hn
      · cases hn
      · cases hn
        refine .deleted _ seconds hop ?_
        intro r hp
        exact (Bool.and_eq_true_iff.1 hp).1

/-! ## Rows before and after a call -/

/-- A changed row keeps its key, moves as it may and counts the change. -/
theorem RowChange.legal {now : ℚ} {r r' : JobRow} (h : RowChange now r r') :
    r'.decisionRequestId = r.decisionRequestId ∧ JobMove r.status r'.status ∧
      r'.lockVersion = r.lockVersion + 1 := by
  cases h with
  | claimed pending =>
    refine ⟨rfl, ?_, rfl⟩
    rw [pending]
    exact .claim
  | decided decision active => exact ⟨rfl, .settle active decision.status.job_terminal, rfl⟩
  | failed failure active => exact ⟨rfl, .settle active rfl, rfl⟩
  | cancelled active => exact ⟨rfl, .settle active rfl, rfl⟩

/-- A terminal status makes no move. -/
theorem JobMove.active {a b : JobStatus} (h : JobMove a b) : a.active = true := by
  cases h with
  | claim => rfl
  | settle active _ => exact active

theorem NewRow.lockVersion {row : JobRow} (h : NewRow provider call row) : row.lockVersion = 0 := by
  cases h <;> rfl

/-- Where a row of the table after a call comes from. -/
theorem row_origin (h : dbStep provider s call = some t) {r' : JobRow} (hr : r' ∈ t.rows) :
    r' ∈ s.rows ∨ (∃ r ∈ s.rows, RowChange call.now r r') ∨
      (NewRow provider call r' ∧ s.conflicts r' = false) := by
  cases dbStep_move h with
  | same => exact .inl hr
  | updated _ p f hup change =>
    rcases (Table.mem_update hup).1 hr with ⟨old, -⟩ | ⟨r, old, hp, rfl⟩
    · exact .inl old
    · exact .inr (.inl ⟨r, old, change r hp⟩)
  | inserted _ row rows fresh new =>
    rw [rows, List.mem_append, List.mem_singleton] at hr
    rcases hr with hr | rfl
    · exact .inl hr
    · exact .inr (.inr ⟨new, fresh⟩)
  | deleted p _ _ _ => exact .inl (Table.mem_delete.1 hr).1

/-- What becomes of a row: it stays, changes, or is deleted by `cleanup_retention`. -/
theorem row_fate (h : dbStep provider s call = some t) {r : JobRow} (hr : r ∈ s.rows) :
    r ∈ t.rows ∨ (∃ r' ∈ t.rows, RowChange call.now r r') ∨
      (r.status.terminal = true ∧ ∃ seconds, call.op = .cleanupRetention seconds) := by
  cases dbStep_move h with
  | same => exact .inl hr
  | updated _ p f hup change =>
    by_cases hp : p r = true
    · exact .inr (.inl ⟨f r, (Table.mem_update hup).2 (.inr ⟨r, hr, hp, rfl⟩), change r hp⟩)
    · exact .inl ((Table.mem_update hup).2 (.inl ⟨hr, by simpa using hp⟩))
  | inserted _ row rows _ _ =>
    rw [rows]
    exact .inl (List.mem_append_left _ hr)
  | deleted p seconds op terminal =>
    by_cases hp : p r = true
    · exact .inr (.inr ⟨terminal r hp, seconds, op⟩)
    · exact .inl (Table.mem_delete.2 ⟨hr, by simpa using hp⟩)

/-- A row with the key of an earlier one is that row, or what an `UPDATE` made of it. -/
theorem row_later (h : dbStep provider s call = some t) {r r' : JobRow} (hr : r ∈ s.rows)
    (hr' : r' ∈ t.rows) (same : r'.decisionRequestId = r.decisionRequestId) :
    r' = r ∨ RowChange call.now r r' := by
  rcases row_origin h hr' with old | ⟨old, hold, change⟩ | ⟨-, fresh⟩
  · exact .inl (eq_of_id old hr same)
  · have : old = r := eq_of_id hold hr (change.legal.1.symm.trans same)
    exact .inr (this ▸ change)
  · exact absurd same.symm (id_ne_of_fresh fresh hr)

/-! ## Lifetimes -/

/-- The table has a row of the decision request. -/
def HasRow (id : String) (t : JobTable catalog) : Prop :=
  ∃ r ∈ t.rows, r.decisionRequestId = id

/-- No row of the decision request has a status for which `q` holds. -/
def NoneWith (q : JobStatus → Bool) (id : String) (t : JobTable catalog) : Prop :=
  ∀ r ∈ t.rows, r.decisionRequestId = id → q r.status = false

/-- A status that no move leads into is not regained while the row is there. -/
theorem noneWith_step {q : JobStatus → Bool}
    (left : ∀ a b, JobMove a b → q b = true → q a = true) {id : String}
    (h : dbStep provider s call = some t) (none : NoneWith q id s) (there : HasRow id s) :
    NoneWith q id t := by
  intro r' hr' hid
  obtain ⟨r, hr, rfl⟩ := there
  have before : q r.status = false := none r hr rfl
  rcases row_later h hr hr' hid with rfl | change
  · exact before
  · by_contra open'
    have := left _ _ change.legal.2.1 (by simpa using open')
    rw [before] at this
    cases this

theorem pending_left (a b : JobStatus) (h : JobMove a b) (hb : decide (b = .pending) = true) :
    decide (a = .pending) = true := by
  cases h with
  | claim => rfl
  | settle _ terminal =>
    rw [of_decide_eq_true hb] at terminal
    cases terminal

theorem active_left (a b : JobStatus) (h : JobMove a b) (_ : b.active = true) :
    a.active = true :=
  h.active

/-- A claim finds the row pending and leaves it otherwise. -/
theorem claims_step {id : String} (h : dbStep provider s call = some t)
    (won : call.claims id = true) :
    (∃ r ∈ s.rows, r.decisionRequestId = id ∧ r.status = .pending) ∧
      NoneWith (decide <| · = .pending) id t := by
  obtain ⟨op, reply⟩ := of_decide_eq_true won
  have run := run_of_dbStep h
  rw [op, reply] at run
  rcases flagged_cases run with ⟨-, e, he⟩ | ⟨b, hb, hc⟩
  · cases he
  · cases hb
    obtain ⟨⟨n, t'⟩, hn, hc⟩ := bind_eq_ok_iff.1 hc
    obtain ⟨rfl, ht⟩ := updateCounting_eq_ok hn
    have hpos : decide (0 < s.count _) = true := congrArg Prod.fst (Except.ok.inj hc)
    have htt : t' = t := congrArg Prod.snd (Except.ok.inj hc)
    rw [htt] at ht
    constructor
    · obtain ⟨r, hr, hp⟩ := count_pos_iff.1 (of_decide_eq_true hpos)
      simp only [Bool.and_eq_true, decide_eq_true_eq] at hp
      exact ⟨r, hr, hp⟩
    · intro r' hr' hid
      rcases (Table.mem_update ht).1 hr' with ⟨-, hp⟩ | ⟨r, -, -, rfl⟩
      · simpa [hid] using hp
      · rfl

/-- A saved decision was the first row of its key or found its row active, and leaves it
terminal. -/
theorem saves_step {id : String} (h : dbStep provider s call = some t)
    (won : call.saves id = true) :
    (¬ HasRow id s ∨ ∃ r ∈ s.rows, r.decisionRequestId = id ∧ r.status.active = true) ∧
      NoneWith JobStatus.active id t := by
  unfold DbCall.saves at won
  split at won
  · rename_i sessionId decision op
    obtain ⟨rfl, reply⟩ := of_decide_eq_true won
    have run := run_of_dbStep h
    rw [op, reply] at run
    rcases flagged_cases run with ⟨-, e, he⟩ | ⟨b, hb, hc⟩
    · cases he
    · cases hb
      rcases saveDecision_cases hc with ⟨fresh, rows⟩ | ⟨one, ht⟩
      · have absent : ∀ r ∈ s.rows, r.decisionRequestId ≠ decision.decisionRequestId :=
          fun r hr => id_ne_of_fresh fresh hr
        refine ⟨.inl ?_, ?_⟩
        · rintro ⟨r, hr, hid⟩
          exact absent r hr hid
        · intro r hr hid
          rw [rows, List.mem_append, List.mem_singleton] at hr
          rcases hr with hr | rfl
          · exact absurd hid (absent r hr)
          · exact decision.status.job_inactive
      · have one : s.count (chosen sessionId decision) = 1 := of_decide_eq_true one.symm
        obtain ⟨r, hr, hp⟩ := count_pos_iff.1 (one ▸ Nat.one_pos)
        have found := openFor_iff.1 (Bool.and_eq_true_iff.1 hp).1
        refine ⟨.inr ⟨r, hr, found⟩, ?_⟩
        intro r' hr' hid
        rcases (Table.mem_update ht).1 hr' with ⟨old, unchosen⟩ | ⟨r₀, -, -, rfl⟩
        · -- the key is unique, so the row is the chosen one
          have : r' = r := eq_of_id old hr (hid.trans found.1.symm)
          rw [this, hp, Bool.and_true] at unchosen
          exact absurd hr (of_decide_eq_false unchosen)
        · exact decision.status.job_inactive
  · cases won

/-- A call that needs an open row and closes it happens once in a lifetime of the row,
counted from the call before it on. -/
theorem lifetime_le_one {win : DbCall → Bool} {q : JobStatus → Bool} {id : String}
    (left : ∀ a b, JobMove a b → q b = true → q a = true)
    (closes : ∀ {s t : JobTable catalog} {call : DbCall}, dbStep provider s call = some t →
      win call = true → NoneWith q id t)
    (needs : ∀ {s t : JobTable catalog} {call : DbCall}, dbStep provider s call = some t →
      win call = true → HasRow id s → ∃ r ∈ s.rows, r.decisionRequestId = id ∧ q r.status = true)
    {calls : List DbCall} {u : JobTable catalog} (h : dbStep provider s call = some t)
    (life : Steps (dbStep provider) (fun s _ => HasRow id s) t calls u) :
    (call :: calls).countP win ≤ 1 := by
  have pres : ∀ (s : JobTable catalog) (c : DbCall) (t : JobTable catalog), NoneWith q id s →
      HasRow id s → dbStep provider s c = some t → NoneWith q id t ∧ win c = false := by
    intro s c t none there hs
    refine ⟨noneWith_step left hs none there, ?_⟩
    by_contra won
    obtain ⟨r, hr, hid, hq⟩ := needs hs (by simpa using won) there
    rw [none r hr hid] at hq
    cases hq
  by_cases won : win call = true
  · have later : calls.countP win = 0 := life.countP_eq_zero pres (closes h won)
    rw [List.countP_cons_of_pos won, later]
  · rw [List.countP_cons_of_neg won]
    refine Steps.countP_le_one ?_ pres life
    intro s c t hs won
    exact closes hs won

theorem claims_le_one {id : String} {calls : List DbCall} {u : JobTable catalog}
    (h : dbStep provider s call = some t)
    (life : Steps (dbStep provider) (fun s _ => HasRow id s) t calls u) :
    (call :: calls).countP (DbCall.claims id) ≤ 1 := by
  refine lifetime_le_one pending_left ?_ ?_ h life
  · intro s t call h won
    exact (claims_step h won).2
  · intro s t call h won _
    obtain ⟨r, hr, hid, pending⟩ := (claims_step h won).1
    exact ⟨r, hr, hid, decide_eq_true pending⟩

theorem saves_le_one {id : String} {calls : List DbCall} {u : JobTable catalog}
    (h : dbStep provider s call = some t)
    (life : Steps (dbStep provider) (fun s _ => HasRow id s) t calls u) :
    (call :: calls).countP (DbCall.saves id) ≤ 1 := by
  refine lifetime_le_one active_left ?_ ?_ h life
  · intro s t call h won
    exact (saves_step h won).2
  · intro s t call h won there
    exact (saves_step h won).1.resolve_left fun absent => absent there

/-! ## The lifecycle -/

/-- A terminal row is kept as it is until a `cleanup_retention`. -/
theorem terminal_kept {calls : List DbCall} {u : JobTable catalog} {r : JobRow}
    (run : Steps (dbStep provider) Free s calls u) (hr : r ∈ s.rows)
    (terminal : r.status.terminal = true) :
    r ∈ u.rows ∨ ∃ call ∈ calls, ∃ seconds, call.op = .cleanupRetention seconds := by
  induction run with
  | nil => exact .inl hr
  | @cons _ _ _ call calls _ hs _ ih =>
    rcases row_fate hs hr with kept | ⟨r', -, change⟩ | ⟨-, deleted⟩
    · rcases ih kept with kept | ⟨c, hc, deleted⟩
      · exact .inl kept
      · exact .inr ⟨c, List.mem_cons_of_mem _ hc, deleted⟩
    · have active := change.legal.2.1.active
      rw [JobStatus.terminal_eq, active] at terminal
      cases terminal
    · exact .inr ⟨call, List.mem_cons_self, deleted⟩

/-- What the rows of a table are like. -/
structure RowsSound (t : JobTable catalog) : Prop where
  oneActive : ∀ a ∈ t.rows, ∀ b ∈ t.rows, a.sessionId = b.sessionId →
    a.status.active = true → b.status.active = true → a = b
  selected : ∀ r ∈ t.rows, r.selectedProductId.isSome = true ↔ r.status = .completed

theorem rowsSound (t : JobTable catalog) : RowsSound t where
  oneActive a ha b hb session activeA activeB := by
    apply Table.eq_of_clash ha hb
    simp [jobSchema, JobRow.clash, session, activeA, activeB]
  selected r hr := by
    have check := (t.admitted r hr).1
    simp only [jobSchema, JobRow.check, Bool.and_eq_true, Bool.or_eq_true, decide_eq_true_eq] at check
    rcases check.1 with ⟨⟨completed, product⟩, -⟩ | ⟨other, none⟩
    · exact ⟨fun _ => completed, fun _ => product⟩
    · rw [Option.isNone_iff_eq_none] at none
      constructor
      · intro some
        rw [none] at some
        cases some
      · intro completed
        exact absurd completed other

/-- How a call may change the rows. -/
structure RowsMove (s : JobTable catalog) (call : DbCall) (t : JobTable catalog) : Prop where
  changed : ∀ r ∈ s.rows, ∀ r' ∈ t.rows, r'.decisionRequestId = r.decisionRequestId →
    r' = r ∨ (JobMove r.status r'.status ∧ r'.lockVersion = r.lockVersion + 1)
  gone : ∀ r ∈ s.rows, HasRow r.decisionRequestId t ∨
    (r.status.terminal = true ∧ ∃ seconds, call.op = .cleanupRetention seconds)
  new : ∀ r' ∈ t.rows, ¬ HasRow r'.decisionRequestId s → r'.lockVersion = 0

theorem rowsMove (h : dbStep provider s call = some t) : RowsMove s call t where
  changed r hr r' hr' same := by
    rcases row_later h hr hr' same with rfl | change
    · exact .inl rfl
    · exact .inr change.legal.2
  gone r hr := by
    rcases row_fate h hr with kept | ⟨r', hr', change⟩ | deleted
    · exact .inl ⟨r, kept, rfl⟩
    · exact .inl ⟨r', hr', change.legal.1⟩
    · exact .inr deleted
  new r' hr' absent := by
    rcases row_origin h hr' with old | ⟨r, hr, change⟩ | ⟨new, -⟩
    · exact absurd ⟨r', old, rfl⟩ absent
    · exact absurd ⟨r, hr, change.legal.1.symm⟩ absent
    · exact new.lockVersion

/-- **The life of a job**, from any table and so in every run from the empty one. -/
theorem job_lifecycle (h : dbStep provider s call = some t) :
    RowsSound s ∧ RowsSound t ∧ RowsMove s call t ∧ ∀ later u,
      (Steps (dbStep provider) Free t later u → ∀ r ∈ t.rows, r.status.terminal = true →
        r ∈ u.rows ∨ ∃ c ∈ later, ∃ seconds, c.op = .cleanupRetention seconds) ∧
      ∀ id, Steps (dbStep provider) (fun s _ => HasRow id s) t later u →
        (call :: later).countP (DbCall.claims id) ≤ 1 ∧
          (call :: later).countP (DbCall.saves id) ≤ 1 := by
  refine ⟨rowsSound s, rowsSound t, rowsMove h, ?_⟩
  intro later u
  constructor
  · intro run r hr terminal
    exact terminal_kept run hr terminal
  · intro id life
    exact ⟨claims_le_one h life, saves_le_one h life⟩

end Step

/-! ## A job that completes -/

/-- A catalog of one product. -/
def oneBagCatalog (version product : String) : Bool :=
  decide (version = "catalog-1" ∧ product = "bag-1")

def bagVersion : RecommendationVersionV2 :=
  ⟨"model-1", "revision-1", "prompt-1", "feature-1", "catalog-1", .a⟩

def bagDecision : RecommendationDecisionV2 where
  recommendationId := "recommendation-1"
  decisionRequestId := "decision-1"
  status := .completed
  selectedProductId := some "bag-1"
  reason := ⟨.groundedProductMatch, "observed attention"⟩
  reasonCodes := [.observedAttentionLead]
  evidence := [⟨.productTagMatch, "bag-1", [⟨.window, "window-1"⟩], "observed attention"⟩]
  style := some ⟨[], "plain"⟩
  explorationTendencyCode := some .focusedSingleProduct
  dataQuality := ⟨1, 1, 1, 1, 0⟩
  version := bagVersion

def bagPending : DbCall :=
  ⟨.savePending "session-1" ⟨"recommendation-1", "decision-1"⟩ bagVersion, 0, .flag true⟩

/-- The job is claimed, decided and swept; the second claim and the second save lose. -/
def bagCalls : List DbCall :=
  [⟨.claimJob "decision-1", 1, .flag true⟩, ⟨.claimJob "decision-1", 2, .flag false⟩,
    ⟨.saveDecision "session-1" bagDecision, 3, .flag true⟩,
    ⟨.saveDecision "session-1" bagDecision, 4, .flag false⟩,
    ⟨.cleanupRetention 10, 20, .count 1⟩]

theorem job_lifecycle_bag : ∃ t : JobTable oneBagCatalog, ∃ u,
    dbStep "self_hosted" Table.empty bagPending = some t ∧
      Steps (dbStep "self_hosted") (fun s _ => HasRow "decision-1" s) t bagCalls u ∧
      RowsMove Table.empty bagPending t ∧
      (bagPending :: bagCalls).countP (DbCall.claims "decision-1") ≤ 1 := by
  have first : ((dbStep "self_hosted" (Table.empty : JobTable oneBagCatalog) bagPending).any fun t =>
      (runWhile (dbStep "self_hosted") (fun s _ => (jobRow s "decision-1").isSome) t bagCalls).any
        fun _ => true) = true := by
    decide +kernel
  obtain ⟨t, ht, later⟩ := (Option.any_eq_true _ _).1 first
  have guard : ∀ (s : JobTable oneBagCatalog) (_ : DbCall), (jobRow s "decision-1").isSome = true →
      HasRow "decision-1" s := by
    intro s _ found
    obtain ⟨r, hr⟩ := Option.isSome_iff_exists.1 found
    exact ⟨r, jobRow_eq_some.1 hr⟩
  obtain ⟨u, life, -⟩ := exists_guarded_steps_of_any _ guard later
  obtain ⟨-, -, moves, counts⟩ := job_lifecycle ht
  exact ⟨t, u, ht, life, moves, ((counts bagCalls u).2 "decision-1" life).1⟩

end Mkk.Api
