import Mkk.Api.Decision
import Mkk.Lib.Lts
import Mkk.Lib.Table

/-!
# The durable job table

`recommendation_job_v2` and the statements `PostgresDecisionPersistence` runs on it. A job
is a row; its columns that every statement leaves at `NULL` or `'[]'` are not kept here.
A call runs at one reading of `now()`. It answers, and the table is what its statement
made of it, or it raises and the table is as before. The `SELECT` of `save_pending` reads
the table its `INSERT` left.
-/

namespace Mkk.Api

open Lib

/-! ## Rows -/

inductive JobStatus where
  | pending | running | completed | failed | cancelled | insufficientData
  deriving DecidableEq, Repr

/-- `status IN ('pending', 'running')` -/
def JobStatus.active : JobStatus → Bool
  | .pending | .running => true
  | _ => false

/-- `TERMINAL_JOB_STATUSES` -/
def JobStatus.terminal : JobStatus → Bool
  | .completed | .failed | .cancelled | .insufficientData => true
  | _ => false

theorem JobStatus.terminal_eq (s : JobStatus) : s.terminal = !s.active := by
  cases s <;> rfl

/-- The status a decision is stored under. -/
def DecisionStatus.job : DecisionStatus → JobStatus
  | .completed => .completed
  | .insufficientData => .insufficientData
  | .failed => .failed

theorem DecisionStatus.job_terminal (s : DecisionStatus) : s.job.terminal = true := by
  cases s <;> rfl

theorem DecisionStatus.job_inactive (s : DecisionStatus) : s.job.active = false := by
  cases s <;> rfl

/-- `JobFailureReasonCode` -/
inductive JobFailureReasonCode where
  | serviceRestart | orphanCleanup | cancelled | jobStartFailed | modelUnavailable
  | invalidModelOutput | catalogMismatch | insufficientValidSignal | noEligibleProduct
  deriving DecidableEq, Repr

def JobFailureReasonCode.value : JobFailureReasonCode → String
  | .serviceRestart => "service_restart"
  | .orphanCleanup => "orphan_cleanup"
  | .cancelled => "cancelled"
  | .jobStartFailed => "job_start_failed"
  | .modelUnavailable => "model_unavailable"
  | .invalidModelOutput => "invalid_model_output"
  | .catalogMismatch => "catalog_mismatch"
  | .insufficientValidSignal => "insufficient_valid_signal"
  | .noEligibleProduct => "no_eligible_product"

def DecisionReasonCode.value : DecisionReasonCode → String
  | .groundedProductMatch => "grounded_product_match"
  | .insufficientValidSignal => "insufficient_valid_signal"
  | .noEligibleProduct => "no_eligible_product"
  | .modelUnavailable => "model_unavailable"
  | .invalidModelOutput => "invalid_model_output"
  | .catalogMismatch => "catalog_mismatch"

/-- The list of `recommendation_job_v2_failure_reason_code_check`. -/
def failureReasonCodes : List String :=
  ["service_restart", "orphan_cleanup", "cancelled", "job_start_failed", "model_unavailable",
    "invalid_model_output", "catalog_mismatch", "insufficient_valid_signal", "no_eligible_product"]

theorem JobFailureReasonCode.value_mem (code : JobFailureReasonCode) :
    code.value ∈ failureReasonCodes := by
  cases code <;> decide

/-- A row of `recommendation_job_v2`. -/
structure JobRow where
  decisionRequestId : String
  recommendationId : String
  sessionId : String
  status : JobStatus
  version : RecommendationVersionV2
  centralProvider : String
  selectedProductId : Option String := none
  reasonCode : Option String := none
  reasonCodes : List ReasonCode := []
  explorationTendencyCode : Option ExplorationTendencyCode := none
  failureReasonCode : Option String := none
  createdAt : ℚ
  updatedAt : ℚ
  claimedAt : Option ℚ := none
  completedAt : Option ℚ := none
  lockVersion : ℕ := 0
  deriving DecidableEq

/-- The `CHECK` that ties the selected product to the status, and the one on the failure reason. -/
def JobRow.check (r : JobRow) : Bool :=
  ((decide (r.status = .completed) && r.selectedProductId.isSome && r.completedAt.isSome) ||
    (decide (r.status ≠ .completed) && r.selectedProductId.isNone)) &&
  r.failureReasonCode.all fun code => decide (code ∈ failureReasonCodes)

/-- The foreign key into the rows of `recommendation_catalog_v2`. -/
def JobRow.references (catalog : String → String → Bool) (r : JobRow) : Bool :=
  r.selectedProductId.all fun product => catalog r.version.catalogVersion product

/-- The primary key, `UNIQUE (recommendation_id)` and
`recommendation_job_v2_one_active_session_idx`. -/
def JobRow.clash (a b : JobRow) : Bool :=
  decide (a.decisionRequestId = b.decisionRequestId) ||
  decide (a.recommendationId = b.recommendationId) ||
  (decide (a.sessionId = b.sessionId) && a.status.active && b.status.active)

def jobSchema (catalog : String → String → Bool) : Schema JobRow where
  check := JobRow.check
  references := JobRow.references catalog
  clash := JobRow.clash
  symm a b := by
    have flip (x y : String) : decide (x = y) = decide (y = x) := decide_eq_decide.2 eq_comm
    simp only [JobRow.clash, flip a.decisionRequestId, flip a.recommendationId, flip a.sessionId,
      Bool.and_assoc, Bool.and_comm a.status.active]

/-- `recommendation_job_v2` beside a catalog. -/
abbrev JobTable (catalog : String → String → Bool) : Type := Table (jobSchema catalog)

/-- The row of a decision request. -/
def jobRow {catalog : String → String → Bool} (t : JobTable catalog) (decisionRequestId : String) :
    Option JobRow :=
  t.rows.find? fun r => decide (r.decisionRequestId = decisionRequestId)

/-! ## What the statements write -/

/-- The row `save_pending` inserts. -/
def pendingRow (centralProvider sessionId : String) (accepted : RecommendationAcceptedV2)
    (version : RecommendationVersionV2) (now : ℚ) : JobRow where
  decisionRequestId := accepted.decisionRequestId
  recommendationId := accepted.recommendationId
  sessionId := sessionId
  status := .pending
  version := version
  centralProvider := centralProvider
  createdAt := now
  updatedAt := now

/-- The `SET` of `claim_job`. -/
def JobRow.claimed (r : JobRow) (now : ℚ) : JobRow :=
  { r with
    status := .running
    claimedAt := some now
    updatedAt := now
    lockVersion := r.lockVersion + 1 }

/-- `None if decision.status == "completed" else decision.reason.code` -/
def decisionFailure (decision : RecommendationDecisionV2) : Option String :=
  if decision.status = .completed then none else some decision.reason.code.value

/-- The row `save_decision` inserts. -/
def decisionRow (centralProvider sessionId : String) (decision : RecommendationDecisionV2)
    (now : ℚ) : JobRow where
  decisionRequestId := decision.decisionRequestId
  recommendationId := decision.recommendationId
  sessionId := sessionId
  status := decision.status.job
  version := decision.version
  centralProvider := centralProvider
  selectedProductId := decision.selectedProductId
  reasonCode := some decision.reason.code.value
  reasonCodes := decision.reasonCodes
  explorationTendencyCode := decision.explorationTendencyCode
  failureReasonCode := decisionFailure decision
  createdAt := now
  updatedAt := now
  completedAt := some now

/-- The `SET` of `save_decision`. -/
def JobRow.decided (r : JobRow) (decision : RecommendationDecisionV2) (now : ℚ) : JobRow :=
  { r with
    status := decision.status.job
    selectedProductId := decision.selectedProductId
    reasonCode := some decision.reason.code.value
    reasonCodes := decision.reasonCodes
    explorationTendencyCode := decision.explorationTendencyCode
    failureReasonCode := decisionFailure decision
    completedAt := some now
    updatedAt := now
    lockVersion := r.lockVersion + 1 }

/-- The `SET` shared by the statements that close a job without a decision. -/
def JobRow.closed (r : JobRow) (status : JobStatus) (reasonCode : Option String)
    (failure : JobFailureReasonCode) (now : ℚ) : JobRow :=
  { r with
    status := status
    selectedProductId := none
    reasonCode := reasonCode
    reasonCodes := []
    explorationTendencyCode := none
    failureReasonCode := some failure.value
    completedAt := some now
    updatedAt := now
    lockVersion := r.lockVersion + 1 }

/-- `SET status = 'failed', reason_code = 'model_unavailable', failure_reason_code = …` -/
def JobRow.failed (r : JobRow) (failure : JobFailureReasonCode) (now : ℚ) : JobRow :=
  r.closed .failed (some "model_unavailable") failure now

/-- `SET status = 'cancelled', reason_code = NULL, failure_reason_code = 'cancelled'` -/
def JobRow.cancelled (r : JobRow) (now : ℚ) : JobRow :=
  r.closed .cancelled none .cancelled now

/-! ## The operations -/

/-- What a call raises. -/
inductive DbError where
  | valueError (message : String)
  | violation (v : Violation)
  deriving DecidableEq, Repr

section Operations

variable {catalog : String → String → Bool}

/-- A statement's result, its violation raised. -/
def raising {α : Type} : Except Violation α → Except DbError α
  | .ok a => .ok a
  | .error v => .error (.violation v)

/-- `UPDATE … RETURNING`: how many rows it changed, and the table. -/
def updateCounting (t : JobTable catalog) (p : JobRow → Bool) (f : JobRow → JobRow) :
    Except DbError (ℕ × JobTable catalog) := do
  let t' ← raising (t.update p f)
  return (t.count p, t')

/-- `WHERE decision_request_id = %s AND status IN ('pending', 'running')` -/
def JobRow.openFor (decisionRequestId : String) (r : JobRow) : Bool :=
  decide (r.decisionRequestId = decisionRequestId) && r.status.active

/-- `mark_inflight_jobs_failed_on_startup` -/
def markInflightJobsFailedOnStartup (t : JobTable catalog) (now : ℚ) :
    Except DbError (ℕ × JobTable catalog) :=
  updateCounting t (·.status.active) (·.failed .serviceRestart now)

/-- `save_pending` -/
def savePending (centralProvider : String) (t : JobTable catalog) (sessionId : String)
    (accepted : RecommendationAcceptedV2) (version : RecommendationVersionV2) (now : ℚ) :
    Except DbError (Bool × JobTable catalog) := do
  let (inserted, t') ← raising (t.insertNew (pendingRow centralProvider sessionId accepted version now))
  if inserted then return (true, t')
  else
    let row := t'.rows.find? fun r => decide (r.recommendationId = accepted.recommendationId)
    return (row.any fun r => decide (r.decisionRequestId = accepted.decisionRequestId ∧
      r.sessionId = sessionId), t')

/-- `claim_job` -/
def claimJob (t : JobTable catalog) (decisionRequestId : String) (now : ℚ) :
    Except DbError (Bool × JobTable catalog) := do
  let (changed, t') ← updateCounting t
    (fun r => decide (r.decisionRequestId = decisionRequestId) &&
      decide (r.status = .pending)) (·.claimed now)
  return (decide (0 < changed), t')

/-- `save_decision`: both parts of the statement read the table as it was before. -/
def saveDecision (centralProvider : String) (t : JobTable catalog) (sessionId : String)
    (decision : RecommendationDecisionV2) (now : ℚ) : Except DbError (Bool × JobTable catalog) := do
  let (inserted, t₁) ← raising (t.insertNew (decisionRow centralProvider sessionId decision now))
  let chosen (r : JobRow) : Bool :=
    r.openFor decision.decisionRequestId && decide (r.sessionId = sessionId)
  let t₂ ← raising (t₁.update (fun r => decide (r ∈ t.rows) && chosen r)
    (·.decided decision now))
  return (decide (inserted.toNat + t.count chosen = 1), t₂)

/-- `mark_cancelled` -/
def markCancelled (t : JobTable catalog) (decisionRequestId : String) (now : ℚ) :
    Except DbError (Bool × JobTable catalog) := do
  let (changed, t') ← updateCounting t (JobRow.openFor decisionRequestId) (·.cancelled now)
  return (decide (0 < changed), t')

/-- `fail_job` -/
def failJob (t : JobTable catalog) (decisionRequestId : String) (reason : JobFailureReasonCode)
    (now : ℚ) : Except DbError (Bool × JobTable catalog) :=
  if reason ∉ [.orphanCleanup, .jobStartFailed] then
    .error (.valueError "fail_job only accepts runtime cleanup reason codes")
  else do
    let (changed, t') ← updateCounting t (JobRow.openFor decisionRequestId) (·.failed reason now)
    return (decide (0 < changed), t')

/-- `cleanup_orphan_jobs` -/
def cleanupOrphanJobs (t : JobTable catalog) (orphanSeconds now : ℚ) :
    Except DbError (ℕ × JobTable catalog) :=
  if orphanSeconds ≤ 0 then .error (.valueError "orphan_seconds must be positive")
  else updateCounting t
    (fun r => r.status.active && decide (r.updatedAt < now - orphanSeconds))
    (·.failed .orphanCleanup now)

/-- `cleanup_retention` -/
def cleanupRetention (t : JobTable catalog) (retentionSeconds now : ℚ) :
    Except DbError (ℕ × JobTable catalog) :=
  if retentionSeconds ≤ 0 then .error (.valueError "retention_seconds must be positive")
  else
    let old (r : JobRow) : Bool :=
      r.status.terminal && decide (r.updatedAt < now - retentionSeconds)
    .ok (t.count old, t.delete old)

end Operations

end Mkk.Api
