import Mkk.Api.JobLifecycle
import Mkk.Api.StoreSteps

/-!
# A call of `complete`, step by step

`V2RecommendationStore.complete` for one session, beside everything that can run between its
steps: calls of `cancel` and sweeps of expired sessions, which remove the session under the lock
and then clear the job and close the durable row outside it, the job itself once it was
submitted, and the store operations of other requests. The sections under the store's lock are
the operations of `Api.step`; the repository calls run on the durable job table, or are answered
by a repository without a database, or raise.
-/

namespace Mkk.Api

open Lib Lib.Lts

/-! ## Repository calls -/

/-- How a repository call ends: its statement ran at a reading of `now()`, a repository without a
database answered, or it raised and the table is as before. -/
inductive Outcome where
  | ran (now : ℚ)
  | answered (b : Bool)
  | raised
  deriving DecidableEq, Repr

/-- The answer and the table; a statement that is refused did not run. -/
def Outcome.apply {catalog : String → String → Bool} (t : JobTable catalog)
    (statement : ℚ → Except DbError (Bool × JobTable catalog)) :
    Outcome → Option (Option Bool × JobTable catalog)
  | .ran now => match statement now with
    | .ok (b, t') => some (some b, t')
    | .error _ => none
  | .answered b => some (some b, t)
  | .raised => some (none, t)

/-! ## The parties -/

/-- Where `complete` stands. -/
inductive Caller where
  | idle
  | begun (accepted : RecommendationAcceptedV2) (job : CompletionJob)
  | saved (accepted : RecommendationAcceptedV2) (job : CompletionJob)
  | claimed (accepted : RecommendationAcceptedV2) (job : CompletionJob)
  | submitted (accepted : RecommendationAcceptedV2) (job : CompletionJob)
  /-- The `except` branch was entered. -/
  | failing (accepted : RecommendationAcceptedV2) (job : CompletionJob)
  | failed (accepted : RecommendationAcceptedV2) (job : CompletionJob)
      (decision : RecommendationDecisionV2)
  | committing (accepted : RecommendationAcceptedV2) (job : CompletionJob)
      (decision : RecommendationDecisionV2)
  | publishing (accepted : RecommendationAcceptedV2) (decision : RecommendationDecisionV2)
  /-- No job was handed out. -/
  | concluded (accepted : RecommendationAcceptedV2)
  | storing (accepted : RecommendationAcceptedV2) (decision : RecommendationDecisionV2)
  | returned (accepted : RecommendationAcceptedV2)
  | raised (e : PyError)
  deriving DecidableEq

/-- What `begin_completion` leaves `complete` with. -/
def Caller.ofBegun : Except PyError Begun → Caller
  | .error e => .raised e
  | .ok (accepted, none) => .concluded accepted
  | .ok (accepted, some job) => .begun accepted job

/-- The job of the call, once it was handed out. -/
def jobOfBegun : Except PyError Begun → Option CompletionJob
  | .ok (_, job) => job
  | .error _ => none

inductive CloserKind where
  | cancel | expiry
  deriving DecidableEq, Repr

/-- A call of `cancel` or a sweep that has removed the session and not yet closed its row. -/
structure Closer where
  kind : CloserKind
  decisionRequestId : String
  job : Option CompletionJob
  cleared : Bool := false
  deriving DecidableEq

/-- The statement a closer ends with. -/
def Closer.statement {catalog : String → String → Bool} (c : Closer) (t : JobTable catalog)
    (now : ℚ) : Except DbError (Bool × JobTable catalog) :=
  match c.kind with
  | .cancel => markCancelled t c.decisionRequestId now
  | .expiry => failJob t c.decisionRequestId .orphanCleanup now

/-- Where `run_completion` stands. -/
inductive JobTask where
  | absent
  | queued (job : CompletionJob)
  | running (job : CompletionJob)
  | decided (job : CompletionJob) (reply : ModelReply) (decision : RecommendationDecisionV2)
  | saving (job : CompletionJob) (decision : RecommendationDecisionV2)
  | finished
  deriving DecidableEq

/-- The store, the durable table and the parties; `job` is the job of the call and `disposed`
says that `clear_transient` ran on it. -/
structure Race (catalog : String → String → Bool) where
  world : World
  table : JobTable catalog
  caller : Caller := .idle
  closers : List Closer := []
  task : JobTask := .absent
  job : Option CompletionJob := none
  disposed : Bool := false

/-! ## Their steps -/

inductive CallerStep where
  | notReady
  | begin (record : Option Bool) (client : CentralRecommendationClient) (jobId : String)
  | savePending (outcome : Outcome)
  | claimJob (outcome : Outcome)
  | submit (accepted : Bool)
  | register
  | startFailure
  | failJob (outcome : Outcome)
  | commitFailure
  | saveFailure (outcome : Outcome)
  | read (record : Option Bool)
  | saveRead (outcome : Outcome)

inductive CloserStep where
  | cancel (record : Option Bool)
  | sweep (now : ℚ)
  | clear (i : ℕ)
  | close (i : ℕ) (outcome : Outcome)

inductive TaskStep where
  | start
  | reply (reply : ModelReply)
  | cancelled
  | commit
  | save (outcome : Outcome)

inductive RaceLabel where
  | caller (l : CallerStep)
  | closer (l : CloserStep)
  | task (l : TaskStep)
  /-- An operation of another request. -/
  | other (e : Event)

section Steps

variable {catalog : String → String → Bool} (env : StoreEnv) (provider sid : String)

/-- An operation of the store. -/
def Race.store (r : Race catalog) (e : Event) : Option (Race catalog) :=
  (step env r.world e).map fun w => { r with world := w }

/-- A repository call, and where its answer leaves the race. -/
def Race.repository (r : Race catalog) (outcome : Outcome)
    (statement : ℚ → Except DbError (Bool × JobTable catalog))
    (next : Option Bool → Race catalog → Race catalog) : Option (Race catalog) :=
  (outcome.apply r.table statement).map fun a => next a.1 { r with table := a.2 }

/-- The job is committed; the flag says whether the decision was published. -/
def Race.commit (r : Race catalog) (job : CompletionJob) (jobEnd : JobEnd)
    (next : Bool → Race catalog → Race catalog) : Option (Race catalog) :=
  (r.store env (.commit job jobEnd)).map (next (activeState r.world.states job).isSome)

/-- `complete` -/
def callerStep (r : Race catalog) (l : CallerStep) : Option (Race catalog) :=
  match l, r.caller with
  | .notReady, .idle => some { r with caller := .raised (.domain 503 "service_not_ready"
      "recommendation persistence is not ready") }
  | .begin record client jobId, .idle =>
    let begun := beginCompletion env r.world.states r.world.clock sid record client jobId
    (r.store env (.begin sid record client jobId)).map fun r' =>
      { r' with caller := .ofBegun begun.1, job := jobOfBegun begun.1 }
  | .savePending outcome, .begun accepted job =>
    r.repository outcome (savePending provider r.table sid accepted job.version) fun answer r' =>
      { r' with caller := if answer = some true then .saved accepted job else .failing accepted job }
  | .claimJob outcome, .saved accepted job =>
    r.repository outcome (claimJob r.table accepted.decisionRequestId) fun answer r' =>
      { r' with caller := if answer = some true then .claimed accepted job else .failing accepted job }
  | .submit true, .claimed accepted job =>
    some { r with caller := .submitted accepted job, task := .queued job }
  | .submit false, .claimed accepted job => some { r with caller := .failing accepted job }
  | .register, .submitted accepted job =>
    (r.store env (.register job)).map fun r' => { r' with caller := .returned accepted }
  | .startFailure, .failing accepted job =>
    if r.disposed then
      some { r with caller := .raised (.runtimeError "completion evidence was already disposed") }
    else match job.startFailure with
      | .error e => some { r with caller := .raised e }
      | .ok decision => some { r with caller := .failed accepted job decision }
  | .failJob outcome, .failed accepted job decision =>
    r.repository outcome (failJob r.table accepted.decisionRequestId .jobStartFailed) fun _ r' =>
      { r' with caller := .committing accepted job decision }
  | .commitFailure, .committing accepted job decision =>
    r.commit env job .startFailed fun published r' =>
      { r' with caller := if published then .publishing accepted decision else .returned accepted }
  | .saveFailure outcome, .publishing accepted decision =>
    r.repository outcome (saveDecision provider r.table sid decision) fun _ r' =>
      { r' with caller := .returned accepted }
  | .read record, .concluded accepted =>
    (r.store env (.get sid record)).map fun r' =>
      { r' with caller := match getRecommendation env r.world.states sid record with
        | .error e => .raised e
        | .ok (.accepted _) => .returned accepted
        | .ok (.decided decision) => .storing accepted decision }
  | .saveRead outcome, .storing accepted decision =>
    r.repository outcome (saveDecision provider r.table sid decision) fun answer r' =>
      { r' with caller := match answer with
        | none => .raised (.runtimeError "the repository raised")
        | some _ => .returned accepted }
  | _, _ => none

/-- What a removal of the session leaves to be closed. -/
def closersOf (kind : CloserKind) (before after : Sessions) : List Closer :=
  match before.get? sid, after.get? sid with
  | some s, none =>
    if kind = .expiry ∧ s.status ≠ .pending then []
    else (s.accepted.map fun a => ⟨kind, a.decisionRequestId, s.activeJob, false⟩).toList
  | _, _ => []

/-- The session is removed by an operation of the store. -/
def Race.remove (r : Race catalog) (kind : CloserKind) (e : Event) : Option (Race catalog) :=
  (r.store env e).map fun r' =>
    { r' with closers := closersOf sid kind r.world.states r'.world.states ++ r.closers }

/-- `cancel` and `cleanup_expired` -/
def closerStep (r : Race catalog) : CloserStep → Option (Race catalog)
  | .cancel record => r.remove env sid .cancel (.cancel sid record)
  | .sweep now => r.remove env sid .expiry (.sweep now)
  | .clear i => (r.closers[i]?).bind fun c =>
    if c.cleared then none
    else some { r with
      closers := r.closers.set i { c with cleared := true }
      disposed := r.disposed || (c.job.isSome && decide (c.job = r.job)) }
  | .close i outcome => (r.closers[i]?).bind fun c =>
    if c.cleared then
      r.repository outcome (c.statement r.table) fun _ r' =>
        { r' with closers := r.closers.eraseIdx i }
    else none

/-- `run_completion` -/
def taskStep (r : Race catalog) (l : TaskStep) : Option (Race catalog) :=
  match l, r.task with
  | .start, .queued job =>
    some { r with task := if r.disposed then .finished else .running job }
  | .reply reply, .running job =>
    match job.run env.casefold reply with
    | .error _ => some { r with task := .finished, disposed := true }
    | .ok decision => some { r with task := .decided job reply decision }
  | .cancelled, .queued _ => some { r with task := .finished }
  | .cancelled, .running _ => some { r with task := .finished, disposed := true }
  | .commit, .decided job reply decision =>
    r.commit env job (.reply reply) fun published r' =>
      if published then { r' with task := .saving job decision }
      else { r' with task := .finished, disposed := true }
  | .save outcome, .saving _ decision =>
    r.repository outcome (saveDecision provider r.table sid decision) fun _ r' =>
      { r' with task := .finished, disposed := true }
  | _, _ => none

/-- The operations of the store that neither start, end nor remove a completion. -/
def Event.background : Event → Bool
  | .tick _ | .append .. | .get .. => true
  | _ => false

def raceStep (r : Race catalog) : RaceLabel → Option (Race catalog)
  | .caller l => callerStep env provider sid r l
  | .closer l => closerStep env sid r l
  | .task l => taskStep env provider sid r l
  | .other e => if e.background then r.store env e else none

end Steps

end Mkk.Api
