import Mkk.Api.StoreSteps

/-!
# The store's threads

Every operation of `V2RecommendationStore` runs in a thread of its own. Its sections under the store's
lock are events of `Api.step`; between them any other thread can run. What `cleanup_expired` and `cancel`
do once they have removed sessions, and `run_completion` when it ends, happens outside the lock. A
`CompletionJob` is an object the threads share: `clear_transient` resets its request and its summary for
all of them. Repository, dispatcher and model answer as they like.
-/

namespace Mkk.Api

open Lib

/-! ## Threads -/

/-- What a `CompletionJob` still holds, and the thread whose `begin_completion` made it. -/
structure JobObject where
  request : Option CentralRecommendationRequestV2
  summary : Option EvidenceSummary
  maker : ℕ
  deriving DecidableEq

def JobObject.Cleared (o : JobObject) : Prop := o.request = none ∧ o.summary = none

instance (o : JobObject) : Decidable o.Cleared := inferInstanceAs (Decidable (_ ∧ _))

/-- `CompletionJob.clear_transient` -/
def JobObject.clearTransient (o : JobObject) : JobObject := { o with request := none, summary := none }

/-- What remains to be done for a session that was removed. -/
inductive ClosingStep where
  | cancelHandle (handle : JobHandle)
  | clear (jobId : String)
  /-- `fail_job` and `mark_cancelled`, whose exceptions are ignored. -/
  | closeRow (decisionRequestId : String)
  deriving DecidableEq

/-- A call of `cleanup_expired` or `cancel` that has removed its sessions. -/
structure Closing where
  call : ℕ
  left : List ClosingStep
  deriving DecidableEq

/-- Where an operation stands. -/
inductive Body where
  | returned
  /-- About to call `cleanup_expired`. -/
  | sweep (next : Body)
  | checkAppend (sessionId : String) (record : Option Bool) (batch : ObservationBatchV2)
  | append (sessionId : String) (record : Option Bool) (batch : ObservationBatchV2)
  /-- `begin_completion`, of `complete` if the job is to be dispatched. -/
  | checkBegin (sessionId : String) (record : Option Bool) (client : CentralRecommendationClient)
      (dispatch : Bool)
  | begin (sessionId : String) (record : Option Bool) (client : CentralRecommendationClient)
      (dispatch : Bool)
  | savePending (job : CompletionJob)
  | claimJob (job : CompletionJob)
  | submit (job : CompletionJob)
  | register (job : CompletionJob)
  /-- The `except` branch of `complete`. -/
  | startFailure (job : CompletionJob)
  | failJob (job : CompletionJob)
  | commitFailure (job : CompletionJob)
  | saveFailure
  | read (sessionId : String) (record : Option Bool)
  | saveRead
  | cancel (sessionId : String) (record : Option Bool)
  /-- `run_completion` before its first statement. -/
  | queued (job : CompletionJob)
  | running (job : CompletionJob)
  | commit (job : CompletionJob) (reply : ModelReply)
  | saveDecision (job : CompletionJob)
  /-- The `finally` of `run_completion`. -/
  | finishing (job : CompletionJob)
  deriving DecidableEq

structure Thread where
  closing : Option Closing := none
  body : Body
  deriving DecidableEq

/-- The store, the jobs and the threads; `deactivations` records which call has ended which active job,
and `startFailed` the jobs that were given up because they could not be dispatched. -/
structure Service where
  world : World := {}
  objects : Dict String JobObject := Dict.empty
  threads : List Thread := []
  handed : List String := []
  startFailed : List String := []
  calls : ℕ := 0
  deactivations : List (String × ℕ) := []
  deriving DecidableEq

/-- What a thread learns in a step. -/
inductive Answer where
  | proceeds
  /-- The clock reading of `cleanup_expired`. -/
  | reading (now : ℚ)
  /-- `uuid4().hex` -/
  | drawn (jobId : String)
  /-- A call of the repository or the dispatcher returned `True`, or it did not. -/
  | succeeds (b : Bool)
  | reply (reply : ModelReply)
  | cancelled
  deriving DecidableEq

inductive ServiceMove where
  | tick (duration : ℚ)
  | arrive (body : Body)
  | run (i : ℕ) (answer : Answer)
  deriving DecidableEq

/-! ## Their steps -/

section Steps

variable (env : StoreEnv)

/-- A section under the store's lock. -/
def Service.store (s : Service) (e : Event) : Option Service :=
  (step env s.world e).map fun w => { s with world := w }

def Service.clear (s : Service) (jobId : String) : Service :=
  match s.objects.get? jobId with
  | some o => { s with objects := s.objects.set jobId o.clearTransient }
  | none => s

/-- A job that `begin_completion` returned to a thread. -/
def Service.made (s : Service) (job : CompletionJob) (i : ℕ) : Service :=
  { s with objects := s.objects.set job.jobId ⟨some job.request, some job.summary, i⟩ }

/-- The sessions that are gone. -/
def goneSessions (before after : Sessions) : List (String × V2SessionState) :=
  before.entries.filter fun e => (after.get? e.1).isNone

/-- What `cancel` leaves to be done for a session it has removed. -/
def cancelClosing (s : V2SessionState) : List ClosingStep :=
  (s.activeJobHandle.map .cancelHandle).toList ++
    (s.activeJob.map fun job => .clear job.jobId).toList ++
    (s.accepted.map fun a => .closeRow a.decisionRequestId).toList

/-- The entry of `orphaned_jobs` of a session `cleanup_expired` has removed. -/
def orphanClosing (s : V2SessionState) : List ClosingStep :=
  if s.status = .pending then
    match s.accepted with
    | some a => (s.activeJob.map fun job => .clear job.jobId).toList ++ [.closeRow a.decisionRequestId]
    | none => []
  else []

/-- What `cleanup_expired` leaves to be done: the handles come first. -/
def sweepClosing (gone : List (String × V2SessionState)) : List ClosingStep :=
  gone.filterMap (fun e => e.2.activeJobHandle.map .cancelHandle) ++
    gone.flatMap fun e => orphanClosing e.2

/-- Sessions are removed by a section under the lock; the rest is left to the thread. -/
def Service.remove (s : Service) (e : Event)
    (closing : List (String × V2SessionState) → List ClosingStep) (next : Body) :
    Option (Service × Thread) :=
  (s.store env e).map fun s' =>
    let gone := goneSessions s.world.states s'.world.states
    ({ s' with
        calls := s.calls + 1
        deactivations := gone.filterMap (fun e => e.2.activeJobId.map fun id => (id, s.calls)) ++
          s.deactivations },
      ⟨some ⟨s.calls, closing gone⟩, next⟩)

/-- `_commit_terminal` after its sweep; the flag says whether the decision was published. -/
def Service.commit (s : Service) (job : CompletionJob) (jobEnd : JobEnd) (next : Bool → Body) :
    Option (Service × Thread) :=
  (s.store env (.commit job jobEnd)).map fun s' =>
    let published := (activeState s.world.states job).isSome
    ({ s' with
        calls := s.calls + 1
        deactivations := if published then (job.jobId, s.calls) :: s.deactivations
          else s.deactivations },
      ⟨none, next published⟩)

/-- A step of the operation of thread `i` outside a closing call. -/
def bodyStep (s : Service) (i : ℕ) : Body → Answer → Option (Service × Thread)
  | .sweep next, .reading now => s.remove env (.sweep now) sweepClosing next
  | .checkAppend sid record batch, .proceeds =>
    some (s, ⟨none, match checkBatch env sid record batch with
      | .error _ => .returned
      | .ok _ => .sweep (.append sid record batch)⟩)
  | .append sid record batch, .proceeds =>
    (s.store env (.append sid record batch)).map fun s' => (s', ⟨none, .returned⟩)
  | .checkBegin sid record client dispatch, .proceeds =>
    some (s, ⟨none, match checkBegin env sid record with
      | .error _ => .returned
      | .ok _ => .sweep (.begin sid record client dispatch)⟩)
  | .begin sid record client dispatch, .drawn jobId =>
    (s.store env (.begin sid record client jobId)).map fun s' =>
      match (beginCompletion env s.world.states s.world.clock sid record client jobId).1 with
      | .error _ => (s', ⟨none, .returned⟩)
      | .ok (_, none) => (s', ⟨none, if dispatch then .sweep (.read sid record) else .returned⟩)
      | .ok (_, some job) =>
        (s'.made job i, ⟨none, if dispatch then .savePending job else .returned⟩)
  | .savePending job, .succeeds b => some (s, ⟨none, if b then .claimJob job else .startFailure job⟩)
  | .claimJob job, .succeeds b => some (s, ⟨none, if b then .submit job else .startFailure job⟩)
  | .submit job, .succeeds true =>
    some ({ s with
        handed := job.jobId :: s.handed
        threads := s.threads ++ [⟨none, .queued job⟩] },
      ⟨none, .register job⟩)
  | .submit job, .succeeds false => some (s, ⟨none, .startFailure job⟩)
  | .register job, .proceeds =>
    (s.store env (.register job)).map fun s' => (s', ⟨none, .returned⟩)
  | .startFailure job, .proceeds =>
    -- a job without its summary raises `RuntimeError`
    some (s, ⟨none, match (s.objects.get? job.jobId).bind (·.summary), job.startFailure with
      | some _, .ok _ => .failJob job
      | _, _ => .returned⟩)
  | .failJob job, .succeeds _ => some (s, ⟨none, .sweep (.commitFailure job)⟩)
  | .commitFailure job, .proceeds =>
    ({ s with startFailed := job.jobId :: s.startFailed }).commit env job .startFailed fun published =>
      if published then .saveFailure else .returned
  | .saveFailure, .succeeds _ => some (s, ⟨none, .returned⟩)
  | .read sid record, .proceeds =>
    (s.store env (.get sid record)).map fun s' =>
      (s', ⟨none, match getRecommendation env s.world.states sid record with
        | .ok (.decided _) => .saveRead
        | _ => .returned⟩)
  | .saveRead, .succeeds _ => some (s, ⟨none, .returned⟩)
  | .cancel sid record, .proceeds =>
    s.remove env (.cancel sid record) (fun gone => gone.flatMap fun e => cancelClosing e.2) .returned
  | .queued job, .proceeds =>
    some (s, ⟨none, match s.objects.get? job.jobId with
      | some ⟨some _, some _, _⟩ => .running job
      | _ => .finishing job⟩)
  | .queued _, .cancelled => some (s, ⟨none, .returned⟩)
  | .running job, .reply reply =>
    some (s, ⟨none, match job.run env.casefold reply with
      | .error _ => .finishing job
      | .ok _ => .sweep (.commit job reply)⟩)
  | .running job, .cancelled => some (s, ⟨none, .finishing job⟩)
  | .commit job reply, .proceeds =>
    s.commit env job (.reply reply) fun published =>
      if published then .saveDecision job else .finishing job
  | .saveDecision job, .succeeds _ => some (s, ⟨none, .finishing job⟩)
  | .finishing job, .proceeds => some (s.clear job.jobId, ⟨none, .returned⟩)
  | _, _ => none

/-- A step of a closing call. A cancelled task learns of it at its next `await`, where it may be
cancelled anyway. -/
def Service.close (s : Service) : ClosingStep → Service
  | .cancelHandle _ => s
  | .clear jobId => s.clear jobId
  | .closeRow _ => s

/-- A step of a thread. -/
def threadStep (s : Service) (i : ℕ) (t : Thread) (answer : Answer) : Option (Service × Thread) :=
  match t.closing with
  | some ⟨call, closing :: left⟩ => some (s.close closing, ⟨some ⟨call, left⟩, t.body⟩)
  | some ⟨_, []⟩ => some (s, ⟨none, t.body⟩)
  | none => bodyStep env s i t.body answer

/-- What a request, the maintenance loop or whoever holds a job can call. -/
def Body.isCall (w : World) : Body → Bool
  | .checkAppend .. | .checkBegin .. | .cancel .. => true
  | .sweep .returned | .sweep (.read ..) => true
  | .queued job => decide (job ∈ w.jobs)
  | _ => false

def serviceStep (s : Service) : ServiceMove → Option Service
  | .tick duration => s.store env (.tick duration)
  | .arrive body =>
    if body.isCall s.world then some { s with threads := s.threads ++ [⟨none, body⟩] } else none
  | .run i answer =>
    match s.threads[i]? with
    | none => none
    | some t => (threadStep env s i t answer).map fun (s', t') =>
      { s' with threads := s'.threads.set i t' }

end Steps

end Mkk.Api
