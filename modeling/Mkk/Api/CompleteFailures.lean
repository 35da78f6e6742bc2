import Mkk.Api.CompleteRows
import Mkk.Api.CompletionLimits

/-!
# What `complete` raises

The failure branch of `complete` reads the summary of the job, which `cancel`, the expiry sweep
and the job itself clear. A start step that fails after that, or a clearing that slips in before
the branch has made its decision, lets a `RuntimeError` out of the endpoint. With neither, and
for a history and a client that `begin_completion` accepts, `complete` raises a `DomainError` or
returns, whatever the repository and the dispatcher answer.
-/

namespace Mkk.Api

open Lib Lib.Lts

/-! ## `begin_completion` -/

section Begin

variable {hashing : Hashing} {config : StoreConfig} {context : SessionRecommendationContext}
  {client : CentralRecommendationClient}

theorem isIdentifierChar_of_hex {c : Char} (h : isHexDigit c = true) : isIdentifierChar c = true := by
  simp only [isHexDigit, Bool.or_eq_true, decide_eq_true_eq] at h
  rcases h with digit | letter
  · simp [isIdentifierChar, isAsciiAlnum, Char.isAlphanum, digit]
  · simp only [List.mem_cons, List.not_mem_nil, or_false] at letter
    rcases letter with rfl | rfl | rfl | rfl | rfl | rfl <;> decide

/-- The digest of a session goes into an identifier. -/
theorem isIdentifier_digest {kind sid : String} (h : isIdentifier kind = true)
    (len : kind.length ≤ 96) : isIdentifier (kind ++ idempotencyDigest hashing config sid) = true := by
  apply isIdentifier_append h
  · intro c hc
    rw [idempotencyDigest, String.toList_ofList] at hc
    exact isIdentifierChar_of_hex (hashing.hexDigits _ c (List.mem_of_mem_take hc))
  · have : (idempotencyDigest hashing config sid).length ≤ 32 := by
      rw [idempotencyDigest, String.length_ofList]
      exact List.length_take_le _ _
    omega

/-- The client names itself within the limits of `RecommendationVersionV2`. -/
structure ClientFits (client : CentralRecommendationClient) : Prop where
  modelId : TextUpTo 128 client.modelId
  modelRevision : isRevision client.modelRevision = true
  promptVersion : isRevision client.promptVersion = true

instance (client : CentralRecommendationClient) : Decidable (ClientFits client) :=
  decidable_of_iff (TextUpTo 128 client.modelId ∧ isRevision client.modelRevision = true ∧
    isRevision client.promptVersion = true)
    ⟨fun h => ⟨h.1, h.2.1, h.2.2⟩, fun h => ⟨h.1, h.2, h.3⟩⟩

variable (hashing config context) in
theorem startIds_ok (fits : ClientFits client) :
    ∃ accepted version, startIds hashing config context client = .ok (accepted, version) := by
  have accepted : ContractModel.FieldsValid
      ({ recommendationId := recommendationId hashing config context.sessionId
         decisionRequestId := decisionRequestId hashing config context.sessionId } :
        RecommendationAcceptedV2) :=
    ⟨isIdentifier_digest (by decide) (by decide), isIdentifier_digest (by decide) (by decide)⟩
  have version : ContractModel.FieldsValid
      ({ modelId := client.modelId, modelRevision := client.modelRevision
         promptVersion := client.promptVersion, featureVersion := featureVersion
         catalogVersion := context.catalogVersion, inputVariant := config.inputVariant } :
        RecommendationVersionV2) :=
    ⟨fits.modelId, fits.modelRevision, fits.promptVersion,
      show isRevision featureVersion = true by decide, context.catalogVersionOk⟩
  exact ⟨_, _, by rw [startIds, construct_ok accepted, construct_ok version]; rfl⟩

/-- **`begin_completion` raises a `DomainError`** for a history and a client that fit. -/
theorem begin_raises {completed : Bool} {s s' : V2SessionState} {now : ℚ} {jobId : String}
    {e : PyError} (client' : ClientFits client)
    (collecting : s.status = .collecting → BufferInv context s ∧ CompletionFits config context s)
    (approved : ∀ m ∈ context.sourceAoiMetadata, m.approvalStatus = .approved)
    (h : s.begin hashing config context client completed now jobId = (.error e, s')) :
    e.isDomain = true := by
  unfold V2SessionState.begin at h
  split at h
  · split at h <;> cases h
    rfl
  · rename_i status
    split at h
    · cases h
      rfl
    · obtain ⟨accepted, version, ids⟩ :=
        startIds_ok hashing config context client'
      rw [ids] at h
      obtain ⟨inv, fits⟩ := collecting (not_not.1 status)
      obtain ⟨job, s₁, hc, -⟩ := conclude_ok now jobId inv approved fits ids
      dsimp only at h
      rw [hc] at h
      cases h

end Begin

theorem getContext_raises {env : StoreEnv} {sid : String} {record : Option Bool} {e : PyError}
    (h : env.getContext sid record = .error e) : e.isDomain = true := by
  unfold StoreEnv.getContext at h
  split at h <;> cases h
  rfl

theorem checkBegin_raises {env : StoreEnv} {sid : String} {record : Option Bool} {e : PyError}
    (h : checkBegin env sid record = .error e) : e.isDomain = true := by
  unfold checkBegin at h
  cases hc : env.getContext sid record with
  | error e' =>
    rw [hc] at h
    cases h
    exact getContext_raises hc
  | ok found =>
    rw [hc] at h
    simp only [bind, Except.bind] at h
    split at h <;> cases h
    rfl

theorem getRecommendation_raises {env : StoreEnv} {states : Sessions} {sid : String}
    {record : Option Bool} {e : PyError} (h : getRecommendation env states sid record = .error e) :
    e.isDomain = true := by
  unfold getRecommendation at h
  cases hc : env.getContext sid record with
  | error e' =>
    rw [hc] at h
    cases h
    exact getContext_raises hc
  | ok found =>
    rw [hc] at h
    simp only [bind, Except.bind] at h
    split at h
    · cases h
      rfl
    · split at h
      · cases h
      · split at h <;> cases h
        rfl

/-! ## The condition -/

section Race

variable {catalog : String → String → Bool} {env : StoreEnv} {provider sid : String}
  {r r' : Race catalog}

/-- A start step fails: `save_pending` or `claim_job` does not answer `True`, or the dispatcher
raises. -/
def StartFails (provider sid : String) (r : Race catalog) (l : RaceLabel) : Prop :=
  match l, r.caller with
  | .caller (.savePending outcome), .begun accepted job =>
    ∃ a, outcome.apply r.table (savePending provider r.table sid accepted job.version) = some a ∧
      a.1 ≠ some true
  | .caller (.claimJob outcome), .saved accepted _ =>
    ∃ a, outcome.apply r.table (claimJob r.table accepted.decisionRequestId) = some a ∧
      a.1 ≠ some true
  | .caller (.submit false), .claimed _ _ => True
  | _, _ => False

/-- The start step of a job that was disposed does not fail, and no job is disposed between a
start step that failed and the decision of the failure branch; `begin_completion` is called for a
history and a client that fit, and the save of a completion without a job does not raise. -/
structure StartGuard (env : StoreEnv) (provider sid : String) (r : Race catalog) (l : RaceLabel) :
    Prop where
  fits : ∀ record client jobId, l = .caller (.begin record client jobId) →
    BeginFits env r.world (.begin sid record client jobId) ∧ ClientFits client
  fails : StartFails provider sid r l → r.disposed = false
  clears : ∀ i accepted job, l = .closer (.clear i) → r.caller = .failing accepted job →
    ∀ c ∈ r.closers[i]?, c.job.isSome = true → c.job ≠ r.job
  stores : ∀ outcome, l = .caller (.saveRead outcome) → outcome ≠ .raised

/-! ## The invariant -/

/-- The job of a call that has not left its `try` block. -/
def Caller.job : Caller → Option CompletionJob
  | .begun _ job | .saved _ job | .claimed _ job | .failing _ job => some job
  | _ => none

structure CallerInv (env : StoreEnv) (r : Race catalog) : Prop where
  world : NoneStuck r.world ∧ Tracked env r.world
  raised : ∀ e, r.caller = .raised e → e.isDomain = true
  ids : ∀ job, r.caller.job = some job → ContractModel.FieldsValid job.accepted
  early : r.caller.unsubmitted = true → r.task = .absent
  undisposed : ∀ accepted job, r.caller = .failing accepted job → r.disposed = false

theorem store_fits {e : Event} (h : r.store env e = some r') (fits : BeginFits env r.world e)
    (world : NoneStuck r.world ∧ Tracked env r.world) :
    NoneStuck r'.world ∧ Tracked env r'.world := by
  obtain ⟨w, hw, rfl⟩ := store_eq_some h
  exact ⟨world.1.step world.2 fits hw, world.2.step hw⟩

/-- A step that leaves the caller and its job alone. -/
theorem CallerInv.aside (inv : CallerInv env r) (world : NoneStuck r'.world ∧ Tracked env r'.world)
    (caller : r'.caller = r.caller) (early : r.caller.unsubmitted = true → r'.task = .absent)
    (undisposed : ∀ accepted job, r.caller = .failing accepted job → r'.disposed = false) :
    CallerInv env r' where
  world := world
  raised := by
    rw [caller]
    exact inv.raised
  ids := by
    rw [caller]
    exact inv.ids
  early := by
    rw [caller]
    exact early
  undisposed := by
    rw [caller]
    exact undisposed

/-- The caller goes on. -/
theorem CallerInv.goOn (inv : CallerInv env r) {caller : Caller} {w : World} {table : JobTable catalog}
    (world : NoneStuck w ∧ Tracked env w) (raised : ∀ e, caller = .raised e → e.isDomain = true)
    (ids : ∀ job, caller.job = some job → r.caller.job = some job)
    (early : caller.unsubmitted = true → r.caller.unsubmitted = true)
    (undisposed : ∀ accepted job, caller = .failing accepted job → r.disposed = false) :
    CallerInv env { r with world := w, table := table, caller := caller } where
  world := world
  raised := raised
  ids job h := inv.ids job (ids job h)
  early h := inv.early (early h)
  undisposed := undisposed

theorem CallerInv.closerStep (inv : CallerInv env r) {l : CloserStep}
    (guard : StartGuard env provider sid r (.closer l)) (h : closerStep env sid r l = some r') :
    CallerInv env r' := by
  cases l with
  | cancel record =>
    change r.remove env sid .cancel (.cancel sid record) = some r' at h
    obtain ⟨r₁, h₁, rfl⟩ := Option.map_eq_some_iff.1 h
    have world := store_fits h₁ trivial inv.world
    obtain ⟨w, -, rfl⟩ := store_eq_some h₁
    exact inv.aside world rfl inv.early inv.undisposed
  | sweep now =>
    change r.remove env sid .expiry (.sweep now) = some r' at h
    obtain ⟨r₁, h₁, rfl⟩ := Option.map_eq_some_iff.1 h
    have world := store_fits h₁ trivial inv.world
    obtain ⟨w, -, rfl⟩ := store_eq_some h₁
    exact inv.aside world rfl inv.early inv.undisposed
  | clear i =>
    obtain ⟨c, hi, h⟩ := Option.bind_eq_some_iff.1 h
    split at h
    · cases h
    · cases h
      refine inv.aside inv.world rfl inv.early ?_
      intro accepted job failing
      have kept := guard.clears i accepted job rfl failing c hi
      simp only [inv.undisposed accepted job failing, Bool.false_or, Bool.and_eq_false_iff,
        decide_eq_false_iff_not]
      by_cases some : c.job.isSome = true
      · exact .inr (kept some)
      · exact .inl (by simpa using some)
  | close i outcome =>
    obtain ⟨c, hi, h⟩ := Option.bind_eq_some_iff.1 h
    split at h
    · obtain ⟨answer, t, -, rfl⟩ := repository_eq_some h
      exact inv.aside inv.world rfl inv.early inv.undisposed
    · cases h

theorem CallerInv.taskStep (inv : CallerInv env r) {l : TaskStep}
    (h : taskStep env provider sid r l = some r') : CallerInv env r' := by
  have there : r.task ≠ .absent := by
    intro absent
    unfold Mkk.Api.taskStep at h
    rw [absent] at h
    cases l <;> cases h
  have late : ¬ r.caller.unsubmitted = true := fun h => there (inv.early h)
  have notFailing : ∀ accepted job, r.caller ≠ .failing accepted job := by
    intro accepted job h
    exact late (by rw [h]; rfl)
  have aside {r' : Race catalog} (world : NoneStuck r'.world ∧ Tracked env r'.world)
      (caller : r'.caller = r.caller) : CallerInv env r' :=
    inv.aside world caller (fun h => absurd h late) fun a j h => absurd h (notFailing a j)
  unfold Mkk.Api.taskStep at h
  split at h
  · cases h
    exact aside inv.world rfl
  · split at h <;> cases h
    · exact aside inv.world rfl
    · exact aside inv.world rfl
  · cases h
    exact aside inv.world rfl
  · cases h
    exact aside inv.world rfl
  · rename_i job reply decision htask
    obtain ⟨r₁, h₁, rfl⟩ := Option.map_eq_some_iff.1 h
    have world := store_fits h₁ trivial inv.world
    obtain ⟨w, -, rfl⟩ := store_eq_some h₁
    cases (activeState r.world.states job).isSome with
    | true => exact aside world rfl
    | false => exact aside world rfl
  · obtain ⟨answer, t, -, rfl⟩ := repository_eq_some h
    exact aside inv.world rfl
  · cases h

/-- `begin_completion` in a race. -/
theorem beginCompletion_raises {w : World} {record : Option Bool}
    {client : CentralRecommendationClient} {jobId : String} {states' : Sessions} {e : PyError}
    (tracked : Tracked env w) (fits : BeginFits env w (.begin sid record client jobId))
    (clientFits : ClientFits client)
    (h : beginCompletion env w.states w.clock sid record client jobId = (.error e, states')) :
    e.isDomain = true := by
  rcases beginCompletion_cases env h with
    ⟨e', checked, he, -⟩ | ⟨context, completed, s', checked, hb, -⟩
  · cases he
    exact checkBegin_raises checked
  · obtain ⟨hcontext, -, approved⟩ := checkBegin_eq_ok env checked
    refine begin_raises clientFits (fun status => ?_) approved hb
    obtain ⟨parts, tracks⟩ := tracked.current hcontext status
    exact ⟨tracks.bufferInv, fits context hcontext status⟩

theorem CallerInv.began (inv : CallerInv env r) (absent : r.task = .absent) {record : Option Bool}
    {client : CentralRecommendationClient} {jobId : String} {w : World}
    (fits : BeginFits env r.world (.begin sid record client jobId)) (clientFits : ClientFits client)
    (world : NoneStuck w ∧ Tracked env w) {begun : Except PyError Begun × Sessions}
    (hb : beginCompletion env r.world.states r.world.clock sid record client jobId = begun) :
    CallerInv env { r with
      world := w, caller := .ofBegun begun.1, job := jobOfBegun begun.1 } := by
  obtain ⟨result, states'⟩ := begun
  have next (caller : Caller) (job : Option CompletionJob)
      (raised : ∀ e, caller = .raised e → e.isDomain = true)
      (ids : ∀ j, caller.job = some j → ContractModel.FieldsValid j.accepted)
      (trying : ∀ accepted j, caller ≠ .failing accepted j) :
      CallerInv env { r with world := w, caller := caller, job := job } :=
    ⟨world, raised, ids, fun _ => absent, fun a j h => absurd h (trying a j)⟩
  rcases result with e | ⟨accepted, job⟩
  · refine next (.raised e) none ?_ (fun _ h => by cases h) fun _ _ h => by cases h
    intro e' h
    cases h
    exact beginCompletion_raises inv.world.2 fits clientFits hb
  · cases job with
    | none =>
      exact next (.concluded accepted) none (fun _ h => by cases h) (fun _ h => by cases h)
        fun _ _ h => by cases h
    | some job =>
      refine next (.begun accepted job) (some job) (fun _ h => by cases h) ?_ fun _ _ h => by cases h
      intro j h
      cases h
      exact (beginCompletion_sound hb).ids

/-- The failure branch finds a decision on a job that still has its summary. -/
theorem startFailure_ok {job : CompletionJob} (ids : ContractModel.FieldsValid job.accepted) :
    ∃ decision, job.startFailure = .ok decision :=
  ⟨_, decideWithoutProduct_ok ids (by decide +kernel) (by decide) _ _⟩

theorem CallerInv.callerStep (inv : CallerInv env r) {l : CallerStep}
    (guard : StartGuard env provider sid r (.caller l))
    (h : callerStep env provider sid r l = some r') : CallerInv env r' := by
  have fails := guard.fails
  unfold StartFails at fails
  unfold Mkk.Api.callerStep at h
  split at h
  · -- notReady
    cases h
    exact inv.goOn inv.world (fun e h => by cases h; rfl) (fun _ h => by cases h)
      (fun h => by cases h) fun _ _ h => by cases h
  · -- begin
    rename_i record client jobId hcaller
    have absent := inv.early (by rw [hcaller]; rfl)
    obtain ⟨fits, clientFits⟩ := guard.fits record client jobId rfl
    obtain ⟨r₁, h₁, rfl⟩ := Option.map_eq_some_iff.1 h
    have world := store_fits h₁ fits inv.world
    obtain ⟨w, hw, rfl⟩ := store_eq_some h₁
    exact inv.began absent fits clientFits world rfl
  · -- savePending
    rename_i outcome accepted job hcaller
    rw [hcaller] at fails
    obtain ⟨answer, t, ha, rfl⟩ := repository_eq_some h
    by_cases won : answer = some true
    · rw [if_pos won]
      exact inv.goOn inv.world (fun _ h => by cases h) (fun _ h => by rw [hcaller]; exact h)
        (fun _ => by rw [hcaller]; rfl) fun _ _ h => by cases h
    · rw [if_neg won]
      exact inv.goOn inv.world (fun _ h => by cases h) (fun _ h => by rw [hcaller]; exact h)
        (fun _ => by rw [hcaller]; rfl) fun _ _ _ => fails ⟨_, ha, won⟩
  · -- claimJob
    rename_i outcome accepted job hcaller
    rw [hcaller] at fails
    obtain ⟨answer, t, ha, rfl⟩ := repository_eq_some h
    by_cases won : answer = some true
    · rw [if_pos won]
      exact inv.goOn inv.world (fun _ h => by cases h) (fun _ h => by rw [hcaller]; exact h)
        (fun _ => by rw [hcaller]; rfl) fun _ _ h => by cases h
    · rw [if_neg won]
      exact inv.goOn inv.world (fun _ h => by cases h) (fun _ h => by rw [hcaller]; exact h)
        (fun _ => by rw [hcaller]; rfl) fun _ _ _ => fails ⟨_, ha, won⟩
  · -- submit
    cases h
    exact ⟨inv.world, fun _ h => (by cases h), fun _ h => (by cases h), fun h => (by cases h),
      fun _ _ h => by cases h⟩
  · -- submit raised
    rename_i accepted job hcaller
    rw [hcaller] at fails
    cases h
    exact inv.goOn inv.world (fun _ h => by cases h) (fun _ h => by rw [hcaller]; exact h)
      (fun _ => by rw [hcaller]; rfl) fun _ _ _ => fails trivial
  · -- register
    obtain ⟨r₁, h₁, rfl⟩ := Option.map_eq_some_iff.1 h
    have world := store_fits h₁ trivial inv.world
    obtain ⟨w, -, rfl⟩ := store_eq_some h₁
    exact inv.goOn world (fun _ h => by cases h) (fun _ h => by cases h) (fun h => by cases h)
      fun _ _ h => by cases h
  · -- startFailure
    rename_i accepted job hcaller
    have undisposed := inv.undisposed accepted job hcaller
    obtain ⟨decision, hdecision⟩ := startFailure_ok (inv.ids job (by rw [hcaller]; rfl))
    rw [if_neg (by rw [undisposed]; decide), hdecision] at h
    cases h
    exact inv.goOn inv.world (fun _ h => by cases h) (fun _ h => by cases h)
      (fun _ => by rw [hcaller]; rfl) fun _ _ h => by cases h
  · -- failJob
    rename_i outcome accepted job decision hcaller
    obtain ⟨answer, t, -, rfl⟩ := repository_eq_some h
    exact inv.goOn inv.world (fun _ h => by cases h) (fun _ h => by cases h)
      (fun _ => by rw [hcaller]; rfl) fun _ _ h => by cases h
  · -- commitFailure
    rename_i accepted job decision hcaller
    obtain ⟨r₁, h₁, rfl⟩ := Option.map_eq_some_iff.1 h
    have world := store_fits h₁ trivial inv.world
    obtain ⟨w, -, rfl⟩ := store_eq_some h₁
    cases (activeState r.world.states job).isSome with
    | true =>
      show CallerInv env { r with world := w, caller := .publishing accepted decision }
      exact inv.goOn world (fun _ h => by cases h)
        (fun _ h => by cases h) (fun _ => by rw [hcaller]; rfl) fun _ _ h => by cases h
    | false =>
      show CallerInv env { r with world := w, caller := .returned accepted }
      exact inv.goOn world (fun _ h => by cases h)
        (fun _ h => by cases h) (fun h => by cases h) fun _ _ h => by cases h
  · -- saveFailure
    obtain ⟨answer, t, -, rfl⟩ := repository_eq_some h
    exact inv.goOn inv.world (fun _ h => by cases h) (fun _ h => by cases h) (fun h => by cases h)
      fun _ _ h => by cases h
  · -- read
    rename_i record accepted hcaller
    obtain ⟨r₁, h₁, rfl⟩ := Option.map_eq_some_iff.1 h
    have world := store_fits h₁ trivial inv.world
    obtain ⟨w, -, rfl⟩ := store_eq_some h₁
    have unsubmitted : r.caller.unsubmitted = true := by rw [hcaller]; rfl
    dsimp only
    split
    · rename_i e he
      exact inv.goOn world (fun _ h => by cases h; exact getRecommendation_raises he)
        (fun _ h => by cases h) (fun h => by cases h) fun _ _ h => by cases h
    · exact inv.goOn world (fun _ h => by cases h) (fun _ h => by cases h) (fun h => by cases h)
        fun _ _ h => by cases h
    · exact inv.goOn world (fun _ h => by cases h) (fun _ h => by cases h) (fun _ => unsubmitted)
        fun _ _ h => by cases h
  · -- saveRead
    rename_i outcome accepted decision hcaller
    obtain ⟨answer, t, ha, rfl⟩ := repository_eq_some h
    cases answer with
    | none =>
      have raised := guard.stores outcome rfl
      cases outcome with
      | ran now =>
        simp only [Outcome.apply] at ha
        split at ha <;> cases ha
      | answered b => cases ha
      | raised => exact absurd rfl raised
    | some b =>
      exact inv.goOn inv.world (fun _ h => by cases h) (fun _ h => by cases h) (fun h => by cases h)
        fun _ _ h => by cases h
  · cases h

theorem CallerInv.step (inv : CallerInv env r) {l : RaceLabel}
    (guard : StartGuard env provider sid r l) (h : raceStep env provider sid r l = some r') :
    CallerInv env r' := by
  cases l with
  | caller l => exact inv.callerStep guard h
  | closer l => exact inv.closerStep guard h
  | task l => exact inv.taskStep h
  | other e =>
    simp only [raceStep] at h
    split at h
    · rename_i background
      have fits : BeginFits env r.world e := by
        cases e with
        | begin => cases background
        | _ => trivial
      have world := store_fits h fits inv.world
      obtain ⟨w, -, rfl⟩ := store_eq_some h
      exact inv.aside world rfl inv.early inv.undisposed
    · cases h

/-- **Only `DomainError`s escape.** In every interleaving that meets the guard, whatever the
repository and the dispatcher answer, `complete` ends in a `DomainError` or returns, and its
failure branch never reads a job whose summary was cleared. -/
theorem complete_raises_domain {es : List Event} {r₀ : Race catalog} {ls : List RaceLabel}
    (before : Steps (Mkk.Api.step env) (BeginFits env) {} es r₀.world) (idle : r₀.caller = .idle)
    (unsubmitted : r₀.task = .absent)
    (run : Steps (raceStep env provider sid) (StartGuard env provider sid) r₀ ls r) :
    (∀ e, r.caller = .raised e → e.isDomain = true) ∧
      ∀ accepted job, r.caller = .failing accepted job → r.disposed = false := by
  have initial : CallerInv env r₀ := by
    refine ⟨NoneStuck.of_run before, ?_, ?_, fun _ => unsubmitted, ?_⟩
    · intro e h
      rw [idle] at h
      cases h
    · intro job h
      rw [idle] at h
      cases h
    · intro accepted job h
      rw [idle] at h
      cases h
  have inv := run.invariant (fun _ _ _ inv guard h => inv.step guard h) initial
  exact ⟨inv.raised, inv.undisposed⟩

end Race

/-! ## A failure after the job was cleared -/

/-- The session is cancelled between `save_pending` and `claim_job`. -/
def cancelledBetween : List RaceLabel :=
  [beginGlance, .caller (.savePending (.ran 1)), .closer (.cancel (some false)), .closer (.clear 0),
    .closer (.close 0 (.ran 2)), .caller (.claimJob (.ran 3)), .caller .startFailure]

/-- `claim_job` finds the row cancelled, and a `RuntimeError` leaves `complete`. -/
theorem complete_raises_runtimeError : ∃ r₀ : Race (fun _ _ => true), ∃ ls r e,
    Reachable (smallEnv .c false) r₀.world ∧ r₀.caller = .idle ∧ r₀.task = .absent ∧
      Steps (raceStep (smallEnv .c false) "self_hosted" "session-0001") (fun _ l => RepositoryRuns l)
        r₀ ls r ∧
      r.caller = .raised e ∧ e.isDomain = false := by
  have executed : (runWhile (raceStep (smallEnv .c false) "self_hosted" "session-0001")
      (fun _ l => l.outcome.all Outcome.hasRun) glancedRace cancelledBetween).any
        (fun r => decide (r.caller =
          .raised (.runtimeError "completion evidence was already disposed"))) = true := by
    decide +kernel
  obtain ⟨r, run, raised⟩ := exists_guarded_steps_of_any _
    (fun _ _ h => repositoryRuns_of_all h) executed
  exact ⟨glancedRace, cancelledBetween, r, _, glancedRace_reachable, rfl, rfl, run,
    of_decide_eq_true raised, rfl⟩

/-- A test for `StartGuard` in a run without a cleared job. -/
def startsInTime (r : Race (fun _ _ => true)) (l : RaceLabel) : Bool :=
  !r.disposed && match l with
    | .caller (.begin _ client _) =>
      plainHistory r.world "session-0001" && decide (ClientFits client)
    | .caller (.saveRead _) | .closer (.clear _) => false
    | _ => true

theorem startsInTime_spec (r : Race (fun _ _ => true)) (l : RaceLabel)
    (h : startsInTime r l = true) : StartGuard (smallEnv .c false) "self_hosted" "session-0001" r l := by
  obtain ⟨undisposed, h⟩ := Bool.and_eq_true_iff.1 h
  refine ⟨?_, fun _ => by simpa using undisposed, ?_, ?_⟩
  · rintro record client jobId rfl
    obtain ⟨plain, client⟩ := Bool.and_eq_true_iff.1 h
    exact ⟨beginFits_of_plain plain, of_decide_eq_true client⟩
  · rintro i accepted job rfl
    cases h
  · rintro outcome rfl
    cases h

/-- The repository is down, and `complete` returns. -/
def repositoryDown : List RaceLabel :=
  [beginGlance, .caller (.savePending .raised), .caller .startFailure, .caller (.failJob .raised),
    .caller .commitFailure, .caller (.saveFailure .raised)]

theorem complete_raises_domain_down : ∃ r : Race (fun _ _ => true),
    (∃ accepted, r.caller = .returned accepted) ∧
      ∀ e, r.caller = .raised e → e.isDomain = true := by
  have executed : (runWhile (raceStep (smallEnv .c false) "self_hosted" "session-0001")
      startsInTime glancedRace repositoryDown).any
        (fun r => match r.caller with | .returned _ => true | _ => false) = true := by
    decide +kernel
  obtain ⟨r, run, returned⟩ := exists_guarded_steps_of_any _ startsInTime_spec executed
  have before : Steps (step (smallEnv .c false)) (BeginFits (smallEnv .c false)) {}
      [.append "session-0001" (some false) glanceBatch] glancedRace.world :=
    .single trivial rfl
  refine ⟨r, ?_, (complete_raises_domain before rfl rfl run).1⟩
  split at returned
  · rename_i accepted h
    exact ⟨accepted, h⟩
  · cases returned

end Mkk.Api
