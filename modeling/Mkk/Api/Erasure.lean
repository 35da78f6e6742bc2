import Mkk.Api.Threads
import Mkk.Api.Publication

/-!
# Erasure

Only a collecting session holds what a client sent, and only the active job of a pending session can be
reached from the store. A job that is no longer active and still has its evidence is owed a
`clear_transient`: by the call that removed its session, or by its own `run_completion`. So no handed-out
job keeps its evidence once both have returned (`evidence_erased`).
-/

namespace Mkk.Api

open Lib

/-! ## Sessions -/

/-- What a session may hold, given the jobs that were handed out. -/
structure V2SessionState.Erased (jobs : List CompletionJob) (s : V2SessionState) : Prop where
  quiet : s.status ≠ .collecting → s.observations = Dict.empty ∧
    s.resolvedSourceHits = Dict.empty ∧ s.batchFingerprints = Dict.empty
  job : ∀ job, s.activeJob = some job → s.activeJobId = some job.jobId
  handle : ∀ handle, s.activeJobHandle = some handle →
    s.activeJobId = some handle.jobId ∧ s.activeJob.isSome = true
  pending : s.activeJobId.isSome = true → s.status = .pending ∧ s.accepted.isSome = true
  known : ∀ job ∈ jobs, s.activeJobId = some job.jobId → s.activeJob.isSome = true

def SessionsErased (w : World) : Prop :=
  ∀ sid s, w.states.get? sid = some s → s.Erased w.jobs

/-- Some session is pending for the job. -/
def World.Active (w : World) (id : String) : Prop :=
  ∃ sid s, w.states.get? sid = some s ∧ s.activeJobId = some id

/-- The operations that remove sessions. -/
def Event.removes : Event → Bool
  | .sweep _ | .cancel .. => true
  | _ => false

section Sessions

variable {env : StoreEnv} {w w' : World} {e : Event} {sid id : String} {s s' : V2SessionState}
  {jobs jobs' : List CompletionJob}

theorem V2SessionState.Erased.mono (h : s.Erased jobs)
    (new : ∀ job ∈ jobs', job ∈ jobs ∨ s.activeJobId ≠ some job.jobId) : s.Erased jobs' :=
  { h with
    known := fun job member active =>
      h.known job ((new job member).resolve_right (not_not.2 active)) active }

theorem erased_fresh (config : StoreConfig) (now : ℚ) :
    (V2SessionState.fresh config now).Erased jobs where
  quiet status := (status rfl).elim
  job _ h := nomatch h
  handle _ h := nomatch h
  pending h := nomatch h
  known _ _ h := nomatch h

/-- A collecting session has no job. -/
theorem V2SessionState.Erased.idle (h : s.Erased jobs) (status : s.status = .collecting) :
    s.activeJobId = none ∧ s.activeJob = none ∧ s.activeJobHandle = none := by
  have id : s.activeJobId = none := by
    cases active : s.activeJobId with
    | none => rfl
    | some id =>
      have pending := (h.pending (by rw [active]; rfl)).1
      rw [status] at pending
      cases pending
  refine ⟨id, ?_, ?_⟩
  · cases active : s.activeJob with
    | none => rfl
    | some job => rw [h.job job active] at id; cases id
  · cases active : s.activeJobHandle with
    | none => rfl
    | some handle => rw [(h.handle handle active).1] at id; cases id

theorem currentState_erased (inv : SessionsErased w) (sid : String) :
    (currentState env w sid).Erased w.jobs := by
  cases found : w.states.get? sid with
  | none => rw [currentState_absent found]; exact erased_fresh _ _
  | some s => rw [currentState_present found]; exact inv sid s found

/-- What `begin_completion` makes of a session, with the job it hands out. -/
theorem erased_begins {hashing : Hashing} {config : StoreConfig}
    {context : SessionRecommendationContext} {client : CentralRecommendationClient} {completed : Bool}
    {now : ℚ} {jobId : String} {result : Except PyError Begun} (h : s.Erased jobs)
    (undrawn : ∀ job ∈ jobs, job.jobId ≠ jobId)
    (begins : Begins hashing config context client completed now jobId s result s') :
    s'.Erased (handedOut result ++ jobs) := by
  cases begins with
  | refused => exact h
  | again => exact h
  | stuck e accepted version status incomplete ids id drawn =>
    obtain ⟨noId, noJob, noHandle⟩ := h.idle status
    exact {
      quiet := fun _ => ⟨rfl, rfl, rfl⟩
      job := fun job active => by
        change s.activeJob = some job at active
        rw [noJob] at active
        cases active
      handle := fun handle active => by
        change s.activeJobHandle = some handle at active
        rw [noHandle] at active
        cases active
      pending := fun _ => ⟨rfl, rfl⟩
      known := fun job member active => by
        change id = some job.jobId at active
        rcases drawn with drawn | drawn
        · rw [drawn, noId] at active
          cases active
        · rw [drawn] at active
          exact (undrawn job member (Option.some.inj active).symm).elim }
  | decided accepted version decision status incomplete ids own =>
    obtain ⟨noId, noJob, noHandle⟩ := h.idle status
    exact {
      quiet := fun _ => ⟨rfl, rfl, rfl⟩
      job := fun job active => by
        change s.activeJob = some job at active
        rw [noJob] at active
        cases active
      handle := fun handle active => by
        change s.activeJobHandle = some handle at active
        rw [noHandle] at active
        cases active
      pending := fun active => by
        change s.activeJobId.isSome = true at active
        rw [noId] at active
        cases active
      known := fun job member active => by
        change s.activeJobId = some job.jobId at active
        rw [noId] at active
        cases active }
  | started accepted version p status incomplete ids prepared ready valid =>
    obtain ⟨-, -, noHandle⟩ := h.idle status
    exact {
      quiet := fun _ => ⟨rfl, rfl, rfl⟩
      job := fun job active => by cases active; rfl
      handle := fun handle active => by
        change s.activeJobHandle = some handle at active
        rw [noHandle] at active
        cases active
      pending := fun _ => ⟨rfl, rfl⟩
      known := fun _ _ _ => rfl }

/-- A call of `begin_completion`: what it returns, and the sessions it leaves. -/
theorem step_begin {sessionId : String} {record : Option Bool} {client : CentralRecommendationClient}
    {jobId : String} (h : step env w (.begin sessionId record client jobId) = some w') :
    jobId ∉ w.drawnIds ∧ ∃ result states',
      beginCompletion env w.states w.clock sessionId record client jobId = (result, states') ∧
      w'.states = states' ∧ w'.jobs = handedOut result ++ w.jobs ∧
      w'.drawnIds = jobId :: w.drawnIds := by
  simp only [step] at h
  split at h <;> cases h
  rename_i undrawn
  exact ⟨undrawn, _, _, rfl, rfl, rfl, rfl⟩

/-- **Every step of the store** keeps its sessions erased. -/
theorem SessionsErased.step (inv : SessionsErased w) (ids : JobIds w)
    (h : Mkk.Api.step env w e = some w') : SessionsErased w' := by
  intro sid s found
  have old : ∀ s, w.states.get? sid = some s → s.Erased w'.jobs := fun s found =>
    (inv sid s found).mono fun job member => by
      rcases step_jobs h member with old | ⟨-, undrawn, -⟩
      · exact .inl old
      · exact .inr fun active => undrawn (ids.active sid s _ found active)
  have move := step_move h sid
  rw [found] at move
  generalize after : some s = o at move
  cases move with
  | kept => exact old s after.symm
  | swept => cases after
  | cancelled => cases after
  | opened => cases after; exact erased_fresh _ _
  | appended record batch context accepted s' checked appended =>
    cases after
    have current : (currentState env w sid).Erased w.jobs := currentState_erased inv sid
    cases h
    obtain ⟨status, ⟨-, rfl⟩ | ⟨p, last, hits, -, rfl⟩⟩ := append_cases appended
    · exact current
    · exact {
        quiet := fun left => (left status).elim
        job := current.job
        handle := current.handle
        pending := current.pending
        known := current.known }
  | begun record client jobId context completed checked undrawn result s' begun =>
    cases after
    obtain ⟨-, result', states', called, states, jobs, -⟩ := step_begin h
    rcases beginCompletion_cases env called with ⟨e, refused, -⟩ | ⟨_, _, s', checked', begins, rfl⟩
    · rw [checked] at refused
      cases refused
    · rw [states, Dict.get?_set_self] at found
      cases found
      rw [jobs]
      refine erased_begins (currentState_erased inv sid) (fun job member same => undrawn ?_)
        (begin_cases begins)
      rw [← same]
      exact ids.jobs job member
  | registered job s₀ own there active =>
    cases after
    have before := old s₀ there
    have known : job ∈ w'.jobs := by
      simp only [Mkk.Api.step] at h
      split at h <;> cases h
      assumption
    exact {
      quiet := before.quiet
      job := before.job
      handle := fun handle registered => by
        cases registered
        exact ⟨active, before.known job known active⟩
      pending := before.pending
      known := before.known }
  | committed job jobEnd decision s₀ own known decided there pending active =>
    cases after
    exact {
      quiet := fun _ => ⟨rfl, rfl, rfl⟩
      job := fun _ active => by cases active
      handle := fun _ active => by cases active
      pending := fun active => by cases active
      known := fun _ _ active => by cases active }

/-- **An active job** stays active, or its session is removed, or a decision is committed for it. -/
theorem active_step (inv : SessionsErased w) (h : step env w e = some w') (active : w.Active id) :
    w'.Active id ∨
      (e.removes = true ∧ ∃ g ∈ goneSessions w.states w'.states, g.2.activeJobId = some id) ∨
      ∃ job jobEnd, e = .commit job jobEnd ∧ job.jobId = id := by
  obtain ⟨sid, s, found, pending⟩ := active
  have status := ((inv sid s found).pending (by rw [pending]; rfl)).1
  have current : currentState env w sid = s := currentState_present found
  have move := step_move h sid
  cases after : w'.states.get? sid with
  | none =>
    have removes : e.removes = true := by
      rw [after] at move
      generalize left : none = o at move
      cases move with
      | kept => rw [found] at left; cases left
      | swept => rfl
      | cancelled => rfl
      | opened => cases left
      | appended => cases left
      | begun => cases left
      | registered => cases left
      | committed => cases left
    refine .inr (.inl ⟨removes, (sid, s), List.mem_filter.2 ⟨Dict.mem_entries_iff.2 found, ?_⟩, pending⟩)
    rw [after]
    rfl
  | some s' =>
    rw [after] at move
    have stays (same : s'.activeJobId = some id) : w'.Active id := ⟨sid, s', after, same⟩
    generalize left : some s' = o at move
    cases move with
    | kept =>
      rw [found] at left
      cases left
      exact .inl (stays pending)
    | swept => cases left
    | cancelled => cases left
    | opened e absent => rw [found] at absent; cases absent
    | appended record batch context accepted s₁ checked appended =>
      cases left
      obtain ⟨collecting, -⟩ := append_frame appended
      rw [current, status] at collecting
      cases collecting
    | begun record client jobId context completed checked undrawn result s₁ begun =>
      cases left
      rw [current] at begun
      cases begin_cases begun with
      | refused => exact .inl (stays pending)
      | again => exact .inl (stays pending)
      | stuck _ _ _ collecting => rw [status] at collecting; cases collecting
      | decided _ _ _ collecting => rw [status] at collecting; cases collecting
      | started _ _ _ collecting => rw [status] at collecting; cases collecting
    | registered job s₀ own there =>
      cases left
      rw [found] at there
      cases there
      exact .inl (stays pending)
    | committed job jobEnd decision s₀ own known decided there _ activeJob =>
      rw [found] at there
      cases there
      rw [pending] at activeJob
      exact .inr (.inr ⟨job, jobEnd, rfl, (Option.some.inj activeJob).symm⟩)

end Sessions

/-! ## Jobs and threads -/

/-- The job whose `run_completion` has started and not returned. -/
def Body.runs : Body → Option String
  | .running job | .commit job _ | .saveDecision job | .finishing job => some job.jobId
  | .sweep next => next.runs
  | _ => none

/-- The job that `complete` has not handed to the dispatcher yet. -/
def Body.dispatches : Body → Option String
  | .savePending job | .claimJob job | .submit job | .startFailure job | .failJob job
  | .commitFailure job => some job.jobId
  | .sweep next => next.dispatches
  | _ => none

/-- The thread is about to clear the job: in a call that has ended it, or in its `run_completion`. -/
def Thread.Owes (deactivations : List (String × ℕ)) (id : String) (t : Thread) : Prop :=
  (∃ c, t.closing = some c ∧ .clear id ∈ c.left ∧ (id, c.call) ∈ deactivations) ∨
    t.body.runs = some id

/-- The store, the jobs and the threads. -/
structure ErasureInv (s : Service) : Prop where
  ids : JobIds s.world
  sessions : SessionsErased s.world
  objects : ∀ id ∈ s.objects.keys, ∃ job ∈ s.world.jobs, job.jobId = id
  owed : ∀ id o, s.objects.get? id = some o → ¬ o.Cleared →
    s.world.Active id ∨ (∃ t ∈ s.threads, t.Owes s.deactivations id) ∨ id ∈ s.startFailed
  dispatching : ∀ i t id, s.threads[i]? = some t → t.body.dispatches = some id →
    (∃ o, s.objects.get? id = some o ∧ o.maker = i) ∧ id ∉ s.handed ∧ id ∉ s.startFailed
  handed : ∀ id ∈ s.handed, id ∈ s.objects.keys ∧ id ∉ s.startFailed
  startFailed : ∀ id ∈ s.startFailed, id ∈ s.objects.keys

/-- What a step of thread `i` may do: everything that the invariant depends on. -/
structure Moves (i : ℕ) (s : Service) (t : Thread) (s' : Service) (t' : Thread) : Prop where
  ids : JobIds s'.world
  sessions : SessionsErased s'.world
  objects : ∀ id ∈ s'.objects.keys, ∃ job ∈ s'.world.jobs, job.jobId = id
  threads : ∃ spawned, s'.threads = s.threads ++ spawned ∧ ∀ u ∈ spawned, u.body.dispatches = none
  kept : ∀ id o, s.objects.get? id = some o →
    ∃ o', s'.objects.get? id = some o' ∧ o'.maker = o.maker
  intact : ∀ id o, s'.objects.get? id = some o → ¬ o.Cleared →
    s.objects.get? id = some o ∨ s'.world.Active id
  active : ∀ id ∈ s.objects.keys, s.world.Active id →
    s'.world.Active id ∨ t'.Owes s'.deactivations id ∨ id ∈ s'.startFailed
  owes : ∀ id o, t.Owes s.deactivations id → s'.objects.get? id = some o → ¬ o.Cleared →
    t'.Owes s'.deactivations id
  deactivations : ∀ d ∈ s.deactivations, d ∈ s'.deactivations
  dispatches : ∀ id, t'.body.dispatches = some id →
    (t.body.dispatches = some id ∨ id ∉ s.objects.keys) ∧
      (∃ o, s'.objects.get? id = some o ∧ o.maker = i) ∧
      s'.handed = s.handed ∧ s'.startFailed = s.startFailed
  handed : ∀ id ∈ s'.handed,
    id ∈ s.handed ∨ t.body.dispatches = some id ∧ s'.startFailed = s.startFailed
  startFailed : ∀ id ∈ s'.startFailed, id ∈ s.startFailed ∨ t.body.dispatches = some id
  failures : ∀ id ∈ s.startFailed, id ∈ s'.startFailed

section Service

variable {env : StoreEnv} {s s' : Service} {t t' : Thread} {i : ℕ} {w' : World} {e : Event}
  {id : String}

theorem Thread.Owes.mono {ds ds' : List (String × ℕ)} (h : t.Owes ds id) (sub : ∀ d ∈ ds, d ∈ ds') :
    t.Owes ds' id :=
  h.imp_left fun ⟨c, closing, clears, ended⟩ => ⟨c, closing, clears, sub _ ended⟩

/-- The threads after a step of one of them. -/
theorem getElem?_threads {threads spawned : List Thread} (found : threads[i]? = some t) {k : ℕ}
    {u : Thread} (h : ((threads ++ spawned).set i t')[k]? = some u) :
    k = i ∧ u = t' ∨ k ≠ i ∧ threads[k]? = some u ∨ u ∈ spawned := by
  obtain ⟨inside, -⟩ := List.getElem?_eq_some_iff.1 found
  by_cases same : k = i
  · subst same
    rw [List.getElem?_set_self (by rw [List.length_append]; omega)] at h
    exact .inl ⟨rfl, (Option.some.inj h).symm⟩
  · rw [List.getElem?_set_ne (Ne.symm same)] at h
    by_cases old : k < threads.length
    · rw [List.getElem?_append_left old] at h
      exact .inr (.inl ⟨same, h⟩)
    · rw [List.getElem?_append_right (by omega)] at h
      exact .inr (.inr (List.mem_of_getElem? h))

/-- **A step of a thread** keeps the invariant. -/
theorem ErasureInv.moves (inv : ErasureInv s) (found : s.threads[i]? = some t)
    (h : Moves i s t s' t') : ErasureInv { s' with threads := s'.threads.set i t' } := by
  obtain ⟨spawned, threads, quiet⟩ := h.threads
  obtain ⟨inside, -⟩ := List.getElem?_eq_some_iff.1 found
  have self : t' ∈ s'.threads.set i t' :=
    List.mem_set (by rw [threads, List.length_append]; omega) t'
  have keys : ∀ id ∈ s.objects.keys, id ∈ s'.objects.keys := by
    intro id member
    obtain ⟨o, there⟩ := Dict.mem_keys_iff.1 member
    obtain ⟨o', there', -⟩ := h.kept id o there
    exact Dict.mem_keys_iff.2 ⟨o', there'⟩
  have dispatchable : ∀ id, t.body.dispatches = some id →
      id ∈ s.objects.keys ∧ id ∉ s.handed ∧ id ∉ s.startFailed := by
    intro id dispatches
    obtain ⟨⟨o, there, -⟩, unhanded, unfailed⟩ := inv.dispatching i t id found dispatches
    exact ⟨Dict.mem_keys_iff.2 ⟨o, there⟩, unhanded, unfailed⟩
  exact {
    ids := h.ids
    sessions := h.sessions
    objects := h.objects
    owed := fun id o there intact => by
      rcases h.intact id o there intact with before | active
      · rcases inv.owed id o before intact with active | ⟨u, member, owes⟩ | failed
        · rcases h.active id (Dict.mem_keys_iff.2 ⟨o, before⟩) active with active | owes | failed
          · exact .inl active
          · exact .inr (.inl ⟨t', self, owes⟩)
          · exact .inr (.inr failed)
        · obtain ⟨k, at_k⟩ := List.mem_iff_getElem?.1 member
          by_cases same : k = i
          · subst same
            rw [found] at at_k
            cases at_k
            exact .inr (.inl ⟨t', self, h.owes id o owes there intact⟩)
          · refine .inr (.inl ⟨u, List.mem_of_getElem? (i := k) ?_, owes.mono h.deactivations⟩)
            obtain ⟨low, -⟩ := List.getElem?_eq_some_iff.1 at_k
            change (s'.threads.set i t')[k]? = some u
            rw [List.getElem?_set_ne (Ne.symm same), threads, List.getElem?_append_left low, at_k]
        · exact .inr (.inr (h.failures id failed))
      · exact .inl active
    dispatching := fun k u id at_k dispatches => by
      change (s'.threads.set i t')[k]? = some u at at_k
      rw [threads] at at_k
      rcases getElem?_threads found at_k with ⟨rfl, rfl⟩ | ⟨other, before⟩ | new
      · obtain ⟨origin, made, handed, failed⟩ := h.dispatches id dispatches
        refine ⟨made, ?_, ?_⟩
        · change id ∉ s'.handed
          rw [handed]
          rcases origin with dispatched | fresh
          · exact (dispatchable id dispatched).2.1
          · exact fun member => fresh (inv.handed id member).1
        · change id ∉ s'.startFailed
          rw [failed]
          rcases origin with dispatched | fresh
          · exact (dispatchable id dispatched).2.2
          · exact fun member => fresh (inv.startFailed id member)
      · obtain ⟨⟨o, there, maker⟩, unhanded, unfailed⟩ := inv.dispatching k u id before dispatches
        -- the job of another thread was made by that thread
        have apart : t.body.dispatches ≠ some id := by
          intro dispatched
          obtain ⟨⟨o', there', maker'⟩, -⟩ := inv.dispatching i t id found dispatched
          rw [there] at there'
          cases there'
          exact other (maker.symm.trans maker')
        obtain ⟨o', there', maker'⟩ := h.kept id o there
        refine ⟨⟨o', there', maker'.trans maker⟩, fun member => ?_, fun member => ?_⟩
        · exact (h.handed id member).elim unhanded fun new => apart new.1
        · exact (h.startFailed id member).elim unfailed apart
      · rw [quiet u new] at dispatches
        cases dispatches
    handed := fun id member => by
      rcases h.handed id member with old | ⟨dispatched, failed⟩
      · refine ⟨keys id (inv.handed id old).1, fun failed => ?_⟩
        rcases h.startFailed id failed with before | dispatched
        · exact (inv.handed id old).2 before
        · exact (dispatchable id dispatched).2.1 old
      · refine ⟨keys id (dispatchable id dispatched).1, ?_⟩
        change id ∉ s'.startFailed
        rw [failed]
        exact (dispatchable id dispatched).2.2
    startFailed := fun id member => keys id <| by
      rcases h.startFailed id member with before | dispatched
      · exact inv.startFailed id before
      · exact (dispatchable id dispatched).1 }

/-! ### The kinds of steps -/

/-- A section under the lock. -/
theorem ErasureInv.locked (inv : ErasureInv s) (found : s.threads[i]? = some t)
    (idle : t.closing = none) (h : step env s.world e = some w') (calls : ℕ)
    (ds : List (String × ℕ)) (failed : List String)
    (active : ∀ id ∈ s.objects.keys, s.world.Active id →
      w'.Active id ∨ t'.Owes (ds ++ s.deactivations) id ∨ id ∈ failed)
    (runs : ∀ id, t.body.runs = some id → t'.body.runs = some id)
    (dispatches : ∀ id, t'.body.dispatches = some id →
      t.body.dispatches = some id ∧ failed = s.startFailed)
    (new : ∀ id ∈ failed, id ∈ s.startFailed ∨ t.body.dispatches = some id)
    (failures : ∀ id ∈ s.startFailed, id ∈ failed) :
    Moves i s t { s with
      world := w', calls := calls, deactivations := ds ++ s.deactivations, startFailed := failed } t' where
  ids := inv.ids.step h
  sessions := inv.sessions.step inv.ids h
  objects id member := by
    obtain ⟨job, known, named⟩ := inv.objects id member
    exact ⟨job, step_jobs_mono h known, named⟩
  threads := ⟨[], by simp, by simp⟩
  kept id o there := ⟨o, there, rfl⟩
  intact id o there _ := .inl there
  active := active
  owes id o owes _ _ := by
    rcases owes with ⟨c, closing, -⟩ | running
    · rw [idle] at closing
      cases closing
    · exact .inr (runs id running)
  deactivations d member := List.mem_append_right _ member
  dispatches id dispatched := by
    obtain ⟨before, same⟩ := dispatches id dispatched
    exact ⟨.inl before, (inv.dispatching i t id found before).1, rfl, same⟩
  handed id member := .inl member
  startFailed := new
  failures := failures

/-- A step that only the thread sees. -/
theorem ErasureInv.aside (inv : ErasureInv s) (found : s.threads[i]? = some t)
    (owes : ∀ id, t.Owes s.deactivations id → t'.Owes s.deactivations id)
    (dispatches : ∀ id, t'.body.dispatches = some id → t.body.dispatches = some id) :
    Moves i s t s t' where
  ids := inv.ids
  sessions := inv.sessions
  objects := inv.objects
  threads := ⟨[], by simp, by simp⟩
  kept id o there := ⟨o, there, rfl⟩
  intact id o there _ := .inl there
  active id _ active := .inl active
  owes id _ before _ _ := owes id before
  deactivations d member := member
  dispatches id dispatched :=
    ⟨.inl (dispatches id dispatched),
      (inv.dispatching i t id found (dispatches id dispatched)).1, rfl, rfl⟩
  handed id member := .inl member
  startFailed id member := .inl member
  failures id member := member

theorem get?_clear (s : Service) (jobId id : String) : (s.clear jobId).objects.get? id =
    (s.objects.get? id).map fun o => if id = jobId then o.clearTransient else o := by
  unfold Service.clear
  cases there : s.objects.get? jobId with
  | none =>
    dsimp only
    by_cases same : id = jobId
    · rw [same, there]
      rfl
    · simp [same]
  | some o =>
    dsimp only
    rw [Dict.get?_set]
    split
    · rename_i same
      rw [same, there]
      simp
    · simp

theorem clear_eq (s : Service) (jobId : String) :
    s.clear jobId = { s with objects := (s.clear jobId).objects } := by
  unfold Service.clear
  cases s.objects.get? jobId <;> rfl

/-- `clear_transient` -/
theorem ErasureInv.cleared (inv : ErasureInv s) (found : s.threads[i]? = some t) {jobId : String}
    (owes : ∀ id, id ≠ jobId → t.Owes s.deactivations id → t'.Owes s.deactivations id)
    (dispatches : ∀ id, t'.body.dispatches = some id → t.body.dispatches = some id) :
    Moves i s t (s.clear jobId) t' := by
  have same := clear_eq s jobId
  have kept : ∀ id o, s.objects.get? id = some o →
      ∃ o', (s.clear jobId).objects.get? id = some o' ∧ o'.maker = o.maker := by
    intro id o there
    rw [get?_clear, there]
    refine ⟨_, rfl, ?_⟩
    dsimp only
    split <;> rfl
  have left : ∀ id o, (s.clear jobId).objects.get? id = some o → ¬ o.Cleared →
      id ≠ jobId ∧ s.objects.get? id = some o := by
    intro id o there intact
    rw [get?_clear, Option.map_eq_some_iff] at there
    obtain ⟨o', before, rfl⟩ := there
    by_cases own : id = jobId
    · rw [if_pos own] at intact
      exact (intact ⟨rfl, rfl⟩).elim
    · rw [if_neg own]
      exact ⟨own, before⟩
  have deactivations : (s.clear jobId).deactivations = s.deactivations := by rw [same]
  have handed : (s.clear jobId).handed = s.handed := by rw [same]
  have failed : (s.clear jobId).startFailed = s.startFailed := by rw [same]
  have world : (s.clear jobId).world = s.world := by rw [same]
  exact {
    ids := world ▸ inv.ids
    sessions := world ▸ inv.sessions
    objects := fun id member => by
      obtain ⟨o, there⟩ := Dict.mem_keys_iff.1 member
      rw [get?_clear, Option.map_eq_some_iff] at there
      obtain ⟨o', before, -⟩ := there
      rw [world]
      exact inv.objects id (Dict.mem_keys_iff.2 ⟨o', before⟩)
    threads := ⟨[], by rw [same, List.append_nil], by simp⟩
    kept := kept
    intact := fun id o there intact => .inl (left id o there intact).2
    active := fun id _ active => .inl (world ▸ active)
    owes := fun id o before there intact => by
      rw [deactivations]
      exact owes id (left id o there intact).1 before
    deactivations := fun d member => deactivations ▸ member
    dispatches := fun id dispatched => by
      obtain ⟨⟨o, there, maker⟩, -⟩ := inv.dispatching i t id found (dispatches id dispatched)
      obtain ⟨o', there', maker'⟩ := kept id o there
      exact ⟨.inl (dispatches id dispatched), ⟨o', there', maker'.trans maker⟩, handed, failed⟩
    handed := fun id member => .inl (handed ▸ member)
    startFailed := fun id member => .inl (failed ▸ member)
    failures := fun id member => failed ▸ member }

/-- What a removed session with a live job leaves to be done. -/
theorem clear_mem_cancelClosing {st : V2SessionState} {job : CompletionJob}
    (active : st.activeJob = some job) : .clear job.jobId ∈ cancelClosing st := by
  unfold cancelClosing
  rw [active]
  simp

theorem clear_mem_orphanClosing {st : V2SessionState} {job : CompletionJob}
    (active : st.activeJob = some job) (pending : st.status = .pending)
    (accepted : st.accepted.isSome = true) : .clear job.jobId ∈ orphanClosing st := by
  obtain ⟨a, ha⟩ := Option.isSome_iff_exists.1 accepted
  unfold orphanClosing
  rw [if_pos pending, ha, active]
  simp

theorem Service.remove_eq_some {closing : List (String × V2SessionState) → List ClosingStep}
    {next : Body} (h : s.remove env e closing next = some (s', t')) :
    ∃ w', step env s.world e = some w' ∧
      s' = { s with
        world := w'
        calls := s.calls + 1
        deactivations := (goneSessions s.world.states w'.states).filterMap
          (fun g => g.2.activeJobId.map fun id => (id, s.calls)) ++ s.deactivations } ∧
      t' = ⟨some ⟨s.calls, closing (goneSessions s.world.states w'.states)⟩, next⟩ := by
  unfold Service.remove Service.store at h
  rw [Option.map_map, Option.map_eq_some_iff] at h
  obtain ⟨w', stepped, h⟩ := h
  obtain ⟨rfl, rfl⟩ := Prod.mk.inj h
  exact ⟨w', stepped, rfl, rfl⟩

/-- **A removal** leaves every live job of a removed session to be cleared. -/
theorem ErasureInv.removed (inv : ErasureInv s) (found : s.threads[i]? = some t)
    (idle : t.closing = none) {closing : List (String × V2SessionState) → List ClosingStep}
    {next : Body} (h : s.remove env e closing next = some (s', t'))
    (removes : e.removes = true)
    (clears : ∀ gone, ∀ g ∈ gone, ∀ job, g.2.activeJob = some job → g.2.status = .pending →
      g.2.accepted.isSome = true → .clear job.jobId ∈ closing gone)
    (runs : ∀ id, t.body.runs = some id → next.runs = some id)
    (dispatches : ∀ id, next.dispatches = some id → t.body.dispatches = some id) :
    Moves i s t s' t' := by
  obtain ⟨w', stepped, rfl, rfl⟩ := Service.remove_eq_some h
  refine inv.locked found idle stepped _ _ s.startFailed (fun id member active => ?_) runs
    (fun id dispatched => ⟨dispatches id dispatched, rfl⟩) (fun id member => .inl member)
    fun id member => member
  rcases active_step inv.sessions stepped active with
    active | ⟨-, g, gone, ended⟩ | ⟨job, jobEnd, rfl, -⟩
  · exact .inl active
  · obtain ⟨job, known, rfl⟩ := inv.objects id member
    have erased := inv.sessions g.1 g.2 (Dict.mem_entries_iff.1 (List.mem_filter.1 gone).1)
    obtain ⟨own, held⟩ := Option.isSome_iff_exists.1 (erased.known job known ended)
    have named := erased.job own held
    rw [ended] at named
    obtain ⟨pending, accepted⟩ := erased.pending (by rw [ended]; rfl)
    refine .inr (.inl (.inl ⟨_, rfl, ?_, ?_⟩))
    · rw [Option.some.inj named]
      exact clears _ g gone own held pending accepted
    · refine List.mem_append_left _ (List.mem_filterMap.2 ⟨g, gone, ?_⟩)
      rw [ended]
      rfl
  · cases removes

theorem Service.commit_eq_some {job : CompletionJob} {jobEnd : JobEnd} {next : Bool → Body}
    (h : s.commit env job jobEnd next = some (s', t')) :
    ∃ w' ds, step env s.world (.commit job jobEnd) = some w' ∧
      s' = { s with world := w', calls := s.calls + 1, deactivations := ds ++ s.deactivations } ∧
      t' = ⟨none, next (activeState s.world.states job).isSome⟩ := by
  unfold Service.commit Service.store at h
  rw [Option.map_map, Option.map_eq_some_iff] at h
  obtain ⟨w', stepped, h⟩ := h
  obtain ⟨rfl, rfl⟩ := Prod.mk.inj h
  refine ⟨w', if (activeState s.world.states job).isSome then [(job.jobId, s.calls)] else [],
    stepped, ?_, rfl⟩
  dsimp only [Function.comp_apply]
  split <;> rfl

/-- The decision of a running job is committed by the thread that will clear it. -/
theorem ErasureInv.committed (inv : ErasureInv s) (found : s.threads[i]? = some t)
    (idle : t.closing = none) {job : CompletionJob} {jobEnd : JobEnd} {next : Bool → Body}
    (h : s.commit env job jobEnd next = some (s', t')) (own : t.body.runs = some job.jobId)
    (runs : ∀ published, (next published).runs = some job.jobId)
    (dispatches : ∀ published, (next published).dispatches = none) : Moves i s t s' t' := by
  obtain ⟨w', ds, stepped, rfl, rfl⟩ := Service.commit_eq_some h
  refine inv.locked found idle stepped _ ds s.startFailed (fun id member active => ?_) (fun id run => ?_)
    (fun id dispatched => ?_) (fun id member => .inl member) fun id member => member
  · rcases active_step inv.sessions stepped active with active | ⟨removes, -⟩ | ⟨_, _, commit, rfl⟩
    · exact .inl active
    · cases removes
    · cases commit
      exact .inr (.inl (.inr (runs _)))
  · rw [own] at run
    cases run
    exact runs _
  · rw [dispatches] at dispatched
    cases dispatched

/-- A section that neither removes sessions nor commits. -/
theorem ErasureInv.stored (inv : ErasureInv s) (found : s.threads[i]? = some t)
    (idle : t.closing = none) (h : s.store env e = some s') (removes : e.removes = false)
    (commits : ∀ job jobEnd, e ≠ .commit job jobEnd)
    (runs : ∀ id, t.body.runs = some id → t'.body.runs = some id)
    (dispatches : ∀ id, t'.body.dispatches = some id → t.body.dispatches = some id) :
    Moves i s t s' t' := by
  unfold Service.store at h
  obtain ⟨w', stepped, rfl⟩ := Option.map_eq_some_iff.1 h
  refine inv.locked found idle stepped s.calls [] s.startFailed (fun id member active => ?_) runs
    (fun id dispatched => ⟨dispatches id dispatched, rfl⟩) (fun id member => .inl member)
    fun id member => member
  rcases active_step inv.sessions stepped active with active | ⟨removed, -⟩ | ⟨job, jobEnd, commit, -⟩
  · exact .inl active
  · rw [removes] at removed
    cases removed
  · exact (commits job jobEnd commit).elim

/-- A job that could not be dispatched is given up by the thread that made it. -/
theorem ErasureInv.gaveUp (inv : ErasureInv s) (found : s.threads[i]? = some t)
    (idle : t.closing = none) {job : CompletionJob} {next : Bool → Body}
    (h : ({ s with startFailed := job.jobId :: s.startFailed } : Service).commit env job .startFailed
      next = some (s', t'))
    (own : t.body.dispatches = some job.jobId) (runs : t.body.runs = none)
    (dispatches : ∀ published, (next published).dispatches = none) : Moves i s t s' t' := by
  obtain ⟨w', ds, stepped, rfl, rfl⟩ := Service.commit_eq_some h
  refine inv.locked found idle stepped _ ds (job.jobId :: s.startFailed) (fun id member active => ?_)
    (fun id run => ?_) (fun id dispatched => ?_) (fun id member => ?_)
    fun id member => List.mem_cons_of_mem _ member
  · rcases active_step inv.sessions stepped active with active | ⟨removes, -⟩ | ⟨_, _, commit, rfl⟩
    · exact .inl active
    · cases removes
    · cases commit
      exact .inr (.inr List.mem_cons_self)
  · rw [runs] at run
    cases run
  · rw [dispatches] at dispatched
    cases dispatched
  · rcases List.mem_cons.1 member with rfl | before
    · exact .inr own
    · exact .inl before

/-- A job is handed to the dispatcher, which queues its `run_completion`. -/
theorem ErasureInv.submitted (inv : ErasureInv s) (idle : t.closing = none) {job : CompletionJob} (own : t.body.dispatches = some job.jobId)
    (runs : t.body.runs = none) :
    Moves i s t { s with
      handed := job.jobId :: s.handed
      threads := s.threads ++ [⟨none, .queued job⟩] } ⟨none, .register job⟩ where
  ids := inv.ids
  sessions := inv.sessions
  objects := inv.objects
  threads := ⟨[⟨none, .queued job⟩], rfl, fun u member => by rw [List.mem_singleton.1 member]; rfl⟩
  kept id o there := ⟨o, there, rfl⟩
  intact id o there _ := .inl there
  active id _ active := .inl active
  owes id _ before _ _ := by
    rcases before with ⟨c, closing, -⟩ | running
    · rw [idle] at closing
      cases closing
    · rw [runs] at running
      cases running
  deactivations d member := member
  dispatches id dispatched := nomatch dispatched
  handed id member := by
    rcases List.mem_cons.1 member with rfl | before
    · exact .inr ⟨own, rfl⟩
    · exact .inl before
  startFailed id member := .inl member
  failures id member := member

/-- `begin_completion` returns a job to the thread. -/
theorem ErasureInv.began (inv : ErasureInv s) (idle : t.closing = none) {sid jobId : String} {record : Option Bool}
    {client : CentralRecommendationClient} {accepted : RecommendationAcceptedV2} {job : CompletionJob}
    (h : s.store env (.begin sid record client jobId) = some s')
    (returns : (beginCompletion env s.world.states s.world.clock sid record client jobId).1 =
      .ok (accepted, some job))
    (runs : t.body.runs = none) (t' : Thread)
    (dispatches : t'.body.dispatches = some job.jobId ∨ t'.body.dispatches = none) :
    Moves i s t (s'.made job i) t' := by
  unfold Service.store at h
  obtain ⟨w', stepped, rfl⟩ := Option.map_eq_some_iff.1 h
  obtain ⟨undrawn, result, states', called, states, jobs, -⟩ := step_begin stepped
  rw [called] at returns
  dsimp only at returns
  subst returns
  obtain ⟨-, rfl, -⟩ := beginCompletion_handedOut called (List.mem_singleton.2 rfl)
  have fresh : job.jobId ∉ s.objects.keys := fun member => by
    obtain ⟨j, known, named⟩ := inv.objects _ member
    exact undrawn (named ▸ inv.ids.jobs j known)
  have others : ∀ id ∈ s.objects.keys, id ≠ job.jobId := fun id member same => fresh (same ▸ member)
  have active : w'.Active job.jobId := by
    rcases beginCompletion_cases env called with ⟨e, -, refused, -⟩ | ⟨_, _, s', -, begins, rfl⟩
    · cases refused
    · generalize result : (Except.ok (accepted, some job) : Except PyError Begun) = r at begins
      cases begin_cases begins with
      | refused => cases result
      | again => cases result
      | stuck => cases result
      | decided => cases result
      | started => exact ⟨sid, _, by rw [states, Dict.get?_set_self], rfl⟩
  exact {
    ids := inv.ids.step stepped
    sessions := inv.sessions.step inv.ids stepped
    objects := fun id member => by
      change id ∈ (s.objects.set job.jobId _).keys at member
      change ∃ j ∈ w'.jobs, j.jobId = id
      rw [jobs]
      obtain ⟨o, there⟩ := Dict.mem_keys_iff.1 member
      rw [Dict.get?_set] at there
      split at there
      · rename_i same
        exact ⟨job, List.mem_append_left _ (List.mem_singleton.2 rfl), same.symm⟩
      · obtain ⟨j, known, named⟩ := inv.objects id (Dict.mem_keys_iff.2 ⟨o, there⟩)
        exact ⟨j, List.mem_append_right _ known, named⟩
    threads := ⟨[], by simp [Service.made], by simp⟩
    kept := fun id o there => by
      refine ⟨o, ?_, rfl⟩
      change (s.objects.set job.jobId _).get? id = some o
      rw [Dict.get?_set_ne _ (others id (Dict.mem_keys_iff.2 ⟨o, there⟩)), there]
    intact := fun id o there _ => by
      change (s.objects.set job.jobId _).get? id = some o at there
      rw [Dict.get?_set] at there
      split at there
      · rename_i same
        rw [same]
        exact .inr active
      · exact .inl there
    active := fun id _ before => by
      rcases active_step inv.sessions stepped before with after | ⟨removes, -⟩ | ⟨_, _, commit, -⟩
      · exact .inl after
      · cases removes
      · cases commit
    owes := fun id _ before _ _ => by
      rcases before with ⟨c, closing, -⟩ | running
      · rw [idle] at closing
        cases closing
      · rw [runs] at running
        cases running
    deactivations := fun d member => member
    dispatches := fun id dispatched => by
      rcases dispatches with own | none
      · rw [own] at dispatched
        cases dispatched
        exact ⟨.inr fresh, ⟨_, Dict.get?_set_self _ _ _, rfl⟩, rfl, rfl⟩
      · rw [none] at dispatched
        cases dispatched
    handed := fun id member => .inl member
    startFailed := fun id member => .inl member
    failures := fun id member => member }

/-! ### Every step -/

theorem isCall_dispatches {body : Body} {w : World} (h : body.isCall w = true) :
    body.dispatches = none := by
  unfold Body.isCall at h
  split at h <;> first | rfl | cases h

/-- A step of an operation that nobody else sees. -/
theorem ErasureInv.alone (inv : ErasureInv s) (found : s.threads[i]? = some t)
    (idle : t.closing = none) {body : Body} (runs : ∀ id, t.body.runs = some id → body.runs = some id)
    (dispatches : ∀ id, body.dispatches = some id → t.body.dispatches = some id) :
    Moves i s t s ⟨none, body⟩ :=
  inv.aside found (fun id owes => by
    rcases owes with ⟨c, closing, -⟩ | running
    · rw [idle] at closing
      cases closing
    · exact .inr (runs id running)) dispatches

/-- **A step of an operation**. -/
theorem ErasureInv.bodyStep (inv : ErasureInv s) {body : Body}
    (found : s.threads[i]? = some ⟨none, body⟩) {answer : Answer}
    (h : Mkk.Api.bodyStep env s i body answer = some (s', t')) : Moves i s ⟨none, body⟩ s' t' := by
  unfold Mkk.Api.bodyStep at h
  split at h
  · rename_i next now
    refine inv.removed found rfl h rfl (fun gone g member job active pending accepted => ?_)
      (fun id runs => runs) fun id dispatches => dispatches
    exact List.mem_append_right _ (List.mem_flatMap.2
      ⟨g, member, clear_mem_orphanClosing active pending accepted⟩)
  · cases h
    refine inv.alone found rfl (fun id runs => nomatch runs) fun id dispatches => ?_
    split at dispatches <;> cases dispatches
  · rename_i sid record batch
    obtain ⟨_, stored, same⟩ := Option.map_eq_some_iff.1 h
    cases same
    exact inv.stored found rfl stored rfl (fun _ _ e => nomatch e) (fun id runs => nomatch runs)
      fun id dispatches => nomatch dispatches
  · cases h
    refine inv.alone found rfl (fun id runs => nomatch runs) fun id dispatches => ?_
    split at dispatches <;> cases dispatches
  · rename_i sid record client dispatch jobId
    obtain ⟨s₁, stored, made⟩ := Option.map_eq_some_iff.1 h
    split at made
    · cases made
      exact inv.stored found rfl stored rfl (fun _ _ e => nomatch e) (fun id runs => nomatch runs)
        fun id dispatches => nomatch dispatches
    · cases made
      refine inv.stored found rfl stored rfl (fun _ _ e => nomatch e) (fun id runs => nomatch runs)
        fun id dispatches => ?_
      dsimp only at dispatches
      split at dispatches <;> cases dispatches
    · rename_i accepted job returns
      cases made
      refine inv.began rfl stored returns rfl _ ?_
      dsimp only
      split
      · exact .inl rfl
      · exact .inr rfl
  · rename_i job b
    cases h
    refine inv.alone found rfl (fun id runs => nomatch runs) fun id dispatches => ?_
    cases b <;> exact dispatches
  · rename_i job b
    cases h
    refine inv.alone found rfl (fun id runs => nomatch runs) fun id dispatches => ?_
    cases b <;> exact dispatches
  · cases h
    exact inv.submitted rfl rfl rfl
  · cases h
    exact inv.alone found rfl (fun id runs => nomatch runs) fun id dispatches => dispatches
  · obtain ⟨_, stored, same⟩ := Option.map_eq_some_iff.1 h
    cases same
    exact inv.stored found rfl stored rfl (fun _ _ e => nomatch e) (fun id runs => nomatch runs)
      fun id dispatches => nomatch dispatches
  · cases h
    refine inv.alone found rfl (fun id runs => nomatch runs) fun id dispatches => ?_
    split at dispatches
    · exact dispatches
    · cases dispatches
  · cases h
    exact inv.alone found rfl (fun id runs => nomatch runs) fun id dispatches => dispatches
  · refine inv.gaveUp found rfl h rfl rfl fun published => ?_
    cases published <;> rfl
  · cases h
    exact inv.alone found rfl (fun id runs => nomatch runs) fun id dispatches => nomatch dispatches
  · obtain ⟨_, stored, same⟩ := Option.map_eq_some_iff.1 h
    cases same
    refine inv.stored found rfl stored rfl (fun _ _ e => nomatch e) (fun id runs => nomatch runs)
      fun id dispatches => ?_
    dsimp only at dispatches
    split at dispatches <;> cases dispatches
  · cases h
    exact inv.alone found rfl (fun id runs => nomatch runs) fun id dispatches => nomatch dispatches
  · refine inv.removed found rfl h rfl (fun gone g member job active _ _ => ?_)
      (fun id runs => nomatch runs) fun id dispatches => nomatch dispatches
    exact List.mem_flatMap.2 ⟨g, member, clear_mem_cancelClosing active⟩
  · cases h
    refine inv.alone found rfl (fun id runs => nomatch runs) fun id dispatches => ?_
    split at dispatches <;> cases dispatches
  · cases h
    exact inv.alone found rfl (fun id runs => nomatch runs) fun id dispatches => nomatch dispatches
  · cases h
    refine inv.alone found rfl (fun id runs => ?_) fun id dispatches => ?_
    · split <;> exact runs
    · split at dispatches <;> cases dispatches
  · cases h
    exact inv.alone found rfl (fun id runs => runs) fun id dispatches => nomatch dispatches
  · refine inv.committed found rfl h rfl (fun published => ?_) fun published => ?_
    · cases published <;> rfl
    · cases published <;> rfl
  · cases h
    exact inv.alone found rfl (fun id runs => runs) fun id dispatches => nomatch dispatches
  · rename_i job
    cases h
    refine inv.cleared found (fun id other owes => ?_) fun id dispatches => nomatch dispatches
    rcases owes with ⟨c, closing, -⟩ | running
    · cases closing
    · exact (other (Option.some.inj running).symm).elim
  · cases h

/-- **A step of a thread** in a closing call or outside. -/
theorem ErasureInv.threadStep (inv : ErasureInv s) (found : s.threads[i]? = some t) {answer : Answer}
    (h : Mkk.Api.threadStep env s i t answer = some (s', t')) : Moves i s t s' t' := by
  obtain ⟨closing, body⟩ := t
  unfold Mkk.Api.threadStep at h
  dsimp only at h
  split at h
  · rename_i call step left
    cases h
    -- every other clearing of the call is still to come
    have rest : ∀ id, step ≠ .clear id →
        Thread.Owes s.deactivations id ⟨some ⟨call, step :: left⟩, body⟩ →
          Thread.Owes s.deactivations id ⟨some ⟨call, left⟩, body⟩ := by
      intro id other owes
      rcases owes with ⟨c, same, clears, ended⟩ | running
      · cases same
        exact .inl ⟨_, rfl, (List.mem_cons.1 clears).resolve_left (Ne.symm other), ended⟩
      · exact .inr running
    cases step with
    | cancelHandle handle =>
      exact inv.aside found (fun id => rest id (by simp)) fun id dispatches => dispatches
    | clear jobId =>
      exact inv.cleared found (fun id other => rest id fun same => other (by cases same; rfl))
        fun id dispatches => dispatches
    | closeRow row =>
      exact inv.aside found (fun id => rest id (by simp)) fun id dispatches => dispatches
  · cases h
    refine inv.aside found (fun id owes => ?_) fun id dispatches => dispatches
    rcases owes with ⟨c, same, clears, -⟩ | running
    · cases same
      cases clears
    · exact .inr running
  · exact inv.bodyStep found h

/-- **Every step** keeps the invariant. -/
theorem ErasureInv.step (inv : ErasureInv s) {move : ServiceMove}
    (h : serviceStep env s move = some s') : ErasureInv s' := by
  cases move with
  | tick duration =>
    change s.store env (.tick duration) = some s' at h
    unfold Service.store at h
    obtain ⟨w', stepped, rfl⟩ := Option.map_eq_some_iff.1 h
    exact {
      ids := inv.ids.step stepped
      sessions := inv.sessions.step inv.ids stepped
      objects := fun id member => by
        obtain ⟨job, known, named⟩ := inv.objects id member
        exact ⟨job, step_jobs_mono stepped known, named⟩
      owed := fun id o there intact => (inv.owed id o there intact).imp_left fun active => by
        rcases active_step inv.sessions stepped active with active | ⟨removes, -⟩ | ⟨_, _, commit, -⟩
        · exact active
        · cases removes
        · cases commit
      dispatching := inv.dispatching
      handed := inv.handed
      startFailed := inv.startFailed }
  | arrive body =>
    unfold serviceStep at h
    dsimp only at h
    split at h <;> cases h
    rename_i call
    exact { inv with
      owed := fun id o there intact => (inv.owed id o there intact).imp_right <| Or.imp_left
        fun ⟨t, member, owes⟩ => ⟨t, List.mem_append_left _ member, owes⟩
      dispatching := fun k t id found dispatches => by
        change (s.threads ++ [⟨none, body⟩])[k]? = some t at found
        rw [List.getElem?_append] at found
        split at found
        · exact inv.dispatching k t id found dispatches
        · have new := List.mem_singleton.1 (List.mem_of_getElem? found)
          rw [new] at dispatches
          exact nomatch (isCall_dispatches call).symm.trans dispatches }
  | run i answer =>
    unfold serviceStep at h
    dsimp only at h
    split at h
    · cases h
    · rename_i t found
      obtain ⟨⟨s₁, t₁⟩, stepped, rfl⟩ := Option.map_eq_some_iff.1 h
      exact inv.moves found (inv.threadStep found stepped)

end Service

/-! ## Erasure -/

/-- The call has returned. -/
def Service.Returned (s : Service) (call : ℕ) : Prop :=
  ∀ t ∈ s.threads, ∀ c, t.closing = some c → c.call ≠ call

/-- The job's `run_completion` has started and not returned. -/
def Service.Running (s : Service) (id : String) : Prop := ∃ t ∈ s.threads, t.body.runs = some id

/-- The job can be reached from the session: it is its active job, or the one of its handle. -/
def V2SessionState.Reaches (s : V2SessionState) (id : String) : Prop :=
  (∃ job, s.activeJob = some job ∧ job.jobId = id) ∨
    ∃ handle, s.activeJobHandle = some handle ∧ handle.jobId = id

/-- **Evidence is erased** in every run of every number of threads. -/
theorem evidence_erased {env : StoreEnv} {moves : List ServiceMove} {s : Service}
    (run : Lts.Steps (serviceStep env) Lts.Free {} moves s) :
    (∀ sid st, s.world.states.get? sid = some st → st.status ≠ .collecting →
      st.observations = Dict.empty ∧ st.resolvedSourceHits = Dict.empty ∧
        st.batchFingerprints = Dict.empty) ∧
    (∀ sid st id, s.world.states.get? sid = some st → st.Reaches id →
      st.status = .pending ∧ st.activeJobId = some id ∧
        ∃ job, st.activeJob = some job ∧ job.jobId = id) ∧
    ∀ id ∈ s.handed, ¬ s.world.Active id → (∀ call, (id, call) ∈ s.deactivations → s.Returned call) →
      ¬ s.Running id → ∃ o, s.objects.get? id = some o ∧ o.Cleared := by
  have inv : ErasureInv s := run.invariant (fun _ _ _ inv _ step => inv.step step) {
    ids := JobIds.init
    sessions := fun _ _ found => nomatch found
    objects := fun _ member => nomatch member
    owed := fun _ _ there => nomatch there
    dispatching := fun _ _ _ found => nomatch found
    handed := fun _ member => nomatch member
    startFailed := fun _ member => nomatch member }
  refine ⟨fun sid st found => (inv.sessions sid st found).quiet, fun sid st id found reaches => ?_,
    fun id handed inactive returned finished => ?_⟩
  · have erased := inv.sessions sid st found
    have active : st.activeJobId = some id ∧ st.activeJob.isSome = true := by
      rcases reaches with ⟨job, active, rfl⟩ | ⟨handle, registered, rfl⟩
      · exact ⟨erased.job job active, by rw [active]; rfl⟩
      · exact erased.handle handle registered
    obtain ⟨job, held⟩ := Option.isSome_iff_exists.1 active.2
    have named := erased.job job held
    rw [active.1] at named
    exact ⟨(erased.pending (by rw [active.1]; rfl)).1, active.1, job, held,
      (Option.some.inj named).symm⟩
  · obtain ⟨known, started⟩ := inv.handed id handed
    obtain ⟨o, there⟩ := Dict.mem_keys_iff.1 known
    refine ⟨o, there, by_contra fun intact => ?_⟩
    rcases inv.owed id o there intact with active | ⟨t, member, owes⟩ | failed
    · exact inactive active
    · rcases owes with ⟨c, closing, -, ended⟩ | running
      · exact returned c.call ended t member c closing rfl
      · exact finished ⟨t, member, running⟩
    · exact started failed

/-- A glance is appended, its completion is dispatched, and the session is cancelled before the job is
registered. -/
def cancelledDispatch : List ServiceMove :=
  [.arrive (.checkAppend "session-0001" (some false) glanceBatch), .run 0 .proceeds,
    .run 0 (.reading 0), .run 0 .proceeds, .run 0 .proceeds,
    .arrive (.checkBegin "session-0001" (some false) lunaClient true), .run 1 .proceeds,
    .run 1 (.reading 0), .run 1 .proceeds, .run 1 (.drawn "job-1"), .run 1 (.succeeds true),
    .run 1 (.succeeds true), .run 1 (.succeeds true),
    .arrive (.cancel "session-0001" (some false)), .run 3 .proceeds, .run 1 .proceeds,
    .run 3 .proceeds, .run 3 .proceeds, .run 3 .proceeds]

/-- The job's queued `run_completion` has not even started, and its evidence is gone. -/
theorem evidence_erased_cancelled : ∃ s,
    Lts.Steps (serviceStep (smallEnv .c false)) Lts.Free {} cancelledDispatch s ∧
    "job-1" ∈ s.handed ∧ (∃ t ∈ s.threads, ∃ job, t.body = .queued job) ∧
    ∃ o, s.objects.get? "job-1" = some o ∧ o.Cleared := by
  have ran : (Lts.runAll (serviceStep (smallEnv .c false)) {} cancelledDispatch).any (fun s =>
      decide ("job-1" ∈ s.handed) &&
      s.threads.any (fun t => match t.body with | .queued _ => true | _ => false) &&
      s.world.states.entries.all (fun e => decide (e.2.activeJobId ≠ some "job-1")) &&
      s.threads.all fun t => t.closing.isNone && decide (t.body.runs ≠ some "job-1")) = true := by
    decide +kernel
  obtain ⟨s, stepped, facts⟩ := Option.any_eq_true _ _ |>.1 ran
  simp only [Bool.and_eq_true, decide_eq_true_eq, List.all_eq_true, List.any_eq_true] at facts
  obtain ⟨⟨⟨handed, t, member, isQueued⟩, inactive⟩, quiet⟩ := facts
  have run := Lts.steps_of_runAll stepped
  refine ⟨s, run, handed, ⟨t, member, ?_⟩, (evidence_erased run).2.2 "job-1" handed ?_ ?_ ?_⟩
  · split at isQueued
    · exact ⟨_, ‹_›⟩
    · cases isQueued
  · rintro ⟨sid, st, found, active⟩
    exact inactive (sid, st) (Dict.mem_entries_iff.2 found) active
  · intro call _ u listed c closing
    have none := (quiet u listed).1
    rw [closing] at none
    cases none
  · rintro ⟨u, listed, running⟩
    exact (quiet u listed).2 running

end Mkk.Api
