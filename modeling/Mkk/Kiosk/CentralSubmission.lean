import Mkk.Kiosk.RecordedBatches
import Mkk.Lib.Lts

/-!
# Submitting a recording

`submitCentralRecommendation` posts the batches one after the other, asks for the completion and, when
anything goes wrong, for the deletion of the session. Between the Kiosk and the store are requests under way:
one may fail for the Kiosk and still arrive, in any order with those that are sent later. Other sessions and
the sweep work on the store at any time. `completion_sees_recording` says that the store begins the completion
at most once and over the whole recording, unless the session was removed before.
-/

namespace Mkk.Kiosk

open Lib

/-! ## The flow -/

namespace Submission

inductive Request where
  | append (batch : ObservationBatch)
  | complete
  | discard

/-- Where `submitCentralRecommendation` stands: at the next check of the signal, at an `await`, or at its
end. -/
inductive Stage where
  | looping (left : List ObservationBatch)
  | appending (left : List ObservationBatch)
  | completing
  | discarding
  | returned
  | threw

end Submission

open Submission

/-- The flow, the store and the requests between them. The last four fields record what happened and are read
by nobody. -/
structure Submission where
  sessions : Api.Sessions
  stage : Stage
  aborted : Bool := false
  /-- The request the flow waits for, until it arrives. -/
  awaited : Option Request := none
  /-- The response of the store, until the flow reads it. -/
  response : Option Bool := none
  /-- Requests under way that nobody waits for. -/
  strays : List Request := []
  accepted : List Api.ObservationBatchV2 := []
  refused : Bool := false
  removed : Bool := false
  /-- What each completion began over, and whether the session had been removed before. -/
  begun : List (Bool × List Api.FrameObservationV2) := []

namespace Submission

/-- What reaches the store with a completion. -/
structure CompletionCall where
  client : Api.CentralRecommendationClient
  jobId : String

inductive Event where
  /-- `abortController.abort()`. -/
  | abort
  /-- The flow runs to its next `await`. -/
  | run
  /-- The awaited request reaches the store. -/
  | arrive (now : ℚ) (call : CompletionCall)
  /-- A stray request reaches the store. -/
  | stray (index : ℕ) (now : ℚ) (call : CompletionCall)
  /-- The flow reads the response. -/
  | resolve
  /-- The awaited request fails for the flow. -/
  | reject
  /-- Anything else that happens in the store and leaves the session as it is. -/
  | others (sessions : Api.Sessions)
  /-- The session is removed: it expired or was deleted by someone else. -/
  | remove (sessions : Api.Sessions)

section Steps

variable (env : Api.StoreEnv) (number : Root → ℚ) (sessionId : String)

/-- What a request does in the store, and whether the response is a success. The sweep it begins with is an
event of its own: `remove` when the session has expired and `others` when not. -/
def arrive (w : Submission) (now : ℚ) (call : CompletionCall) : Request → Bool × Submission
  | .append batch =>
    match batch.posted number with
    | none => (false, { w with refused := true })
    | some post =>
      match Api.appendBatch env w.sessions now sessionId (some false) post with
      | (.ok _, sessions) => (true, { w with sessions, accepted := w.accepted ++ [post] })
      | (.error _, sessions) => (false, { w with sessions, refused := true })
  | .complete =>
    let (result, sessions) :=
      Api.beginCompletion env w.sessions now sessionId (some false) call.client call.jobId
    (result.isOk, { w with
      sessions, begun := (w.removed, Api.bufferedFrames w.sessions sessionId) :: w.begun })
  | .discard =>
    (true, { w with
      sessions := (Api.cancelSession env w.sessions sessionId (some false)).2, removed := true })

/-- The `catch` block: `discardCentralSessionBestEffort`. -/
def fail (w : Submission) : Submission :=
  { w with
    stage := .discarding
    awaited := some .discard
    response := none
    strays := w.awaited.toList ++ w.strays }

def step (w : Submission) : Event → Option Submission
  | .abort => some { w with aborted := true }
  | .run =>
    match w.stage with
    | .looping left =>
      if w.aborted then some (fail w)
      else match left with
        | batch :: left => some { w with stage := .appending left, awaited := some (.append batch) }
        | [] => some { w with stage := .completing, awaited := some .complete }
    | _ => none
  | .arrive now call =>
    w.awaited.map fun request =>
      let (response, w) := arrive env number sessionId { w with awaited := none } now call request
      { w with response := some response }
  | .stray index now call =>
    w.strays[index]?.map fun request =>
      (arrive env number sessionId { w with strays := w.strays.eraseIdx index } now call request).2
  | .resolve =>
    w.response.bind fun response =>
      let read := { w with response := none }
      match w.stage with
      | .appending left => some (if response then { read with stage := .looping left } else fail read)
      | .completing => some (if response then { read with stage := .returned } else fail read)
      | .discarding => some { read with stage := .threw }
      | _ => none
  | .reject =>
    match w.stage with
    | .appending _ | .completing => some (fail w)
    | .discarding => some { w with
        stage := .threw, awaited := none, response := none, strays := w.awaited.toList ++ w.strays }
    | _ => none
  | .others sessions =>
    if sessions.get? sessionId = w.sessions.get? sessionId then some { w with sessions } else none
  | .remove sessions =>
    if sessions.get? sessionId = none then some { w with sessions, removed := true } else none

end Steps

/-- The flow is called. -/
def start (sessions : Api.Sessions) (batches : List ObservationBatch) : Submission where
  sessions := sessions
  stage := .looping batches

/-! ## What is under way -/

/-- A request that reads or adds frames. -/
def Request.data : Request → Bool
  | .discard => false
  | _ => true

section Invariant

variable (env : Api.StoreEnv) (sessionId : String) (batches : List ObservationBatch)
  (posts : List Api.ObservationBatchV2)

/-- What holds while a request is under way. -/
def Fits (w : Submission) : Request → Prop
  | .append batch => w.begun = [] ∧ ∃ k, batches[k]? = some batch ∧
      (w.removed = false → w.accepted = posts.take k)
  | .complete => w.begun = [] ∧ (w.removed = false → w.accepted = posts)
  | .discard => True

/-- What holds of the store and of the requests under way. -/
structure Kept (w : Submission) (underWay : List Request) : Prop where
  took : w.removed = false → w.begun = [] → ∀ now, Api.Buffered env sessionId w.accepted w.sessions now
  kept : w.removed = false → w.refused = false
  seen : ∀ found ∈ w.begun, found.1 = true ∨ found.2 = posts.flatMap (·.observations)
  once : w.begun.length ≤ 1
  fits : ∀ request ∈ underWay, Fits batches posts w request
  one : (underWay.filter Request.data).length ≤ 1

end Invariant

/-- What was proved of the batches before they are posted. -/
structure Ready (env : Api.StoreEnv) (number : Root → ℚ) (sessionId : String)
    (context : Api.SessionRecommendationContext) (batches : List ObservationBatch)
    (posts : List Api.ObservationBatchV2) : Prop where
  each : List.Forall₂ (Posts number) batches posts
  inOrder : Api.InOrder (posts.flatMap (·.observations))
  few : (posts.flatMap (·.observations)).length ≤ 512
  ids : (posts.map (·.batchId)).Nodup
  sequences : (posts.map (·.batchSequence)).Nodup
  passed : ∀ post ∈ posts, Api.checkBatch env sessionId (some false) post = .ok context

section Keep

variable {env : Api.StoreEnv} {number : Root → ℚ} {sessionId : String}
  {context : Api.SessionRecommendationContext} {batches : List ObservationBatch}
  {posts : List Api.ObservationBatchV2} {w : Submission} {underWay rest : List Request}

theorem Kept.perm (h : Kept env sessionId batches posts w underWay) (same : underWay.Perm rest) :
    Kept env sessionId batches posts w rest where
  took := h.took
  kept := h.kept
  seen := h.seen
  once := h.once
  fits request listed := h.fits request (same.mem_iff.2 listed)
  one := (same.filter _).length_eq ▸ h.one

/-- A batch under way that reaches a session in order is accepted. -/
theorem Ready.append (ready : Ready env number sessionId context batches posts) {k : ℕ}
    {batch : ObservationBatch} (here : batches[k]? = some batch) {sessions : Api.Sessions} {now : ℚ}
    (took : Api.Buffered env sessionId (posts.take k) sessions now) :
    ∃ post sessions', batch.posted number = some post ∧ posts.take (k + 1) = posts.take k ++ [post] ∧
      Api.appendBatch env sessions now sessionId (some false) post =
        (.ok ⟨post.batchId, .accepted⟩, sessions') ∧
      ∀ later, Api.Buffered env sessionId (posts.take (k + 1)) sessions' later := by
  obtain ⟨inside, rfl⟩ := List.getElem?_eq_some_iff.1 here
  have count := ready.each.length_eq
  have inside' : k < posts.length := count ▸ inside
  have posted : Posts number batches[k] posts[k] := (List.forall₂_iff_get.1 ready.each).2 k inside inside'
  have next : posts.take (k + 1) = posts.take k ++ [posts[k]] := by
    rw [List.take_add_one, List.getElem?_eq_getElem inside']
    rfl
  have together : Api.BatchesInOrder posts := ⟨ready.inOrder, ready.few, ready.ids, ready.sequences⟩
  rw [← List.take_append_drop (k + 1) posts, next] at together
  obtain ⟨sessions', appended, later, -⟩ :=
    took.append (ready.passed _ (List.getElem_mem inside')) together.left
  exact ⟨posts[k], sessions', posted.posted, next, appended, by rwa [next]⟩

/-- An arrival is the store's business. -/
structure SameFlow (w w' : Submission) : Prop where
  stage : w'.stage = w.stage
  awaited : w'.awaited = w.awaited
  response : w'.response = w.response
  strays : w'.strays = w.strays

/-- Beside a request that reads or adds frames there is none. -/
theorem Kept.alone {request : Request} (h : Kept env sessionId batches posts w (request :: rest))
    (reads : request.data = true) (w' : Submission) : ∀ other ∈ rest, Fits batches posts w' other := by
  intro other listed
  have one := h.one
  rw [List.filter_cons_of_pos reads, List.length_cons] at one
  have none : other.data = false := by
    by_contra data
    have known : other ∈ rest.filter Request.data := List.mem_filter.2 ⟨listed, by simpa using data⟩
    have := List.length_pos_of_mem known
    omega
  cases other with
  | append batch => cases none
  | complete => cases none
  | discard => trivial

theorem Kept.rest_one {request : Request} (h : Kept env sessionId batches posts w (request :: rest)) :
    (rest.filter Request.data).length ≤ 1 :=
  (((List.sublist_cons_self request rest).filter _).length_le).trans h.one

/-- Nothing is promised of a session that was removed. -/
theorem Kept.after_removal (h : Kept env sessionId batches posts w underWay) (gone : w.removed = true)
    (fits : ∀ w', ∀ request ∈ rest, Fits batches posts w' request)
    (one : (rest.filter Request.data).length ≤ 1) (w' : Submission) (same : w'.removed = w.removed)
    (found : w'.begun = w.begun) : Kept env sessionId batches posts w' rest where
  took still := by
    rw [same, gone] at still
    cases still
  kept still := by
    rw [same, gone] at still
    cases still
  seen := by
    rw [found]
    exact h.seen
  once := by
    rw [found]
    exact h.once
  fits := fits w'
  one := one

/-- A batch that arrives touches the session and what was accepted or refused. -/
theorem arrive_append_frame {batch : ObservationBatch} (now : ℚ) (call : CompletionCall) :
    let result := arrive env number sessionId w now call (.append batch)
    SameFlow w result.2 ∧ result.2.begun = w.begun ∧ result.2.removed = w.removed := by
  cases posted : batch.posted number with
  | none =>
    simp only [arrive, posted, and_self, and_true]
    exact ⟨rfl, rfl, rfl, rfl⟩
  | some post =>
    cases appended : Api.appendBatch env w.sessions now sessionId (some false) post with
    | mk answer sessions =>
      cases answer <;> simp only [arrive, posted, appended, and_self, and_true] <;> exact ⟨rfl, rfl, rfl, rfl⟩

/-- **A batch arrives.** -/
theorem Kept.arrive_append (ready : Ready env number sessionId context batches posts)
    {batch : ObservationBatch} (h : Kept env sessionId batches posts w (.append batch :: rest)) {k : ℕ}
    (here : batches[k]? = some batch) (accepted : w.removed = false → w.accepted = posts.take k) (now : ℚ)
    (call : CompletionCall) :
    let result := arrive env number sessionId w now call (.append batch)
    Kept env sessionId batches posts result.2 rest ∧ SameFlow w result.2 ∧ result.2.begun = w.begun ∧
      result.2.removed = w.removed ∧
      (w.removed = false → result.1 = true ∧ result.2.accepted = posts.take (k + 1)) := by
  obtain ⟨none, -⟩ := h.fits _ List.mem_cons_self
  have one := h.rest_one
  have alone := h.alone rfl
  cases there : w.removed with
  | true =>
    obtain ⟨same, found, gone⟩ := @arrive_append_frame env number sessionId w batch now call
    exact ⟨h.after_removal there alone one _ gone found, same, found, gone.trans there, fun still => by cases still⟩
  | false =>
    have took := h.took there none now
    rw [accepted there] at took
    obtain ⟨post, sessions, posted, next, appended, later⟩ := ready.append here took
    have result : arrive env number sessionId w now call (.append batch) =
        (true, { w with sessions, accepted := w.accepted ++ [post] }) := by
      simp only [arrive, posted, appended]
    rw [result]
    refine ⟨?_, ⟨rfl, rfl, rfl, rfl⟩, rfl, there, fun _ => ⟨rfl, ?_⟩⟩
    · exact {
        took := fun _ _ at' => by rw [accepted there, ← next]; exact later at'
        kept := h.kept
        seen := h.seen
        once := h.once
        fits := alone _
        one := one }
    · rw [accepted there, next]

/-- **The completion arrives.** -/
theorem Kept.arrive_complete (number : Root → ℚ) (h : Kept env sessionId batches posts w (.complete :: rest)) (now : ℚ)
    (call : CompletionCall) :
    let result := arrive env number sessionId w now call .complete
    Kept env sessionId batches posts result.2 rest ∧ SameFlow w result.2 ∧ result.2.begun ≠ [] := by
  obtain ⟨none, whole⟩ := h.fits _ List.mem_cons_self
  refine ⟨?_, ⟨rfl, rfl, rfl, rfl⟩, List.cons_ne_nil _ _⟩
  exact {
    took := fun _ begun => absurd begun (List.cons_ne_nil _ _)
    kept := h.kept
    seen := by
      have first : w.removed = true ∨
          Api.bufferedFrames w.sessions sessionId = posts.flatMap (·.observations) := by
        cases there : w.removed with
        | true => exact .inl rfl
        | false =>
          refine .inr ?_
          rw [(h.took there none now).bufferedFrames_eq, whole there]
      exact List.forall_mem_cons.2 ⟨first, h.seen⟩
    once := by
      simp only [arrive, none]
      exact le_rfl
    fits := h.alone rfl _
    one := h.rest_one }

/-- **The deletion arrives.** -/
theorem Kept.arrive_discard (number : Root → ℚ) (h : Kept env sessionId batches posts w (.discard :: rest)) (now : ℚ)
    (call : CompletionCall) :
    let result := arrive env number sessionId w now call .discard
    Kept env sessionId batches posts result.2 rest ∧ SameFlow w result.2 ∧ result.2.begun = w.begun := by
  refine ⟨?_, ⟨rfl, rfl, rfl, rfl⟩, rfl⟩
  exact {
    took := fun still => by cases still
    kept := fun still => by cases still
    seen := h.seen
    once := h.once
    fits := fun request listed => by
      have before := h.fits request (List.mem_cons_of_mem _ listed)
      cases request with
      | append batch =>
        obtain ⟨none, k, here, -⟩ := before
        exact ⟨none, k, here, fun still => by cases still⟩
      | complete => exact ⟨before.1, fun still => by cases still⟩
      | discard => trivial
    one := h.rest_one }

/-- A request that arrives leaves the rest under way. -/
theorem Kept.arrive (ready : Ready env number sessionId context batches posts) {request : Request}
    (h : Kept env sessionId batches posts w (request :: rest)) (now : ℚ) (call : CompletionCall) :
    let result := Submission.arrive env number sessionId w now call request
    Kept env sessionId batches posts result.2 rest ∧ SameFlow w result.2 ∧
      (w.begun ≠ [] → result.2.begun ≠ []) := by
  cases request with
  | append batch =>
    obtain ⟨-, k, here, accepted⟩ := h.fits _ List.mem_cons_self
    obtain ⟨kept, same, begun, -⟩ := h.arrive_append ready here accepted now call
    exact ⟨kept, same, fun some => by rwa [begun]⟩
  | complete =>
    obtain ⟨kept, same, begun⟩ := h.arrive_complete number now call
    exact ⟨kept, same, fun _ => begun⟩
  | discard =>
    obtain ⟨kept, same, begun⟩ := h.arrive_discard number now call
    exact ⟨kept, same, fun some => by rwa [begun]⟩

end Keep

/-! ## Where the flow stands -/

/-- What holds where the flow stands. -/
def Standing (batches : List ObservationBatch) (posts : List Api.ObservationBatchV2) (w : Submission) : Prop :=
  match w.stage with
  | .looping left => w.awaited = none ∧ w.response = none ∧ w.strays = [] ∧ w.begun = [] ∧
      ∃ k, left = batches.drop k ∧ (w.removed = false → w.accepted = posts.take k)
  | .appending left => w.strays = [] ∧ w.begun = [] ∧ ∃ k batch, batches[k]? = some batch ∧
      left = batches.drop (k + 1) ∧
      (w.awaited = some (.append batch) ∧ w.response = none ∧
          (w.removed = false → w.accepted = posts.take k) ∨
        w.awaited = none ∧ ∃ ok, w.response = some ok ∧
          (w.removed = false → ok = true ∧ w.accepted = posts.take (k + 1)))
  | .completing => w.strays = [] ∧ (w.awaited = some .complete ∧ w.response = none ∨
      w.awaited = none ∧ w.response.isSome = true ∧ w.begun ≠ [])
  | .discarding => w.awaited = none ∨ w.awaited = some .discard ∧ w.response = none
  | .returned => w.awaited = none ∧ w.strays = [] ∧ w.begun ≠ []
  | .threw => w.awaited = none

/-- The requests under way. -/
def underWay (w : Submission) : List Request := w.awaited.toList ++ w.strays

/-- **The invariant** of a submission. -/
structure Inv (env : Api.StoreEnv) (sessionId : String) (batches : List ObservationBatch)
    (posts : List Api.ObservationBatchV2) (w : Submission) : Prop where
  kept : Kept env sessionId batches posts w w.underWay
  standing : Standing batches posts w

section Runs

variable {env : Api.StoreEnv} {number : Root → ℚ} {sessionId : String}
  {context : Api.SessionRecommendationContext} {batches : List ObservationBatch}
  {posts : List Api.ObservationBatchV2} {w w' : Submission} {e : Event}

/-- The flow that fails asks for the deletion; what it waited for is still under way. -/
theorem Kept.fail (h : Kept env sessionId batches posts w w.underWay) :
    Inv env sessionId batches posts (fail w) where
  kept := {
    took := h.took
    kept := h.kept
    seen := h.seen
    once := h.once
    fits := List.forall_mem_cons.2 ⟨trivial, h.fits⟩
    one := h.one }
  standing := .inr ⟨rfl, rfl⟩

/-- A request that is sent when none is under way. -/
theorem Kept.send (h : Kept env sessionId batches posts w w.underWay) (none : w.strays = []) {request : Request}
    (fits : Fits batches posts w request) {stage : Stage} :
    Kept env sessionId batches posts { w with stage, awaited := some request }
      (underWay { w with stage, awaited := some request }) where
  took := h.took
  kept := h.kept
  seen := h.seen
  once := h.once
  fits := by
    intro other listed
    rw [underWay] at listed
    simp only [none, List.append_nil, Option.toList_some, List.mem_singleton] at listed
    rw [listed]
    exact fits
  one := by
    rw [underWay]
    simp only [none, List.append_nil, Option.toList_some]
    exact List.length_filter_le _ _

theorem Inv.run (h : Inv env sessionId batches posts w) (length : batches.length = posts.length)
    (ran : step env number sessionId w .run = some w') : Inv env sessionId batches posts w' := by
  have standing := h.standing
  unfold Standing at standing
  simp only [step] at ran
  split at ran
  · rename_i left at'
    rw [at'] at standing
    obtain ⟨awaited, response, strays, none, k, rfl, accepted⟩ := standing
    split at ran
    · cases ran
      exact h.kept.fail
    · split at ran
      · rename_i batch left found
        cases ran
        have here : batches[k]? = some batch := by
          have first : (batches.drop k)[0]? = some batch := by rw [found]; rfl
          rwa [List.getElem?_drop] at first
        have tail : left = batches.drop (k + 1) := by rw [← List.tail_drop, found]; rfl
        have fits : Fits batches posts w (.append batch) := ⟨none, k, here, accepted⟩
        exact ⟨h.kept.send strays fits,
          strays, none, k, batch, here, tail, .inl ⟨rfl, response, accepted⟩⟩
      · rename_i found
        cases ran
        have all : posts.take k = posts := by
          have := List.drop_eq_nil_iff.1 found
          exact List.take_of_length_le (by omega)
        rw [all] at accepted
        have fits : Fits batches posts w .complete := ⟨none, accepted⟩
        exact ⟨h.kept.send strays fits, strays, .inl ⟨rfl, response⟩⟩
  · cases ran

/-- A request that nobody waits for arrives. -/
theorem Inv.stray (h : Inv env sessionId batches posts w) (ready : Ready env number sessionId context batches posts)
    {index : ℕ} {now : ℚ} {call : CompletionCall}
    (ran : step env number sessionId w (.stray index now call) = some w') :
    Inv env sessionId batches posts w' := by
  obtain ⟨request, found, rfl⟩ := Option.map_eq_some_iff.1 ran
  obtain ⟨inside, rfl⟩ := List.getElem?_eq_some_iff.1 found
  have order : w.underWay.Perm (w.strays[index] :: (w.awaited.toList ++ w.strays.eraseIdx index)) :=
    ((List.getElem_cons_eraseIdx_perm inside).symm.append_left _).trans List.perm_middle
  have others : Kept env sessionId batches posts { w with strays := w.strays.eraseIdx index }
      (w.strays[index] :: (w.awaited.toList ++ w.strays.eraseIdx index)) := by
    have kept := h.kept.perm order
    exact { took := kept.took, kept := kept.kept, seen := kept.seen, once := kept.once, fits := kept.fits,
            one := kept.one }
  obtain ⟨kept, same, begun⟩ := others.arrive ready now call
  have standing := h.standing
  unfold Standing at standing
  have some : w.strays ≠ [] := List.ne_nil_of_length_pos (Nat.zero_lt_of_lt inside)
  generalize arrive env number sessionId { w with strays := w.strays.eraseIdx index } now call
    w.strays[index] = result at kept same begun
  have stage : result.2.stage = w.stage := same.stage
  have awaited : result.2.awaited = w.awaited := same.awaited
  have response : result.2.response = w.response := same.response
  have strays : result.2.strays = w.strays.eraseIdx index := same.strays
  constructor
  · rw [underWay, awaited, strays]
    exact kept
  · unfold Standing
    rw [stage]
    cases at' : w.stage with
    | looping left =>
      rw [at'] at standing
      exact absurd standing.2.2.1 some
    | appending left =>
      rw [at'] at standing
      exact absurd standing.1 some
    | completing =>
      rw [at'] at standing
      exact absurd standing.1 some
    | discarding =>
      rw [at'] at standing
      dsimp only
      rw [awaited, response]
      exact standing
    | returned =>
      rw [at'] at standing
      exact absurd standing.2.1 some
    | threw =>
      rw [at'] at standing
      dsimp only
      rw [awaited]
      exact standing

/-- The requests are the same and so is what was done with the session. -/
theorem Kept.of_same (h : Kept env sessionId batches posts w w.underWay) (requests : w'.underWay = w.underWay)
    (sessions : w'.sessions.get? sessionId = w.sessions.get? sessionId) (accepted : w'.accepted = w.accepted)
    (refused : w'.refused = w.refused) (removed : w'.removed = w.removed) (begun : w'.begun = w.begun) :
    Kept env sessionId batches posts w' w'.underWay where
  took still none now := by
    rw [removed] at still
    rw [begun] at none
    have before := h.took still none now
    have opened : (Api.openSession env w'.sessions sessionId now).1 =
        (Api.openSession env w.sessions sessionId now).1 := by
      rw [Api.openSession_eq, Api.openSession_eq, sessions]
    rw [accepted]
    exact ⟨by rw [opened]; exact before.reads, by rw [opened]; exact before.ids,
      by rw [opened]; exact before.sequences⟩
  kept := by
    rw [removed, refused]
    exact h.kept
  seen := by
    rw [begun]
    exact h.seen
  once := by
    rw [begun]
    exact h.once
  fits request listed := by
    rw [requests] at listed
    have before := h.fits request listed
    cases request with
    | append batch => simpa only [Fits, removed, accepted, begun] using before
    | complete => simpa only [Fits, removed, accepted, begun] using before
    | discard => trivial
  one := by
    rw [requests]
    exact h.one

/-- What arrived is no longer under way, and its response is. -/
theorem Kept.settle {result : Bool × Submission} {before : Submission} {strays : List Request}
    (h : Kept env sessionId batches posts result.2 strays) (same : SameFlow before result.2)
    (awaited : before.awaited = none) (own : before.strays = strays) :
    Kept env sessionId batches posts { result.2 with response := some result.1 }
      (underWay { result.2 with response := some result.1 }) := by
  have requests : underWay { result.2 with response := some result.1 } = strays := by
    simp only [underWay, same.awaited, awaited, same.strays, own, Option.toList_none, List.nil_append]
  rw [requests]
  exact { took := h.took, kept := h.kept, seen := h.seen, once := h.once, fits := h.fits, one := h.one }

/-- The awaited request arrives. -/
theorem Inv.arrive (h : Inv env sessionId batches posts w)
    (ready : Ready env number sessionId context batches posts) {now : ℚ} {call : CompletionCall}
    (ran : step env number sessionId w (.arrive now call) = some w') : Inv env sessionId batches posts w' := by
  obtain ⟨request, found, rfl⟩ := Option.map_eq_some_iff.1 ran
  have alone : Kept env sessionId batches posts { w with awaited := none } (request :: w.strays) := by
    have kept := h.kept
    rw [underWay, found] at kept
    exact { took := kept.took, kept := kept.kept, seen := kept.seen, once := kept.once, fits := kept.fits,
            one := kept.one }
  have standing := h.standing
  unfold Standing at standing
  -- the state without the request, of which only these are used
  obtain ⟨before, is⟩ : ∃ before, before = { w with awaited := none } := ⟨_, rfl⟩
  have stage : before.stage = w.stage := by rw [is]
  have awaited : before.awaited = none := by rw [is]
  have own : before.strays = w.strays := by rw [is]
  have same : before.removed = w.removed ∧ before.accepted = w.accepted ∧ before.begun = w.begun := by
    rw [is]
    exact ⟨rfl, rfl, rfl⟩
  rw [← is] at alone ⊢
  cases at' : w.stage with
  | looping left =>
    rw [at', found] at standing
    cases standing.1
  | appending left =>
    rw [at', found] at standing
    obtain ⟨strays, none, k, batch, here, tail, ⟨⟨⟩, response, accepted⟩ | ⟨⟨⟩, -⟩⟩ := standing
    rw [← same.1, ← same.2.1] at accepted
    obtain ⟨kept, flow, begun, removed, result⟩ := alone.arrive_append ready here accepted now call
    refine ⟨kept.settle flow awaited own, ?_⟩
    unfold Standing
    simp only [flow.stage, stage, at', flow.awaited, awaited, flow.strays, own, begun, same.2.2, removed]
    exact ⟨strays, none, k, batch, here, tail, .inr ⟨trivial, _, rfl, result⟩⟩
  | completing =>
    rw [at', found] at standing
    obtain ⟨strays, ⟨⟨⟩, response⟩ | ⟨⟨⟩, -⟩⟩ := standing
    obtain ⟨kept, flow, begun⟩ := alone.arrive_complete number now call
    refine ⟨kept.settle flow awaited own, ?_⟩
    unfold Standing
    simp only [flow.stage, stage, at', flow.awaited, awaited, flow.strays, own]
    exact ⟨strays, .inr ⟨trivial, rfl, begun⟩⟩
  | discarding =>
    obtain ⟨kept, flow, begun⟩ := alone.arrive ready now call
    refine ⟨kept.settle flow awaited own, ?_⟩
    unfold Standing
    simp only [flow.stage, stage, at', flow.awaited, awaited]
    exact .inl trivial
  | returned =>
    rw [at', found] at standing
    cases standing.1
  | threw =>
    rw [at', found] at standing
    cases standing

/-- The flow reads a response. -/
theorem Inv.resolve (h : Inv env sessionId batches posts w)
    (ran : step env number sessionId w .resolve = some w') : Inv env sessionId batches posts w' := by
  obtain ⟨ok, response, ran⟩ := Option.bind_eq_some_iff.1 ran
  have standing := h.standing
  unfold Standing at standing
  have read {stage : Stage} : Kept env sessionId batches posts { w with response := none, stage }
      (underWay { w with response := none, stage }) := h.kept.of_same rfl rfl rfl rfl rfl rfl
  have failed : Inv env sessionId batches posts (fail { w with response := none }) :=
    Kept.fail (h.kept.of_same rfl rfl rfl rfl rfl rfl)
  dsimp only at ran
  split at ran
  · rename_i left at'
    rw [at'] at standing
    obtain ⟨strays, none, k, batch, here, tail, ⟨-, missing, -⟩ | ⟨awaited, ok', own, accepted⟩⟩ := standing
    · rw [response] at missing
      cases missing
    · obtain rfl : ok = ok' := Option.some.inj (response.symm.trans own)
      cases ok with
      | false =>
        cases ran
        exact failed
      | true =>
        cases ran
        exact ⟨read, awaited, rfl, strays, none, k + 1, tail, fun still => (accepted still).2⟩
  · rename_i at'
    rw [at'] at standing
    obtain ⟨strays, ⟨-, missing⟩ | ⟨awaited, -, begun⟩⟩ := standing
    · rw [response] at missing
      cases missing
    · cases ok with
      | false =>
        cases ran
        exact failed
      | true =>
        cases ran
        exact ⟨read, awaited, strays, begun⟩
  · rename_i at'
    rw [at'] at standing
    cases ran
    rcases standing with awaited | ⟨-, missing⟩
    · exact ⟨read, awaited⟩
    · rw [response] at missing
      cases missing
  · cases ran

/-- The awaited request fails for the flow. -/
theorem Inv.reject (h : Inv env sessionId batches posts w)
    (ran : step env number sessionId w .reject = some w') : Inv env sessionId batches posts w' := by
  simp only [step] at ran
  split at ran
  · cases ran
    exact h.kept.fail
  · cases ran
    exact h.kept.fail
  · cases ran
    exact ⟨h.kept.of_same rfl rfl rfl rfl rfl rfl, rfl⟩
  · cases ran

/-- What is under way fits a session that was removed. -/
theorem Fits.removed {request : Request} (h : Fits batches posts w request) (sessions : Api.Sessions) :
    Fits batches posts { w with sessions, removed := true } request := by
  cases request with
  | append batch =>
    obtain ⟨none, k, here, -⟩ := h
    exact ⟨none, k, here, fun still => by cases still⟩
  | complete => exact ⟨h.1, fun still => by cases still⟩
  | discard => trivial

/-- The session is removed. -/
theorem Inv.remove (h : Inv env sessionId batches posts w) (sessions : Api.Sessions) :
    Inv env sessionId batches posts { w with sessions, removed := true } where
  kept := {
    took := fun still => by cases still
    kept := fun still => by cases still
    seen := h.kept.seen
    once := h.kept.once
    fits := fun request listed => (h.kept.fits request listed).removed sessions
    one := h.kept.one }
  standing := by
    have standing := h.standing
    unfold Standing at standing ⊢
    dsimp only
    cases at' : w.stage with
    | looping left =>
      rw [at'] at standing
      obtain ⟨awaited, response, strays, none, k, tail, -⟩ := standing
      exact ⟨awaited, response, strays, none, k, tail, fun still => by cases still⟩
    | appending left =>
      rw [at'] at standing
      obtain ⟨strays, none, k, batch, here, tail, ⟨awaited, response, -⟩ | ⟨awaited, ok, response, -⟩⟩ := standing
      · exact ⟨strays, none, k, batch, here, tail, .inl ⟨awaited, response, fun still => by cases still⟩⟩
      · exact ⟨strays, none, k, batch, here, tail, .inr ⟨awaited, ok, response, fun still => by cases still⟩⟩
    | completing =>
      rw [at'] at standing
      exact standing
    | discarding =>
      rw [at'] at standing
      exact standing
    | returned =>
      rw [at'] at standing
      exact standing
    | threw =>
      rw [at'] at standing
      exact standing

/-- **Every event** keeps the invariant. -/
theorem Inv.step (h : Inv env sessionId batches posts w)
    (ready : Ready env number sessionId context batches posts)
    (ran : Submission.step env number sessionId w e = some w') : Inv env sessionId batches posts w' := by
  cases e with
  | abort =>
    cases ran
    exact ⟨h.kept.of_same rfl rfl rfl rfl rfl rfl, h.standing⟩
  | run => exact h.run ready.each.length_eq ran
  | arrive now call => exact h.arrive ready ran
  | stray index now call => exact h.stray ready ran
  | resolve => exact h.resolve ran
  | reject => exact h.reject ran
  | others sessions =>
    simp only [Submission.step] at ran
    split at ran
    · rename_i same
      cases ran
      exact ⟨h.kept.of_same rfl same rfl rfl rfl rfl, h.standing⟩
    · cases ran
  | remove sessions =>
    simp only [Submission.step] at ran
    split at ran
    · cases ran
      exact h.remove sessions
    · cases ran

/-- A session the store does not know yet. -/
theorem inv_start {sessions : Api.Sessions} (unknown : sessions.get? sessionId = none) :
    Inv env sessionId batches posts (start sessions batches) where
  kept := {
    took := fun _ _ now => Api.Buffered.unknown unknown
    kept := fun _ => rfl
    seen := fun found listed => by cases listed
    once := Nat.zero_le _
    fits := fun request listed => by cases listed
    one := Nat.zero_le _ }
  standing := ⟨rfl, rfl, rfl, rfl, 0, rfl, fun _ => rfl⟩

end Runs

end Submission

/-! ## Whole runs -/

/-- What is proved of the batches of a recording before they are posted. -/
theorem exists_ready {options : BuildOptions} {C : Type} [LinearOrder C] {collate : String → C}
    {batches : List ObservationBatch} {env : Api.StoreEnv} {context : Api.SessionRecommendationContext}
    {number : Root → ℚ} (recorded : Recorded options)
    (built : buildObservationBatchesV2 options collate = .ok batches) (positive : ∀ r, 0 ≤ number r)
    (found : env.context options.sessionId = some context) (video : context.videoId = options.manifestVideoId)
    (manifest : context.manifestVersion = options.manifestVersion) (approved : context.Approved)
    (inside : ∀ stamp ∈ options.stamps, ∀ m ∈ context.aoiMetadata, stamp.videoTimeMs < m.durationMs) :
    ∃ posts, Ready env number options.sessionId context batches posts := by
  obtain ⟨posts, as⟩ := exists_postedAs recorded built positive
  exact ⟨posts, as.each, as.inOrder, as.few, as.ids, as.sequences,
    (as.passes_iff found video manifest approved).2 inside⟩

/-- The call of a completion that reaches the store. -/
def firstCall : CompletionCall where
  client := Api.lunaClient
  jobId := "job-1"

/-- Three frames of a session, of which two have an expression. -/
def shortRecording : BuildOptions where
  batchId := "batch-1"
  batchSequence := 0
  sessionId := "session-0001"
  manifestVideoId := "mcm-lookbook-v2"
  manifestVersion := "manifest-1"
  gazeSamples := [(0, .valid 0 0), (1, .valid (1 / 2) 0), (2, .invalid "blink")].map fun turn =>
    { sampleGaze turn.1 turn.2 with sessionId := "session-0001", videoId := "mcm-lookbook-v2" }
  expressionSamples := [0, 1].map fun sequence =>
    { sampleExpression sequence (Dict.empty.set "smile" 1) with
      sessionId := "session-0001", videoId := "mcm-lookbook-v2" }
  videoLayout _ := some squareLayout

-- the batch fails for the Kiosk on its way and arrives after the deletion
example : ((buildObservationBatchesV2 shortRecording (id : String → String)).toOption.bind fun batches =>
    Lts.runAll (Submission.step (Api.smallEnv .c false) exactRoot "session-0001") (.start Dict.empty batches)
      [.run, .reject, .arrive 0 firstCall, .stray 0 1 firstCall, .resolve]).any
      (fun w => w.removed && w.begun.isEmpty && !w.accepted.isEmpty) = true := by decide +kernel

namespace Submission

/-- The flow is at a batch and no request is under way. -/
def posting (sessions : Api.Sessions) (left : List ObservationBatch) (accepted : List Api.ObservationBatchV2) :
    Submission where
  sessions := sessions
  stage := .looping left
  accepted := accepted

/-- The next batch is posted. -/
theorem Ready.post {env : Api.StoreEnv} {number : Root → ℚ} {sessionId : String}
    {context : Api.SessionRecommendationContext} {batches left : List ObservationBatch}
    {posts accepted : List Api.ObservationBatchV2} (ready : Ready env number sessionId context batches posts)
    {k : ℕ} {batch : ObservationBatch} (here : batches[k]? = some batch) {sessions : Api.Sessions}
    (took : ∀ now, Api.Buffered env sessionId (posts.take k) sessions now) (now : ℚ) (call : CompletionCall) :
    ∃ sessions' accepted', Lts.Steps (step env number sessionId) Lts.Free
        (posting sessions (batch :: left) accepted) [.run, .arrive now call, .resolve]
        (posting sessions' left accepted') ∧
      ∀ later, Api.Buffered env sessionId (posts.take (k + 1)) sessions' later := by
  obtain ⟨post, sessions', posted, -, appended, later⟩ := ready.append here (took now)
  refine ⟨sessions', accepted ++ [post], Lts.steps_of_runAll ?_, later⟩
  have arrived : arrive env number sessionId
      { posting sessions (batch :: left) accepted with stage := .appending left } now call (.append batch) =
        (true, { posting sessions' (batch :: left) (accepted ++ [post]) with stage := .appending left }) := by
    simp only [arrive, posted, posting, appended]
  change ((fun result => { result.2 with response := some result.1 }) <$>
      some (arrive env number sessionId
        { posting sessions (batch :: left) accepted with stage := .appending left } now call (.append batch)) >>=
    fun w => step env number sessionId w .resolve >>= some) = _
  rw [arrived]
  rfl

end Submission

/-- Two batches reach the store; the completion fails for the Kiosk on its way and arrives before the
deletion. -/
def lateRun : List Submission.Event :=
  [.run, .arrive 0 firstCall, .resolve, .run, .arrive 60 firstCall, .resolve, .run, .reject,
    .stray 0 120 firstCall, .arrive 121 firstCall, .resolve]

end Mkk.Kiosk
