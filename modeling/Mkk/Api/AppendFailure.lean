import Mkk.Api.Store

/-!
# Calls of `append_batch` that raise

The call with its assignments one by one and its exceptions where the source raises them, so that an
exception keeps what was assigned before it. The prospective copies are local to the call and are
assigned at its end, after the last check (`appendCall_run`). A call that raises leaves the session as it
was, or empty where it found none that had not expired, and a later call returns what it would have
returned without it (`append_failure`).
-/

namespace Mkk.Api

open Lib

/-! ## The call with its assignments -/

/-- A part of the call on the sessions the store holds. -/
abbrev Call (α : Type) : Type := EStateM PyError Sessions α

/-- A computation on local values only. -/
def locally {α : Type} : Except PyError α → Call α
  | .ok a => pure a
  | .error e => throw e

/-- `state = self._states.get(session_id)`, with the state that is stored when there is none. -/
def readSession (env : StoreEnv) (sessionId : String) (now : ℚ) : Call V2SessionState := do
  match (← get).get? sessionId with
  | some s => return s
  | none =>
    modify fun states => states.set sessionId (.fresh env.config now)
    return .fresh env.config now

/-- An assignment to the session's state. -/
def assign (sessionId : String) (f : V2SessionState → V2SessionState) : Call Unit :=
  modify fun states => match states.get? sessionId with
    | some s => states.set sessionId (f s)
    | none => states

/-- The merge loop and the checks of the whole buffer; they only see the prospective copies. -/
def mergeBatch (context : SessionRecommendationContext) (batch : ObservationBatchV2)
    (s : V2SessionState) :
    Call (Prospective × Dict ℕ ℕ × Dict (ℕ × String) (List ResolvedSourceAoiHit)) := do
  let p ← batch.observations.foldlM (fun p observation => locally (p.read observation))
    ⟨s.observations, s.sequenceIndex, s.highestPlaybackEpoch, false⟩
  if movesBack ((ordered p.observations.values).map (·.sessionOffsetMs)) then
    throw (.domain 400 "session_offset_conflict"
      "session_offset_ms must be nondecreasing in analysis order")
  let last ← locally (lastVideoTimes p.observations.values s.lastVideoTimeByEpoch)
  let hits ← locally (resolveHits context p.observations.values)
  return (p, last, hits)

/-- The assignments at the end. -/
def publish (sessionId fingerprint : String) (expiresAt : ℚ) (batch : ObservationBatchV2)
    (p : Prospective) (last : Dict ℕ ℕ) (hits : Dict (ℕ × String) (List ResolvedSourceAoiHit)) :
    Call Unit := do
  assign sessionId fun s => { s with observations := p.observations }
  assign sessionId fun s => { s with resolvedSourceHits := hits }
  assign sessionId fun s => { s with sequenceIndex := p.sequenceIndex }
  assign sessionId fun s => { s with
    batchFingerprints := s.batchFingerprints.set batch.batchId fingerprint }
  assign sessionId fun s => { s with
    batchSequenceIndex := s.batchSequenceIndex.set batch.batchSequence batch.batchId }
  assign sessionId fun s => { s with highestPlaybackEpoch := p.highestEpoch }
  assign sessionId fun s => { s with lastVideoTimeByEpoch := last }
  assign sessionId fun s => { s with expiresAt := expiresAt }

/-- The locked section. -/
def appendLocked (env : StoreEnv) (context : SessionRecommendationContext) (sessionId : String)
    (now : ℚ) (batch : ObservationBatchV2) : Call ObservationBatchAcceptedV2 := do
  let s ← readSession env sessionId now
  if s.status ≠ .collecting then
    throw (.domain 409 "session_completed" "session is no longer collecting")
  match s.batchFingerprints.get? batch.batchId with
  | some old =>
    if old ≠ env.hashing.fingerprint batch then
      throw (.domain 409 "batch_id_conflict" "batch_id was already used for different observations")
    return ⟨batch.batchId, .duplicate⟩
  | none =>
    if ∃ b ∈ s.batchSequenceIndex.get? batch.batchSequence, b ≠ batch.batchId then
      throw (.domain 400 "batch_sequence_conflict"
        "batch_sequence values must be unique within a session")
    let (p, last, hits) ← mergeBatch context batch s
    publish sessionId (env.hashing.fingerprint batch) (now + env.config.collectingTtl) batch p last hits
    return ⟨batch.batchId, if p.changed then .accepted else .duplicate⟩

/-- A call of `append_batch`, with the clock readings of its sweep and of its locked section. -/
structure AppendCall where
  swept : ℚ
  now : ℚ
  record : Option Bool
  batch : ObservationBatchV2

/-- `append_batch` -/
def appendCall (env : StoreEnv) (sessionId : String) (c : AppendCall) :
    Call ObservationBatchAcceptedV2 := do
  let context ← locally (checkBatch env sessionId c.record c.batch)
  modify fun states => cleanupExpired states c.swept
  appendLocked env context sessionId c.now c.batch

/-! ## What a call does -/

section Calls

variable {α β : Type} {env : StoreEnv} {sessionId : String} {states : Sessions} {now : ℚ}
  {context : SessionRecommendationContext} {batch : ObservationBatchV2} {s : V2SessionState}

/-- A local computation leaves the sessions. -/
@[simp] theorem run_locally (x : Except PyError α) : (locally x).run states =
    match x with
    | .ok a => .ok a states
    | .error e => .error e states := by
  cases x <;> rfl

theorem run_foldlM_locally {f : β → α → Except PyError β} (l : List α) (b : β) :
    (l.foldlM (fun b a => locally (f b a)) b).run states =
      (locally (l.foldlM f b)).run states := by
  induction l generalizing b with
  | nil => rfl
  | cons a rest ih =>
    rw [List.foldlM_cons, List.foldlM_cons, EStateM.run_bind, run_locally]
    cases f b a with
    | error e => rfl
    | ok b' => exact ih b'

/-- Two assignments are one. -/
theorem assign_assign (sessionId : String) (f g : V2SessionState → V2SessionState) :
    (do assign sessionId f; assign sessionId g) = assign sessionId (g ∘ f) := by
  refine EStateM.ext fun states => ?_
  rw [EStateM.run_bind]
  unfold assign
  simp only [EStateM.run_modify]
  cases found : states.get? sessionId with
  | none => simp only [found]
  | some s => simp only [Dict.get?_set_self, Dict.set_set, Function.comp_apply]

/-- The assignments of a batch make the buffered state. -/
theorem run_publish {config : StoreConfig} {fingerprint : String} {p : Prospective} {last : Dict ℕ ℕ}
    {hits : Dict (ℕ × String) (List ResolvedSourceAoiHit)} (found : states.get? sessionId = some s) :
    (publish sessionId fingerprint (now + config.collectingTtl) batch p last hits).run states =
      .ok () (states.set sessionId (s.buffered config fingerprint now batch p last hits)) := by
  unfold publish
  simp only [assign_assign]
  unfold assign
  rw [EStateM.run_modify, found]
  rfl

/-- The state that is read is then the one the store holds. -/
theorem run_readSession (env : StoreEnv) (sessionId : String) (states : Sessions) (now : ℚ) :
    (readSession env sessionId now).run states =
      .ok (openSession env states sessionId now).1 (openSession env states sessionId now).2 ∧
    (openSession env states sessionId now).2.get? sessionId =
      some (openSession env states sessionId now).1 := by
  unfold readSession openSession
  rw [EStateM.run_bind, EStateM.run_get]
  dsimp only
  cases found : states.get? sessionId with
  | some s => exact ⟨rfl, found⟩
  | none => exact ⟨rfl, Dict.get?_set_self _ _ _⟩

/-- The merge loop and the checks as a computation on local values. -/
def mergedBatch (context : SessionRecommendationContext) (batch : ObservationBatchV2)
    (s : V2SessionState) :
    Except PyError (Prospective × Dict ℕ ℕ × Dict (ℕ × String) (List ResolvedSourceAoiHit)) := do
  let p ← batch.observations.foldlM Prospective.read
    ⟨s.observations, s.sequenceIndex, s.highestPlaybackEpoch, false⟩
  if movesBack ((ordered p.observations.values).map (·.sessionOffsetMs)) then
    .error (.domain 400 "session_offset_conflict"
      "session_offset_ms must be nondecreasing in analysis order")
  else do
    let last ← lastVideoTimes p.observations.values s.lastVideoTimeByEpoch
    let hits ← resolveHits context p.observations.values
    return (p, last, hits)

theorem run_mergeBatch : (mergeBatch context batch s).run states =
    (locally (mergedBatch context batch s)).run states := by
  unfold mergeBatch mergedBatch
  rw [EStateM.run_bind, run_foldlM_locally, run_locally, run_locally]
  cases batch.observations.foldlM Prospective.read
      ⟨s.observations, s.sequenceIndex, s.highestPlaybackEpoch, false⟩ with
  | error e => rfl
  | ok p =>
    dsimp only [bind, Except.bind]
    split
    · rfl
    · cases lastVideoTimes p.observations.values s.lastVideoTimeByEpoch with
      | error e => rfl
      | ok last =>
        cases resolveHits context p.observations.values with
        | error e => rfl
        | ok hits => rfl

/-- The section of a session that collects and takes a batch of a new id. -/
theorem append_of_new {config : StoreConfig} {fingerprint : String}
    (collecting : s.status = .collecting) (new : s.batchFingerprints.get? batch.batchId = none)
    (free : ¬ ∃ b ∈ s.batchSequenceIndex.get? batch.batchSequence, b ≠ batch.batchId) :
    s.append config context fingerprint now batch =
      (mergedBatch context batch s).map fun (p, last, hits) =>
        (⟨batch.batchId, if p.changed then .accepted else .duplicate⟩,
          s.buffered config fingerprint now batch p last hits) := by
  unfold V2SessionState.append mergedBatch
  rw [if_neg (not_not.2 collecting), new]
  dsimp only
  rw [if_neg free]
  cases batch.observations.foldlM Prospective.read
      ⟨s.observations, s.sequenceIndex, s.highestPlaybackEpoch, false⟩ with
  | error e => rfl
  | ok p =>
    dsimp only [bind, Except.bind]
    split
    · rfl
    · cases lastVideoTimes p.observations.values s.lastVideoTimeByEpoch with
      | error e => rfl
      | ok last =>
        cases resolveHits context p.observations.values with
        | error e => rfl
        | ok hits => rfl

/-- **The locked section** assigns all of the session's new state or nothing. -/
theorem run_appendLocked : (appendLocked env context sessionId now batch).run states =
    match (openSession env states sessionId now).1.append env.config context
      (env.hashing.fingerprint batch) now batch with
    | .error e => .error e (openSession env states sessionId now).2
    | .ok (accepted, s') =>
      .ok accepted ((openSession env states sessionId now).2.set sessionId s') := by
  obtain ⟨read, holds⟩ := run_readSession env sessionId states now
  unfold appendLocked
  rw [EStateM.run_bind, read]
  generalize (openSession env states sessionId now).1 = s at holds
  generalize (openSession env states sessionId now).2 = states at holds
  dsimp only
  by_cases collecting : s.status = .collecting
  · rw [if_neg (not_not.2 collecting)]
    cases known : s.batchFingerprints.get? batch.batchId with
    | some old =>
      unfold V2SessionState.append
      rw [if_neg (not_not.2 collecting), known]
      dsimp only
      by_cases same : old = env.hashing.fingerprint batch
      · rw [if_neg (not_not.2 same), if_neg (not_not.2 same)]
        dsimp only
        rw [Dict.set_of_get? holds]
        rfl
      · rw [if_pos same, if_pos same]
        rfl
    | none =>
      dsimp only
      by_cases conflict : ∃ b ∈ s.batchSequenceIndex.get? batch.batchSequence, b ≠ batch.batchId
      · unfold V2SessionState.append
        rw [if_neg (not_not.2 collecting), known]
        dsimp only
        rw [if_pos conflict, if_pos conflict]
        rfl
      · rw [append_of_new collecting known conflict, if_neg conflict, EStateM.run_bind, run_mergeBatch,
          run_locally]
        cases mergedBatch context batch s with
        | error e => rfl
        | ok merged =>
          obtain ⟨p, last, hits⟩ := merged
          dsimp only [Except.map]
          rw [EStateM.run_bind, run_publish holds]
          rfl
  · unfold V2SessionState.append
    rw [if_pos collecting, if_pos collecting]
    rfl

/-- **The whole call**: its checks, the sweep and the locked section. -/
theorem appendCall_run (c : AppendCall) : (appendCall env sessionId c).run states =
    match checkBatch env sessionId c.record c.batch with
    | .error e => .error e states
    | .ok context =>
      (appendLocked env context sessionId c.now c.batch).run (cleanupExpired states c.swept) := by
  unfold appendCall
  rw [EStateM.run_bind, run_locally]
  cases checkBatch env sessionId c.record c.batch with
  | error e => rfl
  | ok context => rfl

end Calls

/-! ## What a call that raises leaves -/

/-- What a call returns or raises. -/
def outcome {α : Type} : EStateM.Result PyError Sessions α → Except PyError α
  | .ok a _ => .ok a
  | .error e _ => .error e

/-- The sessions after a call, whether it raised or not. -/
def sessionsAfter {α : Type} : EStateM.Result PyError Sessions α → Sessions
  | .ok _ states => states
  | .error _ states => states

/-- What calls return one after the other. -/
def outcomes (env : StoreEnv) (sessionId : String) (states : Sessions) :
    List AppendCall → List (Except PyError ObservationBatchAcceptedV2)
  | [] => []
  | c :: rest =>
    outcome ((appendCall env sessionId c).run states) ::
      outcomes env sessionId (sessionsAfter ((appendCall env sessionId c).run states)) rest

/-- The sessions after calls one after the other. -/
def sessionsAfterCalls (env : StoreEnv) (sessionId : String) (states : Sessions)
    (calls : List AppendCall) : Sessions :=
  calls.foldl (fun states c => sessionsAfter ((appendCall env sessionId c).run states)) states

/-- At this time the session is as good as unseen: it is not there, has expired, or collects and is
empty. -/
def Blank (config : StoreConfig) (sessionId : String) (time : ℚ) (states : Sessions) : Prop :=
  ∀ s, states.get? sessionId = some s → s.expiresAt ≤ time ∨ ∃ opened, s = .fresh config opened

/-- No call from this time on tells the two apart. -/
def Alike (config : StoreConfig) (sessionId : String) (time : ℚ) (states states' : Sessions) : Prop :=
  states.get? sessionId = states'.get? sessionId ∨
    Blank config sessionId time states ∧ Blank config sessionId time states'

section Failure

variable {env : StoreEnv} {sessionId : String} {states states' : Sessions} {now time : ℚ}
  {c : AppendCall} {e : PyError} {context : SessionRecommendationContext}
  {batch : ObservationBatchV2} {s : V2SessionState}

theorem get?_swept (states : Sessions) (sessionId : String) (time : ℚ) :
    (cleanupExpired states time).get? sessionId =
      (states.get? sessionId).filter fun s => decide (time < s.expiresAt) :=
  Dict.get?_filter _ _ _

/-- The session in the store once the section has read it. -/
theorem openSession_reads (env : StoreEnv) (states : Sessions) (sessionId : String) (now : ℚ) :
    (openSession env states sessionId now).2.get? sessionId =
      some ((states.get? sessionId).getD (.fresh env.config now)) ∧
    (openSession env states sessionId now).1 =
      (states.get? sessionId).getD (.fresh env.config now) := by
  unfold openSession
  cases found : states.get? sessionId with
  | none => exact ⟨Dict.get?_set_self _ _ _, rfl⟩
  | some s => exact ⟨found, rfl⟩

/-- What the session is after the locked section, whether that raised or not. -/
def sessionAfterSection (env : StoreEnv) (context : SessionRecommendationContext) (now : ℚ)
    (batch : ObservationBatchV2) (s : V2SessionState) : V2SessionState :=
  match s.append env.config context (env.hashing.fingerprint batch) now batch with
  | .ok (_, s') => s'
  | .error _ => s

/-- The locked section looks at the session alone. -/
theorem appendLocked_session (env : StoreEnv) (sessionId : String) (states : Sessions)
    (context : SessionRecommendationContext) (now : ℚ) (batch : ObservationBatchV2) :
    outcome ((appendLocked env context sessionId now batch).run states) =
      ((((states.get? sessionId).getD (.fresh env.config now)).append env.config context
        (env.hashing.fingerprint batch) now batch).map Prod.fst) ∧
    (sessionsAfter ((appendLocked env context sessionId now batch).run states)).get? sessionId =
      some (sessionAfterSection env context now batch
        ((states.get? sessionId).getD (.fresh env.config now))) := by
  obtain ⟨held, read⟩ := openSession_reads env states sessionId now
  rw [run_appendLocked, ← read, sessionAfterSection]
  cases (openSession env states sessionId now).1.append env.config context
      (env.hashing.fingerprint batch) now batch with
  | error e => exact ⟨rfl, by rw [read]; exact held⟩
  | ok result => exact ⟨rfl, Dict.get?_set_self _ _ _⟩

/-- Two empty sessions take a batch alike; only one that stays empty keeps its expiry. -/
theorem append_fresh (env : StoreEnv) (context : SessionRecommendationContext) (now : ℚ)
    (batch : ObservationBatchV2) (opened opened' : ℚ) :
    ((V2SessionState.fresh env.config opened).append env.config context
        (env.hashing.fingerprint batch) now batch).map Prod.fst =
      ((V2SessionState.fresh env.config opened').append env.config context
        (env.hashing.fingerprint batch) now batch).map Prod.fst ∧
    (sessionAfterSection env context now batch (.fresh env.config opened) =
        sessionAfterSection env context now batch (.fresh env.config opened') ∨
      (∃ e, ((V2SessionState.fresh env.config opened).append env.config context
          (env.hashing.fingerprint batch) now batch).map Prod.fst = .error e) ∧
        sessionAfterSection env context now batch (.fresh env.config opened) =
          .fresh env.config opened ∧
        sessionAfterSection env context now batch (.fresh env.config opened') =
          .fresh env.config opened') := by
  have appended : ∀ t : ℚ, (V2SessionState.fresh env.config t).append env.config context
      (env.hashing.fingerprint batch) now batch =
        (mergedBatch context batch (.fresh env.config 0)).map fun (p, last, hits) =>
          (⟨batch.batchId, if p.changed then .accepted else .duplicate⟩,
            (V2SessionState.fresh env.config 0).buffered env.config
              (env.hashing.fingerprint batch) now batch p last hits) := fun t =>
    append_of_new rfl rfl fun ⟨_, named, _⟩ => nomatch named
  unfold sessionAfterSection
  rw [appended opened, appended opened']
  cases mergedBatch context batch (.fresh env.config 0) with
  | error e => exact ⟨rfl, .inr ⟨⟨e, rfl⟩, rfl, rfl⟩⟩
  | ok merged => exact ⟨rfl, .inl rfl⟩

theorem Blank.mono {later : ℚ} (h : Blank env.config sessionId time states) (le : time ≤ later) :
    Blank env.config sessionId later states := fun s found =>
  (h s found).imp_left fun expired => expired.trans le

/-- After a sweep a blank session reads as an empty one. -/
theorem Blank.swept (h : Blank env.config sessionId time states) (le : time ≤ c.swept) :
    ∃ opened, ((cleanupExpired states c.swept).get? sessionId).getD (.fresh env.config c.now) =
      .fresh env.config opened := by
  rw [get?_swept]
  cases found : states.get? sessionId with
  | none => exact ⟨c.now, rfl⟩
  | some s =>
    rcases h s found with expired | ⟨opened, rfl⟩
    · refine ⟨c.now, ?_⟩
      rw [Option.filter_some, if_neg (by simpa using expired.trans le)]
      rfl
    · rw [Option.filter_some]
      split
      · exact ⟨opened, rfl⟩
      · exact ⟨c.now, rfl⟩

/-- **One call** returns the same for sessions that are alike, and leaves them the same unless it
raises. -/
theorem Alike.call (h : Alike env.config sessionId time states states') (le : time ≤ c.swept) :
    outcome ((appendCall env sessionId c).run states) =
      outcome ((appendCall env sessionId c).run states') ∧
    Alike env.config sessionId c.swept (sessionsAfter ((appendCall env sessionId c).run states))
      (sessionsAfter ((appendCall env sessionId c).run states')) ∧
    ((∃ a, outcome ((appendCall env sessionId c).run states) = .ok a) ∨
        states.get? sessionId = states'.get? sessionId →
      (sessionsAfter ((appendCall env sessionId c).run states)).get? sessionId =
        (sessionsAfter ((appendCall env sessionId c).run states')).get? sessionId) := by
  rw [appendCall_run, appendCall_run]
  cases checkBatch env sessionId c.record c.batch with
  | error e =>
    refine ⟨rfl, h.imp_right fun blank => ⟨blank.1.mono le, blank.2.mono le⟩, ?_⟩
    rintro (⟨a, returned⟩ | same)
    · cases returned
    · exact same
  | ok context =>
    obtain ⟨returns, leaves⟩ :=
      appendLocked_session env sessionId (cleanupExpired states c.swept) context c.now c.batch
    obtain ⟨returns', leaves'⟩ :=
      appendLocked_session env sessionId (cleanupExpired states' c.swept) context c.now c.batch
    dsimp only
    unfold Alike
    rw [returns, returns', leaves, leaves']
    by_cases same : states.get? sessionId = states'.get? sessionId
    · rw [get?_swept, get?_swept, same]
      exact ⟨rfl, .inl rfl, fun _ => rfl⟩
    · obtain ⟨blank, blank'⟩ := h.resolve_left same
      obtain ⟨opened, reads⟩ := blank.swept le
      obtain ⟨opened', reads'⟩ := blank'.swept le
      rw [reads, reads']
      obtain ⟨returned, equal | ⟨⟨e, raised⟩, kept, kept'⟩⟩ :=
        append_fresh env context c.now c.batch opened opened'
      · exact ⟨returned, .inl (congrArg some equal), fun _ => congrArg some equal⟩
      · refine ⟨returned, .inr ⟨fun s found => ?_, fun s found => ?_⟩, ?_⟩
        · rw [leaves, reads, kept] at found
          exact .inr ⟨opened, (Option.some.inj found).symm⟩
        · rw [leaves', reads', kept'] at found
          exact .inr ⟨opened', (Option.some.inj found).symm⟩
        · rintro (⟨a, accepted⟩ | equal)
          · rw [raised] at accepted
            cases accepted
          · exact (same equal).elim

/-- **Any further calls** return the same. -/
theorem Alike.calls {later : List AppendCall} (h : Alike env.config sessionId time states states')
    (after : ∀ d ∈ later, time ≤ d.swept) (forward : later.Pairwise fun d d' => d.swept ≤ d'.swept) :
    outcomes env sessionId states later = outcomes env sessionId states' later ∧
    ((∃ a, .ok a ∈ outcomes env sessionId states later) ∨
        states.get? sessionId = states'.get? sessionId →
      (sessionsAfterCalls env sessionId states later).get? sessionId =
        (sessionsAfterCalls env sessionId states' later).get? sessionId) := by
  induction later generalizing time states states' with
  | nil =>
    refine ⟨rfl, ?_⟩
    rintro (⟨a, member⟩ | same)
    · cases member
    · exact same
  | cons c rest ih =>
    obtain ⟨first, forward⟩ := List.pairwise_cons.1 forward
    obtain ⟨returned, alike, equal⟩ := h.call (after c List.mem_cons_self)
    obtain ⟨rest_returned, rest_equal⟩ := ih alike first forward
    refine ⟨by rw [outcomes, outcomes, returned, rest_returned], ?_⟩
    rintro (⟨a, member⟩ | same)
    · rcases List.mem_cons.1 member with now | later
      · exact rest_equal (.inr (equal (.inl ⟨a, now.symm⟩)))
      · exact rest_equal (.inl ⟨a, later⟩)
    · exact rest_equal (.inr (equal (.inr same)))

/-- The session a call that raises leaves. -/
theorem get?_of_raised (raised : (appendCall env sessionId c).run states = .error e states') :
    states'.get? sessionId = states.get? sessionId ∨
      states'.get? sessionId =
        some (((cleanupExpired states c.swept).get? sessionId).getD (.fresh env.config c.now)) := by
  rw [appendCall_run] at raised
  cases checked : checkBatch env sessionId c.record c.batch with
  | error e' =>
    rw [checked] at raised
    cases raised
    exact .inl rfl
  | ok context =>
    rw [checked] at raised
    dsimp only at raised
    obtain ⟨returns, leaves⟩ :=
      appendLocked_session env sessionId (cleanupExpired states c.swept) context c.now c.batch
    rw [raised] at returns leaves
    refine .inr (leaves.trans ?_)
    unfold sessionAfterSection
    cases appended : (((cleanupExpired states c.swept).get? sessionId).getD
        (.fresh env.config c.now)).append env.config context (env.hashing.fingerprint c.batch) c.now
        c.batch with
    | error e' => rfl
    | ok result => rw [appended] at returns; cases returns

/-- **A call that raises** leaves a session that has not expired as it was, and one that it does not
find as it was or empty; further calls return what they return without it. -/
theorem append_failure (raised : (appendCall env sessionId c).run states = .error e states') :
    (∀ s, states.get? sessionId = some s → c.swept < s.expiresAt →
      states'.get? sessionId = some s) ∧
    ((∀ s, states.get? sessionId = some s → s.expiresAt ≤ c.swept) →
      states'.get? sessionId = states.get? sessionId ∨
        states'.get? sessionId = some (.fresh env.config c.now)) ∧
    ∀ later : List AppendCall, (c :: later).Pairwise (fun d d' => d.swept ≤ d'.swept) →
      outcomes env sessionId states' later = outcomes env sessionId states later ∧
      ((∃ a, .ok a ∈ outcomes env sessionId states' later) →
        (sessionsAfterCalls env sessionId states' later).get? sessionId =
          (sessionsAfterCalls env sessionId states later).get? sessionId) := by
  have left := get?_of_raised raised
  rw [get?_swept] at left
  have alive : ∀ s, states.get? sessionId = some s → c.swept < s.expiresAt →
      states'.get? sessionId = some s := by
    intro s found inTime
    rw [found, Option.filter_some, if_pos (by simpa using inTime), Option.getD_some, or_self] at left
    exact left
  have gone : (∀ s, states.get? sessionId = some s → s.expiresAt ≤ c.swept) →
      states'.get? sessionId = states.get? sessionId ∨
        states'.get? sessionId = some (.fresh env.config c.now) := by
    intro expired
    cases found : states.get? sessionId with
    | none => rwa [found] at left
    | some s =>
      rwa [found, Option.filter_some, if_neg (by simpa using expired s found)] at left
  refine ⟨alive, gone, fun later forward => ?_⟩
  have alike : Alike env.config sessionId c.swept states' states := by
    by_cases expired : ∀ s, states.get? sessionId = some s → s.expiresAt ≤ c.swept
    · rcases gone expired with same | fresh
      · exact .inl same
      · refine .inr ⟨fun s found => ?_, fun s found => .inl (expired s found)⟩
        rw [fresh] at found
        exact .inr ⟨c.now, (Option.some.inj found).symm⟩
    · push Not at expired
      obtain ⟨s, found, inTime⟩ := expired
      exact .inl ((alive s found inTime).trans found.symm)
  obtain ⟨first, forward⟩ := List.pairwise_cons.1 forward
  obtain ⟨returned, equal⟩ := alike.calls first forward
  exact ⟨returned, fun accepted => equal (.inl accepted)⟩

end Failure

/-! ## Two frames of one sequence number -/

/-- A batch whose frames have one sequence number. -/
def clashingBatch : ObservationBatchV2 where
  batchId := "batch-2"
  batchSequence := 1
  sessionId := "session-0001"
  videoId := "mcm-lookbook-v2"
  observations := [glance "frame-2" 1 2000, glance "frame-3" 1 2100]
  batchIdOk := secondBatchId_ok
  sessionIdOk := sessionId_ok
  videoIdOk := videoId_ok
  bounded := by decide
  framesValid := by decide +kernel

/-- The batch with another number for its second frame. -/
def mendedBatch : ObservationBatchV2 :=
  { clashingBatch with
    observations := [glance "frame-2" 1 2000, glance "frame-3" 2 2100]
    bounded := by decide
    framesValid := by decide +kernel }

/-- The clashing batch at some time. -/
def clashAt (time : ℚ) : AppendCall := ⟨time, time, some false, clashingBatch⟩

/-- The sessions after one glance at time 0. -/
def glancedSessions : Sessions :=
  sessionsAfter ((appendCall (smallEnv .c false) "session-0001" ⟨0, 0, some false, glanceBatch⟩).run
    Dict.empty)

/-- The clashing batch raises at its second frame. -/
theorem clash_raises (time : ℚ) (h : time = 10 ∨ time = 400) : ∃ states',
    (appendCall (smallEnv .c false) "session-0001" (clashAt time)).run glancedSessions =
      .error (.domain 400 "observation_sequence_conflict"
        "observation sequence values must be unique within a session") states' := by
  have raised : outcome ((appendCall (smallEnv .c false) "session-0001" (clashAt time)).run
      glancedSessions) = .error (.domain 400 "observation_sequence_conflict"
        "observation sequence values must be unique within a session") := by
    rcases h with rfl | rfl <;> decide +kernel
  cases result : (appendCall (smallEnv .c false) "session-0001" (clashAt time)).run glancedSessions with
  | ok a states' => rw [result] at raised; cases raised
  | error e states' => rw [result] at raised; cases raised; exact ⟨states', rfl⟩

/-- The session in time keeps its glance, and the mended batch does as without the clash. -/
theorem append_failure_glance : ∃ e states',
    (appendCall (smallEnv .c false) "session-0001" (clashAt 10)).run glancedSessions =
      .error e states' ∧
    (∀ s, glancedSessions.get? "session-0001" = some s → 10 < s.expiresAt →
      states'.get? "session-0001" = some s) ∧
    outcomes (smallEnv .c false) "session-0001" states' [⟨20, 20, some false, mendedBatch⟩] =
      outcomes (smallEnv .c false) "session-0001" glancedSessions
        [⟨20, 20, some false, mendedBatch⟩] := by
  obtain ⟨states', raised⟩ := clash_raises 10 (.inl rfl)
  obtain ⟨kept, -, later⟩ := append_failure raised
  refine ⟨_, states', raised, kept, (later _ ?_).1⟩
  refine List.pairwise_pair.2 ?_
  change (10 : ℚ) ≤ 20
  norm_num

/-- The session that expired before the call loses its glance. -/
theorem expired_session_emptied : ∃ states' s s',
    (appendCall (smallEnv .c false) "session-0001" (clashAt 400)).run glancedSessions =
      .error (.domain 400 "observation_sequence_conflict"
        "observation sequence values must be unique within a session") states' ∧
    glancedSessions.get? "session-0001" = some s ∧ states'.get? "session-0001" = some s' ∧
    s.observations ≠ s'.observations ∧ s.batchFingerprints ≠ s'.batchFingerprints ∧
    s.expiresAt ≠ s'.expiresAt := by
  obtain ⟨states', raised⟩ := clash_raises 400 (.inr rfl)
  have differ : ((glancedSessions.get? "session-0001").any fun s =>
      ((sessionsAfter ((appendCall (smallEnv .c false) "session-0001" (clashAt 400)).run
        glancedSessions)).get? "session-0001").any fun s' => decide (s.observations ≠ s'.observations ∧
          s.batchFingerprints ≠ s'.batchFingerprints ∧ s.expiresAt ≠ s'.expiresAt)) = true := by
    decide +kernel
  rw [raised] at differ
  obtain ⟨s, before, differ⟩ := (Option.any_eq_true _ _).1 differ
  obtain ⟨s', after, differ⟩ := (Option.any_eq_true _ _).1 differ
  exact ⟨states', s, s', raised, before, after, of_decide_eq_true differ⟩

end Mkk.Api
