import Mkk.Face.Sample

/-!
# The cache of the Face adapter

`SelectedFaceAdapter.infer` with its cache of derived samples, over any sequence of calls on a clock that
does not go back.
-/

namespace Mkk.Face

open Lib

/-! ## The adapter -/

/-- What the backend raises: what `infer` takes for malformed output, another `Exception`, and what is
none. -/
inductive BackendError where
  | malformed
  | other
  | interrupt
  deriving DecidableEq

/-- What `infer` raises. -/
inductive FaceError where
  | value (message : String)
  | interrupt
  deriving DecidableEq

/-- What an adapter is made with. A backend may answer each inference differently. -/
structure FaceEnv (F : Type) where
  texts : Texts
  lowQualityThreshold : ℚ
  cacheMaxEntries : ℕ
  cacheTtlSeconds : ℚ
  backend : ℕ → F → Except BackendError FaceInference
  thresholdUnit : 0 ≤ lowQualityThreshold ∧ lowQualityThreshold ≤ 1
  capacityPos : 0 < cacheMaxEntries
  ttlPos : 0 < cacheTtlSeconds

/-- `_CachedDerivedSample` -/
structure CachedDerivedSample where
  expiresAt : ℚ
  faceDetected : Bool
  faceCount : ℤ
  scores : List (String × PyFloat)
  quality : PyFloat
  valid : Bool
  confidence : PyFloat
  reason : Option String

/-- `from_sample` -/
def CachedDerivedSample.fromSample (sample : ExpressionSample) (expiresAt : ℚ) : CachedDerivedSample where
  expiresAt := expiresAt
  faceDetected := sample.fields.faceDetected
  faceCount := sample.fields.faceCount
  scores := sample.fields.scores.entries
  quality := sample.fields.quality
  valid := sample.fields.valid
  confidence := sample.fields.confidence
  reason := sample.fields.reason

structure AdapterState where
  ready : Bool
  cache : Dict String CachedDerivedSample
  /-- How often the backend was asked. -/
  inferences : ℕ

/-- After `initialize`. -/
def AdapterState.initialized : AdapterState := ⟨true, Dict.empty, 0⟩

/-- `dict(items)` -/
def dictOf (items : List (String × PyFloat)) : Dict String PyFloat :=
  items.foldl (fun d e => d.set e.1 e.2) Dict.empty

/-- `_sample_from_cache` -/
def sampleFromCache (context : FaceFrameContext) (cachedEventId : String) (cached : CachedDerivedSample) :
    Except String ExpressionSample :=
  SampleFields.build {
    schemaVersion := "1.0"
    sessionId := context.sessionId
    eventId := cachedEventId
    sequence := context.sequence
    frameId := context.frameId
    capturedAtMonoMs := context.capturedAtMonoMs
    videoId := context.videoId
    videoTimeMs := context.videoTimeMs
    playbackEpoch := context.playbackEpoch
    producerId := adapterId
    modelRevision := modelRevision
    taxonomyVersion := taxonomyVersion
    faceDetected := cached.faceDetected
    faceCount := cached.faceCount
    scores := dictOf cached.scores
    quality := cached.quality
    valid := cached.valid
    confidence := cached.confidence
    reason := cached.reason }

/-- `_prune_expired` -/
def pruneExpired (cache : Dict String CachedDerivedSample) (now : ℚ) : Dict String CachedDerivedSample :=
  cache.filter fun _ cached => !decide (cached.expiresAt ≤ now)

/-- The arguments of a call, and the clock's reading. -/
structure FaceRequest (F : Type) where
  frame : F
  context : FaceFrameContext
  now : ℚ

section

variable {F : Type} (env : FaceEnv F)

/-- A `ValueError` that `infer` lets through. -/
def raised : Except String ExpressionSample → Except FaceError ExpressionSample
  | .ok sample => .ok sample
  | .error message => .error (.value message)

/-- The sample of what the backend answered. -/
def sampleOf (context : FaceFrameContext) (outcome : Except BackendError FaceInference) :
    Except FaceError ExpressionSample :=
  match outcome with
  | .ok result =>
    match toSample env.texts env.lowQualityThreshold context result with
    | .ok sample => .ok sample
    | .error _ => raised (invalidSample env.texts context "malformed_output" 0 (.finite 0))
  | .error .malformed => raised (invalidSample env.texts context "malformed_output" 0 (.finite 0))
  | .error .other => raised (invalidSample env.texts context "model_unavailable" 0 (.finite 0))
  | .error .interrupt => .error .interrupt

/-- The cache with one more sample. -/
def store (cache : Dict String CachedDerivedSample) (key : String) (cached : CachedDerivedSample) :
    Dict String CachedDerivedSample :=
  ((cache.set key cached).moveToEnd key).evict env.cacheMaxEntries

/-- `infer` -/
def infer (s : AdapterState) (request : FaceRequest F) :
    Except FaceError ExpressionSample × AdapterState :=
  if !s.ready then
    (raised (invalidSample env.texts request.context "model_unavailable" 0 (.finite 0)), s)
  else
    let key := eventId env.texts request.context
    let cache := pruneExpired s.cache request.now
    match cache.get? key with
    | some cached =>
      (raised (sampleFromCache request.context key cached), { s with cache := cache.moveToEnd key })
    | none =>
      let asked := { s with cache := cache, inferences := s.inferences + 1 }
      match sampleOf env request.context (env.backend s.inferences request.frame) with
      | .error e => (.error e, asked)
      | .ok sample =>
        let cached := CachedDerivedSample.fromSample sample (request.now + env.cacheTtlSeconds)
        (.ok sample, { asked with cache := store env cache key cached })

/-- A call, whether it asked the backend, and its result. -/
structure Served (F : Type) where
  request : FaceRequest F
  inferred : Bool
  result : Except FaceError ExpressionSample

/-- What a call is recorded as. -/
def serve (s : AdapterState) (request : FaceRequest F) : Served F :=
  ⟨request, decide ((infer env s request).2.inferences ≠ s.inferences), (infer env s request).1⟩

/-- The state after a sequence of calls. -/
def stateAfter (s : AdapterState) (requests : List (FaceRequest F)) : AdapterState :=
  requests.foldl (fun s request => (infer env s request).2) s

/-- The calls of a sequence, in order. -/
def served (s : AdapterState) : List (FaceRequest F) → List (Served F)
  | [] => []
  | request :: rest => serve env s request :: served (infer env s request).2 rest

/-- The other contexts asked for since the last call for this one. -/
def othersSince (context : FaceFrameContext) (calls : List (Served F)) : Finset FaceFrameContext :=
  calls.foldl (fun others call => if call.request.context = context then ∅
    else insert call.request.context others) ∅

end

/-! ## One call -/

section

variable {F : Type} {env : FaceEnv F} {s : AdapterState} {request : FaceRequest F}
  {context : FaceFrameContext} {sample : ExpressionSample} {cached : CachedDerivedSample}

theorem dictOf_entries (d : Dict String PyFloat) : dictOf d.entries = d := by
  have appended (items : List (String × PyFloat)) (kept : Dict String PyFloat)
      (nodup : ((kept.entries ++ items).map Prod.fst).Nodup) :
      (items.foldl (fun d e => d.set e.1 e.2) kept).entries = kept.entries ++ items := by
    induction items generalizing kept with
    | nil => exact (List.append_nil _).symm
    | cons e rest ih =>
      have absent : e.1 ∉ kept.keys := by
        rw [List.map_append, List.map_cons] at nodup
        intro member
        exact (List.nodup_append.1 nodup).2.2 _ member _ List.mem_cons_self rfl
      have grown := Dict.entries_set_of_notMem absent e.2
      rw [List.foldl_cons, ih _ (by rw [grown, List.append_assoc]; exact nodup), grown, List.append_assoc]
      rfl
  exact Dict.ext_entries ((appended d.entries Dict.empty d.nodup).trans (List.nil_append _))

/-- What is rebuilt from the cache is the sample that was stored. -/
theorem sampleFromCache_fromSample (carries : sample.Carries env.texts context) (expiresAt : ℚ) :
    sampleFromCache context (eventId env.texts context) (.fromSample sample expiresAt) = .ok sample := by
  rw [← SampleFields.build_fields sample, carries]
  unfold sampleFromCache CachedDerivedSample.fromSample
  rw [dictOf_entries]
  rfl

theorem carries_sampleOf {outcome : Except BackendError FaceInference}
    (h : sampleOf env context outcome = .ok sample) : sample.Carries env.texts context := by
  have lifted {made : Except String ExpressionSample} (h : raised made = .ok sample) : made = .ok sample := by
    cases made with
    | ok made => exact congrArg Except.ok (Except.ok.inj h)
    | error e => cases h
  unfold sampleOf at h
  split at h
  · split at h
    next made => exact Except.ok.inj h ▸ carries_toSample made
    · exact carries_invalidSample (lifted h)
  · exact carries_invalidSample (lifted h)
  · exact carries_invalidSample (lifted h)
  · cases h

/-- What a call does: it answers from the cache, or it asks the backend and may store the answer. -/
inductive Does (env : FaceEnv F) (s : AdapterState) (request : FaceRequest F) :
    Except FaceError ExpressionSample × AdapterState → Prop where
  | hit (cached : CachedDerivedSample) (found : s.cache.get? (eventId env.texts request.context) = some cached)
      (fresh : request.now < cached.expiresAt) :
      Does env s request (raised (sampleFromCache request.context (eventId env.texts request.context) cached),
        { s with cache := (pruneExpired s.cache request.now).moveToEnd (eventId env.texts request.context) })
  | failed (e : FaceError)
      (absent : (pruneExpired s.cache request.now).get? (eventId env.texts request.context) = none) :
      Does env s request (.error e,
        { s with cache := pruneExpired s.cache request.now, inferences := s.inferences + 1 })
  | stored (sample : ExpressionSample) (carries : sample.Carries env.texts request.context)
      (absent : (pruneExpired s.cache request.now).get? (eventId env.texts request.context) = none) :
      Does env s request (.ok sample, { s with
        cache := store env (pruneExpired s.cache request.now) (eventId env.texts request.context)
          (.fromSample sample (request.now + env.cacheTtlSeconds))
        inferences := s.inferences + 1 })

theorem get?_pruneExpired {cache : Dict String CachedDerivedSample} {now : ℚ} {key : String} :
    (pruneExpired cache now).get? key = some cached ↔ cache.get? key = some cached ∧ now < cached.expiresAt := by
  unfold pruneExpired
  rw [Dict.get?_filter, Option.filter_eq_some_iff, Bool.not_eq_true', decide_eq_false_iff_not, not_le]

theorem does_infer (ready : s.ready = true) (request : FaceRequest F) :
    Does env s request (infer env s request) := by
  unfold infer
  rw [ready]
  rw [if_neg (by decide)]
  dsimp only
  split
  next cached found =>
    obtain ⟨held, fresh⟩ := get?_pruneExpired.1 found
    exact ready ▸ Does.hit cached held fresh
  next absent =>
    split
    next e _ => exact ready ▸ Does.failed e absent
    next sample made => exact ready ▸ Does.stored sample (carries_sampleOf made) absent

theorem Does.ready {out : Except FaceError ExpressionSample × AdapterState} (does : Does env s request out) :
    out.2.ready = s.ready := by
  cases does <;> rfl

/-- The backend was asked exactly when the answer is not the cache's. -/
theorem inferred_serve : (serve env s request).inferred =
    decide ((infer env s request).2.inferences ≠ s.inferences) := rfl

/-- No call leaves more entries than there is room for. -/
theorem Does.size_le {out : Except FaceError ExpressionSample × AdapterState} (does : Does env s request out)
    (room : s.cache.size ≤ env.cacheMaxEntries) : out.2.cache.size ≤ env.cacheMaxEntries := by
  have pruned : (pruneExpired s.cache request.now).size ≤ env.cacheMaxEntries :=
    (Dict.size_filter_le _ _).trans room
  cases does with
  | hit cached found fresh => exact (Dict.size_moveToEnd _ _).trans_le pruned
  | failed e absent => exact pruned
  | stored sample carries absent => exact Dict.size_evict_le _ _

theorem get?_store {cache : Dict String CachedDerivedSample} {key key' : String}
    {cached cached' : CachedDerivedSample} (h : (store env cache key cached).get? key' = some cached') :
    (key' = key ∧ cached' = cached) ∨ cache.get? key' = some cached' := by
  have moved := Dict.get?_of_evict h
  rw [Dict.get?_moveToEnd, Dict.get?_set] at moved
  split at moved
  next same => exact .inl ⟨same, (Option.some.inj moved).symm⟩
  · exact .inr moved

/-! ## An entry that stays -/

/-- The entry of a context: nothing else is stored under its key, and it is there while fewer other contexts
were asked for than there is room. -/
structure Holding (env : FaceEnv F) (context : FaceFrameContext) (cached : CachedDerivedSample)
    (others : Finset FaceFrameContext) (s : AdapterState) : Prop where
  ready : s.ready = true
  only : ∀ found, s.cache.get? (eventId env.texts context) = some found → found = cached
  kept : others.card < env.cacheMaxEntries → Dict.UsedBefore (eventId env.texts context) cached
    (others.image (eventId env.texts)) s.cache

theorem Holding.infer {others : Finset FaceFrameContext} (h : Holding env context cached others s)
    (fresh : request.now < cached.expiresAt)
    (answered : request.context = context → (serve env s request).inferred = false)
    (distinct : eventId env.texts request.context = eventId env.texts context → request.context = context) :
    Holding env context cached (if request.context = context then ∅ else insert request.context others)
      (infer env s request).2 := by
  have does : Does env s request _ := does_infer h.ready request
  rw [inferred_serve] at answered
  generalize Face.infer env s request = out at does answered ⊢
  have ready := does.ready.trans h.ready
  have pruned (room : others.card < env.cacheMaxEntries) : Dict.UsedBefore (eventId env.texts context) cached
      (others.image (eventId env.texts)) (pruneExpired s.cache request.now) := by
    refine (h.kept room).filter ?_
    rw [Bool.not_eq_true', decide_eq_false_iff_not, not_le]
    exact fresh
  have fewer (room : (insert request.context others).card < env.cacheMaxEntries) :
      others.card < env.cacheMaxEntries :=
    (Finset.card_le_card (Finset.subset_insert _ _)).trans_lt room
  cases does with
  | hit found held inTime =>
    refine ⟨ready, fun found' now => ?_, fun room => ?_⟩
    · rw [Dict.get?_moveToEnd] at now
      exact h.only found' (get?_pruneExpired.1 now).1
    · split
      next same =>
        rw [same] at held ⊢
        obtain rfl := h.only found held
        rw [Finset.image_empty]
        exact .of_moveToEnd (get?_pruneExpired.2 ⟨held, inTime⟩)
      next other =>
        rw [if_neg other] at room
        rw [Finset.image_insert]
        exact (pruned (fewer room)).moveToEnd fun same => other (distinct same)
  | failed e absent =>
    have other : request.context ≠ context := fun same => by
      have asked := of_decide_eq_false (answered same)
      exact asked (Nat.succ_ne_self _)
    refine ⟨ready, fun found' now => h.only found' (get?_pruneExpired.1 now).1, fun room => ?_⟩
    rw [if_neg other] at room ⊢
    rw [Finset.image_insert]
    exact (pruned (fewer room)).mono (Finset.subset_insert _ _)
  | stored sample carries absent =>
    have other : request.context ≠ context := fun same => by
      have asked := of_decide_eq_false (answered same)
      exact asked (Nat.succ_ne_self _)
    have apart : eventId env.texts request.context ≠ eventId env.texts context :=
      fun same => other (distinct same)
    refine ⟨ready, fun found' now => ?_, fun room => ?_⟩
    · rcases get?_store now with ⟨same, -⟩ | before
      · exact absurd same.symm apart
      · exact h.only found' (get?_pruneExpired.1 before).1
    · rw [if_neg other] at room ⊢
      have few : ((insert request.context others).image (eventId env.texts)).card < env.cacheMaxEntries :=
        Finset.card_image_le.trans_lt room
      let stored := CachedDerivedSample.fromSample sample (request.now + env.cacheTtlSeconds)
      have used := (Dict.UsedBefore.set (pruned (fewer room)) absent : Dict.UsedBefore _ _ _
        (Dict.set _ _ stored)).moveToEnd apart
      rw [Finset.insert_idem, ← Finset.image_insert] at used
      exact used.evict few

/-- What was just stored is held. -/
theorem Does.holding {out : Except FaceError ExpressionSample × AdapterState} (does : Does env s request out)
    (ready : s.ready = true) (asked : out.2.inferences ≠ s.inferences) (result : out.1 = .ok sample) :
    Holding env request.context (.fromSample sample (request.now + env.cacheTtlSeconds)) ∅ out.2 := by
  cases does with
  | hit cached found fresh => exact absurd rfl asked
  | failed e absent => cases result
  | stored sample' carries absent =>
    obtain rfl := Except.ok.inj result
    refine ⟨ready, fun found now => ?_, fun room => ?_⟩
    · rcases get?_store now with ⟨-, same⟩ | before
      · exact same
      · exact absurd (absent.symm.trans before) nofun
    · rw [Finset.image_empty]
      refine (Dict.UsedBefore.of_moveToEnd (Dict.get?_set_self _ _ _)).evict ?_
      rw [Finset.card_empty]
      exact env.capacityPos

/-- What is stored under a context's key is answered, without asking the backend. -/
theorem serve_of_stored {expiresAt : ℚ} (ready : s.ready = true)
    (carries : sample.Carries env.texts request.context) (fresh : request.now < expiresAt)
    (found : s.cache.get? (eventId env.texts request.context) = some (.fromSample sample expiresAt)) :
    (serve env s request).inferred = false ∧ (serve env s request).result = .ok sample := by
  have present : (pruneExpired s.cache request.now).get? (eventId env.texts request.context) =
      some (.fromSample sample expiresAt) := get?_pruneExpired.2 ⟨found, fresh⟩
  have does : Does env s request _ := does_infer ready request
  unfold serve
  generalize infer env s request = out at does ⊢
  cases does with
  | hit cached held inTime =>
    obtain rfl := Option.some.inj (held.symm.trans found)
    refine ⟨decide_eq_false (not_not.2 rfl), ?_⟩
    dsimp only
    rw [sampleFromCache_fromSample carries]
    rfl
  | failed e absent => exact absurd (absent.symm.trans present) nofun
  | stored sample' carries' absent => exact absurd (absent.symm.trans present) nofun

/-! ## Runs -/

/-- Every entry is the answer of a call that asked the backend. -/
structure Sourced (env : FaceEnv F) (calls : List (Served F)) (s : AdapterState) : Prop where
  ready : s.ready = true
  size : s.cache.size ≤ env.cacheMaxEntries
  entries : ∀ key cached, s.cache.get? key = some cached → ∃ origin ∈ calls, ∃ sample,
    origin.inferred = true ∧ origin.result = .ok sample ∧ key = eventId env.texts origin.request.context ∧
    sample.Carries env.texts origin.request.context ∧
    cached = .fromSample sample (origin.request.now + env.cacheTtlSeconds)

theorem Sourced.infer {calls : List (Served F)} (h : Sourced env calls s) (request : FaceRequest F) :
    Sourced env (calls ++ [serve env s request]) (infer env s request).2 := by
  have does : Does env s request _ := does_infer h.ready request
  refine ⟨does.ready.trans h.ready, does.size_le h.size, fun key cached found => ?_⟩
  have older (before : s.cache.get? key = some cached) :
      ∃ origin ∈ calls ++ [serve env s request], ∃ sample, origin.inferred = true ∧
        origin.result = .ok sample ∧ key = eventId env.texts origin.request.context ∧
        sample.Carries env.texts origin.request.context ∧
        cached = .fromSample sample (origin.request.now + env.cacheTtlSeconds) := by
    obtain ⟨origin, member, sourced⟩ := h.entries key cached before
    exact ⟨origin, List.mem_append_left _ member, sourced⟩
  have self : serve env s request ∈ calls ++ [serve env s request] :=
    List.mem_append_right _ (List.mem_singleton_self _)
  unfold serve at older self ⊢
  generalize Face.infer env s request = out at does found older self ⊢
  cases does with
  | hit held' held inTime =>
    rw [Dict.get?_moveToEnd] at found
    exact older (get?_pruneExpired.1 found).1
  | failed e absent => exact older (get?_pruneExpired.1 found).1
  | stored sample carries absent =>
    rcases get?_store found with ⟨rfl, rfl⟩ | before
    · exact ⟨_, self, sample, decide_eq_true (Nat.succ_ne_self _), rfl, rfl, carries, rfl⟩
    · exact older (get?_pruneExpired.1 before).1

/-- The entries of a run, by induction on the calls. -/
theorem Sourced.run {calls : List (Served F)} (h : Sourced env calls s) (requests : List (FaceRequest F)) :
    Sourced env (calls ++ served env s requests) (stateAfter env s requests) := by
  induction requests generalizing calls s with
  | nil =>
    rw [show served env s [] = [] from rfl, List.append_nil]
    exact h
  | cons request rest ih =>
    have step := ih (h.infer request)
    rw [List.append_assoc] at step
    exact step

theorem sourced_initialized : Sourced env [] .initialized :=
  ⟨rfl, Nat.zero_le _, fun _ _ found => absurd found nofun⟩

/-- A part of the record is the record of a part. -/
theorem served_split {requests : List (FaceRequest F)} {earlier later : List (Served F)}
    (split : served env s requests = earlier ++ later) :
    ∃ first rest, requests = first ++ rest ∧ earlier = served env s first ∧
      later = served env (stateAfter env s first) rest := by
  induction earlier generalizing s requests with
  | nil => exact ⟨[], requests, rfl, rfl, split.symm⟩
  | cons call earlier ih =>
    cases requests with
    | nil => exact absurd split nofun
    | cons request requests =>
      obtain ⟨rfl, rest⟩ := List.cons.inj split
      obtain ⟨first, rest', rfl, rfl, rfl⟩ := ih rest
      exact ⟨request :: first, rest', rfl, rfl, rfl⟩

theorem served_cons {requests : List (FaceRequest F)} {call : Served F} {later : List (Served F)}
    (split : served env s requests = call :: later) :
    ∃ request rest, requests = request :: rest ∧ call = serve env s request ∧
      later = served env (infer env s request).2 rest := by
  cases requests with
  | nil => exact absurd split nofun
  | cons request rest =>
    obtain ⟨rfl, rfl⟩ := List.cons.inj split
    exact ⟨request, rest, rfl, rfl, rfl⟩

theorem mem_of_mem_served {requests : List (FaceRequest F)} {call : Served F}
    (member : call ∈ served env s requests) : call.request ∈ requests := by
  induction requests generalizing s with
  | nil => exact absurd member List.not_mem_nil
  | cons request rest ih =>
    rcases List.mem_cons.1 member with rfl | later
    · exact List.mem_cons_self
    · exact List.mem_cons_of_mem _ (ih later)

/-- An entry over a run of calls that do not store another one, by induction on the calls. -/
theorem Holding.run {others : Finset FaceFrameContext} {requests : List (FaceRequest F)}
    (h : Holding env context cached others s) (fresh : ∀ request ∈ requests, request.now < cached.expiresAt)
    (answered : ∀ call ∈ served env s requests, call.request.context = context → call.inferred = false)
    (distinct : ∀ request ∈ requests,
      eventId env.texts request.context = eventId env.texts context → request.context = context) :
    Holding env context cached ((served env s requests).foldl (fun others call =>
      if call.request.context = context then ∅ else insert call.request.context others) others)
      (stateAfter env s requests) := by
  induction requests generalizing others s with
  | nil => exact h
  | cons request rest ih =>
    have step := h.infer (fresh request List.mem_cons_self) (answered _ List.mem_cons_self)
      (distinct request List.mem_cons_self)
    exact ih step (fun r member => fresh r (List.mem_cons_of_mem _ member))
      (fun call member => answered call (List.mem_cons_of_mem _ member))
      fun r member => distinct r (List.mem_cons_of_mem _ member)

/-- A context inferred recently enough, and not evicted since, is answered alike without asking the
backend. -/
def AnswersAlike (env : FaceEnv F) (calls : List (Served F)) : Prop :=
  ∀ (earlier : List (Served F)) (origin : Served F) (between : List (Served F)) (again : Served F)
    (later : List (Served F)) (sample : ExpressionSample),
    calls = earlier ++ origin :: (between ++ again :: later) →
    origin.request.context = again.request.context → origin.inferred = true → origin.result = .ok sample →
    (∀ call ∈ between, call.request.context = again.request.context → call.inferred = false) →
    again.request.now - origin.request.now < env.cacheTtlSeconds →
    (othersSince again.request.context between).card < env.cacheMaxEntries →
    again.inferred = false ∧ again.result = .ok sample

/-- An answer of the cache is that of a call for the same context, not too long ago. -/
def AnswersFresh (env : FaceEnv F) (calls : List (Served F)) : Prop :=
  ∀ (earlier : List (Served F)) (call : Served F) (later : List (Served F)),
    calls = earlier ++ call :: later → call.inferred = false →
    ∃ origin ∈ earlier, ∃ sample, origin.request.context = call.request.context ∧ origin.inferred = true ∧
      origin.result = .ok sample ∧ call.result = .ok sample ∧
      call.request.now < origin.request.now + env.cacheTtlSeconds

/-- What the cache may be relied on for, over the calls of a run. -/
structure CacheFaithful (env : FaceEnv F) (requests : List (FaceRequest F)) : Prop where
  hits : AnswersAlike env (served env .initialized requests)
  fresh : AnswersFresh env (served env .initialized requests)
  bounded : ∀ earlier later, requests = earlier ++ later →
    (stateAfter env .initialized earlier).cache.size ≤ env.cacheMaxEntries
  own : ∀ call ∈ served env .initialized requests, ∀ sample, call.result = .ok sample →
    sample.Carries env.texts call.request.context

variable {requests : List (FaceRequest F)}

theorem hit_of_run (ordered : requests.Pairwise fun a b => a.now ≤ b.now)
    (distinct : ∀ a ∈ requests, ∀ b ∈ requests,
      eventId env.texts a.context = eventId env.texts b.context → a.context = b.context)
    {earlier between later : List (Served F)} {origin again : Served F}
    (split : served env .initialized requests = earlier ++ origin :: (between ++ again :: later))
    (same : origin.request.context = again.request.context) (asked : origin.inferred = true)
    (result : origin.result = .ok sample)
    (answered : ∀ call ∈ between, call.request.context = again.request.context → call.inferred = false)
    (fresh : again.request.now - origin.request.now < env.cacheTtlSeconds)
    (room : (othersSince again.request.context between).card < env.cacheMaxEntries) :
    again.inferred = false ∧ again.result = .ok sample := by
  obtain ⟨first, rest, rfl, -, fromOrigin⟩ := served_split split
  have sourced : Sourced env _ (stateAfter env .initialized first) := sourced_initialized.run first
  generalize stateAfter env AdapterState.initialized first = before at fromOrigin sourced
  obtain ⟨asking, rest, rfl, rfl, afterwards⟩ := served_cons fromOrigin.symm
  obtain ⟨middle, rest, rfl, rfl, fromAgain⟩ := served_split afterwards.symm
  obtain ⟨last, rest, rfl, rfl, -⟩ := served_cons fromAgain.symm
  have does : Does env before asking _ := does_infer sourced.ready asking
  have carries : sample.Carries env.texts asking.context := by
    unfold serve at asked result
    generalize infer env before asking = out at does asked result
    cases does with
    | hit cached found inTime => exact absurd rfl (of_decide_eq_true asked)
    | failed e absent => cases result
    | stored sample' carries absent => exact Except.ok.inj result ▸ carries
  have start := does.holding sourced.ready (of_decide_eq_true asked) result
  have listed {r : FaceRequest F} (member : r ∈ middle) : r ∈ first ++ asking :: (middle ++ last :: rest) :=
    List.mem_append_right _ (List.mem_cons_of_mem _ (List.mem_append_left _ member))
  have origin : asking ∈ first ++ asking :: (middle ++ last :: rest) :=
    List.mem_append_right _ List.mem_cons_self
  have soon {r : FaceRequest F} (le : r.now ≤ last.now) : r.now < asking.now + env.cacheTtlSeconds := by
    have elapsed : last.now - asking.now < env.cacheTtlSeconds := fresh
    linarith
  have inOrder : (middle ++ last :: rest).Pairwise fun a b => a.now ≤ b.now :=
    (List.pairwise_cons.1 (List.pairwise_append.1 ordered).2.1).2
  have held := start.run (fun r member => soon ((List.pairwise_append.1 inOrder).2.2 r member last
    List.mem_cons_self)) (fun call member known => answered call member (known.trans same))
    fun r member => distinct r (listed member) asking origin
  have context : asking.context = last.context := same
  have found := (held.kept (by rw [context]; exact room)).get?
  exact serve_of_stored held.ready (context ▸ carries) (soon le_rfl) (context ▸ found)

/-- **The cache is faithful**, over any sequence of calls on a clock that does not go back. -/
theorem cache_faithful (env : FaceEnv F) (requests : List (FaceRequest F))
    (ordered : requests.Pairwise fun a b => a.now ≤ b.now)
    (distinct : ∀ a ∈ requests, ∀ b ∈ requests,
      eventId env.texts a.context = eventId env.texts b.context → a.context = b.context) :
    CacheFaithful env requests := by
  have answer {earlier later : List (Served F)} {call : Served F}
      (split : served env .initialized requests = earlier ++ call :: later) :
      ∃ s request, request ∈ requests ∧ Sourced env earlier s ∧ call = serve env s request ∧
        ∀ origin ∈ earlier, origin.request ∈ requests := by
    obtain ⟨first, rest, rfl, rfl, fromCall⟩ := served_split split
    obtain ⟨request, rest, rfl, rfl, -⟩ := served_cons fromCall.symm
    have sourced : Sourced env _ (stateAfter env .initialized first) := sourced_initialized.run first
    refine ⟨_, request, List.mem_append_right _ List.mem_cons_self, sourced, rfl, fun origin member => ?_⟩
    exact List.mem_append_left _ (mem_of_mem_served member)
  refine ⟨fun _ _ _ _ _ _ split same asked result answered fresh room =>
    hit_of_run ordered distinct split same asked result answered fresh room,
    fun earlier call later split cached => ?_, fun earlier later split =>
    (sourced_initialized.run earlier).size, fun call member sample result => ?_⟩
  · obtain ⟨s, request, member, sourced, rfl, known⟩ := answer split
    have does : Does env s request _ := does_infer sourced.ready request
    unfold serve at cached ⊢
    generalize infer env s request = out at does cached ⊢
    cases does with
    | hit stored found inTime =>
      obtain ⟨origin, listed, sample, asked, result, key, carries, rfl⟩ := sourced.entries _ _ found
      have context := distinct _ member _ (known origin listed) key
      refine ⟨origin, listed, sample, context.symm, asked, result, ?_, inTime⟩
      dsimp only
      rw [context, sampleFromCache_fromSample carries]
      rfl
    | failed e absent => exact absurd (Nat.succ_ne_self _) (of_decide_eq_false cached)
    | stored sample carries absent => exact absurd (Nat.succ_ne_self _) (of_decide_eq_false cached)
  · obtain ⟨earlier, later, split⟩ := List.append_of_mem member
    obtain ⟨s, request, listed, sourced, rfl, known⟩ := answer split
    have does : Does env s request _ := does_infer sourced.ready request
    unfold serve at result ⊢
    generalize infer env s request = out at does result ⊢
    cases does with
    | hit stored found inTime =>
      obtain ⟨origin, before, stored, asked, -, key, carries, rfl⟩ := sourced.entries _ _ found
      have context := distinct _ listed _ (known origin before) key
      dsimp only at result ⊢
      rw [context, sampleFromCache_fromSample carries] at result
      rw [context, ← Except.ok.inj result]
      exact carries
    | failed e absent => cases result
    | stored sample' carries absent => exact Except.ok.inj result ▸ carries

end

/-- An adapter whose backend sees no face, with room for a number of entries. -/
def facelessEnv (capacity : ℕ) (positive : 0 < capacity) : FaceEnv Unit where
  texts := ⟨fun material => toString material.length, fun _ => "0"⟩
  lowQualityThreshold := 8 / 10
  cacheMaxEntries := capacity
  cacheTtlSeconds := 30
  backend _ _ := .ok ⟨0, [], some (.finite 0)⟩
  thresholdUnit := by norm_num
  capacityPos := positive
  ttlPos := by norm_num

/-- A call for the context of one frame. -/
def frameRequest (frameId : String) (now : ℚ) : FaceRequest Unit :=
  ⟨(), ⟨"session", 0, frameId, .finite 0, "video", 0, 0⟩, now⟩

/-- Three frames have three event ids. -/
theorem nodup_eventIds : (["f", "ff", "fff"].map fun frameId =>
    eventId (facelessEnv 1 one_pos).texts (frameRequest frameId 0).context).Nodup := by decide +kernel

/-- Their event ids tell their contexts apart. -/
theorem context_eq_of_eventId {capacity : ℕ} {positive : 0 < capacity} {requests : List (FaceRequest Unit)}
    (frames : ∀ r ∈ requests, ∃ frameId ∈ ["f", "ff", "fff"], r.context = (frameRequest frameId 0).context) :
    ∀ a ∈ requests, ∀ b ∈ requests, eventId (facelessEnv capacity positive).texts a.context =
      eventId (facelessEnv capacity positive).texts b.context → a.context = b.context := by
  intro a first b second same
  obtain ⟨i, known, ha⟩ := frames a first
  obtain ⟨j, known', hb⟩ := frames b second
  rw [ha, hb] at same ⊢
  rw [List.inj_on_of_nodup_map nodup_eventIds known known' same]

/-- Calls for three contexts: one is asked for again in time, one after it was evicted, and one after its
sample has expired. -/
def threeContexts : List (FaceRequest Unit) :=
  [frameRequest "f" 0, frameRequest "ff" 1, frameRequest "f" 2, frameRequest "fff" 3, frameRequest "ff" 4,
    frameRequest "ff" 40]

/-- With room for two entries the backend is asked for all calls but one. -/
theorem cache_faithful_of_three : CacheFaithful (facelessEnv 2 two_pos) threeContexts ∧
    (served (facelessEnv 2 two_pos) .initialized threeContexts).map (·.inferred) =
      [true, true, false, true, true, true] :=
  ⟨cache_faithful _ _ (by decide +kernel) (context_eq_of_eventId (by decide +kernel)), by decide +kernel⟩

/-- As many other contexts as there is room for evict a context, though they are not more. -/
theorem evicted_by_as_many : ¬∀ (requests : List (FaceRequest Unit)) (earlier : List (Served Unit))
    (origin : Served Unit) (between : List (Served Unit)) (again : Served Unit) (later : List (Served Unit))
    (sample : ExpressionSample),
    (requests.Pairwise fun a b => a.now ≤ b.now) →
    (∀ a ∈ requests, ∀ b ∈ requests, eventId (facelessEnv 1 one_pos).texts a.context =
      eventId (facelessEnv 1 one_pos).texts b.context → a.context = b.context) →
    served (facelessEnv 1 one_pos) .initialized requests = earlier ++ origin :: (between ++ again :: later) →
    origin.request.context = again.request.context → origin.inferred = true → origin.result = .ok sample →
    (∀ call ∈ between, call.request.context = again.request.context → call.inferred = false) →
    again.request.now - origin.request.now < 30 →
    (othersSince again.request.context between).card ≤ 1 →
    again.inferred = false ∧ again.result = .ok sample := by
  intro claimed
  cases result : (serve (facelessEnv 1 one_pos) .initialized (frameRequest "f" 0)).result with
  | error e =>
    have made : (match (serve (facelessEnv 1 one_pos) .initialized (frameRequest "f" 0)).result with
        | .ok _ => true
        | .error _ => false) = true := by decide +kernel
    rw [result] at made
    cases made
  | ok sample =>
    have hit := claimed [frameRequest "f" 0, frameRequest "ff" 1, frameRequest "f" 2] [] _ [_] _ [] sample
      (by decide +kernel) (context_eq_of_eventId (by decide +kernel)) rfl rfl (by decide +kernel) result
      (fun call member known => absurd (List.mem_singleton.1 member ▸ known) (by decide +kernel))
      (by decide +kernel) (by decide +kernel)
    have asked : (serve (facelessEnv 1 one_pos) (stateAfter (facelessEnv 1 one_pos) .initialized
        [frameRequest "f" 0, frameRequest "ff" 1]) (frameRequest "f" 2)).inferred = true := by decide +kernel
    exact absurd (asked.symm.trans hit.1) (by decide)

end Mkk.Face
