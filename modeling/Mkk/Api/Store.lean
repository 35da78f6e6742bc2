import Mkk.Api.Completion
import Mkk.Lib.Lts

/-!
# The recommendation store

`V2RecommendationStore`: the sessions under the store's lock and the operations on them. Each
operation is the section it runs under the lock, at the clock reading of that section; the
sweep of expired sessions that precedes most of them holds the lock on its own and is an
operation of its own. `step` is the transition system over these operations in any order.
The job ids are drawn fresh, and the last three fields of `World` record what happened; no
operation reads them.
-/

namespace Mkk.Api

open Lib

/-- `self._states` -/
abbrev Sessions : Type := Dict String V2SessionState

/-- What a store is built with, and the reviewed context of each session there can be. -/
structure StoreEnv where
  hashing : Hashing
  casefold : Casefold
  config : StoreConfig
  context : String → Option SessionRecommendationContext
  ownContext : ∀ sessionId, ∀ c ∈ context sessionId, c.sessionId = sessionId

section Operations

variable (env : StoreEnv)

/-- `get_context`: `record` is the v1 record of the session at the time of the call, unless
there is none yet; the flag it holds says whether v1 has completed the session. -/
def StoreEnv.getContext (sessionId : String) (record : Option Bool) :
    Except PyError (SessionRecommendationContext × Bool) :=
  match env.context sessionId, record with
  | some context, some completed => .ok (context, completed)
  | _, _ => .error (.domain 404 "session_not_found" ("session '" ++ sessionId ++ "' was not found"))

/-- The session's state, which is stored afresh when there is none. -/
def openSession (states : Sessions) (sessionId : String) (now : ℚ) : V2SessionState × Sessions :=
  match states.get? sessionId with
  | some s => (s, states)
  | none =>
    (.fresh env.config now, states.set sessionId (.fresh env.config now))

/-- What `append_batch` checks before it takes the lock. -/
def checkBatch (sessionId : String) (record : Option Bool) (batch : ObservationBatchV2) :
    Except PyError SessionRecommendationContext := do
  let (context, completed) ← env.getContext sessionId record
  if batch.sessionId ≠ sessionId then
    .error (.domain 400 "session_mismatch" "batch session_id does not match the URL")
  else if batch.videoId ≠ context.videoId then
    .error (.domain 400 "video_mismatch" "batch video_id does not match the session manifest")
  else if completed then
    .error (.domain 409 "session_completed" "completed sessions cannot accept observations")
  else do
    let _ ← batch.observations.mapM (checkObservation context)
    return context

/-- `append_batch` -/
def appendBatch (states : Sessions) (now : ℚ) (sessionId : String) (record : Option Bool)
    (batch : ObservationBatchV2) : Except PyError ObservationBatchAcceptedV2 × Sessions :=
  match checkBatch env sessionId record batch with
  | .error e => (.error e, states)
  | .ok context =>
    let (s, states) := openSession env states sessionId now
    match s.append env.config context (env.hashing.fingerprint batch) now batch with
    | .error e => (.error e, states)
    | .ok (accepted, s') => (.ok accepted, states.set sessionId s')

/-- What `begin_completion` checks before it takes the lock. -/
def checkBegin (sessionId : String) (record : Option Bool) :
    Except PyError (SessionRecommendationContext × Bool) := do
  let (context, completed) ← env.getContext sessionId record
  if ∃ m ∈ context.sourceAoiMetadata, m.approvalStatus ≠ .approved then
    .error (.domain 409 "aoi_metadata_unapproved"
      "source AOI metadata must be approved before recommendation completion")
  else return (context, completed)

/-- `begin_completion` -/
def beginCompletion (states : Sessions) (now : ℚ) (sessionId : String) (record : Option Bool)
    (client : CentralRecommendationClient) (jobId : String) : Except PyError Begun × Sessions :=
  match checkBegin env sessionId record with
  | .error e => (.error e, states)
  | .ok (context, completed) =>
    let (s, states) := openSession env states sessionId now
    let (result, s') := s.begin env.hashing env.config context client completed now jobId
    (result, states.set sessionId s')

/-- The pending session the job is the active one of. -/
def activeState (states : Sessions) (job : CompletionJob) : Option V2SessionState :=
  (states.get? job.sessionId).filter fun s =>
    s.status = .pending ∧ s.activeJobId = some job.jobId

/-- `_commit_terminal` -/
def commitTerminal (states : Sessions) (now : ℚ) (job : CompletionJob)
    (decision : RecommendationDecisionV2) : Bool × Sessions :=
  match activeState states job with
  | none => (false, states)
  | some s => (true, states.set job.sessionId
      { s.clearTransient with
        decision := some decision
        status := .terminal
        activeJobId := none
        activeJob := none
        activeJobHandle := none
        expiresAt := now + env.config.decisionTtl })

/-- The handle of a submitted job is kept while the job is the active one. -/
def registerHandle (states : Sessions) (job : CompletionJob) : Bool × Sessions :=
  match states.get? job.sessionId with
  | none => (false, states)
  | some s =>
    if s.activeJobId = some job.jobId then
      (true, states.set job.sessionId { s with activeJobHandle := some ⟨job.jobId⟩ })
    else (false, states)

/-- The part of `cancel` that holds the lock. -/
def cancelSession (states : Sessions) (sessionId : String) (record : Option Bool) :
    Except PyError Unit × Sessions :=
  match env.getContext sessionId record with
  | .error e => (.error e, states)
  | .ok _ => (.ok (), states.pop sessionId)

/-- The part of `cleanup_expired` that holds the lock, at the reading it took before. -/
def cleanupExpired (states : Sessions) (now : ℚ) : Sessions :=
  states.filter fun _ s => decide (now < s.expiresAt)

/-- What `get_recommendation` returns. -/
inductive Recommendation where
  | accepted (a : RecommendationAcceptedV2)
  | decided (d : RecommendationDecisionV2)
  deriving DecidableEq

/-- `get_recommendation` -/
def getRecommendation (states : Sessions) (sessionId : String) (record : Option Bool) :
    Except PyError Recommendation := do
  let _ ← env.getContext sessionId record
  match (states.get? sessionId).bind fun s => s.accepted.map fun a => (s, a) with
  | none => .error (.domain 404 "recommendation_not_found" "v2 recommendation was not started")
  | some (s, accepted) =>
    if s.status = .pending then return .accepted accepted
    else match s.decision with
      | none => .error (.domain 500 "recommendation_missing" "v2 recommendation state is missing")
      | some decision => return .decided decision

end Operations

/-! ## Runs -/

/-- How a job comes by its decision. -/
inductive JobEnd where
  | reply (reply : ModelReply)
  | startFailed
  deriving DecidableEq

/-- The decision of a job. -/
def CompletionJob.decide (job : CompletionJob) (casefold : Casefold) :
    JobEnd → Except PyError RecommendationDecisionV2
  | .reply reply => job.run casefold reply
  | .startFailed => job.startFailure

structure World where
  states : Sessions := Dict.empty
  clock : ℚ := 0
  drawnIds : List String := []
  jobs : List CompletionJob := []
  returned : List RecommendationDecisionV2 := []
  retired : List String := []
  deriving DecidableEq

inductive Event where
  | tick (duration : ℚ)
  | sweep (now : ℚ)
  | append (sessionId : String) (record : Option Bool) (batch : ObservationBatchV2)
  | begin (sessionId : String) (record : Option Bool) (client : CentralRecommendationClient)
      (jobId : String)
  | register (job : CompletionJob)
  | commit (job : CompletionJob) (jobEnd : JobEnd)
  | cancel (sessionId : String) (record : Option Bool)
  | get (sessionId : String) (record : Option Bool)

/-- The sessions whose started completion is gone. -/
def retiredBy (before after : Sessions) : List String :=
  (before.entries.filter fun e => e.2.accepted.isSome && (after.get? e.1).isNone).map Prod.fst

/-- The job a call of `begin_completion` handed out. -/
def handedOut : Except PyError Begun → List CompletionJob
  | .ok (_, some job) => [job]
  | _ => []

/-- The decision a call of `get_recommendation` returned. -/
def shownDecision : Except PyError Recommendation → List RecommendationDecisionV2
  | .ok (.decided d) => [d]
  | _ => []

/-- The sessions after a removal. -/
def World.remove (w : World) (after : Sessions) : World :=
  { w with states := after, retired := retiredBy w.states after ++ w.retired }

/-- One operation of the store. -/
def step (env : StoreEnv) (w : World) : Event → Option World
  | .tick duration => if 0 ≤ duration then some { w with clock := w.clock + duration } else none
  | .sweep now => if now ≤ w.clock then some (w.remove (cleanupExpired w.states now)) else none
  | .append sessionId record batch =>
    some { w with states := (appendBatch env w.states w.clock sessionId record batch).2 }
  | .begin sessionId record client jobId =>
    if jobId ∈ w.drawnIds then none
    else
      let (result, states) := beginCompletion env w.states w.clock sessionId record client jobId
      some { w with
        states := states
        drawnIds := jobId :: w.drawnIds
        jobs := handedOut result ++ w.jobs }
  | .register job =>
    if job ∈ w.jobs then some { w with states := (registerHandle w.states job).2 } else none
  | .commit job jobEnd =>
    if job ∈ w.jobs then
      match job.decide env.casefold jobEnd with
      | .error _ => some w
      | .ok decision =>
        some { w with states := (commitTerminal env w.states w.clock job decision).2 }
    else none
  | .cancel sessionId record => some (w.remove (cancelSession env w.states sessionId record).2)
  | .get sessionId record =>
    some { w with
      returned := shownDecision (getRecommendation env w.states sessionId record) ++ w.returned }

/-- The store's runs from its construction on. -/
abbrev Reachable (env : StoreEnv) (w : World) : Prop := ∃ es, Lts.Steps (step env) Lts.Free {} es w

/-! ## A small store

Two sessions on a lookbook whose one exposure covers the whole picture. -/

/-- The digests of the two sessions, and a stand-in digest for any other text. -/
def smallDigest (text : String) : List Char :=
  if text = "00112233445566778899aabbccddeeff:session-0001" then
    "efdc49a849bee724b16459d9cd9a58e51e0cceee056d7366f79508d59a10113c".toList
  else if text = "00112233445566778899aabbccddeeff:session-0002" then
    "d1655a2346791500b42443961da80834f4db7889a6ef526c9cd6e3a3fd350b62".toList
  else ((text.toList ++ List.replicate 64 '0').take 64).map fun c =>
    "0123456789abcdef".toList.getD (c.toNat % 16) '0'

theorem length_smallDigest (text : String) : (smallDigest text).length = 64 := by
  unfold smallDigest
  split_ifs
  · decide +kernel
  · decide +kernel
  · simp

theorem smallDigest_hex (text : String) : ∀ c ∈ smallDigest text, isHexDigit c = true := by
  unfold smallDigest
  split_ifs
  · exact List.all_eq_true.1 (by decide +kernel)
  · exact List.all_eq_true.1 (by decide +kernel)
  · intro c hc
    obtain ⟨d, -, rfl⟩ := List.mem_map.1 hc
    have all : ∀ n < 16, isHexDigit ("0123456789abcdef".toList.getD n '0') = true := by decide
    exact all _ (Nat.mod_lt _ (by decide))

def smallHashing : Hashing where
  sha256Hex text := String.ofList (smallDigest text)
  dumpJson batch := "\x7b\"batch_id\":\"" ++ batch.batchId ++ "\"\x7d"
  hexLength text := by rw [String.length_ofList, length_smallDigest]
  hexDigits text := by rw [String.toList_ofList]; exact smallDigest_hex text

def wholePicture : Polygon where
  points := [(0, 0), (1, 0), (1, 1), (0, 1)]
  atLeastThree := by decide
  normalized := by decide

def smallProduct (i : Fin 10) : ProductRecommendationItemV2 where
  productId := "bag-" ++ String.ofList [Nat.digitChar i]
  controlledTags := [.classic, .leather, .minimal]
  productIdOk := by revert i; decide
  tagsBounded := by decide
  tagsUnique := by decide

def smallMetadata : LookbookAoiMetadataV2 where
  videoId := "mcm-lookbook-v2"
  manifestVersion := "manifest-1"
  metadataRevision := "aoi-1"
  approvalStatus := .approved
  durationMs := 60000
  exposures := [{
    aoiId := "aoi-1", parentAoiId := none, specificityRank := 0, startMs := 0, endMs := 60000
    shape := wholePicture, productId := "bag-0", componentCode := .wholeProduct
    observedVisualTagIds := [.classic] }]
  metadataRevisionOk := by decide
  exposuresValid := by decide

def smallContext (sessionId : String) (h : isIdentifier sessionId = true) :
    SessionRecommendationContext where
  sessionId := sessionId
  videoId := "mcm-lookbook-v2"
  manifestVersion := "manifest-1"
  catalogVersion := "catalog-1"
  products := List.ofFn smallProduct
  aoiMetadata := some smallMetadata
  sourceAoiMetadata := none
  sourceAoiBindings := []
  matchingCatalog := none
  sessionIdOk := h
  videoIdOk := by decide
  manifestVersionOk := by decide
  catalogVersionOk := by decide
  tenProducts := by simp
  productsUnique := by decide
  bound := fun _ h => nomatch h
  unbound := fun _ => rfl
  matching := rfl
  aoiProducts := by decide

def smallConfig (variant : InputVariant) (demo : Bool) : StoreConfig where
  collectingTtl := 300
  pendingTtl := 1800
  decisionTtl := 900
  inputVariant := variant
  allowInsufficientSignalDemo := demo
  runScope := "00112233445566778899aabbccddeeff"
  ttlsPositive := by norm_num

def smallEnv (variant : InputVariant) (demo : Bool) : StoreEnv where
  hashing := smallHashing
  casefold := foldedText
  config := smallConfig variant demo
  context sessionId :=
    if sessionId = "session-0001" then some (smallContext "session-0001" (by decide))
    else if sessionId = "session-0002" then some (smallContext "session-0002" (by decide))
    else none
  ownContext sessionId c hc := by
    rw [Option.mem_def] at hc
    split_ifs at hc with h h'
    · cases hc; exact h.symm
    · cases hc; exact h'.symm

/-- A frame that looks at the middle of the picture. -/
def glance (frameId : String) (sequence : ℕ) (atMs : ℚ) : FrameObservationV2 where
  frameId := frameId
  sequence := sequence
  capturedAtMonoMs := atMs
  sessionOffsetMs := atMs
  videoTimeMs := sequence
  playbackEpoch := 0
  gaze := some {
    screenXNorm := 1 / 2, screenYNorm := 1 / 2, confidence := 1
    producerId := "eye-1", modelRevision := "eye-model-1", calibrationId := "calibration-1" }
  gazeReason := none
  attention := some {
    outsideVideo := false, videoXNorm := some (1 / 2), videoYNorm := some (1 / 2), confidence := 1
    producerId := "mapper-1", modelRevision := "mapper-model-1", manifestVersion := "manifest-1"
    candidates := [] }
  attentionReason := none
  expression := none
  expressionReason := some "face_not_found"
  derived := none
  derivedReason := some "no_previous_frame"

theorem sessionId_ok : isIdentifier "session-0001" = true := by decide

theorem videoId_ok : isIdentifier "mcm-lookbook-v2" = true := by decide

theorem firstBatchId_ok : isIdentifier "batch-1" = true := by decide

theorem secondBatchId_ok : isIdentifier "batch-2" = true := by decide

/-- The batch of one frame. -/
def batchOf (sessionId : String) (batchId : String) (batchSequence : ℕ) (frame : FrameObservationV2)
    (hs : isIdentifier sessionId = true) (hb : isIdentifier batchId = true) (hf : frame.Valid) :
    ObservationBatchV2 where
  batchId := batchId
  batchSequence := batchSequence
  sessionId := sessionId
  videoId := "mcm-lookbook-v2"
  observations := [frame]
  batchIdOk := hb
  sessionIdOk := hs
  videoIdOk := by decide
  bounded := ⟨Nat.le_refl 1, show 1 ≤ 256 by decide⟩
  framesValid := by simpa using hf

def glanceBatch : ObservationBatchV2 :=
  batchOf "session-0001" "batch-1" 0 (glance "frame-1" 0 1000) (by decide) (by decide)
    (by decide +kernel)

/-- A client whose model also reads a timeline without gaze. -/
def lunaClient : CentralRecommendationClient := ⟨lunaModelId, "revision-1", "prompt-1"⟩

end Mkk.Api
