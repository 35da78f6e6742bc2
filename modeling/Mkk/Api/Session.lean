import Mkk.Api.Central

/-!
# A session and its buffer

The state the recommendation store keeps for one session and `append_batch` on it. Every
observation of a batch is read into prospective copies of the session's structures, the
whole buffer is checked again, and only then is the state replaced, so a refused batch
leaves it as it was.
-/

namespace Mkk.Api

open Lib

/-- `MAX_BUFFERED_OBSERVATIONS` -/
def maxBufferedObservations : ℕ := 512

/-! ## Context, configuration and clients -/

/-- `ProductMatchingCatalogV1`, its products. -/
structure ProductMatchingCatalogV1 where
  products : List ProductMatchingItemV1
  tenProducts : LengthWithin 10 10 products
  deriving DecidableEq

/-- `SessionRecommendationContext`, with what the repository has checked when it was loaded. -/
structure SessionRecommendationContext where
  sessionId : String
  videoId : String
  manifestVersion : String
  catalogVersion : String
  products : List ProductRecommendationItemV2
  aoiMetadata : Option LookbookAoiMetadataV2
  sourceAoiMetadata : Option SourceAoiMetadataV1
  sourceAoiBindings : List BoundSourceAoi
  matchingCatalog : Option ProductMatchingCatalogV1
  sessionIdOk : isIdentifier sessionId = true
  videoIdOk : isIdentifier videoId = true
  manifestVersionOk : isRevision manifestVersion = true
  catalogVersionOk : isRevision catalogVersion = true
  tenProducts : products.length = 10
  productsUnique : (products.map (·.productId)).Nodup
  bound : ∀ m ∈ sourceAoiMetadata, ∃ manifest, bindSourceAois manifest m = .ok sourceAoiBindings
  unbound : sourceAoiMetadata = none → sourceAoiBindings = []
  matching : matchingCatalog.isSome = sourceAoiMetadata.isSome
  aoiProducts : ∀ m ∈ aoiMetadata, ∀ e ∈ m.exposures, e.productId ∈ products.map (·.productId)

/-- The source AOIs are there and approved. -/
def SessionRecommendationContext.sourceApproved (context : SessionRecommendationContext) :
    Option SourceAoiMetadataV1 :=
  context.sourceAoiMetadata.filter fun m => m.approvalStatus = .approved

/-- The settings of a store. -/
structure StoreConfig where
  collectingTtl : ℚ
  pendingTtl : ℚ
  decisionTtl : ℚ
  inputVariant : InputVariant
  allowInsufficientSignalDemo : Bool
  runScope : String
  ttlsPositive : 0 < collectingTtl ∧ 0 < pendingTtl ∧ 0 < decisionTtl

def isHexDigit (c : Char) : Bool := c.isDigit || c ∈ ['a', 'b', 'c', 'd', 'e', 'f']

/-- `sha256(text).hexdigest()` and `batch.model_dump_json()`. -/
structure Hashing where
  sha256Hex : String → String
  dumpJson : ObservationBatchV2 → String
  hexLength : ∀ s, (sha256Hex s).length = 64
  hexDigits : ∀ s, ∀ c ∈ (sha256Hex s).toList, isHexDigit c = true

/-- The fingerprint of a batch. -/
def Hashing.fingerprint (h : Hashing) (batch : ObservationBatchV2) : String :=
  h.sha256Hex (h.dumpJson batch)

/-- What the store reads of a central model client. -/
structure CentralRecommendationClient where
  modelId : String
  modelRevision : String
  promptVersion : String
  deriving DecidableEq

/-! ## Session state -/

structure CompletionJob where
  sessionId : String
  jobId : String
  accepted : RecommendationAcceptedV2
  request : CentralRecommendationRequestV2
  summary : EvidenceSummary
  version : RecommendationVersionV2
  deriving DecidableEq

/-- The handle of a submitted job. -/
structure JobHandle where
  jobId : String
  deriving DecidableEq, Repr

inductive SessionStatus where
  | collecting | pending | terminal
  deriving DecidableEq, Repr

structure V2SessionState where
  observations : Dict (ℕ × String) FrameObservationV2 := Dict.empty
  resolvedSourceHits : Dict (ℕ × String) (List ResolvedSourceAoiHit) := Dict.empty
  sequenceIndex : Dict ℕ (ℕ × String) := Dict.empty
  batchFingerprints : Dict String String := Dict.empty
  batchSequenceIndex : Dict ℕ String := Dict.empty
  status : SessionStatus := .collecting
  accepted : Option RecommendationAcceptedV2 := none
  decision : Option RecommendationDecisionV2 := none
  activeJobId : Option String := none
  activeJob : Option CompletionJob := none
  activeJobHandle : Option JobHandle := none
  highestPlaybackEpoch : ℤ := -1
  lastVideoTimeByEpoch : Dict ℕ ℕ := Dict.empty
  expiresAt : ℚ := 0
  deriving DecidableEq

/-- `clear_transient` -/
def V2SessionState.clearTransient (s : V2SessionState) : V2SessionState :=
  { s with
    observations := Dict.empty
    resolvedSourceHits := Dict.empty
    sequenceIndex := Dict.empty
    batchFingerprints := Dict.empty
    batchSequenceIndex := Dict.empty
    highestPlaybackEpoch := -1
    lastVideoTimeByEpoch := Dict.empty }

/-- A session that starts to collect at `now`. -/
def V2SessionState.fresh (config : StoreConfig) (now : ℚ) : V2SessionState :=
  { expiresAt := now + config.collectingTtl }

/-! ## Merging a frame that was seen before -/

/-- A value and its missing reason. -/
abbrev Modality (α : Type) : Type := Option α × Option String

/-- One modality of `_merge_observation`; the flag says whether a value arrived. -/
def mergeModality {α : Type} [DecidableEq α] (name : String) (current incoming : Modality α) :
    Except PyError (Modality α × Bool) :=
  match current.1, incoming.1 with
  | some old, some new =>
    if old ≠ new then .error (.domain 400 "frame_modality_conflict"
      ("frame " ++ name ++ " was submitted with conflicting values"))
    else .ok (current, false)
  | none, some new => .ok ((some new, none), true)
  | none, none =>
    if current.2 ≠ incoming.2 then .error (.domain 400 "frame_modality_conflict"
      ("frame " ++ name ++ " was submitted with conflicting missing reasons"))
    else .ok (current, false)
  | some _, none => .ok (current, false)

/-- The fields that belong to a frame and not to a modality. -/
def FrameObservationV2.context (o : FrameObservationV2) : String × ℕ × ℚ × ℚ × ℕ × ℕ :=
  (o.frameId, o.sequence, o.capturedAtMonoMs, o.sessionOffsetMs, o.videoTimeMs, o.playbackEpoch)

/-- `_merge_observation` -/
def mergeObservation (current incoming : FrameObservationV2) :
    Except PyError (FrameObservationV2 × Bool) :=
  if current.context ≠ incoming.context then .error (.domain 400 "frame_context_conflict"
    "the same frame_id and playback_epoch carried conflicting frame context")
  else do
    let (gaze, gazeChanged) ← mergeModality "gaze"
      (current.gaze, current.gazeReason) (incoming.gaze, incoming.gazeReason)
    let (expression, expressionChanged) ← mergeModality "expression"
      (current.expression, current.expressionReason) (incoming.expression, incoming.expressionReason)
    let (attention, attentionChanged) ← mergeModality "attention"
      (current.attention, current.attentionReason) (incoming.attention, incoming.attentionReason)
    let (derived, derivedChanged) ← mergeModality "derived"
      (current.derived, current.derivedReason) (incoming.derived, incoming.derivedReason)
    return ({ current with
      gaze := gaze.1, gazeReason := gaze.2
      attention := attention.1, attentionReason := attention.2
      expression := expression.1, expressionReason := expression.2
      derived := derived.1, derivedReason := derived.2 },
      gazeChanged || expressionChanged || attentionChanged || derivedChanged)

/-! ## Reading a batch -/

/-- What `append_batch` checks of an observation's attention. -/
def checkAttention (context : SessionRecommendationContext) (observation : FrameObservationV2) :
    Except PyError Unit :=
  match observation.attention with
  | none => .ok ()
  | some attention =>
    if observation.gaze = none then .error (.domain 400 "gaze_attention_mismatch"
      "video attention coordinates require a valid gaze observation")
    else if attention.manifestVersion ≠ context.manifestVersion then
      .error (.domain 400 "manifest_mismatch"
        "attention manifest_version does not match the session manifest")
    else if attention.candidates ≠ [] then
      .error (.domain 400 "client_product_attribution_forbidden"
        "Kiosk observations cannot provide product or AOI candidates")
    else if attention.outsideVideo = false ∧
        ((∃ m ∈ context.sourceAoiMetadata, m.approvalStatus ≠ .approved) ∨
          (context.sourceAoiMetadata = none ∧
            ∀ m ∈ context.aoiMetadata, m.approvalStatus ≠ .approved)) then
      .error (.domain 409 "aoi_metadata_unapproved"
        "the canonical video does not have approved source AOI metadata")
    else .ok ()

/-- What `append_batch` checks of each observation before it takes the lock. -/
def checkObservation (context : SessionRecommendationContext) (observation : FrameObservationV2) :
    Except PyError Unit := do
  let _ ← checkAttention context observation
  if ∃ m ∈ context.aoiMetadata, observation.videoTimeMs ≥ m.durationMs then
    .error (.domain 400 "video_time_out_of_range"
      "video_time_ms must be inside the canonical media duration")
  else return ()

/-- The prospective copies that a batch is read into. -/
structure Prospective where
  observations : Dict (ℕ × String) FrameObservationV2
  sequenceIndex : Dict ℕ (ℕ × String)
  highestEpoch : ℤ
  changed : Bool
  deriving DecidableEq

/-- One observation of the batch. -/
def Prospective.read (p : Prospective) (observation : FrameObservationV2) :
    Except PyError Prospective :=
  if ∃ k ∈ p.sequenceIndex.get? observation.sequence, k ≠ observation.key then
    .error (.domain 400 "observation_sequence_conflict"
      "observation sequence values must be unique within a session")
  else match p.observations.get? observation.key with
    | none =>
      if (observation.playbackEpoch : ℤ) < p.highestEpoch then
        .error (.domain 400 "stale_playback_epoch"
          "a new observation cannot arrive from an older playback epoch")
      else if p.observations.size ≥ maxBufferedObservations then
        .error (.domain 413 "observation_buffer_full"
          "session observation buffer reached its bounded limit")
      else .ok {
        observations := p.observations.set observation.key observation
        sequenceIndex := p.sequenceIndex.set observation.sequence observation.key
        highestEpoch := max p.highestEpoch observation.playbackEpoch
        changed := true }
    | some current => do
      let (merged, didChange) ← mergeObservation current observation
      return { p with
        observations := p.observations.set observation.key merged
        changed := p.changed || didChange }

/-- `any(current < previous for previous, current in zip(values, values[1:]))` -/
def movesBack {α : Type} [LinearOrder α] (values : List α) : Bool :=
  (values.zip values.tail).any fun p => decide (p.2 < p.1)

/-- The frames of each playback epoch. -/
def epochFrames (frames : List FrameObservationV2) : Dict ℕ (List FrameObservationV2) :=
  Dict.accumulate (·.playbackEpoch) (fun l (frame : FrameObservationV2) => l.getD [] ++ [frame]) frames

/-- The video times of an epoch's frames by sequence. -/
def videoTimes (frames : List FrameObservationV2) : List ℕ :=
  (sortOn FrameObservationV2.sequence frames).map (·.videoTimeMs)

/-- The last video time of each epoch, unless the time moves backward inside one. -/
def lastVideoTimes (frames : List FrameObservationV2) (last : Dict ℕ ℕ) : Except PyError (Dict ℕ ℕ) :=
  (epochFrames frames).entries.foldlM (fun last e =>
    if movesBack (videoTimes e.2) then .error (.domain 400 "video_time_regression"
      "video_time_ms cannot move backward inside one playback epoch")
    else .ok (last.set e.1 ((videoTimes e.2).max?.getD 0))) last

/-- The source AOI hits of every buffered frame, when the source AOIs are approved. -/
def resolveHits (context : SessionRecommendationContext) (frames : List FrameObservationV2) :
    Except PyError (Dict (ℕ × String) (List ResolvedSourceAoiHit)) :=
  match context.sourceApproved with
  | none => .ok Dict.empty
  | some _ => do
    let items ← frames.mapM fun item => do
      return (item.key, ← resolveSourceAoiHits item context.sourceAoiBindings)
    return Dict.accumulate Prod.fst (fun _ e => e.2) items

/-- The state once a batch was read. -/
def V2SessionState.buffered (s : V2SessionState) (config : StoreConfig) (fingerprint : String)
    (now : ℚ) (batch : ObservationBatchV2) (p : Prospective) (last : Dict ℕ ℕ)
    (hits : Dict (ℕ × String) (List ResolvedSourceAoiHit)) : V2SessionState :=
  { s with
    observations := p.observations
    resolvedSourceHits := hits
    sequenceIndex := p.sequenceIndex
    batchFingerprints := s.batchFingerprints.set batch.batchId fingerprint
    batchSequenceIndex := s.batchSequenceIndex.set batch.batchSequence batch.batchId
    highestPlaybackEpoch := p.highestEpoch
    lastVideoTimeByEpoch := last
    expiresAt := now + config.collectingTtl }

/-- The part of `append_batch` that holds the lock, on the state of the session. -/
def V2SessionState.append (config : StoreConfig) (context : SessionRecommendationContext)
    (fingerprint : String) (now : ℚ) (batch : ObservationBatchV2) (s : V2SessionState) :
    Except PyError (ObservationBatchAcceptedV2 × V2SessionState) :=
  if s.status ≠ .collecting then
    .error (.domain 409 "session_completed" "session is no longer collecting")
  else match s.batchFingerprints.get? batch.batchId with
    | some old =>
      if old ≠ fingerprint then .error (.domain 409 "batch_id_conflict"
        "batch_id was already used for different observations")
      else .ok (⟨batch.batchId, .duplicate⟩, s)
    | none =>
      if ∃ b ∈ s.batchSequenceIndex.get? batch.batchSequence, b ≠ batch.batchId then
        .error (.domain 400 "batch_sequence_conflict"
          "batch_sequence values must be unique within a session")
      else do
        let p ← batch.observations.foldlM Prospective.read
          ⟨s.observations, s.sequenceIndex, s.highestPlaybackEpoch, false⟩
        if movesBack ((ordered p.observations.values).map (·.sessionOffsetMs)) then
          .error (.domain 400 "session_offset_conflict"
            "session_offset_ms must be nondecreasing in analysis order")
        else do
          let last ← lastVideoTimes p.observations.values s.lastVideoTimeByEpoch
          let hits ← resolveHits context p.observations.values
          let status := if p.changed then .accepted else .duplicate
          return (⟨batch.batchId, status⟩, s.buffered config fingerprint now batch p last hits)

end Mkk.Api
