import Mkk.Recommendation.Features

/-!
# Reaction batches

`MemoryStore.append_batch` of `store.py`. A session remembers the ids of its batches and events and the
sequence numbers of its events, and folds each new event into its features. The call is written with its
assignments one by one and its exceptions where the source raises them, so that an exception keeps what
was assigned before it. Events keep the fields the store and the features read.
-/

namespace Mkk.Reactions

open Lib Mkk.Recommendation

/-! ## Batches -/

structure ExpressionSample where
  sessionId : String
  eventId : String
  sequence : ℕ
  videoId : String
  videoTimeMs : ℕ
  playbackEpoch : ℕ
  valid : Bool
  confidence : ℚ
  deriving DecidableEq

/-- `ProductAttentionCandidate` -/
structure ProductAttentionCandidate where
  productId : String
  deriving DecidableEq

structure ProductAttentionEvent where
  sessionId : String
  eventId : String
  sequence : ℕ
  videoId : String
  videoTimeMs : ℕ
  playbackEpoch : ℕ
  sourceGazeEventId : String
  outsideVideo : Bool
  candidates : List ProductAttentionCandidate
  valid : Bool
  confidence : ℚ
  deriving DecidableEq

inductive ReactionEvent where
  | expression (sample : ExpressionSample)
  | attention (event : ProductAttentionEvent)
  deriving DecidableEq

namespace ReactionEvent

def sessionId : ReactionEvent → String
  | .expression e => e.sessionId
  | .attention e => e.sessionId

def eventId : ReactionEvent → String
  | .expression e => e.eventId
  | .attention e => e.eventId

def sequence : ReactionEvent → ℕ
  | .expression e => e.sequence
  | .attention e => e.sequence

def videoId : ReactionEvent → String
  | .expression e => e.videoId
  | .attention e => e.videoId

/-- `event.model_dump(mode="json")` -/
def modelDump : ReactionEvent → ContractRecord
  | .expression e => [("session_id", .str e.sessionId), ("event_id", .str e.eventId),
      ("sequence", .int e.sequence), ("video_id", .str e.videoId),
      ("video_time_ms", .int e.videoTimeMs), ("playback_epoch", .int e.playbackEpoch),
      ("valid", .bool e.valid), ("confidence", .float (.finite e.confidence))]
  | .attention e => [("session_id", .str e.sessionId), ("event_id", .str e.eventId),
      ("sequence", .int e.sequence), ("video_id", .str e.videoId),
      ("video_time_ms", .int e.videoTimeMs), ("playback_epoch", .int e.playbackEpoch),
      ("source_gaze_event_id", .str e.sourceGazeEventId), ("outside_video", .bool e.outsideVideo),
      ("candidates", .list (e.candidates.map fun c => .dict [("product_id", .str c.productId)])),
      ("valid", .bool e.valid), ("confidence", .float (.finite e.confidence))]

end ReactionEvent

/-- `ReactionBatch.envelope_matches_events`; the sets are compared as in the source. -/
def envelopeMatchesEvents (sessionId videoId : String) (events : List ReactionEvent) :
    Except String Unit := do
  let eventIds := events.map (·.eventId)
  let sequences := events.map (·.sequence)
  if (events.map (·.sessionId)).toFinset ≠ {sessionId} then
    throw "all event session_id values must match the batch envelope"
  if (events.map (·.videoId)).toFinset ≠ {videoId} then
    throw "all event video_id values must match the batch envelope"
  if eventIds.length ≠ eventIds.toFinset.card then
    throw "event_id values must be unique within a batch"
  if sequences.length ≠ sequences.toFinset.card then
    throw "event sequence values must be unique within a batch"

structure ReactionBatch where
  batchId : String
  sessionId : String
  videoId : String
  events : List ReactionEvent
  bounded : 1 ≤ events.length ∧ events.length ≤ 256
  envelope : envelopeMatchesEvents sessionId videoId events = .ok ()
  deriving DecidableEq

/-! ## The store -/

inductive StoreError where
  | domain (statusCode : ℕ) (code message : String)
  | feature (error : FeatureError)
  | attributeError
  deriving DecidableEq

/-- `SessionRecord` -/
structure SessionRecord where
  reactionFeatures : Option ProductFeatureAccumulator
  eventIds : Finset String
  eventSequences : Finset ℕ
  batchIds : Finset String
  completed : Bool

/-- The record `create_session` stores. -/
def SessionRecord.fresh (products : Finset String) : SessionRecord where
  reactionFeatures := some (.ofProducts products)
  eventIds := ∅
  eventSequences := ∅
  batchIds := ∅
  completed := false

/-- `MemoryStore`: the keys of `products`, the id of the manifest's video and the sessions. -/
structure MemoryStore where
  products : Finset String
  manifestVideoId : String
  sessions : Dict String SessionRecord

inductive AppendStatus where
  | accepted | duplicate
  deriving DecidableEq

structure ReactionBatchAccepted where
  batchId : String
  status : AppendStatus
  deriving DecidableEq

/-- A part of a call of the store. -/
abbrev StoreCall (α : Type) : Type := EStateM StoreError MemoryStore α

/-- `_require_session` -/
def requireSession (sessionId : String) : StoreCall SessionRecord := do
  match (← get).sessions.get? sessionId with
  | some session => return session
  | none => throw (.domain 404 "session_not_found" ("session '" ++ sessionId ++ "' was not found"))

/-- An assignment to the session's record. -/
def assign (sessionId : String) (f : SessionRecord → SessionRecord) : StoreCall Unit :=
  modify fun store => match store.sessions.get? sessionId with
    | some session => { store with sessions := store.sessions.set sessionId (f session) }
    | none => store

/-- `session.reaction_features.accept(record)` -/
def acceptRecord (sessionId : String) (record : ContractRecord) : StoreCall Unit := do
  match (← requireSession sessionId).reactionFeatures with
  | none => throw .attributeError
  | some features =>
    match features.accept record with
    | .error e => throw (.feature e)
    | .ok features => assign sessionId fun session => { session with reactionFeatures := some features }

/-- The body of the loop over the new events. -/
def foldEvent (sessionId : String) (event : ReactionEvent) : StoreCall Unit := do
  assign sessionId fun session => { session with eventIds := insert event.eventId session.eventIds }
  assign sessionId fun session =>
    { session with eventSequences := insert event.sequence session.eventSequences }
  acceptRecord sessionId event.modelDump

/-- The events of a batch that the session has not seen. -/
def SessionRecord.newEvents (session : SessionRecord) (batch : ReactionBatch) : List ReactionEvent :=
  batch.events.filter fun event => event.eventId ∉ session.eventIds

/-- The end of `append_batch`, after its last check. -/
def foldBatch (sessionId : String) (batch : ReactionBatch) (newEvents : List ReactionEvent) :
    StoreCall ReactionBatchAccepted := do
  assign sessionId fun session => { session with batchIds := insert batch.batchId session.batchIds }
  forM newEvents (foldEvent sessionId)
  if newEvents = [] then
    return ⟨batch.batchId, .duplicate⟩
  return ⟨batch.batchId, .accepted⟩

/-- `append_batch` -/
def appendBatch (sessionId : String) (batch : ReactionBatch) : StoreCall ReactionBatchAccepted := do
  let session ← requireSession sessionId
  if batch.sessionId ≠ sessionId then
    throw (.domain 400 "session_mismatch" "batch session_id does not match the URL")
  if batch.videoId ≠ (← get).manifestVideoId then
    throw (.domain 400 "video_mismatch" "batch video_id does not match the session manifest")
  if session.completed then
    throw (.domain 409 "session_completed" "completed sessions cannot accept more batches")
  if batch.batchId ∈ session.batchIds then
    return ⟨batch.batchId, .duplicate⟩
  if session.reactionFeatures.isNone then
    throw (.domain 500 "reaction_state_missing" "session reaction state is missing")
  let newEvents := session.newEvents batch
  let conflictingSequences := (newEvents.map (·.sequence)).filter (· ∈ session.eventSequences)
  if conflictingSequences ≠ [] then
    throw (.domain 400 "duplicate_event_sequence"
      "event sequence values must be unique within a session")
  foldBatch sessionId batch newEvents

/-! ## Runs -/

/-- A call of `append_batch`. -/
structure AppendCall where
  sessionId : String
  batch : ReactionBatch

/-- The call on a store. -/
def AppendCall.on (c : AppendCall) (store : MemoryStore) :
    EStateM.Result StoreError MemoryStore ReactionBatchAccepted :=
  (appendBatch c.sessionId c.batch).run store

/-- The store after a call, whether it raised or not. -/
def storeAfter {α : Type} : EStateM.Result StoreError MemoryStore α → MemoryStore
  | .ok _ store => store
  | .error _ store => store

def returned {α : Type} : EStateM.Result StoreError MemoryStore α → Bool
  | .ok .. => true
  | .error .. => false

/-- The store after a list of calls. -/
def runCalls (store : MemoryStore) (calls : List AppendCall) : MemoryStore :=
  calls.foldl (fun store c => storeAfter (c.on store)) store

/-- No call for the session raises. -/
def noneRaises (sessionId : String) (store : MemoryStore) : List AppendCall → Bool
  | [] => true
  | c :: rest => (decide (c.sessionId ≠ sessionId) || returned (c.on store)) &&
      noneRaises sessionId (storeAfter (c.on store)) rest

/-- The events the calls deliver to a session. -/
def delivered (sessionId : String) (calls : List AppendCall) : List ReactionEvent :=
  (calls.filter (·.sessionId = sessionId)).flatMap (·.batch.events)

/-- The events that are handed to `accept` by one batch. -/
def SessionRecord.folds (session : SessionRecord) (batch : ReactionBatch) : List ReactionEvent :=
  if batch.batchId ∈ session.batchIds then [] else session.newEvents batch

/-- The events that are handed to `accept` in a run, in this order. -/
def folded (sessionId : String) (store : MemoryStore) : List AppendCall → List ReactionEvent
  | [] => []
  | c :: rest =>
    (if c.sessionId = sessionId then
      ((store.sessions.get? sessionId).map (·.folds c.batch)).getD [] else []) ++
      folded sessionId (storeAfter (c.on store)) rest

end Mkk.Reactions
