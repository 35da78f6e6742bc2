import Mkk.Api.Decision
import Mkk.Lib.Feed

/-!
# Manager product requests

`request_manager_product` and `list_manager_events` of the v2 repository and of the v1
`MemoryStore`. Both keep the requests they accepted by id and number their events; they differ
in what a request says and in what is checked of it. A call looks its session up at the moment
it holds the lock, so the session's record is an argument.
-/

namespace Mkk.Api

open Lib

/-- `ManagerProductRequestAccepted`, without the id it repeats. -/
abbrev ManagerProductRequestAccepted : Type := Receipt

/-- `_require_session` -/
def requireSession {S : Type} (sessionId : String) : Option S → Except PyError S
  | some session => .ok session
  | none => .error (.domain 404 "session_not_found" ("session '" ++ sessionId ++ "' was not found"))

/-! ## v2 -/

structure ManagerProductRequestV2 where
  requestId : String
  recommendationId : String
  selectedProductId : String
  deriving DecidableEq

structure ManagerEventPayloadV2 where
  recommendationId : String
  selectedProductId : String
  deriving DecidableEq

structure ManagerEventV2 where
  eventId : String
  sequence : ℕ
  sessionId : String
  kioskId : String
  emittedAt : ℚ
  payload : ManagerEventPayloadV2
  deriving DecidableEq

instance : ContractModel ManagerEventPayloadV2 where
  modelName := "ManagerEventPayloadV2"
  FieldsValid p := isIdentifier p.recommendationId = true ∧ isIdentifier p.selectedProductId = true
  decidable _ := inferInstance

instance : ContractModel ManagerEventV2 where
  modelName := "ManagerEventV2"
  FieldsValid e := isIdentifier e.eventId = true ∧ isIdentifier e.sessionId = true ∧
    isIdentifier e.kioskId = true
  decidable _ := inferInstance

/-- `_manager_requests_v2`, `_manager_events_v2` and `_manager_sequence_v2`; the content of a
request is its session, recommendation and product. -/
abbrev ManagerFeedV2 : Type := Feed String (String × String × String) ManagerEventV2

/-- The event of a v2 request under its number. -/
def managerEventV2 (kioskId sessionId : String) (request : ManagerProductRequestV2)
    (decision : RecommendationDecisionV2) (emittedAt : ℚ) (sequence : ℕ) :
    Except PyError ManagerEventV2 :=
  if request.recommendationId ≠ decision.recommendationId then
    .error (.domain 400 "recommendation_mismatch" "recommendation_id does not match")
  else if some request.selectedProductId ≠ decision.selectedProductId then
    .error (.domain 400 "product_mismatch" "selected_product_id does not match")
  else do
    let payload ← construct (⟨decision.recommendationId, request.selectedProductId⟩ :
      ManagerEventPayloadV2)
    construct { eventId := request.requestId, sequence, sessionId, kioskId, emittedAt, payload }

/-- `MemoryStoreRecommendationRepository.request_manager_product`; `kiosk` is the kiosk of the
session, unless there is none. -/
def requestManagerProduct (feed : ManagerFeedV2) (kiosk : Option String) (sessionId : String)
    (request : ManagerProductRequestV2) (decision : RecommendationDecisionV2) (emittedAt : ℚ) :
    Except PyError ManagerProductRequestAccepted × ManagerFeedV2 :=
  match requireSession sessionId kiosk with
  | .error e => (.error e, feed)
  | .ok kioskId =>
    feed.submit request.requestId (sessionId, request.recommendationId, request.selectedProductId)
      (.domain 409 "request_id_conflict" "request_id was already used")
      (managerEventV2 kioskId sessionId request decision emittedAt)

/-- `MemoryStoreRecommendationRepository.list_manager_events` -/
def listManagerEvents (feed : ManagerFeedV2) (afterSequence : Option ℕ) : List ManagerEventV2 :=
  feed.since ManagerEventV2.sequence afterSequence

/-- What a v2 event says was asked for. -/
def ManagerEventV2.content (e : ManagerEventV2) : String × String × String :=
  (e.sessionId, e.payload.recommendationId, e.payload.selectedProductId)

/-! ## v1 -/

namespace V1

inductive RecommendationStatus where
  | pending | completed | insufficientData | failed
  deriving DecidableEq, Repr

inductive EngineMode where
  | mock | researchVersion
  deriving DecidableEq, Repr

/-- `RecommendationResult`, what a manager request reads of it. -/
structure RecommendationResult (Item : Type) where
  recommendationId : String
  engineMode : EngineMode
  status : RecommendationStatus
  items : List Item

/-- `SessionRecord`, what a manager request reads of it. -/
structure SessionRecord (Item : Type) where
  kioskId : String
  recommendation : Option (RecommendationResult Item)

structure ManagerProductRequest where
  requestId : String
  recommendationId : String
  deriving DecidableEq

structure ManagerEventPayload (Item : Type) where
  recommendationId : String
  engineMode : EngineMode
  items : List Item

structure ManagerEvent (Item : Type) where
  eventId : String
  sequence : ℕ
  sessionId : String
  kioskId : String
  emittedAt : ℚ
  payload : ManagerEventPayload Item

instance (Item : Type) : ContractModel (ManagerEvent Item) where
  modelName := "ManagerEvent"
  FieldsValid e := isIdentifier e.eventId = true ∧ isIdentifier e.sessionId = true ∧
    isIdentifier e.kioskId = true
  decidable _ := inferInstance

/-- `manager_requests`, `manager_events` and `_manager_sequence`; the content of a request is its
session and recommendation. -/
abbrev ManagerFeed (Item : Type) : Type := Feed String (String × String) (ManagerEvent Item)

variable {Item : Type}

/-- The checks of the recommendation, and the event `_append_manager_event` appends. -/
def managerEvent (session : SessionRecord Item) (sessionId : String)
    (request : ManagerProductRequest) (emittedAt : ℚ) (sequence : ℕ) :
    Except PyError (ManagerEvent Item) :=
  match session.recommendation.filter fun r => r.status = .completed with
  | none => .error (.domain 409 "recommendation_not_ready"
      "manager product requests require a completed recommendation")
  | some recommendation =>
    if recommendation.recommendationId ≠ request.recommendationId then
      .error (.domain 400 "recommendation_mismatch"
        "recommendation_id does not match the session recommendation")
    else construct {
      eventId := request.requestId
      sequence, sessionId, emittedAt
      kioskId := session.kioskId
      payload := ⟨recommendation.recommendationId, recommendation.engineMode, recommendation.items⟩ }

/-- `MemoryStore.request_manager_product` -/
def requestManagerProduct (feed : ManagerFeed Item) (session : Option (SessionRecord Item))
    (sessionId : String) (request : ManagerProductRequest) (emittedAt : ℚ) :
    Except PyError ManagerProductRequestAccepted × ManagerFeed Item :=
  match requireSession sessionId session with
  | .error e => (.error e, feed)
  | .ok session =>
    feed.submit request.requestId (sessionId, request.recommendationId)
      (.domain 409 "request_id_conflict"
        "request_id was already used for a different manager product request")
      (managerEvent session sessionId request emittedAt)

/-- `MemoryStore.list_manager_events` -/
def listManagerEvents (feed : ManagerFeed Item) (afterSequence : Option ℕ) :
    List (ManagerEvent Item) :=
  feed.since ManagerEvent.sequence afterSequence

/-- What a v1 event says was asked for. -/
def ManagerEvent.content (e : ManagerEvent Item) : String × String :=
  (e.sessionId, e.payload.recommendationId)

end V1

/-! ## Requests keep the feeds sound -/

/-- The v2 feed is sound. -/
abbrev ManagerFeedV2.Sound (feed : ManagerFeedV2) : Prop :=
  Feed.Sound ManagerEventV2.eventId ManagerEventV2.content ManagerEventV2.sequence feed

/-- The v1 feed is sound. -/
abbrev V1.ManagerFeed.Sound {Item : Type} (feed : V1.ManagerFeed Item) : Prop :=
  Feed.Sound V1.ManagerEvent.eventId V1.ManagerEvent.content V1.ManagerEvent.sequence feed

theorem managerEventV2_own {kioskId sessionId : String} {request : ManagerProductRequestV2}
    {decision : RecommendationDecisionV2} {emittedAt : ℚ} (n : ℕ) (e : ManagerEventV2)
    (h : managerEventV2 kioskId sessionId request decision emittedAt n = .ok e) :
    e.eventId = request.requestId ∧
      e.content = (sessionId, request.recommendationId, request.selectedProductId) ∧
      e.sequence = n := by
  unfold managerEventV2 at h
  split at h
  · cases h
  · rename_i same
    split at h
    · cases h
    · obtain ⟨payload, hpayload, h⟩ := bind_eq_ok_iff.1 h
      obtain ⟨rfl, -⟩ := construct_eq_ok_iff.1 hpayload
      obtain ⟨rfl, -⟩ := construct_eq_ok_iff.1 h
      refine ⟨rfl, ?_, rfl⟩
      rw [ManagerEventV2.content, not_not.1 same]

theorem V1.managerEvent_own {Item : Type} {session : SessionRecord Item} {sessionId : String}
    {request : ManagerProductRequest} {emittedAt : ℚ} (n : ℕ) (e : ManagerEvent Item)
    (h : managerEvent session sessionId request emittedAt n = .ok e) :
    e.eventId = request.requestId ∧ e.content = (sessionId, request.recommendationId) ∧
      e.sequence = n := by
  unfold managerEvent at h
  split at h
  · cases h
  · split at h
    · cases h
    · rename_i same
      obtain ⟨rfl, -⟩ := construct_eq_ok_iff.1 h
      refine ⟨rfl, ?_, rfl⟩
      rw [ManagerEvent.content, not_not.1 same]

end Mkk.Api
