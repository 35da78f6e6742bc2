import Mkk.Reactions.Store
import Mkk.Recommendation.Snapshot

/-!
# Order and repetition of reaction batches

A call of `append_batch` that raises leaves the store as it was. In a run whose calls return and in which
a batch id stands for one batch, each delivered event is folded once (`folded_once`), so that the features
are those of the delivered events in any order and the snapshot depends on these only
(`reactions_converge`).
-/

namespace Mkk.Reactions

open Lib Mkk.Recommendation

/-! ## Events and batches -/

/-- The same event of another session. -/
def ReactionEvent.forSession (sessionId : String) : ReactionEvent → ReactionEvent
  | .expression e => .expression { e with sessionId := sessionId }
  | .attention e => .attention { e with sessionId := sessionId }

@[simp] theorem eventId_forSession (sessionId : String) (e : ReactionEvent) :
    (e.forSession sessionId).eventId = e.eventId := by
  cases e <;> rfl

/-- A validated event is read without an exception. -/
theorem reads_modelDump (acc : ProductFeatureAccumulator) (e : ReactionEvent) :
    acc.Reads e.modelDump := by
  cases e with
  | expression e => exact ⟨[], rfl⟩
  | attention e =>
    have sequence : sequenceOf (ReactionEvent.attention e).modelDump = some (e.sequence : ℤ) := rfl
    have candidates : Value.get (ReactionEvent.attention e).modelDump "candidates" =
        .list (e.candidates.map fun c => .dict [("product_id", .str c.productId)]) := rfl
    have confidence : confidenceOf (ReactionEvent.attention e).modelDump = .ok e.confidence := rfl
    unfold ProductFeatureAccumulator.Reads contributions
    rw [sequence, candidates, confidence]
    split
    · exact ⟨[], rfl⟩
    · by_cases unnamed : candidateProducts acc.knownProductIds
          (e.candidates.map fun c => .dict [("product_id", .str c.productId)]) = []
      · exact ⟨[], if_pos unnamed⟩
      · exact ⟨_, if_neg unnamed⟩

/-- What is noted of an event does not depend on its session. -/
theorem noted_forSession (acc : ProductFeatureAccumulator) (sessionId : String) (e : ReactionEvent) :
    acc.noted (e.forSession sessionId).modelDump = acc.noted e.modelDump := by
  cases e <;> rfl

/-- The validator refuses two events with one id. -/
theorem nodup_eventIds (b : ReactionBatch) : (b.events.map (·.eventId)).Nodup := by
  have checked := b.envelope
  unfold envelopeMatchesEvents at checked
  have sessions : (b.events.map (·.sessionId)).toFinset = {b.sessionId} := by
    by_contra differs
    simp only [if_pos differs] at checked
    cases checked
  simp only [if_neg (not_not.2 sessions)] at checked
  have videos : (b.events.map (·.videoId)).toFinset = {b.videoId} := by
    by_contra differs
    simp only [if_pos differs] at checked
    cases checked
  simp only [if_neg (not_not.2 videos)] at checked
  have unique : (b.events.map (·.eventId)).length = (b.events.map (·.eventId)).toFinset.card := by
    by_contra differs
    simp only [if_pos differs] at checked
    cases checked
  exact Multiset.coe_nodup.1 (Multiset.toFinset_card_eq_card_iff_nodup.1 unique.symm)

/-! ## One call -/

section Calls

variable {store store' : MemoryStore} {sessionId : String} {session : SessionRecord}
  {acc : ProductFeatureAccumulator} {b : ReactionBatch}

/-- The store with another record for a session. -/
def MemoryStore.withRecord (store : MemoryStore) (sessionId : String) (session : SessionRecord) :
    MemoryStore :=
  { store with sessions := store.sessions.set sessionId session }

@[simp] theorem get?_withRecord_self :
    (store.withRecord sessionId session).sessions.get? sessionId = some session :=
  Dict.get?_set_self _ _ _

@[simp] theorem withRecord_withRecord (session' : SessionRecord) :
    (store.withRecord sessionId session).withRecord sessionId session' = store.withRecord sessionId session' := by
  unfold MemoryStore.withRecord
  rw [Dict.set_set]

theorem withRecord_self (found : store.sessions.get? sessionId = some session) :
    store.withRecord sessionId session = store := by
  unfold MemoryStore.withRecord
  rw [Dict.set_of_get? found]

theorem run_requireSession (found : store.sessions.get? sessionId = some session) :
    (requireSession sessionId).run store = .ok session store := by
  unfold requireSession
  rw [EStateM.run_bind, EStateM.run_get]
  dsimp only
  rw [found]
  rfl

theorem run_requireSession_none (missing : store.sessions.get? sessionId = none) :
    (requireSession sessionId).run store = .error (.domain 404 "session_not_found"
      ("session '" ++ sessionId ++ "' was not found")) store := by
  unfold requireSession
  rw [EStateM.run_bind, EStateM.run_get]
  dsimp only
  rw [missing]
  rfl

theorem run_assign (found : store.sessions.get? sessionId = some session)
    (f : SessionRecord → SessionRecord) :
    (assign sessionId f).run store = .ok () (store.withRecord sessionId (f session)) := by
  unfold assign
  rw [EStateM.run_modify, found]
  rfl

/-- A record once these events are folded. -/
def SessionRecord.afterEvents (session : SessionRecord) (acc : ProductFeatureAccumulator)
    (events : List ReactionEvent) : SessionRecord :=
  { session with
    reactionFeatures := some (acc.fold (events.flatMap fun e => acc.noted e.modelDump))
    eventIds := session.eventIds ∪ (events.map (·.eventId)).toFinset
    eventSequences := session.eventSequences ∪ (events.map (·.sequence)).toFinset }

theorem run_foldEvent (found : store.sessions.get? sessionId = some session)
    (features : session.reactionFeatures = some acc) (e : ReactionEvent) :
    (foldEvent sessionId e).run store =
      .ok () (store.withRecord sessionId (session.afterEvents acc [e])) := by
  unfold foldEvent acceptRecord
  rw [EStateM.run_bind, run_assign found]
  dsimp only
  rw [EStateM.run_bind, run_assign get?_withRecord_self]
  dsimp only
  rw [EStateM.run_bind, run_requireSession get?_withRecord_self]
  dsimp only
  rw [features]
  dsimp only
  rw [accept_of_reads (reads_modelDump acc e)]
  dsimp only
  rw [run_assign get?_withRecord_self, withRecord_withRecord, withRecord_withRecord]
  congr 2
  unfold SessionRecord.afterEvents
  rw [Finset.insert_eq, Finset.insert_eq, Finset.union_comm, Finset.union_comm {e.sequence}]
  simp only [List.flatMap_singleton, List.map_cons, List.map_nil, List.toFinset_cons,
    List.toFinset_nil, insert_empty_eq]

theorem afterEvents_cons (session : SessionRecord) (acc : ProductFeatureAccumulator)
    (e : ReactionEvent) (events : List ReactionEvent) :
    (session.afterEvents acc [e]).afterEvents (acc.fold (acc.noted e.modelDump)) events =
      session.afterEvents acc (e :: events) := by
  unfold SessionRecord.afterEvents
  simp only [List.map_cons, List.map_nil, List.toFinset_cons, List.toFinset_nil, Finset.union_assoc,
    insert_empty_eq, Finset.singleton_union, List.flatMap_cons,
    Recommendation.fold_fold]
  rfl

theorem afterEvents_nil (features : session.reactionFeatures = some acc) :
    session.afterEvents acc [] = session := by
  unfold SessionRecord.afterEvents
  rw [List.flatMap_nil, List.map_nil, List.map_nil, List.toFinset_nil, List.toFinset_nil,
    Finset.union_empty, Finset.union_empty]
  change { session with reactionFeatures := some acc } = session
  rw [← features]

theorem run_forM_foldEvent (found : store.sessions.get? sessionId = some session)
    (features : session.reactionFeatures = some acc) (events : List ReactionEvent) :
    (forM events (foldEvent sessionId)).run store =
      .ok () (store.withRecord sessionId (session.afterEvents acc events)) := by
  induction events generalizing store session acc with
  | nil =>
    rw [afterEvents_nil features, withRecord_self found]
    rfl
  | cons e rest ih =>
    rw [List.forM_cons, EStateM.run_bind, run_foldEvent found features]
    dsimp only
    have folded : (session.afterEvents acc [e]).reactionFeatures =
        some (acc.fold (acc.noted e.modelDump)) := by
      unfold SessionRecord.afterEvents
      rw [List.flatMap_singleton]
    rw [ih get?_withRecord_self folded, withRecord_withRecord, afterEvents_cons]

/-- A record once a batch is noted. -/
def SessionRecord.afterBatch (session : SessionRecord) (acc : ProductFeatureAccumulator)
    (b : ReactionBatch) : SessionRecord :=
  { session with batchIds := insert b.batchId session.batchIds }.afterEvents acc (session.newEvents b)

/-- What a call of `append_batch` does. -/
inductive Appends (sessionId : String) (b : ReactionBatch) (store : MemoryStore) :
    EStateM.Result StoreError MemoryStore ReactionBatchAccepted → Prop where
  | raised (e : StoreError) : Appends sessionId b store (.error e store)
  | known (session : SessionRecord) (found : store.sessions.get? sessionId = some session)
      (own : b.sessionId = sessionId) (seen : b.batchId ∈ session.batchIds) :
      Appends sessionId b store (.ok ⟨b.batchId, .duplicate⟩ store)
  | folded (session : SessionRecord) (acc : ProductFeatureAccumulator)
      (found : store.sessions.get? sessionId = some session) (own : b.sessionId = sessionId)
      (unseen : b.batchId ∉ session.batchIds) (features : session.reactionFeatures = some acc)
      (status : AppendStatus) : Appends sessionId b store
        (.ok ⟨b.batchId, status⟩ (store.withRecord sessionId (session.afterBatch acc b)))

theorem run_foldBatch (found : store.sessions.get? sessionId = some session)
    (features : session.reactionFeatures = some acc) :
    ∃ status, (foldBatch sessionId b (session.newEvents b)).run store =
      .ok ⟨b.batchId, status⟩ (store.withRecord sessionId (session.afterBatch acc b)) := by
  have noted : { session with batchIds := insert b.batchId session.batchIds }.reactionFeatures =
      some acc := features
  unfold foldBatch
  rw [EStateM.run_bind, run_assign found]
  dsimp only
  rw [EStateM.run_bind, run_forM_foldEvent get?_withRecord_self noted, withRecord_withRecord]
  dsimp only
  split
  · exact ⟨.duplicate, rfl⟩
  · exact ⟨.accepted, rfl⟩

/-- **One call** raises and leaves the store, knows the batch, or folds its new events. -/
theorem appendBatch_cases (sessionId : String) (b : ReactionBatch) (store : MemoryStore) :
    Appends sessionId b store ((appendBatch sessionId b).run store) := by
  unfold appendBatch
  cases found : store.sessions.get? sessionId with
  | none =>
    rw [EStateM.run_bind, run_requireSession_none found]
    exact .raised _
  | some session =>
    rw [EStateM.run_bind, run_requireSession found]
    dsimp only
    by_cases own : b.sessionId = sessionId
    · rw [if_neg (not_not.2 own), EStateM.run_bind, EStateM.run_get]
      dsimp only
      by_cases video : b.videoId = store.manifestVideoId
      · rw [if_neg (not_not.2 video)]
        by_cases done : session.completed = true
        · rw [if_pos done]
          exact .raised _
        · rw [if_neg done]
          by_cases seen : b.batchId ∈ session.batchIds
          · rw [if_pos seen]
            exact .known session found own seen
          · rw [if_neg seen]
            cases features : session.reactionFeatures with
            | none => exact .raised _
            | some acc =>
              rw [Option.isNone_some, if_neg Bool.false_ne_true]
              split
              · exact .raised _
              · obtain ⟨status, ran⟩ := run_foldBatch (b := b) found features
                rw [ran]
                exact .folded session acc found own seen features status
      · rw [if_pos video]
        exact .raised _
    · rw [if_pos own]
      exact .raised _

end Calls

/-! ## A run -/

section Runs

variable {store : MemoryStore} {sessionId : String} {session : SessionRecord} {c : AppendCall}
  {calls done : List AppendCall} {past : List ReactionEvent} {products : Finset String}

/-- A batch id is reused only for an identical batch. -/
def ReusesAlike (sessionId : String) (calls : List AppendCall) : Prop :=
  ∀ c ∈ calls, ∀ c' ∈ calls, c.sessionId = sessionId → c'.sessionId = sessionId →
    c.batch.batchId = c'.batch.batchId → c.batch = c'.batch

/-- The accumulator of a new session once these events are folded. -/
def featuresOf (products : Finset String) (events : List ReactionEvent) : ProductFeatureAccumulator :=
  (ProductFeatureAccumulator.ofProducts products).fold
    (events.flatMap fun e => (ProductFeatureAccumulator.ofProducts products).noted e.modelDump)

theorem featuresOf_append (events events' : List ReactionEvent) :
    (featuresOf products events).fold
        (events'.flatMap fun e => (featuresOf products events).noted e.modelDump) =
      featuresOf products (events ++ events') := by
  unfold featuresOf
  rw [fold_fold, List.flatMap_append]
  rfl

/-- A session after some calls, with the events that were folded. -/
structure RunInv (sessionId : String) (products : Finset String) (done : List AppendCall)
    (past : List ReactionEvent) (session : SessionRecord) : Prop where
  features : session.reactionFeatures = some (featuresOf products past)
  ids : session.eventIds = (past.map (·.eventId)).toFinset
  once : (past.map (·.eventId)).Nodup
  fromCalls : ∀ e ∈ past, e ∈ delivered sessionId done
  taken : ∀ e ∈ delivered sessionId done, e.eventId ∈ past.map (·.eventId)
  batches : ∀ id ∈ session.batchIds, ∃ c ∈ done, c.sessionId = sessionId ∧ c.batch.batchId = id

theorem mem_delivered {e : ReactionEvent} : e ∈ delivered sessionId calls ↔
    ∃ c ∈ calls, c.sessionId = sessionId ∧ e ∈ c.batch.events := by
  simp only [delivered, List.mem_flatMap, List.mem_filter, decide_eq_true_eq, and_assoc]

theorem delivered_concat_own (own : c.sessionId = sessionId) :
    delivered sessionId (done ++ [c]) = delivered sessionId done ++ c.batch.events := by
  simp [delivered, own]

theorem delivered_concat_other (other : c.sessionId ≠ sessionId) :
    delivered sessionId (done ++ [c]) = delivered sessionId done := by
  simp [delivered, other]

theorem runInv_fresh : RunInv sessionId products [] [] (.fresh products) where
  features := rfl
  ids := rfl
  once := List.nodup_nil
  fromCalls _ h := h
  taken _ h := nomatch h
  batches _ h := absurd h (Finset.notMem_empty _)

/-- A batch that is known delivers nothing new. -/
theorem RunInv.known (inv : RunInv sessionId products done past session)
    (reuse : ReusesAlike sessionId (done ++ [c])) (own : c.sessionId = sessionId)
    (seen : c.batch.batchId ∈ session.batchIds) :
    RunInv sessionId products (done ++ [c]) past session where
  features := inv.features
  ids := inv.ids
  once := inv.once
  fromCalls e member := by
    rw [delivered_concat_own own]
    exact List.mem_append_left _ (inv.fromCalls e member)
  taken e member := by
    rw [delivered_concat_own own, List.mem_append] at member
    rcases member with earlier | again
    · exact inv.taken e earlier
    · obtain ⟨c', listed, own', same⟩ := inv.batches _ seen
      have batch : c'.batch = c.batch := reuse c' (List.mem_append_left _ listed) c
        (List.mem_append_right _ (List.mem_singleton_self c)) own' own same
      exact inv.taken e (mem_delivered.2 ⟨c', listed, own', by rw [batch]; exact again⟩)
  batches id member := by
    obtain ⟨c', listed, rest⟩ := inv.batches id member
    exact ⟨c', List.mem_append_left _ listed, rest⟩

/-- A new batch delivers the events whose ids are new. -/
theorem RunInv.folded (inv : RunInv sessionId products done past session)
    (own : c.sessionId = sessionId) :
    RunInv sessionId products (done ++ [c]) (past ++ session.newEvents c.batch)
      (session.afterBatch (featuresOf products past) c.batch) where
  features := congrArg some (featuresOf_append past _)
  ids := by
    rw [List.map_append, List.toFinset_append, ← inv.ids]
    rfl
  once := by
    rw [List.map_append, List.nodup_append']
    refine ⟨inv.once, ?_, ?_⟩
    · exact (List.filter_sublist.map _).nodup (nodup_eventIds c.batch)
    · intro id old new
      obtain ⟨e, member, rfl⟩ := List.mem_map.1 new
      have unseen := (List.mem_filter.1 member).2
      rw [decide_eq_true_iff, inv.ids, List.mem_toFinset] at unseen
      exact unseen old
  fromCalls e member := by
    rw [delivered_concat_own own]
    rcases List.mem_append.1 member with earlier | new
    · exact List.mem_append_left _ (inv.fromCalls e earlier)
    · exact List.mem_append_right _ (List.mem_of_mem_filter new)
  taken e member := by
    rw [delivered_concat_own own, List.mem_append] at member
    rw [List.map_append, List.mem_append]
    rcases member with earlier | now
    · exact .inl (inv.taken e earlier)
    · by_cases seen : e.eventId ∈ session.eventIds
      · rw [inv.ids, List.mem_toFinset] at seen
        exact .inl seen
      · exact .inr (List.mem_map_of_mem (List.mem_filter.2 ⟨now, decide_eq_true seen⟩))
  batches id member := by
    rcases Finset.mem_insert.1 member with rfl | earlier
    · exact ⟨c, List.mem_append_right _ (List.mem_singleton_self c), own, rfl⟩
    · obtain ⟨c', listed, rest⟩ := inv.batches id earlier
      exact ⟨c', List.mem_append_left _ listed, rest⟩

/-- **One call** for the session that returns. -/
theorem RunInv.step (inv : RunInv sessionId products done past session)
    (found : store.sessions.get? sessionId = some session) (own : c.sessionId = sessionId)
    (returns : returned (c.on store) = true) (reuse : ReusesAlike sessionId (done ++ [c])) :
    ∃ session', (storeAfter (c.on store)).sessions.get? sessionId = some session' ∧
      RunInv sessionId products (done ++ [c]) (past ++ session.folds c.batch) session' := by
  have cases := appendBatch_cases c.sessionId c.batch store
  unfold AppendCall.on at returns ⊢
  rw [own] at returns ⊢ cases
  generalize (appendBatch sessionId c.batch).run store = result at returns cases
  unfold SessionRecord.folds
  cases cases with
  | raised e => cases returns
  | known session' found' _ seen =>
    cases found.symm.trans found'
    rw [if_pos seen, List.append_nil]
    exact ⟨session, found, inv.known reuse own seen⟩
  | folded session' acc found' _ unseen features status =>
    cases found.symm.trans found'
    cases inv.features.symm.trans features
    rw [if_neg unseen]
    exact ⟨_, get?_withRecord_self, inv.folded own⟩

/-- A call for another session. -/
theorem get?_other_call (other : c.sessionId ≠ sessionId) :
    (storeAfter (c.on store)).sessions.get? sessionId = store.sessions.get? sessionId := by
  have cases := appendBatch_cases c.sessionId c.batch store
  unfold AppendCall.on
  generalize (appendBatch c.sessionId c.batch).run store = result at cases
  cases cases with
  | raised e => rfl
  | known => rfl
  | folded => exact Dict.get?_set_ne _ (Ne.symm other) _

/-- **A run** of calls of which none for the session raises. -/
theorem RunInv.run (inv : RunInv sessionId products done past session)
    (found : store.sessions.get? sessionId = some session)
    (returns : noneRaises sessionId store calls = true)
    (reuse : ReusesAlike sessionId (done ++ calls)) :
    ∃ session', (runCalls store calls).sessions.get? sessionId = some session' ∧
      RunInv sessionId products (done ++ calls) (past ++ Reactions.folded sessionId store calls)
        session' := by
  induction calls generalizing store done past session with
  | nil =>
    rw [List.append_nil]
    unfold Reactions.folded
    rw [List.append_nil]
    exact ⟨session, found, inv⟩
  | cons c rest ih =>
    obtain ⟨here, later⟩ := Bool.and_eq_true_iff.1 returns
    have split : done ++ c :: rest = (done ++ [c]) ++ rest := by simp
    rw [split] at reuse ⊢
    unfold Reactions.folded
    by_cases own : c.sessionId = sessionId
    · have now : returned (c.on store) = true := by
        simpa [own] using here
      obtain ⟨session', found', inv'⟩ := inv.step found own now fun a ha b hb =>
        reuse a (List.mem_append_left _ ha) b (List.mem_append_left _ hb)
      rw [if_pos own, found, Option.map_some, Option.getD_some, ← List.append_assoc]
      exact ih inv' found' later reuse
    · rw [if_neg own, List.nil_append]
      have inv' : RunInv sessionId products (done ++ [c]) past session := by
        obtain ⟨features, ids, once, fromCalls, taken, batches⟩ := inv
        refine ⟨features, ids, once, ?_, ?_, fun id member => ?_⟩
        · rwa [delivered_concat_other own]
        · rwa [delivered_concat_other own]
        · obtain ⟨c', listed, rest⟩ := batches id member
          exact ⟨c', List.mem_append_left _ listed, rest⟩
      exact ih inv' ((get?_other_call own).trans found) later reuse

end Runs

/-! ## Two runs -/

/-- A run on a fresh session: no call for it raises, and a batch id is reused only for an identical
batch. -/
structure FreshRun (sessionId : String) (store : MemoryStore) (calls : List AppendCall) : Prop where
  fresh : store.sessions.get? sessionId = some (.fresh store.products)
  returns : noneRaises sessionId store calls = true
  reuse : ReusesAlike sessionId calls

/-- The features of a session. -/
def MemoryStore.featuresAt (store : MemoryStore) (sessionId : String) :
    Option ProductFeatureAccumulator :=
  (store.sessions.get? sessionId).bind (·.reactionFeatures)

/-- Each delivered event is folded exactly once, and the features are what these folds leave. -/
structure FoldedOnce (sessionId : String) (store : MemoryStore) (calls : List AppendCall) : Prop where
  once : ∀ e ∈ delivered sessionId calls,
    ((folded sessionId store calls).map (·.eventId)).count e.eventId = 1
  fromCalls : ∀ e ∈ folded sessionId store calls, e ∈ delivered sessionId calls
  features : ∃ features, (runCalls store calls).featuresAt sessionId = some features ∧
    ((folded sessionId store calls).map (·.modelDump)).foldlM ProductFeatureAccumulator.accept
      (.ofProducts store.products) = .ok features

section TwoRuns

variable {store store' : MemoryStore} {sessionId sessionId' : String} {calls calls' : List AppendCall}

theorem FreshRun.inv (run : FreshRun sessionId store calls) :
    ∃ session, (runCalls store calls).sessions.get? sessionId = some session ∧
      RunInv sessionId store.products calls (folded sessionId store calls) session :=
  runInv_fresh.run run.fresh run.returns run.reuse

theorem folded_once (run : FreshRun sessionId store calls) : FoldedOnce sessionId store calls := by
  obtain ⟨session, found, inv⟩ := run.inv
  refine ⟨fun e member => List.count_eq_one_of_mem inv.once (inv.taken e member), inv.fromCalls,
    featuresOf store.products (folded sessionId store calls), ?_, ?_⟩
  · unfold MemoryStore.featuresAt
    rw [found, Option.bind_some, inv.features]
  · have reads : ∀ r ∈ (folded sessionId store calls).map (·.modelDump),
        (ProductFeatureAccumulator.ofProducts store.products).Reads r := by
      intro r member
      obtain ⟨e, -, rfl⟩ := List.mem_map.1 member
      exact reads_modelDump _ e
    rw [foldlM_accept reads, List.flatMap_map]
    rfl

/-- Where equal ids mean equal events, the folded events are the delivered ones. -/
theorem mem_folded_iff (run : FreshRun sessionId store calls)
    (consistent : ∀ d ∈ delivered sessionId calls, ∀ e ∈ delivered sessionId calls,
      d.eventId = e.eventId → d = e) {e : ReactionEvent} :
    e ∈ folded sessionId store calls ↔ e ∈ delivered sessionId calls := by
  obtain ⟨session, -, inv⟩ := run.inv
  refine ⟨inv.fromCalls e, fun member => ?_⟩
  obtain ⟨d, folded, same⟩ := List.mem_map.1 (inv.taken e member)
  rw [← consistent d (inv.fromCalls d folded) e member same]
  exact folded

/-- Two runs that deliver the same events fold them in two orders. -/
theorem folded_perm (run : FreshRun sessionId store calls) (run' : FreshRun sessionId' store' calls')
    (consistent : ∀ d ∈ delivered sessionId calls, ∀ e ∈ delivered sessionId calls,
      d.eventId = e.eventId → d = e)
    (same : ∀ e, e ∈ delivered sessionId' calls' ↔
      ∃ d ∈ delivered sessionId calls, d.forSession sessionId' = e) :
    ((folded sessionId store calls).map (·.forSession sessionId')).Perm
      (folded sessionId' store' calls') := by
  obtain ⟨session, -, inv⟩ := run.inv
  obtain ⟨session', -, inv'⟩ := run'.inv
  have consistent' : ∀ d ∈ delivered sessionId' calls', ∀ e ∈ delivered sessionId' calls',
      d.eventId = e.eventId → d = e := by
    intro d member e member' ids
    obtain ⟨d, old, rfl⟩ := (same d).1 member
    obtain ⟨e, old', rfl⟩ := (same e).1 member'
    rw [eventId_forSession, eventId_forSession] at ids
    rw [consistent d old e old' ids]
  have unique : ((folded sessionId store calls).map (·.forSession sessionId')).Nodup := by
    refine List.Nodup.of_map ReactionEvent.eventId ?_
    rw [List.map_map]
    simpa [Function.comp_def] using inv.once
  refine (List.perm_ext_iff_of_nodup unique (List.Nodup.of_map _ inv'.once)).2 fun e => ?_
  rw [mem_folded_iff run' consistent', same, List.mem_map]
  simp only [mem_folded_iff run consistent]

/-- A call that raises leaves the store as it was. -/
theorem appendBatch_raised {b : ReactionBatch} {e : StoreError}
    (raised : (appendBatch sessionId b).run store = .error e store') : store' = store := by
  have cases := appendBatch_cases sessionId b store
  rw [raised] at cases
  cases cases with
  | raised => rfl

/-- **Two runs** on fresh sessions that deliver the same events in any order, split and repetition have
equal snapshots; each event is folded exactly once; a call that raises changes nothing. -/
theorem reactions_converge (run : FreshRun sessionId store calls)
    (run' : FreshRun sessionId' store' calls') (products : store.products = store'.products)
    (consistent : ∀ d ∈ delivered sessionId calls, ∀ e ∈ delivered sessionId calls,
      d.eventId = e.eventId → d = e)
    (same : ∀ e, e ∈ delivered sessionId' calls' ↔
      ∃ d ∈ delivered sessionId calls, d.forSession sessionId' = e) :
    (∃ features features' report, (runCalls store calls).featuresAt sessionId = some features ∧
      (runCalls store' calls').featuresAt sessionId' = some features' ∧
      features.snapshot = .ok report ∧ features'.snapshot = .ok report) ∧
    FoldedOnce sessionId store calls ∧ FoldedOnce sessionId' store' calls' ∧
    ∀ (sessionId : String) (b : ReactionBatch) (store store' : MemoryStore) (e : StoreError),
      (appendBatch sessionId b).run store = .error e store' → store' = store := by
  refine ⟨?_, folded_once run, folded_once run', fun _ _ _ _ _ => appendBatch_raised⟩
  obtain ⟨session, found, inv⟩ := run.inv
  obtain ⟨session', found', inv'⟩ := run'.inv
  obtain ⟨report, made⟩ := snapshot_returns (featuresOf store.products (folded sessionId store calls))
  refine ⟨_, featuresOf store'.products (folded sessionId' store' calls'), report, ?_, ?_, made, ?_⟩
  · unfold MemoryStore.featuresAt
    rw [found, Option.bind_some, inv.features]
  · unfold MemoryStore.featuresAt
    rw [found', Option.bind_some, inv'.features]
  · have noted := (folded_perm run run' consistent same).flatMap_right
      fun e => (ProductFeatureAccumulator.ofProducts store.products).noted e.modelDump
    rw [List.flatMap_map] at noted
    simp only [noted_forSession] at noted
    rw [← products, ← made]
    exact (snapshot_fold_perm noted).symm

end TwoRuns

/-! ### A run resent in another order -/

def sampleAttention (eventId : String) (sequence videoTimeMs : ℕ) (products : List String) :
    ReactionEvent :=
  .attention ⟨"session-0001", eventId, sequence, "lookbook", videoTimeMs, 0, "gaze-" ++ eventId, false,
    products.map (⟨·⟩), true, 3 / 4⟩

def sampleExpression : ReactionEvent :=
  .expression ⟨"session-0001", "smile", 9, "lookbook", 250, 0, true, 1 / 2⟩

def sampleBatch (batchId : String) (events : List ReactionEvent)
    (bounded : 1 ≤ events.length ∧ events.length ≤ 256)
    (envelope : envelopeMatchesEvents "session-0001" "lookbook" events = .ok ()) : AppendCall :=
  ⟨"session-0001", ⟨batchId, "session-0001", "lookbook", events, bounded, envelope⟩⟩

def sampleStore : MemoryStore where
  products := {"coat", "dress"}
  manifestVideoId := "lookbook"
  sessions := Dict.set .empty "session-0001" (.fresh {"coat", "dress"})

/-- Two batches. -/
def sampleCalls : List AppendCall :=
  [sampleBatch "first" [sampleAttention "look" 4 120 ["coat", "dress"], sampleExpression]
      (by decide) (by decide +kernel),
    sampleBatch "second" [sampleAttention "glance" 5 480 ["coat"]] (by decide) (by decide +kernel)]

/-- The same events in another order and split, one batch sent twice and one event sent again. -/
def resentCalls : List AppendCall :=
  [sampleBatch "all"
      [sampleAttention "glance" 5 480 ["coat"], sampleAttention "look" 4 120 ["coat", "dress"]] (by decide) (by decide +kernel),
    sampleBatch "all"
      [sampleAttention "glance" 5 480 ["coat"], sampleAttention "look" 4 120 ["coat", "dress"]] (by decide) (by decide +kernel),
    sampleBatch "rest" [sampleExpression, sampleAttention "glance" 5 480 ["coat"]]
      (by decide) (by decide +kernel)]

theorem sampleRun : FreshRun "session-0001" sampleStore sampleCalls where
  fresh := rfl
  returns := by decide +kernel
  reuse := by unfold ReusesAlike; decide +kernel

theorem resentRun : FreshRun "session-0001" sampleStore resentCalls where
  fresh := rfl
  returns := by decide +kernel
  reuse := by unfold ReusesAlike; decide +kernel

theorem resent_converges :
    ∃ features features' report,
      (runCalls sampleStore sampleCalls).featuresAt "session-0001" = some features ∧
      (runCalls sampleStore resentCalls).featuresAt "session-0001" = some features' ∧
      features.snapshot = .ok report ∧ features'.snapshot = .ok report :=
  (reactions_converge sampleRun resentRun rfl (by decide +kernel) (by
    have forth : ∀ e ∈ delivered "session-0001" resentCalls,
        ∃ d ∈ delivered "session-0001" sampleCalls, d.forSession "session-0001" = e := by
      decide +kernel
    have back : ∀ d ∈ delivered "session-0001" sampleCalls,
        d.forSession "session-0001" ∈ delivered "session-0001" resentCalls := by decide +kernel
    refine fun e => ⟨forth e, ?_⟩
    rintro ⟨d, member, rfl⟩
    exact back d member)).1

end Mkk.Reactions
