import Mkk.Api.ManagerEvents
import Mkk.Lib.Lts

/-!
# The manager App and the requests it shows

The poll loop of the manager App asks for the events above the largest number it has seen, drops
the ones it has seen before, looks their products up and shows them. `servedStep` interleaves it
with the requests that reach the API, and polls may fail before or after the API has answered.
The claim is proved for any `ManagerApi`, of which the v2 repository and the v1 store are two.
-/

namespace Mkk.Manager

open Lib Lib.Lts Mkk.Api

/-! ## The API -/

/-- An API whose requests are submissions to a feed, or refused before. -/
structure ManagerApi (Req C E : Type) [DecidableEq C] where
  submit : Req → Feed String C E → Except PyError Receipt × Feed String C E
  requestId : Req → String
  asks : Req → C
  ident : E → String
  content : E → C
  number : E → ℕ
  submits : ∀ q f, (∃ e, submit q f = (.error e, f)) ∨
    ∃ (conflict : PyError) (make : ℕ → Except PyError E),
      submit q f = f.submit (requestId q) (asks q) conflict make ∧
      ∀ n e, make n = .ok e → ident e = requestId q ∧ content e = asks q ∧ number e = n

/-- A call of the v2 repository. -/
structure RequestV2 where
  kiosk : Option String
  sessionId : String
  request : ManagerProductRequestV2
  decision : RecommendationDecisionV2
  emittedAt : ℚ

/-- `MemoryStoreRecommendationRepository` -/
def apiV2 : ManagerApi RequestV2 (String × String × String) ManagerEventV2 where
  submit q f := requestManagerProduct f q.kiosk q.sessionId q.request q.decision q.emittedAt
  requestId q := q.request.requestId
  asks q := (q.sessionId, q.request.recommendationId, q.request.selectedProductId)
  ident := ManagerEventV2.eventId
  content := ManagerEventV2.content
  number := ManagerEventV2.sequence
  submits q f := by
    unfold requestManagerProduct
    cases requireSession q.sessionId q.kiosk with
    | error e => exact .inl ⟨e, rfl⟩
    | ok kioskId => exact .inr ⟨_, _, rfl, managerEventV2_own⟩

/-- A call of the v1 store. -/
structure RequestV1 (Item : Type) where
  session : Option (V1.SessionRecord Item)
  sessionId : String
  request : V1.ManagerProductRequest
  emittedAt : ℚ

/-- `MemoryStore` -/
def apiV1 (Item : Type) :
    ManagerApi (RequestV1 Item) (String × String) (V1.ManagerEvent Item) where
  submit q f := V1.requestManagerProduct f q.session q.sessionId q.request q.emittedAt
  requestId q := q.request.requestId
  asks q := (q.sessionId, q.request.recommendationId)
  ident := V1.ManagerEvent.eventId
  content := V1.ManagerEvent.content
  number := V1.ManagerEvent.sequence
  submits q f := by
    unfold V1.requestManagerProduct
    cases requireSession q.sessionId q.session with
    | error e => exact .inl ⟨e, rfl⟩
    | ok session => exact .inr ⟨_, _, rfl, V1.managerEvent_own⟩

/-! ## The App -/

section App

variable {Req C E P : Type}

/-- Where the poll loop stands: between two polls, waiting for `listEvents`, with its answer in
hand, or looking up the products of the events it has not seen. -/
inductive Poll (E : Type) where
  | idle
  | waiting (after : Option ℕ)
  | answered (events : List E)
  | resolving (unseen : List E)

/-- `cursorRef`, `seenEventIds` and `requests`; a view is an event and the product it found. -/
structure App (E P : Type) where
  cursor : Option ℕ := none
  seenEventIds : List String := []
  requests : List (E × Option P) := []
  poll : Poll E := .idle

/-- The events on the screen. -/
def App.shown (app : App E P) : List E := app.requests.map Prod.fst

/-- The API and one mounted App. -/
structure Served (C E P : Type) where
  feed : Feed String C E := Feed.empty
  app : App E P := {}

inductive ServedStep (Req P : Type) where
  | request (q : Req)
  | start
  | answer
  | fail
  | receive
  /-- The lookups are done; one that failed found no product. -/
  | show (products : List (Option P))

/-- What the loop has in hand. -/
def Poll.InHand (f : Feed String C E) (cursor : Option ℕ) : Poll E → Prop
  | .waiting after => after = cursor
  | .answered events => ∃ m, Feed.taken cursor ≤ m ∧ m ≤ f.events.length ∧
    events = (f.events.take m).drop (Feed.taken cursor)
  | _ => True

/-- The events that were seen and are not on the screen yet. -/
def Poll.unshown : Poll E → List E
  | .resolving unseen => unseen
  | _ => []

/-- A log that only grows keeps its beginning. -/
theorem take_of_isPrefix {l l' : List E} (h : l <+: l') {n : ℕ} (bound : n ≤ l.length) :
    l'.take n = l.take n := by
  obtain ⟨rest, rfl⟩ := h
  exact List.take_append_of_le_length bound

/-- An answer in hand is one of the grown log too. -/
theorem Poll.InHand.grow {f f' : Feed String C E} {poll : Poll E} {cursor : Option ℕ}
    (h : poll.InHand f cursor) (grown : f.events <+: f'.events) :
    poll.InHand f' cursor := by
  cases poll with
  | idle => trivial
  | waiting after => exact h
  | answered events =>
    obtain ⟨m, low, high, rfl⟩ := h
    exact ⟨m, low, high.trans grown.length_le, by rw [take_of_isPrefix grown high]⟩
  | resolving unseen => trivial

variable [DecidableEq C]

/-- `poll` after `listEvents` has returned. -/
def App.receive (api : ManagerApi Req C E) (app : App E P) (events : List E) : App E P :=
  let unseen := events.filter fun e => decide (api.ident e ∉ app.seenEventIds)
  { app with
    seenEventIds := app.seenEventIds ++ unseen.map api.ident
    cursor := if events = [] then app.cursor
      else (app.cursor.toList ++ events.map api.number).max?
    poll := .resolving unseen }

/-- One step of the API or of the App. -/
def servedStep (api : ManagerApi Req C E) (s : Served C E P) (l : ServedStep Req P) :
    Option (Served C E P) :=
  match l, s.app.poll with
  | .request q, _ => some { s with feed := (api.submit q s.feed).2 }
  | .start, .idle => some { s with app := { s.app with poll := .waiting s.app.cursor } }
  | .answer, .waiting after =>
    some { s with app := { s.app with poll := .answered (s.feed.since api.number after) } }
  | .fail, .waiting _ => some { s with app := { s.app with poll := .idle } }
  | .fail, .answered _ => some { s with app := { s.app with poll := .idle } }
  | .receive, .answered events => some { s with app := s.app.receive api events }
  | .show products, .resolving unseen =>
    if products.length = unseen.length then
      some { s with app := { s.app with
        requests := unseen.zip products ++ s.app.requests
        poll := .idle } }
    else none
  | _, _ => none

/-! ## The invariant -/

/-- The App has taken a prefix of a sound log: what it took is on the screen or about to be. -/
structure ServedInv (api : ManagerApi Req C E) (s : Served C E P) : Prop where
  sound : s.feed.Sound api.ident api.content api.number
  taken : Feed.taken s.app.cursor ≤ s.feed.events.length
  seen : ∀ id, id ∈ s.app.seenEventIds ↔
    ∃ e ∈ s.feed.events.take (Feed.taken s.app.cursor), api.ident e = id
  inHand : s.app.poll.InHand s.feed s.app.cursor
  shown : (s.app.poll.unshown ++ s.app.shown).Perm
    (s.feed.events.take (Feed.taken s.app.cursor))

variable {api : ManagerApi Req C E} {s s' : Served C E P} {f f' : Feed String C E}

theorem ManagerApi.submit_sound (sound : f.Sound api.ident api.content api.number) (q : Req) :
    (api.submit q f).2.Sound api.ident api.content api.number := by
  rcases api.submits q f with ⟨e, h⟩ | ⟨conflict, make, h, own⟩
  · rw [h]
    exact sound
  · rw [h]
    exact sound.submit own rfl

theorem ManagerApi.submit_prefix (q : Req) (f : Feed String C E) :
    f.events <+: (api.submit q f).2.events := by
  rcases api.submits q f with ⟨e, h⟩ | ⟨conflict, make, h, -⟩
  · simp [h]
  · rw [h]
    exact Feed.submit_prefix rfl

theorem ServedInv.request (inv : ServedInv api s) (q : Req) :
    ServedInv api { s with feed := (api.submit q s.feed).2 } := by
  have grown := api.submit_prefix q s.feed
  have same := take_of_isPrefix grown inv.taken
  constructor
  · exact api.submit_sound inv.sound q
  · exact inv.taken.trans grown.length_le
  · intro id
    rw [inv.seen id, same]
  · exact inv.inHand.grow grown
  · rw [same]
    exact inv.shown

/-- The numbers of the first `m` events are below `m`. -/
theorem number_lt_of_mem_take (sound : f.Sound api.ident api.content api.number) {m : ℕ} {e : E}
    (h : e ∈ f.events.take m) : api.number e < m := by
  obtain ⟨i, hi, rfl⟩ := List.mem_take_iff_getElem.1 h
  rw [sound.number_getElem (by omega)]
  omega

/-- None of the events above the cursor was seen before. -/
theorem ServedInv.unseen (inv : ServedInv api s) {m : ℕ} (low : Feed.taken s.app.cursor ≤ m) :
    ((s.feed.events.take m).drop (Feed.taken s.app.cursor)).filter
        (fun e => decide (api.ident e ∉ s.app.seenEventIds)) =
      (s.feed.events.take m).drop (Feed.taken s.app.cursor) := by
  rw [List.filter_eq_self]
  intro e he
  simp only [decide_eq_true_eq, inv.seen, not_exists, not_and]
  intro old hold same
  have nodup : ((s.feed.events.take m).map api.ident).Nodup :=
    inv.sound.nodup.sublist ((List.take_sublist m _).map _)
  rw [← List.take_append_drop (Feed.taken s.app.cursor) (s.feed.events.take m), List.map_append,
    List.take_take, Nat.min_eq_left low] at nodup
  exact (List.nodup_append.1 nodup).2.2 _ (List.mem_map_of_mem hold) _ (List.mem_map_of_mem he) same

/-- The cursor moves to the last event of a nonempty answer. -/
theorem ServedInv.cursor (inv : ServedInv api s) {m : ℕ} (low : Feed.taken s.app.cursor ≤ m)
    (high : m ≤ s.feed.events.length) :
    Feed.taken (if (s.feed.events.take m).drop (Feed.taken s.app.cursor) = [] then s.app.cursor
      else (s.app.cursor.toList ++
        ((s.feed.events.take m).drop (Feed.taken s.app.cursor)).map api.number).max?) = m := by
  have length : ((s.feed.events.take m).drop (Feed.taken s.app.cursor)).length =
      m - Feed.taken s.app.cursor := by
    rw [List.length_drop, List.length_take]
    omega
  split
  · rename_i empty
    rw [empty, List.length_nil] at length
    omega
  · rename_i nonempty
    have pos : 0 < m - Feed.taken s.app.cursor := by
      rw [← length]
      exact List.length_pos_iff.2 nonempty
    have max : (s.app.cursor.toList ++
        ((s.feed.events.take m).drop (Feed.taken s.app.cursor)).map api.number).max? =
          some (m - 1) := by
      rw [List.max?_eq_some_iff]
      constructor
      · apply List.mem_append_right
        refine List.mem_map.2 ⟨s.feed.events[m - 1], ?_, inv.sound.number_getElem _⟩
        rw [List.mem_drop_iff_getElem]
        refine ⟨m - 1 - Feed.taken s.app.cursor, by rw [List.length_take]; omega, ?_⟩
        rw [List.getElem_take]
        congr 1
        omega
      · intro b hb
        rcases List.mem_append.1 hb with hb | hb
        · cases hc : s.app.cursor with
          | none =>
            rw [hc] at hb
            cases hb
          | some c =>
            rw [hc, Option.toList_some, List.mem_singleton] at hb
            rw [hc, Feed.taken] at low
            omega
        · obtain ⟨e, he, rfl⟩ := List.mem_map.1 hb
          have := number_lt_of_mem_take inv.sound (List.mem_of_mem_drop he)
          omega
    rw [max, Feed.taken]
    omega

theorem ServedInv.receive (inv : ServedInv api s) {events : List E}
    (answered : s.app.poll = .answered events) :
    ServedInv api { s with app := s.app.receive api events } := by
  have inHand := inv.inHand
  rw [answered] at inHand
  obtain ⟨m, low, high, hevents⟩ := inHand
  have unseen := inv.unseen low
  have taken := inv.cursor low high
  have split := List.take_append_drop (Feed.taken s.app.cursor) (s.feed.events.take m)
  rw [List.take_take, Nat.min_eq_left low] at split
  rw [← hevents] at unseen taken split
  have before := inv.shown
  rw [answered] at before
  have next : s.app.receive api events = {
      s.app with
      seenEventIds := s.app.seenEventIds ++ events.map api.ident
      cursor := if events = [] then s.app.cursor
        else (s.app.cursor.toList ++ events.map api.number).max?
      poll := .resolving events } := by
    rw [App.receive, unseen]
  rw [next]
  refine ⟨inv.sound, ?_, ?_, trivial, ?_⟩
  · rw [taken]
    exact high
  · intro id
    rw [taken, ← split]
    simp only [List.mem_append, inv.seen, List.mem_map]
    constructor
    · rintro (⟨e, he, same⟩ | ⟨e, he, same⟩)
      · exact ⟨e, .inl he, same⟩
      · exact ⟨e, .inr he, same⟩
    · rintro ⟨e, he | he, same⟩
      · exact .inl ⟨e, he, same⟩
      · exact .inr ⟨e, he, same⟩
  · rw [taken, ← split]
    exact List.perm_append_comm.trans (before.append_right events)

/-- The loop goes on without showing anything. -/
theorem ServedInv.rephase (inv : ServedInv api s) {poll : Poll E}
    (inHand : poll.InHand s.feed s.app.cursor) (before : s.app.poll.unshown = [])
    (after : poll.unshown = []) : ServedInv api { s with app := { s.app with poll := poll } } := by
  refine ⟨inv.sound, inv.taken, inv.seen, inHand, ?_⟩
  have shown := inv.shown
  rw [before] at shown
  rw [after]
  exact shown

theorem ServedInv.step (inv : ServedInv api s) {l : ServedStep Req P}
    (h : servedStep api s l = some s') : ServedInv api s' := by
  unfold servedStep at h
  split at h
  · cases h
    exact inv.request _
  · rename_i idle
    cases h
    exact inv.rephase rfl (by rw [idle]; rfl) rfl
  · rename_i after waiting
    cases h
    have inHand := inv.inHand
    rw [waiting] at inHand
    refine inv.rephase ?_ (by rw [waiting]; rfl) rfl
    refine ⟨s.feed.events.length, inv.taken, le_rfl, ?_⟩
    rw [inv.sound.since_eq, List.take_length, show after = s.app.cursor from inHand]
  · rename_i after waiting
    cases h
    exact inv.rephase trivial (by rw [waiting]; rfl) rfl
  · rename_i events answered
    cases h
    exact inv.rephase trivial (by rw [answered]; rfl) rfl
  · rename_i events answered
    cases h
    exact inv.receive answered
  · rename_i products unseen resolving
    split at h
    · rename_i length
      cases h
      refine ⟨inv.sound, inv.taken, inv.seen, trivial, ?_⟩
      have shown := inv.shown
      rw [resolving] at shown
      have views : (unseen.zip products ++ s.app.requests).map Prod.fst = unseen ++ s.app.shown := by
        rw [List.map_append, List.map_fst_zip length.ge, App.shown]
      change ([] ++ (unseen.zip products ++ s.app.requests).map Prod.fst).Perm _
      rw [views]
      exact shown
    · cases h
  · cases h

theorem ServedInv.initial : ServedInv api ({} : Served C E P) :=
  ⟨.empty, le_rfl, fun _ => by simp [Feed.taken], trivial, .nil⟩

/-- The log only grows. -/
theorem servedStep_grows {l : ServedStep Req P} (h : servedStep api s l = some s') :
    s.feed.events <+: s'.feed.events := by
  unfold servedStep at h
  split at h
  · rename_i q
    cases h
    exact api.submit_prefix q s.feed
  · cases h
    exact List.prefix_refl _
  · cases h
    exact List.prefix_refl _
  · cases h
    exact List.prefix_refl _
  · cases h
    exact List.prefix_refl _
  · cases h
    exact List.prefix_refl _
  · split at h
    · cases h
      exact List.prefix_refl _
    · cases h
  · cases h

/-! ## A poll that completes -/

/-- The first `n` events are on the screen once the poll completes. -/
def Covers (n : ℕ) (s : Served C E P) : Prop :=
  n ≤ s.feed.events.length ∧ match s.app.poll with
    | .waiting _ => True
    | .answered events => n ≤ Feed.taken s.app.cursor + events.length
    | _ => n ≤ Feed.taken s.app.cursor

theorem ServedInv.receive_taken (inv : ServedInv api s) {events : List E}
    (answered : s.app.poll = .answered events) :
    Feed.taken (s.app.receive api events).cursor = Feed.taken s.app.cursor + events.length := by
  have inHand := inv.inHand
  rw [answered] at inHand
  obtain ⟨m, low, high, hevents⟩ := inHand
  have taken := inv.cursor low high
  have length : events.length = m - Feed.taken s.app.cursor := by
    rw [hevents, List.length_drop, List.length_take]
    omega
  rw [← hevents] at taken
  rw [App.receive, taken]
  omega

/-- A poll that does not fail goes on to cover what the log had when it was sent. -/
theorem Covers.step {n : ℕ} (covers : Covers n s) (inv : ServedInv api s) {l : ServedStep Req P}
    (busy : s.app.poll ≠ .idle) (intact : l ≠ .fail) (h : servedStep api s l = some s') :
    Covers n s' := by
  obtain ⟨known, covered⟩ := covers
  unfold servedStep at h
  split at h
  · rename_i q
    cases h
    exact ⟨known.trans (api.submit_prefix q s.feed).length_le, covered⟩
  · rename_i idle
    exact absurd idle busy
  · rename_i after waiting
    cases h
    have inHand := inv.inHand
    rw [waiting] at inHand
    refine ⟨known, ?_⟩
    dsimp only
    rw [inv.sound.since_eq, List.length_drop, show after = s.app.cursor from inHand]
    omega
  · exact absurd rfl intact
  · exact absurd rfl intact
  · rename_i events answered
    cases h
    rw [answered] at covered
    refine ⟨known, ?_⟩
    change n ≤ Feed.taken (s.app.receive api events).cursor
    rw [inv.receive_taken answered]
    exact covered
  · rename_i products unseen resolving
    split at h
    · cases h
      rw [resolving] at covered
      exact ⟨known, covered⟩
    · cases h
  · cases h

/-! ## What is delivered -/

/-- What the API and the App have done with the requests. -/
structure Delivered (api : ManagerApi Req C E) (s : Served C E P) : Prop where
  /-- Events are numbered from zero on. -/
  numbered : ∀ i (h : i < s.feed.events.length), api.number s.feed.events[i] = i
  /-- An accepted request is appended as the one event of its id. -/
  accepted : ∀ q f', api.submit q s.feed = (.ok .accepted, f') →
    (∀ e ∈ s.feed.events, api.ident e ≠ api.requestId q) ∧
      ∃ e, f'.events = s.feed.events ++ [e] ∧ api.ident e = api.requestId q ∧
        api.content e = api.asks q
  /-- Any other answer leaves the feed as it was. -/
  unchanged : ∀ q result f', api.submit q s.feed = (result, f') → result ≠ .ok .accepted →
    f' = s.feed
  /-- An id that has an event is a duplicate for its content and refused for any other. -/
  reused : ∀ q, ∀ e ∈ s.feed.events, api.ident e = api.requestId q →
    (∃ err, (api.submit q s.feed).1 = .error err) ∨
      ((api.submit q s.feed).1 = .ok .duplicate ∧ api.content e = api.asks q)
  /-- No event is on the screen twice, and only events are. -/
  once : (s.app.shown.map api.ident).Nodup ∧ ∀ e ∈ s.app.shown, e ∈ s.feed.events
  /-- A poll that completes has shown every event that was there when it was sent. -/
  all : ∀ after, s.app.poll = .waiting after → ∀ ls t,
    Steps (servedStep api) (fun s l => s.app.poll ≠ .idle ∧ l ≠ .fail) s ls t →
    t.app.poll = .idle → ∀ e ∈ s.feed.events, e ∈ t.app.shown

theorem ServedInv.delivered (inv : ServedInv api s) : Delivered api s where
  numbered _ h := inv.sound.number_getElem h
  accepted q f' h := by
    rcases api.submits q s.feed with ⟨e, he⟩ | ⟨conflict, make, hs, own⟩
    · rw [he] at h
      cases h
    · rw [hs] at h
      rcases Feed.submit_cases h with ⟨refused, -⟩ | ⟨-, absent, e, hmake, rfl⟩
      · exact absurd rfl refused
      · obtain ⟨ident, content, -⟩ := own _ _ hmake
        refine ⟨?_, e, rfl, ident, content⟩
        intro old hold same
        have known := inv.sound.contents old hold
        rw [same, absent] at known
        cases known
  unchanged q result f' h other := by
    rcases api.submits q s.feed with ⟨e, he⟩ | ⟨conflict, make, hs, own⟩
    · rw [he] at h
      cases h
      rfl
    · rw [hs] at h
      rcases Feed.submit_cases h with ⟨-, same⟩ | ⟨won, -⟩
      · exact same
      · exact absurd won other
  reused q e he same := by
    have known := inv.sound.contents e he
    rw [same] at known
    rcases api.submits q s.feed with ⟨err, herr⟩ | ⟨conflict, make, hs, own⟩
    · exact .inl ⟨err, by rw [herr]⟩
    · by_cases content : api.content e = api.asks q
      · rw [content] at known
        exact .inr ⟨by rw [hs, Feed.submit_again known], content⟩
      · exact .inl ⟨conflict, by rw [hs, Feed.submit_conflict known content]⟩
  once := by
    have nodup : ((s.feed.events.take (Feed.taken s.app.cursor)).map api.ident).Nodup :=
      inv.sound.nodup.sublist ((List.take_sublist _ _).map _)
    have seen := (inv.shown.map api.ident).nodup_iff.2 nodup
    rw [List.map_append] at seen
    refine ⟨(List.nodup_append.1 seen).2.1, ?_⟩
    intro e he
    exact List.mem_of_mem_take (inv.shown.mem_iff.1 (List.mem_append_right _ he))
  all after waiting ls t run idle e he := by
    have initial : Covers s.feed.events.length s ∧ ServedInv api s := by
      refine ⟨⟨le_rfl, ?_⟩, inv⟩
      rw [waiting]
      trivial
    obtain ⟨⟨-, covered⟩, last⟩ := run.invariant
      (P := fun t => Covers s.feed.events.length t ∧ ServedInv api t)
      (fun _ _ _ both guard h => ⟨both.1.step both.2 guard.1 guard.2 h, both.2.step h⟩) initial
    have grown : s.feed.events <+: t.feed.events :=
      run.relates (R := fun s t => s.feed.events <+: t.feed.events) (fun _ => List.prefix_refl _)
        (fun _ _ _ => List.IsPrefix.trans) (fun _ _ _ _ h => servedStep_grows h)
    rw [idle] at covered
    have shown := last.shown
    rw [idle] at shown
    apply shown.mem_iff.2
    have early : e ∈ t.feed.events.take s.feed.events.length := by
      rw [List.prefix_iff_eq_take.1 grown] at he
      exact he
    exact (List.take_prefix_take_left covered).subset early

end App

/-- **Manager requests are delivered**, by the v2 repository and by the v1 store: in every run of
requests and polls, whatever their order. -/
theorem manager_requests_delivered {P Item : Type} :
    (∀ ls (s : Served _ _ P), Steps (servedStep apiV2) Free {} ls s → Delivered apiV2 s) ∧
      ∀ ls (s : Served _ _ P), Steps (servedStep (apiV1 Item)) Free {} ls s →
        Delivered (apiV1 Item) s := by
  constructor
  · intro ls s run
    have inv := run.invariant (fun _ _ _ inv _ h => ServedInv.step inv h) ServedInv.initial
    exact inv.delivered
  · intro ls s run
    have inv := run.invariant (fun _ _ _ inv _ h => ServedInv.step inv h) ServedInv.initial
    exact inv.delivered

/-! ## A request that is sent twice -/

def bagRequest : RequestV2 where
  kiosk := some "kiosk-1"
  sessionId := "session-0001"
  request := ⟨"request-1", "recommendation-1", "bag-1"⟩
  emittedAt := 0
  decision := {
    recommendationId := "recommendation-1"
    decisionRequestId := "decision-1"
    status := .completed
    selectedProductId := some "bag-1"
    reason := ⟨.groundedProductMatch, "observed attention"⟩
    reasonCodes := [.observedAttentionLead]
    evidence := []
    style := none
    explorationTendencyCode := none
    dataQuality := ⟨1, 1, 1, 1, 0⟩
    version := ⟨"model-1", "revision-1", "prompt-1", "feature-1", "catalog-1", .a⟩ }

/-- It is accepted, polled in vain, sent again and shown without its product. -/
def bagSteps : List (ServedStep RequestV2 String) :=
  [.request bagRequest, .start, .answer, .fail, .request bagRequest, .start, .answer, .receive,
    .show [none]]

theorem manager_requests_delivered_bag : ∃ s : Served (String × String × String) ManagerEventV2 String,
    s.app.shown.map (·.eventId) = ["request-1"] ∧ Delivered apiV2 s := by
  have executed : (runAll (servedStep apiV2) {} bagSteps).any
      (fun s => decide (s.app.shown.map (·.eventId) = ["request-1"])) = true := by
    decide +kernel
  obtain ⟨s, run, shown⟩ := exists_steps_of_any executed
  exact ⟨s, of_decide_eq_true shown, (@manager_requests_delivered String Unit).1 _ s run⟩

end Mkk.Manager
