import Mkk.Lib.Dict

/-!
# Numbered event logs

A `Feed` appends events under the ids of their requests: a request that is sent again is a
duplicate, one that reuses an id for other content is a conflict, and an accepted one is given
the next number. `since` is what a reader that remembers the largest number it has seen asks
for. In a `Sound` feed that is the rest of the log, so a reader loses and repeats nothing.
-/

namespace Lib

/-- Events, the content each request id was used for, and the next number. -/
structure Feed (I C E : Type*) where
  events : List E
  requests : Dict I C
  sequence : ℕ

/-- How a request that is not refused ends. -/
inductive Receipt where
  | accepted | duplicate
  deriving DecidableEq, Repr

namespace Feed

variable {I C E Err : Type*}

def empty : Feed I C E := ⟨[], Dict.empty, 0⟩

/-- The events with a number above the cursor. -/
def since (number : E → ℕ) (f : Feed I C E) (cursor : Option ℕ) : List E :=
  f.events.filter fun e => cursor.all fun c => decide (c < number e)

/-- How many events a reader with the cursor has taken. -/
def taken : Option ℕ → ℕ
  | none => 0
  | some c => c + 1

/-- Numbers that count up from `k` are above a cursor from its successor on. -/
theorem filter_above {number : E → ℕ} {l : List E} {k : ℕ}
    (h : l.map number = List.range' k l.length) (c : ℕ) :
    l.filter (fun e => decide (c < number e)) = l.drop (c + 1 - k) := by
  induction l generalizing k with
  | nil => simp
  | cons e l ih =>
    rw [List.map_cons, List.length_cons, List.range'_succ, List.cons.injEq] at h
    obtain ⟨first, rest⟩ := h
    rw [List.filter_cons, ih rest]
    by_cases above : c < k
    · have none : c + 1 - k = 0 := by omega
      have none' : c + 1 - (k + 1) = 0 := by omega
      simp [first, above, none, none']
    · have more : c + 1 - k = (c + 1 - (k + 1)) + 1 := by omega
      simp [first, above, more]

variable [DecidableEq I]

/-- Submit content under an id; `make` builds the event of a number. -/
def submit [DecidableEq C] (f : Feed I C E) (id : I) (content : C) (conflict : Err) (make : ℕ → Except Err E) :
    Except Err Receipt × Feed I C E :=
  match f.requests.get? id with
  | some existing =>
    if existing ≠ content then (.error conflict, f) else (.ok .duplicate, f)
  | none => match make f.sequence with
    | .error e => (.error e, f)
    | .ok event => (.ok .accepted,
        ⟨f.events ++ [event], f.requests.set id content, f.sequence + 1⟩)

/-- The events carry the numbers `0, 1, 2, …`, one for each request id and about its content. -/
structure Sound (ident : E → I) (content : E → C) (number : E → ℕ) (f : Feed I C E) : Prop where
  counted : f.sequence = f.events.length
  numbered : f.events.map number = List.range f.events.length
  ids : f.events.map ident = f.requests.keys
  contents : ∀ e ∈ f.events, f.requests.get? (ident e) = some (content e)

section Rules

variable {ident : E → I} {content : E → C} {number : E → ℕ} {f f' : Feed I C E} {id : I} {c : C}
  {conflict : Err} {make : ℕ → Except Err E}

theorem Sound.empty : (empty : Feed I C E).Sound ident content number :=
  ⟨rfl, rfl, rfl, fun _ h => (List.not_mem_nil h).elim⟩

/-- No id has two events. -/
theorem Sound.nodup (sound : f.Sound ident content number) : (f.events.map ident).Nodup := by
  rw [sound.ids]
  exact f.requests.nodup

/-- **What a reader asks for is the rest of the log.** -/
theorem Sound.since_eq (sound : f.Sound ident content number) (cursor : Option ℕ) :
    f.since number cursor = f.events.drop (taken cursor) := by
  cases cursor with
  | none => simp [since, taken]
  | some c =>
    have numbered := sound.numbered
    rw [List.range_eq_range'] at numbered
    exact filter_above numbered c

/-- The number of an event is its place in the log. -/
theorem Sound.number_getElem (sound : f.Sound ident content number) {i : ℕ} (h : i < f.events.length) :
    number f.events[i] = i := by
  have at_i : (f.events.map number)[i]? = some i := by
    rw [sound.numbered]
    simp [h]
  simpa [h] using at_i

theorem keys_set_of_get?_none {V : Type*} {d : Dict I V} (h : d.get? id = none) (v : V) :
    (d.set id v).keys = d.keys ++ [id] := by
  rw [Dict.get?_none_iff] at h
  exact (Dict.keys_setIn id v d.entries).trans (if_neg h)

variable [DecidableEq C]

/-- A request that is sent again changes nothing. -/
theorem submit_again (h : f.requests.get? id = some c) :
    f.submit id c conflict make = (.ok .duplicate, f) := by
  simp [submit, h]

/-- An id that was used for other content is refused. -/
theorem submit_conflict {c' : C} (h : f.requests.get? id = some c') (ne : c' ≠ c) :
    f.submit id c conflict make = (.error conflict, f) := by
  simp [submit, h, ne]

/-- **Every outcome of `submit`**: the feed is as before, or the event of its number went in. -/
theorem submit_cases {result : Except Err Receipt} (h : f.submit id c conflict make = (result, f')) :
    (result ≠ .ok .accepted ∧ f' = f) ∨
      (result = .ok .accepted ∧ f.requests.get? id = none ∧ ∃ event, make f.sequence = .ok event ∧
        f' = ⟨f.events ++ [event], f.requests.set id c, f.sequence + 1⟩) := by
  unfold submit at h
  split at h
  · split at h <;> cases h
    · exact .inl ⟨by rintro ⟨⟩, rfl⟩
    · exact .inl ⟨by rintro ⟨⟩, rfl⟩
  · rename_i absent
    split at h <;> cases h
    · exact .inl ⟨by rintro ⟨⟩, rfl⟩
    · rename_i event hmake
      exact .inr ⟨rfl, absent, event, hmake, rfl⟩

/-- **A submission keeps a feed sound**, if the event is about its request. -/
theorem Sound.submit (sound : f.Sound ident content number)
    (own : ∀ n e, make n = .ok e → ident e = id ∧ content e = c ∧ number e = n)
    {result : Except Err Receipt} (h : f.submit id c conflict make = (result, f')) :
    f'.Sound ident content number := by
  rcases submit_cases h with ⟨-, rfl⟩ | ⟨-, absent, event, hmake, rfl⟩
  · exact sound
  · obtain ⟨rfl, rfl, numbered⟩ := own _ _ hmake
    constructor
    · rw [List.length_append, sound.counted, List.length_singleton]
    · rw [List.map_append, sound.numbered, List.length_append, List.length_singleton,
        List.range_succ, List.map_singleton, numbered, sound.counted]
    · rw [List.map_append, sound.ids, keys_set_of_get?_none absent, List.map_singleton]
    · intro e he
      rw [List.mem_append, List.mem_singleton] at he
      rcases he with old | rfl
      · have known := sound.contents e old
        have ne : ident e ≠ ident event := by
          intro same
          rw [same, absent] at known
          cases known
        rw [Dict.get?_set_ne _ ne]
        exact known
      · exact Dict.get?_set_self ..

/-- Events are only appended. -/
theorem submit_prefix {result : Except Err Receipt}
    (h : f.submit id c conflict make = (result, f')) : f.events <+: f'.events := by
  rcases submit_cases h with ⟨-, rfl⟩ | ⟨-, -, event, -, rfl⟩
  · exact List.prefix_refl _
  · exact List.prefix_append _ _

end Rules

end Feed

end Lib
