import Mkk.Lib.Dict

/-!
# Two sides that wait for each other

Items of two kinds wait under keys until one of the other kind arrives under the same key (`Rendezvous`). No
key has both sides waiting (`Apart`), what is true of the items that arrive is true of those that wait
(`All`), and every item that arrived has left in a pair, is lost, or waits (`Account`). The facts about the
right side are those about the left one of the two sides exchanged (`swap`).
-/

namespace Lib

/-! ## Accounts -/

/-- What was there and what arrived has left, is lost, or remains. -/
def Ledger {A : Type*} (before arrived left lost after : Multiset A) : Prop :=
  arrived + before = left + lost + after

namespace Ledger

variable {A : Type*} {before between after arrived arrived' left left' lost lost' : Multiset A}

theorem refl (before : Multiset A) : Ledger before 0 0 0 before := by
  unfold Ledger
  simp

/-- All that was there is lost. -/
theorem dropped (before : Multiset A) : Ledger before 0 0 before 0 := by
  unfold Ledger
  simp

/-- An account that starts with nothing. -/
theorem of_empty (h : Ledger 0 arrived left lost after) : arrived = left + lost + after :=
  (add_zero arrived).symm.trans h

/-- Accounts of one stretch after the other add up. -/
theorem trans (h : Ledger before arrived left lost between) (h' : Ledger between arrived' left' lost' after) :
    Ledger before (arrived + arrived') (left + left') (lost + lost') after := by
  unfold Ledger at h h' ⊢
  calc arrived + arrived' + before = arrived' + (arrived + before) := by abel
    _ = arrived' + (left + lost + between) := by rw [h]
    _ = left + lost + (arrived' + between) := by abel
    _ = left + lost + (left' + lost' + after) := by rw [h']
    _ = left + left' + (lost + lost') + after := by abel

end Ledger

namespace Dict

variable {K V : Type*} [DecidableEq K]

theorem filter_ne_eq {k : K} {l : List (K × V)} (absent : k ∉ l.map Prod.fst) :
    (l.filter fun e => decide (e.1 ≠ k)) = l := by
  rw [List.filter_eq_self]
  intro e member
  exact decide_eq_true fun same => absent (List.mem_map.2 ⟨e, member, same⟩)

theorem get?_pop_some {d : Dict K V} {k key : K} {v : V} (h : (d.pop k).get? key = some v) :
    d.get? key = some v := by
  rw [get?_pop] at h
  split at h
  · cases h
  · exact h

/-- The items under other keys, and the one under this key. -/
theorem values_pop {d : Dict K V} {k : K} {v : V} (h : d.get? k = some v) :
    (d.values : Multiset V) = {v} + (d.pop k).values := by
  obtain ⟨entries, nodup⟩ := d
  unfold get? at h
  unfold pop filter values
  dsimp only at h ⊢
  induction entries with
  | nil => cases h
  | cons e rest ih =>
    rw [List.map_cons, List.nodup_cons] at nodup
    unfold lookupIn at h
    split at h
    next same =>
      cases h
      subst same
      rw [List.filter_cons, if_neg (by simp), filter_ne_eq nodup.1]
      rfl
    next other =>
      rw [List.filter_cons, if_pos (decide_eq_true other)]
      have next := ih nodup.2 h
      rw [List.map_cons, List.map_cons, ← Multiset.cons_coe, next, ← Multiset.cons_coe]
      simp only [← Multiset.singleton_add]
      abel

/-- What was under the key goes, and the new item comes. -/
theorem values_set (d : Dict K V) (k : K) (v : V) :
    {v} + (d.values : Multiset V) = (d.get? k).elim 0 ({·}) + (d.set k v).values := by
  obtain ⟨entries, nodup⟩ := d
  unfold get? set values
  dsimp only
  induction entries with
  | nil => rfl
  | cons e rest ih =>
    rw [List.map_cons, List.nodup_cons] at nodup
    unfold lookupIn setIn
    split
    next same =>
      rw [List.map_cons, List.map_cons, ← Multiset.cons_coe, ← Multiset.cons_coe]
      simp only [← Multiset.singleton_add, Option.elim_some]
      abel
    next other =>
      have next := ih nodup.2
      rw [List.map_cons, List.map_cons, ← Multiset.cons_coe, ← Multiset.cons_coe]
      simp only [← Multiset.singleton_add] at next ⊢
      rw [add_left_comm, next]
      abel

end Dict

/-! ## Meeting -/

/-- The items of each side that wait. -/
structure Rendezvous (K A B : Type*) where
  left : Dict K A := Dict.empty
  right : Dict K B := Dict.empty

namespace Rendezvous

variable {K A B : Type*} [DecidableEq K] (r : Rendezvous K A B)

/-- An item of the left side takes the one that waits for it, or waits itself. -/
def arriveLeft (k : K) (a : A) : Option B × Rendezvous K A B :=
  match r.right.get? k with
  | some b => (some b, { r with right := r.right.pop k })
  | none => (none, { r with left := r.left.set k a })

/-- An item of the right side takes the one that waits for it, or waits itself. -/
def arriveRight (k : K) (b : B) : Option A × Rendezvous K A B :=
  match r.left.get? k with
  | some a => (some a, { r with left := r.left.pop k })
  | none => (none, { r with right := r.right.set k b })

/-- Two items that wait leave together. -/
def meet (k k' : K) : Rendezvous K A B := ⟨r.left.pop k, r.right.pop k'⟩

/-- No key has both sides waiting. -/
def Apart : Prop := ∀ k, r.left.get? k = none ∨ r.right.get? k = none

/-- An item that waits under the key of one that has to wait is replaced by it. -/
def replacedLeft (k : K) : Multiset A :=
  match r.right.get? k with
  | some _ => 0
  | none => (r.left.get? k).elim 0 ({·})

def replacedRight (k : K) : Multiset B :=
  match r.left.get? k with
  | some _ => 0
  | none => (r.right.get? k).elim 0 ({·})

/-- The two sides exchanged. -/
def swap : Rendezvous K B A := ⟨r.right, r.left⟩

/-- What waits under a key is as these say. -/
structure All (P : K → A → Prop) (Q : K → B → Prop) : Prop where
  left : ∀ k a, r.left.get? k = some a → P k a
  right : ∀ k b, r.right.get? k = some b → Q k b

/-- On both sides: what waited and what arrived has left in one of the pairs, is lost, or waits. -/
structure Account (r r' : Rendezvous K A B) (arrived : Multiset A × Multiset B) (pairs : Multiset (A × B))
    (lost : Multiset A × Multiset B) : Prop where
  left : Ledger r.left.values arrived.1 (pairs.map Prod.fst) lost.1 r'.left.values
  right : Ledger r.right.values arrived.2 (pairs.map Prod.snd) lost.2 r'.right.values

variable {r}

theorem arriveRight_eq (k : K) (b : B) :
    r.arriveRight k b = ((r.swap.arriveLeft k b).1, (r.swap.arriveLeft k b).2.swap) := by
  unfold arriveRight arriveLeft swap
  dsimp only
  split <;> rfl

/-! ### Keys on one side -/

theorem apart_new : Apart ({} : Rendezvous K A B) := fun _ => .inl rfl

namespace Apart

theorem swap (h : r.Apart) : r.swap.Apart := fun k => (h k).symm

theorem arriveLeft (h : r.Apart) (k : K) (a : A) : (r.arriveLeft k a).2.Apart := by
  intro k'
  unfold Rendezvous.arriveLeft
  split
  · rcases h k' with none | none
    · exact .inl none
    · right
      rw [Dict.get?_pop]
      split
      · rfl
      · exact none
  next waiting =>
    by_cases same : k' = k
    · rw [same]
      exact .inr waiting
    · rw [Dict.get?_set_ne _ same]
      exact h k'

theorem arriveRight (h : r.Apart) (k : K) (b : B) : (r.arriveRight k b).2.Apart := by
  rw [arriveRight_eq]
  exact (h.swap.arriveLeft k b).swap

theorem meet (h : r.Apart) (k k' : K) : (r.meet k k').Apart := by
  intro key
  unfold Rendezvous.meet
  rw [Dict.get?_pop, Dict.get?_pop]
  rcases h key with none | none
  · left
    split
    · rfl
    · exact none
  · right
    split
    · rfl
    · exact none

/-- Two items that wait have different keys. -/
theorem ne {k k' : K} {a : A} {b : B} (h : r.Apart) (left : r.left.get? k = some a)
    (right : r.right.get? k' = some b) : k ≠ k' := by
  rintro rfl
  rcases h k with none | none
  · cases left.symm.trans none
  · cases right.symm.trans none

end Apart

/-! ### What waits -/

namespace All

variable {P P' : K → A → Prop} {Q Q' : K → B → Prop}

theorem new : All ({} : Rendezvous K A B) P Q where
  left _ _ found := by cases found
  right _ _ found := by cases found

theorem imp (h : r.All P Q) (left : ∀ k a, P k a → P' k a) (right : ∀ k b, Q k b → Q' k b) : r.All P' Q' :=
  ⟨fun k a found => left k a (h.left k a found), fun k b found => right k b (h.right k b found)⟩

theorem swap (h : r.All P Q) : r.swap.All Q P := ⟨h.right, h.left⟩

/-- An item that arrives as the others keeps that, and the one it takes is as the others. -/
theorem arriveLeft (h : r.All P Q) {k : K} {a : A} (own : P k a) :
    (r.arriveLeft k a).2.All P Q ∧ ∀ b, (r.arriveLeft k a).1 = some b → Q k b := by
  unfold Rendezvous.arriveLeft
  split
  next b waits =>
    refine ⟨⟨h.left, fun k' b' found => h.right k' b' (Dict.get?_pop_some found)⟩, ?_⟩
    rintro b' ⟨⟩
    exact h.right k b waits
  · refine ⟨⟨fun k' a' found => ?_, h.right⟩, nofun⟩
    by_cases same : k' = k
    · subst same
      rw [Dict.get?_set_self] at found
      cases found
      exact own
    · rw [Dict.get?_set_ne _ same] at found
      exact h.left k' a' found

theorem arriveRight (h : r.All P Q) {k : K} {b : B} (own : Q k b) :
    (r.arriveRight k b).2.All P Q ∧ ∀ a, (r.arriveRight k b).1 = some a → P k a := by
  obtain ⟨all, taken⟩ := h.swap.arriveLeft own
  rw [arriveRight_eq]
  exact ⟨all.swap, taken⟩

theorem meet (h : r.All P Q) (k k' : K) : (r.meet k k').All P Q :=
  ⟨fun key a found => h.left key a (Dict.get?_pop_some found),
    fun key b found => h.right key b (Dict.get?_pop_some found)⟩

end All

/-! ### Accounts of both sides -/

namespace Account

variable {r' r'' : Rendezvous K A B} {arrived arrived' lost lost' : Multiset A × Multiset B}
  {pairs pairs' : Multiset (A × B)}

omit [DecidableEq K] in
theorem refl (r : Rendezvous K A B) : Account r r 0 0 0 := ⟨Ledger.refl _, Ledger.refl _⟩

omit [DecidableEq K] in
theorem swap (h : Account r r' arrived pairs lost) :
    Account r.swap r'.swap arrived.swap (pairs.map Prod.swap) lost.swap := by
  refine ⟨?_, ?_⟩
  · rw [Multiset.map_map]
    exact h.right
  · rw [Multiset.map_map]
    exact h.left

omit [DecidableEq K] in
theorem trans (h : Account r r' arrived pairs lost) (h' : Account r' r'' arrived' pairs' lost') :
    Account r r'' (arrived + arrived') (pairs + pairs') (lost + lost') := by
  refine ⟨?_, ?_⟩
  · rw [Multiset.map_add]
    exact h.left.trans h'.left
  · rw [Multiset.map_add]
    exact h.right.trans h'.right

variable (r) (k : K)

theorem arriveLeft (a : A) : Account r (r.arriveLeft k a).2 ({a}, 0)
    ((r.arriveLeft k a).1.elim 0 fun b => {(a, b)}) (r.replacedLeft k, 0) := by
  unfold Rendezvous.arriveLeft replacedLeft
  split
  next b waiting =>
    refine ⟨?_, ?_⟩
    · simp only [Ledger, Option.elim_some, Multiset.map_singleton, add_zero]
    · simp only [Ledger, Option.elim_some, Multiset.map_singleton, add_zero, zero_add]
      exact Dict.values_pop waiting
  · refine ⟨?_, Ledger.refl _⟩
    simp only [Ledger, Option.elim_none, Multiset.map_zero, zero_add]
    exact Dict.values_set r.left k a

theorem arriveRight (b : B) : Account r (r.arriveRight k b).2 (0, {b})
    ((r.arriveRight k b).1.elim 0 fun a => {(a, b)}) (0, r.replacedRight k) := by
  have account := (arriveLeft r.swap k b).swap
  rw [arriveRight_eq]
  cases taken : (r.swap.arriveLeft k b).1 with
  | none =>
    rw [taken] at account
    exact account
  | some a =>
    rw [taken] at account
    exact account

variable {r k}

theorem meet {k' : K} {a : A} {b : B} (left : r.left.get? k = some a) (right : r.right.get? k' = some b) :
    Account r (r.meet k k') 0 {(a, b)} 0 := by
  refine ⟨?_, ?_⟩
  · rw [Ledger, Dict.values_pop left, Multiset.map_singleton]
    exact (zero_add _).trans (congrArg (· + _) (add_zero _).symm)
  · rw [Ledger, Dict.values_pop right, Multiset.map_singleton]
    exact (zero_add _).trans (congrArg (· + _) (add_zero _).symm)

omit [DecidableEq K] in
/-- What waited is lost. -/
theorem clear (r : Rendezvous K A B) : Account r {} 0 0 (r.left.values, r.right.values) :=
  ⟨Ledger.dropped _, Ledger.dropped _⟩

end Account

/-! ### Two items of one key -/

variable (r) (k : K)

/-- After the first of two items of a key that nobody else on its side waits for, at most that key waits. -/
theorem arriveLeft_alone (a : A) (alone : ∀ k, r.left.get? k = none) :
    (∀ k', k' ≠ k → (r.arriveLeft k a).2.left.get? k' = none) ∧
      ((r.arriveLeft k a).1 = none → (r.arriveLeft k a).2.left.get? k = some a) := by
  unfold arriveLeft
  split
  · exact ⟨fun k' _ => alone k', by simp⟩
  · refine ⟨fun k' other => ?_, fun _ => Dict.get?_set_self _ _ _⟩
    rw [Dict.get?_set_ne _ other]
    exact alone k'

theorem arriveRight_alone (b : B) (alone : ∀ k, r.right.get? k = none) :
    (∀ k', k' ≠ k → (r.arriveRight k b).2.right.get? k' = none) ∧
      ((r.arriveRight k b).1 = none → (r.arriveRight k b).2.right.get? k = some b) := by
  rw [arriveRight_eq]
  exact r.swap.arriveLeft_alone k b alone

/-- After the second one nothing waits on the side of the first. -/
theorem arriveLeft_empties (a : A) (alone : ∀ k', k' ≠ k → r.right.get? k' = none) :
    (∀ k', (r.arriveLeft k a).2.right.get? k' = none) ∧ (r.arriveLeft k a).1 = r.right.get? k := by
  unfold arriveLeft
  split
  next b waiting =>
    refine ⟨fun k' => ?_, waiting.symm⟩
    rw [Dict.get?_pop]
    split
    · rfl
    next other => exact alone k' other
  next none =>
    refine ⟨fun k' => ?_, none.symm⟩
    by_cases same : k' = k
    · rw [same]
      exact none
    · exact alone k' same

theorem arriveRight_empties (b : B) (alone : ∀ k', k' ≠ k → r.left.get? k' = none) :
    (∀ k', (r.arriveRight k b).2.left.get? k' = none) ∧ (r.arriveRight k b).1 = r.left.get? k := by
  rw [arriveRight_eq]
  exact r.swap.arriveLeft_empties k b alone

end Rendezvous

end Lib
