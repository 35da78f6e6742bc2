import Mkk.Lib.Dict

/-!
# Dictionaries in order of use

A dictionary whose items stand in the order of their last use, and how long an item stays while the
oldest ones are dropped: as long as fewer other keys are used than the dictionary may hold.
-/

namespace Lib

namespace Dict

variable {K V : Type*}

/-- `while len(d) > n: d.popitem(last=False)` on the items. -/
def evictIn (n : ℕ) : List (K × V) → List (K × V)
  | [] => []
  | e :: rest => if n < rest.length + 1 then evictIn n rest else e :: rest

theorem evictIn_suffix (n : ℕ) (l : List (K × V)) : evictIn n l <:+ l := by
  induction l with
  | nil => exact List.suffix_refl _
  | cons e rest ih =>
    unfold evictIn
    split
    · exact ih.trans (List.suffix_cons _ _)
    · exact List.suffix_refl _

theorem length_evictIn_le (n : ℕ) (l : List (K × V)) : (evictIn n l).length ≤ n := by
  induction l with
  | nil => exact Nat.zero_le _
  | cons e rest ih =>
    unfold evictIn
    split
    · exact ih
    next room => exact not_lt.1 room

/-- The last items that fit are not dropped. -/
theorem evictIn_append {n : ℕ} (before : List (K × V)) {after : List (K × V)} (fits : after.length ≤ n) :
    ∃ kept, evictIn n (before ++ after) = kept ++ after := by
  induction before with
  | nil =>
    refine ⟨[], ?_⟩
    cases after with
    | nil => rfl
    | cons e rest => exact if_neg (not_lt.2 fits)
  | cons e rest ih =>
    rw [List.cons_append]
    unfold evictIn
    split
    · exact ih
    · exact ⟨e :: rest, rfl⟩

/-- The oldest items are dropped until at most `n` are left. -/
def evict (d : Dict K V) (n : ℕ) : Dict K V where
  entries := evictIn n d.entries
  nodup := d.nodup.sublist ((evictIn_suffix n d.entries).sublist.map _)

theorem size_evict_le (d : Dict K V) (n : ℕ) : (d.evict n).size ≤ n := length_evictIn_le n d.entries

/-- The value of a key, and the keys that have been used since. -/
structure UsedBefore (k : K) (v : V) (recent : Finset K) (d : Dict K V) : Prop where
  split : ∃ before after, d.entries = before ++ (k, v) :: after ∧ ∀ e ∈ after, e.1 ∈ recent

theorem UsedBefore.mono {d : Dict K V} {k : K} {v : V} {recent more : Finset K}
    (h : UsedBefore k v recent d) (le : recent ⊆ more) : UsedBefore k v more d := by
  obtain ⟨before, after, split, used⟩ := h.split
  exact ⟨before, after, split, fun e member => le (used e member)⟩

/-- Dropping other items keeps the order. -/
theorem UsedBefore.filter {d : Dict K V} {k : K} {v : V} {recent : Finset K}
    (h : UsedBefore k v recent d) {p : K → V → Bool} (kept : p k v = true) :
    UsedBefore k v recent (d.filter p) := by
  obtain ⟨before, after, split, used⟩ := h.split
  refine ⟨before.filter fun e => p e.1 e.2, after.filter fun e => p e.1 e.2, ?_,
    fun e member => used e (List.mem_of_mem_filter member)⟩
  change d.entries.filter _ = _
  rw [split, List.filter_append, List.filter_cons, if_pos kept]

variable [DecidableEq K]

/-- `d.move_to_end(k)`; a key that is absent changes nothing. -/
def moveToEnd (d : Dict K V) (k : K) : Dict K V where
  entries := (d.entries.filter fun e => !decide (e.1 = k)) ++ d.entries.filter fun e => decide (e.1 = k)
  nodup := by
    have split := List.filter_append_perm (fun e : K × V => decide (e.1 = k)) d.entries
    exact ((List.perm_append_comm.trans split).map Prod.fst).nodup_iff.2 d.nodup

/-- A new key comes last. -/
theorem entries_set_of_notMem {d : Dict K V} {k : K} (absent : k ∉ d.keys) (v : V) :
    (d.set k v).entries = d.entries ++ [(k, v)] := by
  change setIn k v d.entries = _
  unfold keys at absent
  revert absent
  induction d.entries with
  | nil => exact fun _ => rfl
  | cons e rest ih =>
    intro absent
    obtain ⟨first, later⟩ := not_or.1 fun member => absent (List.mem_cons.2 member)
    unfold setIn
    rw [if_neg fun same => first same.symm, ih later, List.cons_append]

theorem get?_of_evict {d : Dict K V} {n : ℕ} {k : K} {v : V} (h : (d.evict n).get? k = some v) :
    d.get? k = some v :=
  mem_entries_iff.1 ((evictIn_suffix n d.entries).subset (mem_entries_iff.2 h))

theorem get?_moveToEnd (d : Dict K V) (k k' : K) : (d.moveToEnd k).get? k' = d.get? k' := by
  apply Option.ext
  intro v
  rw [← mem_entries_iff, ← mem_entries_iff]
  unfold moveToEnd
  rw [List.mem_append, List.mem_filter, List.mem_filter, ← and_or_left]
  exact and_iff_left (by by_cases same : k' = k <;> simp [same])

theorem size_moveToEnd (d : Dict K V) (k : K) : (d.moveToEnd k).size = d.size :=
  (List.perm_append_comm.trans (List.filter_append_perm _ _)).length_eq

namespace UsedBefore

variable {d : Dict K V} {k k' : K} {v v' : V} {recent : Finset K}

theorem get? (h : UsedBefore k v recent d) : d.get? k = some v := by
  obtain ⟨before, after, split, -⟩ := h.split
  rw [← mem_entries_iff, split]
  exact List.mem_append_right _ List.mem_cons_self

/-- A key that has just been used is the last one. -/
theorem of_moveToEnd (found : d.get? k = some v) : UsedBefore k v ∅ (d.moveToEnd k) := by
  have alone : d.entries.filter (fun e => decide (e.1 = k)) = [(k, v)] := by
    have member : (k, v) ∈ d.entries.filter fun e => decide (e.1 = k) :=
      List.mem_filter.2 ⟨mem_entries_iff.2 found, decide_eq_true rfl⟩
    have only : ∀ e ∈ d.entries.filter fun e => decide (e.1 = k), e = (k, v) := by
      intro e member
      obtain ⟨listed, same⟩ := List.mem_filter.1 member
      have key : e.1 = k := of_decide_eq_true same
      have value : d.get? k = some e.2 := mem_entries_iff.1 (key ▸ listed)
      exact Prod.ext key (Option.some.inj (value.symm.trans found))
    have nodup : (d.entries.filter fun e => decide (e.1 = k)).Nodup :=
      (List.Nodup.of_map _ d.nodup).filter _
    generalize d.entries.filter (fun e => decide (e.1 = k)) = kept at member only nodup
    cases kept with
    | nil => exact absurd member List.not_mem_nil
    | cons e rest =>
      obtain rfl := only e List.mem_cons_self
      cases rest with
      | nil => rfl
      | cons e rest =>
        obtain rfl := only e (List.mem_cons_of_mem _ List.mem_cons_self)
        exact absurd List.mem_cons_self (List.nodup_cons.1 nodup).1
  refine ⟨d.entries.filter fun e => !decide (e.1 = k), [], ?_, nofun⟩
  change _ ++ d.entries.filter _ = _
  rw [alone]

/-- Another key is used. -/
theorem moveToEnd (h : UsedBefore k v recent d) (other : k' ≠ k) :
    UsedBefore k v (insert k' recent) (d.moveToEnd k') := by
  obtain ⟨before, after, split, used⟩ := h.split
  refine ⟨before.filter fun e => !decide (e.1 = k'),
    (after.filter fun e => !decide (e.1 = k')) ++ d.entries.filter fun e => decide (e.1 = k'), ?_,
    fun e member => ?_⟩
  · change d.entries.filter _ ++ _ = _
    have stays : (!decide ((k, v).1 = k')) = true := by
      rw [Bool.not_eq_true', decide_eq_false_iff_not]
      exact fun same => other same.symm
    have front : d.entries.filter (fun e => !decide (e.1 = k')) =
        before.filter (fun e => !decide (e.1 = k')) ++
          (k, v) :: after.filter fun e => !decide (e.1 = k') := by
      rw [split, List.filter_append, List.filter_cons, if_pos stays]
    rw [front, List.append_assoc, List.cons_append]
  · rcases List.mem_append.1 member with old | last
    · exact Finset.mem_insert_of_mem (used e (List.mem_of_mem_filter old))
    · rw [of_decide_eq_true (List.mem_filter.1 last).2]
      exact Finset.mem_insert_self _ _

/-- Another key is added. -/
theorem set (h : UsedBefore k v recent d) (absent : d.get? k' = none) :
    UsedBefore k v (insert k' recent) (d.set k' v') := by
  obtain ⟨before, after, split, used⟩ := h.split
  refine ⟨before, after ++ [(k', v')], ?_, fun e member => ?_⟩
  · rw [entries_set_of_notMem (get?_none_iff.1 absent), split, List.append_assoc, List.cons_append]
  · rcases List.mem_append.1 member with old | last
    · exact Finset.mem_insert_of_mem (used e old)
    · rw [List.mem_singleton.1 last]
      exact Finset.mem_insert_self _ _

/-- A key stays while fewer others have been used than there is room for. -/
theorem evict {n : ℕ} (h : UsedBefore k v recent d) (room : recent.card < n) :
    UsedBefore k v recent (d.evict n) := by
  obtain ⟨before, after, split, used⟩ := h.split
  have few : after.length ≤ recent.card := by
    have nodup : (after.map Prod.fst).Nodup := by
      have all := d.nodup
      rw [split, List.map_append, List.map_cons] at all
      exact (List.nodup_cons.1 (List.nodup_append.1 all).2.1).2
    rw [← List.length_map (f := Prod.fst), ← List.toFinset_card_of_nodup nodup]
    refine Finset.card_le_card fun key member => ?_
    obtain ⟨e, listed, rfl⟩ := List.mem_map.1 (List.mem_toFinset.1 member)
    exact used e listed
  have fits : ((k, v) :: after).length ≤ n := by
    rw [List.length_cons]
    omega
  obtain ⟨kept, left⟩ := evictIn_append before fits
  refine ⟨kept, after, ?_, used⟩
  change evictIn n d.entries = _
  rw [split]
  exact left

end UsedBefore

end Dict

end Lib
