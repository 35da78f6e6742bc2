import Mathlib

/-!
# Insertion-ordered dictionaries

`Dict K V` is a finite map that remembers the order in which its keys were first
inserted. The entries are an association list whose keys are distinct, so a dictionary
with a repeated key cannot be built. `set` overwrites in place or appends, `pop` removes,
`filter` is a comprehension over the items. Every fact a client needs is stated through
`get?`; `mem_entries_iff` is the bridge to the underlying list.
-/

namespace Lib

/-- A finite map as its items in insertion order. -/
structure Dict (K V : Type*) where
  entries : List (K × V)
  nodup : (entries.map Prod.fst).Nodup
  deriving DecidableEq

namespace Dict

variable {K V W : Type*}

/-- The dictionary without items. -/
def empty : Dict K V := ⟨[], List.nodup_nil⟩

instance : Inhabited (Dict K V) := ⟨empty⟩

def keys (d : Dict K V) : List K := d.entries.map Prod.fst

def values (d : Dict K V) : List V := d.entries.map Prod.snd

def size (d : Dict K V) : ℕ := d.entries.length

/-- The items for which `p` holds, in their order. -/
def filter (p : K → V → Bool) (d : Dict K V) : Dict K V :=
  ⟨d.entries.filter fun e => p e.1 e.2, d.nodup.sublist (List.filter_sublist.map _)⟩

/-- The same keys with new values. -/
def mapItems (f : K → V → W) (d : Dict K V) : Dict K W :=
  ⟨d.entries.map fun e => (e.1, f e.1 e.2), by
    simpa [List.map_map, Function.comp_def] using d.nodup⟩

@[simp] theorem entries_empty : (empty : Dict K V).entries = [] := rfl

@[simp] theorem keys_empty : (empty : Dict K V).keys = [] := rfl

@[simp] theorem values_empty : (empty : Dict K V).values = [] := rfl

@[simp] theorem size_empty : (empty : Dict K V).size = 0 := rfl

@[ext] theorem ext_entries {d e : Dict K V} (h : d.entries = e.entries) : d = e := by
  cases d; cases e; simp_all

theorem length_values (d : Dict K V) : d.values.length = d.size := by
  simp [values, size]

theorem size_filter_le (p : K → V → Bool) (d : Dict K V) : (d.filter p).size ≤ d.size :=
  List.length_filter_le _ _

section Lookup

variable [DecidableEq K]

/-- The value of the first item with key `k` in a list of items. -/
def lookupIn (k : K) : List (K × V) → Option V
  | [] => none
  | e :: rest => if e.1 = k then some e.2 else lookupIn k rest

/-- The value stored under `k`. -/
def get? (d : Dict K V) (k : K) : Option V := lookupIn k d.entries

/-- Overwrite the first item with key `k`, or append a new one. -/
def setIn (k : K) (v : V) : List (K × V) → List (K × V)
  | [] => [(k, v)]
  | e :: rest => if e.1 = k then (k, v) :: rest else e :: setIn k v rest

theorem keys_setIn (k : K) (v : V) (l : List (K × V)) :
    (setIn k v l).map Prod.fst =
      if k ∈ l.map Prod.fst then l.map Prod.fst else l.map Prod.fst ++ [k] := by
  induction l with
  | nil => simp [setIn]
  | cons e rest ih =>
    by_cases he : e.1 = k
    · simp [setIn, he]
    · have hk : ¬ k = e.1 := fun h => he h.symm
      simp only [setIn, he, if_false, List.map_cons, ih, List.mem_cons, hk, false_or]
      split <;> simp

/-- `d[k] = v`: an existing key keeps its place. -/
def set (d : Dict K V) (k : K) (v : V) : Dict K V :=
  ⟨setIn k v d.entries, by
    rw [keys_setIn]
    split
    · exact d.nodup
    · rename_i hk
      exact List.nodup_append.2 ⟨d.nodup, List.nodup_singleton _, by
        intro a ha b hb
        rw [List.mem_singleton.1 hb]
        exact fun e => hk (e ▸ ha)⟩⟩

/-- `d.pop(k, None)`, without the value. -/
def pop (d : Dict K V) (k : K) : Dict K V := d.filter fun k' _ => k' ≠ k

theorem lookupIn_eq_some {l : List (K × V)} (h : (l.map Prod.fst).Nodup) {k : K} {v : V} :
    lookupIn k l = some v ↔ (k, v) ∈ l := by
  induction l with
  | nil => simp [lookupIn]
  | cons e rest ih =>
    obtain ⟨hne, hrest⟩ := List.nodup_cons.1 h
    by_cases he : e.1 = k
    · subst he
      simp only [lookupIn, if_true, Option.some.injEq, List.mem_cons]
      constructor
      · rintro rfl; exact .inl rfl
      · rintro (heq | hmem)
        · rw [← heq]
        · exact (hne (List.mem_map.2 ⟨_, hmem, rfl⟩)).elim
    · simp only [lookupIn, he, if_false, ih hrest, List.mem_cons]
      exact ⟨.inr, fun h => h.resolve_left fun heq => he (by rw [← heq])⟩

/-- Looking a key up finds exactly the stored items. -/
theorem mem_entries_iff {d : Dict K V} {k : K} {v : V} :
    (k, v) ∈ d.entries ↔ d.get? k = some v :=
  (lookupIn_eq_some d.nodup).symm

theorem mem_keys_iff {d : Dict K V} {k : K} : k ∈ d.keys ↔ ∃ v, d.get? k = some v := by
  constructor
  · intro h
    obtain ⟨⟨k', v⟩, hmem, rfl⟩ := List.mem_map.1 h
    exact ⟨v, mem_entries_iff.1 hmem⟩
  · rintro ⟨v, h⟩
    exact List.mem_map.2 ⟨(k, v), mem_entries_iff.2 h, rfl⟩

theorem mem_values_iff {d : Dict K V} {v : V} : v ∈ d.values ↔ ∃ k, d.get? k = some v := by
  constructor
  · intro h
    obtain ⟨⟨k, v'⟩, hmem, rfl⟩ := List.mem_map.1 h
    exact ⟨k, mem_entries_iff.1 hmem⟩
  · rintro ⟨k, h⟩
    exact List.mem_map.2 ⟨(k, v), mem_entries_iff.2 h, rfl⟩

theorem get?_none_iff {d : Dict K V} {k : K} : d.get? k = none ↔ k ∉ d.keys := by
  rw [mem_keys_iff, Option.eq_none_iff_forall_not_mem]
  simp

@[simp] theorem get?_empty (k : K) : (empty : Dict K V).get? k = none := rfl

theorem lookupIn_setIn (k k' : K) (v : V) (l : List (K × V)) :
    lookupIn k' (setIn k v l) = if k' = k then some v else lookupIn k' l := by
  induction l with
  | nil =>
    by_cases h : k' = k
    · simp [setIn, lookupIn, h]
    · simp [setIn, lookupIn, h, Ne.symm h]
  | cons e rest ih =>
    by_cases he : e.1 = k
    · by_cases h : k' = k
      · simp [setIn, lookupIn, he, h]
      · have h' : ¬ k = k' := fun e => h e.symm
        simp [setIn, lookupIn, he, h, h']
    · by_cases h' : e.1 = k'
      · have hk : ¬ k' = k := fun e' => he (h'.trans e')
        simp [setIn, lookupIn, h', hk]
      · simp [setIn, lookupIn, he, h', ih]

theorem get?_set (d : Dict K V) (k k' : K) (v : V) :
    (d.set k v).get? k' = if k' = k then some v else d.get? k' :=
  lookupIn_setIn k k' v d.entries

@[simp] theorem get?_set_self (d : Dict K V) (k : K) (v : V) : (d.set k v).get? k = some v := by
  simp [get?_set]

theorem get?_set_ne (d : Dict K V) {k k' : K} (h : k' ≠ k) (v : V) :
    (d.set k v).get? k' = d.get? k' := by
  simp [get?_set, h]

theorem get?_filter (p : K → V → Bool) (d : Dict K V) (k : K) :
    (d.filter p).get? k = (d.get? k).filter (p k) := by
  apply Option.ext
  intro v
  rw [← mem_entries_iff, Option.filter_eq_some_iff, ← mem_entries_iff]
  simp [filter]

theorem get?_pop (d : Dict K V) (k k' : K) :
    (d.pop k).get? k' = if k' = k then none else d.get? k' := by
  rw [pop, get?_filter]
  by_cases h : k' = k
  · subst h; cases d.get? k' <;> simp [Option.filter]
  · cases hd : d.get? k' <;> simp [Option.filter, h]

@[simp] theorem get?_pop_self (d : Dict K V) (k : K) : (d.pop k).get? k = none := by
  simp [get?_pop]

theorem get?_pop_ne (d : Dict K V) {k k' : K} (h : k' ≠ k) : (d.pop k).get? k' = d.get? k' := by
  simp [get?_pop, h]

theorem get?_mapItems (f : K → V → W) (d : Dict K V) (k : K) :
    (d.mapItems f).get? k = (d.get? k).map (f k) := by
  apply Option.ext
  intro w
  rw [← mem_entries_iff, Option.map_eq_some_iff]
  simp only [mapItems, List.mem_map, Prod.mk.injEq, Prod.exists]
  constructor
  · rintro ⟨k', v, hmem, rfl, rfl⟩
    exact ⟨v, mem_entries_iff.1 hmem, rfl⟩
  · rintro ⟨v, hv, rfl⟩
    exact ⟨k, v, mem_entries_iff.2 hv, rfl, rfl⟩

theorem size_setIn (k : K) (v : V) (l : List (K × V)) :
    (setIn k v l).length = if k ∈ l.map Prod.fst then l.length else l.length + 1 := by
  have h := congrArg List.length (keys_setIn k v l)
  rw [List.length_map] at h
  rw [h]
  split <;> simp

/-- A new key makes the dictionary one item longer. -/
theorem size_set_of_get?_none {d : Dict K V} {k : K} (h : d.get? k = none) (v : V) :
    (d.set k v).size = d.size + 1 := by
  have hk : k ∉ d.entries.map Prod.fst := get?_none_iff.1 h
  simp [size, set, size_setIn, hk]

/-- Overwriting keeps the number of items. -/
theorem size_set_of_get?_some {d : Dict K V} {k : K} {v₀ : V} (h : d.get? k = some v₀) (v : V) :
    (d.set k v).size = d.size := by
  have hk : k ∈ d.entries.map Prod.fst := mem_keys_iff.2 ⟨v₀, h⟩
  simp [size, set, size_setIn, hk]

/-- The later of two values stored under one key counts. -/
theorem set_set (d : Dict K V) (k : K) (v w : V) :
    (d.set k v).set k w = d.set k w := by
  refine ext_entries ?_
  change setIn k w (setIn k v d.entries) = setIn k w d.entries
  induction d.entries with
  | nil => simp [setIn]
  | cons e rest ih =>
    by_cases he : e.1 = k
    · simp [setIn, he]
    · simp [setIn, he, ih]

/-- Storing the value that is there. -/
theorem set_of_get? {d : Dict K V} {k : K} {v : V}
    (found : d.get? k = some v) : d.set k v = d := by
  refine ext_entries ?_
  change lookupIn k d.entries = some v at found
  change setIn k v d.entries = d.entries
  revert found
  induction d.entries with
  | nil => exact fun found => nomatch found
  | cons e rest ih =>
    intro found
    unfold lookupIn at found
    unfold setIn
    split at found
    · rename_i same
      cases found
      rw [if_pos same, ← same]
    · rename_i differs
      rw [if_neg differs, ih found]

/-- Two dictionaries with the same lookups have the same items up to order. -/
theorem entries_perm_of_get?_eq {d e : Dict K V} (h : ∀ k, d.get? k = e.get? k) :
    d.entries.Perm e.entries := by
  apply (List.perm_ext_iff_of_nodup (List.Nodup.of_map _ d.nodup) (List.Nodup.of_map _ e.nodup)).2
  rintro ⟨k, v⟩
  rw [mem_entries_iff, mem_entries_iff, h]

theorem values_perm_of_get?_eq {d e : Dict K V} (h : ∀ k, d.get? k = e.get? k) :
    d.values.Perm e.values :=
  (entries_perm_of_get?_eq h).map _

/-! ### Accumulating loops -/

section Accumulate

variable {A : Type*} (key : A → K) (upd : Option V → A → V)

/-- One turn of an accumulating loop: the item of the element's key is updated. -/
def insertWith (d : Dict K V) (a : A) : Dict K V := d.set (key a) (upd (d.get? (key a)) a)

/-- A loop that gathers the elements of a list by their keys. -/
def accumulate (l : List A) : Dict K V := l.foldl (insertWith key upd) empty

/-- The updates that concern one key, in the order of the list. -/
def gather (upd : Option V → A → V) (o : Option V) (l : List A) : Option V :=
  l.foldl (fun o a => some (upd o a)) o

theorem get?_foldl_insertWith (k : K) (l : List A) (d : Dict K V) :
    (l.foldl (insertWith key upd) d).get? k =
      gather upd (d.get? k) (l.filter fun a => key a = k) := by
  induction l generalizing d with
  | nil => rfl
  | cons a rest ih =>
    rw [List.foldl_cons, ih]
    by_cases h : key a = k
    · rw [List.filter_cons_of_pos (by simpa using h)]
      simp [gather, insertWith, h]
    · rw [List.filter_cons_of_neg (by simpa using h)]
      rw [insertWith, get?_set_ne _ (Ne.symm h)]

/-- What is gathered under a key depends on the elements of that key only. -/
theorem get?_accumulate (k : K) (l : List A) :
    (accumulate key upd l).get? k = gather upd none (l.filter fun a => key a = k) :=
  get?_foldl_insertWith key upd k l empty

/-- A gathered value was last updated by one of the elements. -/
theorem gather_eq_some {o : Option V} {l : List A} {v : V} (h : gather upd o l = some v) :
    o = some v ∧ l = [] ∨ ∃ a ∈ l, ∃ o', v = upd o' a := by
  induction l using List.reverseRecOn with
  | nil => exact .inl ⟨h, rfl⟩
  | append_singleton l a _ =>
    refine .inr ⟨a, by simp, l.foldl (fun o a => some (upd o a)) o, ?_⟩
    rw [gather, List.foldl_append] at h
    exact (Option.some.inj h).symm

theorem accumulate_eq_some {l : List A} {k : K} {v : V} (h : (accumulate key upd l).get? k = some v) :
    ∃ a ∈ l, key a = k ∧ ∃ o, v = upd o a := by
  rw [get?_accumulate] at h
  rcases gather_eq_some upd h with ⟨h, -⟩ | ⟨a, ha, o, rfl⟩
  · cases h
  · obtain ⟨hm, hk⟩ := List.mem_filter.1 ha
    exact ⟨a, hm, by simpa using hk, o, rfl⟩

/-- Gathering elements that all carry the same value. -/
theorem gather_const {val : A → V} {o : Option V} {l : List A} {v : V} (ne : l ≠ [])
    (h : ∀ a ∈ l, val a = v) : gather (fun _ a => val a) o l = some v := by
  induction l using List.reverseRecOn with
  | nil => exact (ne rfl).elim
  | append_singleton l a _ =>
    rw [gather, List.foldl_append]
    exact congrArg some (h a (by simp))

/-- Gathering elements into lists keeps them in order. -/
theorem gather_list (l : List A) (acc : Option (List A)) :
    gather (fun acc a => acc.getD [] ++ [a]) acc l =
      if l = [] then acc else some (acc.getD [] ++ l) := by
  induction l generalizing acc with
  | nil => rfl
  | cons a rest ih =>
    rw [gather, List.foldl_cons]
    refine (ih _).trans ?_
    cases rest <;> simp

theorem isSome_gather (o : Option V) (l : List A) :
    (gather upd o l).isSome = (o.isSome || !l.isEmpty) := by
  induction l generalizing o with
  | nil => simp [gather]
  | cons a rest ih =>
    rw [gather, List.foldl_cons]
    exact (ih (some (upd o a))).trans (by simp)

theorem mem_keys_accumulate {k : K} {l : List A} :
    k ∈ (accumulate key upd l).keys ↔ k ∈ l.map key := by
  rw [mem_keys_iff, ← Option.isSome_iff_exists, get?_accumulate, isSome_gather]
  simp [List.filter_eq_nil_iff]

/-- One item for each distinct key. -/
theorem size_accumulate (l : List A) : (accumulate key upd l).size = (l.map key).dedup.length := by
  rw [size, ← List.length_map (f := Prod.fst)]
  refine List.Perm.length_eq ((List.perm_ext_iff_of_nodup (accumulate key upd l).nodup
    (List.nodup_dedup _)).2 fun k => ?_)
  rw [List.mem_dedup]
  exact mem_keys_accumulate key upd

end Accumulate

end Lookup

end Dict

end Lib
