import Mkk.Lib.Dict
import Mkk.Lib.Sorting
import Mathlib.Data.Multiset.Bind

/-!
# Accumulating loops in any order

What a view of the gathered values shows is the same for every order of the elements when the view of
an update depends on the view of the old value only and two updates swap under it.
-/

namespace Lib

/-- A list of views determines, up to order, what is concatenated over the list. -/
theorem flatMap_perm_of_views {A B W : Type*} {f : A → List B} {view : A → W} {l l' : List A}
    (perm : (l.map view).Perm (l'.map view)) (same : ∀ a a', view a = view a' → (f a).Perm (f a')) :
    (l.flatMap f).Perm (l'.flatMap f) := by
  classical
  let seen : W → Multiset B := fun w => if h : ∃ a, view a = w then ↑(f h.choose) else 0
  have factors (a : A) : (f a : Multiset B) = seen (view a) := by
    have h : ∃ a', view a' = view a := ⟨a, rfl⟩
    simp only [seen, dif_pos h]
    exact Multiset.coe_eq_coe.2 (same _ _ h.choose_spec.symm)
  have concat (l : List A) :
      (l.flatMap f : Multiset B) = ((l.map view : List W) : Multiset W).bind seen := by
    rw [← Multiset.map_coe, Multiset.bind_map, ← Multiset.coe_bind]
    exact Multiset.bind_congr fun a _ => factors a
  rw [← Multiset.coe_eq_coe, concat, concat, Multiset.coe_eq_coe.2 perm]

/-- Sorting by a key sorts the keys. -/
theorem map_sortOn {α β : Type*} [LinearOrder β] (f : α → β) (l : List α) :
    (sortOn f l).map f = sortOn id (l.map f) := by
  refine List.Perm.eq_of_pairwise (fun a b _ _ le le' => le_antisymm le le')
    (List.pairwise_map.2 (pairwise_sortOn f l)) (pairwise_sortOn id _) ?_
  exact ((sortOn_perm f l).map f).trans (sortOn_perm id _).symm

namespace Dict

section View

variable {K V W A : Type*} [DecidableEq K] {key : A → K} {upd : Option V → A → V} {view : V → W}

/-- Under the view an update sees the view of the old value, and two updates swap. -/
structure Unordered (upd : Option V → A → V) (view : V → W) : Prop where
  congr : ∀ {o o' : Option V} (a : A), o.map view = o'.map view → view (upd o a) = view (upd o' a)
  swap : ∀ (o : Option V) (a b : A), view (upd (some (upd o a)) b) = view (upd (some (upd o b)) a)

theorem Unordered.gather_congr (h : Unordered upd view) {l : List A} {o o' : Option V}
    (same : o.map view = o'.map view) : (gather upd o l).map view = (gather upd o' l).map view := by
  induction l generalizing o o' with
  | nil => exact same
  | cons a rest ih => exact ih (congrArg some (h.congr a same))

theorem Unordered.gather_perm (h : Unordered upd view) {l l' : List A} (perm : l.Perm l')
    (o : Option V) : (gather upd o l).map view = (gather upd o l').map view := by
  induction perm generalizing o with
  | nil => rfl
  | cons a _ ih => exact ih _
  | swap a b l => exact h.gather_congr (l := l) (congrArg some (h.swap o b a))
  | trans _ _ ih ih' => exact (ih o).trans (ih' o)

/-- Loops over the same elements in two orders, from dictionaries with the same view. -/
theorem Unordered.foldl_insertWith (h : Unordered upd view) {l l' : List A} (perm : l.Perm l')
    {d e : Dict K V} (same : ∀ k, (d.get? k).map view = (e.get? k).map view) (k : K) :
    ((l.foldl (insertWith key upd) d).get? k).map view =
      ((l'.foldl (insertWith key upd) e).get? k).map view := by
  rw [get?_foldl_insertWith, get?_foldl_insertWith]
  exact (h.gather_congr (same k)).trans (h.gather_perm (perm.filter _) _)

/-- Loops that gather the same elements in two orders. -/
theorem Unordered.accumulate (h : Unordered upd view) (key : A → K) {l l' : List A}
    (perm : l.Perm l') (k : K) :
    ((accumulate key upd l).get? k).map view = ((accumulate key upd l').get? k).map view :=
  h.foldl_insertWith perm (fun _ => rfl) k

/-- An update that can be swapped needs no view. -/
theorem unordered_id (swap : ∀ (o : Option V) (a b : A), upd (some (upd o a)) b = upd (some (upd o b)) a) :
    Unordered upd (id : V → V) where
  congr a same := by rw [Option.map_id, id, id] at same; rw [same]
  swap := swap

theorem get?_accumulate_perm
    (swap : ∀ (o : Option V) (a b : A), upd (some (upd o a)) b = upd (some (upd o b)) a)
    {l l' : List A} (perm : l.Perm l') (k : K) :
    (Dict.accumulate key upd l).get? k = (Dict.accumulate key upd l').get? k := by
  have same := (unordered_id swap).accumulate key perm k
  simpa only [Option.map_id, id] using same

end View

section Views

variable {K V W : Type*} [DecidableEq K] {d e : Dict K V} {view : V → W}

omit [DecidableEq K] in
theorem values_mapItems (f : K → V → W) (d : Dict K V) :
    (d.mapItems f).values = d.entries.map fun e => f e.1 e.2 := by
  unfold values mapItems
  rw [List.map_map]
  rfl

/-- Dictionaries with the same views have the same views of values, up to order. -/
theorem values_map_perm (same : ∀ k, (d.get? k).map view = (e.get? k).map view) :
    (d.values.map view).Perm (e.values.map view) := by
  have mapped := values_perm_of_get?_eq (d := d.mapItems fun _ => view) (e := e.mapItems fun _ => view)
    fun k => by rw [get?_mapItems, get?_mapItems]; exact same k
  rw [values_mapItems, values_mapItems] at mapped
  unfold values
  rwa [List.map_map, List.map_map]

theorem keys_perm (same : ∀ k, (d.get? k).map view = (e.get? k).map view) : d.keys.Perm e.keys := by
  refine (List.perm_ext_iff_of_nodup d.nodup e.nodup).2 fun k => ?_
  change k ∈ d.keys ↔ k ∈ e.keys
  rw [mem_keys_iff, mem_keys_iff, ← Option.isSome_iff_exists, ← Option.isSome_iff_exists,
    ← Option.isSome_map (f := view), same, Option.isSome_map]

end Views

end Dict

end Lib
