import Mkk.Lib.Dict
import Mathlib.Algebra.BigOperators.Group.Finset.Basic

/-!
# Sums over an accumulating loop

A loop that adds every element of a list to the item of its key conserves what it adds: the items
together hold what the elements add up to.
-/

namespace Lib.Dict

section SetIn

variable {K V M : Type*} [DecidableEq K] [AddCommMonoid M]

/-- Storing a value changes the sum of the items by the new value less the one it replaces. -/
theorem sum_setIn (f : V → M) (k : K) (v : V) (l : List (K × V)) :
    ((setIn k v l).map fun e => f e.2).sum + ((lookupIn k l).map f).getD 0 =
      (l.map fun e => f e.2).sum + f v := by
  induction l with
  | nil => simp [setIn, lookupIn]
  | cons e rest ih =>
    unfold setIn lookupIn
    split
    · simp only [List.map_cons, List.sum_cons, Option.map_some, Option.getD_some]
      abel
    · simp only [List.map_cons, List.sum_cons]
      rw [add_assoc, ih, add_assoc]

end SetIn

section Accumulate

variable {K V A M : Type*} [DecidableEq K] [AddCancelCommMonoid M] {key : A → K}
  {upd : Option V → A → V} {f : V → M} {g : A → M}

theorem sum_insertWith (adds : ∀ o a, f (upd o a) = (o.map f).getD 0 + g a) (d : Dict K V) (a : A) :
    ((insertWith key upd d a).entries.map fun e => f e.2).sum =
      (d.entries.map fun e => f e.2).sum + g a := by
  have stored := sum_setIn f (key a) (upd (d.get? (key a)) a) d.entries
  rw [adds, ← add_assoc, add_right_comm] at stored
  exact add_right_cancel stored

theorem sum_foldl_insertWith (adds : ∀ o a, f (upd o a) = (o.map f).getD 0 + g a) (l : List A)
    (d : Dict K V) : ((l.foldl (insertWith key upd) d).entries.map fun e => f e.2).sum =
      (d.entries.map fun e => f e.2).sum + (l.map g).sum := by
  induction l generalizing d with
  | nil => simp
  | cons a rest ih =>
    rw [List.foldl_cons, ih, sum_insertWith adds, List.map_cons, List.sum_cons, add_assoc]

/-- **What is accumulated** adds up to what the elements add. -/
theorem sum_accumulate (adds : ∀ o a, f (upd o a) = (o.map f).getD 0 + g a) (l : List A) :
    ((accumulate key upd l).entries.map fun e => f e.2).sum = (l.map g).sum :=
  (sum_foldl_insertWith adds l empty).trans (zero_add _)

end Accumulate

section Keys

variable {K V A M : Type*} [DecidableEq K] [AddCommMonoid M]

/-- A sum over the items is a sum over any keys that include theirs. -/
theorem sum_entries_eq_sum_keys (d : Dict K V) (g : K → V → M) {ks : Finset K}
    (listed : ∀ k ∈ d.keys, k ∈ ks) : (d.entries.map fun e => g e.1 e.2).sum =
      ∑ k ∈ ks, ((d.get? k).map (g k)).getD 0 := by
  have own : (d.entries.map fun e => g e.1 e.2).sum =
      (d.keys.map fun k => ((d.get? k).map (g k)).getD 0).sum := by
    rw [show d.keys = d.entries.map Prod.fst from rfl, List.map_map]
    refine congrArg List.sum (List.map_congr_left fun e member => ?_)
    rw [Function.comp_apply, mem_entries_iff.1 member]
    rfl
  refine own.trans ((List.sum_toFinset _ d.nodup).symm.trans ?_)
  refine Finset.sum_subset (fun k member => listed k (List.mem_toFinset.1 member)) fun k _ absent => ?_
  rw [get?_none_iff.2 fun member => absent (List.mem_toFinset.2 member)]
  rfl

/-- The items under one key. -/
theorem sum_filter_key (d : Dict K V) (g : V → M) (k : K) :
    ((d.entries.filter fun e => e.1 = k).map fun e => g e.2).sum = ((d.get? k).map g).getD 0 := by
  have nodup := d.nodup
  revert nodup
  unfold get?
  induction d.entries with
  | nil => exact fun _ => rfl
  | cons e rest ih =>
    intro nodup
    obtain ⟨fresh, nodup⟩ := List.nodup_cons.1 nodup
    unfold lookupIn
    by_cases same : e.1 = k
    · have none : rest.filter (fun e => e.1 = k) = [] := by
        refine List.filter_eq_nil_iff.2 fun e' member also => fresh ?_
        rw [same, ← of_decide_eq_true also]
        exact List.mem_map_of_mem member
      rw [List.filter_cons_of_pos (by simpa using same), none, if_pos same]
      simp
    · rw [List.filter_cons_of_neg (by simpa using same), if_neg same]
      exact ih nodup

/-- What is gathered by adding. -/
theorem gather_add (g : A → M) (o : Option M) (l : List A) :
    (gather (fun total a => total.getD 0 + g a) o l).getD 0 = o.getD 0 + (l.map g).sum := by
  induction l generalizing o with
  | nil => simp [gather]
  | cons a rest ih =>
    rw [gather, List.foldl_cons]
    refine (ih _).trans ?_
    rw [List.map_cons, List.sum_cons, Option.getD_some, add_assoc]

end Keys

end Lib.Dict
