import Mathlib.Data.List.DropRight

/-!
# A bounded window

A queue that keeps the last `n` elements it was given: before one more is added to a full queue, its
first one is removed. `List.rtake` is what it holds.
-/

namespace Lib

variable {α : Type*} {l : List α} {a : α} {n i : ℕ}

/-- One more element in a queue of `n`. -/
def pushBounded (n : ℕ) (l : List α) (a : α) : List α :=
  (if l.length = n then l.tail else l) ++ [a]

theorem length_rtake : (l.rtake n).length = min n l.length := by
  unfold List.rtake
  rw [List.length_drop]
  omega

/-- What `n` elements followed is forgotten. -/
theorem rtake_cons (full : l.length = n) : (a :: l).rtake n = l := by
  unfold List.rtake
  rw [List.length_cons, full, Nat.add_sub_cancel_left]
  rfl

/-- The queue holds the last `n` elements. -/
theorem pushBounded_rtake (positive : 0 < n) : pushBounded n (l.rtake n) a = (l ++ [a]).rtake n := by
  unfold pushBounded
  rw [length_rtake]
  unfold List.rtake
  rw [List.length_append, List.length_singleton]
  split
  · rename_i full
    have long : n ≤ l.length := by omega
    rw [List.tail_drop, List.drop_append_of_le_length (by omega)]
    congr 2
    omega
  · rename_i short
    have few : l.length < n := by omega
    rw [Nat.sub_eq_zero_of_le few.le, Nat.sub_eq_zero_of_le (by omega), List.drop_zero, List.drop_zero]

/-- What was added less than `n` before is in the queue. -/
theorem mem_rtake (found : l[i]? = some a) (recent : l.length ≤ i + n) : a ∈ l.rtake n := by
  unfold List.rtake
  obtain ⟨inside, rfl⟩ := List.getElem?_eq_some_iff.1 found
  rw [List.mem_iff_getElem?]
  refine ⟨i - (l.length - n), ?_⟩
  rw [List.getElem?_drop, show l.length - n + (i - (l.length - n)) = i by omega]
  exact List.getElem?_eq_getElem inside

/-- A queue without repetitions stays so when what is added is not in it. -/
theorem nodup_pushBounded (nodup : l.Nodup) (fresh : a ∉ l) : (pushBounded n l a).Nodup := by
  have sub : List.Sublist (if l.length = n then l.tail else l) l := by
    split
    · exact List.tail_sublist l
    · exact .refl l
  unfold pushBounded
  rw [List.nodup_append]
  refine ⟨sub.nodup nodup, List.pairwise_singleton _ a, fun b member c same => ?_⟩
  rw [List.mem_singleton.1 same]
  rintro rfl
  exact fresh (sub.subset member)

end Lib
