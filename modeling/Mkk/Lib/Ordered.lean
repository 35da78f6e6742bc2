import Mkk.Lib.Recency
import Mkk.Lib.Sorting

/-!
# Lists and maps in order

A list that is sorted already stays as it is, and an insertion-ordered map becomes the map held in key
order. `Dict.ofPairs` is the map a list of members describes, of which the last with a key counts.
-/

namespace Lib

section

variable {α β K V : Type*} [LinearOrder β] [LinearOrder K]

theorem sortOn_eq_self {f : α → β} {l : List α} (sorted : l.Pairwise fun a b => f a ≤ f b) :
    sortOn f l = l :=
  sorted.insertionSort_eq

/-- The entries of a map in the order of their keys. -/
def SortedDict.ofDict (d : Dict K V) : SortedDict K V where
  entries := sortOn Prod.fst d.entries
  sorted := by
    have distinct : (sortOn Prod.fst d.entries).Pairwise fun a b => a.1 ≠ b.1 := by
      apply List.pairwise_map.1
      exact (((sortOn_perm Prod.fst d.entries).map Prod.fst).nodup_iff).2 d.nodup
    exact ((pairwise_sortOn Prod.fst d.entries).and distinct).imp fun both => lt_of_le_of_ne both.1 both.2

@[simp] theorem SortedDict.mem_ofDict {d : Dict K V} {e : K × V} :
    e ∈ (SortedDict.ofDict d).entries ↔ e ∈ d.entries := mem_sortOn

theorem SortedDict.ofDict_eq_nil {d : Dict K V} : (SortedDict.ofDict d).entries = [] ↔ d.entries = [] :=
  sortOn_eq_nil

namespace Dict

/-- The map of a list of members. -/
def ofPairs (l : List (K × V)) : Dict K V := l.foldl (fun d e => d.set e.1 e.2) empty

theorem mem_of_mem_foldl_set {l : List (K × V)} {d : Dict K V} {e : K × V}
    (member : e ∈ (l.foldl (fun d e => d.set e.1 e.2) d).entries) : e ∈ d.entries ∨ e ∈ l := by
  induction l generalizing d with
  | nil => exact .inl member
  | cons a rest ih =>
    rcases ih member with early | late
    · have found := mem_entries_iff.1 (show (e.1, e.2) ∈ _ from early)
      rw [get?_set] at found
      split_ifs at found with same
      · exact .inr (List.mem_cons.2 (.inl (Prod.ext same (Option.some.inj found).symm)))
      · exact .inl (mem_entries_iff.2 found)
    · exact .inr (List.mem_cons_of_mem _ late)

/-- A map has only members of its list. -/
theorem mem_of_mem_ofPairs {l : List (K × V)} {e : K × V} (member : e ∈ (ofPairs l).entries) : e ∈ l := by
  rcases mem_of_mem_foldl_set member with none | listed
  · cases none
  · exact listed

end Dict

end

end Lib
