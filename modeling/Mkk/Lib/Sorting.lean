import Mathlib

/-!
# Sorting by a key

`sortOn f` is the stable sort by a key function and `sortedSet` the increasing list of
the distinct members of a list. Both depend only on the members they sort
(`sortOn_eq_of_perm`, `sortedSet_eq_of_mem_iff`), which is what makes a computation over
a sorted list independent of the order its input arrived in. `SortedDict` is a finite map
held by its items in increasing key order, so that equal maps are equal values.
-/

namespace Lib

section SortOn

variable {α β : Type*} [LinearOrder β]

/-- The stable sort of `l` by the key `f`. -/
def sortOn (f : α → β) (l : List α) : List α := l.insertionSort fun a b => f a ≤ f b

theorem sortOn_perm (f : α → β) (l : List α) : (sortOn f l).Perm l :=
  List.perm_insertionSort _ l

@[simp] theorem mem_sortOn {f : α → β} {l : List α} {a : α} : a ∈ sortOn f l ↔ a ∈ l :=
  (sortOn_perm f l).mem_iff

@[simp] theorem length_sortOn (f : α → β) (l : List α) : (sortOn f l).length = l.length :=
  (sortOn_perm f l).length_eq

@[simp] theorem sortOn_nil (f : α → β) : sortOn f [] = [] := rfl

theorem sortOn_eq_nil {f : α → β} {l : List α} : sortOn f l = [] ↔ l = [] := by
  rw [← List.length_eq_zero_iff, length_sortOn, List.length_eq_zero_iff]

theorem pairwise_sortOn (f : α → β) (l : List α) :
    (sortOn f l).Pairwise fun a b => f a ≤ f b := by
  have : IsTrans α fun a b => f a ≤ f b := ⟨fun _ _ _ h h' => le_trans h h'⟩
  have : Std.Total fun a b : α => f a ≤ f b := ⟨fun a b => le_total (f a) (f b)⟩
  exact List.pairwise_insertionSort _ l

/-- The sorted list depends on the members only, when the key separates them. -/
theorem sortOn_eq_of_perm {f : α → β} {l l' : List α} (h : l.Perm l')
    (inj : ∀ a ∈ l, ∀ b ∈ l, f a = f b → a = b) : sortOn f l = sortOn f l' := by
  refine List.Perm.eq_of_pairwise ?_ (pairwise_sortOn f l) (pairwise_sortOn f l')
    ((sortOn_perm f l).trans (h.trans (sortOn_perm f l').symm))
  intro a b ha hb hab hba
  exact inj a (mem_sortOn.1 ha) b (h.mem_iff.2 (mem_sortOn.1 hb)) (le_antisymm hab hba)

end SortOn

section SortedSet

variable {α : Type*} [LinearOrder α]

/-- `sorted(set(l))`. -/
def sortedSet (l : List α) : List α := sortOn id l.dedup

@[simp] theorem mem_sortedSet {l : List α} {a : α} : a ∈ sortedSet l ↔ a ∈ l := by
  simp [sortedSet]

theorem nodup_sortedSet (l : List α) : (sortedSet l).Nodup :=
  (sortOn_perm id l.dedup).nodup_iff.2 l.nodup_dedup

theorem length_sortedSet (l : List α) : (sortedSet l).length = l.dedup.length := by
  simp [sortedSet]

theorem sortedSet_eq_nil {l : List α} : sortedSet l = [] ↔ l = [] := by
  rw [sortedSet, sortOn_eq_nil, List.dedup_eq_nil]

/-- Only the members count. -/
theorem sortedSet_eq_of_mem_iff {l l' : List α} (h : ∀ a, a ∈ l ↔ a ∈ l') :
    sortedSet l = sortedSet l' := by
  apply sortOn_eq_of_perm _ fun a _ b _ e => e
  exact (List.perm_ext_iff_of_nodup l.nodup_dedup l'.nodup_dedup).2 fun a => by simp [h]

/-- A list of distinct members sorts to a list of the same length. -/
theorem length_sortedSet_of_nodup {l : List α} (h : l.Nodup) : (sortedSet l).length = l.length := by
  rw [length_sortedSet, h.dedup]

end SortedSet

/-- A finite map by its items in increasing key order. -/
structure SortedDict (K V : Type*) [LinearOrder K] where
  entries : List (K × V)
  sorted : entries.Pairwise fun a b => a.1 < b.1
  deriving DecidableEq

namespace SortedDict

variable {K V : Type*} [LinearOrder K]

def empty : SortedDict K V := ⟨[], List.Pairwise.nil⟩

instance : Inhabited (SortedDict K V) := ⟨empty⟩

/-- A key has one entry at most. -/
theorem length_filter_le_one (d : SortedDict K V) (k : K) :
    (d.entries.filter fun e => e.1 = k).length ≤ 1 := by
  have increasing := d.sorted.filter fun e => decide (e.1 = k)
  have own : ∀ e ∈ d.entries.filter (fun e => decide (e.1 = k)), e.1 = k :=
    fun e listed => of_decide_eq_true (List.mem_filter.1 listed).2
  revert increasing own
  generalize d.entries.filter (fun e => decide (e.1 = k)) = l
  intro increasing own
  match l with
  | [] => exact Nat.zero_le _
  | [_] => exact le_rfl
  | a :: b :: _ =>
    have less := (List.pairwise_cons.1 increasing).1 b List.mem_cons_self
    rw [own a List.mem_cons_self, own b (List.mem_cons_of_mem _ List.mem_cons_self)] at less
    exact absurd less (lt_irrefl k)

end SortedDict

end Lib
