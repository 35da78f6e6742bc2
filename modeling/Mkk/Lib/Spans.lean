import Mathlib.Algebra.BigOperators.Group.Finset.Basic
import Mathlib.Algebra.BigOperators.Group.Finset.Piecewise
import Mathlib.Algebra.Order.Group.Defs

/-!
# Spans of grouped values

Values that come in groups, group after group and in order within each. The distance between the
smallest and the largest value of a group is what its neighbouring values add up to.
-/

namespace Lib

section Groups

variable {γ M : Type*} [DecidableEq γ] {e : γ × M} {l : List (γ × M)} {g : γ} {a : M}

/-- The values of a group. -/
def groupValues (l : List (γ × M)) (g : γ) : List M := (l.filter (·.1 = g)).map Prod.snd

theorem mem_groupValues : a ∈ groupValues l g ↔ (g, a) ∈ l := by
  unfold groupValues
  constructor
  · intro member
    obtain ⟨e, he, rfl⟩ := List.mem_map.1 member
    have same := (List.mem_filter.1 he).2
    obtain rfl : e.1 = g := by simpa using same
    exact (List.mem_filter.1 he).1
  · exact fun member => List.mem_map.2 ⟨_, List.mem_filter.2 ⟨member, by simp⟩, rfl⟩

theorem groupValues_cons_ne (other : e.1 ≠ g) : groupValues (e :: l) g = groupValues l g := by
  simp [groupValues, other]

end Groups

variable {γ M : Type*} [AddCommGroup M] [LinearOrder M] {l : List M} {a z : M}

/-- The distance between the smallest and the largest of some values. -/
def valueSpan (l : List M) : M := l.max?.getD 0 - l.min?.getD 0

theorem valueSpan_eq (low : a ∈ l) (least : ∀ b ∈ l, a ≤ b) (high : z ∈ l)
    (greatest : ∀ b ∈ l, b ≤ z) : valueSpan l = z - a := by
  unfold valueSpan
  rw [List.max?_eq_some_iff.2 ⟨high, greatest⟩, List.min?_eq_some_iff.2 ⟨low, least⟩]
  rfl

theorem valueSpan_perm {l l' : List M} (same : l.Perm l') : valueSpan l = valueSpan l' := by
  cases l with
  | nil => rw [List.nil_perm.1 same]
  | cons b rest =>
    obtain ⟨z, hz⟩ := Option.isSome_iff_exists.1
      (List.isSome_max?_of_mem (List.mem_cons_self : b ∈ b :: rest))
    obtain ⟨a, ha⟩ := Option.isSome_iff_exists.1
      (List.isSome_min?_of_mem (List.mem_cons_self : b ∈ b :: rest))
    obtain ⟨high, greatest⟩ := List.max?_eq_some_iff.1 hz
    obtain ⟨low, least⟩ := List.min?_eq_some_iff.1 ha
    rw [valueSpan_eq low least high greatest, valueSpan_eq (same.mem_iff.1 low)
      (fun c hc => least c (same.mem_iff.2 hc)) (same.mem_iff.1 high)
      fun c hc => greatest c (same.mem_iff.2 hc)]

variable [LinearOrder γ] {e f : γ × M} {l l' : List (γ × M)}

/-- The spans of all groups. -/
def groupSpans (l : List (γ × M)) : M :=
  ∑ g ∈ (l.map Prod.fst).toFinset, valueSpan (groupValues l g)

theorem groupSpans_perm (same : l.Perm l') : groupSpans l = groupSpans l' := by
  unfold groupSpans
  rw [List.toFinset_eq_of_perm _ _ (same.map Prod.fst)]
  exact Finset.sum_congr rfl fun g _ => valueSpan_perm ((same.filter _).map _)

/-- Group after group, and in order within each. -/
def Grouped (l : List (γ × M)) : Prop :=
  l.Pairwise fun e f => e.1 ≤ f.1 ∧ (e.1 = f.1 → e.2 ≤ f.2)

/-- What neighbouring values of one group add up to. -/
def groupSteps : List (γ × M) → M
  | e :: f :: rest => (if e.1 = f.1 then f.2 - e.2 else 0) + groupSteps (f :: rest)
  | _ => 0

/-- One more value before a group makes its span longer by the step to the next one. -/
theorem valueSpan_cons (h : Grouped (e :: f :: l)) (same : e.1 = f.1) :
    valueSpan (groupValues (e :: f :: l) e.1) =
      (f.2 - e.2) + valueSpan (groupValues (f :: l) e.1) := by
  have order := List.pairwise_cons.1 h
  have least : ∀ b ∈ groupValues (f :: l) e.1, e.2 ≤ b ∧ f.2 ≤ b := by
    intro b member
    have member := mem_groupValues.1 member
    refine ⟨(order.1 _ member).2 rfl, ?_⟩
    rcases List.mem_cons.1 member with rfl | later
    · exact le_rfl
    · exact ((List.pairwise_cons.1 order.2).1 _ later).2 same.symm
  have first : f.2 ∈ groupValues (f :: l) e.1 := mem_groupValues.2 (by rw [same]; simp)
  obtain ⟨z, hz⟩ := Option.isSome_iff_exists.1 (List.isSome_max?_of_mem first)
  obtain ⟨high, greatest⟩ := List.max?_eq_some_iff.1 hz
  have cons : groupValues (e :: f :: l) e.1 = e.2 :: groupValues (f :: l) e.1 := by
    simp [groupValues]
  rw [valueSpan_eq first (fun b hb => (least b hb).2) high greatest, cons,
    valueSpan_eq List.mem_cons_self (z := z)]
  · exact (sub_add_sub_cancel' f.2 e.2 z).symm
  · intro b member
    rcases List.mem_cons.1 member with rfl | later
    · exact le_rfl
    · exact (least b later).1
  · exact List.mem_cons_of_mem _ high
  · intro b member
    rcases List.mem_cons.1 member with rfl | later
    · exact (least z high).1
    · exact greatest b later

/-- **The steps within groups** add up to the spans of the groups. -/
theorem groupSteps_eq (h : Grouped l) : groupSteps l = groupSpans l := by
  induction l with
  | nil => rfl
  | cons e rest ih =>
    cases rest with
    | nil => simp [groupSteps, groupSpans, groupValues, valueSpan]
    | cons f rest =>
      rw [groupSteps, ih h.of_cons]
      unfold groupSpans
      by_cases same : e.1 = f.1
      · have groups : ((e :: f :: rest).map Prod.fst).toFinset = ((f :: rest).map Prod.fst).toFinset := by
          simp [same]
        have member : e.1 ∈ ((f :: rest).map Prod.fst).toFinset := by simp [same]
        rw [if_pos same, groups, ← Finset.add_sum_erase _ _ member, ← Finset.add_sum_erase _ _ member,
          valueSpan_cons h same, ← add_assoc]
        congr 1
        refine Finset.sum_congr rfl fun g hg => ?_
        rw [groupValues_cons_ne (Finset.ne_of_mem_erase hg).symm]
      · have fresh : e.1 ∉ ((f :: rest).map Prod.fst).toFinset := by
          rw [List.mem_toFinset, List.mem_map]
          rintro ⟨e', later, group⟩
          have order := List.pairwise_cons.1 h
          refine same (le_antisymm (order.1 f List.mem_cons_self).1 ?_)
          rcases List.mem_cons.1 later with rfl | later
          · exact group.le
          · exact ((List.pairwise_cons.1 order.2).1 e' later).1.trans group.le
        have alone : valueSpan (groupValues (e :: f :: rest) e.1) = 0 := by
          have none : groupValues (f :: rest) e.1 = [] := by
            refine List.eq_nil_iff_forall_not_mem.2 fun a member => fresh ?_
            exact List.mem_toFinset.2 (List.mem_map.2 ⟨_, mem_groupValues.1 member, rfl⟩)
          have cons : groupValues (e :: f :: rest) e.1 = e.2 :: groupValues (f :: rest) e.1 := by
            simp [groupValues]
          rw [cons, none]
          exact (valueSpan_eq List.mem_cons_self (by simp) List.mem_cons_self (by simp)).trans
            (sub_self e.2)
        have groups : ((e :: f :: rest).map Prod.fst).toFinset =
            insert e.1 ((f :: rest).map Prod.fst).toFinset := by rw [List.map_cons, List.toFinset_cons]
        rw [if_neg same, groups, Finset.sum_insert fresh, alone]
        congr 1
        refine Finset.sum_congr rfl fun g hg => ?_
        rw [groupValues_cons_ne (e := e)]
        rintro rfl
        exact fresh hg

/-- What a value adds to the one before it. -/
def stepAt (l : List (γ × M)) : ℕ → M
  | 0 => 0
  | k + 1 =>
    match l[k]?, l[k + 1]? with
    | some e, some f => if e.1 = f.1 then f.2 - e.2 else 0
    | _, _ => 0

theorem stepAt_nonneg [IsOrderedAddMonoid M] (h : Grouped l) (k : ℕ) : 0 ≤ stepAt l k := by
  cases k with
  | zero => exact le_rfl
  | succ k =>
    rw [stepAt]
    cases first : l[k]? with
    | none => exact le_rfl
    | some e =>
      cases second : l[k + 1]? with
      | none => exact le_rfl
      | some f =>
        dsimp only
        split
        · rename_i same
          obtain ⟨_, rfl⟩ := List.getElem?_eq_some_iff.1 first
          obtain ⟨_, rfl⟩ := List.getElem?_eq_some_iff.1 second
          exact sub_nonneg.2
            ((List.pairwise_iff_getElem.1 h k (k + 1) _ _ (Nat.lt_succ_self k)).2 same)
        · exact le_rfl

omit [LinearOrder M] in
theorem sum_stepAt (l : List (γ × M)) : ∑ k ∈ Finset.range l.length, stepAt l k = groupSteps l := by
  induction l with
  | nil => rfl
  | cons e rest ih =>
    cases rest with
    | nil => simp [stepAt, groupSteps]
    | cons f rest =>
      have later (k : ℕ) : stepAt (e :: f :: rest) (k + 1 + 1) = stepAt (f :: rest) (k + 1) := rfl
      rw [List.length_cons, Finset.sum_range_succ'] at ih
      rw [List.length_cons, List.length_cons, Finset.sum_range_succ', Finset.sum_range_succ', groupSteps,
        ← ih, Finset.sum_congr rfl fun k _ => later k]
      change _ + (if e.1 = f.1 then f.2 - e.2 else 0) + 0 = _ + (_ + 0)
      rw [add_zero, add_zero, add_comm]

end Lib
