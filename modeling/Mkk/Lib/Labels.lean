import Mathlib.Data.List.Basic

/-!
# Labelled groups

Values that stand one group after the other, with the number of its group beside each value. A mask on the
labels selects whole groups: one of them (`masked_own`), or all but one (`masked_others`).
-/

namespace Lib

variable {α β : Type*}

/-- The label of each value, for groups of these sizes numbered from `first`. -/
def labelsFrom (first : ℕ) : List ℕ → List ℕ
  | [] => []
  | count :: rest => List.replicate count first ++ labelsFrom (first + 1) rest

/-- The values whose label the mask selects. -/
def masked (mask : ℕ → Bool) (labels : List ℕ) (values : List α) : List α :=
  ((values.zip labels).filter fun v => mask v.2).map Prod.fst

theorem masked_append {mask : ℕ → Bool} {labels labels' : List ℕ} {values values' : List α}
    (same : values.length = labels.length) : masked mask (labels ++ labels') (values ++ values') =
      masked mask labels values ++ masked mask labels' values' := by
  unfold masked
  rw [List.zip_append same, List.filter_append, List.map_append]

/-- A group is selected as a whole or not at all. -/
theorem masked_replicate (mask : ℕ → Bool) (label : ℕ) (values : List α) :
    masked mask (List.replicate values.length label) values = if mask label then values else [] := by
  induction values with
  | nil => exact (ite_self []).symm
  | cons v rest ih =>
    unfold masked at ih ⊢
    rw [List.length_cons, List.replicate_succ, List.zip_cons_cons]
    by_cases selected : mask label = true
    · rw [if_pos selected] at ih ⊢
      rw [List.filter_cons, if_pos selected, List.map_cons, ih]
    · rw [if_neg selected] at ih ⊢
      rw [List.filter_cons, if_neg selected, ih]

theorem masked_flatten_cons (mask : ℕ → Bool) (first : ℕ) (group : List α) (rest : List (List α)) :
    masked mask (labelsFrom first ((group :: rest).map List.length)) (group :: rest).flatten =
      (if mask first then group else []) ++
        masked mask (labelsFrom (first + 1) (rest.map List.length)) rest.flatten := by
  rw [List.map_cons, labelsFrom, List.flatten_cons, masked_append (List.length_replicate).symm,
    masked_replicate]

/-- A mask that selects nothing from some label on. -/
theorem masked_none {mask : ℕ → Bool} {first : ℕ} (groups : List (List α))
    (none : ∀ label, first ≤ label → mask label = false) :
    masked mask (labelsFrom first (groups.map List.length)) groups.flatten = [] := by
  induction groups generalizing first with
  | nil => rfl
  | cons group rest ih =>
    rw [masked_flatten_cons, none first (Nat.le_refl first), ih fun label le => none label (Nat.le_of_succ_le le)]
    rfl

/-- A mask that selects everything from some label on. -/
theorem masked_all {mask : ℕ → Bool} {first : ℕ} (groups : List (List α))
    (all : ∀ label, first ≤ label → mask label = true) :
    masked mask (labelsFrom first (groups.map List.length)) groups.flatten = groups.flatten := by
  induction groups generalizing first with
  | nil => rfl
  | cons group rest ih =>
    rw [masked_flatten_cons, if_pos (all first (Nat.le_refl first)),
      ih fun label le => all label (Nat.le_of_succ_le le), List.flatten_cons]

/-- **The group of a label.** -/
theorem masked_own (groups : List (List α)) (first held : ℕ) :
    masked (fun label => !(label != first + held)) (labelsFrom first (groups.map List.length)) groups.flatten =
      groups[held]?.getD [] := by
  induction groups generalizing first held with
  | nil => rfl
  | cons group rest ih =>
    rw [masked_flatten_cons]
    cases held with
    | zero =>
      rw [masked_none rest fun label le => by
        rw [Bool.not_eq_false', bne_iff_ne]
        omega]
      simp
    | succ held =>
      have next := ih (first + 1) held
      rw [Nat.add_right_comm, Nat.add_assoc] at next
      rw [next]
      simp

/-- **The groups of the other labels.** -/
theorem masked_others (groups : List (List α)) (first held : ℕ) :
    masked (fun label => label != first + held) (labelsFrom first (groups.map List.length)) groups.flatten =
      (groups.eraseIdx held).flatten := by
  induction groups generalizing first held with
  | nil => rfl
  | cons group rest ih =>
    rw [masked_flatten_cons]
    cases held with
    | zero =>
      rw [masked_all rest fun label le => by
        rw [bne_iff_ne]
        omega]
      simp
    | succ held =>
      have next := ih (first + 1) held
      rw [Nat.add_right_comm, Nat.add_assoc] at next
      rw [next]
      simp

end Lib
