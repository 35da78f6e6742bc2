import Mathlib.Data.List.Rotate
import Mathlib.Algebra.Ring.Parity

/-!
# Edges of a closed chain

The edges of a list whose last element comes before its first one. Where the chain begins only changes
their order, and walked the other way round each edge has its ends swapped. A fold that negates a Boolean
at some elements counts them up to parity.
-/

namespace Lib

variable {α : Type*} {a b : α} {l : List α}

/-- The edges of a chain that begins with `a`. -/
def chainEdges (a : α) : List α → List (α × α)
  | [] => []
  | b :: rest => (a, b) :: chainEdges b rest

/-- The edges of a closed chain, from the one that ends at its first element on. -/
def closedEdges (l : List α) : List (α × α) :=
  match l.getLast? with
  | none => []
  | some last => chainEdges last l

theorem closedEdges_cons : closedEdges (a :: l) =
    ((a :: l).getLast (List.cons_ne_nil a l), a) :: chainEdges a l := by
  unfold closedEdges
  rw [List.getLast?_eq_some_getLast (List.cons_ne_nil a l)]
  rfl

theorem chainEdges_concat : chainEdges a (l ++ [b]) =
    chainEdges a l ++ [((a :: l).getLast (List.cons_ne_nil a l), b)] := by
  induction l generalizing a with
  | nil => rfl
  | cons c rest ih =>
    rw [List.cons_append, chainEdges, chainEdges, ih, List.cons_append,
      List.getLast_cons (List.cons_ne_nil c rest)]

/-- The chain begins one element later. -/
theorem closedEdges_concat : (closedEdges (l ++ [a])).Perm (closedEdges (a :: l)) := by
  have last : (l ++ [a]).getLast? = some a := List.getLast?_concat
  have moved : closedEdges (l ++ [a]) = chainEdges a (l ++ [a]) := by
    unfold closedEdges
    rw [last]
  rw [moved, chainEdges_concat, closedEdges_cons]
  exact List.perm_append_singleton _ _

/-- **Where a closed chain begins does not matter.** -/
theorem closedEdges_rotate (n : ℕ) : (closedEdges (l.rotate n)).Perm (closedEdges l) := by
  induction n generalizing l with
  | zero => rw [List.rotate_zero]
  | succ n ih =>
    cases l with
    | nil => rw [List.rotate_nil]
    | cons a rest =>
      rw [List.rotate_cons_succ]
      exact ih.trans closedEdges_concat

/-- A chain walked from its end. -/
theorem chainEdges_reverse : chainEdges ((a :: l).getLast (List.cons_ne_nil a l)) (a :: l).dropLast.reverse =
    ((chainEdges a l).map Prod.swap).reverse := by
  induction l using List.reverseRecOn with
  | nil => rfl
  | append_singleton rest b ih =>
    have last : (a :: (rest ++ [b])).getLast (List.cons_ne_nil _ _) = b := by simp
    have front : (a :: (rest ++ [b])).dropLast = a :: rest := by
      rw [← List.cons_append, List.dropLast_concat]
    have turned : (a :: rest).reverse =
        (a :: rest).getLast (List.cons_ne_nil _ _) :: (a :: rest).dropLast.reverse := by
      rw [← List.reverse_concat', List.dropLast_append_getLast]
    rw [last, front, turned, chainEdges, ih, chainEdges_concat, List.map_append, List.reverse_append]
    rfl

/-- **Walked the other way round, a closed chain has its edges swapped.** -/
theorem closedEdges_reverse : (closedEdges l.reverse).Perm ((closedEdges l).map Prod.swap) := by
  cases l with
  | nil => exact .nil
  | cons a rest =>
    have turned : (a :: rest).reverse =
        (a :: rest).getLast (List.cons_ne_nil _ _) :: (a :: rest).dropLast.reverse := by
      rw [← List.reverse_concat', List.dropLast_append_getLast]
    have last : (a :: rest).reverse.getLast? = some a := by simp
    have edges : closedEdges (a :: rest).reverse = chainEdges a (a :: rest).reverse := by
      unfold closedEdges
      rw [last]
    rw [edges, turned, chainEdges, chainEdges_reverse, closedEdges_cons, List.map_cons]
    exact (List.reverse_perm _).cons _

/-- One more element that is counted negates the parity. -/
theorem odd_countP_cons (p : α → Bool) (inside : Bool) :
    (inside != decide (Odd ((a :: l).countP p))) =
      ((if p a then !inside else inside) != decide (Odd (l.countP p))) := by
  rw [List.countP_cons]
  cases p a with
  | false => rfl
  | true =>
    have flip : decide (Odd (l.countP p + 1)) = !decide (Odd (l.countP p)) := by
      rw [← decide_not]
      exact decide_eq_decide.2 (by rw [Nat.odd_add_one])
    simp only [if_true, flip]
    cases inside <;> cases decide (Odd (l.countP p)) <;> rfl

end Lib
