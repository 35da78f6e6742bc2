import Mathlib.Order.Lattice
import Mathlib.Data.List.Basic

/-!
# Tilings of a range

A list of half-open ranges tiles `[low, high)` when each is inhabited and starts where the one before
ends, the first at `low`, and the last ends at `high`. Every point of the range then lies in exactly one
of them.
-/

namespace Lib

section
variable {α : Type*} [LinearOrder α] {low high x : α} {spans : List (α × α)}

/-- The ranges tile `[low, high)` in order. -/
def Tiles (high : α) : α → List (α × α) → Prop
  | low, [] => low = high
  | low, span :: rest => span.1 = low ∧ low < span.2 ∧ Tiles high span.2 rest

theorem Tiles.le (h : Tiles high low spans) : low ≤ high := by
  induction spans generalizing low with
  | nil => exact le_of_eq h
  | cons span rest ih =>
    obtain ⟨-, proper, tail⟩ := h
    exact proper.le.trans (ih tail)

/-- No range starts before the first. -/
theorem Tiles.low_le (h : Tiles high low spans) {span : α × α} (member : span ∈ spans) :
    low ≤ span.1 := by
  induction spans generalizing low with
  | nil => cases member
  | cons first rest ih =>
    obtain ⟨starts, proper, tail⟩ := h
    rcases List.mem_cons.1 member with rfl | member
    · exact starts.ge
    · exact proper.le.trans (ih tail member)

/-- No range ends beyond the last. -/
theorem Tiles.le_high (h : Tiles high low spans) {span : α × α} (member : span ∈ spans) :
    span.2 ≤ high := by
  induction spans generalizing low with
  | nil => cases member
  | cons first rest ih =>
    obtain ⟨starts, proper, tail⟩ := h
    rcases List.mem_cons.1 member with rfl | member
    · exact tail.le
    · exact ih tail member

/-- **Without gap or overlap.** Every point of the range lies in exactly one range of the tiling. -/
theorem Tiles.existsUnique (h : Tiles high low spans) (from_low : low ≤ x) (below : x < high) :
    ∃! k : ℕ, ∃ span : α × α, spans[k]? = some span ∧ span.1 ≤ x ∧ x < span.2 := by
  induction spans generalizing low with
  | nil => exact absurd (from_low.trans_lt below) (not_lt.2 (le_of_eq h.symm))
  | cons first rest ih =>
    obtain ⟨starts, -, tail⟩ := h
    rcases lt_or_ge x first.2 with inside | after
    · refine ⟨0, ⟨first, rfl, starts.trans_le from_low, inside⟩, ?_⟩
      rintro k ⟨span, found, reached, _⟩
      cases k with
      | zero => rfl
      | succ k =>
        have later := tail.low_le (List.mem_of_getElem? found)
        exact absurd inside (not_lt.2 (later.trans reached))
    · obtain ⟨k, ⟨span, found, reached, within⟩, only⟩ := ih tail after
      refine ⟨k + 1, ⟨span, found, reached, within⟩, ?_⟩
      rintro m ⟨span', found', reached', within'⟩
      cases m with
      | zero =>
        cases found'
        exact absurd within' (not_lt.2 after)
      | succ m => rw [only m ⟨span', found', reached', within'⟩]

end

end Lib
