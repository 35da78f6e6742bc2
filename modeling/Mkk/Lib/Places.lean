import Mathlib.Data.List.Basic

/-!
# Places of a list

Calls in progress are known by their place in a list: a call is added at the end, and a step changes
the one at its place.
-/

namespace Lib

variable {α : Type*} {l : List α} {a b : α} {i j : ℕ}

/-- What stands at a place after an addition stood there before or is the addition. -/
theorem getElem?_concat_cases (h : (l ++ [b])[i]? = some a) :
    l[i]? = some a ∨ i = l.length ∧ a = b := by
  rcases Nat.lt_or_ge i l.length with inside | beyond
  · rw [List.getElem?_append_left inside] at h
    exact .inl h
  · rw [List.getElem?_append_right beyond] at h
    obtain ⟨place, rfl⟩ := List.getElem?_eq_some_iff.1 h
    simp only [List.length_singleton, Nat.lt_one_iff] at place
    exact .inr ⟨by omega, by simp [place]⟩

/-- What stands at a place after a change was changed or stands as before. -/
theorem getElem?_modify_cases {f : α → α} (h : (l.modify j f)[i]? = some a) :
    ∃ b, l[i]? = some b ∧ a = if j = i then f b else b := by
  rw [List.getElem?_modify] at h
  obtain ⟨b, found, rfl⟩ := Option.map_eq_some_iff.1 h
  exact ⟨b, found, rfl⟩

section
variable {β : Type*} {g : α → β}

/-- A change that keeps what `g` reads keeps the list `g` reads. -/
theorem map_modify_of_keeps {f : α → α} (keeps : ∀ a, g (f a) = g a) :
    (l.modify j f).map g = l.map g := by
  refine List.ext_getElem? fun k => ?_
  rw [List.getElem?_map, List.getElem?_map, List.getElem?_modify]
  cases l[k]? with
  | none => rfl
  | some a =>
    simp only [Option.map_eq_map, Option.map_some, Option.some.injEq]
    split
    · exact keeps a
    · rfl

theorem map_mapIdx_of_keeps {f : ℕ → α → α} (keeps : ∀ i a, g (f i a) = g a) :
    (l.mapIdx f).map g = l.map g := by
  refine List.ext_getElem? fun k => ?_
  rw [List.getElem?_map, List.getElem?_map, List.getElem?_mapIdx, Option.map_map]
  cases l[k]? with
  | none => rfl
  | some a => exact congrArg some (keeps k a)

/-- What `g` reads at a place of one list it reads at that place of the other. -/
theorem getElem?_of_map_eq {l' : List α} (same : l'.map g = l.map g) (h : l[i]? = some a) :
    ∃ b, l'[i]? = some b ∧ g b = g a := by
  have read := congrArg (·[i]?) same
  simp only [List.getElem?_map, h, Option.map_some] at read
  exact Option.map_eq_some_iff.1 read

end

end Lib
