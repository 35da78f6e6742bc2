import Mathlib.Logic.Basic

/-!
# What a computation raises

`RaisesOnly P x` says that every error of `x` satisfies `P`. A bind raises only such errors exactly
when its first part does and its second part does on what the first returns, and a loop raises what its
body raises first, so the statement about a whole program reduces to one about each of its operations.
-/

namespace Lib

section
variable {ε α β : Type} {x : Except ε α} {f : α → Except ε β} {P : ε → Prop} {e : ε} {a : α}

theorem bind_eq_error_iff : x >>= f = .error e ↔ x = .error e ∨ ∃ a, x = .ok a ∧ f a = .error e := by
  cases x with
  | error e' =>
    refine ⟨fun h => .inl ?_, fun h => ?_⟩
    · cases h
      rfl
    · rcases h with h | ⟨_, h, _⟩
      · cases h
        rfl
      · cases h
  | ok a =>
    refine ⟨fun h => .inr ⟨a, rfl, h⟩, fun h => ?_⟩
    rcases h with h | ⟨b, same, h⟩
    · cases h
    · cases same
      exact h

/-- Every error of the computation is one of these. -/
def RaisesOnly (P : ε → Prop) (x : Except ε α) : Prop := ∀ e, x = .error e → P e

theorem raisesOnly_ok : RaisesOnly P (.ok a : Except ε α) := nofun

theorem raisesOnly_error_iff : RaisesOnly P (.error e : Except ε α) ↔ P e := by
  refine ⟨fun h => h e rfl, fun h e' same => ?_⟩
  cases same
  exact h

theorem raisesOnly_bind_iff :
    RaisesOnly P (x >>= f) ↔ RaisesOnly P x ∧ ∀ a, x = .ok a → RaisesOnly P (f a) := by
  constructor
  · intro only
    exact ⟨fun e raised => only e (bind_eq_error_iff.2 (.inl raised)), fun a returned e raised =>
      only e (bind_eq_error_iff.2 (.inr ⟨a, returned, raised⟩))⟩
  · rintro ⟨first, rest⟩ e raised
    rcases bind_eq_error_iff.1 raised with raised | ⟨a, returned, raised⟩
    · exact first e raised
    · exact rest a returned e raised

theorem RaisesOnly.bind (first : RaisesOnly P x) (rest : ∀ a, x = .ok a → RaisesOnly P (f a)) :
    RaisesOnly P (x >>= f) :=
  raisesOnly_bind_iff.2 ⟨first, rest⟩

/-! ## Loops -/

variable {g : α → Except ε Unit} {l : List α}

theorem forM_eq_ok_iff : forM l g = .ok () ↔ ∀ a ∈ l, g a = .ok () := by
  induction l with
  | nil => exact ⟨fun _ => nofun, fun _ => rfl⟩
  | cons a rest ih =>
    rw [List.forM_cons, List.forall_mem_cons, ← ih]
    cases g a with
    | ok _ => exact ⟨fun h => ⟨rfl, h⟩, fun h => h.2⟩
    | error e => exact ⟨nofun, fun h => nomatch h.1⟩

/-- A loop raises what its body raises first. -/
theorem forM_eq_error_iff : forM l g = .error e ↔
    ∃ before a after, l = before ++ a :: after ∧ (∀ b ∈ before, g b = .ok ()) ∧ g a = .error e := by
  induction l with
  | nil => exact ⟨nofun, fun ⟨before, a, after, same, _⟩ => by cases before <;> cases same⟩
  | cons a rest ih =>
    rw [List.forM_cons, bind_eq_error_iff]
    constructor
    · rintro (raised | ⟨_, returned, raised⟩)
      · exact ⟨[], a, rest, rfl, nofun, raised⟩
      · obtain ⟨before, b, after, rfl, passed, raised⟩ := ih.1 raised
        exact ⟨a :: before, b, after, rfl, List.forall_mem_cons.2 ⟨returned, passed⟩, raised⟩
    · rintro ⟨before, b, after, same, passed, raised⟩
      cases before with
      | nil =>
        cases same
        exact .inl raised
      | cons first before =>
        cases same
        obtain ⟨returned, passed⟩ := List.forall_mem_cons.1 passed
        exact .inr ⟨(), returned, ih.2 ⟨before, b, after, rfl, passed, raised⟩⟩

end

end Lib
