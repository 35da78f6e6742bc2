import Mathlib.Tactic.Common

/-!
# Pre- and postconditions of stateful programs

A program on a state that may raise: from a state with the precondition it returns into the
postcondition, or raises into the condition for exceptions. An exception keeps the state it was raised
in.
-/

namespace Lib

/-- `x` from a state with `P` returns into `Q` or raises into `E`. -/
def Triple {ε σ α : Type} (P : σ → Prop) (x : EStateM ε σ α) (Q : α → σ → Prop) (E : ε → σ → Prop) :
    Prop :=
  ∀ s, P s → match x.run s with
    | .ok a s' => Q a s'
    | .error e s' => E e s'

/-- The state a program leaves, also when it raises. -/
def leftBy {ε σ α : Type} : EStateM.Result ε σ α → σ
  | .ok _ s => s
  | .error _ s => s

/-- What a program returns, unless it raises. -/
def returnedBy {ε σ α : Type} : EStateM.Result ε σ α → Option α
  | .ok a _ => some a
  | .error _ _ => none

namespace Triple

variable {ε σ α β : Type} {P P' : σ → Prop} {Q Q' : α → σ → Prop} {R : β → σ → Prop}
  {E E' : ε → σ → Prop} {x : EStateM ε σ α} {f : α → EStateM ε σ β}

theorem ok {s s' : σ} {a : α} (h : Triple P x Q E) (holds : P s) (ran : x.run s = .ok a s') : Q a s' := by
  have := h s holds
  rwa [ran] at this

theorem error {s s' : σ} {e : ε} (h : Triple P x Q E) (holds : P s) (ran : x.run s = .error e s') :
    E e s' := by
  have := h s holds
  rwa [ran] at this

/-- What holds however a program ends. -/
theorem left {I : σ → Prop} {s : σ} (h : Triple P x (fun _ => I) fun _ => I) (holds : P s) :
    I (leftBy (x.run s)) := by
  cases ran : x.run s with
  | ok a s' => exact h.ok holds ran
  | error e s' => exact h.error holds ran

/-- What holds of the result, whenever there is one. -/
theorem returned {G : α → Prop} {s : σ} {a : α} (h : Triple P x (fun a _ => G a) E) (holds : P s)
    (result : returnedBy (x.run s) = some a) : G a := by
  cases ran : x.run s with
  | ok b s' =>
    rw [ran] at result
    exact Option.some.inj result ▸ h.ok holds ran
  | error e s' =>
    rw [ran] at result
    exact absurd result nofun

theorem weaken (h : Triple P x Q E) (pre : ∀ s, P' s → P s) (post : ∀ a s, Q a s → Q' a s)
    (raise : ∀ e s, E e s → E' e s) : Triple P' x Q' E' := by
  intro s holds
  cases ran : x.run s with
  | ok a s' => exact post a s' (h.ok (pre s holds) ran)
  | error e s' => exact raise e s' (h.error (pre s holds) ran)

theorem before (h : Triple P x Q E) (pre : ∀ s, P' s → P s) : Triple P' x Q E :=
  h.weaken pre (fun _ _ q => q) fun _ _ e => e

theorem pure {a : α} (h : ∀ s, P s → Q a s) : Triple P (Pure.pure a : EStateM ε σ α) Q E :=
  fun s holds => h s holds

theorem throw {e : ε} (h : ∀ s, P s → E e s) : Triple P (throw e : EStateM ε σ α) Q E :=
  fun s holds => h s holds

theorem bind (first : Triple P x Q E) (rest : ∀ a, Triple (Q a) (f a) R E) : Triple P (x >>= f) R E := by
  intro s holds
  rw [EStateM.run_bind]
  cases ran : x.run s with
  | ok a s' => exact rest a s' (first.ok holds ran)
  | error e s' => exact first.error holds ran

/-- A program that reads the state first. -/
theorem read {f : σ → EStateM ε σ β} (h : ∀ s, P s → Triple (· = s) (f s) R E) :
    Triple P (get >>= f) R E :=
  fun s holds => h s holds s rfl

theorem modify {g : σ → σ} {Q : PUnit → σ → Prop} (h : ∀ s, P s → Q ⟨⟩ (g s)) :
    Triple P (modify g : EStateM ε σ PUnit) Q E :=
  fun s holds => h s holds

theorem ite {c : Prop} [Decidable c] {y : EStateM ε σ α} (yes : c → Triple P x Q E)
    (no : ¬c → Triple P y Q E) : Triple P (if c then x else y) Q E := by
  by_cases h : c
  · rw [if_pos h]
    exact yes h
  · rw [if_neg h]
    exact no h

/-- What is known beside the state. -/
theorem assuming {c : Prop} (h : c → Triple P x Q E) : Triple (fun s => c ∧ P s) x Q E :=
  fun s holds => h holds.1 s holds.2

/-- A precondition about something that exists. -/
theorem forSome {γ : Type} {P : γ → σ → Prop} (h : ∀ c, Triple (P c) x Q E) :
    Triple (fun s => ∃ c, P c s) x Q E :=
  fun s ⟨c, holds⟩ => h c s holds

/-- A loop that keeps an invariant, each of whose results is what its element asks for. -/
theorem mapM {f : α → EStateM ε σ β} {R : α → β → Prop} (l : List α)
    (step : ∀ a ∈ l, Triple P (f a) (fun b s => R a b ∧ P s) E) :
    Triple P (l.mapM f) (fun bs s => List.Forall₂ R l bs ∧ P s) E := by
  induction l with
  | nil => exact Triple.pure fun _ holds => ⟨.nil, holds⟩
  | cons a rest ih =>
    rw [List.mapM_cons]
    refine (step a List.mem_cons_self).bind fun b => Triple.assuming fun first => ?_
    refine (ih fun a' member => step a' (List.mem_cons_of_mem _ member)).bind fun bs => ?_
    exact Triple.assuming fun later => Triple.pure fun _ holds => ⟨.cons first later, holds⟩

end Triple

end Lib
