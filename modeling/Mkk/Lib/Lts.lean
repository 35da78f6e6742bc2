import Mathlib

/-!
# Runs of a labelled step function

A system is a step function `S → L → Option S`: `none` refuses the label. `Steps` is a
run that also meets a guard `G` before each of its steps, so "every run whose steps all
meet a condition" is `Steps step G`; the unguarded runs are `Steps step Free`. An
invariant is proved by one step lemma and `Steps.invariant`; a property of two points of
one run by `Steps.relates`. `runAll` executes a list of labels.
-/

namespace Lib.Lts

variable {S L : Type*} {step : S → L → Option S} {G G' : S → L → Prop}

/-- The guard every step meets. -/
def Free : S → L → Prop := fun _ _ => True

/-- The labels `ls` take `s` to the last state, and `G` holds before each step. -/
inductive Steps (step : S → L → Option S) (G : S → L → Prop) : S → List L → S → Prop where
  | nil (s : S) : Steps step G s [] s
  | cons {s t u : S} {l : L} {ls : List L} :
      G s l → step s l = some t → Steps step G t ls u → Steps step G s (l :: ls) u

/-- Execute a list of labels. -/
def runAll (step : S → L → Option S) (s : S) (ls : List L) : Option S := ls.foldlM step s

theorem Steps.single {s t : S} {l : L} (g : G s l) (h : step s l = some t) :
    Steps step G s [l] t :=
  .cons g h (.nil t)

theorem Steps.trans {s t u : S} {ls ks : List L} (h : Steps step G s ls t)
    (h' : Steps step G t ks u) : Steps step G s (ls ++ ks) u := by
  induction h with
  | nil => exact h'
  | cons g hs _ ih => exact .cons g hs (ih h')

/-- A guard may be weakened. -/
theorem Steps.mono {s t : S} {ls : List L} (h : Steps step G s ls t)
    (hG : ∀ s l, G s l → G' s l) : Steps step G' s ls t := by
  induction h with
  | nil => exact .nil _
  | cons g hs _ ih => exact .cons (hG _ _ g) hs ih

theorem Steps.free {s t : S} {ls : List L} (h : Steps step G s ls t) :
    Steps step Free s ls t :=
  h.mono fun _ _ _ => trivial

/-- **The invariant rule**: what each guarded step preserves, a guarded run preserves. -/
theorem Steps.invariant {P : S → Prop}
    (pres : ∀ s l t, P s → G s l → step s l = some t → P t)
    {s t : S} {ls : List L} (h : Steps step G s ls t) (hs : P s) : P t := by
  induction h with
  | nil => exact hs
  | cons g hst _ ih => exact ih (pres _ _ _ hs g hst)

/-- A reflexive and transitive relation that holds across each step holds across a run. -/
theorem Steps.relates {R : S → S → Prop} (refl : ∀ s, R s s)
    (trans : ∀ s t u, R s t → R t u → R s u)
    (pres : ∀ s l t, G s l → step s l = some t → R s t)
    {s t : S} {ls : List L} (h : Steps step G s ls t) : R s t := by
  induction h with
  | nil => exact refl _
  | cons g hst _ ih => exact trans _ _ _ (pres _ _ _ g hst) ih

/-- A label that is impossible once `P` holds does not occur from there on. -/
theorem Steps.countP_eq_zero {P : S → Prop} {win : L → Bool}
    (pres : ∀ s l t, P s → G s l → step s l = some t → P t ∧ win l = false)
    {s t : S} {ls : List L} (h : Steps step G s ls t) (hs : P s) : ls.countP win = 0 := by
  induction h with
  | nil => rfl
  | cons g hst _ ih =>
    obtain ⟨ht, lost⟩ := pres _ _ _ hs g hst
    rw [List.countP_cons_of_neg (by simp [lost])]
    exact ih ht

/-- A label that makes itself impossible occurs at most once. -/
theorem Steps.countP_le_one {P : S → Prop} {win : L → Bool}
    (after : ∀ s l t, step s l = some t → win l = true → P t)
    (pres : ∀ s l t, P s → G s l → step s l = some t → P t ∧ win l = false)
    {s t : S} {ls : List L} (h : Steps step G s ls t) : ls.countP win ≤ 1 := by
  induction h with
  | nil => exact Nat.zero_le 1
  | @cons _ _ _ l _ _ hst rest ih =>
    by_cases won : win l = true
    · rw [List.countP_cons_of_pos won, rest.countP_eq_zero pres (after _ _ _ hst won)]
    · rw [List.countP_cons_of_neg won]
      exact ih

theorem steps_of_runAll {s t : S} {ls : List L} (h : runAll step s ls = some t) :
    Steps step Free s ls t := by
  induction ls generalizing s with
  | nil =>
    simp only [runAll, List.foldlM_nil, Option.pure_def, Option.some.injEq] at h
    exact h ▸ .nil s
  | cons l ls ih =>
    simp only [runAll, List.foldlM_cons, Option.bind_eq_bind, Option.bind_eq_some_iff] at h
    obtain ⟨m, hm, hrest⟩ := h
    exact .cons trivial hm (ih hrest)

/-- A test that succeeds on an executed run gives a run whose last state passes it. -/
theorem exists_steps_of_any {s : S} {ls : List L} {p : S → Bool}
    (h : (runAll step s ls).any p = true) : ∃ t, Steps step Free s ls t ∧ p t = true := by
  cases hr : runAll step s ls with
  | none => rw [hr] at h; cases h
  | some t => rw [hr] at h; exact ⟨t, steps_of_runAll hr, h⟩

/-- Execute a list of labels as long as a test passes. -/
def runWhile (step : S → L → Option S) (test : S → L → Bool) (s : S) (ls : List L) : Option S :=
  runAll (fun s l => if test s l then step s l else none) s ls

/-- A run whose steps all pass a test that implies the guard is a guarded run. -/
theorem exists_guarded_steps_of_any {s : S} {ls : List L} (test : S → L → Bool) {p : S → Bool}
    (guard : ∀ s l, test s l = true → G s l) (h : (runWhile step test s ls).any p = true) :
    ∃ t, Steps step G s ls t ∧ p t = true := by
  obtain ⟨t, run, hp⟩ := exists_steps_of_any h
  refine ⟨t, ?_, hp⟩
  clear hp h
  induction run with
  | nil => exact .nil _
  | cons _ hs _ ih =>
    split at hs
    · rename_i ht
      exact .cons (guard _ _ ht) hs ih
    · cases hs

end Lib.Lts
