import Mathlib

/-!
# Relational tables

A `Table` is a list of rows that meets its `Schema`: a check on every row, unique indexes
and a foreign key. `clash` says that two rows hold the same key of a unique index, so an
index over some of the rows only is one that other rows never clash in. A statement whose
result breaks the schema is refused and leaves the table as it was; `insertNew` skips a row
that clashes with one of the table.
-/

namespace Lib

/-- What a table demands of its rows. -/
structure Schema (R : Type*) where
  check : R → Bool
  references : R → Bool
  clash : R → R → Bool
  symm : ∀ a b, clash a b = clash b a

/-- The constraint a statement broke. -/
inductive Violation where
  | check | unique | foreignKey
  deriving DecidableEq, Repr

variable {R : Type*} {σ : Schema R}

/-- A row on its own meets the schema. -/
def Schema.Admits (σ : Schema R) (r : R) : Prop := σ.check r = true ∧ σ.references r = true

instance (r : R) : Decidable (σ.Admits r) := inferInstanceAs (Decidable (_ ∧ _))

/-- Rows that meet a schema. -/
structure Table (σ : Schema R) where
  rows : List R
  admitted : ∀ r ∈ rows, σ.Admits r
  unique : rows.Pairwise fun a b => σ.clash a b = false

namespace Table

/-- The table without rows. -/
def empty : Table σ := ⟨[], fun _ h => (List.not_mem_nil h).elim, .nil⟩

/-- The table of the given rows, when they meet the schema. -/
def commit (rows : List R) : Except Violation (Table σ) :=
  if ha : ∀ r ∈ rows, σ.Admits r then
    if hu : rows.Pairwise fun a b => σ.clash a b = false then .ok ⟨rows, ha, hu⟩
    else .error .unique
  else if ∀ r ∈ rows, σ.check r = true then .error .foreignKey
  else .error .check

/-- `UPDATE … SET f WHERE p` -/
def update (t : Table σ) (p : R → Bool) (f : R → R) : Except Violation (Table σ) :=
  commit (t.rows.map fun r => if p r then f r else r)

/-- `DELETE … WHERE p` -/
def delete (t : Table σ) (p : R → Bool) : Table σ where
  rows := t.rows.filter fun r => !p r
  admitted r h := t.admitted r (List.mem_of_mem_filter h)
  unique := t.unique.filter _

/-- `SELECT count(*) … WHERE p` -/
def count (t : Table σ) (p : R → Bool) : ℕ := t.rows.countP p

/-- Some row of the table clashes with the row. -/
def conflicts (t : Table σ) (r : R) : Bool := t.rows.any fun old => σ.clash old r

/-- `INSERT … ON CONFLICT DO NOTHING`; the flag says whether the row went in. The check is
evaluated before the conflict is looked for, the foreign key only for a row that goes in. -/
def insertNew (t : Table σ) (r : R) : Except Violation (Bool × Table σ) :=
  if σ.check r = false then .error .check
  else if hc : t.conflicts r = true then .ok (false, t)
  else if hr : σ.Admits r then .ok (true, {
    rows := t.rows ++ [r]
    admitted := by
      intro x hx
      rcases List.mem_append.1 hx with hx | hx
      · exact t.admitted x hx
      · rw [List.mem_singleton.1 hx]
        exact hr
    unique := by
      refine List.pairwise_append.2 ⟨t.unique, List.pairwise_singleton _ _, ?_⟩
      intro a ha b hb
      rw [List.mem_singleton.1 hb]
      simp only [conflicts, Bool.not_eq_true, List.any_eq_false] at hc
      exact hc a ha })
  else .error .foreignKey

section Rules

variable {t t' : Table σ} {p : R → Bool} {f : R → R} {r : R}

/-- Two rows that clash are one row. -/
theorem eq_of_clash {a b : R} (ha : a ∈ t.rows) (hb : b ∈ t.rows) (h : σ.clash a b = true) :
    a = b := by
  by_contra ne
  have symm : Std.Symm fun a b => σ.clash a b = false := by
    constructor
    intro x y hxy
    rw [σ.symm]
    exact hxy
  have apart := t.unique.forall ha hb ne
  rw [h] at apart
  cases apart

theorem rows_of_commit {rows : List R} (h : commit rows = .ok t) : t.rows = rows := by
  unfold commit at h
  split at h
  · split at h
    · cases h
      rfl
    · cases h
  · split at h <;> cases h

/-- **The rule of `UPDATE`**: the rows it leaves. -/
theorem rows_of_update (h : t.update p f = .ok t') :
    t'.rows = t.rows.map fun r => if p r then f r else r :=
  rows_of_commit h

/-- The rows an `UPDATE` leaves are the others and the changed ones. -/
theorem mem_update (h : t.update p f = .ok t') :
    r ∈ t'.rows ↔ (r ∈ t.rows ∧ p r = false) ∨ ∃ old ∈ t.rows, p old = true ∧ r = f old := by
  rw [rows_of_update h, List.mem_map]
  constructor
  · rintro ⟨old, hold, rfl⟩
    by_cases hp : p old = true
    · rw [if_pos hp]
      exact .inr ⟨old, hold, hp, rfl⟩
    · rw [if_neg hp]
      exact .inl ⟨hold, by simpa using hp⟩
  · rintro (⟨hr, hp⟩ | ⟨old, hold, hp, rfl⟩)
    · exact ⟨r, hr, by simp [hp]⟩
    · exact ⟨old, hold, by simp [hp]⟩

theorem mem_delete : r ∈ (t.delete p).rows ↔ r ∈ t.rows ∧ p r = false := by
  simp [delete]

/-- **The rule of `INSERT`**: the row was skipped, or it was new and went in. -/
theorem insertNew_cases {inserted : Bool} (h : t.insertNew r = .ok (inserted, t')) :
    (inserted = false ∧ t.conflicts r = true ∧ t' = t) ∨
      (inserted = true ∧ t.conflicts r = false ∧ t'.rows = t.rows ++ [r]) := by
  unfold insertNew at h
  split at h
  · cases h
  · split at h
    · rename_i hc
      cases h
      exact .inl ⟨rfl, hc, rfl⟩
    · rename_i hc
      split at h
      · cases h
        exact .inr ⟨rfl, by simpa using hc, rfl⟩
      · cases h

end Rules

end Table

end Lib
