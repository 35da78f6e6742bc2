import Mathlib.Algebra.BigOperators.Group.Finset.Basic
import Mathlib.Algebra.BigOperators.Group.Finset.Piecewise
import Mathlib.Algebra.Order.BigOperators.Group.Finset
import Mathlib.Data.Nat.Count

/-!
# Runs of a labelled sequence

Positions carry labels, and between two positions there may be a cut. A run is a stretch of
positions with one label and no cut inside. One pass that keeps the run it is in finds
exactly the maximal runs, in their order; the time spent in them is the time between
neighbouring positions that continue each other.
-/

namespace Lib

/-- Consecutive positions of one label. -/
structure Run (α : Type*) where
  label : α
  first : ℕ
  last : ℕ
  deriving DecidableEq

/-- What each position is about, and whether there is a cut between it and the one before. -/
structure Labelling (α : Type*) where
  label : ℕ → Option α
  cut : ℕ → Bool

namespace Labelling

variable {α : Type*} (L : Labelling α) {n k : ℕ} {a : α} {r s : Run α}

/-- The label of the position before; there is none before the first one. -/
def before : ℕ → Option α
  | 0 => none
  | k + 1 => L.label k

/-- A run among the first `n` positions. -/
structure IsRun (n : ℕ) (r : Run α) : Prop where
  forward : r.first ≤ r.last
  inside : r.last < n
  labelled : ∀ k, r.first ≤ k → k ≤ r.last → L.label k = some r.label
  uncut : ∀ k, r.first < k → k ≤ r.last → L.cut k = false

/-- A run that no other run contains. -/
structure IsMaximal (n : ℕ) (r : Run α) : Prop where
  isRun : L.IsRun n r
  maximal : ∀ s, L.IsRun n s → s.first ≤ r.first → r.last ≤ s.last → s = r

variable {L}

theorem IsRun.mono {m : ℕ} (h : L.IsRun n r) (le : n ≤ m) : L.IsRun m r :=
  { h with inside := lt_of_lt_of_le h.inside le }

/-- Two runs that share a position join into one. -/
theorem IsRun.join (h : L.IsRun n r) (h' : L.IsRun n s) (low : r.first ≤ k) (high : k ≤ r.last)
    (low' : s.first ≤ k) (high' : k ≤ s.last) :
    r.label = s.label ∧ L.IsRun n ⟨r.label, min r.first s.first, max r.last s.last⟩ := by
  have same : r.label = s.label :=
    Option.some.inj ((h.labelled k low high).symm.trans (h'.labelled k low' high'))
  refine ⟨same, ?_, ?_, fun j lowj highj => ?_, fun j lowj highj => ?_⟩
  · exact (min_le_left _ _).trans (h.forward.trans (le_max_left _ _))
  · exact max_lt h.inside h'.inside
  · dsimp only at lowj highj ⊢
    by_cases inside : r.first ≤ j ∧ j ≤ r.last
    · exact h.labelled j inside.1 inside.2
    · rw [same]; exact h'.labelled j (by omega) (by omega)
  · dsimp only at lowj highj
    by_cases inside : r.first < j ∧ j ≤ r.last
    · exact h.uncut j inside.1 inside.2
    · exact h'.uncut j (by omega) (by omega)

variable (L)

/-- The runs that have ended and the one that may go on. -/
structure Scan (α : Type*) where
  closed : List (Run α)
  current : Option (Run α)

def Scan.all (s : Scan α) : List (Run α) := s.closed ++ s.current.toList

section Pass

variable [DecidableEq α]

/-- The position goes on with what the position before is about. -/
def continues (k : ℕ) : Bool := (L.label k).isSome && !L.cut k && L.before k == L.label k

def scanStep (s : Scan α) (k : ℕ) : Scan α :=
  match L.label k with
  | none => ⟨s.all, none⟩
  | some a =>
    if L.continues k then ⟨s.closed, s.current.map fun r => { r with last := k }⟩
    else ⟨s.all, some ⟨a, k, k⟩⟩

/-- The pass over the first `n` positions. -/
def scan : ℕ → Scan α
  | 0 => ⟨[], none⟩
  | n + 1 => L.scanStep (scan n) n

/-- The runs of the first `n` positions. -/
def runs (n : ℕ) : List (Run α) := (L.scan n).all

/-! ## The pass finds the maximal runs -/

variable {L}

theorem continues_iff : L.continues k = true ↔
    ∃ a, L.label k = some a ∧ L.before k = some a ∧ L.cut k = false := by
  unfold continues
  cases h : L.label k with
  | none => simp
  | some a => simp [and_comm]

/-- Inside a run every position but the first continues the one before. -/
theorem IsRun.continues (h : L.IsRun n r) (after : r.first < k) (inside : k ≤ r.last) :
    L.continues k = true := by
  obtain ⟨k, rfl⟩ : ∃ j, k = j + 1 := ⟨k - 1, by omega⟩
  exact continues_iff.2 ⟨r.label, h.labelled _ (by omega) inside,
    h.labelled k (by omega) (by omega), h.uncut _ after inside⟩

/-- What the pass has found after `n` positions. -/
structure ScanInv (L : Labelling α) (n : ℕ) (s : Scan α) : Prop where
  current : s.current.map (·.label) = L.before n
  stop : ∀ r ∈ s.current, r.last + 1 = n
  isRun : ∀ r ∈ s.all, L.IsRun n r
  starts : ∀ r ∈ s.all, L.continues r.first = false
  stops : ∀ r ∈ s.closed, r.last + 1 < n ∧ L.continues (r.last + 1) = false
  apart : s.all.Pairwise fun r t => r.last < t.first
  covered : ∀ k < n, (L.label k).isSome = true → ∃ r ∈ s.all, r.first ≤ k ∧ k ≤ r.last

/-- Ending the open run where the next position does not continue it. -/
theorem ScanInv.close {s : Scan α} (h : L.ScanInv n s) (ends : L.continues n = false) :
    ∀ r ∈ s.all, r.last + 1 < n + 1 ∧ L.continues (r.last + 1) = false := by
  intro r member
  rcases List.mem_append.1 member with closed | opened
  · exact ⟨(h.stops r closed).1.trans (Nat.lt_succ_self n), (h.stops r closed).2⟩
  · have stop := h.stop r (by simpa using opened)
    rw [stop]
    exact ⟨Nat.lt_succ_self n, ends⟩

/-- A position that continues nothing opens a run of its own. -/
theorem ScanInv.openRun {s : Scan α} (h : L.ScanInv n s) (label : L.label n = some a)
    (starts : L.continues n = false) : L.ScanInv (n + 1) ⟨s.all, some ⟨a, n, n⟩⟩ where
  current := label.symm
  stop r member := by cases member; rfl
  isRun r member := by
    rcases List.mem_append.1 member with old | new
    · exact (h.isRun r old).mono (Nat.le_succ n)
    · obtain rfl : r = ⟨a, n, n⟩ := by simpa using new
      refine ⟨le_rfl, Nat.lt_succ_self n, fun k low high => ?_, fun k low high => ?_⟩
      · rw [show k = n from le_antisymm high low, label]
      · exact absurd high (not_le.2 low)
  starts r member := by
    rcases List.mem_append.1 member with old | new
    · exact h.starts r old
    · obtain rfl : r = ⟨a, n, n⟩ := by simpa using new
      exact starts
  stops := h.close starts
  apart := by
    refine List.pairwise_append.2 ⟨h.apart, List.pairwise_singleton _ _, fun r old t new => ?_⟩
    obtain rfl : t = ⟨a, n, n⟩ := by simpa using new
    exact (h.isRun r old).inside
  covered k inside labelled := by
    rcases Nat.lt_succ_iff_lt_or_eq.1 inside with earlier | rfl
    · obtain ⟨r, member, low, high⟩ := h.covered k earlier labelled
      exact ⟨r, List.mem_append_left _ member, low, high⟩
    · exact ⟨⟨a, k, k⟩, by simp [Scan.all], le_rfl, le_rfl⟩

/-- A position without a label ends the open run. -/
theorem ScanInv.skip {s : Scan α} (h : L.ScanInv n s) (label : L.label n = none) :
    L.ScanInv (n + 1) ⟨s.all, none⟩ where
  current := label.symm
  stop r member := by cases member
  isRun r member := (h.isRun r (by simpa [Scan.all] using member)).mono (Nat.le_succ n)
  starts r member := h.starts r (by simpa [Scan.all] using member)
  stops := h.close (by simp [Labelling.continues, label])
  apart := by simpa [Scan.all] using h.apart
  covered k inside labelled := by
    rcases Nat.lt_succ_iff_lt_or_eq.1 inside with earlier | rfl
    · simpa [Scan.all] using h.covered k earlier labelled
    · rw [label] at labelled; cases labelled

/-- A position that continues the open run makes it one longer. -/
theorem ScanInv.extend {s : Scan α} (h : L.ScanInv n s) (goesOn : L.continues n = true) :
    ∃ r, s.current = some r ∧ L.label n = some r.label ∧ r.last + 1 = n ∧
      L.ScanInv (n + 1) ⟨s.closed, some { r with last := n }⟩ := by
  obtain ⟨a, label, previous, uncut⟩ := continues_iff.1 goesOn
  obtain ⟨r, found, rfl⟩ := Option.map_eq_some_iff.1 (h.current.trans previous)
  have stop := h.stop r found
  have member : r ∈ s.all := by simp [Scan.all, found]
  have isRun := h.isRun r member
  have closedOr (t : Run α) (ht : t ∈ Scan.all ⟨s.closed, some { r with last := n }⟩) :
      t ∈ s.closed ∨ t = { r with last := n } := by simpa [Scan.all] using ht
  have old (t : Run α) (ht : t ∈ s.closed) : t ∈ s.all := List.mem_append_left _ ht
  refine ⟨r, found, label, stop, ?_⟩
  exact {
    current := label.symm
    stop := fun t ht => by cases ht; rfl
    isRun := fun t ht => by
      rcases closedOr t ht with closed | rfl
      · exact (h.isRun t (old t closed)).mono (Nat.le_succ n)
      · refine ⟨isRun.forward.trans (by dsimp only; omega), Nat.lt_succ_self n, fun k low high => ?_,
          fun k low high => ?_⟩
        · rcases Nat.lt_or_eq_of_le high with earlier | rfl
          · exact isRun.labelled k low (by dsimp only at earlier; omega)
          · exact label
        · rcases Nat.lt_or_eq_of_le high with earlier | rfl
          · exact isRun.uncut k low (by dsimp only at earlier; omega)
          · exact uncut
    starts := fun t ht => by
      rcases closedOr t ht with closed | rfl
      · exact h.starts t (old t closed)
      · exact h.starts r member
    stops := fun t ht => ⟨(h.stops t ht).1.trans (Nat.lt_succ_self n), (h.stops t ht).2⟩
    apart := by
      have apart := h.apart
      rw [Scan.all, found] at apart
      obtain ⟨closed, -, cross⟩ := List.pairwise_append.1 apart
      refine List.pairwise_append.2 ⟨closed, List.pairwise_singleton _ _, fun t ht u hu => ?_⟩
      obtain rfl : u = { r with last := n } := by simpa using hu
      exact cross t ht r (by simp)
    covered := fun k inside labelled => by
      rcases Nat.lt_succ_iff_lt_or_eq.1 inside with earlier | rfl
      · obtain ⟨t, ht, low, high⟩ := h.covered k earlier labelled
        rw [Scan.all, found] at ht
        rcases List.mem_append.1 ht with closed | opened
        · exact ⟨t, List.mem_append_left _ closed, low, high⟩
        · obtain rfl : t = r := by simpa using opened
          exact ⟨{ t with last := n }, by simp [Scan.all], low, earlier.le⟩
      · exact ⟨{ r with last := k }, by simp [Scan.all], by have := isRun.forward; dsimp only; omega, le_rfl⟩ }

/-- **The pass** keeps its invariant. -/
theorem scanInv (L : Labelling α) (n : ℕ) : L.ScanInv n (L.scan n) := by
  induction n with
  | zero =>
    exact {
      current := rfl
      stop := fun r member => by cases member
      isRun := fun r member => by cases member
      starts := fun r member => by cases member
      stops := fun r member => by cases member
      apart := List.Pairwise.nil
      covered := fun k inside => absurd inside (Nat.not_lt_zero k) }
  | succ n ih =>
    unfold scan scanStep
    cases label : L.label n with
    | none => exact ih.skip label
    | some a =>
      dsimp only
      split
      · rename_i goesOn
        obtain ⟨r, found, -, -, inv⟩ := ih.extend goesOn
        rw [found]
        exact inv
      · rename_i starts
        exact ih.openRun label (by simpa using starts)

/-- **The runs found** are the maximal runs. -/
theorem mem_runs_iff : r ∈ L.runs n ↔ L.IsMaximal n r := by
  have inv := scanInv L n
  have found (r : Run α) (member : r ∈ L.runs n) : L.IsMaximal n r := by
    have isRun := inv.isRun r member
    refine ⟨isRun, fun s hs low high => ?_⟩
    have first : s.first = r.first := by
      by_contra differs
      have := hs.continues (k := r.first) (by omega) (isRun.forward.trans high)
      rw [inv.starts r member] at this
      cases this
    have last : s.last = r.last := by
      by_contra differs
      have more : r.last + 1 ≤ s.last := by omega
      have goesOn := hs.continues (k := r.last + 1) (by have := isRun.forward; omega) more
      rcases List.mem_append.1 member with closed | opened
      · rw [(inv.stops r closed).2] at goesOn
        cases goesOn
      · have stop := inv.stop r (by simpa using opened)
        have := hs.inside
        omega
    have label : s.label = r.label := Option.some.inj
      ((hs.labelled r.first low (isRun.forward.trans high)).symm.trans
        (isRun.labelled r.first le_rfl isRun.forward))
    cases s; cases r
    simp_all
  refine ⟨found r, fun maximal => ?_⟩
  have label := maximal.isRun.labelled r.first le_rfl maximal.isRun.forward
  obtain ⟨s, member, low, high⟩ := inv.covered r.first
    (lt_of_le_of_lt maximal.isRun.forward maximal.isRun.inside) (by rw [label]; rfl)
  have other := found s member
  obtain ⟨-, joined⟩ := maximal.isRun.join other.isRun le_rfl maximal.isRun.forward low high
  have same := (maximal.maximal _ joined (min_le_left _ _) (le_max_left _ _)).symm.trans
    (other.maximal _ joined (min_le_right _ _) (le_max_right _ _))
  rwa [same]

theorem runs_apart (L : Labelling α) (n : ℕ) : (L.runs n).Pairwise fun r t => r.last < t.first :=
  (scanInv L n).apart

/-- A labelled position lies in exactly one run, and no other position lies in any. -/
theorem existsUnique_run (inside : k < n) :
    (L.label k).isSome = true ↔ ∃! r, r ∈ L.runs n ∧ r.first ≤ k ∧ k ≤ r.last := by
  constructor
  · intro labelled
    obtain ⟨r, member, low, high⟩ := (scanInv L n).covered k inside labelled
    refine ⟨r, ⟨member, low, high⟩, fun s ⟨other, low', high'⟩ => ?_⟩
    have maximal := mem_runs_iff.1 member
    have maximal' := mem_runs_iff.1 other
    obtain ⟨-, joined⟩ := maximal.isRun.join maximal'.isRun low high low' high'
    exact (maximal'.maximal _ joined (min_le_right _ _) (le_max_right _ _)).symm.trans
      (maximal.maximal _ joined (min_le_left _ _) (le_max_left _ _))
  · rintro ⟨r, ⟨member, low, high⟩, -⟩
    rw [(mem_runs_iff.1 member).isRun.labelled k low high]
    rfl

end Pass

/-! ## Where a run begins -/

section Start

variable {L} [DecidableEq α]

variable (L) in
/-- The position at which the stretch that leads to a position began. -/
def start : ℕ → ℕ
  | 0 => 0
  | k + 1 => if L.continues (k + 1) then start k else k + 1

theorem start_of_continues (goesOn : L.continues (k + 1) = true) : L.start (k + 1) = L.start k := by
  rw [start, if_pos goesOn]

theorem start_of_not_continues (starts : L.continues k = false) : L.start k = k := by
  cases k with
  | zero => rfl
  | succ k => rw [start, if_neg (by rw [starts]; exact Bool.false_ne_true)]

theorem start_le (L : Labelling α) (k : ℕ) : L.start k ≤ k := by
  induction k with
  | zero => exact le_rfl
  | succ k ih =>
    rw [start]
    split_ifs
    · exact ih.trans (Nat.le_succ k)
    · exact le_rfl

/-- Nothing comes before the first position. -/
theorem continues_zero (L : Labelling α) : L.continues 0 = false := by
  rw [Bool.eq_false_iff, ne_eq, continues_iff]
  rintro ⟨a, -, before, -⟩
  cases before

theorem start_eq_self_iff : L.start k = k ↔ L.continues k = false := by
  refine ⟨fun same => ?_, start_of_not_continues⟩
  cases k with
  | zero => exact L.continues_zero
  | succ k =>
    by_contra goesOn
    rw [start_of_continues (by simpa using goesOn)] at same
    have := L.start_le k
    omega

/-- **The run of a position** begins where the stretch that leads to the position does. -/
theorem IsMaximal.first_eq (maximal : L.IsMaximal n r) (low : r.first ≤ k) (high : k ≤ r.last) :
    L.start k = r.first := by
  induction k, low using Nat.le_induction with
  | base =>
    exact start_of_not_continues ((scanInv L n).starts r (mem_runs_iff.2 maximal))
  | succ k low ih =>
    rw [start_of_continues (maximal.isRun.continues (by omega) high)]
    exact ih (by omega)

/-- A labelled position lies in a maximal run. -/
theorem exists_maximal (inside : k < n) (labelled : (L.label k).isSome = true) :
    ∃ r, L.IsMaximal n r ∧ r.first = L.start k ∧ r.first ≤ k ∧ k ≤ r.last := by
  obtain ⟨r, ⟨member, low, high⟩, -⟩ := (existsUnique_run inside).1 labelled
  have maximal := mem_runs_iff.1 member
  exact ⟨r, maximal, (maximal.first_eq low high).symm, low, high⟩

end Start

/-! ## The time spent in runs -/

section Time

variable {L} [DecidableEq α]

variable (L) in
/-- The time spent with a label, between positions that continue each other. -/
def attention {M : Type*} [AddCommGroup M] (time : ℕ → M) (a : α) (n : ℕ) : M :=
  ∑ k ∈ Finset.range n,
    if L.continues k = true ∧ L.label k = some a then time k - time (k - 1) else 0

variable {M : Type*} [AddCommGroup M] {time : ℕ → M}

/-- The time between the ends of the runs of a label. -/
def spent (time : ℕ → M) (a : α) (runs : List (Run α)) : M :=
  ((runs.filter fun r => r.label = a).map fun r => time r.last - time r.first).sum

theorem spent_append (l l' : List (Run α)) :
    spent time a (l ++ l') = spent time a l + spent time a l' := by
  simp [spent]

theorem spent_singleton (r : Run α) :
    spent time a [r] = if r.label = a then time r.last - time r.first else 0 := by
  unfold spent
  split <;> rename_i h <;> simp [h]

/-- **The time spent** is the time between the ends of the runs. -/
theorem spent_runs (L : Labelling α) (time : ℕ → M) (a : α) (n : ℕ) :
    spent time a (L.runs n) = L.attention time a n := by
  induction n with
  | zero => rfl
  | succ n ih =>
    have inv := scanInv L n
    rw [attention, Finset.sum_range_succ]
    change spent time a (L.scanStep (L.scan n) n).all = L.attention time a n + _
    rw [← ih]
    change _ = spent time a (L.scan n).all + _
    unfold scanStep
    cases label : L.label n with
    | none => simp [Scan.all]
    | some b =>
      dsimp only
      split
      · rename_i goesOn
        obtain ⟨r, found, same, stop, -⟩ := inv.extend goesOn
        obtain rfl : b = r.label := by simpa [label] using same
        rw [found, Scan.all, Scan.all, found, Option.map_some, Option.toList_some, Option.toList_some,
          spent_append, spent_append, spent_singleton, spent_singleton, add_assoc]
        congr 1
        by_cases h : r.label = a
        · have before : n - 1 = r.last := by omega
          simp [h, goesOn, before]
        · simp [h]
      · rename_i starts
        simp [Scan.all, spent_append, spent_singleton, starts]

variable [LinearOrder M] [IsOrderedAddMonoid M]

/-- Time is never spent twice: over all labels it is bounded by what each position may take. -/
theorem sum_attention_le (S : Finset α) {bound : ℕ → M} (nonneg : ∀ k < n, 0 ≤ bound k)
    (within : ∀ k < n, L.continues k = true → time k - time (k - 1) ≤ bound k) :
    ∑ a ∈ S, L.attention time a n ≤ ∑ k ∈ Finset.range n, bound k := by
  unfold attention
  rw [Finset.sum_comm]
  refine Finset.sum_le_sum fun k inside => ?_
  have inside := Finset.mem_range.1 inside
  by_cases goesOn : L.continues k = true
  · obtain ⟨b, label, -, -⟩ := continues_iff.1 goesOn
    simp only [goesOn, label, true_and, Option.some.injEq, Finset.sum_ite_eq]
    split
    · exact within k inside goesOn
    · exact nonneg k inside
  · have stays : L.continues k = false := by simpa using goesOn
    simp only [stays, Bool.false_eq_true, false_and, if_false, Finset.sum_const_zero]
    exact nonneg k inside

/-- The time spent does not become less than nothing. -/
theorem attention_nonneg (forward : ∀ k < n, L.continues k = true → time (k - 1) ≤ time k) :
    0 ≤ L.attention time a n := by
  refine Finset.sum_nonneg fun k inside => ?_
  split
  · rename_i both
    exact sub_nonneg.2 (forward k (Finset.mem_range.1 inside) both.1)
  · exact le_rfl

end Time

/-! ## Returns -/

section Returns

variable {L}

variable (L) in
/-- The label was met before, and there was no cut since. -/
def Seen (a : α) (k : ℕ) : Prop :=
  ∃ i < k, L.label i = some a ∧ ∀ m ≤ k, i < m → L.cut m = false

variable (L) in
/-- The position comes back to a label after something else, without a cut in between. -/
def ReturnsAt (a : α) (k : ℕ) : Prop :=
  L.label k = some a ∧ L.before k ≠ some a ∧ L.Seen a k

/-- What is seen one position later. -/
theorem seen_succ : L.Seen a (n + 1) ↔ L.cut (n + 1) = false ∧ (L.label n = some a ∨ L.Seen a n) := by
  constructor
  · rintro ⟨i, before, label, uncut⟩
    refine ⟨uncut (n + 1) le_rfl (by omega), ?_⟩
    rcases Nat.lt_succ_iff_lt_or_eq.1 before with earlier | rfl
    · exact .inr ⟨i, earlier, label, fun m inside after => uncut m (by omega) after⟩
    · exact .inl label
  · rintro ⟨last, label | ⟨i, before, label, uncut⟩⟩
    · refine ⟨n, Nat.lt_succ_self n, label, fun m inside after => ?_⟩
      rwa [show m = n + 1 by omega]
    · refine ⟨i, by omega, label, fun m inside after => ?_⟩
      rcases Nat.lt_or_eq_of_le inside with earlier | rfl
      · exact uncut m (by omega) after
      · exact last

variable (L) in
/-- The label was met before the position, and there was no cut since and before it. -/
def Met (a : α) : ℕ → Prop
  | 0 => False
  | k + 1 => L.label k = some a ∨ L.Seen a k

theorem seen_iff : L.Seen a k ↔ L.cut k = false ∧ L.Met a k := by
  cases k with
  | zero => exact ⟨fun ⟨_, before, _⟩ => absurd before (Nat.not_lt_zero _), fun h => h.2.elim⟩
  | succ k => exact seen_succ

variable [DecidableEq α]

instance : Decidable (L.Seen a k) := inferInstanceAs (Decidable (∃ i < k, _ ∧ ∀ m ≤ k, _ → _))

instance : DecidablePred (L.ReturnsAt a) := fun _ => inferInstanceAs (Decidable (_ ∧ _ ∧ _))

variable (L) in
/-- How often the first `n` positions return to a label. -/
def returns (a : α) (n : ℕ) : ℕ := Nat.count (L.ReturnsAt a) n

/-- A position that returns begins a run. -/
theorem ReturnsAt.starts (h : L.ReturnsAt a k) : L.continues k = false := by
  rw [Bool.eq_false_iff, ne_eq, continues_iff]
  rintro ⟨b, label, previous, -⟩
  rw [h.1] at label
  cases label
  exact h.2.1 previous

end Returns

/-! ## A labelling with more cuts -/

section Stalls

variable {L} {β : Type*} {L' : Labelling β} {σ : α → β} {stall : ℕ → Bool}

/-- The second labelling names the labels of the first its own way and also cuts where `stall` holds. -/
structure Stalls (L : Labelling α) (L' : Labelling β) (σ : α → β) (stall : ℕ → Bool) : Prop where
  label : ∀ k, L'.label k = (L.label k).map σ
  cut : ∀ k, 0 < k → L'.cut k = (L.cut k || stall k)
  injective : Function.Injective σ

namespace Stalls

theorem label_iff (h : Stalls L L' σ stall) : L'.label k = some (σ a) ↔ L.label k = some a := by
  rw [h.label, Option.map_eq_some_iff]
  constructor
  · rintro ⟨b, label, same⟩
    rw [label, h.injective same]
  · exact fun label => ⟨a, label, rfl⟩

theorem before_iff (h : Stalls L L' σ stall) : L'.before k = some (σ a) ↔ L.before k = some a := by
  cases k with
  | zero => constructor <;> rintro ⟨⟩
  | succ k => exact h.label_iff

/-- The label was met before, with no cut of the second labelling since. -/
theorem returnsAt_iff (h : Stalls L L' σ stall) : L'.ReturnsAt (σ a) k ↔
    L.label k = some a ∧ L.before k ≠ some a ∧ ∃ i < k, L.label i = some a ∧
      ∀ m ≤ k, i < m → L.cut m = false ∧ stall m = false := by
  unfold ReturnsAt Seen
  simp only [h.label_iff, ne_eq, h.before_iff]
  refine and_congr_right fun _ => and_congr_right fun _ => exists_congr fun i =>
    and_congr_right fun _ => and_congr_right fun _ => forall_congr' fun m =>
      forall_congr' fun _ => forall_congr' fun after => ?_
  rw [h.cut m (by omega), Bool.or_eq_false_iff]

variable [DecidableEq α] [DecidableEq β]

/-- No time passes at a stall, so the time spent is the same. -/
theorem attention_eq {M : Type*} [AddCommGroup M] {time : ℕ → M} (h : Stalls L L' σ stall)
    (still : ∀ k < n, stall k = true → time k = time (k - 1)) :
    L'.attention time (σ a) n = L.attention time a n := by
  refine Finset.sum_congr rfl fun k inside => ?_
  have inside := Finset.mem_range.1 inside
  have same : (L'.continues k = true ∧ L'.label k = some (σ a)) ↔
      (L.continues k = true ∧ L.label k = some a) ∧ stall k = false ∨
        k = 0 ∧ L.continues k = true ∧ L.label k = some a := by
    rw [h.label_iff, continues_iff, continues_iff]
    constructor
    · rintro ⟨⟨b, label, previous, uncut⟩, named⟩
      obtain rfl : σ a = b := by simpa [h.label_iff.2 named] using label
      cases k with
      | zero => cases previous
      | succ k =>
        rw [h.cut _ (Nat.succ_pos k), Bool.or_eq_false_iff] at uncut
        exact .inl ⟨⟨⟨a, named, h.before_iff.1 previous, uncut.1⟩, named⟩, uncut.2⟩
    · rintro (⟨⟨⟨b, label, previous, uncut⟩, named⟩, moves⟩ | ⟨rfl, ⟨b, label, previous, uncut⟩, named⟩)
      · obtain rfl : a = b := by simpa [named] using label
        cases k with
        | zero => cases previous
        | succ k =>
          refine ⟨⟨σ a, h.label_iff.2 named, h.before_iff.2 previous, ?_⟩, named⟩
          rw [h.cut _ (Nat.succ_pos k), uncut, moves]
          rfl
      · cases previous
  by_cases goesOn : L.continues k = true ∧ L.label k = some a
  · rw [if_pos goesOn]
    cases stalled : stall k with
    | false => exact if_pos (same.2 (.inl ⟨goesOn, stalled⟩))
    | true =>
      rw [still k inside stalled, sub_self]
      exact ite_self 0
  · rw [if_neg goesOn, if_neg]
    rw [same]
    rintro (⟨both, -⟩ | ⟨-, both⟩)
    · exact goesOn both
    · exact goesOn both

/-- **Returns agree** exactly when no stall lies between a return and what it returns to. -/
theorem returns_eq_iff (h : Stalls L L' σ stall) : L'.returns (σ a) n = L.returns a n ↔
    ∀ k < n, L.ReturnsAt a k → ∃ i < k, L.label i = some a ∧
      ∀ m ≤ k, i < m → L.cut m = false ∧ stall m = false := by
  have weaker : ∀ k, L'.ReturnsAt (σ a) k → L.ReturnsAt a k := fun k returns => by
    obtain ⟨label, previous, i, before, seen, uncut⟩ := h.returnsAt_iff.1 returns
    exact ⟨label, previous, i, before, seen, fun m inside after => (uncut m inside after).1⟩
  have count : L'.returns (σ a) n = L.returns a n ↔
      ∀ k < n, L.ReturnsAt a k → L'.ReturnsAt (σ a) k := by
    unfold returns
    rw [Nat.count_eq_card_filter_range, Nat.count_eq_card_filter_range]
    have sub : (Finset.range n).filter (L'.ReturnsAt (σ a)) ⊆ (Finset.range n).filter (L.ReturnsAt a) :=
      Finset.monotone_filter_right _ fun k _ => weaker k
    constructor
    · intro equal k inside returns
      have all := Finset.eq_of_subset_of_card_le sub equal.ge
      have member : k ∈ (Finset.range n).filter (L'.ReturnsAt (σ a)) := by
        rw [all, Finset.mem_filter]
        exact ⟨Finset.mem_range.2 inside, returns⟩
      exact (Finset.mem_filter.1 member).2
    · intro agree
      congr 1
      refine Finset.filter_congr fun k inside => ⟨weaker k, agree k (Finset.mem_range.1 inside)⟩
  rw [count]
  refine forall_congr' fun k => forall_congr' fun inside => forall_congr' fun returns => ?_
  rw [h.returnsAt_iff]
  exact ⟨fun found => found.2.2, fun found => ⟨returns.1, returns.2.1, found⟩⟩

end Stalls

end Stalls

end Labelling

end Lib
