import Mkk.Api.SummaryLimits
import Mkk.Lib.Runs
import Mkk.Lib.Spans

/-!
# The evidence windows

The loop of `summarize_observations` read by position. `attribution` says which product each frame
is attributed to and where the loop breaks; the loop then finds the maximal runs of that labelling,
one window for each, and what it gathers for a product is a function of the positions read
(`SummaryFold.Scans`).
-/

namespace Mkk.Api

open Lib

/-! ## Frames by position -/

def previousAt (frames : List FrameObservationV2) : ℕ → Option FrameObservationV2
  | 0 => none
  | k + 1 => frames[k]?

def capturedAt (frames : List FrameObservationV2) (k : ℕ) : ℚ :=
  (frames[k]?.map (·.capturedAtMonoMs)).getD 0

/-- The product each frame is attributed to and the breaks of the loop. -/
def attribution (maxGapMs : ℚ) (frames : List FrameObservationV2) : Labelling String where
  label k := frames[k]?.bind mappedProductId
  cut k := frames[k]?.any (discontinuity maxGapMs (previousAt frames k))

/-- The frames from one position to another. -/
def slice (frames : List FrameObservationV2) (first last : ℕ) : List FrameObservationV2 :=
  (frames.drop first).take (last + 1 - first)

/-- The frame adds a derived gaze movement to the product. -/
def MovementAt (maxGapMs : ℚ) (frames : List FrameObservationV2) (productId : String) (k : ℕ) : Prop :=
  (attribution maxGapMs frames).label k = some productId ∧
    (attribution maxGapMs frames).cut k = false ∧
    ∃ f ∈ frames[k]?, (derivedMovement f).isSome = true

/-- The frame adds derived score changes to the product. -/
def ChangesAt (maxGapMs : ℚ) (frames : List FrameObservationV2) (productId : String) (k : ℕ) : Prop :=
  (attribution maxGapMs frames).label k = some productId ∧
    (attribution maxGapMs frames).cut k = false ∧
    ∃ f ∈ frames[k]?, ∃ e ∈ derivedExpression f, ∃ changes ∈ e.scoreChanges, changes.entries ≠ []

/-- What the code of a window of a product speaks of, up to a position. -/
def CodeBy (maxGapMs : ℚ) (frames : List FrameObservationV2) (productId : String) (last : ℕ) :
    EvidenceCode → Prop
  | .observedAttention => True
  | .returnCandidate => ∃ k ≤ last, (attribution maxGapMs frames).ReturnsAt productId k
  | .gazeMovement => ∃ k ≤ last, MovementAt maxGapMs frames productId k
  | .faceActionChange => ∃ k ≤ last, ChangesAt maxGapMs frames productId k
  | _ => False

/-- The window of a run. -/
structure WindowOf (maxGapMs : ℚ) (frames : List FrameObservationV2) (r : Run String) (w : WindowAcc) :
    Prop where
  productId : w.productId = r.label
  start : frames[r.first]? = some w.start
  stop : frames[r.last]? = some w.stop
  components : w.components = (slice frames r.first r.last).flatMap frameComponents
  visualTags : w.visualTags = (slice frames r.first r.last).flatMap frameVisualTags
  codes : ∀ c, c ∈ w.codes ↔ CodeBy maxGapMs frames r.label r.last c

/-- What has been gathered for a product after `n` frames. -/
structure ProductAcc.At (maxGapMs : ℚ) (frames : List FrameObservationV2) (productId : String)
    (n : ℕ) (acc : ProductAcc) : Prop where
  reads : acc.frames = (frames.take n).filter fun f => mappedProductId f = some productId
  compared : acc.returns ≤ acc.returnComparisons
  dwellMs : acc.dwellMs = (attribution maxGapMs frames).attention (capturedAt frames) productId n
  returns : acc.returns = (attribution maxGapMs frames).returns productId n
  movement : acc.movement ≠ [] ↔ ∃ k < n, MovementAt maxGapMs frames productId k
  changes : acc.changes.entries ≠ [] ↔ ∃ k < n, ChangesAt maxGapMs frames productId k

/-! ## The gathered derived signals -/

section Derived

variable {acc : ProductAcc} {broken : Bool} {frame : FrameObservationV2}

theorem setIn_ne_nil {K V : Type} [DecidableEq K] (k : K) (v : V) (l : List (K × V)) :
    Dict.setIn k v l ≠ [] := by
  cases l with
  | nil => simp [Dict.setIn]
  | cons e rest => unfold Dict.setIn; split <;> simp

theorem appendValues_entries (d : Dict String (List ℚ)) (m : SortedDict String ℚ) :
    (appendValues d m).entries ≠ [] ↔ d.entries ≠ [] ∨ m.entries ≠ [] := by
  unfold appendValues
  generalize m.entries = l
  induction l generalizing d with
  | nil => simp
  | cons e rest ih =>
    rw [List.foldl_cons, ih]
    have added : (Dict.insertWith Prod.fst appendValue d e).entries ≠ [] := setIn_ne_nil _ _ _
    simp [added]

theorem ProductAcc.addExpression_changes (acc : ProductAcc) (expression : Option ExpressionDerivedV2)
    (rates : ∀ e ∈ expression, e.scoreChanges.isSome = true → e.scoreChangeRatesPerS.isSome = true) :
    (acc.addExpression expression).changes.entries ≠ [] ↔ acc.changes.entries ≠ [] ∨
      ∃ e ∈ expression, ∃ changes ∈ e.scoreChanges, changes.entries ≠ [] := by
  unfold ProductAcc.addExpression
  cases expression with
  | none => simp
  | some e =>
    unfold ProductAcc.addChanges
    cases hc : e.scoreChanges with
    | none => simp [hc]
    | some changes =>
      obtain ⟨rates, hr⟩ := Option.isSome_iff_exists.1 (rates e rfl (by rw [hc]; rfl))
      simp [hc, hr, appendValues_entries]

/-- The gathered movements and changes after the derived signals of a frame. -/
theorem ProductAcc.addDerived_signals (acc : ProductAcc) (mapped : (mappedProductId frame).isSome = true)
    (rates : ratesMissing broken frame = false) :
    ((acc.addDerived broken frame).movement ≠ [] ↔
      acc.movement ≠ [] ∨ broken = false ∧ (derivedMovement frame).isSome = true) ∧
    ((acc.addDerived broken frame).changes.entries ≠ [] ↔ acc.changes.entries ≠ [] ∨ broken = false ∧
      ∃ e ∈ derivedExpression frame, ∃ changes ∈ e.scoreChanges, changes.entries ≠ []) := by
  unfold ProductAcc.addDerived
  cases broken with
  | true => simp
  | false =>
    cases hd : frame.derived with
    | none => simp [derivedMovement, derivedExpression, hd]
    | some derived =>
      have gaze : ∀ g, (acc.addGaze g).changes = acc.changes ∧ ((acc.addGaze g).movement ≠ [] ↔
          acc.movement ≠ [] ∨ (g.bind (·.movement)).isSome = true) := by
        intro g
        unfold ProductAcc.addGaze
        cases g.bind (·.movement) <;> simp
      have kept : ∀ (a : ProductAcc) e, (a.addExpression e).movement = a.movement := by
        intro a e
        unfold ProductAcc.addExpression ProductAcc.addChanges
        repeat' split
        all_goals rfl
      have complete : ∀ e ∈ derived.expression, e.scoreChanges.isSome = true →
          e.scoreChangeRatesPerS.isSome = true := by
        intro e he changed
        by_contra missing
        simp [ratesMissing, mapped, hd, Option.mem_def.1 he, changed] at rates
        rw [rates] at missing
        exact missing rfl
      constructor
      · simp [kept, (gaze derived.gaze).2, derivedMovement, hd]
      · simp only [Bool.false_eq_true, if_false]
        rw [ProductAcc.addExpression_changes _ _ complete, (gaze derived.gaze).1]
        simp [derivedExpression, hd]

/-- The derived signals leave the frames, the dwell time and the returns. -/
theorem ProductAcc.addDerived_kept (acc : ProductAcc) (broken : Bool) (frame : FrameObservationV2) :
    (acc.addDerived broken frame).frames = acc.frames ∧
    (acc.addDerived broken frame).dwellMs = acc.dwellMs ∧
    (acc.addDerived broken frame).returns = acc.returns ∧
    (acc.addDerived broken frame).returnComparisons = acc.returnComparisons := by
  unfold ProductAcc.addDerived ProductAcc.addExpression ProductAcc.addChanges ProductAcc.addGaze
  repeat' split
  all_goals exact ⟨rfl, rfl, rfl, rfl⟩

end Derived

/-! ## The loop -/

section Loop

variable {maxGapMs : ℚ} {frames : List FrameObservationV2} {n k : ℕ} {p q : String}
  {frame : FrameObservationV2} {acc : ProductAcc} {s : SummaryFold}

theorem attribution_label (found : frames[n]? = some frame) :
    (attribution maxGapMs frames).label n = mappedProductId frame := by
  simp [attribution, found]

theorem attribution_cut (found : frames[n]? = some frame) :
    (attribution maxGapMs frames).cut n = discontinuity maxGapMs (previousAt frames n) frame := by
  simp [attribution, found]

theorem capturedAt_eq (found : frames[n]? = some frame) : capturedAt frames n = frame.capturedAtMonoMs := by
  simp [capturedAt, found]

theorem exists_lt_succ {P : ℕ → Prop} : (∃ k < n + 1, P k) ↔ (∃ k < n, P k) ∨ P n := by
  constructor
  · rintro ⟨k, before, holds⟩
    rcases Nat.lt_succ_iff_lt_or_eq.1 before with earlier | rfl
    · exact .inl ⟨k, earlier, holds⟩
    · exact .inr holds
  · rintro (⟨k, before, holds⟩ | holds)
    · exact ⟨k, before.trans (Nat.lt_succ_self n), holds⟩
    · exact ⟨n, Nat.lt_succ_self n, holds⟩

/-- A frame that is not attributed to the product leaves what was gathered for it. -/
theorem ProductAcc.At.other (h : acc.At maxGapMs frames p n) (found : frames[n]? = some frame)
    (label : (attribution maxGapMs frames).label n ≠ some p) : acc.At maxGapMs frames p (n + 1) where
  reads := by
    rw [attribution_label found] at label
    rw [h.reads, List.take_add_one, found]
    simp [label]
  compared := h.compared
  dwellMs := by
    rw [h.dwellMs, Labelling.attention, Labelling.attention, Finset.sum_range_succ, if_neg, add_zero]
    exact fun both => label both.2
  returns := by
    rw [h.returns, Labelling.returns, Labelling.returns, Nat.count_succ, if_neg, add_zero]
    exact fun returns => label returns.1
  movement := by
    rw [h.movement, exists_lt_succ, or_iff_left]
    exact fun moves => label moves.1
  changes := by
    rw [h.changes, exists_lt_succ, or_iff_left]
    exact fun changes => label changes.1

/-- The frame before, once its product is forgotten at a break. -/
theorem continues_iff_product (label : (attribution maxGapMs frames).label n = some p) :
    (attribution maxGapMs frames).continues n = true ↔
      (attribution maxGapMs frames).cut n = false ∧ (attribution maxGapMs frames).before n = some p := by
  rw [Labelling.continues_iff]
  constructor
  · rintro ⟨q, labelled, previous, uncut⟩
    rw [label] at labelled
    cases labelled
    exact ⟨uncut, previous⟩
  · exact fun ⟨uncut, previous⟩ => ⟨p, label, previous, uncut⟩

/-- Comparing with the frame before. -/
theorem ProductAcc.At.compare (h : acc.At maxGapMs frames p n) (found : frames[n]? = some frame)
    (label : (attribution maxGapMs frames).label n = some p) {seen : List String}
    {previousProduct : Option String}
    (before : (attribution maxGapMs frames).cut n = false →
      previousProduct = (attribution maxGapMs frames).before n)
    (met : (attribution maxGapMs frames).cut n = false →
      (p ∈ seen ↔ (attribution maxGapMs frames).Seen p n)) :
    ((acc.attend frame).compare p (previousAt frames n) ((attribution maxGapMs frames).cut n)
      previousProduct seen frame).dwellMs =
        (attribution maxGapMs frames).attention (capturedAt frames) p (n + 1) ∧
    ((acc.attend frame).compare p (previousAt frames n) ((attribution maxGapMs frames).cut n)
      previousProduct seen frame).returns = (attribution maxGapMs frames).returns p (n + 1) ∧
    ((acc.attend frame).compare p (previousAt frames n) ((attribution maxGapMs frames).cut n)
      previousProduct seen frame).returns ≤
    ((acc.attend frame).compare p (previousAt frames n) ((attribution maxGapMs frames).cut n)
      previousProduct seen frame).returnComparisons := by
  have compared := h.compared
  have dwell := h.dwellMs
  have returns := h.returns
  unfold Labelling.attention at dwell ⊢
  unfold Labelling.returns at returns ⊢
  rw [Finset.sum_range_succ, Nat.count_succ, ← dwell, ← returns]
  simp only [continues_iff_product label]
  unfold ProductAcc.compare
  cases n with
  | zero =>
    have first : ¬ (attribution maxGapMs frames).ReturnsAt p 0 := by
      rintro ⟨-, -, i, earlier, -⟩
      exact Nat.not_lt_zero i earlier
    simp [previousAt, Labelling.before, first, ProductAcc.attend, compared]
  | succ m =>
    obtain ⟨g, hg⟩ : ∃ g, frames[m]? = some g := by
      obtain ⟨inside, -⟩ := List.getElem?_eq_some_iff.1 found
      exact ⟨_, List.getElem?_eq_getElem (by omega)⟩
    simp only [previousAt, hg]
    cases cut : (attribution maxGapMs frames).cut (m + 1) with
    | true =>
      have broken : ¬ (attribution maxGapMs frames).ReturnsAt p (m + 1) := by
        rintro ⟨-, -, i, earlier, -, uncut⟩
        rw [uncut (m + 1) le_rfl earlier] at cut
        cases cut
      simp [broken, ProductAcc.attend, compared]
    | false =>
      have returnsIff : (attribution maxGapMs frames).ReturnsAt p (m + 1) ↔
          previousProduct ≠ some p ∧ p ∈ seen := by
        unfold Labelling.ReturnsAt
        rw [before cut, met cut]
        exact and_iff_right label
      rw [before cut] at returnsIff ⊢
      simp only [Bool.false_eq_true, if_false, label, true_and, and_true,
        capturedAt_eq found, Nat.add_sub_cancel, capturedAt_eq hg, returnsIff, Bool.and_eq_true,
        decide_eq_true_eq, ProductAcc.attend]
      refine ⟨?_, ?_, ?_⟩
      · split <;> simp
      · split <;> simp
      · split <;> omega

/-- A frame of the product extends what was gathered for it. -/
theorem ProductAcc.At.visit (h : acc.At maxGapMs frames p n) (found : frames[n]? = some frame)
    (label : (attribution maxGapMs frames).label n = some p) {seen : List String}
    {previousProduct : Option String}
    (before : (attribution maxGapMs frames).cut n = false →
      previousProduct = (attribution maxGapMs frames).before n)
    (met : (attribution maxGapMs frames).cut n = false →
      (p ∈ seen ↔ (attribution maxGapMs frames).Seen p n))
    (rates : ratesMissing ((attribution maxGapMs frames).cut n) frame = false) :
    (((acc.attend frame).compare p (previousAt frames n) ((attribution maxGapMs frames).cut n)
      previousProduct seen frame).addDerived ((attribution maxGapMs frames).cut n) frame).At
        maxGapMs frames p (n + 1) := by
  obtain ⟨dwell, comparisons, returns, compared, -⟩ := (acc.attend frame).compare_eq p
    (previousAt frames n) ((attribution maxGapMs frames).cut n) previousProduct seen frame
  have times := h.compare found label before met
  have mapped : (mappedProductId frame).isSome = true := by
    have labelled : (attribution maxGapMs frames).label n = mappedProductId frame :=
      attribution_label found
    rw [← labelled, label]; rfl
  rw [compared] at times ⊢
  obtain ⟨framesKept, dwellKept, returnsKept, comparisonsKept⟩ := ProductAcc.addDerived_kept
    { acc.attend frame with dwellMs := dwell, returnComparisons := comparisons, returns := returns }
    ((attribution maxGapMs frames).cut n) frame
  obtain ⟨movement, changes⟩ := ProductAcc.addDerived_signals
    { acc.attend frame with dwellMs := dwell, returnComparisons := comparisons, returns := returns }
    mapped rates
  have derived (f : FrameObservationV2) : f ∈ frames[n]? ↔ f = frame := by
    rw [found, Option.mem_some_iff, eq_comm]
  exact {
    reads := by
      rw [attribution_label found] at label
      rw [framesKept, List.take_add_one, found]
      simp [ProductAcc.attend, h.reads, label]
    compared := by rw [returnsKept, comparisonsKept]; exact times.2.2
    dwellMs := dwellKept.trans times.1
    returns := returnsKept.trans times.2.1
    movement := by
      rw [movement, exists_lt_succ, ← h.movement]
      refine or_congr Iff.rfl ?_
      unfold MovementAt
      simp [label, derived]
    changes := by
      rw [changes, exists_lt_succ, ← h.changes]
      refine or_congr Iff.rfl ?_
      unfold ChangesAt
      simp [label, derived] }

/-- The codes of a frame speak of what was gathered up to it. -/
theorem ProductAcc.At.codes (h : acc.At maxGapMs frames p (n + 1)) (c : EvidenceCode) :
    c ∈ acc.codes ↔ CodeBy maxGapMs frames p n c := by
  have returned : acc.returns ≠ 0 ↔ ∃ k ≤ n, (attribution maxGapMs frames).ReturnsAt p k := by
    rw [h.returns, Labelling.returns, ne_eq, Nat.count_iff_forall_not]
    simp only [not_forall, not_not, Nat.lt_succ_iff, exists_prop]
  have moved := h.movement
  have changed := h.changes
  simp only [Nat.lt_succ_iff] at moved changed
  unfold ProductAcc.codes
  cases c with
  | observedAttention => simp [CodeBy]
  | returnCandidate =>
    rw [CodeBy, ← returned]
    by_cases none : acc.returns = 0 <;> simp [none]
  | gazeMovement =>
    rw [CodeBy, ← moved]
    by_cases none : acc.movement = [] <;> simp [none]
  | faceActionChange =>
    rw [CodeBy, ← changed]
    by_cases none : acc.changes.entries = [] <;> simp [none]
  | productTagMatch =>
    simp only [CodeBy, iff_false]
    exact acc.codes_ofWindows
  | dataQuality =>
    simp only [CodeBy, iff_false]
    repeat' split
    all_goals simp

theorem CodeBy.later {j : ℕ} {c : EvidenceCode} (h : CodeBy maxGapMs frames p j c) (le : j ≤ n) :
    CodeBy maxGapMs frames p n c := by
  cases c with
  | observedAttention => trivial
  | returnCandidate => obtain ⟨k, before, holds⟩ := h; exact ⟨k, before.trans le, holds⟩
  | gazeMovement => obtain ⟨k, before, holds⟩ := h; exact ⟨k, before.trans le, holds⟩
  | faceActionChange => obtain ⟨k, before, holds⟩ := h; exact ⟨k, before.trans le, holds⟩
  | productTagMatch => exact h
  | dataQuality => exact h

theorem slice_self (found : frames[n]? = some frame) : slice frames n n = [frame] := by
  obtain ⟨inside, rfl⟩ := List.getElem?_eq_some_iff.1 found
  rw [slice, Nat.add_sub_cancel_left, List.drop_eq_getElem_cons inside]
  rfl

theorem slice_succ {first last : ℕ} (found : frames[last + 1]? = some frame) (le : first ≤ last) :
    slice frames first (last + 1) = slice frames first last ++ [frame] := by
  unfold slice
  rw [show last + 1 + 1 - first = (last + 1 - first) + 1 by omega, List.take_add_one, List.getElem?_drop,
    show first + (last + 1 - first) = last + 1 by omega, found]
  rfl

/-- What the loop holds after `n` frames. -/
structure SummaryFold.Scans (maxGapMs : ℚ) (frames : List FrameObservationV2) (n : ℕ)
    (s : SummaryFold) : Prop where
  previous : s.previous = previousAt frames n
  previousProduct : s.previousProduct = (attribution maxGapMs frames).before n
  met : ∀ p, p ∈ s.seenProducts ↔ (attribution maxGapMs frames).Met p n
  closed : List.Forall₂ (WindowOf maxGapMs frames) ((attribution maxGapMs frames).scan n).closed
    s.windowsRaw
  current : List.Forall₂ (WindowOf maxGapMs frames)
    ((attribution maxGapMs frames).scan n).current.toList s.window.toList
  products : ∀ p, (s.productAcc p).At maxGapMs frames p n

/-- The windows once a break before the frame has been handled. -/
structure SummaryFold.BrokenWindows (maxGapMs : ℚ) (frames : List FrameObservationV2) (n : ℕ)
    (s b : SummaryFold) : Prop where
  windows : b.windows = s.windows
  window : b.window = if (attribution maxGapMs frames).cut n then none else s.window
  windowsRaw : (attribution maxGapMs frames).cut n = false → b.windowsRaw = s.windowsRaw

/-- The loop's state once a break before the frame has been handled. -/
structure SummaryFold.Broken (maxGapMs : ℚ) (frames : List FrameObservationV2) (n : ℕ)
    (s b : SummaryFold) : Prop extends SummaryFold.BrokenWindows maxGapMs frames n s b where
  previous : b.previous = previousAt frames n
  previousProduct : (attribution maxGapMs frames).cut n = false →
    b.previousProduct = (attribution maxGapMs frames).before n
  seen : ∀ p, p ∈ b.seenProducts ↔ (attribution maxGapMs frames).Seen p n
  products : b.productAcc = s.productAcc

theorem SummaryFold.Scans.broken (h : s.Scans maxGapMs frames n) (found : frames[n]? = some frame) :
    SummaryFold.Broken maxGapMs frames n s
      (if discontinuity maxGapMs s.previous frame then s.breakAt else s) := by
  rw [h.previous, ← attribution_cut found]
  have seen (q : String) := (attribution maxGapMs frames).seen_iff (a := q) (k := n)
  cases cut : (attribution maxGapMs frames).cut n with
  | false =>
    exact {
      previous := h.previous
      previousProduct := fun _ => h.previousProduct
      seen := fun q => by
        rw [seen, cut]
        exact (h.met q).trans (and_iff_right rfl).symm
      windows := rfl
      window := by rw [cut]; rfl
      windowsRaw := fun _ => rfl
      products := rfl }
  | true =>
    exact {
      previous := h.previous
      previousProduct := fun uncut => by rw [cut] at uncut; cases uncut
      seen := fun q => by rw [seen, cut]; simp [SummaryFold.breakAt, SummaryFold.closeWindow]
      windows := by simp [SummaryFold.breakAt, SummaryFold.closeWindow, SummaryFold.windows]
      window := by rw [cut]; rfl
      windowsRaw := fun uncut => by rw [cut] at uncut; cases uncut
      products := rfl }

theorem SummaryFold.Scans.all (h : s.Scans maxGapMs frames n) :
    List.Forall₂ (WindowOf maxGapMs frames) ((attribution maxGapMs frames).scan n).all s.windows :=
  List.rel_append h.closed h.current

/-- The windows after a frame of a product. -/
theorem SummaryFold.Scans.extendWindow (h : s.Scans maxGapMs frames n) {b : SummaryFold}
    (broken : SummaryFold.BrokenWindows maxGapMs frames n s b) (found : frames[n]? = some frame)
    (label : (attribution maxGapMs frames).label n = some p) {codes : List EvidenceCode}
    (described : ∀ c, c ∈ codes ↔ CodeBy maxGapMs frames p n c) :
    List.Forall₂ (WindowOf maxGapMs frames) ((attribution maxGapMs frames).scan (n + 1)).closed
        (b.extendWindow p frame codes).windowsRaw ∧
      List.Forall₂ (WindowOf maxGapMs frames)
        ((attribution maxGapMs frames).scan (n + 1)).current.toList
        (b.extendWindow p frame codes).window.toList := by
  have inv := Labelling.scanInv (attribution maxGapMs frames) n
  rw [Labelling.scan, Labelling.scanStep, label]
  dsimp only
  cases goesOn : (attribution maxGapMs frames).continues n with
  | true =>
    obtain ⟨r, current, labelled, stop, -⟩ := inv.extend goesOn
    rw [label] at labelled
    obtain rfl : p = r.label := Option.some.inj labelled
    obtain ⟨cut, -⟩ := (continues_iff_product label).1 goesOn
    -- the open window is the one of the open run
    have open' := h.current
    rw [current] at open'
    obtain ⟨w, hw, window⟩ : ∃ w, s.window = some w ∧ WindowOf maxGapMs frames r w := by
      cases hw : s.window with
      | none => rw [hw] at open'; cases open'
      | some w => rw [hw] at open'; cases open'; exact ⟨w, rfl, ‹_›⟩
    have windowKept : b.window = some w := by rw [broken.window, cut, hw]; rfl
    have isRun := inv.isRun r (by simp [Labelling.Scan.all, current])
    have sliced : slice frames r.first n = slice frames r.first r.last ++ [frame] := by
      obtain rfl : n = r.last + 1 := stop.symm
      exact slice_succ found isRun.forward
    unfold SummaryFold.extendWindow
    rw [windowKept]
    dsimp only
    rw [if_pos rfl, if_pos window.productId, current]
    refine ⟨broken.windowsRaw cut ▸ h.closed, .cons ?_ .nil⟩
    exact {
      productId := window.productId
      start := window.start
      stop := found
      components := by simp [window.components, sliced]
      visualTags := by simp [window.visualTags, sliced]
      codes := fun c => by
        rw [List.mem_append, window.codes, described]
        exact or_iff_right_of_imp fun earlier => earlier.later (by omega) }
  | false =>
    have fresh : WindowOf maxGapMs frames ⟨p, n, n⟩ {
        productId := p, start := frame, stop := frame, codes
        components := frameComponents frame, visualTags := frameVisualTags frame } := {
      productId := rfl
      start := found
      stop := found
      components := by simp [slice_self found]
      visualTags := by simp [slice_self found]
      codes := described }
    have opened : b.extendWindow p frame codes = { b.closeWindow with window := some {
        productId := p, start := frame, stop := frame, codes
        components := frameComponents frame, visualTags := frameVisualTags frame } } := by
      unfold SummaryFold.extendWindow
      cases hw : b.window with
      | none => rfl
      | some w =>
        dsimp only
        rw [if_neg]
        rintro rfl
        -- an open window of the same product would go on
        have kept := broken.window
        rw [hw] at kept
        cases cut : (attribution maxGapMs frames).cut n with
        | true => rw [cut] at kept; cases kept
        | false =>
          rw [cut] at kept
          have open' := h.current
          have kept : s.window = some w := kept.symm
          rw [kept] at open'
          have previous := inv.current
          cases current : ((attribution maxGapMs frames).scan n).current with
          | none => rw [current] at open'; cases open'
          | some r =>
            rw [current] at open' previous
            obtain - | ⟨window, -⟩ := open'
            rw [(continues_iff_product label).2 ⟨cut, by rw [← previous, window.productId]; rfl⟩]
              at goesOn
            cases goesOn
    rw [opened]
    refine ⟨?_, .cons fresh .nil⟩
    have all := h.all
    rw [← broken.windows] at all
    exact all

/-- **One turn of the loop** reads one more position. -/
theorem SummaryFold.Scans.turn (h : s.Scans maxGapMs frames n) (found : frames[n]? = some frame)
    {s' : SummaryFold} (turned : s.turn maxGapMs frame = .ok s') : s'.Scans maxGapMs frames (n + 1) := by
  unfold SummaryFold.turn at turned
  split at turned
  · cases turned
  rename_i complete
  cases turned
  have rates : ratesMissing ((attribution maxGapMs frames).cut n) frame = false := by
    rw [attribution_cut found, ← h.previous]
    simpa using complete
  have broken := h.broken found
  rw [SummaryFold.step]
  generalize (if discontinuity maxGapMs s.previous frame then s.breakAt else s) = b at broken ⊢
  rw [h.previous, ← attribution_cut found]
  have label : (attribution maxGapMs frames).label n = mappedProductId frame :=
    attribution_label found
  unfold SummaryFold.read
  cases hp : mappedProductId frame with
  | none =>
    rw [hp] at label
    have all := h.all
    rw [← broken.windows] at all
    exact {
      previous := found.symm
      previousProduct := label.symm
      met := fun q => by
        rw [Labelling.Met, label]
        exact (broken.seen q).trans (by simp)
      closed := by rw [Labelling.scan, Labelling.scanStep, label]; exact all
      current := by rw [Labelling.scan, Labelling.scanStep, label]; exact .nil
      products := fun q => by
        have kept : b.productAcc q = s.productAcc q := congrFun broken.products q
        exact kept ▸ (h.products q).other found (by rw [label]; simp) }
  | some p =>
    rw [hp] at label
    obtain ⟨acc, hacc⟩ : ∃ acc, (((b.productAcc p).attend frame).compare p b.previous
        ((attribution maxGapMs frames).cut n) b.previousProduct b.seenProducts frame).addDerived
          ((attribution maxGapMs frames).cut n) frame = acc := ⟨_, rfl⟩
    have gathered : acc.At maxGapMs frames p (n + 1) := by
      rw [← hacc, broken.products, broken.previous]
      exact (h.products p).visit found label broken.previousProduct (fun _ => broken.seen p) rates
    -- the product's record goes in before the window is extended
    obtain ⟨d, hd, same⟩ : ∃ d : SummaryFold,
        b.visit ((attribution maxGapMs frames).cut n) p frame = d.extendWindow p frame acc.codes ∧
        d = { b with byProduct := b.byProduct.set p acc, seenProducts := p :: b.seenProducts } :=
      ⟨_, by rw [SummaryFold.visit, hacc], rfl⟩
    have windows : SummaryFold.BrokenWindows maxGapMs frames n s d := by
      rw [same]
      exact ⟨broken.windows, broken.window, broken.windowsRaw⟩
    have kept : (d.extendWindow p frame acc.codes).seenProducts = p :: b.seenProducts := by
      rw [same]
      unfold SummaryFold.extendWindow
      repeat' split
      all_goals rfl
    obtain ⟨closed, current⟩ := h.extendWindow windows found label gathered.codes
    dsimp only
    rw [hd]
    exact {
      previous := found.symm
      previousProduct := label.symm
      met := fun q => by
        dsimp only
        rw [kept, Labelling.Met, label, List.mem_cons, broken.seen q, Option.some.injEq, eq_comm]
      closed := closed
      current := current
      products := fun q => by
        refine (congrArg (ProductAcc.At maxGapMs frames q (n + 1))
          (d.productAcc_extendWindow p frame acc.codes q)).mpr ?_
        by_cases hq : q = p
        · subst hq
          rw [same]
          simpa [SummaryFold.productAcc] using gathered
        · have other : d.productAcc q = s.productAcc q := by
            rw [← broken.products, same]
            simp [SummaryFold.productAcc, Dict.get?_set_ne _ hq]
          rw [other]
          exact (h.products q).other found (by rw [label]; simpa using Ne.symm hq) }

/-- **The whole loop** reads all positions. -/
theorem summaryLoop_scans {s' : SummaryFold}
    (looped : frames.foldlM (SummaryFold.turn maxGapMs) {} = .ok s') :
    s'.Scans maxGapMs frames frames.length := by
  have step : ∀ k frame (s s' : SummaryFold), frames[k]? = some frame → s.Scans maxGapMs frames k →
      s.turn maxGapMs frame = .ok s' → s'.Scans maxGapMs frames (k + 1) :=
    fun k frame s s' found h turned => h.turn found turned
  refine foldlM_positions step ?_ looped
  exact {
    previous := rfl
    previousProduct := rfl
    met := fun q => by constructor <;> rintro ⟨⟩
    closed := .nil
    current := .nil
    products := fun q => ⟨rfl, le_rfl, rfl, rfl, by simp [SummaryFold.productAcc], by
      simp [SummaryFold.productAcc]⟩ }

end Loop

end Mkk.Api
