import Mkk.Eye.GazeStabilizer
import Mathlib.Tactic.NormNum

/-!
# The jump filter

Over whole runs of calls on a `GazeStabilizer`: a confirmed point is near the point confirmed before it,
or slow to reach, or close to a candidate held just before it.
-/

namespace Mkk.Eye

open Lib

variable {S ε : Type} {c : StabilizerConfig S ε}

/-! ## Comparisons -/

/-- A distance in diagonals of the viewport. -/
noncomputable def diagonals (c : StabilizerConfig S ε) (p q : ℤ × ℤ) : ℝ :=
  √(((p.1 : ℝ) - q.1) ^ 2 + ((p.2 : ℝ) - q.2) ^ 2) / √((c.width : ℝ) ^ 2 + (c.height : ℝ) ^ 2)

theorem value_distanceRatio (p q : ℤ × ℤ) : (distanceRatio c p q).value = diagonals c p q := by
  unfold distanceRatio diagonals
  rw [Root.value_div, Root.value_hypot, Root.value_hypot]
  push_cast
  rfl

theorem closeTolerance_cast : ((closeTolerance : ℚ) : ℝ) = 1 / 10 ^ 12 := by
  unfold closeTolerance
  norm_num

theorem greaterThanOrEqual_iff {r : Root} {b : ℚ} (boundary : 0 ≤ b) : greaterThanOrEqual r b = true ↔
    (b : ℝ) < r.value ∨ IsClose r.value (b : ℝ) (1 / 10 ^ 12) (1 / 10 ^ 12) := by
  rw [lt_or_isClose_iff_le Root.value_nonneg (Rat.cast_nonneg.2 boundary) (by positivity),
    ← closeTolerance_cast]
  unfold greaterThanOrEqual
  rw [Root.atLeast_iff]
  push_cast
  rfl

theorem lessThanOrEqual_iff {r : Root} {b : ℚ} (boundary : 0 ≤ b) (low : b + closeTolerance ≤ 1) :
    lessThanOrEqual r b = true ↔
      r.value < b ∨ IsClose r.value (b : ℝ) (1 / 10 ^ 12) (1 / 10 ^ 12) := by
  have room : (b : ℝ) + 1 / 10 ^ 12 ≤ 1 := by
    rw [← closeTolerance_cast]
    exact_mod_cast low
  rw [lt_or_isClose_iff_ge Root.value_nonneg (Rat.cast_nonneg.2 boundary) (by positivity) (by norm_num)
    room, ← closeTolerance_cast]
  unfold lessThanOrEqual
  rw [Root.atMost_iff]
  push_cast
  rfl

/-- What is not above a boundary or close to it is below. -/
theorem lt_of_not_greaterThanOrEqual {r : Root} {b : ℚ} (boundary : 0 ≤ b)
    (h : greaterThanOrEqual r b = false) : r.value < b := by
  have refused := (greaterThanOrEqual_iff boundary).not.1 (Bool.eq_false_iff.1 h)
  refine lt_of_le_of_ne (not_lt.1 fun above => refused (.inl above)) fun same => refused (.inr ?_)
  unfold IsClose
  rw [same, sub_self, abs_zero]
  positivity

/-! ## What is recorded -/

/-- The point confirmed last since the state was cleared, and when. -/
def lastConfirmed : List Deed → Option ((ℤ × ℤ) × ℚ)
  | .confirmed point atMs :: _ => some (point, atMs)
  | .held _ :: rest => lastConfirmed rest
  | _ => none

/-- When the last valid input came since the state was cleared. -/
def lastValid : List Deed → Option ℚ
  | .confirmed _ atMs :: _ => some atMs
  | .held candidate :: _ => some candidate.capturedAtMonoMs
  | _ => none

/-- Why a point `q` may be confirmed at `tq` after `p` at `tp`, with `between` held in between. -/
def JumpExplained (c : StabilizerConfig S ε) (limit : ℝ) (q : ℤ × ℤ) (tq : ℚ) (between : List Deed)
    (p : ℤ × ℤ) (tp : ℚ) : Prop :=
  diagonals c q p < 35 / 100 ∨
  (tp < tq ∧ diagonals c q p / ((tq - tp) / 1000) < 3) ∨
  ∃ candidate rest, between = .held candidate :: rest ∧ candidate.capturedAtMonoMs ≤ tq ∧
    tq - candidate.capturedAtMonoMs ≤ 120 ∧ diagonals c q candidate.point ≤ limit

/-- Each confirmed point is explained by what was done since the one before it. -/
def JumpFiltered (c : StabilizerConfig S ε) (limit : ℝ) (deeds : List Deed) : Prop :=
  ∀ later q tq between p tp earlier,
    deeds = later ++ .confirmed q tq :: (between ++ .confirmed p tp :: earlier) →
    (∀ deed ∈ between, ∃ candidate, deed = .held candidate) → JumpExplained c limit q tq between p tp

/-- The state is cleared unasked only after a gap in the valid inputs. -/
def GapsReal (deeds : List Deed) : Prop :=
  ∀ later last now earlier, deeds = later ++ .gap last now :: earlier →
    lastValid earlier = some last ∧ 500 < now - last

/-- The limit of a confirmation, with the tolerance of its comparison. -/
noncomputable def confirmLimit : ℝ := 12 / 100 + 1 / 10 ^ 12

/-- What the state says of the deeds, and what holds of them. -/
structure Filtered (c : StabilizerConfig S ε) (s : StabilizerState S) : Prop where
  point : s.lastConfirmedPoint = (lastConfirmed s.deeds).map (·.1)
  time : s.lastConfirmedAtMs = (lastConfirmed s.deeds).map (·.2)
  valid : s.lastValidInputAtMs = lastValid s.deeds
  pending : ∀ candidate, s.pending = some candidate → ∃ rest, s.deeds = .held candidate :: rest
  jumps : JumpFiltered c confirmLimit s.deeds
  gaps : GapsReal s.deeds

theorem lastConfirmed_append {between earlier : List Deed} {p : ℤ × ℤ} {tp : ℚ}
    (held : ∀ deed ∈ between, ∃ candidate, deed = .held candidate) :
    lastConfirmed (between ++ .confirmed p tp :: earlier) = some (p, tp) := by
  induction between with
  | nil => rfl
  | cons deed rest ih =>
    obtain ⟨candidate, rfl⟩ := held deed List.mem_cons_self
    exact ih fun d member => held d (List.mem_cons_of_mem _ member)

/-- A new confirmed point needs its own explanation only. -/
theorem JumpFiltered.confirm {deeds : List Deed} {limit : ℝ} {q : ℤ × ℤ} {tq : ℚ}
    (h : JumpFiltered c limit deeds)
    (explained : ∀ between p tp earlier, deeds = between ++ .confirmed p tp :: earlier →
      lastConfirmed deeds = some (p, tp) → JumpExplained c limit q tq between p tp) :
    JumpFiltered c limit (.confirmed q tq :: deeds) := by
  intro later q' tq' between p tp earlier split held
  cases later with
  | nil =>
    obtain ⟨same, rest⟩ := List.cons.inj split
    cases same
    exact explained between p tp earlier rest (rest ▸ lastConfirmed_append held)
  | cons deed later =>
    exact h later q' tq' between p tp earlier (List.cons.inj split).2 held

theorem JumpFiltered.other {deeds : List Deed} {limit : ℝ} {deed : Deed} (h : JumpFiltered c limit deeds)
    (other : ∀ point atMs, deed ≠ .confirmed point atMs) : JumpFiltered c limit (deed :: deeds) := by
  intro later q tq between p tp earlier split held
  cases later with
  | nil => exact absurd (List.cons.inj split).1 (other q tq)
  | cons deed' later => exact h later q tq between p tp earlier (List.cons.inj split).2 held

theorem GapsReal.other {deeds : List Deed} {deed : Deed} (h : GapsReal deeds)
    (real : ∀ last now, deed = .gap last now → lastValid deeds = some last ∧ 500 < now - last) :
    GapsReal (deed :: deeds) := by
  intro later last now earlier split
  cases later with
  | nil =>
    obtain ⟨same, rfl⟩ := List.cons.inj split
    exact real last now same
  | cons deed' later => exact h later last now earlier (List.cons.inj split).2

/-! ## Steps -/

/-- A point is being looked at: its time is noted, and no candidate waits. -/
structure Considering (c : StabilizerConfig S ε) (now : ℚ) (deeds : List Deed) (s : StabilizerState S) :
    Prop where
  recorded : s.deeds = deeds
  point : s.lastConfirmedPoint = (lastConfirmed deeds).map (·.1)
  time : s.lastConfirmedAtMs = (lastConfirmed deeds).map (·.2)
  valid : s.lastValidInputAtMs = some now
  pending : s.pending = none
  jumps : JumpFiltered c confirmLimit deeds
  gaps : GapsReal deeds

section

variable {s : StabilizerState S} {now : ℚ} {deeds : List Deed} {point : ℤ × ℤ}

/-- The smoother is of no concern to what is recorded. -/
theorem Filtered.smooth (h : Filtered c s) (smoother : Option S) :
    Filtered c { s with smoother := smoother } :=
  { h with }

theorem filtered_smootherFor ( reinitialize : Bool) :
    Triple (Filtered c) (smootherFor c point reinitialize) (fun _ => Filtered c) fun _ => Filtered c := by
  have created (smoother : S) : Triple (Filtered c) (do
        modify fun s => { s with smoother := some smoother }
        return smoother : Stabilizing S ε S) (fun _ => Filtered c) fun _ => Filtered c :=
    Triple.bind (Triple.modify fun s h => h.smooth _) fun _ => Triple.pure fun _ h => h
  unfold smootherFor
  refine Triple.read fun s h => ?_
  split
  · exact Triple.pure fun _ same => same ▸ h
  · split
    · exact (created _).before fun _ same => same ▸ h
    · exact Triple.throw fun _ same => same ▸ h

/-- A confirmed point needs an explanation. -/
theorem filtered_accept ( reinitialize : Bool)
    (explained : ∀ between p tp earlier, deeds = between ++ .confirmed p tp :: earlier →
      lastConfirmed deeds = some (p, tp) → JumpExplained c confirmLimit point now between p tp) :
    Triple (Considering c now deeds) (accept c point now reinitialize) (fun _ => Filtered c)
      fun _ => Filtered c := by
  unfold accept
  refine Triple.bind (Q := fun _ => Filtered c) (Triple.modify fun s h => ?_) fun _ => ?_
  · obtain ⟨rfl, -, -, valid, pending, jumps, gaps⟩ := h
    exact ⟨rfl, rfl, valid, fun _ waits => absurd (pending.symm.trans waits) nofun,
      jumps.confirm explained, gaps.other fun _ _ => nofun⟩
  · refine (filtered_smootherFor reinitialize).bind fun smoother => ?_
    refine Triple.bind (Q := fun _ => Filtered c) (Triple.modify fun s h => h.smooth _) fun _ => ?_
    split
    · exact Triple.throw fun _ h => h
    · exact Triple.ite (fun _ => Triple.pure fun _ h => h) fun _ => Triple.pure fun _ h => h

/-- A point that is near the last one, or slow to reach, is explained by it. -/
theorem jumpExplained_of_refused {last : ℤ × ℤ} {atMs : ℚ}
    (refused : (greaterThanOrEqual (distanceRatio c point last) rapidShiftDistanceDiagonal &&
      fastEnough (distanceRatio c point last) (now - atMs)) = false) (between : List Deed) :
    JumpExplained c confirmLimit point now between last atMs := by
  rcases Bool.and_eq_false_iff.1 refused with near | slow
  · have below := lt_of_not_greaterThanOrEqual (by unfold rapidShiftDistanceDiagonal; norm_num) near
    rw [value_distanceRatio] at below
    refine .inl (below.trans_eq ?_)
    unfold rapidShiftDistanceDiagonal
    norm_num
  · unfold fastEnough at slow
    obtain ⟨passed, below⟩ := Bool.or_eq_false_iff.1 slow
    have positive : 0 < now - atMs := not_le.1 (of_decide_eq_false passed)
    have slower := lt_of_not_greaterThanOrEqual
      (by unfold rapidShiftSpeedDiagonalPerSecond; norm_num) below
    rw [Root.value_div, value_distanceRatio, Root.value_ofRat (by positivity)] at slower
    refine .inr (.inl ⟨by linarith, ?_⟩)
    unfold rapidShiftSpeedDiagonalPerSecond at slower
    push_cast at slower
    exact slower

theorem filtered_evaluateFromConfirmed :
    Triple (Considering c now deeds) (evaluateFromConfirmed c point now) (fun _ => Filtered c)
      fun _ => Filtered c := by
  unfold evaluateFromConfirmed
  refine Triple.read fun s h => ?_
  split
  next last atMs foundPoint foundTime =>
    have known : lastConfirmed deeds = some (last, atMs) := by
      rw [h.point] at foundPoint
      rw [h.time] at foundTime
      cases confirmed : lastConfirmed deeds with
      | none => exact absurd (confirmed ▸ foundPoint) nofun
      | some pair =>
        rw [confirmed] at foundPoint foundTime
        exact congrArg some (Prod.ext (Option.some.inj foundPoint) (Option.some.inj foundTime))
    dsimp only
    refine Triple.ite (fun _ => ?_) fun refused => ?_
    · refine Triple.bind (Q := fun _ => Filtered c) (Triple.modify fun s' same => ?_)
        fun _ => Triple.pure fun _ h => h
      obtain rfl : s' = s := same
      obtain ⟨rfl, point, time, valid, -, jumps, gaps⟩ := h
      exact ⟨point, time, valid, fun _ waits => ⟨_, congrArg (Deed.held · :: _) (Option.some.inj waits)⟩,
        jumps.other fun _ _ => nofun, gaps.other fun _ _ => nofun⟩
    · refine (filtered_accept false fun between p tp earlier _ confirmed => ?_).before
        fun _ same => same ▸ h
      obtain ⟨rfl, rfl⟩ := Prod.mk.inj (Option.some.inj (known.symm.trans confirmed))
      exact jumpExplained_of_refused (Bool.eq_false_iff.2 refused) between
  next missing =>
    refine (filtered_accept true fun between p tp earlier _ confirmed => ?_).before fun _ same => same ▸ h
    rw [h.point, h.time, confirmed] at missing
    exact absurd rfl (missing p tp rfl)

/-- What a gap leaves is recorded, and the points before it are forgotten. -/
theorem Filtered.resetAfterGap (h : Filtered c s) (now : ℚ) : Filtered c (s.resetAfterGap now) := by
  unfold StabilizerState.resetAfterGap
  split
  next last valid =>
    split
    next far =>
      unfold invalidResetGapMs at far
      refine ⟨rfl, rfl, rfl, nofun, h.jumps.other fun _ _ => nofun, h.gaps.other fun _ _ same => ?_⟩
      cases same
      exact ⟨h.valid ▸ valid, far⟩
    · exact h
  · exact h

theorem Filtered.expire (h : Filtered c s) (now : ℚ) : Filtered c (s.expire now) :=
  { h with pending := fun candidate waits => h.pending candidate (Option.filter_eq_some_iff.1 waits).1 }

theorem filtered_consider (order : ∀ last, s.lastValidInputAtMs = some last → last ≤ now)
    (h : Filtered c s) :
    Triple (· = s) (consider c point now) (fun _ => Filtered c) fun _ => Filtered c := by
  have kept := h.resetAfterGap now
  have inOrder : ∀ last, (s.resetAfterGap now).lastValidInputAtMs = some last → last ≤ now := by
    unfold StabilizerState.resetAfterGap
    split
    · split
      · exact nofun
      · exact order
    · exact order
  unfold consider
  refine Triple.bind (Q := fun _ => (· = { s.resetAfterGap now with lastValidInputAtMs := some now }))
    (Triple.modify fun s' same => by rw [same]) fun _ => ?_
  refine Triple.read fun s' same => ?_
  generalize s.resetAfterGap now = cleared at kept inOrder same
  subst same
  have considering (pending : Option RapidShiftCandidate) (none : pending = Option.none) :
      Considering c now cleared.deeds
        { cleared with pending := pending, lastValidInputAtMs := some now } :=
    ⟨rfl, kept.point, kept.time, rfl, none, kept.jumps, kept.gaps⟩
  dsimp only
  split
  next candidate waits =>
    refine Triple.bind (Q := fun _ => Considering c now cleared.deeds)
      (Triple.modify fun s' same => same ▸ considering _ rfl) fun _ => ?_
    refine Triple.ite (fun confirmed => filtered_accept true fun between p tp earlier split _ => ?_)
      fun _ => filtered_evaluateFromConfirmed
    obtain ⟨rest, first⟩ := kept.pending candidate waits
    unfold confirms at confirmed
    obtain ⟨inTime, near⟩ := Bool.and_eq_true_iff.1 confirmed
    have limited : diagonals c point candidate.point ≤ confirmLimit := by
      rw [← value_distanceRatio]
      refine (Root.atMost_iff.1 near).trans_eq ?_
      unfold rapidShiftConfirmDistanceDiagonal closeTolerance confirmLimit
      norm_num
    have before : candidate.capturedAtMonoMs ≤ now :=
      inOrder _ (kept.valid.trans (by rw [first]; rfl))
    cases between with
    | nil => exact absurd (first.symm.trans split) nofun
    | cons deed between =>
      obtain ⟨rfl, -⟩ := List.cons.inj (first.symm.trans split)
      exact .inr (.inr ⟨candidate, between, rfl, before, of_decide_eq_true inTime, limited⟩)
  next none =>
    exact filtered_evaluateFromConfirmed.before fun s' same => same ▸ considering _ none

theorem runs_validateTimestamp (ms : PyFloat) :
    Triple (· = s) (validateTimestamp ms : Stabilizing S ε ℚ) (fun _ => (· = s)) fun _ => (· = s) := by
  unfold validateTimestamp
  split
  · exact Triple.ite (fun _ => Triple.throw fun _ same => same) fun _ => Triple.pure fun _ same => same
  · exact Triple.throw fun _ same => same

theorem filtered_processValid (h : Filtered c s) (x y ms : PyFloat) :
    Triple (· = s) (processValid c x y ms) (fun _ => Filtered c) fun _ => Filtered c := by
  unfold processValid
  refine Triple.bind ((runs_validateTimestamp ms).weaken (fun _ same => same) (fun _ _ same => same)
    fun _ _ same => same ▸ h) fun now => ?_
  split
  · refine Triple.ite (fun _ => Triple.read fun s' same => ?_) fun _ => Triple.pure fun _ same => same ▸ h
    subst same
    refine Triple.ite (fun _ => Triple.pure fun _ same => same ▸ h) fun inOrder => ?_
    refine filtered_consider (fun last valid => ?_) h
    rw [valid] at inOrder
    exact not_lt.1 (of_decide_eq_false (Bool.eq_false_iff.2 inOrder))
  · exact Triple.pure fun _ same => same ▸ h

theorem filtered_observeInvalid (h : Filtered c s) (ms : PyFloat) (reason : String) :
    Triple (· = s) (observeInvalid ms reason : Stabilizing S ε _) (fun _ => Filtered c)
      fun _ => Filtered c := by
  unfold observeInvalid
  refine Triple.bind ((runs_validateTimestamp ms).weaken (fun _ same => same) (fun _ _ same => same)
    fun _ _ same => same ▸ h) fun now => ?_
  exact Triple.bind (Q := fun _ => Filtered c)
    (Triple.modify fun s' same => same ▸ (h.expire now).resetAfterGap now) fun _ => Triple.pure fun _ h => h

/-- A call keeps what is recorded in order. -/
theorem Filtered.after (h : Filtered c s) (call : StabilizerCall) : Filtered c (call.after c s) := by
  cases call with
  | processValid x y ms => exact (filtered_processValid h x y ms).left rfl
  | observeInvalid ms reason => exact (filtered_observeInvalid h ms reason).left rfl
  | reset =>
    exact ⟨rfl, rfl, rfl, nofun, h.jumps.other fun _ _ => nofun, h.gaps.other fun _ _ => nofun⟩

/-- The record of a run, by induction on the calls. -/
theorem filtered_stabilized (calls : List StabilizerCall) : Filtered c (stabilized c calls) := by
  have kept (s : StabilizerState S) (h : Filtered c s) :
      Filtered c (calls.foldl (StabilizerCall.after c) s) := by
    induction calls generalizing s with
    | nil => exact h
    | cons call rest ih => exact ih _ (h.after call)
  refine kept {} ⟨rfl, rfl, rfl, nofun, ?_, ?_⟩
  · intro later q tq between p tp earlier split
    exact absurd split.symm (List.append_ne_nil_of_right_ne_nil _ (List.cons_ne_nil _ _))
  · intro later last now earlier split
    exact absurd split.symm (List.append_ne_nil_of_right_ne_nil _ (List.cons_ne_nil _ _))

/-! ## Late points and returned points -/

/-- A point before the last valid input changes nothing. -/
theorem processValid_late {last : ℚ} {x y ms : PyFloat} (valid : s.lastValidInputAtMs = some last)
    (late : ∀ q, ms = .finite q → q < last) : leftBy ((processValid c x y ms).run s) = s := by
  have same : Triple (· = s) (processValid c x y ms) (fun _ => (· = s)) fun _ => (· = s) := by
    unfold processValid
    refine Triple.bind (Q := fun now s' => now < last ∧ s' = s) ?_ fun now => Triple.assuming fun early => ?_
    · unfold validateTimestamp
      split
      next q =>
        exact Triple.ite (fun _ => Triple.throw fun _ same => same)
          fun _ => Triple.pure fun _ same => ⟨late q rfl, same⟩
      · exact Triple.throw fun _ same => same
    · split
      · refine Triple.ite (fun _ => Triple.read fun s' same => ?_) fun _ => Triple.pure fun _ same => same
        subst same
        refine Triple.ite (fun _ => Triple.pure fun _ same => same) fun inOrder => absurd ?_ inOrder
        rw [valid]
        exact decide_eq_true early
      · exact Triple.pure fun _ same => same
  exact same.left rfl

/-- A decision with coordinates has them inside the viewport. -/
def StabilizerDecision.Inside (c : StabilizerConfig S ε) (decision : StabilizerDecision) : Prop :=
  ∀ x y, decision = .valid x y → (0 ≤ x ∧ x ≤ c.width) ∧ 0 ≤ y ∧ y ≤ c.height

theorem inside_invalid (reason : String) : (StabilizerDecision.invalid reason).Inside c := nofun

theorem truncate_mem {q : ℚ} {n : ℤ} (h : 0 ≤ q ∧ q ≤ n) : 0 ≤ truncate q ∧ truncate q ≤ n := by
  have floor : truncate q = ⌊q⌋ := by
    unfold truncate
    rw [Int.tdiv_eq_ediv_of_nonneg (Rat.num_nonneg.2 h.1), Rat.floor_def']
  rw [floor]
  exact ⟨Int.floor_nonneg.2 h.1, Int.cast_le.1 ((Int.floor_le q).trans h.2)⟩

/-- What is returned is inside; anything may be raised. -/
abbrev Returns (x : Stabilizing S ε StabilizerDecision) (c : StabilizerConfig S ε) : Prop :=
  Triple (fun _ => True) x (fun decision _ => decision.Inside c) fun _ _ => True

theorem triple_true {α : Type} (x : Stabilizing S ε α) :
    Triple (fun _ => True) x (fun _ _ => True) fun _ _ => True := by
  intro s _
  split <;> trivial

theorem returns_accept ( reinitialize : Bool) : Returns (accept c point now reinitialize) c := by
  unfold accept
  refine (triple_true _).bind fun _ => (triple_true _).bind fun _ => (triple_true _).bind fun _ => ?_
  split
  · exact Triple.throw fun _ _ => trivial
  next filtered =>
    refine Triple.ite (fun inside => Triple.pure fun _ _ => ?_) fun _ => Triple.pure fun _ _ => inside_invalid _
    intro x y same
    obtain ⟨rfl, rfl⟩ := StabilizerDecision.valid.inj same
    have within := of_decide_eq_true inside
    exact ⟨truncate_mem within.1, truncate_mem within.2⟩

theorem returns_evaluateFromConfirmed : Returns (evaluateFromConfirmed c point now) c := by
  unfold evaluateFromConfirmed
  refine Triple.read fun s _ => ?_
  split
  · refine Triple.ite (fun _ => ?_) fun _ => (returns_accept _).before fun _ _ => trivial
    exact ((triple_true _).before fun _ _ => trivial).bind fun _ => Triple.pure fun _ _ => inside_invalid _
  · exact (returns_accept _).before fun _ _ => trivial

theorem returns_consider : Returns (consider c point now) c := by
  unfold consider
  refine (triple_true _).bind fun _ => Triple.read fun s _ => ?_
  split
  · refine ((triple_true _).before fun _ _ => trivial).bind fun _ => ?_
    exact Triple.ite (fun _ => returns_accept _) fun _ => returns_evaluateFromConfirmed
  · exact returns_evaluateFromConfirmed.before fun _ _ => trivial

theorem inside_decision (call : StabilizerCall) {decision : StabilizerDecision}
    (decided : call.decision c s = some decision) : decision.Inside c := by
  cases call with
  | processValid x y ms =>
    have returns : Returns (processValid c x y ms) c := by
      unfold processValid
      refine (triple_true _).bind fun _ => ?_
      split
      · refine Triple.ite (fun _ => Triple.read fun s _ => ?_) fun _ =>
          Triple.pure fun _ _ => inside_invalid _
        refine Triple.ite (fun _ => Triple.pure fun _ _ => inside_invalid _) fun _ => ?_
        exact returns_consider.before fun _ _ => trivial
      · exact Triple.pure fun _ _ => inside_invalid _
    exact returns.returned trivial decided
  | observeInvalid ms reason =>
    have returns : Returns (observeInvalid ms reason) c := by
      unfold observeInvalid
      exact (triple_true _).bind fun _ => (triple_true _).bind fun _ =>
        Triple.pure fun _ _ => inside_invalid _
    exact returns.returned trivial decided
  | reset => exact absurd decided nofun

/-- **The jump filter**, over any run: a confirmed point is near the one before it, or slow to reach, or
close to a candidate held just before; the state is cleared only when asked or after a gap; a point that
comes late changes nothing; a valid decision is inside the viewport. -/
theorem gaze_stabilized (c : StabilizerConfig S ε) (calls : List StabilizerCall) :
    JumpFiltered c (12 / 100 + 1 / 10 ^ 12) (stabilized c calls).deeds ∧
    GapsReal (stabilized c calls).deeds ∧
    (∀ last x y ms, (stabilized c calls).lastValidInputAtMs = some last →
      (∀ q, ms = .finite q → q < last) →
      StabilizerCall.after c (stabilized c calls) (.processValid x y ms) = stabilized c calls) ∧
    ∀ call decision, StabilizerCall.decision c (stabilized c calls) call = some decision →
      decision.Inside c :=
  ⟨(filtered_stabilized calls).jumps, (filtered_stabilized calls).gaps,
    fun _ _ _ _ valid late => processValid_late valid late,
    fun call _ decided => inside_decision call decided⟩

end

/-- A viewport so wide that the tolerance of a comparison is wider than a pixel's part of it. -/
def wideConfig : StabilizerConfig Unit Empty where
  width := 1500000
  height := 2000000
  emaAlpha := 1 / 4
  smoothing := { create := fun _ _ => .ok (), step := fun _ point => (.ok (point.1, point.2), ()) }
  widthPos := by decide
  heightPos := by decide
  alphaUnit := by norm_num

/-- A jump that is confirmed by a point just beyond the limit. -/
theorem confirmed_beyond_limit :
    ¬∀ calls, JumpFiltered wideConfig (12 / 100) (stabilized wideConfig calls).deeds := by
  intro filtered
  have explained := filtered [.processValid (.finite 0) (.finite 0) (.finite 0),
    .processValid (.finite 1000000) (.finite 1000000) (.finite 10),
    .processValid (.finite 1300000) (.finite 1000001) (.finite 20)]
    [] (1300000, 1000001) 20 [.held ⟨(1000000, 1000000), 10⟩] (0, 0) 0 []
    (by decide +kernel) fun deed member => ⟨_, List.mem_singleton.1 member⟩
  have far : (1 / 2 : ℚ) ≤ diagonals wideConfig (1300000, 1000001) (0, 0) := by
    rw [← value_distanceRatio, ← Root.atLeast_iff]
    decide +kernel
  have apart : ¬diagonals wideConfig (1300000, 1000001) (1000000, 1000000) ≤ ((12 / 100 : ℚ) : ℝ) := by
    rw [← value_distanceRatio, ← Root.atMost_iff]
    decide +kernel
  push_cast at far apart
  rcases explained with near | ⟨-, slow⟩ | ⟨candidate, rest, same, -, -, close⟩
  · linarith
  · norm_num at slow
    linarith
  · obtain ⟨held, -⟩ := List.cons.inj same
    rw [← Deed.held.inj held] at close
    exact apart close

end Mkk.Eye
