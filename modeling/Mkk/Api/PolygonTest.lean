import Mkk.Api.SourceAoi
import Mkk.Lib.Cyclic

/-!
# Two polygon tests

`_point_in_polygon` of `v2_aoi.py` and `point_is_inside_polygon` of `source_aoi.py` on any list of
vertices. Both say that the point is near an edge or that an odd number of edges cross the ray to its right
(`Inside`), which does not depend on where the list begins or on its direction.
-/

namespace Mkk.Api

open Lib

/-! ## The tests on a list of vertices -/

/-- `_point_in_polygon` of at least one vertex. -/
def pointInVertices (point : ℚ × ℚ) (points : List (ℚ × ℚ)) : Bool :=
  match points.getLast? with
  | none => false
  | some last => pointInPolygonFrom point last points false

/-- The loop of `point_is_inside_polygon` from the vertex `current` on, with its index `previous`. -/
def insideByIndex (point : ℚ × ℚ) (points : List (ℚ × ℚ)) (previous : ℕ) :
    ℕ → List (ℚ × ℚ) → Bool → Bool
  | _, [], inside => inside
  | current, vertex :: rest, inside =>
    let start := points.getD previous vertex
    if pointIsOnSegment point start vertex then true
    else if decide (vertex.2 > point.2) != decide (start.2 > point.2) then
      let intersectionX := (start.1 - vertex.1) * (point.2 - vertex.2) / (start.2 - vertex.2) + vertex.1
      insideByIndex point points current (current + 1) rest
        (if point.1 < intersectionX then !inside else inside)
    else insideByIndex point points current (current + 1) rest inside

/-- `point_is_inside_polygon` of at least one vertex. -/
def pointIsInsideVertices (point : ℚ × ℚ) (points : List (ℚ × ℚ)) : Bool :=
  insideByIndex point points (points.length - 1) 0 points false

/-! ## What they say -/

/-- The edge lies on both sides of the height of the point. -/
def Straddles (point : ℚ × ℚ) (edge : (ℚ × ℚ) × (ℚ × ℚ)) : Prop :=
  ¬(point.2 < edge.2.2 ↔ point.2 < edge.1.2)

/-- The edge crosses the ray to the right of the point: at the height of the point the line through its
ends lies to the right. -/
def CrossesRay (point : ℚ × ℚ) (edge : (ℚ × ℚ) × (ℚ × ℚ)) : Prop :=
  Straddles point edge ∧ ∃ x, point.1 < x ∧
    (x - edge.2.1) * (edge.1.2 - edge.2.2) = (edge.1.1 - edge.2.1) * (point.2 - edge.2.2)

/-- The point is near an edge: within the epsilon of its line, and of the box around it. -/
def NearEdge (point : ℚ × ℚ) (edge : (ℚ × ℚ) × (ℚ × ℚ)) : Prop :=
  |(point.2 - edge.1.2) * (edge.2.1 - edge.1.1) - (point.1 - edge.1.1) * (edge.2.2 - edge.1.2)| ≤
      segmentEpsilon ∧
    min edge.1.1 edge.2.1 - segmentEpsilon ≤ point.1 ∧ point.1 ≤ max edge.1.1 edge.2.1 + segmentEpsilon ∧
    min edge.1.2 edge.2.2 - segmentEpsilon ≤ point.2 ∧ point.2 ≤ max edge.1.2 edge.2.2 + segmentEpsilon

instance (point : ℚ × ℚ) : DecidablePred (Straddles point) := fun _ => inferInstanceAs (Decidable (¬ _))

section
variable {point : ℚ × ℚ} {edge : (ℚ × ℚ) × (ℚ × ℚ)}

/-- The division in the loops is by no zero. -/
theorem Straddles.height_ne_zero (h : Straddles point edge) : edge.1.2 - edge.2.2 ≠ 0 := by
  intro flat
  refine h ?_
  rw [sub_eq_zero.1 flat]

/-- The crossing the loops compute. -/
def crossingX (point : ℚ × ℚ) (edge : (ℚ × ℚ) × (ℚ × ℚ)) : ℚ :=
  (edge.1.1 - edge.2.1) * (point.2 - edge.2.2) / (edge.1.2 - edge.2.2) + edge.2.1

theorem crossesRay_iff : CrossesRay point edge ↔ Straddles point edge ∧ point.1 < crossingX point edge := by
  unfold CrossesRay
  refine and_congr_right fun straddles => ?_
  have height := straddles.height_ne_zero
  have unique (x : ℚ) : (x - edge.2.1) * (edge.1.2 - edge.2.2) =
      (edge.1.1 - edge.2.1) * (point.2 - edge.2.2) ↔ x = crossingX point edge := by
    unfold crossingX
    rw [← sub_eq_iff_eq_add, eq_div_iff height]
  constructor
  · rintro ⟨x, right, on⟩
    rwa [(unique x).1 on] at right
  · intro right
    exact ⟨_, right, (unique _).2 rfl⟩

/-- The test of the loops for one edge. -/
def crosses (point : ℚ × ℚ) (edge : (ℚ × ℚ) × (ℚ × ℚ)) : Bool :=
  (decide (edge.2.2 > point.2) != decide (edge.1.2 > point.2)) && decide (point.1 < crossingX point edge)

theorem crosses_iff : crosses point edge = true ↔ CrossesRay point edge := by
  unfold crosses
  rw [Bool.and_eq_true, crossesRay_iff, decide_eq_true_eq]
  refine and_congr_left fun _ => ?_
  unfold Straddles
  rw [bne_iff_ne, ne_eq, decide_eq_decide]

instance (point : ℚ × ℚ) : DecidablePred (CrossesRay point) := fun _ => decidable_of_iff _ crosses_iff

theorem pointOnSegment_iff : pointOnSegment point edge.1 edge.2 = true ↔ NearEdge point edge := by
  unfold pointOnSegment NearEdge
  dsimp only
  split
  · rename_i far
    simp only [Bool.false_eq_true, false_iff, not_and]
    intro near
    exact absurd near (not_le.2 far)
  · rename_i near
    simp only [Bool.and_eq_true, decide_eq_true_eq, and_assoc]
    exact (and_iff_right (not_lt.1 near)).symm

/-- The cross product of the other test has the opposite sign. -/
theorem pointIsOnSegment_eq (start stop : ℚ × ℚ) :
    pointIsOnSegment point start stop = pointOnSegment point start stop := by
  unfold pointIsOnSegment pointOnSegment
  dsimp only
  rw [abs_sub_comm]

/-! ### The loops -/

/-- Near an edge, or across an odd number of edges when it began outside. -/
theorem pointInPolygonFrom_eq (previous : ℚ × ℚ) (rest : List (ℚ × ℚ)) (inside : Bool) :
    pointInPolygonFrom point previous rest inside =
      ((chainEdges previous rest).any (fun edge => pointOnSegment point edge.1 edge.2) ||
        (inside != decide (Odd ((chainEdges previous rest).countP (crosses point))))) := by
  induction rest generalizing previous inside with
  | nil => cases inside <;> rfl
  | cons current rest ih =>
    rw [chainEdges, pointInPolygonFrom, List.any_cons]
    cases near : pointOnSegment point previous current with
    | true => rw [if_pos rfl, Bool.true_or, Bool.true_or]
    | false =>
      rw [if_neg Bool.false_ne_true, Bool.false_or, odd_countP_cons]
      cases straddles : (decide (current.2 > point.2) != decide (previous.2 > point.2)) with
      | false =>
        have passes : crosses point (previous, current) = false := by
          unfold crosses
          rw [straddles, Bool.false_and]
        rw [if_neg Bool.false_ne_true, ih, passes, if_neg Bool.false_ne_true]
      | true =>
        have right : crosses point (previous, current) =
            decide (point.1 < crossingX point (previous, current)) := by
          unfold crosses
          rw [straddles, Bool.true_and]
        rw [if_pos rfl, ih, right]
        simp only [decide_eq_true_eq]
        rfl

theorem pointIsInsidePolygonFrom_eq (previous : ℚ × ℚ) (rest : List (ℚ × ℚ)) (inside : Bool) :
    pointIsInsidePolygonFrom point previous rest inside = pointInPolygonFrom point previous rest inside := by
  induction rest generalizing previous inside with
  | nil => rfl
  | cons current rest ih =>
    rw [pointIsInsidePolygonFrom, pointInPolygonFrom, pointIsOnSegment_eq]
    dsimp only
    rw [ih, ih]

/-- The index of the loop is that of the vertex before. -/
theorem insideByIndex_eq (points : List (ℚ × ℚ)) (previous current : ℕ) (rest : List (ℚ × ℚ))
    (inside : Bool) {start : ℚ × ℚ} (before : points[previous]? = some start)
    (here : points.drop current = rest) : insideByIndex point points previous current rest inside =
      pointIsInsidePolygonFrom point start rest inside := by
  induction rest generalizing previous current inside start with
  | nil => rfl
  | cons vertex rest ih =>
    have at' : points[current]? = some vertex := by
      rw [← List.head?_drop, here]
      rfl
    have next : points.drop (current + 1) = rest := by
      rw [← List.tail_drop, here]
      rfl
    have known : points.getD previous vertex = start := by
      rw [List.getD_eq_getElem?_getD, before]
      rfl
    rw [insideByIndex, pointIsInsidePolygonFrom]
    dsimp only
    rw [known, ih current (current + 1) _ at' next, ih current (current + 1) _ at' next]

/-! ### What does not matter -/

theorem straddles_swap : Straddles point edge.swap ↔ Straddles point edge := by
  unfold Straddles
  exact not_congr iff_comm

theorem crossesRay_swap : CrossesRay point edge.swap ↔ CrossesRay point edge := by
  unfold CrossesRay
  rw [straddles_swap]
  refine and_congr_right fun _ => exists_congr fun x => and_congr_right fun _ => ?_
  dsimp only [Prod.swap]
  constructor
  · intro on
    linarith
  · intro on
    linarith

theorem nearEdge_swap : NearEdge point edge.swap ↔ NearEdge point edge := by
  unfold NearEdge
  dsimp only [Prod.swap]
  rw [min_comm edge.2.1, max_comm edge.2.1, min_comm edge.2.2, max_comm edge.2.2, ← abs_neg]
  refine and_congr_left fun _ => ?_
  rw [show -((point.2 - edge.2.2) * (edge.1.1 - edge.2.1) - (point.1 - edge.2.1) * (edge.1.2 - edge.2.2)) =
    (point.2 - edge.1.2) * (edge.2.1 - edge.1.1) - (point.1 - edge.1.1) * (edge.2.2 - edge.1.2) by ring]

end

/-- The point is near an edge of the closed polygon, or an odd number of its edges cross the ray. -/
def Inside (point : ℚ × ℚ) (points : List (ℚ × ℚ)) : Prop :=
  (∃ edge ∈ closedEdges points, NearEdge point edge) ∨
    Odd ((closedEdges points).countP fun edge => decide (CrossesRay point edge))

section
variable {point : ℚ × ℚ} {points other : List (ℚ × ℚ)}

theorem pointInVertices_iff : pointInVertices point points = true ↔ Inside point points := by
  unfold pointInVertices Inside closedEdges
  cases points.getLast? with
  | none => simp
  | some last =>
    dsimp only
    rw [pointInPolygonFrom_eq, Bool.or_eq_true, List.any_eq_true, Bool.false_bne, decide_eq_true_eq]
    have same : (chainEdges last points).countP (fun edge => decide (CrossesRay point edge)) =
        (chainEdges last points).countP (crosses point) :=
      List.countP_congr fun edge _ => by rw [decide_eq_true_eq, crosses_iff]
    rw [same]
    exact or_congr_left (exists_congr fun edge => and_congr_right fun _ => pointOnSegment_iff)

theorem pointIsInsideVertices_eq : pointIsInsideVertices point points = pointInVertices point points := by
  unfold pointIsInsideVertices pointInVertices
  cases last : points.getLast? with
  | none =>
    rw [List.getLast?_eq_none_iff.1 last]
    rfl
  | some vertex =>
    have before : points[points.length - 1]? = some vertex := by rw [← List.getLast?_eq_getElem?, last]
    rw [insideByIndex_eq points _ 0 points false before rfl, pointIsInsidePolygonFrom_eq]

/-- The test reads the edges in any order and either direction. -/
theorem inside_congr {swap : Bool} (edges : (closedEdges other).Perm
    (if swap then (closedEdges points).map Prod.swap else closedEdges points)) :
    Inside point other ↔ Inside point points := by
  unfold Inside
  cases swap with
  | false =>
    rw [if_neg Bool.false_ne_true] at edges
    rw [edges.countP_eq]
    exact or_congr_left (exists_congr fun edge => and_congr_left fun _ => edges.mem_iff)
  | true =>
    rw [if_pos rfl] at edges
    rw [edges.countP_eq, List.countP_map]
    refine or_congr ?_ ?_
    · constructor
      · rintro ⟨edge, member, near⟩
        obtain ⟨edge', member', rfl⟩ := List.mem_map.1 (edges.mem_iff.1 member)
        exact ⟨edge', member', nearEdge_swap.1 near⟩
      · rintro ⟨edge, member, near⟩
        exact ⟨edge.swap, edges.mem_iff.2 (List.mem_map.2 ⟨edge, member, rfl⟩), nearEdge_swap.2 near⟩
    · refine iff_of_eq (congrArg Odd (List.countP_congr fun edge _ => ?_))
      simp only [Function.comp_apply, decide_eq_true_eq]
      exact crossesRay_swap

end

/-- **The polygon tests.** Both give one answer, which is true exactly when the point is near an edge or an
odd number of edges cross the ray to its right; it is that of the vertices rotated or reversed; and where the
loops divide by the height of an edge it is not zero. -/
theorem polygon_tests (points : List (ℚ × ℚ)) (point : ℚ × ℚ) :
    pointIsInsideVertices point points = pointInVertices point points ∧
    (pointInVertices point points = true ↔ Inside point points) ∧
    (∀ n, pointInVertices point (points.rotate n) = pointInVertices point points) ∧
    pointInVertices point points.reverse = pointInVertices point points ∧
    ∀ edge ∈ closedEdges points, Straddles point edge → edge.1.2 - edge.2.2 ≠ 0 := by
  refine ⟨pointIsInsideVertices_eq, pointInVertices_iff, fun n => ?_, ?_, fun edge _ h => h.height_ne_zero⟩
  · rw [Bool.eq_iff_iff, pointInVertices_iff, pointInVertices_iff]
    have edges : (closedEdges (points.rotate n)).Perm
        (if false then (closedEdges points).map Prod.swap else closedEdges points) := closedEdges_rotate n
    exact inside_congr edges
  · rw [Bool.eq_iff_iff, pointInVertices_iff, pointInVertices_iff]
    have edges : (closedEdges points.reverse).Perm
        (if true then (closedEdges points).map Prod.swap else closedEdges points) := closedEdges_reverse
    exact inside_congr edges

theorem polygon_tests_triangle : Inside (1 / 2, 1 / 4) [(0, 0), (1, 0), (1, 1)] ∧
    pointIsInsideVertices (1 / 2, 1 / 4) [(0, 0), (1, 0), (1, 1)] = true ∧
    ((1 : ℚ), (1 : ℚ)).2 - ((0 : ℚ), (0 : ℚ)).2 ≠ 0 := by
  obtain ⟨same, meaning, -, -, height⟩ := polygon_tests [(0, 0), (1, 0), (1, 1)] (1 / 2, 1 / 4)
  have inside : pointInVertices (1 / 2, 1 / 4) [(0, 0), (1, 0), (1, 1)] = true := by decide +kernel
  have straddles : Straddles (1 / 2, 1 / 4) ((1, 1), (0, 0)) := by decide +kernel
  exact ⟨meaning.1 inside, same.trans inside, height ((1, 1), (0, 0)) (by decide +kernel) straddles⟩

/-- The tests of a polygon are those of its vertices. -/
theorem pointInPolygon_eq (point : ℚ × ℚ) (shape : Polygon) :
    pointInPolygon point shape = pointInVertices point shape.points ∧
      pointIsInsidePolygon point shape = pointIsInsideVertices point shape.points := by
  have last : shape.points.getLast? = some shape.last := List.getLast?_eq_some_getLast _
  have same : pointInPolygon point shape = pointInVertices point shape.points := by
    unfold pointInVertices
    rw [last]
    rfl
  refine ⟨same, ?_⟩
  rw [pointIsInsideVertices_eq, ← same]
  exact pointIsInsidePolygonFrom_eq _ _ _

end Mkk.Api
