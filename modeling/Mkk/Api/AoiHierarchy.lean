import Mkk.Api.Aoi

/-!
# The hierarchy of reviewed AOIs

`LookbookAoiMetadataV2.validate_approval_and_hierarchy`. Its first loop compares an exposure with its parent
only, its second follows the parents to the end. The first one makes the specificity rank fall on the way
up, so that the second always ends at a root.
-/

namespace Mkk.Api

open Lib

/-! ## The validator -/

/-- An exposure of the list. -/
abbrev Listed (exposures : List AoiExposureV2) := {e : AoiExposureV2 // e ∈ exposures}

/-- `by_id`; of two exposures with one id it has the later. -/
def byId (exposures : List AoiExposureV2) (aoiId : String) : Option (Listed exposures) :=
  exposures.attach.reverse.find? (·.1.aoiId == aoiId)

/-- `by_id.get(exposure.parent_aoi_id)` of an exposure that names a parent. -/
def parentOf (exposures : List AoiExposureV2) (exposure : AoiExposureV2) : Option (Listed exposures) :=
  exposure.parentAoiId.bind (byId exposures)

/-- The first loop at one exposure. -/
def checkExposure (durationMs : ℕ) (exposures : List AoiExposureV2) (exposure : AoiExposureV2) :
    Except PyError Unit :=
  if exposure.endMs > durationMs then
    .error (.valueError "AOI time range exceeds the canonical media duration")
  else
    match exposure.parentAoiId with
    | none =>
      if exposure.specificityRank ≠ 0 then
        .error (.valueError "root AOI specificity_rank must be zero")
      else .ok ()
    | some parentAoiId =>
      match byId exposures parentAoiId with
      | none => .error (.valueError "parent_aoi_id must reference an AOI in the same revision")
      | some parent =>
        if parent.1.productId ≠ exposure.productId then
          .error (.valueError "parent and child AOIs must reference the same product")
        else if parent.1.specificityRank ≥ exposure.specificityRank then
          .error (.valueError "child AOI specificity_rank must be greater than its parent")
        else if parent.1.startMs > exposure.startMs ∨ parent.1.endMs < exposure.endMs then
          .error (.valueError "parent AOI time range must contain the child range")
        else .ok ()

/-- The first loop. -/
def checkExposures (durationMs : ℕ) (exposures : List AoiExposureV2) :
    List AoiExposureV2 → Except PyError Unit
  | [] => .ok ()
  | exposure :: rest => do
    checkExposure durationMs exposures exposure
    checkExposures durationMs exposures rest

/-- How the walk up the parents ends: at an exposure without a parent, at an id it has seen, or where
`by_id` has no such parent. -/
inductive WalkEnd (exposures : List AoiExposureV2) where
  | root (exposure : Listed exposures)
  | cycle
  | keyError

/-- The exposures whose ids the walk has not seen become fewer. -/
theorem unseen_decreases {exposures : List AoiExposureV2} {seen : List String} {e : AoiExposureV2}
    (member : e ∈ exposures) (unseen : e.aoiId ∉ seen) :
    (exposures.filter fun x => x.aoiId ∉ e.aoiId :: seen).length <
      (exposures.filter fun x => x.aoiId ∉ seen).length := by
  have split : (exposures.filter fun x => x.aoiId ∉ e.aoiId :: seen) =
      (exposures.filter fun x => x.aoiId ∉ seen).filter fun x => x.aoiId ≠ e.aoiId := by
    rw [List.filter_filter]
    refine List.filter_congr fun x _ => ?_
    rw [← Bool.decide_and]
    exact decide_eq_decide.2 (by rw [List.mem_cons, not_or])
  rw [split, List.length_filter_lt_length_iff_exists]
  exact ⟨e, List.mem_filter.2 ⟨member, decide_eq_true unseen⟩, by simp⟩

/-- The second loop from one exposure. -/
def parentWalk (exposures : List AoiExposureV2) (seen : List String) (current : Listed exposures) :
    WalkEnd exposures :=
  match current.1.parentAoiId with
  | none => .root current
  | some parentAoiId =>
    if _unseen : current.1.aoiId ∈ seen then .cycle
    else
      match byId exposures parentAoiId with
      | none => .keyError
      | some parent => parentWalk exposures (current.1.aoiId :: seen) parent
termination_by (exposures.filter fun e => e.aoiId ∉ seen).length
decreasing_by exact unseen_decreases current.2 _unseen

/-- The second loop. A parent that is missing, a `KeyError` in the source, ends it like a cycle here: the
first loop has refused it by then. -/
def walkParents (exposures : List AoiExposureV2) : Except PyError Unit :=
  if exposures.attach.all fun e => match parentWalk exposures [] e with | .root _ => true | _ => false
  then .ok ()
  else .error (.valueError "AOI parent hierarchy cannot contain a cycle")

/-- `validate_approval_and_hierarchy`. -/
def validateApprovalAndHierarchy (approvalStatus : ApprovalStatus) (durationMs : ℕ)
    (exposures : List AoiExposureV2) : Except PyError Unit := do
  if approvalStatus = .pendingReview ∧ exposures ≠ [] then
    .error (.valueError "pending AOI metadata cannot contain unreviewed exposures")
  else if approvalStatus = .approved ∧ exposures = [] then
    .error (.valueError "approved AOI metadata requires at least one exposure")
  else if ¬(exposures.map (·.aoiId)).Nodup then .error (.valueError "aoi_id values must be unique")
  else
    checkExposures durationMs exposures exposures
    walkParents exposures

/-! ## Ancestors -/

/-- An exposure above another one. -/
inductive Ancestor (exposures : List AoiExposureV2) : AoiExposureV2 → AoiExposureV2 → Prop where
  | parent {child : AoiExposureV2} {parent : Listed exposures}
      (h : parentOf exposures child = some parent) : Ancestor exposures child parent.1
  | above {child top : AoiExposureV2} {parent : Listed exposures}
      (h : parentOf exposures child = some parent) (rest : Ancestor exposures parent.1 top) :
      Ancestor exposures child top

/-- `map_frame_to_aoi` looks at an exposure at this video time. -/
def AoiExposureV2.activeAt (e : AoiExposureV2) (videoTimeMs : ℕ) : Prop :=
  e.startMs ≤ videoTimeMs ∧ videoTimeMs < e.endMs

/-- What an exposure and one above it have in common. -/
structure Below (child top : AoiExposureV2) : Prop where
  product : top.productId = child.productId
  rank : top.specificityRank < child.specificityRank
  start : top.startMs ≤ child.startMs
  stop : child.endMs ≤ top.endMs

theorem Below.trans {a b c : AoiExposureV2} (h : Below a b) (h' : Below b c) : Below a c :=
  ⟨h'.product.trans h.product, h'.rank.trans h.rank, h'.start.trans h.start, h.stop.trans h'.stop⟩

theorem Below.active {child top : AoiExposureV2} (h : Below child top) {videoTimeMs : ℕ}
    (active : child.activeAt videoTimeMs) : top.activeAt videoTimeMs :=
  ⟨h.start.trans active.1, active.2.trans_le h.stop⟩

section
variable {durationMs : ℕ} {exposures : List AoiExposureV2} {e : AoiExposureV2}

/-- What the first loop makes sure of at one exposure. -/
structure ExposureChecked (durationMs : ℕ) (exposures : List AoiExposureV2) (e : AoiExposureV2) : Prop where
  duration : e.endMs ≤ durationMs
  root : e.parentAoiId = none → e.specificityRank = 0
  parent : ∀ parentAoiId, e.parentAoiId = some parentAoiId →
    ∃ parent, byId exposures parentAoiId = some parent ∧ Below e parent.1

theorem exposureChecked (h : checkExposure durationMs exposures e = .ok ()) :
    ExposureChecked durationMs exposures e := by
  unfold checkExposure at h
  split at h
  · cases h
  rename_i duration
  split at h
  · rename_i isRoot
    split_ifs at h with rank
    exact ⟨not_lt.1 duration, fun _ => not_not.1 rank, fun _ named => nomatch isRoot.symm.trans named⟩
  · rename_i parentAoiId named
    refine ⟨not_lt.1 duration, fun isRoot => (nomatch named.symm.trans isRoot), fun other same => ?_⟩
    cases named.symm.trans same
    split at h
    · cases h
    · rename_i parent found
      split_ifs at h with product rank range
      rw [not_or] at range
      exact ⟨parent, found, not_not.1 product, not_le.1 rank, not_lt.1 range.1, not_lt.1 range.2⟩

theorem exposuresChecked {l : List AoiExposureV2} (h : checkExposures durationMs exposures l = .ok ()) :
    ∀ e ∈ l, ExposureChecked durationMs exposures e := by
  induction l with
  | nil => exact fun _ member => nomatch member
  | cons first rest ih =>
    rw [checkExposures, bind_eq_ok_iff] at h
    obtain ⟨_, head, tail⟩ := h
    intro e member
    rcases List.mem_cons.1 member with rfl | member
    · exact exposureChecked head
    · exact ih tail e member

/-- An exposure and its parent. -/
theorem below_parent (all : ∀ e ∈ exposures, ExposureChecked durationMs exposures e) (listed : e ∈ exposures)
    {parent : Listed exposures} (h : parentOf exposures e = some parent) : Below e parent.1 := by
  obtain ⟨parentAoiId, named, found⟩ := Option.bind_eq_some_iff.1 h
  obtain ⟨parent', found', below⟩ := (all e listed).parent parentAoiId named
  rw [found] at found'
  cases found'
  exact below

/-- An exposure and any one above it. -/
theorem below_ancestor (all : ∀ e ∈ exposures, ExposureChecked durationMs exposures e) (listed : e ∈ exposures)
    {top : AoiExposureV2} (h : Ancestor exposures e top) : Below e top := by
  induction h with
  | parent h => exact below_parent all listed h
  | @above child top parent h rest ih => exact (below_parent all listed h).trans (ih parent.2)

/-- Ids that belong to exposures of a higher rank. -/
def SeenAbove (exposures : List AoiExposureV2) (rank : ℕ) (seen : List String) : Prop :=
  ∀ aoiId ∈ seen, ∃ x ∈ exposures, x.aoiId = aoiId ∧ rank < x.specificityRank

/-- An exposure that is a root, or has a root above it. -/
def RootOf (exposures : List AoiExposureV2) (e root : AoiExposureV2) : Prop :=
  root = e ∨ Ancestor exposures e root

theorem RootOf.above {root : AoiExposureV2} {parent : Listed exposures}
    (h : parentOf exposures e = some parent) (rest : RootOf exposures parent.1 root) :
    RootOf exposures e root := by
  rcases rest with rfl | rest
  · exact .inr (.parent h)
  · exact .inr (.above h rest)

/-- Following the parents ends at a root: the rank falls. -/
theorem exists_root (all : ∀ e ∈ exposures, ExposureChecked durationMs exposures e) (current : Listed exposures) :
    ∃ root ∈ exposures, RootOf exposures current.1 root ∧ root.parentAoiId = none ∧
      root.specificityRank = 0 := by
  induction rank : current.1.specificityRank using Nat.strong_induction_on generalizing current with
  | _ rank ih =>
    subst rank
    cases named : current.1.parentAoiId with
    | none => exact ⟨current.1, current.2, .inl rfl, named, (all _ current.2).root named⟩
    | some parentAoiId =>
      obtain ⟨parent, found, below⟩ := (all _ current.2).parent parentAoiId named
      have h : parentOf exposures current.1 = some parent := by
        unfold parentOf
        rw [named]
        exact found
      obtain ⟨root, listed, above, isRoot⟩ := ih _ below.rank parent rfl
      exact ⟨root, listed, above.above h, isRoot⟩

/-- The walk ends at a root: an id that it has seen belongs to an exposure of a higher rank, and so to
another exposure. -/
theorem parentWalk_root (all : ∀ e ∈ exposures, ExposureChecked durationMs exposures e)
    (unique : (exposures.map (·.aoiId)).Nodup) (seen : List String) (current : Listed exposures)
    (higher : SeenAbove exposures current.1.specificityRank seen) :
    ∃ root, parentWalk exposures seen current = .root root ∧ RootOf exposures current.1 root.1 ∧
      root.1.parentAoiId = none ∧ root.1.specificityRank = 0 := by
  induction rank : current.1.specificityRank using Nat.strong_induction_on generalizing current seen with
  | _ rank ih =>
    subst rank
    unfold parentWalk
    split
    · rename_i isRoot
      exact ⟨current, rfl, .inl rfl, isRoot, (all _ current.2).root isRoot⟩
    · rename_i parentAoiId named
      have unseen : current.1.aoiId ∉ seen := by
        intro again
        obtain ⟨x, listed, same, above⟩ := higher _ again
        rw [List.inj_on_of_nodup_map unique listed current.2 same] at above
        exact lt_irrefl _ above
      obtain ⟨parent, found, below⟩ := (all _ current.2).parent parentAoiId named
      have h : parentOf exposures current.1 = some parent := by
        unfold parentOf
        rw [named]
        exact found
      rw [dif_neg unseen, found]
      have higher' : SeenAbove exposures parent.1.specificityRank (current.1.aoiId :: seen) := by
        intro aoiId member
        rcases List.mem_cons.1 member with rfl | member
        · exact ⟨current.1, current.2, rfl, below.rank⟩
        · obtain ⟨x, listed, same, above⟩ := higher aoiId member
          exact ⟨x, listed, same, below.rank.trans above⟩
      obtain ⟨root, ended, above, isRoot⟩ := ih _ below.rank (current.1.aoiId :: seen) parent higher' rfl
      exact ⟨root, ended, above.above h, isRoot⟩

/-- The cycle error is not reached. -/
theorem walkParents_ok (all : ∀ e ∈ exposures, ExposureChecked durationMs exposures e)
    (unique : (exposures.map (·.aoiId)).Nodup) : walkParents exposures = .ok () := by
  unfold walkParents
  refine if_pos (List.all_eq_true.2 fun e _ => ?_)
  obtain ⟨root, ended, -⟩ := parentWalk_root all unique [] e fun _ member => nomatch member
  rw [ended]

/-- What the validator accepted passed the first loop and has no id twice. -/
theorem checked_of_validate {approvalStatus : ApprovalStatus}
    (h : validateApprovalAndHierarchy approvalStatus durationMs exposures = .ok ()) :
    (exposures.map (·.aoiId)).Nodup ∧ checkExposures durationMs exposures exposures = .ok () := by
  unfold validateApprovalAndHierarchy at h
  split_ifs at h with pending empty unique
  rw [bind_eq_ok_iff] at h
  obtain ⟨_, checked, -⟩ := h
  exact ⟨unique, checked⟩

end

/-- **The hierarchy of reviewed AOIs.** After the first loop following the parents of any exposure ends at
a root of rank zero, and, no id being there twice, so does the walk of the second loop; and in accepted
metadata an exposure and each one above it have one product, falling ranks, and time ranges of which the
upper contains the lower. -/
theorem aoi_hierarchy (durationMs : ℕ) (exposures : List AoiExposureV2) :
    (checkExposures durationMs exposures exposures = .ok () → ∀ e : Listed exposures,
      (∃ root ∈ exposures, RootOf exposures e.1 root ∧ root.parentAoiId = none ∧ root.specificityRank = 0) ∧
      ((exposures.map (·.aoiId)).Nodup → walkParents exposures = .ok () ∧
        ∃ root, parentWalk exposures [] e = .root root ∧ root.1.parentAoiId = none ∧
          root.1.specificityRank = 0)) ∧
    ∀ approvalStatus, validateApprovalAndHierarchy approvalStatus durationMs exposures = .ok () →
      ∀ e ∈ exposures, ∀ top, Ancestor exposures e top →
        top.productId = e.productId ∧ top.specificityRank < e.specificityRank ∧
        top.startMs ≤ e.startMs ∧ e.endMs ≤ top.endMs ∧
        ∀ videoTimeMs, e.activeAt videoTimeMs → top.activeAt videoTimeMs := by
  refine ⟨fun h e => ?_, fun approvalStatus h e listed top above => ?_⟩
  · have all := exposuresChecked h
    refine ⟨exists_root all e, fun unique => ?_⟩
    obtain ⟨root, ended, -, isRoot⟩ := parentWalk_root all unique [] e fun _ member => nomatch member
    exact ⟨walkParents_ok all unique, root, ended, isRoot⟩
  · have below := below_ancestor (exposuresChecked (checked_of_validate h).2) listed above
    exact ⟨below.product, below.rank, below.start, below.stop, fun _ active => below.active active⟩

/-- A bag with its clasp. -/
def bagExposures : List AoiExposureV2 :=
  let bag : AoiExposureV2 := {
    aoiId := "bag", parentAoiId := none, specificityRank := 0, startMs := 0, endMs := 60000
    shape := ⟨[(0, 0), (1, 0), (1, 1)], by decide, by decide⟩, productId := "bag-0"
    componentCode := .wholeProduct, observedVisualTagIds := [.classic] }
  [bag, { bag with aoiId := "clasp", parentAoiId := some "bag", specificityRank := 1, startMs := 1000 }]

theorem aoi_hierarchy_bag : (∀ e : Listed bagExposures, ∃ root, parentWalk bagExposures [] e = .root root) ∧
    ∀ e ∈ bagExposures, ∀ top, Ancestor bagExposures e top →
      ∀ videoTimeMs, e.activeAt videoTimeMs → top.activeAt videoTimeMs := by
  have checked : checkExposures 60000 bagExposures bagExposures = .ok () := by decide +kernel
  have unique : (bagExposures.map (·.aoiId)).Nodup := by decide
  have accepted : validateApprovalAndHierarchy .approved 60000 bagExposures = .ok () := by
    unfold validateApprovalAndHierarchy
    rw [if_neg (by decide), if_neg (by decide), if_neg (not_not.2 unique), checked]
    exact walkParents_ok (exposuresChecked checked) unique
  obtain ⟨ends, above⟩ := aoi_hierarchy 60000 bagExposures
  refine ⟨fun e => ?_, fun e listed top h => (above .approved accepted e listed top h).2.2.2.2⟩
  obtain ⟨-, root, ended, -⟩ := (ends checked e).2 unique
  exact ⟨root, ended⟩

end Mkk.Api
