import Mkk.Api.SummaryPass

/-!
# When the evidence models accept what was gathered

Each constructor call of `summarize_observations` with the reason why its limits hold. Three
of them do not hold of every history the store accepts: the rates of a product whose changes
were gathered, the number of its sustained signals, and the number of evidence windows. Nor is there a mean of speeds
whose total no double holds (`ProductAcc.Gathered.gazeSummary_overflow`). `SummaryFits` states these
four on the frames; with it the summary always exists (`summarizeObservations_ok`).
-/

namespace Mkk.Api

open Lib

/-! ## Ratios and identifiers -/

theorem ratioOf_mem {n d : ℕ} (h : n ≤ d) : InUnit (ratioOf n d) := by
  unfold ratioOf
  split
  · rename_i hd
    obtain rfl : n = 0 := by omega
    simp [InUnit]
  · rename_i hd
    have hpos : (0 : ℚ) < d := by exact_mod_cast Nat.pos_of_ne_zero hd
    refine ⟨by positivity, ?_⟩
    rw [div_le_one hpos]
    exact_mod_cast h

theorem ratioOf_eq_zero {n d : ℕ} : ratioOf n d = 0 ↔ n = 0 := by
  unfold ratioOf
  split
  · simp
  · rename_i hd
    simp [hd]

theorem windowId_isIdentifier {n : ℕ} (h : n ≤ 512) : isIdentifier (windowId n) = true := by
  have digits : ∀ c ∈ (toString n).toList, isIdentifierChar c = true := by
    intro c hc
    have hd : c.isDigit = true := by
      rw [Nat.toString_eq_repr, Nat.toList_repr] at hc
      exact Nat.isDigit_of_mem_toDigits (by decide) (by decide) hc
    simp [isIdentifierChar, isAsciiAlnum, Char.isAlphanum, hd]
  have zeros : ∀ c ∈ (String.ofList (List.replicate (4 - (toString n).length) '0')).toList,
      isIdentifierChar c = true := by
    intro c hc
    rw [String.toList_ofList] at hc
    rw [List.eq_of_mem_replicate hc]
    decide
  have short : (toString n).length ≤ 3 := by
    rw [← String.length_toList, Nat.toString_eq_repr, Nat.toList_repr,
      Nat.length_toDigits_le_iff (by decide) (by decide)]
    omega
  have padding : (String.ofList (List.replicate (4 - (toString n).length) '0')).length ≤ 4 := by
    rw [← String.length_toList, String.toList_ofList, List.length_replicate]
    omega
  have head_length : "window-".length = 7 := by decide
  refine isIdentifier_append (isIdentifier_append (by decide) zeros (by omega)) digits ?_
  rw [String.length_append]
  omega

/-! ## Data quality and versions -/

/-- The data quality of a list of frames, whose gaze ratio vanishes without gaze only. -/
theorem dataQuality_ok {frames : List FrameObservationV2} {mappings : List AoiMappingResultV2}
    (hlen : mappings.length = frames.length) (expected : Option ℕ) :
    ∃ q, dataQuality frames mappings expected = .ok q ∧ q.Valid ∧
      frames.length ≤ q.expectedObservationCount ∧
      (q.gazeValidRatio = 0 ↔ ∀ f ∈ frames, f.gaze = none) := by
  have le : frames.length ≤ expectedCount frames expected := le_max_left _ _
  have count (p : FrameObservationV2 → Bool) : frames.countP p ≤ expectedCount frames expected :=
    List.countP_le_length.trans le
  refine ⟨_, construct_ok ?_, ?_, le, ratioOf_eq_zero.trans ?_⟩
  · exact ⟨ratioOf_mem (count _), ratioOf_mem (count _), ratioOf_mem (count _),
      ratioOf_mem (List.countP_le_length.trans (hlen.le.trans le))⟩
  · exact ⟨ratioOf_mem (count _), ratioOf_mem (count _), ratioOf_mem (count _),
      ratioOf_mem (List.countP_le_length.trans (hlen.le.trans le))⟩
  · simp [List.countP_eq_zero]

/-- The parts of a frame the evidence constructors look at. -/
structure FrameReady (f : FrameObservationV2) : Prop where
  sessionOffsetMs : 0 ≤ f.sessionOffsetMs
  gaze : ∀ g ∈ f.gaze, g.Valid
  expression : ∀ e ∈ f.expression, e.Valid
  derived : ∀ d ∈ f.derived, d.Valid
  product : ∀ p, mappedProductId f = some p → isIdentifier p = true

theorem FrameReady.derivedExpression {f : FrameObservationV2} (h : FrameReady f)
    {e : ExpressionDerivedV2} (he : e ∈ derivedExpression f) : e.Valid := by
  obtain ⟨d, hd, he⟩ := Option.bind_eq_some_iff.1 he
  exact (h.derived d hd).expression e he

theorem FrameReady.derivedMovement {f : FrameObservationV2} (h : FrameReady f)
    {m : GazeMovementV2} (hm : m ∈ derivedMovement f) : 0 ≤ m.distanceNorm ∧ 0 ≤ m.speedNormPerS := by
  obtain ⟨d, hd, hm⟩ := Option.bind_eq_some_iff.1 hm
  obtain ⟨g, hg, hm⟩ := Option.bind_eq_some_iff.1 hm
  exact ((h.derived d hd).gaze g hg).movement m hm

theorem versionOrReason_ok {α : Type} [ContractModel α] {versions : List α} (missing mixed : String)
    (valid : ∀ v ∈ versions, ContractModel.FieldsValid v)
    (hmissing : isReason missing = true) (hmixed : isReason mixed = true) :
    ∃ v, versionOrReason missing mixed versions = .ok v ∧ ValueXorReason v.1 v.2 ∧ ReasonOk v.2 := by
  match versions with
  | [] => exact ⟨_, rfl, by simp [ValueXorReason], by simpa [ReasonOk] using hmissing⟩
  | [v] =>
    refine ⟨(some v, none), ?_, by simp [ValueXorReason], by simp [ReasonOk]⟩
    rw [versionOrReason, construct_ok (valid v (by simp))]
    rfl
  | _ :: _ :: _ => exact ⟨_, rfl, by simp [ValueXorReason], by simpa [ReasonOk] using hmixed⟩

theorem aoiMapperRevision_isRevision (metadata : Option LookbookAoiMetadataV2) :
    isRevision (aoiMapperRevision metadata) = true := by
  unfold aoiMapperRevision
  split
  · rename_i m
    split
    · exact m.metadataRevisionOk
    · decide
  · decide

theorem signalVersions_ok {frames : List FrameObservationV2} (ready : ∀ f ∈ frames, FrameReady f)
    (metadata : Option LookbookAoiMetadataV2) : ∃ v, signalVersions frames metadata = .ok v := by
  have eyes : ∀ v ∈ eyeVersions frames, ContractModel.FieldsValid v := by
    intro v hv
    obtain ⟨f, hf, hv⟩ := List.mem_filterMap.1 (List.mem_dedup.1 hv)
    obtain ⟨g, hg, rfl⟩ := Option.map_eq_some_iff.1 hv
    exact ⟨((ready f hf).gaze g hg).producerId, ((ready f hf).gaze g hg).modelRevision⟩
  have faces : ∀ v ∈ faceVersions frames, ContractModel.FieldsValid v := by
    intro v hv
    obtain ⟨f, hf, hv⟩ := List.mem_filterMap.1 (List.mem_dedup.1 hv)
    obtain ⟨e, he, rfl⟩ := Option.map_eq_some_iff.1 hv
    have := (ready f hf).expression e he
    exact ⟨this.producerId, this.modelRevision, this.taxonomyVersion⟩
  obtain ⟨eye, heye, eyeXor, eyeReason⟩ := versionOrReason_ok "no_valid_gaze"
    "mixed_eye_versions" eyes (by decide) (by decide)
  obtain ⟨face, hface, faceXor, faceReason⟩ := versionOrReason_ok "no_valid_expression"
    "mixed_face_versions" faces (by decide) (by decide)
  rw [signalVersions, bind_ok heye, bind_ok hface]
  exact ⟨_, construct_ok
    ⟨eyeReason, faceReason, eyeXor, faceXor, aoiMapperRevision_isRevision metadata⟩⟩

/-! ## Windows -/

/-- A window over the frames is within its limits. -/
theorem WindowAcc.Sound.window_ok {frames : List FrameObservationV2} {w : WindowAcc} (h : w.Sound frames)
    (ready : ∀ f ∈ frames, FrameReady f) {index : ℕ} (hi : index ≤ 512) :
    ∃ window, w.window index = .ok window :=
  ⟨_, construct_ok {
    windowId := windowId_isIdentifier hi
    productId := (ready _ h.start).product _ h.product
    startOffsetMs := (ready _ h.start).sessionOffsetMs
    endOffsetMs := (ready _ h.stop).sessionOffsetMs
    codesNonempty := fun he => h.codesNonempty (sortedSet_eq_nil.1 he)
    codesOfWindows := fun hm => h.codesOfWindows (mem_sortedSet.1 hm)
    componentsUnique := nodup_sortedSet _
    tagsUnique := nodup_sortedSet _
    codesUnique := nodup_sortedSet _
    forward := ⟨h.offsets, h.times⟩ }⟩

theorem windowCount_le (maxGapMs : ℚ) (frames : List FrameObservationV2) :
    windowCount maxGapMs frames ≤ frames.length := by
  refine List.countP_le_length.trans ?_
  simp [framePairs]

/-! ## Gathered labels -/

theorem gatherLabels_eq (maps : List (SortedDict String ℚ)) :
    gatherLabels maps = Dict.accumulate Prod.fst appendValue (maps.flatMap (·.entries)) := by
  rw [gatherLabels, Dict.accumulate, List.foldl_flatMap]
  rfl

theorem gather_appendValue (values : List ℚ) (l : List (String × ℚ)) :
    Dict.gather appendValue (some values) l = some (values ++ l.map Prod.snd) := by
  induction l generalizing values with
  | nil => simp [Dict.gather]
  | cons e rest ih =>
    rw [Dict.gather, List.foldl_cons]
    exact (ih _).trans (by simp [appendValue])

/-- Each map has one value of a label at most. -/
theorem length_labelled_le (maps : List (SortedDict String ℚ)) (label : String) :
    ((maps.flatMap (·.entries)).filter fun e => e.1 = label).length ≤ maps.length := by
  rw [List.filter_flatMap, List.length_flatMap]
  refine (List.sum_le_card_nsmul _ 1 ?_).trans_eq (by rw [List.length_map, smul_eq_mul, mul_one])
  exact List.forall_mem_map.2 fun m _ => m.length_filter_le_one label

/-- What is gathered under a label is legal when the maps are. -/
theorem gatherLabels_get? {maps : List (SortedDict String ℚ)} {lower upper : ℚ}
    (within : ∀ m ∈ maps, LabelledWithin lower upper m) {label : String} {values : List ℚ}
    (h : (gatherLabels maps).get? label = some values) :
    values ≠ [] ∧ isLabel label = true ∧ (∀ v ∈ values, lower ≤ v ∧ v ≤ upper) ∧
      values.length ≤ maps.length := by
  have few := length_labelled_le maps label
  rw [gatherLabels_eq, Dict.get?_accumulate] at h
  have legal : ∀ e ∈ (maps.flatMap (·.entries)).filter (fun e => e.1 = label),
      isLabel label = true ∧ lower ≤ e.2 ∧ e.2 ≤ upper := by
    intro e he
    obtain ⟨he, hl⟩ := List.mem_filter.1 he
    obtain ⟨m, hm, he⟩ := List.mem_flatMap.1 he
    have := within m hm e he
    rwa [of_decide_eq_true hl] at this
  revert h few legal
  generalize (maps.flatMap (·.entries)).filter (fun e => e.1 = label) = l
  intro h few legal
  cases l with
  | nil => cases h
  | cons e rest =>
    rw [Dict.gather, List.foldl_cons] at h
    obtain rfl : e.2 :: rest.map Prod.snd = values := by
      have := (gather_appendValue (appendValue none e) rest).symm.trans h
      simpa [appendValue] using this
    refine ⟨by simp, (legal e (by simp)).1, fun v hv => ?_, by simpa using few⟩
    obtain ⟨e', he', rfl⟩ := List.mem_map.1 (show v ∈ (e :: rest).map Prod.snd from hv)
    exact (legal e' he').2

theorem gatherLabels_entries {maps : List (SortedDict String ℚ)} :
    (gatherLabels maps).entries = [] ↔ ∀ m ∈ maps, m.entries = [] := by
  rw [← List.length_eq_zero_iff]
  show (gatherLabels maps).size = 0 ↔ _
  rw [gatherLabels_eq, Dict.size_accumulate, List.length_eq_zero_iff, List.dedup_eq_nil]
  simp

/-- The means of gathered labels are legal, and there are some when labels were gathered. -/
theorem meanItems_ok {maps : List (SortedDict String ℚ)} {lower upper : ℚ}
    (within : ∀ m ∈ maps, LabelledWithin lower upper m) (some : ∃ m ∈ maps, m.entries ≠ [])
    (few : maps.length ≤ 512) (range : -1000 ≤ lower ∧ upper ≤ 1000) :
    ∃ items, meanItems (gatherLabels maps) = .ok items ∧ ActionsValid lower upper items := by
  have legal : ∀ e ∈ sortOn Prod.fst (gatherLabels maps).entries, e.2 ≠ [] ∧ isLabel e.1 = true ∧
      (∀ v ∈ e.2, lower ≤ v ∧ v ≤ upper) ∧ e.2.length ≤ maps.length :=
    fun e he => gatherLabels_get? within (Dict.mem_entries_iff.1 (mem_sortOn.1 he))
  have small : ∀ e ∈ sortOn Prod.fst (gatherLabels maps).entries,
      (e.2.map (|·|)).sum < doubleLimit := by
    intro e he
    obtain ⟨-, -, bounded, count⟩ := legal e he
    refine sum_abs_lt_doubleLimit 1000 (fun v hv => ?_) ?_
    · obtain ⟨low, high⟩ := bounded v hv
      exact abs_le.2 ⟨range.1.trans low, high.trans range.2⟩
    · have : (e.2.length : ℚ) ≤ 512 := by exact_mod_cast count.trans few
      linarith
  have means : meanItems (gatherLabels maps) = .ok
      ((sortOn Prod.fst (gatherLabels maps).entries).map fun e =>
        (e.1, e.2.sum / (e.2.length : ℚ))) :=
    mapM_eq_ok fun e he => by rw [bind_ok (fmean_ok (legal e he).1 (small e he))]; rfl
  refine ⟨_, means, ?_, ?_⟩
  · intro h
    rw [List.map_eq_nil_iff, sortOn_eq_nil, gatherLabels_entries] at h
    obtain ⟨m, hm, hne⟩ := some
    exact hne (h m hm)
  · simp only [List.forall_mem_map]
    exact fun e he => ⟨(legal e he).2.1, mean_mem_Icc (legal e he).1 (legal e he).2.2.1⟩

/-! ## One product -/

section Product

variable {frames : List FrameObservationV2} {maxGapMs : ℚ} {productId : String} {acc : ProductAcc}

theorem mem_framePairs {pair : Option FrameObservationV2 × FrameObservationV2}
    (h : pair ∈ framePairs frames) : pair.2 ∈ frames :=
  (List.of_mem_zip h).2

theorem derivedExpressions_valid (ready : ∀ f ∈ frames, FrameReady f) {e : ExpressionDerivedV2}
    (he : e ∈ derivedExpressions maxGapMs frames productId) : e.Valid := by
  obtain ⟨pair, hpair, he⟩ := List.mem_filterMap.1 he
  split at he
  · exact (ready _ (mem_framePairs hpair)).derivedExpression he
  · cases he

theorem derivedMovements_nonneg (ready : ∀ f ∈ frames, FrameReady f) {m : GazeMovementV2}
    (hm : m ∈ derivedMovements maxGapMs frames productId) :
    0 ≤ m.distanceNorm ∧ 0 ≤ m.speedNormPerS := by
  obtain ⟨pair, hpair, hm⟩ := List.mem_filterMap.1 hm
  split at hm
  · exact (ready _ (mem_framePairs hpair)).derivedMovement hm
  · cases hm

/-- The total of the speeds that count for a product. -/
def totalSpeed (maxGapMs : ℚ) (frames : List FrameObservationV2) (productId : String) : ℚ :=
  ((derivedMovements maxGapMs frames productId).map (·.speedNormPerS)).sum

/-- Frames without derived signals have no speeds. -/
theorem totalSpeed_of_underived (underived : ∀ f ∈ frames, f.derived = none) :
    totalSpeed maxGapMs frames productId = 0 := by
  have none : derivedMovements maxGapMs frames productId = [] := by
    refine List.filterMap_eq_nil_iff.2 fun pair hpair => ?_
    rw [derivedMovement, underived _ (mem_framePairs hpair)]
    exact ite_self _
  rw [totalSpeed, none]
  rfl

/-- The confidences of a product with a gaze frame have a mean. -/
theorem ProductAcc.Gathered.confidences_mean (h : acc.Gathered maxGapMs frames productId)
    (ready : ∀ f ∈ frames, FrameReady f) (bounded : frames.length ≤ 512) (some : acc.hasGaze = true) :
    ∃ mean, fmean acc.confidences = .ok mean ∧ InUnit mean := by
  obtain ⟨f, hf, hg⟩ := List.any_eq_true.1 some
  obtain ⟨g, hg⟩ := Option.isSome_iff_exists.1 hg
  have confident : acc.confidences ≠ [] := by
    rw [h.confidences]
    exact List.ne_nil_of_mem (List.mem_filterMap.2 ⟨f, hf, by rw [hg]; rfl⟩)
  have inUnit : ∀ c ∈ acc.confidences, 0 ≤ c ∧ c ≤ 1 := by
    intro c hc
    rw [h.confidences, h.frames] at hc
    obtain ⟨f', hf', hc⟩ := List.mem_filterMap.1 hc
    obtain ⟨g', hg', rfl⟩ := Option.map_eq_some_iff.1 hc
    exact ((ready f' (List.mem_filter.1 hf').1).gaze g' hg').confidence
  have count : acc.confidences.length ≤ 512 := by
    rw [h.confidences, h.frames]
    exact ((List.length_filterMap_le _ _).trans (List.length_filter_le _ _)).trans bounded
  have small : (acc.confidences.map (|·|)).sum < doubleLimit := by
    have few : (acc.confidences.length : ℚ) ≤ 512 := by exact_mod_cast count
    refine sum_abs_lt_doubleLimit 1 (fun c hc => ?_) (by linarith)
    rw [abs_of_nonneg (inUnit c hc).1]
    exact (inUnit c hc).2
  exact ⟨_, fmean_ok confident small, mean_mem_Icc confident inUnit⟩

theorem ProductAcc.Gathered.speeds_nonneg (h : acc.Gathered maxGapMs frames productId)
    (ready : ∀ f ∈ frames, FrameReady f) : ∀ x ∈ acc.speeds, 0 ≤ x := by
  rw [h.speeds, List.forall_mem_map]
  exact fun m hm => (derivedMovements_nonneg ready hm).2

theorem ProductAcc.Gathered.speeds_eq_nil_iff (h : acc.Gathered maxGapMs frames productId) :
    acc.speeds = [] ↔ acc.movement = [] := by
  rw [h.speeds, h.movement, List.map_eq_nil_iff, List.map_eq_nil_iff]

/-- A product with a gaze frame has a gaze summary, unless its speeds overflow. -/
theorem ProductAcc.Gathered.gazeSummary_ok (h : acc.Gathered maxGapMs frames productId)
    (ready : ∀ f ∈ frames, FrameReady f) (bounded : frames.length ≤ 512) {unambiguousCount : ℕ}
    (some : acc.hasGaze = true) (few : acc.frames.length ≤ unambiguousCount)
    (slow : totalSpeed maxGapMs frames productId < doubleLimit) :
    ∃ g, acc.gazeSummary unambiguousCount = .ok g ∧ 1 ≤ g.validObservationCount := by
  obtain ⟨f, hf, hg⟩ := List.any_eq_true.1 some
  obtain ⟨mean, averaged, average⟩ := h.confidences_mean ready bounded some
  have distances : ∀ m ∈ acc.movement, 0 ≤ m := by
    rw [h.movement, List.forall_mem_map]
    exact fun m hm => (derivedMovements_nonneg ready hm).1
  have speeds := h.speeds_nonneg ready
  have speedsSmall : (acc.speeds.map (|·|)).sum < doubleLimit := by
    rw [List.map_congr_left fun x hx => abs_of_nonneg (speeds x hx), List.map_id', h.speeds]
    exact slow
  have counted : 1 ≤ (acc.frames.filter (·.gaze.isSome)).length :=
    List.length_pos_iff.2 (List.ne_nil_of_mem (List.mem_filter.2 ⟨hf, hg⟩))
  have reason : isReason "no_comparable_gaze_observation" = true := by decide
  have returns : ValueXorReason
      (if 0 < acc.returnComparisons then Option.some acc.returns else none)
      (if 0 < acc.returnComparisons then none else Option.some "no_comparable_gaze_observation") := by
    split <;> simp [ValueXorReason]
  have returnsOk : ReasonOk
      (if 0 < acc.returnComparisons then none else Option.some "no_comparable_gaze_observation") := by
    split <;> simp [ReasonOk, reason]
  unfold ProductAcc.gazeSummary
  rw [bind_ok averaged]
  by_cases hm : acc.movement = []
  · simp only [hm, ne_eq, not_true_eq_false, decide_false, onlyIf_false, if_true]
    exact ⟨_, construct_ok {
      observedAttentionMs := h.dwellMs
      attentionRatio := ratioOf_mem few
      averageConfidence := average
      movementDistanceNorm := fun _ e => nomatch e
      meanSpeedNormPerS := fun _ e => nomatch e
      returnCandidateReasonOk := returnsOk
      movementReasonOk := fun r hr => by cases hr; exact reason
      returnXorReason := returns
      movementTogether := rfl
      movementXorReason := by simp [ValueXorReason] }, counted⟩
  · have hs : acc.speeds ≠ [] := fun e => hm (h.speeds_eq_nil_iff.1 e)
    simp only [hm, ne_eq, not_false_eq_true, decide_true, if_false, fmean_ok hs speedsSmall,
      onlyIf_true_ok]
    exact ⟨_, construct_ok {
      observedAttentionMs := h.dwellMs
      attentionRatio := ratioOf_mem few
      averageConfidence := average
      movementDistanceNorm := fun m e => by cases e; exact List.sum_nonneg distances
      meanSpeedNormPerS := fun m e => by
        cases e
        exact div_nonneg (List.sum_nonneg speeds) (Nat.cast_nonneg _)
      returnCandidateReasonOk := returnsOk
      movementReasonOk := fun _ e => nomatch e
      returnXorReason := returns
      movementTogether := rfl
      movementXorReason := by simp [ValueXorReason] }, counted⟩

/-- Where its speeds overflow, the summary of a product with a gaze frame raises. -/
theorem ProductAcc.Gathered.gazeSummary_overflow (h : acc.Gathered maxGapMs frames productId)
    (ready : ∀ f ∈ frames, FrameReady f) (bounded : frames.length ≤ 512) (unambiguousCount : ℕ)
    (some : acc.hasGaze = true) (fast : doubleLimit ≤ totalSpeed maxGapMs frames productId) :
    acc.gazeSummary unambiguousCount = .error (.overflowError "intermediate overflow in fsum") := by
  obtain ⟨mean, averaged, -⟩ := h.confidences_mean ready bounded some
  have overflow : fsum acc.speeds = .error (.overflowError "intermediate overflow in fsum") := by
    refine (fsum_overflow_iff (h.speeds_nonneg ready)).2 ?_
    rwa [h.speeds]
  have moved : acc.speeds ≠ [] := by
    intro none
    rw [totalSpeed, ← h.speeds, none, List.sum_nil] at fast
    exact absurd fast (not_le.2 (Nat.cast_pos.2 doubleLimit_pos))
  unfold ProductAcc.gazeSummary
  rw [bind_ok averaged]
  simp only [mt h.speeds_eq_nil_iff.2 moved, ne_eq, not_false_eq_true, decide_true, fmean, moved,
    if_false, overflow]
  rfl

/-- The expression limits that the history of a product has to meet. -/
structure ExpressionFits (maxGapMs : ℚ) (frames : List FrameObservationV2) (productId : String) :
    Prop where
  rates : (∃ e ∈ derivedExpressions maxGapMs frames productId, ∃ m ∈ e.scoreChanges,
      m.entries ≠ []) →
    ∃ e ∈ derivedExpressions maxGapMs frames productId, ∃ m ∈ e.scoreChangeRatesPerS, m.entries ≠ []
  sustained : ((derivedExpressions maxGapMs frames productId).flatMap fun e =>
    e.sustainedActions.map (·.signal)).dedup.length ≤ 64

theorem gatherDurations_size (expressions : List ExpressionDerivedV2) :
    (gatherDurations expressions).size =
      (expressions.flatMap fun e => e.sustainedActions.map (·.signal)).dedup.length := by
  rw [gatherDurations, Dict.size_accumulate, List.map_flatMap]

/-- A product whose history fits has an expression summary. -/
theorem ProductAcc.Gathered.expressionSummary_ok (h : acc.Gathered maxGapMs frames productId)
    (ready : ∀ f ∈ frames, FrameReady f) (bounded : frames.length ≤ 512)
    (fits : ExpressionFits maxGapMs frames productId) : ∃ e, acc.expressionSummary = .ok e := by
  have valid : ∀ e ∈ derivedExpressions maxGapMs frames productId, e.Valid :=
    fun e he => derivedExpressions_valid ready he
  have count : (derivedExpressions maxGapMs frames productId).length ≤ 512 := by
    refine (List.length_filterMap_le _ _).trans (le_trans ?_ bounded)
    simp [framePairs]
  have reason : isReason "no_comparable_expression_observation" = true := by decide
  have coverage : InUnit (ratioOf (acc.frames.filter (·.expression.isSome)).length
      acc.frames.length) := ratioOf_mem (List.length_filter_le _ _)
  have sustained : ((sortOn Prod.fst acc.sustained.entries).mapM fun e =>
      construct { signal := e.1, durationMs := e.2 : SustainedActionV2 }) =
      .ok ((sortOn Prod.fst acc.sustained.entries).map fun e => ⟨e.1, e.2⟩) := by
    refine mapM_eq_ok fun e he => construct_ok ?_
    have hget := Dict.mem_entries_iff.1 (mem_sortOn.1 he)
    rw [h.sustained, gatherDurations] at hget
    obtain ⟨action, haction, hsignal, longest, hduration⟩ := Dict.accumulate_eq_some _ _ hget
    obtain ⟨e', he', haction⟩ := List.mem_flatMap.1 haction
    have := (valid e' he').sustainedActions action haction
    exact ⟨hsignal ▸ this.signal, hduration ▸ (this.durationMs.trans (le_max_right _ _))⟩
  have few : ((sortOn Prod.fst acc.sustained.entries).map fun e =>
      (⟨e.1, e.2⟩ : SustainedActionV2)).length ≤ 64 := by
    rw [List.length_map, length_sortOn]
    show acc.sustained.size ≤ 64
    rw [h.sustained, gatherDurations_size]
    exact fits.sustained
  unfold ProductAcc.expressionSummary
  dsimp only
  by_cases hc : acc.changes.entries = []
  · simp only [hc, ne_eq, not_true_eq_false, decide_false, onlyIf_false]
    exact ⟨_, (bind_ok sustained _).trans (construct_ok {
      validCoverage := coverage
      actionChanges := fun _ e => by cases e
      actionChangeRatesPerS := fun _ e => by cases e
      changeReasonOk := fun r hr => by cases hr; exact reason
      sustainedBounded := few
      changesTogether := rfl
      changesXorReason := by simp [ValueXorReason] })⟩
  · obtain ⟨m, hm, hne⟩ : ∃ m ∈ (derivedExpressions maxGapMs frames productId).filterMap
        (·.scoreChanges), m.entries ≠ [] := by
      rw [h.changes, gatherLabels_entries] at hc
      push Not at hc
      exact hc
    obtain ⟨e, he, hm⟩ := List.mem_filterMap.1 hm
    obtain ⟨e', he', m', hm', hne'⟩ := fits.rates ⟨e, he, m, hm, hne⟩
    obtain ⟨changes, hchanges, changesValid⟩ := meanItems_ok
      (fun m hm => by
        obtain ⟨e, he, hm⟩ := List.mem_filterMap.1 hm
        exact (valid e he).scoreChanges m hm)
      ⟨m, List.mem_filterMap.2 ⟨e, he, hm⟩, hne⟩
      ((List.length_filterMap_le _ _).trans count) (by norm_num)
    obtain ⟨rates, hrates, ratesValid⟩ := meanItems_ok
      (fun m hm => by
        obtain ⟨e, he, hm⟩ := List.mem_filterMap.1 hm
        exact (valid e he).scoreChangeRatesPerS m hm)
      ⟨m', List.mem_filterMap.2 ⟨e', he', hm'⟩, hne'⟩
      ((List.length_filterMap_le _ _).trans count) (by norm_num)
    rw [← h.changes] at hchanges
    rw [← h.changeRates] at hrates
    simp only [hc, ne_eq, not_false_eq_true, decide_true, hchanges, hrates, onlyIf_true_ok]
    refine ⟨_, (bind_ok sustained _).trans (construct_ok {
      validCoverage := coverage
      actionChanges := fun m e => by cases e; exact changesValid
      actionChangeRatesPerS := fun m e => by cases e; exact ratesValid
      changeReasonOk := fun _ e => by cases e
      sustainedBounded := few
      changesTogether := rfl
      changesXorReason := by simp [ValueXorReason] })⟩

theorem ProductAcc.Gathered.hasExpression_iff (h : acc.Gathered maxGapMs frames productId) :
    acc.hasExpression = true ↔
      ∃ f ∈ frames, mappedProductId f = some productId ∧ f.expression.isSome = true := by
  rw [ProductAcc.hasExpression, List.any_eq_true, h.frames]
  simp only [List.mem_filter, decide_eq_true_eq]
  exact ⟨fun ⟨f, ⟨hf, hp⟩, he⟩ => ⟨f, hf, hp, he⟩, fun ⟨f, hf, hp, he⟩ => ⟨f, ⟨hf, hp⟩, he⟩⟩

theorem ProductAcc.Gathered.hasGaze_iff (h : acc.Gathered maxGapMs frames productId) :
    acc.hasGaze = true ↔
      ∃ f ∈ frames, mappedProductId f = some productId ∧ f.gaze.isSome = true := by
  rw [ProductAcc.hasGaze, List.any_eq_true, h.frames]
  simp only [List.mem_filter, decide_eq_true_eq]
  exact ⟨fun ⟨f, ⟨hf, hp⟩, he⟩ => ⟨f, hf, hp, he⟩, fun ⟨f, hf, hp, he⟩ => ⟨f, ⟨hf, hp⟩, he⟩⟩

/-- The product's summary exists when its expression history fits. -/
theorem ProductAcc.Gathered.summary_ok (h : acc.Gathered maxGapMs frames productId)
    (ready : ∀ f ∈ frames, FrameReady f) (bounded : frames.length ≤ 512)
    (hid : isIdentifier productId = true)
    {unambiguousCount : ℕ} (few : acc.frames.length ≤ unambiguousCount)
    (slow : acc.hasGaze = true → totalSpeed maxGapMs frames productId < doubleLimit)
    (fits : acc.hasExpression = true → ExpressionFits maxGapMs frames productId) :
    ∃ p, acc.summary productId unambiguousCount = .ok p ∧ p.productId = productId ∧
      ((∃ g ∈ p.gaze, 1 ≤ g.validObservationCount) ↔ acc.hasGaze = true) := by
  have gazeReason : isReason "no_valid_gaze_for_product" = true := by decide
  have expressionReason : isReason "no_matched_expression" = true := by decide
  obtain ⟨gaze, hgaze, gazeXor, gazeCounted⟩ :=
    onlyIf_ok fun some => h.gazeSummary_ok ready bounded some few (slow some)
  obtain ⟨expression, hexpression, expressionXor, -⟩ :=
    onlyIf_ok (P := fun _ => True) fun some =>
      (h.expressionSummary_ok ready bounded (fits some)).imp fun _ he => ⟨he, trivial⟩
  unfold ProductAcc.summary
  rw [bind_ok hgaze, bind_ok hexpression]
  refine ⟨_, construct_ok {
    productId := hid
    exposureDurationMs := h.dwellMs
    componentsUnique := nodup_sortedSet _
    tagsUnique := nodup_sortedSet _
    gazeReasonOk := fun r hr => ?_
    expressionReasonOk := fun r hr => ?_
    gazeXorReason := ?_
    expressionXorReason := ?_ }, rfl, ?_⟩
  · cases hg : acc.hasGaze <;> rw [hg] at hr <;> cases hr
    exact gazeReason
  · cases he : acc.hasExpression <;> rw [he] at hr <;> cases hr
    exact expressionReason
  · cases hg : acc.hasGaze <;> cases gaze <;> simp_all [ValueXorReason]
  · cases he : acc.hasExpression <;> cases expression <;> simp_all [ValueXorReason]
  · refine Iff.trans ?_ (Bool.eq_iff_iff.1 gazeXor)
    rw [Option.isSome_iff_exists]
    exact ⟨fun ⟨g, hg, _⟩ => ⟨g, hg⟩, fun ⟨g, hg⟩ => ⟨g, hg, gazeCounted g hg⟩⟩

end Product

/-! ## The whole summary -/

/-- The mapping of a frame by reviewed metadata, if there is some. -/
def frameMapping (metadata : Option LookbookAoiMetadataV2) (frame : FrameObservationV2) :
    AoiMappingResultV2 :=
  match metadata with
  | some m => aoiMapping frame m
  | none => { status := .aoiMetadataUnapproved }

theorem mapFrame_ok (metadata : Option LookbookAoiMetadataV2) (frame : FrameObservationV2) :
    mapFrame metadata frame = .ok (frameMapping metadata frame) := by
  cases metadata with
  | none => rfl
  | some m => exact mapFrameToAoi_ok frame m

/-- The frames in analysis order, each with the candidates of its mapping. -/
def enrichedFrames (observations : List FrameObservationV2) (metadata : Option LookbookAoiMetadataV2) :
    List FrameObservationV2 :=
  (ordered observations).map fun f => enrichFrameWithAoi f (frameMapping metadata f)

/-- What a history has to meet for its evidence to fit the models' limits. -/
structure SummaryFits (maxGapMs : ℚ) (frames : List FrameObservationV2) (catalog : List String)
    (variant : InputVariant) : Prop where
  speeds : ∀ p ∈ catalog, (∃ f ∈ frames, mappedProductId f = some p ∧ f.gaze.isSome = true) →
    totalSpeed maxGapMs frames p ≤ largestDouble
  expressions : ∀ p ∈ catalog,
    (∃ f ∈ frames, mappedProductId f = some p ∧ f.expression.isSome = true) →
      ExpressionFits maxGapMs frames p
  windows : variant ≠ .b → windowCount maxGapMs frames ≤ 128

/-- The identifiers and revisions of a request are legal, and so is its catalog. -/
structure SummaryParams.Legal (params : SummaryParams) : Prop where
  decisionRequestId : isIdentifier params.decisionRequestId = true
  sessionId : isIdentifier params.sessionId = true
  videoId : isIdentifier params.videoId = true
  manifestVersion : isRevision params.manifestVersion = true
  catalogVersion : isRevision params.catalogVersion = true
  products : params.productIds.Nodup ∧ LengthWithin 1 10 params.productIds
  productIds : ∀ p ∈ params.productIds, isIdentifier p = true

/-- What the buffered frames of a session are known to meet. -/
structure BufferReady (observations : List FrameObservationV2) : Prop where
  bounded : 1 ≤ observations.length ∧ observations.length ≤ 512
  valid : ∀ o ∈ observations, o.Valid
  offsets : (ordered observations).Pairwise fun f g => f.sessionOffsetMs ≤ g.sessionOffsetMs

section Summary

variable {observations : List FrameObservationV2} {params : SummaryParams}

theorem enrichedFrames_ready (h : BufferReady observations) (metadata : Option LookbookAoiMetadataV2) :
    ∀ f ∈ enrichedFrames observations metadata, FrameReady f := by
  intro f hf
  obtain ⟨o, ho, rfl⟩ := List.mem_map.1 hf
  have valid := h.valid o (mem_sortOn.1 ho)
  refine ⟨?_, ?_, ?_, ?_, fun p hp => ?_⟩
  · simpa using valid.sessionOffsetMs
  · simpa using valid.gaze
  · simpa using valid.expression
  · simpa using valid.derived
  · cases metadata with
    | none => rw [mappedProductId_unmatched o rfl] at hp; cases hp
    | some m => exact mappedProductId_isIdentifier hp

theorem length_enrichedFrames (observations : List FrameObservationV2)
    (metadata : Option LookbookAoiMetadataV2) :
    (enrichedFrames observations metadata).length = observations.length := by
  simp [enrichedFrames, ordered]

/-- What a summary over enriched frames says. -/
structure SummaryOf (params : SummaryParams) (frames : List FrameObservationV2)
    (summary : EvidenceSummary) : Prop where
  valid : summary.evidence.Valid
  decisionRequestId : summary.evidence.decisionRequestId = params.decisionRequestId
  quality : summary.evidence.dataQuality.Valid
  gaze : summary.evidence.dataQuality.gazeValidRatio = 0 ↔ ∀ f ∈ frames, f.gaze = none
  variant : summary.evidence.inputVariant =
    if windowCount params.maxContinuousGapMs frames = 0 then .b else params.inputVariant
  timeline : ∀ t ∈ summary.evidence.timeline, t = frames
  windows : ∀ ws ∈ summary.evidence.evidenceWindows, ∀ w ∈ ws, w.Valid

theorem catalogIds_products (h : params.Legal) (frames : List FrameObservationV2) :
    catalogIds params.productIds frames = sortedSet params.productIds := by
  have : params.productIds ≠ [] := List.length_pos_iff.1 h.products.2.1
  simp [catalogIds, this]

/-- The frames of one product are among the frames of all products. -/
theorem frames_le_unambiguous (s : SummaryFold) (p : String) :
    (s.productAcc p).frames.length ≤ (s.byProduct.values.map (·.frames.length)).sum := by
  unfold SummaryFold.productAcc
  cases hp : s.byProduct.get? p with
  | none => exact Nat.zero_le _
  | some acc =>
    exact List.single_le_sum (fun _ _ => Nat.zero_le _) _
      (List.mem_map_of_mem (Dict.mem_values_iff.2 ⟨p, hp⟩))

/-- Filling the models from the state the pass ends in. -/
theorem fillEvidence_ok (legal : params.Legal) {frames : List FrameObservationV2}
    (ready : ∀ f ∈ frames, FrameReady f) (bounded : LengthWithin 1 512 frames)
    {mappings : List AoiMappingResultV2} (hmappings : mappings.length = frames.length)
    {s : SummaryFold} (inv : s.Inv params.maxContinuousGapMs frames)
    (fits : SummaryFits params.maxContinuousGapMs frames params.productIds params.inputVariant) :
    ∃ summary, fillEvidence params frames mappings (sortedSet params.productIds) s.closeWindow =
      .ok summary ∧ SummaryOf params frames summary := by
  -- one summary for each product of the catalog
  obtain ⟨summaries, hsummaries, each⟩ := mapM_ok (l := sortedSet params.productIds)
    (f := fun p => (s.closeWindow.productAcc p).summary p
      (s.closeWindow.byProduct.values.map (·.frames.length)).sum)
    (R := fun p item => item.productId = p) fun p hp => by
      have hp := mem_sortedSet.1 hp
      obtain ⟨item, hitem, hid, -⟩ := (inv.gathered p).summary_ok ready bounded.2
        (legal.productIds p hp) (frames_le_unambiguous s.closeWindow p)
        (fun hg => (fits.speeds p hp ((inv.gathered p).hasGaze_iff.1 hg)).trans_lt
          (Nat.cast_lt.2 largestDouble_lt_doubleLimit))
        fun he => fits.expressions p hp ((inv.gathered p).hasExpression_iff.1 he)
      exact ⟨item, hitem, hid⟩
  have products : LengthWithin 1 10 summaries := by
    rw [LengthWithin, ← each.length_eq, length_sortedSet_of_nodup legal.products.1]
    exact legal.products.2
  -- one model for each window
  have count : s.closeWindow.windowsRaw.length = windowCount params.maxContinuousGapMs frames :=
    inv.windows
  obtain ⟨windows, hwindows, windowsOk⟩ := mapM_ok (l := s.closeWindow.windowsRaw.zipIdx 1)
    (f := fun e => e.1.window e.2) (R := fun _ _ => True) fun e he => by
      obtain ⟨w, i⟩ := e
      obtain ⟨-, hi, hw⟩ := List.mem_zipIdx he
      have sound := inv.sound w (hw ▸ List.getElem_mem _)
      have hcount := windowCount_le params.maxContinuousGapMs frames
      obtain ⟨window, hwindow⟩ := sound.window_ok ready (show i ≤ 512 by omega)
      exact ⟨window, hwindow, trivial⟩
  have windowsLength : windows.length = windowCount params.maxContinuousGapMs frames := by
    rw [← windowsOk.length_eq, List.length_zipIdx, count]
  have windowsNil : windows = [] ↔ windowCount params.maxContinuousGapMs frames = 0 := by
    rw [← windowsLength, List.length_eq_zero_iff]
  obtain ⟨quality, hquality, qualityValid, -, gaze⟩ :=
    dataQuality_ok hmappings params.expectedObservationCount
  obtain ⟨versions, hversions⟩ := signalVersions_ok ready params.aoiMetadata
  have feature : isRevision featureVersion = true := by decide
  unfold fillEvidence
  rw [bind_ok hsummaries, bind_ok hwindows, bind_ok hquality, bind_ok hversions]
  obtain ⟨variant, hvariant⟩ : ∃ v, (if windows = [] then .b else params.inputVariant) = v := ⟨_, rfl⟩
  have hb : windows = [] → variant = .b := fun h => by rw [← hvariant, if_pos h]
  have hn : variant ≠ .b → windows ≠ [] ∧ params.inputVariant ≠ .b := by
    intro h
    refine ⟨fun e => h (hb e), fun e => h ?_⟩
    rw [← hvariant, e, ite_self]
  simp only [hvariant]
  have valid : RecommendationEvidenceV2.Valid {
      decisionRequestId := params.decisionRequestId
      inputVariant := variant
      sessionId := params.sessionId
      videoId := params.videoId
      manifestVersion := params.manifestVersion
      catalogVersion := params.catalogVersion
      featureVersion := featureVersion
      signalVersions := versions
      dataQuality := quality
      summary := summaries
      evidenceWindows := if variant = .b then none else some windows
      timeline := if variant = .c then none else some frames } := {
    decisionRequestId := legal.decisionRequestId
    sessionId := legal.sessionId
    videoId := legal.videoId
    manifestVersion := legal.manifestVersion
    catalogVersion := legal.catalogVersion
    featureVersion := feature
    summary := products
    evidenceWindows := fun ws hws => by
      by_cases h : variant = .b
      · rw [if_pos h] at hws; cases hws
      · rw [if_neg h] at hws
        cases hws
        exact ⟨List.length_pos_iff.2 (hn h).1, windowsLength ▸ fits.windows (hn h).2⟩
    timeline := fun t ht => by
      by_cases h : variant = .c
      · rw [if_pos h] at ht; cases ht
      · rw [if_neg h] at ht; cases ht; exact bounded
    payload := by cases variant <;> rfl }
  refine ⟨_, (bind_ok (construct_ok valid) _).trans rfl, {
    valid := valid
    decisionRequestId := rfl
    quality := qualityValid
    gaze := gaze
    variant := ?_
    timeline := fun t ht => ?_
    windows := fun ws hws w hw => ?_ }⟩
  · simp only [← hvariant, windowsNil]
  · by_cases h : variant = .c
    · simp [h] at ht
    · simpa [h, eq_comm] using ht
  · obtain rfl : windows = ws := by
      by_cases h : variant = .b
      · simp [h] at hws
      · simpa [h] using hws
    obtain ⟨e, -, he⟩ := mapM_mem hwindows hw
    exact construct_valid he

/-- **The summary exists** when the history fits the limits. -/
theorem summarizeObservations_ok (ready : BufferReady observations) (legal : params.Legal)
    (fits : SummaryFits params.maxContinuousGapMs
      (enrichedFrames observations params.aoiMetadata) params.productIds params.inputVariant) :
    ∃ summary, summarizeObservations observations params = .ok summary ∧
      SummaryOf params (enrichedFrames observations params.aoiMetadata) summary := by
  have framesReady := enrichedFrames_ready ready params.aoiMetadata
  have hlen := length_enrichedFrames observations params.aoiMetadata
  have orderedLength : (ordered observations).length = observations.length := length_sortOn _ _
  have bounded : LengthWithin 1 512 (enrichedFrames observations params.aoiMetadata) := by
    rw [LengthWithin, hlen]; exact ready.bounded
  have mappings : (ordered observations).mapM (mapFrame params.aoiMetadata) =
      .ok ((ordered observations).map (frameMapping params.aoiMetadata)) :=
    mapM_eq_ok fun f _ => mapFrame_ok _ f
  have enriched : (ordered observations).zipWith enrichFrameWithAoi
      ((ordered observations).map (frameMapping params.aoiMetadata)) =
      enrichedFrames observations params.aoiMetadata := by
    rw [enrichedFrames, List.zipWith_map_right, List.zipWith_self]
  have together : ∀ f ∈ enrichedFrames observations params.aoiMetadata, ChangesTogether f :=
    fun f hf e he => ((framesReady f hf).derivedExpression he).changesTogether
  have offsets : (enrichedFrames observations params.aoiMetadata).Pairwise
      fun f g => f.sessionOffsetMs ≤ g.sessionOffsetMs := by
    rw [enrichedFrames, List.pairwise_map]
    simpa using ready.offsets
  obtain ⟨s, hs, inv⟩ := summaryPass_ok params.maxContinuousGapMs together offsets
  have nonempty : ordered observations ≠ [] :=
    List.length_pos_iff.1 (orderedLength ▸ ready.bounded.1)
  have catalogNonempty : sortedSet params.productIds ≠ [] := by
    rw [ne_eq, sortedSet_eq_nil]
    exact List.length_pos_iff.1 legal.products.2.1
  have catalogLength : ¬ (sortedSet params.productIds).length > 10 := by
    rw [length_sortedSet_of_nodup legal.products.1]
    exact not_lt.2 legal.products.2.2
  unfold summarizeObservations
  dsimp only
  rw [if_neg nonempty, if_neg (not_lt.2 (orderedLength ▸ ready.bounded.2)), bind_ok mappings]
  rw [enriched, catalogIds_products legal, if_neg catalogNonempty, if_neg catalogLength, bind_ok hs]
  exact fillEvidence_ok legal framesReady bounded (by simp [enrichedFrames]) inv fits

end Summary

end Mkk.Api
