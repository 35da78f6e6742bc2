import Mkk.Api.SourceAoi

/-!
# When the source evidence can be built

The tally loop of `build_source_visual_evidence` never fails on hits of the reviewed
metadata (`SourceFold.Inv` is its invariant), and every score list is as long as the number
of distinct values it counts. The enumerated features keep their lists within the model's
limits; the free-text primary colour does not, so the evidence exists exactly when at most
32 distinct primary colours were observed (`buildSourceVisualEvidence_isOk_iff`).
-/

namespace Mkk.Api

open Lib

/-! ## Feature scores -/

theorem gather_featureTally (l : List (String × SourceAoiEvidenceSummaryV1)) (t : FeatureTally) :
    Dict.gather FeatureTally.add (some t) l = some {
      score := t.score + (l.map (·.2.hitCount)).sum
      attentionMs := t.attentionMs + (l.map (·.2.attentionMs)).sum
      sourceIds := t.sourceIds ++ l.map (·.2.sourceAoiId) } := by
  induction l generalizing t with
  | nil => simp [Dict.gather]
  | cons e rest ih =>
    rw [Dict.gather, List.foldl_cons]
    refine (ih _).trans ?_
    simp [FeatureTally.add, add_assoc]

/-- The tally of a value sums over the source AOIs that carry it. -/
theorem featureTally_eq {values : List (String × SourceAoiEvidenceSummaryV1)} {v : String}
    {t : FeatureTally}
    (h : (Dict.accumulate Prod.fst FeatureTally.add values).get? v = some t) :
    ∃ e rest, values.filter (fun e => e.1 = v) = e :: rest ∧ t = {
      score := ((e :: rest).map (·.2.hitCount)).sum
      attentionMs := ((e :: rest).map (·.2.attentionMs)).sum
      sourceIds := (e :: rest).map (·.2.sourceAoiId) } := by
  rw [Dict.get?_accumulate] at h
  cases hl : values.filter (fun e => e.1 = v) with
  | nil => rw [hl] at h; cases h
  | cons e rest =>
    rw [hl, Dict.gather, List.foldl_cons] at h
    refine ⟨e, rest, rfl, ?_⟩
    have := (gather_featureTally rest (FeatureTally.add none e)).symm.trans h
    simpa [FeatureTally.add] using this.symm

/-- Distinct members of a list that all lie in a short list are few. -/
theorem length_dedup_le_of_subset {α : Type} [DecidableEq α] {l : List α} (ids : List α)
    (h : ∀ a ∈ l, a ∈ ids) : l.dedup.length ≤ ids.length :=
  (List.subperm_of_subset l.nodup_dedup fun a ha => h a (List.mem_dedup.1 ha)).length_le

/-- Scores of legal values over counted source AOIs: one for each distinct value. -/
theorem featureScores_ok (values : List (String × SourceAoiEvidenceSummaryV1)) (ids : List String)
    (text : ∀ e ∈ values, isFeatureText 64 e.1 = true)
    (counted : ∀ e ∈ values, 1 ≤ e.2.hitCount ∧ 0 ≤ e.2.attentionMs)
    (known : ∀ e ∈ values, e.2.sourceAoiId ∈ ids) (few : ids.length ≤ 64) :
    ∃ scores, featureScores values = .ok scores ∧
      scores.length = (values.map Prod.fst).dedup.length := by
  refine ⟨_, mapM_eq_ok (g := fun e => (⟨e.1, e.2.score, e.2.attentionMs,
    sortedSet e.2.sourceIds⟩ : FeatureScoreV1)) fun e he => construct_ok ?_, ?_⟩
  · obtain ⟨v, t⟩ := e
    obtain ⟨e, rest, hl, rfl⟩ := featureTally_eq (Dict.mem_entries_iff.1 (mem_sortOn.1 he))
    have sub : ∀ e' ∈ e :: rest, e' ∈ values ∧ e'.1 = v := fun e' he' => by
      rw [← hl] at he'; simpa using List.mem_filter.1 he'
    have he := sub e List.mem_cons_self
    refine ⟨he.2 ▸ text e he.1, ?_, ?_, ?_, ?_⟩
    · have := (counted e he.1).1
      simp only [List.map_cons, List.sum_cons]
      omega
    · refine List.sum_nonneg fun x hx => ?_
      obtain ⟨e', he', rfl⟩ := List.mem_map.1 hx
      exact (counted e' (sub e' he').1).2
    · rw [length_sortedSet]
      exact List.length_pos_iff.2 (by simp [List.dedup_eq_nil])
    · rw [length_sortedSet]
      refine (length_dedup_le_of_subset ids fun a ha => ?_).trans few
      obtain ⟨e', he', rfl⟩ := List.mem_map.1 ha
      exact known e' (sub e' he').1
  · rw [List.length_map, length_sortOn]
    exact Dict.size_accumulate Prod.fst FeatureTally.add values

/-- A score list over values drawn from a short list keeps within that list's length. -/
theorem featureScores_le (values : List (String × SourceAoiEvidenceSummaryV1))
    {summaries : List SourceAoiEvidenceSummaryV1} (vocabulary : List String)
    (counted : ∀ item ∈ summaries, 1 ≤ item.hitCount ∧ 0 ≤ item.attentionMs)
    (few : summaries.length ≤ 64) (text : ∀ v ∈ vocabulary, isFeatureText 64 v = true)
    (drawn : ∀ e ∈ values, e.2 ∈ summaries ∧ e.1 ∈ vocabulary) :
    ∃ scores, featureScores values = .ok scores ∧ scores.length ≤ vocabulary.length ∧
      (values ≠ [] → 1 ≤ scores.length) := by
  obtain ⟨scores, hs, hlen⟩ := featureScores_ok values (summaries.map (·.sourceAoiId))
    (fun e he => text _ (drawn e he).2) (fun e he => counted _ (drawn e he).1)
    (fun e he => List.mem_map_of_mem (drawn e he).1) (by simpa using few)
  refine ⟨scores, hs, ?_, fun hne => ?_⟩
  · rw [hlen]
    refine length_dedup_le_of_subset vocabulary fun a ha => ?_
    obtain ⟨e, he, rfl⟩ := List.mem_map.1 ha
    exact (drawn e he).2
  · rw [hlen]
    exact List.length_pos_iff.2 (by simpa [List.dedup_eq_nil] using hne)

/-! ## The enumerated vocabularies -/

def ColorFamily.all : List ColorFamily := [.beige, .black, .brown, .metallic, .pink, .unknown]

def Silhouette.all : List Silhouette :=
  [.backpack, .boston, .eastWestShoulder, .pouch, .shopper, .tambourine, .tote, .vanityCase,
    .weekender]

def CategoryType.all : List CategoryType :=
  [.backpack, .crossbodyBag, .pouch, .shoulderBag, .topHandleBag, .toteBag, .travelBag, .vanityCase]

def Pattern.all : List Pattern := [.crystal, .grainedLeather, .monogram, .solid, .studded, .unknown]

def BagAccessory.all : List BagAccessory :=
  [.frontPocket, .lock, .logoPlaque, .shoulderStrap, .sideStuds, .tag, .topHandle, .zipper]

theorem ColorFamily.mem_all (c : ColorFamily) : c ∈ ColorFamily.all := by cases c <;> decide

theorem Silhouette.mem_all (c : Silhouette) : c ∈ Silhouette.all := by cases c <;> decide

theorem CategoryType.mem_all (c : CategoryType) : c ∈ CategoryType.all := by cases c <;> decide

theorem Pattern.mem_all (c : Pattern) : c ∈ Pattern.all := by cases c <;> decide

theorem BagAccessory.mem_all (c : BagAccessory) : c ∈ BagAccessory.all := by cases c <;> decide

/-- A colour name is also a legal feature value. -/
theorem isFeatureText_mono {n m : ℕ} (h : n ≤ m) {s : String} (hs : isFeatureText n s = true) :
    isFeatureText m s = true := by
  unfold isFeatureText at *
  split at hs
  · cases hs
  · rename_i c rest heq
    simp only [Bool.and_eq_true, decide_eq_true_eq] at hs ⊢
    exact ⟨hs.1, lt_of_lt_of_le hs.2 h⟩

/-! ## Hits -/

theorem hitsAt_known {bindings : List BoundSourceAoi} {t : ℕ} {point : ℚ × ℚ}
    {hit : ResolvedSourceAoiHit} (h : hit ∈ hitsAt bindings t point) :
    ∃ b ∈ bindings, b.definition.sourceAoiId = hit.sourceAoiId := by
  obtain ⟨id, hid, hhit⟩ := List.mem_filterMap.1 h
  obtain ⟨b, hb, rfl⟩ := List.mem_map.1 (mem_sortedSet.1 hid)
  refine ⟨b, (List.mem_filter.1 hb).1, ?_⟩
  obtain ⟨first, -, rfl⟩ := Option.map_eq_some_iff.1 hhit
  rfl

/-- Validated attention always resolves. -/
theorem resolveSourceAoiHits_ok {observation : FrameObservationV2} (bindings : List BoundSourceAoi)
    (valid : ∀ a ∈ observation.attention, a.Valid) :
    ∃ hits, resolveSourceAoiHits observation bindings = .ok hits := by
  unfold resolveSourceAoiHits
  cases ha : observation.attention with
  | none => exact ⟨_, rfl⟩
  | some a =>
    dsimp only
    by_cases ho : a.outsideVideo = true
    · rw [if_pos ho]; exact ⟨_, rfl⟩
    · rw [if_neg ho]
      obtain ⟨hx, hy⟩ := (valid a ha).inside (by simpa using ho)
      obtain ⟨x, hx⟩ := Option.isSome_iff_exists.1 hx
      obtain ⟨y, hy⟩ := Option.isSome_iff_exists.1 hy
      rw [hx, hy]
      exact ⟨_, rfl⟩

/-- A hit needs attention and a binding. -/
theorem resolveSourceAoiHits_mem {observation : FrameObservationV2} {bindings : List BoundSourceAoi}
    {hits : List ResolvedSourceAoiHit} (h : resolveSourceAoiHits observation bindings = .ok hits)
    {hit : ResolvedSourceAoiHit} (hm : hit ∈ hits) :
    observation.attention.isSome = true ∧
      ∃ b ∈ bindings, b.definition.sourceAoiId = hit.sourceAoiId := by
  unfold resolveSourceAoiHits at h
  split at h
  · cases h; cases hm
  · rename_i a ha
    refine ⟨by rw [ha]; rfl, ?_⟩
    split at h
    · cases h; cases hm
    · split at h
      · cases h; exact hitsAt_known hm
      · cases h

/-- The bindings of a manifest carry definitions of the metadata. -/
theorem bindSourceAois_mem {manifest : LookbookManifest} {metadata : SourceAoiMetadataV1}
    {bindings : List BoundSourceAoi} (h : bindSourceAois manifest metadata = .ok bindings)
    {b : BoundSourceAoi} (hb : b ∈ bindings) : b.definition ∈ metadata.sourceAois := by
  unfold bindSourceAois at h
  split at h
  · cases h
  · obtain ⟨exposure, -, he⟩ := mapM_mem h hb
    split at he
    · rename_i definition hmatch
      cases he
      have : definition ∈ sourceAoiMatches metadata exposure := by rw [hmatch]; simp
      exact (List.mem_filter.1 this).1
    · cases he

/-! ## The tally loop -/

section Loop

variable (resolvedHits : Dict (ℕ × String) (List ResolvedSourceAoiHit))

/-- The hits a frame was resolved to. -/
def frameHits (frame : FrameObservationV2) : List ResolvedSourceAoiHit :=
  (resolvedHits.get? frame.key).getD []

/-- The source AOI a frame counts for: the only one it hits. -/
def soleHit (frame : FrameObservationV2) : Option String :=
  match frameHits resolvedHits frame with
  | [hit] => some hit.sourceAoiId
  | _ => none

/-- Every hit names a reviewed source AOI. -/
def HitsKnown (metadata : SourceAoiMetadataV1) (frame : FrameObservationV2) : Prop :=
  ∀ h ∈ frameHits resolvedHits frame, ∃ d ∈ metadata.sourceAois, d.sourceAoiId = h.sourceAoiId

/-- What a tally says about the frames it was gathered from. -/
structure SourceTally.Sound (metadata : SourceAoiMetadataV1) (done : List FrameObservationV2)
    (id : String) (t : SourceTally) : Prop where
  definition : t.definition ∈ metadata.sourceAois
  definitionId : t.definition.sourceAoiId = id
  attentionMs : 0 ≤ t.attentionMs
  counted : t.frameIds.length ≤ done.length
  frames : ∀ fid ∈ t.frameIds, ∃ f ∈ done, f.frameId = fid ∧ soleHit resolvedHits f = some id

/-- The invariant of the loop over the frames it has read. -/
structure SourceFold.Inv (metadata : SourceAoiMetadataV1) (done : List FrameObservationV2)
    (s : SourceFold) : Prop where
  keys : ∀ id, id ∈ s.summaries.keys ↔ ∃ f ∈ done, soleHit resolvedHits f = some id
  nonempty : ∀ id t, s.summaries.get? id = some t → 1 ≤ t.frameIds.length
  sound : ∀ id t, s.summaries.get? id = some t → t.Sound resolvedHits metadata done id

variable {resolvedHits}

theorem SourceTally.Sound.later {metadata : SourceAoiMetadataV1} {done : List FrameObservationV2}
    {id : String} {t : SourceTally} (h : t.Sound resolvedHits metadata done id)
    (frame : FrameObservationV2) : t.Sound resolvedHits metadata (done ++ [frame]) id where
  definition := h.definition
  definitionId := h.definitionId
  attentionMs := h.attentionMs
  counted := h.counted.trans (by simp)
  frames fid hf := by
    obtain ⟨f, hd, hfid⟩ := h.frames fid hf
    exact ⟨f, List.mem_append_left _ hd, hfid⟩

/-- A frame without a sole hit leaves the summaries as they are. -/
theorem SourceFold.Inv.unread {metadata : SourceAoiMetadataV1} {done : List FrameObservationV2}
    {s s' : SourceFold} (h : s.Inv resolvedHits metadata done) {frame : FrameObservationV2}
    (hf : soleHit resolvedHits frame = none) (hs : s'.summaries = s.summaries) :
    s'.Inv resolvedHits metadata (done ++ [frame]) where
  keys id := by
    rw [hs, h.keys]
    simp [or_and_right, exists_or, hf]
  nonempty id t ht := h.nonempty id t (hs ▸ ht)
  sound id t ht := (h.sound id t (hs ▸ ht)).later frame

/-- The time a frame adds is the time since the frame before it, which is not negative. -/
theorem SourceTally.record_attention {t : SourceTally} {s : SourceFold} {frame : FrameObservationV2}
    {id : String} (ht : 0 ≤ t.attentionMs)
    (continues : s.previousSourceId = some id →
      ∀ p ∈ s.previousFrame, p.capturedAtMonoMs ≤ frame.capturedAtMonoMs) :
    0 ≤ (t.record s frame id).attentionMs := by
  unfold SourceTally.record
  cases hp : s.previousFrame with
  | none => dsimp only; split <;> exact ht
  | some p =>
    dsimp only
    split
    · rename_i hc
      have := continues hc p hp
      simp only
      linarith
    · split <;> exact ht

theorem SourceTally.record_frameIds (t : SourceTally) (s : SourceFold) (frame : FrameObservationV2)
    (id : String) : (t.record s frame id).frameIds = t.frameIds ++ [frame.frameId] := by
  unfold SourceTally.record
  repeat' split
  all_goals rfl

theorem SourceTally.record_definition (t : SourceTally) (s : SourceFold)
    (frame : FrameObservationV2) (id : String) :
    (t.record s frame id).definition = t.definition := by
  unfold SourceTally.record
  repeat' split
  all_goals rfl

/-- Counting a frame for the one source AOI it hits. -/
theorem SourceFold.Inv.counted {metadata : SourceAoiMetadataV1} {done : List FrameObservationV2}
    {s s' : SourceFold} (h : s.Inv resolvedHits metadata done) {frame : FrameObservationV2}
    {id : String} (hf : soleHit resolvedHits frame = some id) {t : SourceTally}
    (ht : t.Sound resolvedHits metadata done id)
    (continues : s.previousSourceId = some id →
      ∀ p ∈ s.previousFrame, p.capturedAtMonoMs ≤ frame.capturedAtMonoMs)
    (hs : s'.summaries = s.summaries.set id (t.record s frame id)) :
    s'.Inv resolvedHits metadata (done ++ [frame]) where
  keys id' := by
    rw [hs, Dict.mem_keys_iff]
    by_cases he : id' = id
    · subst he
      simp [or_and_right, exists_or, hf]
    · have hne : ¬ id = id' := fun e => he e.symm
      simp only [Dict.get?_set_ne _ he, ← Dict.mem_keys_iff, h.keys]
      simp [or_and_right, exists_or, hf, hne]
  nonempty id' t' ht' := by
    rw [hs, Dict.get?_set] at ht'
    split at ht'
    · cases ht'; simp [SourceTally.record_frameIds]
    · exact h.nonempty id' t' ht'
  sound id' t' ht' := by
    rw [hs, Dict.get?_set] at ht'
    split at ht'
    · rename_i he
      cases ht'
      subst he
      exact {
        definition := by rw [SourceTally.record_definition]; exact ht.definition
        definitionId := by rw [SourceTally.record_definition]; exact ht.definitionId
        attentionMs := SourceTally.record_attention ht.attentionMs continues
        counted := by
          rw [SourceTally.record_frameIds]
          simpa using ht.counted
        frames := by
          intro fid hmem
          rw [SourceTally.record_frameIds, List.mem_append, List.mem_singleton] at hmem
          rcases hmem with hmem | rfl
          · exact (ht.later frame).frames fid hmem
          · exact ⟨frame, by simp, rfl, hf⟩ }
    · exact (h.sound id' t' ht').later frame

/-- Frames that continue each other were captured in order. -/
theorem captured_le_of_not_discontinuity {p frame : FrameObservationV2}
    (h : sourceDiscontinuity (some p) frame = false) : p.capturedAtMonoMs ≤ frame.capturedAtMonoMs := by
  simp only [sourceDiscontinuity, Bool.or_eq_false_iff, decide_eq_false_iff_not, not_le] at h
  linarith [h.1.2]

/-- **One turn of the loop** returns and keeps the invariant. -/
theorem SourceFold.step_ok {metadata : SourceAoiMetadataV1} {done : List FrameObservationV2}
    {s : SourceFold} {frame : FrameObservationV2} (known : HitsKnown resolvedHits metadata frame)
    (h : s.Inv resolvedHits metadata done) :
    ∃ s', s.step metadata resolvedHits frame = .ok s' ∧
      s'.Inv resolvedHits metadata (done ++ [frame]) := by
  unfold SourceFold.step
  -- the break only forgets where the loop was, so the invariant and the order survive it
  obtain ⟨b, hb, inv, continues⟩ : ∃ b : SourceFold,
      (if sourceDiscontinuity s.previousFrame frame then
        { s with previousSourceId := none, seenSourceIds := [] } else s) = b ∧
      b.Inv resolvedHits metadata done ∧
      ∀ id, b.previousSourceId = some id →
        ∀ p ∈ b.previousFrame, p.capturedAtMonoMs ≤ frame.capturedAtMonoMs := by
    refine ⟨_, rfl, ?_⟩
    split
    · exact ⟨⟨h.keys, h.nonempty, h.sound⟩, fun _ e => by cases e⟩
    · rename_i hd
      refine ⟨h, fun _ _ p hp => captured_le_of_not_discontinuity ?_⟩
      rw [Option.mem_def.1 hp] at hd
      simpa using hd
  simp only [hb]
  have hfh : frameHits resolvedHits frame = (resolvedHits.get? frame.key).getD [] := rfl
  rw [← hfh]
  unfold SourceFold.visit
  rcases hh : frameHits resolvedHits frame with _ | ⟨hit, _ | ⟨second, more⟩⟩
  · exact ⟨_, rfl, inv.unread (by simp [soleHit, hh]) rfl⟩
  · obtain ⟨d, hd, hid⟩ := known hit (by rw [hh]; exact List.mem_singleton_self _)
    have hsole : soleHit resolvedHits frame = some hit.sourceAoiId := by simp [soleHit, hh]
    dsimp only
    cases hfind : metadata.sourceAois.find? fun d => d.sourceAoiId = hit.sourceAoiId with
    | none =>
      have := List.find?_eq_none.1 hfind d hd
      simp [hid] at this
    | some definition =>
      refine ⟨_, rfl, inv.counted hsole ?_ (continues _) rfl⟩
      cases hget : b.summaries.get? hit.sourceAoiId with
      | some t => exact inv.sound _ _ hget
      | none =>
        exact {
          definition := List.mem_of_find?_eq_some hfind
          definitionId := by simpa using List.find?_some hfind
          attentionMs := le_refl _
          counted := by simp
          frames := by simp }
  · exact ⟨_, rfl, inv.unread (by simp [soleHit, hh]) rfl⟩

/-- **The whole loop** returns, with the invariant over all frames. -/
theorem sourceFold_ok {metadata : SourceAoiMetadataV1} (frames : List FrameObservationV2)
    (known : ∀ f ∈ frames, HitsKnown resolvedHits metadata f) :
    ∃ s, frames.foldlM (SourceFold.step metadata resolvedHits) {} = .ok s ∧
      s.Inv resolvedHits metadata frames := by
  refine foldlM_ok (fun done f rest s hl inv => SourceFold.step_ok (known f ?_) inv) ?_
  · rw [← hl]; simp
  exact ⟨fun id => by simp, fun id t h => by simp at h, fun id t h => by simp at h⟩

end Loop

/-! ## The evidence -/

section Evidence

variable {resolvedHits : Dict (ℕ × String) (List ResolvedSourceAoiHit)}
  {metadata : SourceAoiMetadataV1} {observations : List FrameObservationV2}

/-- The distinct primary colours of the source AOIs that some frame counts for. -/
def observedColors (resolvedHits : Dict (ℕ × String) (List ResolvedSourceAoiHit))
    (metadata : SourceAoiMetadataV1) (observations : List FrameObservationV2) : List String :=
  ((metadata.sourceAois.filter fun d =>
      observations.any fun f => soleHit resolvedHits f = some d.sourceAoiId).map
    (·.visualFeatures.colorPrimary)).dedup

/-- The summary of a tallied source AOI. -/
def SourceTally.summary (id : String) (t : SourceTally) : SourceAoiEvidenceSummaryV1 where
  sourceAoiId := id
  hitCount := t.frameIds.length
  attentionMs := t.attentionMs
  returnCount := t.returnCount
  frameIds := t.frameIds
  visualFeatures := t.definition.visualFeatures

/-- The summaries of the loop's tallies, in the order of their ids. -/
def SourceFold.sourceSummaries (s : SourceFold) : List SourceAoiEvidenceSummaryV1 :=
  (sortOn Prod.fst s.summaries.entries).map fun e => e.2.summary e.1

/-- What a summary in the evidence says. -/
structure SourceSummarySound (resolvedHits : Dict (ℕ × String) (List ResolvedSourceAoiHit))
    (metadata : SourceAoiMetadataV1) (observations : List FrameObservationV2)
    (item : SourceAoiEvidenceSummaryV1) : Prop where
  known : item.sourceAoiId ∈ metadata.sourceAois.map (·.sourceAoiId)
  features : item.visualFeatures.Valid
  counted : 1 ≤ item.hitCount ∧ 0 ≤ item.attentionMs
  valid : item.Valid
  frames : ∀ fid ∈ item.frameIds, ∃ f ∈ observations, f.frameId = fid ∧
    soleHit resolvedHits f = some item.sourceAoiId

theorem SourceFold.Inv.summarySound {s : SourceFold}
    (inv : s.Inv resolvedHits metadata observations) (bounded : observations.length ≤ 512)
    {item : SourceAoiEvidenceSummaryV1} (h : item ∈ s.sourceSummaries) :
    SourceSummarySound resolvedHits metadata observations item := by
  obtain ⟨⟨id, t⟩, he, rfl⟩ := List.mem_map.1 h
  have hget := Dict.mem_entries_iff.1 (mem_sortOn.1 he)
  have sound := inv.sound id t hget
  have known : id ∈ metadata.sourceAois.map (·.sourceAoiId) :=
    List.mem_map.2 ⟨_, sound.definition, sound.definitionId⟩
  have one := inv.nonempty id t hget
  refine ⟨known, metadata.featuresValid _ sound.definition, ⟨one, sound.attentionMs⟩,
    ⟨?_, one, sound.attentionMs, one, sound.counted.trans bounded⟩, sound.frames⟩
  have := metadata.idsOk _ sound.definition
  rwa [sound.definitionId] at this

/-- The observed colours are the colours of the summaries. -/
theorem SourceFold.Inv.colors {s : SourceFold} (inv : s.Inv resolvedHits metadata observations) :
    (s.sourceSummaries.map (·.visualFeatures.colorPrimary)).dedup.length =
      (observedColors resolvedHits metadata observations).length := by
  refine List.Perm.length_eq ((List.perm_ext_iff_of_nodup (List.nodup_dedup _)
    (List.nodup_dedup _)).2 fun c => ?_)
  simp only [List.mem_dedup, SourceFold.sourceSummaries, List.map_map, List.mem_map, mem_sortOn,
    Function.comp_def, SourceTally.summary, Prod.exists, Dict.mem_entries_iff, List.mem_filter,
    List.any_eq_true, decide_eq_true_eq]
  constructor
  · rintro ⟨id, t, hget, rfl⟩
    have sound := inv.sound id t hget
    obtain ⟨f, hf, hsole⟩ := (inv.keys id).1 (Dict.mem_keys_iff.2 ⟨t, hget⟩)
    exact ⟨t.definition, ⟨sound.definition, f, hf, by rw [hsole, sound.definitionId]⟩, rfl⟩
  · rintro ⟨d, ⟨hd, f, hf, hsole⟩, rfl⟩
    obtain ⟨t, hget⟩ := Dict.mem_keys_iff.1 ((inv.keys _).2 ⟨f, hf, hsole⟩)
    have sound := inv.sound _ t hget
    exact ⟨_, t, hget, by
      rw [List.inj_on_of_nodup_map metadata.idsUnique sound.definition hd sound.definitionId]⟩

theorem SourceFold.length_sourceSummaries (s : SourceFold) :
    s.sourceSummaries.length = s.summaries.size := by
  rw [SourceFold.sourceSummaries, List.length_map, length_sortOn, Dict.size]

/-- There are no more summaries than reviewed source AOIs. -/
theorem SourceFold.Inv.few {s : SourceFold} (inv : s.Inv resolvedHits metadata observations) :
    s.sourceSummaries.length ≤ 64 := by
  rw [s.length_sourceSummaries, Dict.size, ← List.length_map (f := Prod.fst),
    ← List.Nodup.dedup s.summaries.nodup]
  refine (length_dedup_le_of_subset (metadata.sourceAois.map (·.sourceAoiId))
    fun id hid => ?_).trans (by simpa using metadata.bounded.2)
  obtain ⟨t, hget⟩ := Dict.mem_keys_iff.1 hid
  have sound := inv.sound id t hget
  exact List.mem_map.2 ⟨_, sound.definition, sound.definitionId⟩

/-- What the evidence, when there is some, says about the frames. -/
structure SourceEvidenceSound (resolvedHits : Dict (ℕ × String) (List ResolvedSourceAoiHit))
    (metadata : SourceAoiMetadataV1) (observations : List FrameObservationV2)
    (evidence : SourceVisualEvidenceV1) : Prop where
  sourceAois : ∀ item ∈ evidence.sourceAois,
    SourceSummarySound resolvedHits metadata observations item
  observed : ∃ f ∈ observations, (soleHit resolvedHits f).isSome = true

/-- The invariant does not depend on the order of the frames. -/
theorem SourceFold.Inv.of_ordered {s : SourceFold}
    (inv : s.Inv resolvedHits metadata (ordered observations)) :
    s.Inv resolvedHits metadata observations where
  keys id := by simpa [ordered] using inv.keys id
  nonempty := inv.nonempty
  sound id t ht := by
    have sound := inv.sound id t ht
    refine ⟨sound.definition, sound.definitionId, sound.attentionMs, ?_, ?_⟩
    · simpa [ordered] using sound.counted
    · simpa [ordered] using sound.frames

theorem sourceSummaries_construct {s : SourceFold}
    (inv : s.Inv resolvedHits metadata observations) (bounded : observations.length ≤ 512) :
    ((sortOn Prod.fst s.summaries.entries).mapM fun e =>
      construct (e.2.summary e.1)) = .ok s.sourceSummaries :=
  mapM_eq_ok fun _ he => construct_ok
    (inv.summarySound bounded (List.mem_map_of_mem he)).valid

theorem SourceFold.sourceSummaries_eq_nil {s : SourceFold} :
    s.sourceSummaries = [] ↔ s.summaries.entries = [] := by
  rw [SourceFold.sourceSummaries, List.map_eq_nil_iff, sortOn_eq_nil]

/-- **The evidence of a buffer**: none when no frame counts, else a value whose fields all lie
within their limits exactly when at most 32 primary colours were observed. -/
theorem buildSourceVisualEvidence_cases
    (known : ∀ f ∈ observations, HitsKnown resolvedHits metadata f)
    (bounded : observations.length ≤ 512) :
    (buildSourceVisualEvidence observations resolvedHits metadata = .ok none ∧
      ∀ f ∈ observations, soleHit resolvedHits f = none) ∨
    ∃ evidence, SourceEvidenceSound resolvedHits metadata observations evidence ∧
      buildSourceVisualEvidence observations resolvedHits metadata =
        (construct evidence >>= fun e => pure (some e)) ∧
      (evidence.Valid ↔ (observedColors resolvedHits metadata observations).length ≤ 32) := by
  obtain ⟨s, hs, inv'⟩ := sourceFold_ok (ordered observations)
    fun f hf => known f (mem_sortOn.1 hf)
  have inv := inv'.of_ordered
  unfold buildSourceVisualEvidence
  rw [bind_ok hs]
  by_cases hempty : s.summaries.entries = []
  · refine .inl ⟨by rw [if_pos hempty]; rfl, fun f hf => ?_⟩
    by_contra hsole
    obtain ⟨id, hid⟩ := Option.ne_none_iff_exists'.1 hsole
    have := (inv.keys id).2 ⟨f, hf, hid⟩
    rw [Dict.keys, hempty] at this
    cases this
  · right
    have sound : ∀ item ∈ s.sourceSummaries, _ := fun item h => inv.summarySound bounded h
    have nonempty : s.sourceSummaries ≠ [] := fun h => hempty (s.sourceSummaries_eq_nil.1 h)
    have counted : ∀ item ∈ s.sourceSummaries, 1 ≤ item.hitCount ∧ 0 ≤ item.attentionMs :=
      fun item h => (sound item h).counted
    obtain ⟨first, hfirst⟩ := List.exists_mem_of_ne_nil _ nonempty
    -- the free-text colours: one score for each distinct one
    obtain ⟨colors, hcolors, lcolors⟩ := featureScores_ok
      (s.sourceSummaries.map fun item => (item.visualFeatures.colorPrimary, item))
      (s.sourceSummaries.map (·.sourceAoiId))
      (by
        simp only [List.forall_mem_map]
        exact fun item h => isFeatureText_mono (by omega) (sound item h).features.colorPrimary)
      (by simpa only [List.forall_mem_map] using counted)
      (by simp only [List.forall_mem_map]; exact fun item h => List.mem_map_of_mem h)
      (by simpa using inv.few)
    have colorCount : colors.length = (observedColors resolvedHits metadata observations).length := by
      rw [lcolors, ← inv.colors, List.map_map]; rfl
    -- the enumerated features: no more scores than members of the enumeration
    obtain ⟨families, hfamilies, families_le, families_pos⟩ := featureScores_le
      (s.sourceSummaries.map fun item => (item.visualFeatures.colorFamily.value, item))
      (ColorFamily.all.map ColorFamily.value) counted inv.few (by decide)
      (by simp only [List.forall_mem_map]
          exact fun item h => ⟨h, List.mem_map_of_mem (ColorFamily.mem_all _)⟩)
    obtain ⟨silhouettes, hsilhouettes, silhouettes_le, silhouettes_pos⟩ := featureScores_le
      (s.sourceSummaries.map fun item => (item.visualFeatures.silhouette.value, item))
      (Silhouette.all.map Silhouette.value) counted inv.few (by decide)
      (by simp only [List.forall_mem_map]
          exact fun item h => ⟨h, List.mem_map_of_mem (Silhouette.mem_all _)⟩)
    obtain ⟨categories, hcategories, categories_le, categories_pos⟩ := featureScores_le
      (s.sourceSummaries.map fun item => (item.visualFeatures.categoryType.value, item))
      (CategoryType.all.map CategoryType.value) counted inv.few (by decide)
      (by simp only [List.forall_mem_map]
          exact fun item h => ⟨h, List.mem_map_of_mem (CategoryType.mem_all _)⟩)
    obtain ⟨patterns, hpatterns, patterns_le, patterns_pos⟩ := featureScores_le
      (s.sourceSummaries.flatMap fun item =>
        item.visualFeatures.patterns.map fun v => (v.value, item))
      (Pattern.all.map Pattern.value) counted inv.few (by decide)
      (by simp only [List.forall_mem_flatMap, List.forall_mem_map]
          exact fun item h v _ => ⟨h, List.mem_map_of_mem (Pattern.mem_all _)⟩)
    obtain ⟨accessories, haccessories, accessories_le, -⟩ := featureScores_le
      (s.sourceSummaries.flatMap fun item =>
        item.visualFeatures.bagAccessories.map fun v => (v.value, item))
      (BagAccessory.all.map BagAccessory.value) counted inv.few (by decide)
      (by simp only [List.forall_mem_flatMap, List.forall_mem_map]
          exact fun item h v _ => ⟨h, List.mem_map_of_mem (BagAccessory.mem_all _)⟩)
    have patternsNonempty : (s.sourceSummaries.flatMap fun item =>
        item.visualFeatures.patterns.map fun v => (v.value, item)) ≠ [] := by
      obtain ⟨v, hv⟩ := List.exists_mem_of_length_pos (sound first hfirst).features.patternsBounded.1
      exact List.ne_nil_of_mem (List.mem_flatMap.2 ⟨first, hfirst, List.mem_map_of_mem hv⟩)
    rw [if_neg hempty]
    refine ⟨{
        metadataVersion := metadata.metadataVersion
        featureTaxonomyVersion := metadata.featureTaxonomyVersion
        totalHitCount := (s.sourceSummaries.map (·.hitCount)).sum
        ambiguousFrameCount := s.ambiguousFrameCount
        sourceAois := s.sourceSummaries
        colorPrimaryScores := colors, colorFamilyScores := families
        silhouetteScores := silhouettes, categoryTypeScores := categories
        patternScores := patterns, bagAccessoryScores := accessories }, ⟨sound, ?_⟩, ?_, ?_⟩
    · obtain ⟨⟨id, t⟩, he, rfl⟩ := List.mem_map.1 hfirst
      obtain ⟨f, hf, hsole⟩ := (inv.keys id).1
        (Dict.mem_keys_iff.2 ⟨t, Dict.mem_entries_iff.1 (mem_sortOn.1 he)⟩)
      exact ⟨f, hf, by rw [hsole]; rfl⟩
    · refine (bind_ok (sourceSummaries_construct inv bounded) _).trans ?_
      rw [bind_ok hcolors, bind_ok hfamilies, bind_ok hsilhouettes, bind_ok hcategories,
        bind_ok hpatterns, bind_ok haccessories]
    · have scored : ∀ {α : Type} (f : SourceAoiEvidenceSummaryV1 → α), s.sourceSummaries.map f ≠ [] :=
        fun f => by simpa using nonempty
      have total : 1 ≤ (s.sourceSummaries.map (·.hitCount)).sum :=
        (counted first hfirst).1.trans (List.single_le_sum (by simp) _ (List.mem_map_of_mem hfirst))
      constructor
      · exact fun h => colorCount ▸ h.colorPrimaryScores.2
      · intro h
        exact {
          metadataVersion := metadata.metadataVersionOk
          featureTaxonomyVersion := metadata.featureTaxonomyVersionOk
          totalHitCount := total
          sourceAois := ⟨List.length_pos_iff.2 nonempty, inv.few⟩
          colorPrimaryScores := by
            refine ⟨?_, colorCount ▸ h⟩
            rw [lcolors]
            exact List.length_pos_iff.2 (by simpa [List.dedup_eq_nil] using nonempty)
          colorFamilyScores := ⟨families_pos (scored _), families_le.trans (by decide)⟩
          silhouetteScores := ⟨silhouettes_pos (scored _), silhouettes_le.trans (by decide)⟩
          categoryTypeScores := ⟨categories_pos (scored _), categories_le.trans (by decide)⟩
          patternScores := ⟨patterns_pos patternsNonempty, patterns_le.trans (by decide)⟩
          bagAccessoryScores := ⟨Nat.zero_le _, accessories_le.trans (by decide)⟩ }

/-- The source evidence can be built exactly when its colours fit. -/
theorem buildSourceVisualEvidence_isOk_iff
    (known : ∀ f ∈ observations, HitsKnown resolvedHits metadata f)
    (bounded : observations.length ≤ 512)
    (observed : ∃ f ∈ observations, (soleHit resolvedHits f).isSome = true) :
    (buildSourceVisualEvidence observations resolvedHits metadata).isOk = true ↔
      (observedColors resolvedHits metadata observations).length ≤ 32 := by
  rcases buildSourceVisualEvidence_cases known bounded with ⟨-, none⟩ | ⟨evidence, -, heq, hvalid⟩
  · obtain ⟨f, hf, hs⟩ := observed
    rw [none f hf] at hs
    cases hs
  · rw [heq, ← hvalid]
    refine Iff.trans ?_ (construct_isOk_iff (a := evidence))
    cases construct evidence <;> rfl

end Evidence

end Mkk.Api
