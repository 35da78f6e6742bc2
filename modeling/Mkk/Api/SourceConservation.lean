import Mkk.Api.SourceRuns
import Mkk.Lib.Tally

/-!
# What the source evidence conserves

Every frame with a single hit is counted once under the source AOI it hits, and the feature scores
pass on what the source AOIs were counted with: no hit and no time is lost or counted twice on the
way from the frames to the scores (`source_conservation`).
-/

namespace Mkk.Api

open Lib

/-! ## Feature scores -/

/-- The scores of a feature over the summaries of the source AOIs that carry its values. -/
structure ScoresOf (values : List (String × SourceAoiEvidenceSummaryV1)) (scores : List FeatureScoreV1) :
    Prop where
  score : (scores.map (·.score)).sum = (values.map (·.2.hitCount)).sum
  attentionMs : (scores.map (·.attentionMs)).sum = (values.map (·.2.attentionMs)).sum
  once : (scores.map (·.value)).Nodup
  carried : ∀ v, v ∈ scores.map (·.value) ↔ ∃ e ∈ values, e.1 = v
  sources : ∀ s ∈ scores, s.sourceAoiIds.Nodup ∧
    ∀ id, id ∈ s.sourceAoiIds ↔ ∃ e ∈ values, e.1 = s.value ∧ e.2.sourceAoiId = id

theorem mapM_construct {α β : Type} [ContractModel β] {f : α → β} {l : List α} {bs : List β}
    (h : l.mapM (fun a => construct (f a)) = .ok bs) : bs = l.map f := by
  induction l generalizing bs with
  | nil => cases h; rfl
  | cons a rest ih =>
    rw [List.mapM_cons] at h
    obtain ⟨b, hb, h⟩ := bind_eq_ok_iff.1 h
    obtain ⟨bs, hbs, h⟩ := bind_eq_ok_iff.1 h
    cases h
    rw [List.map_cons, ih hbs, (construct_eq_ok_iff.1 hb).1]

/-- The tallies of the values hold what the summaries add up to. -/
theorem sum_featureTallies (values : List (String × SourceAoiEvidenceSummaryV1)) :
    ((Dict.accumulate Prod.fst FeatureTally.add values).entries.map fun e => e.2.score).sum =
        (values.map (·.2.hitCount)).sum ∧
      ((Dict.accumulate Prod.fst FeatureTally.add values).entries.map fun e => e.2.attentionMs).sum =
        (values.map (·.2.attentionMs)).sum := by
  have score : ∀ (o : Option FeatureTally) (e : String × SourceAoiEvidenceSummaryV1),
      (FeatureTally.add o e).score = (o.map (·.score)).getD 0 + e.2.hitCount := by
    intro o e; cases o <;> rfl
  have time : ∀ (o : Option FeatureTally) (e : String × SourceAoiEvidenceSummaryV1),
      (FeatureTally.add o e).attentionMs = (o.map (·.attentionMs)).getD 0 + e.2.attentionMs := by
    intro o e; cases o <;> rfl
  exact ⟨Dict.sum_accumulate score values, Dict.sum_accumulate time values⟩

/-- **The scores** pass on what the summaries hold. -/
theorem featureScores_conserve {values : List (String × SourceAoiEvidenceSummaryV1)}
    {scores : List FeatureScoreV1} (h : featureScores values = .ok scores) : ScoresOf values scores := by
  have made := mapM_construct h
  clear h
  generalize inOrder : sortOn (fun e : String × FeatureTally =>
    (toLex (-(e.2.score : ℤ), e.1) : ℤ ×ₗ String))
      (Dict.accumulate Prod.fst FeatureTally.add values).entries = entries at made
  have same : entries.Perm (Dict.accumulate Prod.fst FeatureTally.add values).entries :=
    inOrder ▸ sortOn_perm _ _
  have get (v : String) (t : FeatureTally) : (v, t) ∈ entries ↔
      (Dict.accumulate Prod.fst FeatureTally.add values).get? v = some t :=
    same.mem_iff.trans Dict.mem_entries_iff
  have values' : scores.map (·.value) = entries.map Prod.fst := by
    rw [made, List.map_map]; rfl
  subst made
  exact {
    score := by
      rw [List.map_map]
      exact ((same.map _).sum_eq).trans (sum_featureTallies values).1
    attentionMs := by
      rw [List.map_map]
      exact ((same.map _).sum_eq).trans (sum_featureTallies values).2
    once := by
      rw [values']
      exact ((same.map Prod.fst).nodup_iff).2 (Dict.accumulate _ _ values).nodup
    carried := fun v => by
      rw [values', (same.map Prod.fst).mem_iff]
      exact (Dict.mem_keys_accumulate Prod.fst FeatureTally.add).trans List.mem_map
    sources := fun s hs => by
      obtain ⟨⟨v, t⟩, member, rfl⟩ := List.mem_map.1 hs
      obtain ⟨e, rest, filtered, rfl⟩ := featureTally_eq ((get v t).1 member)
      refine ⟨nodup_sortedSet _, fun id => ?_⟩
      rw [mem_sortedSet]
      dsimp only
      rw [← filtered]
      simp [and_assoc] }

/-! ## How the evidence is made -/

/-- The values a source AOI brings to a feature, each with its summary. -/
def featureValues (valuesOf : VisualFeaturesV1 → List String)
    (items : List SourceAoiEvidenceSummaryV1) : List (String × SourceAoiEvidenceSummaryV1) :=
  items.flatMap fun item => (valuesOf item.visualFeatures).map fun v => (v, item)

/-- The evidence as the loop and the grouping passes leave it. -/
structure SourceMade (resolvedHits : Dict (ℕ × String) (List ResolvedSourceAoiHit))
    (metadata : SourceAoiMetadataV1) (observations : List FrameObservationV2)
    (evidence : SourceVisualEvidenceV1) (s : SourceFold) : Prop where
  looped : (ordered observations).foldlM (SourceFold.step metadata resolvedHits) {} = .ok s
  sourceAois : evidence.sourceAois = s.sourceSummaries
  totalHitCount : evidence.totalHitCount = (evidence.sourceAois.map (·.hitCount)).sum
  ambiguous : evidence.ambiguousFrameCount = s.ambiguousFrameCount
  colorPrimary : ScoresOf (featureValues (fun f => [f.colorPrimary]) evidence.sourceAois)
    evidence.colorPrimaryScores
  colorFamily : ScoresOf (featureValues (fun f => [f.colorFamily.value]) evidence.sourceAois)
    evidence.colorFamilyScores
  silhouette : ScoresOf (featureValues (fun f => [f.silhouette.value]) evidence.sourceAois)
    evidence.silhouetteScores
  categoryType : ScoresOf (featureValues (fun f => [f.categoryType.value]) evidence.sourceAois)
    evidence.categoryTypeScores
  patterns : ScoresOf (featureValues (fun f => f.patterns.map Pattern.value) evidence.sourceAois)
    evidence.patternScores
  accessories : ScoresOf
    (featureValues (fun f => f.bagAccessories.map BagAccessory.value) evidence.sourceAois)
    evidence.bagAccessoryScores

section Made

variable {resolvedHits : Dict (ℕ × String) (List ResolvedSourceAoiHit)}
  {metadata : SourceAoiMetadataV1} {observations : List FrameObservationV2}
  {evidence : SourceVisualEvidenceV1}

theorem featureValues_single (valueOf : VisualFeaturesV1 → String)
    (items : List SourceAoiEvidenceSummaryV1) :
    (items.map fun item => (valueOf item.visualFeatures, item)) =
      featureValues (fun f => [valueOf f]) items := by
  unfold featureValues
  induction items with
  | nil => rfl
  | cons item rest ih => rw [List.map_cons, List.flatMap_cons, ih]; rfl

theorem buildSourceVisualEvidence_made
    (h : buildSourceVisualEvidence observations resolvedHits metadata = .ok (some evidence)) :
    ∃ s, SourceMade resolvedHits metadata observations evidence s := by
  unfold buildSourceVisualEvidence at h
  obtain ⟨s, looped, h⟩ := bind_eq_ok_iff.1 h
  split at h
  · cases h
  obtain ⟨items, summarized, h⟩ := bind_eq_ok_iff.1 h
  obtain ⟨colors, hcolors, h⟩ := bind_eq_ok_iff.1 h
  obtain ⟨families, hfamilies, h⟩ := bind_eq_ok_iff.1 h
  obtain ⟨silhouettes, hsilhouettes, h⟩ := bind_eq_ok_iff.1 h
  obtain ⟨categories, hcategories, h⟩ := bind_eq_ok_iff.1 h
  obtain ⟨patterns, hpatterns, h⟩ := bind_eq_ok_iff.1 h
  obtain ⟨accessories, haccessories, h⟩ := bind_eq_ok_iff.1 h
  obtain ⟨made, constructed, h⟩ := bind_eq_ok_iff.1 h
  cases h
  obtain ⟨rfl, -⟩ := construct_eq_ok_iff.1 constructed
  rw [featureValues_single (·.colorPrimary)] at hcolors
  rw [featureValues_single (·.colorFamily.value)] at hfamilies
  rw [featureValues_single (·.silhouette.value)] at hsilhouettes
  rw [featureValues_single (·.categoryType.value)] at hcategories
  refine ⟨s, {
    looped := looped
    sourceAois := mapM_construct summarized
    totalHitCount := rfl
    ambiguous := rfl
    colorPrimary := featureScores_conserve hcolors
    colorFamily := featureScores_conserve hfamilies
    silhouette := featureScores_conserve hsilhouettes
    categoryType := featureScores_conserve hcategories
    patterns := ?_
    accessories := ?_ }⟩
  · refine featureScores_conserve ?_
    unfold featureValues
    simpa only [List.map_map, Function.comp_def] using hpatterns
  · refine featureScores_conserve ?_
    unfold featureValues
    simpa only [List.map_map, Function.comp_def] using haccessories

end Made

/-! ## What is conserved -/

/-- The scores of a feature hold what the source AOIs were counted with, once for each of their
values, and name the source AOIs that carry a value. -/
structure ValuesConserved (evidence : SourceVisualEvidenceV1)
    (valuesOf : VisualFeaturesV1 → List String) (scores : List FeatureScoreV1) : Prop where
  score : (scores.map (·.score)).sum = (evidence.sourceAois.map fun item =>
    (valuesOf item.visualFeatures).length * item.hitCount).sum
  attentionMs : (scores.map (·.attentionMs)).sum = (evidence.sourceAois.map fun item =>
    ((valuesOf item.visualFeatures).length : ℚ) * item.attentionMs).sum
  once : (scores.map (·.value)).Nodup
  carried : ∀ v, v ∈ scores.map (·.value) ↔
    ∃ item ∈ evidence.sourceAois, v ∈ valuesOf item.visualFeatures
  sources : ∀ s ∈ scores, s.sourceAoiIds.Nodup ∧ ∀ id, id ∈ s.sourceAoiIds ↔
    ∃ item ∈ evidence.sourceAois, item.sourceAoiId = id ∧ s.value ∈ valuesOf item.visualFeatures

/-- The scores of a feature with one value per source AOI. -/
structure TotalConserved (evidence : SourceVisualEvidenceV1) (valueOf : VisualFeaturesV1 → String)
    (scores : List FeatureScoreV1) : Prop extends
    ValuesConserved evidence (fun f => [valueOf f]) scores where
  total : (scores.map (·.score)).sum = evidence.totalHitCount
  totalAttention : (scores.map (·.attentionMs)).sum = (evidence.sourceAois.map (·.attentionMs)).sum

/-- No hit and no time is lost or counted twice. -/
structure SourceConserved (resolvedHits : Dict (ℕ × String) (List ResolvedSourceAoiHit))
    (observations : List FrameObservationV2) (evidence : SourceVisualEvidenceV1) : Prop where
  distinct : (evidence.sourceAois.map (·.sourceAoiId)).Nodup
  observed : ∀ id, id ∈ evidence.sourceAois.map (·.sourceAoiId) ↔
    ∃ f ∈ observations, soleHit resolvedHits f = some id
  frameIds : ∀ item ∈ evidence.sourceAois, item.hitCount = item.frameIds.length ∧
    ∀ frameId, item.frameIds.count frameId = observations.countP fun f =>
      f.frameId = frameId ∧ soleHit resolvedHits f = some item.sourceAoiId
  total : evidence.totalHitCount = (evidence.sourceAois.map (·.hitCount)).sum
  frames : evidence.totalHitCount + evidence.ambiguousFrameCount ≤ observations.length
  colorPrimary : TotalConserved evidence (·.colorPrimary) evidence.colorPrimaryScores
  colorFamily : TotalConserved evidence (·.colorFamily.value) evidence.colorFamilyScores
  silhouette : TotalConserved evidence (·.silhouette.value) evidence.silhouetteScores
  categoryType : TotalConserved evidence (·.categoryType.value) evidence.categoryTypeScores
  patterns : ValuesConserved evidence (·.patterns.map Pattern.value) evidence.patternScores
  accessories : ValuesConserved evidence (·.bagAccessories.map BagAccessory.value)
    evidence.bagAccessoryScores
  nonneg : ∀ item ∈ evidence.sourceAois, 0 ≤ item.attentionMs
  bounded : (evidence.sourceAois.map (·.attentionMs)).sum ≤ captureSpans observations

section Conserved

variable {resolvedHits : Dict (ℕ × String) (List ResolvedSourceAoiHit)}
  {metadata : SourceAoiMetadataV1} {observations : List FrameObservationV2}
  {evidence : SourceVisualEvidenceV1} {s : SourceFold}

theorem mem_featureValues {valuesOf : VisualFeaturesV1 → List String}
    {items : List SourceAoiEvidenceSummaryV1} {v : String} {item : SourceAoiEvidenceSummaryV1} :
    (v, item) ∈ featureValues valuesOf items ↔ item ∈ items ∧ v ∈ valuesOf item.visualFeatures := by
  simp [featureValues]

/-- What the values of a feature bring along adds up by source AOI. -/
theorem sum_featureValues {M : Type} [AddCommMonoid M] (g : SourceAoiEvidenceSummaryV1 → M)
    (valuesOf : VisualFeaturesV1 → List String) (items : List SourceAoiEvidenceSummaryV1) :
    ((featureValues valuesOf items).map fun e => g e.2).sum =
      (items.map fun item => (valuesOf item.visualFeatures).length • g item).sum := by
  unfold featureValues
  induction items with
  | nil => rfl
  | cons item rest ih =>
    rw [List.flatMap_cons, List.map_append, List.sum_append, ih, List.map_cons, List.sum_cons]
    congr 1
    rw [List.map_map]
    change ((valuesOf item.visualFeatures).map fun _ => g item).sum = _
    rw [List.map_const', List.sum_replicate]

theorem ScoresOf.conserved {valuesOf : VisualFeaturesV1 → List String} {scores : List FeatureScoreV1}
    (h : ScoresOf (featureValues valuesOf evidence.sourceAois) scores) :
    ValuesConserved evidence valuesOf scores where
  score := by rw [h.score, sum_featureValues]; simp only [smul_eq_mul]
  attentionMs := by rw [h.attentionMs, sum_featureValues]; simp only [nsmul_eq_mul]
  once := h.once
  carried v := by
    rw [h.carried]
    constructor
    · rintro ⟨⟨_, item⟩, member, rfl⟩
      exact ⟨item, mem_featureValues.1 member⟩
    · exact fun ⟨item, member⟩ => ⟨(v, item), mem_featureValues.2 member, rfl⟩
  sources score hs := by
    refine ⟨(h.sources score hs).1, fun id => ?_⟩
    rw [(h.sources score hs).2]
    constructor
    · rintro ⟨⟨v, item⟩, member, rfl, rfl⟩
      obtain ⟨member, carries⟩ := mem_featureValues.1 member
      exact ⟨item, member, rfl, carries⟩
    · rintro ⟨item, member, rfl, carries⟩
      exact ⟨(_, item), mem_featureValues.2 ⟨member, carries⟩, rfl, rfl⟩

theorem ScoresOf.totalConserved {valueOf : VisualFeaturesV1 → String} {scores : List FeatureScoreV1}
    (h : ScoresOf (featureValues (fun f => [valueOf f]) evidence.sourceAois) scores)
    (total : evidence.totalHitCount = (evidence.sourceAois.map (·.hitCount)).sum) :
    TotalConserved evidence valueOf scores where
  toValuesConserved := h.conserved
  total := by rw [h.conserved.score, total]; simp
  totalAttention := by rw [h.conserved.attentionMs]; simp

theorem sum_indicator {B : Type} (p : B → Prop) [DecidablePred p] (l : List B) :
    (l.map fun b => if p b then 1 else 0).sum = l.countP (p ·) := by
  induction l with
  | nil => rfl
  | cons b rest ih =>
    rw [List.map_cons, List.sum_cons, ih, List.countP_cons, add_comm]
    simp only [decide_eq_true_eq]

/-- Elements that count for one of some distinct names, and others that count for none. -/
theorem sum_countP_add_le {A B : Type} [DecidableEq B] (g : A → Option B) (q : A → Bool)
    (none : ∀ a, q a = true → g a = none) {names : List B} (distinct : names.Nodup) (l : List A) :
    (names.map fun b => l.countP fun a => g a = some b).sum + l.countP q ≤ l.length := by
  induction l with
  | nil => simp
  | cons a rest ih =>
    have split : (names.map fun b => (a :: rest).countP fun a => g a = some b).sum =
        (names.map fun b => rest.countP fun a => g a = some b).sum +
          (names.map fun b => if g a = some b then 1 else 0).sum := by
      rw [← List.sum_map_add]
      simp only [List.countP_cons, decide_eq_true_eq]
    have one : (names.map fun b => if g a = some b then 1 else 0).sum + (if q a = true then 1 else 0) ≤
        1 := by
      cases named : g a with
      | none => simp; split <;> omega
      | some b =>
        have other : q a = false := by
          cases hq : q a with
          | false => rfl
          | true => rw [none a hq] at named; cases named
        have count := List.nodup_iff_count_le_one.1 distinct b
        rw [List.count_eq_countP] at count
        rw [sum_indicator, other]
        simpa [beq_eq_decide, eq_comm] using count
    rw [split, List.countP_cons, List.length_cons]
    omega

theorem sourceAttribution_linked (resolvedHits : Dict (ℕ × String) (List ResolvedSourceAoiHit))
    (frames : List FrameObservationV2) : Linked (sourceAttribution resolvedHits frames) frames := by
  intro k p f before found uncut
  rw [sourceAttribution_cut found, previousAt, before] at uncut
  refine ⟨?_, captured_le_of_not_discontinuity uncut⟩
  simp only [sourceDiscontinuity, Bool.or_eq_false_iff, bne_eq_false_iff_eq] at uncut
  exact uncut.1.1.1.1.symm

/-- The tally behind a summary. -/
theorem SourceFold.Scans.tally {frames : List FrameObservationV2} {n : ℕ}
    (scans : s.Scans resolvedHits metadata frames n) {item : SourceAoiEvidenceSummaryV1}
    (member : item ∈ s.sourceSummaries) :
    ∃ t : SourceTally, t.At resolvedHits frames item.sourceAoiId n ∧
      item = t.summary item.sourceAoiId := by
  obtain ⟨⟨id, t⟩, found, rfl⟩ := List.mem_map.1 member
  have tallied := scans.tallies id t.definition
  rw [Dict.mem_entries_iff.1 (mem_sortOn.1 found)] at tallied
  exact ⟨t, tallied, rfl⟩

theorem SourceFold.ids_sourceSummaries (s : SourceFold) :
    (s.sourceSummaries.map (·.sourceAoiId)).Perm s.summaries.keys := by
  rw [SourceFold.sourceSummaries, List.map_map]
  exact (sortOn_perm _ _).map Prod.fst

theorem source_conservation
    (h : buildSourceVisualEvidence observations resolvedHits metadata = .ok (some evidence)) :
    SourceConserved resolvedHits observations evidence := by
  obtain ⟨s, made⟩ := buildSourceVisualEvidence_made h
  have scans := sourceLoop_scans made.looped
  have all : (ordered observations).Perm observations := sortOn_perm _ _
  have ids := s.ids_sourceSummaries
  rw [← made.sourceAois] at ids
  have distinct : (evidence.sourceAois.map (·.sourceAoiId)).Nodup := ids.nodup_iff.2 s.summaries.nodup
  have tally (item : SourceAoiEvidenceSummaryV1) (member : item ∈ evidence.sourceAois) :=
    scans.tally (made.sourceAois ▸ member)
  have linked := sourceAttribution_linked resolvedHits (ordered observations)
  have hits : ∀ item ∈ evidence.sourceAois, item.hitCount =
      observations.countP fun f => soleHit resolvedHits f = some item.sourceAoiId := by
    intro item member
    obtain ⟨t, tallied, reads⟩ := tally item member
    rw [reads]
    change t.frameIds.length = _
    rw [tallied.frameIds, List.length_map, List.take_length, ← List.countP_eq_length_filter]
    exact all.countP_eq _
  exact {
    distinct := distinct
    observed := fun id => by
      rw [ids.mem_iff, scans.keys, List.take_length]
      simp only [all.mem_iff]
    frameIds := fun item member => by
      obtain ⟨t, tallied, reads⟩ := tally item member
      have listed : item.frameIds = t.frameIds := by rw [reads]; rfl
      refine ⟨by rw [reads]; rfl, fun frameId => ?_⟩
      rw [listed, tallied.frameIds, List.take_length, List.count_eq_countP, List.countP_map,
        List.countP_filter, all.countP_eq]
      simp [beq_eq_decide]
    total := made.totalHitCount
    frames := by
      have ambiguous : evidence.ambiguousFrameCount =
          observations.countP fun f => 2 ≤ (frameHits resolvedHits f).length := by
        rw [made.ambiguous, scans.ambiguous, List.take_length, ← List.countP_eq_length_filter]
        exact all.countP_eq _
      have counted := sum_countP_add_le (soleHit resolvedHits)
        (fun f => decide (2 ≤ (frameHits resolvedHits f).length)) (fun f several => by
          have several := of_decide_eq_true several
          unfold soleHit
          split
          · rename_i hit sole
            rw [sole] at several
            simp at several
          · rfl) distinct observations
      rw [List.map_map] at counted
      rw [made.totalHitCount, ambiguous, List.map_congr_left hits]
      exact counted
    colorPrimary := made.colorPrimary.totalConserved made.totalHitCount
    colorFamily := made.colorFamily.totalConserved made.totalHitCount
    silhouette := made.silhouette.totalConserved made.totalHitCount
    categoryType := made.categoryType.totalConserved made.totalHitCount
    patterns := made.patterns.conserved
    accessories := made.accessories.conserved
    nonneg := fun item member => by
      obtain ⟨t, tallied, reads⟩ := tally item member
      rw [reads]
      change 0 ≤ t.attentionMs
      rw [tallied.attentionMs]
      exact linked.attention_nonneg _
    bounded := by
      refine le_trans (le_of_eq ?_) (linked.sum_attention_le observations rfl
        (evidence.sourceAois.map (·.sourceAoiId)).toFinset)
      rw [List.sum_toFinset _ distinct, List.map_map]
      refine congrArg List.sum (List.map_congr_left fun item member => ?_)
      obtain ⟨t, tallied, reads⟩ := tally item member
      rw [reads]
      exact tallied.attentionMs }

end Conserved

/-- Reviewed metadata of one bag. -/
def smallSourceMetadata : SourceAoiMetadataV1 where
  videoId := "mcm-lookbook-v2"
  manifestVersion := "manifest-1"
  metadataVersion := "source-1"
  featureTaxonomyVersion := "taxonomy-1"
  approvalStatus := .approved
  sourceAois := [{
    sourceAoiId := "bag-0"
    exposureIdPrefixes := ["bag"]
    visualFeatures := {
      colorPrimary := "cognac", colorFamily := .brown, silhouette := .tote, categoryType := .toteBag
      patterns := [.monogram, .studded], bagAccessories := [.topHandle] } }]
  metadataVersionOk := by decide
  featureTaxonomyVersionOk := by decide
  bounded := by decide
  idsUnique := by decide
  idsOk := by decide
  featuresValid := by decide

theorem smallSourceAois_ne : smallSourceMetadata.sourceAois ≠ [] := by decide

/-- The gapped glances all hit the bag. -/
def bagHits : Dict (ℕ × String) (List ResolvedSourceAoiHit) :=
  Dict.accumulate FrameObservationV2.key
    (fun _ _ => [⟨"bag-0", ["bag-1"], ["body"],
      (smallSourceMetadata.sourceAois.head smallSourceAois_ne).visualFeatures⟩]) gappedGlances

/-- A pouch beside the bag, of its color and with one of its patterns. -/
def pouchDefinition : SourceAoiDefinitionV1 where
  sourceAoiId := "pouch-0"
  exposureIdPrefixes := ["pouch"]
  visualFeatures := {
    colorPrimary := "cognac", colorFamily := .brown, silhouette := .pouch, categoryType := .pouch
    patterns := [.monogram], bagAccessories := [.zipper] }

def twoBagMetadata : SourceAoiMetadataV1 :=
  { smallSourceMetadata with
    sourceAois := smallSourceMetadata.sourceAois ++ [pouchDefinition]
    bounded := by decide
    idsUnique := by decide
    idsOk := by decide
    featuresValid := by decide }

/-- A definition bound to an exposure of the whole picture. -/
def boundFor (exposureId : String) (startMs endMs : ℕ) (definition : SourceAoiDefinitionV1) :
    BoundSourceAoi where
  exposure := {
    exposureId, productId := "bag-1", productPart := some .body, startMs, endMs
    shape := wholePicture }
  definition := definition

/-- The bag, the pouch and the bag again; the bag's first exposure overlaps the pouch's. -/
def twoBagBindings : List BoundSourceAoi :=
  let bag := smallSourceMetadata.sourceAois.head smallSourceAois_ne
  [boundFor "bag-early" 0 2 bag, boundFor "pouch" 1 4 pouchDefinition, boundFor "bag-late" 4 6 bag]

/-- Six glances, one for each millisecond of the video. -/
def sixGlances : List FrameObservationV2 :=
  [("frame-0", 0), ("frame-1", 1), ("frame-2", 2), ("frame-3", 3), ("frame-4", 4), ("frame-5", 5)].map
    fun e => glance e.1 e.2 (1000 + 200 * e.2)

def sixHits : Dict (ℕ × String) (List ResolvedSourceAoiHit) :=
  Dict.accumulate FrameObservationV2.key
    (fun _ frame => (resolveSourceAoiHits frame twoBagBindings).toOption.getD []) sixGlances

/-- Two source AOIs are hit, and one of the frames hits both. -/
theorem source_conservation_twoBags : ∃ evidence,
    buildSourceVisualEvidence sixGlances sixHits twoBagMetadata = .ok (some evidence) ∧
    evidence.sourceAois.length = 2 ∧ evidence.ambiguousFrameCount = 1 ∧
    SourceConserved sixHits sixGlances evidence := by
  have returned : ((buildSourceVisualEvidence sixGlances sixHits twoBagMetadata).toOption.any
      fun built => built.any fun evidence =>
        decide (evidence.sourceAois.length = 2 ∧ evidence.ambiguousFrameCount = 1)) = true := by
    decide +kernel
  obtain ⟨source, built, found⟩ := any_toOption_iff.1 returned
  obtain ⟨evidence, rfl, counts⟩ := (Option.any_eq_true ..).1 found
  obtain ⟨sources, ambiguous⟩ := of_decide_eq_true counts
  exact ⟨evidence, built, sources, ambiguous, source_conservation built⟩

end Mkk.Api
