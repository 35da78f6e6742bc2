import Mkk.Api.Store
import Mkk.Api.SummaryWindows

/-!
# What the evidence windows say

The windows of a summary are the maximal runs of frames that are attributed to one product without a
break (`evidence_windows`), and the attention of a product is the time between the ends of its
windows. The codes of a window are read from all that was gathered for its product so far, so they
describe the window's own frames exactly when no earlier window of the product adds a code of its own
(`window_codes`).
-/

namespace Mkk.Api

open Lib

/-! ## The windows of the frames -/

/-- The windows that `summarize_observations` builds from the frames. -/
def evidenceWindows (maxGapMs : ℚ) (frames : List FrameObservationV2) :
    Except PyError (List EvidenceWindowV2) := do
  let s ← frames.foldlM (SummaryFold.turn maxGapMs) {}
  (s.closeWindow.windowsRaw.zipIdx 1).mapM fun e => e.1.window e.2

/-- A window with the offsets of the first and the last frame of a run and all that its frames show. -/
structure EvidenceWindowV2.Describes (frames : List FrameObservationV2) (r : Run String)
    (w : EvidenceWindowV2) : Prop where
  productId : w.productId = r.label
  start : ∃ f, frames[r.first]? = some f ∧ w.startOffsetMs = f.sessionOffsetMs ∧
    w.videoStartMs = f.videoTimeMs ∧ w.playbackEpoch = f.playbackEpoch
  stop : ∃ f, frames[r.last]? = some f ∧ w.endOffsetMs = f.sessionOffsetMs ∧
    w.videoEndMs = f.videoTimeMs
  components : w.observedComponentCodes =
    sortedSet ((slice frames r.first r.last).flatMap frameComponents)
  visualTags : w.observedVisualTagIds =
    sortedSet ((slice frames r.first r.last).flatMap frameVisualTags)

/-- The codes of a window speak of all that was gathered for its product up to its end. -/
def EvidenceWindowV2.CodesUpTo (maxGapMs : ℚ) (frames : List FrameObservationV2) (r : Run String)
    (w : EvidenceWindowV2) : Prop :=
  ∀ c, c ∈ w.evidenceCodes ↔ CodeBy maxGapMs frames r.label r.last c

section Windows

variable {maxGapMs : ℚ} {frames : List FrameObservationV2}

theorem mapM_forall₂ {ε α β : Type} {f : α → Except ε β} {l : List α} {bs : List β}
    (h : l.mapM f = .ok bs) : List.Forall₂ (fun a b => f a = .ok b) l bs := by
  induction l generalizing bs with
  | nil => cases h; exact .nil
  | cons a rest ih =>
    rw [List.mapM_cons] at h
    obtain ⟨b, hb, h⟩ := bind_eq_ok_iff.1 h
    obtain ⟨bs, hbs, h⟩ := bind_eq_ok_iff.1 h
    cases h
    exact .cons hb (ih hbs)

theorem forall₂_mem_right {α β : Type} {R : α → β → Prop} {l : List α} {l' : List β}
    (h : List.Forall₂ R l l') {b : β} (member : b ∈ l') : ∃ a ∈ l, R a b := by
  induction h with
  | nil => cases member
  | cons related _ ih =>
    rcases List.mem_cons.1 member with rfl | later
    · exact ⟨_, List.mem_cons_self, related⟩
    · obtain ⟨a, found, related⟩ := ih later
      exact ⟨a, List.mem_cons_of_mem _ found, related⟩

/-- The model of a window. -/
theorem WindowOf.describes {r : Run String} {w : WindowAcc} (h : WindowOf maxGapMs frames r w) {i : ℕ}
    {window : EvidenceWindowV2} (built : w.window i = .ok window) :
    window.Describes frames r ∧ window.CodesUpTo maxGapMs frames r := by
  obtain ⟨rfl, -⟩ := construct_eq_ok_iff.1 built
  refine ⟨{
    productId := h.productId
    start := ⟨_, h.start, rfl, rfl, rfl⟩
    stop := ⟨_, h.stop, rfl, rfl⟩
    components := congrArg sortedSet h.components
    visualTags := congrArg sortedSet h.visualTags }, fun c => ?_⟩
  exact mem_sortedSet.trans (h.codes c)

/-- **The windows built** describe the runs of the frames, in their order. -/
theorem evidenceWindows_describe {windows : List EvidenceWindowV2}
    (built : evidenceWindows maxGapMs frames = .ok windows) :
    List.Forall₂ (fun r (w : EvidenceWindowV2) => w.Describes frames r ∧ w.CodesUpTo maxGapMs frames r)
      ((attribution maxGapMs frames).runs frames.length) windows := by
  obtain ⟨s, looped, made⟩ := bind_eq_ok_iff.1 built
  have scans := (summaryLoop_scans looped).all
  have models := mapM_forall₂ made
  change List.Forall₂ _ (s.windows.zipIdx 1) windows at models
  clear built made
  unfold Labelling.runs
  revert models
  generalize s.windows = raw at scans
  generalize ((attribution maxGapMs frames).scan frames.length).all = runs at scans
  generalize 1 = index
  induction scans generalizing windows index with
  | nil => intro models; cases models; exact .nil
  | cons window _ ih =>
    intro models
    rw [List.zipIdx_cons] at models
    obtain - | ⟨model, rest⟩ := models
    exact .cons (window.describes model) (ih _ rest)

end Windows

/-! ## What a summary publishes -/

/-- The time over all epochs between the first and the last capture of an epoch. -/
def captureSpans (observations : List FrameObservationV2) : ℚ :=
  groupSpans (observations.map fun f => (f.playbackEpoch, f.capturedAtMonoMs))

/-- The attention a product's summary reports, none without gaze. -/
def ProductEvidenceSummaryV2.attentionMs (item : ProductEvidenceSummaryV2) : ℚ :=
  (item.gaze.map (·.observedAttentionMs)).getD 0

section Summary

variable {observations : List FrameObservationV2} {params : SummaryParams} {summary : EvidenceSummary}

/-- What a product's summary reads from the loop. -/
structure ProductAcc.Published (acc : ProductAcc) (productId : String)
    (item : ProductEvidenceSummaryV2) : Prop where
  productId : item.productId = productId
  exposure : item.exposureDurationMs = acc.dwellMs
  attention : ∀ g ∈ item.gaze, g.observedAttentionMs = acc.dwellMs
  returns : ∀ g ∈ item.gaze, g.returnCandidateCount =
    if 0 < acc.returnComparisons then some acc.returns else none
  observed : ∀ g ∈ item.gaze, g.validObservationCount = (acc.frames.filter (·.gaze.isSome)).length
  hasGaze : item.gaze.isSome = acc.hasGaze

theorem ProductAcc.gazeSummary_reads {acc : ProductAcc} {count : ℕ} {g : GazeSummaryV2}
    (h : acc.gazeSummary count = .ok g) : g.observedAttentionMs = acc.dwellMs ∧
      (g.returnCandidateCount = if 0 < acc.returnComparisons then some acc.returns else none) ∧
      g.validObservationCount = (acc.frames.filter (·.gaze.isSome)).length := by
  unfold ProductAcc.gazeSummary at h
  obtain ⟨average, -, h⟩ := bind_eq_ok_iff.1 h
  obtain ⟨speed, -, h⟩ := bind_eq_ok_iff.1 h
  obtain ⟨rfl, -⟩ := construct_eq_ok_iff.1 h
  exact ⟨rfl, rfl, rfl⟩

theorem ProductAcc.summary_published {acc : ProductAcc} {p : String} {count : ℕ}
    {item : ProductEvidenceSummaryV2} (h : acc.summary p count = .ok item) : acc.Published p item := by
  unfold ProductAcc.summary at h
  obtain ⟨gaze, hgaze, h⟩ := bind_eq_ok_iff.1 h
  obtain ⟨expression, -, h⟩ := bind_eq_ok_iff.1 h
  obtain ⟨rfl, -⟩ := construct_eq_ok_iff.1 h
  have reads : ∀ g ∈ gaze, acc.gazeSummary count = .ok g := by
    intro g hg
    obtain rfl := Option.mem_def.1 hg
    unfold onlyIf at hgaze
    split at hgaze
    · cases hs : acc.gazeSummary count with
      | error e => rw [hs] at hgaze; cases hgaze
      | ok g' => rw [hs] at hgaze; cases hgaze; rfl
    · cases hgaze
  exact {
    productId := rfl
    exposure := rfl
    attention := fun g hg => (ProductAcc.gazeSummary_reads (reads g hg)).1
    returns := fun g hg => (ProductAcc.gazeSummary_reads (reads g hg)).2.1
    observed := fun g hg => (ProductAcc.gazeSummary_reads (reads g hg)).2.2
    hasGaze := by
      dsimp only
      cases has : acc.hasGaze with
      | false => rw [has] at hgaze; cases hgaze; rfl
      | true =>
        rw [has] at hgaze
        cases hs : acc.gazeSummary count with
        | error e => rw [hs] at hgaze; cases hgaze
        | ok g => rw [hs] at hgaze; cases hgaze; rfl }

/-- How a summary was made from the frames. -/
structure SummaryMade (params : SummaryParams) (frames : List FrameObservationV2)
    (summary : EvidenceSummary) (s : SummaryFold) (windows : List EvidenceWindowV2) : Prop where
  looped : frames.foldlM (SummaryFold.turn params.maxContinuousGapMs) {} = .ok s
  built : evidenceWindows params.maxContinuousGapMs frames = .ok windows
  variant : summary.evidence.inputVariant = if windows = [] then .b else params.inputVariant
  published : summary.evidence.evidenceWindows =
    if summary.evidence.inputVariant = .b then none else some windows
  timeline : summary.evidence.timeline =
    if summary.evidence.inputVariant = .c then none else some frames
  products : List.Forall₂ (fun p item => (s.productAcc p).Published p item)
    (catalogIds params.productIds frames) summary.evidence.summary

theorem enrichedFrames_eq (observations : List FrameObservationV2)
    (metadata : Option LookbookAoiMetadataV2) {mappings : List AoiMappingResultV2}
    (mapped : (ordered observations).mapM (mapFrame metadata) = .ok mappings) :
    (ordered observations).zipWith enrichFrameWithAoi mappings = enrichedFrames observations metadata := by
  have all := mapM_eq_ok (l := ordered observations) fun f _ => mapFrame_ok metadata f
  rw [mapped] at all
  cases all
  rw [enrichedFrames, List.zipWith_map_right, List.zipWith_self]

theorem summarizeObservations_made (h : summarizeObservations observations params = .ok summary) :
    ∃ s windows, SummaryMade params (enrichedFrames observations params.aoiMetadata) summary s
      windows := by
  unfold summarizeObservations at h
  dsimp only at h
  split at h
  · cases h
  split at h
  · cases h
  obtain ⟨mappings, mapped, h⟩ := bind_eq_ok_iff.1 h
  rw [enrichedFrames_eq observations params.aoiMetadata mapped] at h
  split at h
  · cases h
  split at h
  · cases h
  obtain ⟨s, looped, h⟩ := bind_eq_ok_iff.1 h
  unfold fillEvidence at h
  obtain ⟨summaries, products, h⟩ := bind_eq_ok_iff.1 h
  obtain ⟨windows, built, h⟩ := bind_eq_ok_iff.1 h
  obtain ⟨quality, -, h⟩ := bind_eq_ok_iff.1 h
  obtain ⟨versions, -, h⟩ := bind_eq_ok_iff.1 h
  obtain ⟨evidence, constructed, h⟩ := bind_eq_ok_iff.1 h
  cases h
  obtain ⟨rfl, -⟩ := construct_eq_ok_iff.1 constructed
  refine ⟨s, windows, looped, ?_, rfl, rfl, rfl, ?_⟩
  · exact (bind_ok looped _).trans built
  · exact (mapM_forall₂ products).imp fun p item made => ProductAcc.summary_published made

end Summary

/-! ## The time spent with products -/

section Time

variable {k : ℕ}

/-- The epochs and capture times of frames. -/
def captures (frames : List FrameObservationV2) : List (ℕ × ℚ) :=
  frames.map fun f => (f.playbackEpoch, f.capturedAtMonoMs)

theorem grouped_ordered (observations : List FrameObservationV2) :
    Grouped (captures (ordered observations)) := by
  rw [Grouped, captures, List.pairwise_map]
  refine (pairwise_sortOn FrameObservationV2.analysisKey observations).imp fun {f g} le => ?_
  rcases Prod.Lex.toLex_le_toLex.1 le with epoch | ⟨epoch, rest⟩
  · exact ⟨epoch.le, fun same => absurd same epoch.ne⟩
  · refine ⟨epoch.le, fun _ => ?_⟩
    rcases Prod.Lex.toLex_le_toLex.1 rest with time | ⟨time, -⟩
    · exact time.le
    · exact time.le

theorem captures_enriched (observations : List FrameObservationV2)
    (metadata : Option LookbookAoiMetadataV2) :
    captures (enrichedFrames observations metadata) = captures (ordered observations) := by
  simp [captures, enrichedFrames]

theorem groupSpans_captures (observations : List FrameObservationV2) :
    groupSpans (captures (ordered observations)) = captureSpans observations :=
  groupSpans_perm ((sortOn_perm _ observations).map _)

/-- Frames without a cut between them are of one epoch and captured in order. -/
def Linked (L : Labelling String) (frames : List FrameObservationV2) : Prop :=
  ∀ k p f, frames[k]? = some p → frames[k + 1]? = some f → L.cut (k + 1) = false →
    p.playbackEpoch = f.playbackEpoch ∧ p.capturedAtMonoMs ≤ f.capturedAtMonoMs

section Linked

variable {L : Labelling String} {frames : List FrameObservationV2}

/-- The time between a frame and one that continues it. -/
theorem Linked.step (h : Linked L frames) (inside : k < frames.length) (goesOn : L.continues k = true) :
    capturedAt frames (k - 1) ≤ capturedAt frames k ∧
      stepAt (captures frames) k = capturedAt frames k - capturedAt frames (k - 1) := by
  obtain ⟨a, -, previous, uncut⟩ := Labelling.continues_iff.1 goesOn
  cases k with
  | zero => cases previous
  | succ k =>
    have found : frames[k + 1]? = some frames[k + 1] := List.getElem?_eq_getElem inside
    have before : frames[k]? = some frames[k] := List.getElem?_eq_getElem (by omega)
    obtain ⟨epoch, le⟩ := h k _ _ before found uncut
    rw [Nat.add_sub_cancel, capturedAt_eq found, capturedAt_eq before]
    refine ⟨le, ?_⟩
    simp [stepAt, captures, found, before, epoch]

theorem Linked.attention_nonneg (h : Linked L frames) (a : String) :
    0 ≤ L.attention (capturedAt frames) a frames.length :=
  Labelling.attention_nonneg fun _ inside goesOn => (h.step inside goesOn).1

/-- **The time spent** with all labels is at most the time the epochs were captured. -/
theorem Linked.sum_attention_le (h : Linked L frames) (observations : List FrameObservationV2)
    (same : captures frames = captures (ordered observations)) (S : Finset String) :
    ∑ a ∈ S, L.attention (capturedAt frames) a frames.length ≤ captureSpans observations := by
  have grouped := grouped_ordered observations
  rw [← groupSpans_captures, ← groupSteps_eq grouped, ← sum_stepAt, ← same] at *
  rw [captures, List.length_map, ← captures]
  exact Labelling.sum_attention_le S (fun k _ => stepAt_nonneg grouped k)
    fun k inside goesOn => (h.step inside goesOn).2.ge

end Linked

theorem attribution_linked (maxGapMs : ℚ) (frames : List FrameObservationV2) :
    Linked (attribution maxGapMs frames) frames := by
  intro k p f before found uncut
  rw [attribution_cut found, previousAt, before] at uncut
  refine ⟨?_, captured_le_of_continuous uncut⟩
  simp only [discontinuity, Bool.or_eq_false_iff, bne_eq_false_iff_eq] at uncut
  exact uncut.1.1.1.1.symm

end Time

/-! ## The windows of a summary -/

/-- The windows of a summary and the attention of its products, as functions of the frames. -/
structure WindowsOfRuns (params : SummaryParams) (frames : List FrameObservationV2)
    (summary : EvidenceSummary) (runs : List (Run String)) (windows : List EvidenceWindowV2) : Prop where
  built : evidenceWindows params.maxContinuousGapMs frames = .ok windows
  variant : summary.evidence.inputVariant = if windows = [] then .b else params.inputVariant
  published : summary.evidence.evidenceWindows =
    if summary.evidence.inputVariant = .b then none else some windows
  maximal : ∀ r, r ∈ runs ↔ (attribution params.maxContinuousGapMs frames).IsMaximal frames.length r
  inOrder : runs.Pairwise fun r t => r.last < t.first
  describes : List.Forall₂ (fun r (w : EvidenceWindowV2) => w.Describes frames r) runs windows
  partitioned : ∀ k < frames.length,
    ((attribution params.maxContinuousGapMs frames).label k).isSome = true ↔
      ∃! r, r ∈ runs ∧ r.first ≤ k ∧ k ≤ r.last
  attention : ∀ item ∈ summary.evidence.summary, ∀ g ∈ item.gaze,
    g.observedAttentionMs = Labelling.spent (capturedAt frames) item.productId runs

theorem windowsOfRuns {observations : List FrameObservationV2} {params : SummaryParams}
    {summary : EvidenceSummary} (h : summarizeObservations observations params = .ok summary) :
    ∃ windows, WindowsOfRuns params (enrichedFrames observations params.aoiMetadata) summary
      ((attribution params.maxContinuousGapMs (enrichedFrames observations params.aoiMetadata)).runs
        (enrichedFrames observations params.aoiMetadata).length) windows := by
  obtain ⟨s, windows, made⟩ := summarizeObservations_made h
  have scans := summaryLoop_scans made.looped
  refine ⟨windows, {
    built := made.built
    variant := made.variant
    published := made.published
    maximal := fun r => Labelling.mem_runs_iff
    inOrder := Labelling.runs_apart _ _
    describes := (evidenceWindows_describe made.built).imp fun r w both => both.1
    partitioned := fun k inside => Labelling.existsUnique_run inside
    attention := fun item member g hg => ?_ }⟩
  obtain ⟨p, -, published⟩ := forall₂_mem_right made.products member
  rw [published.attention g hg, published.productId, (scans.products p).dwellMs, Labelling.spent_runs]

theorem attention_le_captureSpans {observations : List FrameObservationV2} {params : SummaryParams}
    {summary : EvidenceSummary} (h : summarizeObservations observations params = .ok summary) :
    (summary.evidence.summary.map (·.attentionMs)).sum ≤ captureSpans observations := by
  obtain ⟨s, windows, made⟩ := summarizeObservations_made h
  have scans := summaryLoop_scans made.looped
  have catalog : (catalogIds params.productIds
      (enrichedFrames observations params.aoiMetadata)).Nodup := nodup_sortedSet _
  have linked := attribution_linked params.maxContinuousGapMs
    (enrichedFrames observations params.aoiMetadata)
  refine le_trans ?_ (linked.sum_attention_le observations (captures_enriched _ _)
    (catalogIds params.productIds (enrichedFrames observations params.aoiMetadata)).toFinset)
  rw [List.sum_toFinset _ catalog]
  refine List.Forall₂.sum_le_sum ?_
  rw [List.forall₂_map_left_iff, List.forall₂_map_right_iff]
  refine made.products.flip.imp fun item p published => ?_
  rw [← (scans.products p).dwellMs]
  unfold ProductEvidenceSummaryV2.attentionMs
  cases hg : item.gaze with
  | none =>
    rw [(scans.products p).dwellMs]
    exact linked.attention_nonneg p
  | some g => exact (published.attention g hg).le

theorem evidence_windows {observations : List FrameObservationV2} {params : SummaryParams}
    {summary : EvidenceSummary} (h : summarizeObservations observations params = .ok summary) :
    (∃ runs windows, WindowsOfRuns params (enrichedFrames observations params.aoiMetadata) summary runs
      windows) ∧
    (summary.evidence.summary.map (·.attentionMs)).sum ≤ captureSpans observations := by
  obtain ⟨windows, ofRuns⟩ := windowsOfRuns h
  exact ⟨⟨_, windows, ofRuns⟩, attention_le_captureSpans h⟩

/-- A request about the small lookbook. -/
def glanceParams : SummaryParams where
  decisionRequestId := "decision-1"
  sessionId := "session-0001"
  videoId := "mcm-lookbook-v2"
  manifestVersion := "manifest-1"
  catalogVersion := "catalog-1"
  aoiMetadata := some smallMetadata
  productIds := ["bag-0"]
  inputVariant := .c

/-- Two glances, the second with a movement, and one more after a gap. -/
def gappedGlances : List FrameObservationV2 :=
  [glance "frame-1" 0 1000,
    { glance "frame-2" 1 1200 with
      derived := some {
        gaze := some {
          movement := some ⟨1 / 10, 1 / 2⟩, movementReason := none, continuousObservationMs := 200
          returnCandidate := some false, returnCandidateReason := none }
        gazeReason := none, expression := none, expressionReason := some "face_not_found" }
      derivedReason := none },
    glance "frame-3" 2 5000]

theorem gappedGlances_summarized : ∃ summary,
    summarizeObservations gappedGlances glanceParams = .ok summary ∧
      summary.evidence.inputVariant = .c := by
  have returned : (match summarizeObservations gappedGlances glanceParams with
    | .ok summary => decide (summary.evidence.inputVariant = .c)
    | .error _ => false) = true := by decide +kernel
  split at returned
  · exact ⟨_, ‹_›, of_decide_eq_true returned⟩
  · cases returned

theorem evidence_windows_gapped : ∃ summary,
    summarizeObservations gappedGlances glanceParams = .ok summary ∧
    (∃ runs windows, WindowsOfRuns glanceParams (enrichedFrames gappedGlances (some smallMetadata))
      summary runs windows) ∧
    (summary.evidence.summary.map (·.attentionMs)).sum ≤ captureSpans gappedGlances := by
  obtain ⟨summary, h, -⟩ := gappedGlances_summarized
  exact ⟨summary, h, evidence_windows h⟩

/-! ## The codes of a window -/

/-- The codes of a window describe its own frames. -/
structure EvidenceWindowV2.OwnCodes (maxGapMs : ℚ) (frames : List FrameObservationV2) (r : Run String)
    (w : EvidenceWindowV2) : Prop where
  movement : .gazeMovement ∈ w.evidenceCodes →
    ∃ k, r.first ≤ k ∧ k ≤ r.last ∧ MovementAt maxGapMs frames r.label k
  changes : .faceActionChange ∈ w.evidenceCodes →
    ∃ k, r.first ≤ k ∧ k ≤ r.last ∧ ChangesAt maxGapMs frames r.label k
  returns : .returnCandidate ∈ w.evidenceCodes →
    (attribution maxGapMs frames).ReturnsAt r.label r.first

/-- Whatever the frames before a run added to its product, the frames of the run add too. -/
structure NothingCarried (maxGapMs : ℚ) (frames : List FrameObservationV2) (r : Run String) : Prop where
  movement : (∃ k < r.first, MovementAt maxGapMs frames r.label k) →
    ∃ k, r.first ≤ k ∧ k ≤ r.last ∧ MovementAt maxGapMs frames r.label k
  changes : (∃ k < r.first, ChangesAt maxGapMs frames r.label k) →
    ∃ k, r.first ≤ k ∧ k ≤ r.last ∧ ChangesAt maxGapMs frames r.label k
  returns : (∃ k < r.first, (attribution maxGapMs frames).ReturnsAt r.label k) →
    (attribution maxGapMs frames).ReturnsAt r.label r.first

/-- What holds somewhere up to the end of a stretch holds in it, if it does whenever it held before. -/
theorem within_stretch_iff {P : ℕ → Prop} {first last : ℕ} (forward : first ≤ last) :
    ((∃ k ≤ last, P k) → ∃ k, first ≤ k ∧ k ≤ last ∧ P k) ↔
      ((∃ k < first, P k) → ∃ k, first ≤ k ∧ k ≤ last ∧ P k) := by
  constructor
  · rintro h ⟨k, before, holds⟩
    exact h ⟨k, by omega, holds⟩
  · rintro h ⟨k, inside, holds⟩
    rcases Nat.lt_or_ge k first with before | after
    · exact h ⟨k, before, holds⟩
    · exact ⟨k, after, inside, holds⟩

/-- **The codes of a window** describe its frames exactly when nothing was carried over to it. -/
theorem ownCodes_iff {maxGapMs : ℚ} {frames : List FrameObservationV2} {n : ℕ} {r : Run String}
    {w : EvidenceWindowV2} (isRun : (attribution maxGapMs frames).IsRun n r)
    (codes : w.CodesUpTo maxGapMs frames r) :
    w.OwnCodes maxGapMs frames r ↔ NothingCarried maxGapMs frames r := by
  -- a run is entered once, so it returns at its first frame only
  have entered : (∃ k, r.first ≤ k ∧ k ≤ r.last ∧ (attribution maxGapMs frames).ReturnsAt r.label k) ↔
      (attribution maxGapMs frames).ReturnsAt r.label r.first := by
    constructor
    · rintro ⟨k, after, inside, returns⟩
      rcases Nat.lt_or_eq_of_le after with later | rfl
      · have := returns.starts
        rw [isRun.continues later inside] at this
        cases this
      · exact returns
    · exact fun returns => ⟨r.first, le_rfl, isRun.forward, returns⟩
  have movement := codes .gazeMovement
  have changes := codes .faceActionChange
  have returns := codes .returnCandidate
  simp only [CodeBy] at movement changes returns
  constructor
  · intro own
    exact {
      movement := (within_stretch_iff isRun.forward).1 fun some => own.movement (movement.2 some)
      changes := (within_stretch_iff isRun.forward).1 fun some => own.changes (changes.2 some)
      returns := fun some => entered.1 ((within_stretch_iff isRun.forward).1
        (fun some => entered.2 (own.returns (returns.2 some))) some) }
  · intro carried
    exact {
      movement := fun code => (within_stretch_iff isRun.forward).2 carried.movement (movement.1 code)
      changes := fun code => (within_stretch_iff isRun.forward).2 carried.changes (changes.1 code)
      returns := fun code => entered.1 ((within_stretch_iff isRun.forward).2
        (fun some => entered.2 (carried.returns some)) (returns.1 code)) }

theorem window_codes {observations : List FrameObservationV2} {params : SummaryParams}
    {summary : EvidenceSummary} (h : summarizeObservations observations params = .ok summary) :
    ∃ runs windows, WindowsOfRuns params (enrichedFrames observations params.aoiMetadata) summary runs
        windows ∧
      List.Forall₂ (fun r (w : EvidenceWindowV2) =>
        w.OwnCodes params.maxContinuousGapMs (enrichedFrames observations params.aoiMetadata) r ↔
          NothingCarried params.maxContinuousGapMs (enrichedFrames observations params.aoiMetadata) r)
        runs windows := by
  obtain ⟨windows, ofRuns⟩ := windowsOfRuns h
  refine ⟨_, windows, ofRuns, ?_⟩
  refine List.forall₂_iff_get.2 ⟨ofRuns.describes.length_eq, fun i first second => ?_⟩
  have both := (List.forall₂_iff_get.1 (evidenceWindows_describe ofRuns.built)).2 i first second
  exact ownCodes_iff ((ofRuns.maximal _).1 (List.get_mem _ _)).isRun both.2

theorem window_codes_gapped : ∃ summary runs windows,
    summarizeObservations gappedGlances glanceParams = .ok summary ∧
    WindowsOfRuns glanceParams (enrichedFrames gappedGlances (some smallMetadata)) summary runs
      windows ∧
    List.Forall₂ (fun r (w : EvidenceWindowV2) =>
      w.OwnCodes maxContinuousGapMs (enrichedFrames gappedGlances (some smallMetadata)) r ↔
        NothingCarried maxContinuousGapMs (enrichedFrames gappedGlances (some smallMetadata)) r)
      runs windows := by
  obtain ⟨summary, h, -⟩ := gappedGlances_summarized
  obtain ⟨runs, windows, ofRuns, codes⟩ := window_codes h
  exact ⟨summary, runs, windows, h, ofRuns, codes⟩

/-- The window after the gap has the movement code of the window before it. -/
theorem carried_movement : ∃ summary windows w,
    summarizeObservations gappedGlances glanceParams = .ok summary ∧
    summary.evidence.evidenceWindows = some windows ∧ w ∈ windows ∧
    (attribution maxContinuousGapMs (enrichedFrames gappedGlances (some smallMetadata))).IsMaximal 3
      ⟨"bag-0", 2, 2⟩ ∧
    w.Describes (enrichedFrames gappedGlances (some smallMetadata)) ⟨"bag-0", 2, 2⟩ ∧
    .gazeMovement ∈ w.evidenceCodes ∧
    ¬ ∃ k, 2 ≤ k ∧ k ≤ 2 ∧ MovementAt maxContinuousGapMs
      (enrichedFrames gappedGlances (some smallMetadata)) "bag-0" k := by
  obtain ⟨summary, h, variant⟩ := gappedGlances_summarized
  obtain ⟨windows, ofRuns⟩ := windowsOfRuns h
  have runs : (attribution maxContinuousGapMs (enrichedFrames gappedGlances (some smallMetadata))).runs
      (enrichedFrames gappedGlances (some smallMetadata)).length =
        [⟨"bag-0", 0, 1⟩, ⟨"bag-0", 2, 2⟩] := by decide +kernel
  have describes := evidenceWindows_describe ofRuns.built
  change List.Forall₂ _ ((attribution maxContinuousGapMs (enrichedFrames gappedGlances
    (some smallMetadata))).runs (enrichedFrames gappedGlances (some smallMetadata)).length) _ at describes
  rw [runs] at describes
  obtain - | ⟨first, - | ⟨second, -⟩⟩ := describes
  rename_i before w rest
  refine ⟨summary, before :: w :: rest, w, h, ?_, by simp, ?_, second.1, ?_, ?_⟩
  · rw [ofRuns.published, variant]
    rfl
  · exact Labelling.mem_runs_iff.1 (by decide +kernel)
  · refine (second.2 .gazeMovement).2 ⟨1, by decide, by decide +kernel, by decide +kernel, _, rfl, rfl⟩
  · rintro ⟨k, after, inside, -, -, f, found, moved⟩
    obtain rfl : k = 2 := le_antisymm inside after
    have still : (enrichedFrames gappedGlances (some smallMetadata))[2]?.all
        (fun f => (derivedMovement f).isNone) = true := by decide +kernel
    rw [Option.mem_def.1 found] at still
    simp_all

end Mkk.Api
