import Mkk.Api.EvidenceWindows
import Mkk.Api.SourceEvidence

/-!
# The source tally by position

The loop of `build_source_visual_evidence` read by position: `sourceAttribution` says which source
AOI each frame counts for and where the loop breaks, and every tally is a function of the positions
read (`SourceFold.Scans`). The evidence then says how its parts come from the tallies
(`SourceMade`).
-/

namespace Mkk.Api

open Lib

/-- The source AOI each frame counts for and the breaks of the loop. -/
def sourceAttribution (resolvedHits : Dict (ℕ × String) (List ResolvedSourceAoiHit))
    (frames : List FrameObservationV2) : Labelling String where
  label k := frames[k]?.bind (soleHit resolvedHits)
  cut k := frames[k]?.any (sourceDiscontinuity (previousAt frames k))

/-- What has been tallied for a source AOI after `n` frames. -/
structure SourceTally.At (resolvedHits : Dict (ℕ × String) (List ResolvedSourceAoiHit))
    (frames : List FrameObservationV2) (id : String) (n : ℕ) (t : SourceTally) : Prop where
  frameIds : t.frameIds =
    ((frames.take n).filter fun f => soleHit resolvedHits f = some id).map (·.frameId)
  attentionMs : t.attentionMs =
    (sourceAttribution resolvedHits frames).attention (capturedAt frames) id n
  returnCount : t.returnCount = (sourceAttribution resolvedHits frames).returns id n

/-- What the loop holds after `n` frames. -/
structure SourceFold.Scans (resolvedHits : Dict (ℕ × String) (List ResolvedSourceAoiHit))
    (metadata : SourceAoiMetadataV1) (frames : List FrameObservationV2) (n : ℕ) (s : SourceFold) :
    Prop where
  previousFrame : s.previousFrame = previousAt frames n
  previousSourceId : s.previousSourceId = (sourceAttribution resolvedHits frames).before n
  met : ∀ id, id ∈ s.seenSourceIds ↔ (sourceAttribution resolvedHits frames).Met id n
  ambiguous : s.ambiguousFrameCount =
    ((frames.take n).filter fun f => 2 ≤ (frameHits resolvedHits f).length).length
  keys : ∀ id, id ∈ s.summaries.keys ↔ ∃ f ∈ frames.take n, soleHit resolvedHits f = some id
  definition : ∀ id t, s.summaries.get? id = some t →
    t.definition ∈ metadata.sourceAois ∧ t.definition.sourceAoiId = id
  tallies : ∀ id definition, ((s.summaries.get? id).getD { definition }).At resolvedHits frames id n

section Loop

variable {resolvedHits : Dict (ℕ × String) (List ResolvedSourceAoiHit)}
  {metadata : SourceAoiMetadataV1} {frames : List FrameObservationV2} {n k : ℕ} {id id' : String}
  {frame : FrameObservationV2} {t : SourceTally} {s : SourceFold}

theorem sourceAttribution_label (found : frames[n]? = some frame) :
    (sourceAttribution resolvedHits frames).label n = soleHit resolvedHits frame := by
  simp [sourceAttribution, found]

theorem sourceAttribution_cut (found : frames[n]? = some frame) :
    (sourceAttribution resolvedHits frames).cut n =
      sourceDiscontinuity (previousAt frames n) frame := by
  simp [sourceAttribution, found]

/-- A frame that does not count for the source AOI leaves its tally. -/
theorem SourceTally.At.other (h : t.At resolvedHits frames id n) (found : frames[n]? = some frame)
    (label : (sourceAttribution resolvedHits frames).label n ≠ some id) :
    t.At resolvedHits frames id (n + 1) where
  frameIds := by
    rw [sourceAttribution_label found] at label
    rw [h.frameIds, List.take_add_one, found]
    simp [label]
  attentionMs := by
    rw [h.attentionMs, Labelling.attention, Labelling.attention, Finset.sum_range_succ, if_neg, add_zero]
    exact fun both => label both.2
  returnCount := by
    rw [h.returnCount, Labelling.returns, Labelling.returns, Nat.count_succ, if_neg, add_zero]
    exact fun returns => label returns.1

/-- The loop's state once a break before the frame has been handled. -/
structure SourceFold.Broken (resolvedHits : Dict (ℕ × String) (List ResolvedSourceAoiHit))
    (frames : List FrameObservationV2) (n : ℕ) (b : SourceFold) : Prop where
  previousFrame : b.previousFrame = previousAt frames n
  previousSourceId : b.previousSourceId =
    if (sourceAttribution resolvedHits frames).cut n then none
    else (sourceAttribution resolvedHits frames).before n
  seen : ∀ id, id ∈ b.seenSourceIds ↔ (sourceAttribution resolvedHits frames).Seen id n

/-- Recording a frame that counts for the source AOI. -/
theorem SourceTally.At.record (h : t.At resolvedHits frames id n) (found : frames[n]? = some frame)
    (label : (sourceAttribution resolvedHits frames).label n = some id) {b : SourceFold}
    (broken : SourceFold.Broken resolvedHits frames n b) :
    (t.record b frame id).At resolvedHits frames id (n + 1) := by
  have read : (sourceAttribution resolvedHits frames).label n = soleHit resolvedHits frame :=
    sourceAttribution_label found
  rw [label] at read
  have frameIds : t.frameIds ++ [frame.frameId] = ((frames.take (n + 1)).filter fun f =>
      soleHit resolvedHits f = some id).map (·.frameId) := by
    rw [h.frameIds, List.take_add_one, found]
    simp [← read]
  -- the frame goes on exactly when the source AOI of the frame before is still remembered
  have goesOn : (sourceAttribution resolvedHits frames).continues n = true ↔
      b.previousSourceId = some id := by
    rw [Labelling.continues_iff, broken.previousSourceId]
    constructor
    · rintro ⟨a, labelled, previous, uncut⟩
      rw [label] at labelled
      cases labelled
      rw [uncut]
      exact previous
    · intro previous
      cases cut : (sourceAttribution resolvedHits frames).cut n with
      | true => rw [cut] at previous; cases previous
      | false => rw [cut] at previous; exact ⟨id, label, previous, rfl⟩
  have returned : (sourceAttribution resolvedHits frames).ReturnsAt id n ↔
      b.previousSourceId ≠ some id ∧ id ∈ b.seenSourceIds := by
    rw [Labelling.ReturnsAt, broken.seen]
    constructor
    · rintro ⟨-, before, seen⟩
      refine ⟨?_, seen⟩
      rw [broken.previousSourceId, (Labelling.seen_iff.1 seen).1]
      exact before
    · rintro ⟨before, seen⟩
      refine ⟨label, ?_, seen⟩
      rw [broken.previousSourceId, (Labelling.seen_iff.1 seen).1] at before
      exact before
  have attention : (sourceAttribution resolvedHits frames).attention (capturedAt frames) id (n + 1) =
      t.attentionMs + if b.previousSourceId = some id then
        capturedAt frames n - capturedAt frames (n - 1) else 0 := by
    rw [Labelling.attention, Finset.sum_range_succ, ← Labelling.attention, ← h.attentionMs]
    simp only [goesOn, label, and_true]
  have returns : (sourceAttribution resolvedHits frames).returns id (n + 1) =
      t.returnCount + if b.previousSourceId ≠ some id ∧ id ∈ b.seenSourceIds then 1 else 0 := by
    rw [Labelling.returns, Nat.count_succ, ← Labelling.returns, ← h.returnCount]
    simp only [returned]
  unfold SourceTally.record
  cases hp : b.previousFrame with
  | none =>
    have first : n = 0 := by
      rw [broken.previousFrame] at hp
      cases n with
      | zero => rfl
      | succ m =>
        obtain ⟨inside, -⟩ := List.getElem?_eq_some_iff.1 found
        have := List.getElem?_eq_none_iff.1 hp
        omega
    have unseen : id ∉ b.seenSourceIds := by
      rw [broken.seen, first]
      rintro ⟨i, earlier, -⟩
      exact Nat.not_lt_zero i earlier
    have alone : b.previousSourceId ≠ some id := by
      rw [broken.previousSourceId, first]
      split <;> rintro ⟨⟩
    dsimp only
    rw [if_neg unseen]
    refine ⟨frameIds, ?_, ?_⟩
    · rw [attention, if_neg alone, add_zero]
    · rw [returns, if_neg fun both => unseen both.2, add_zero]
  | some p =>
    have time : capturedAt frames n - capturedAt frames (n - 1) =
        frame.capturedAtMonoMs - p.capturedAtMonoMs := by
      rw [broken.previousFrame] at hp
      cases n with
      | zero => cases hp
      | succ m => rw [capturedAt_eq found, Nat.add_sub_cancel, capturedAt_eq hp]
    dsimp only
    by_cases same : b.previousSourceId = some id
    · rw [if_pos same]
      refine ⟨frameIds, ?_, ?_⟩
      · rw [attention, if_pos same, time]
      · rw [returns, if_neg fun both => both.1 same, add_zero]
    · rw [if_neg same]
      by_cases seen : id ∈ b.seenSourceIds
      · rw [if_pos seen]
        refine ⟨frameIds, ?_, ?_⟩
        · rw [attention, if_neg same, add_zero]
        · rw [returns, if_pos ⟨same, seen⟩]
      · rw [if_neg seen]
        refine ⟨frameIds, ?_, ?_⟩
        · rw [attention, if_neg same, add_zero]
        · rw [returns, if_neg fun both => seen both.2, add_zero]

theorem SourceFold.Scans.broken (h : s.Scans resolvedHits metadata frames n)
    (found : frames[n]? = some frame) : SourceFold.Broken resolvedHits frames n
      (if sourceDiscontinuity s.previousFrame frame then
        { s with previousSourceId := none, seenSourceIds := [] } else s) := by
  rw [h.previousFrame, ← sourceAttribution_cut found]
  have seen (id : String) :=
    (sourceAttribution resolvedHits frames).seen_iff (a := id) (k := n)
  cases cut : (sourceAttribution resolvedHits frames).cut n with
  | false =>
    exact {
      previousFrame := h.previousFrame
      previousSourceId := by rw [cut]; exact h.previousSourceId
      seen := fun id => by
        rw [seen, cut]
        exact (h.met id).trans (and_iff_right rfl).symm }
  | true =>
    exact {
      previousFrame := rfl
      previousSourceId := by rw [cut]; rfl
      seen := fun id => by rw [seen, cut]; simp }

/-- A frame that counts for no source AOI. -/
theorem SourceFold.Scans.unread (h : s.Scans resolvedHits metadata frames n) {s' b : SourceFold}
    (broken : SourceFold.Broken resolvedHits frames n b) (found : frames[n]? = some frame)
    (sole : soleHit resolvedHits frame = none) (summaries : s'.summaries = s.summaries)
    (seenKept : s'.seenSourceIds = b.seenSourceIds) (previousFrame : s'.previousFrame = some frame)
    (previousSourceId : s'.previousSourceId = none)
    (ambiguous : s'.ambiguousFrameCount = s.ambiguousFrameCount +
      if 2 ≤ (frameHits resolvedHits frame).length then 1 else 0) :
    s'.Scans resolvedHits metadata frames (n + 1) := by
  have label : (sourceAttribution resolvedHits frames).label n = soleHit resolvedHits frame :=
    sourceAttribution_label found
  rw [sole] at label
  exact {
    previousFrame := previousFrame.trans found.symm
    previousSourceId := previousSourceId.trans label.symm
    met := fun id => by
      rw [seenKept, Labelling.Met, label, broken.seen]
      simp
    ambiguous := by
      rw [ambiguous, h.ambiguous, List.take_add_one, found, List.filter_append, List.length_append]
      congr 1
      split <;> simp [*]
    keys := fun id => by
      rw [summaries, h.keys, List.take_add_one, found]
      simp [or_and_right, exists_or, sole]
    definition := fun id t ht => h.definition id t (summaries ▸ ht)
    tallies := fun id definition => by
      rw [summaries]
      exact (h.tallies id definition).other found (by rw [label]; simp) }

/-- A frame that counts for one source AOI. -/
theorem SourceFold.Scans.counted (h : s.Scans resolvedHits metadata frames n) {s' b : SourceFold}
    (broken : SourceFold.Broken resolvedHits frames n b) (found : frames[n]? = some frame)
    {hit : ResolvedSourceAoiHit} (hits : frameHits resolvedHits frame = [hit])
    {definition : SourceAoiDefinitionV1} (known : definition ∈ metadata.sourceAois)
    (named : definition.sourceAoiId = hit.sourceAoiId)
    (summaries : s'.summaries = s.summaries.set hit.sourceAoiId
      (((s.summaries.get? hit.sourceAoiId).getD { definition }).record b frame hit.sourceAoiId))
    (seen : s'.seenSourceIds = hit.sourceAoiId :: b.seenSourceIds)
    (previousFrame : s'.previousFrame = some frame)
    (previousSourceId : s'.previousSourceId = some hit.sourceAoiId)
    (ambiguous : s'.ambiguousFrameCount = s.ambiguousFrameCount) :
    s'.Scans resolvedHits metadata frames (n + 1) := by
  have sole : soleHit resolvedHits frame = some hit.sourceAoiId := by simp [soleHit, hits]
  have label : (sourceAttribution resolvedHits frames).label n = soleHit resolvedHits frame :=
    sourceAttribution_label found
  rw [sole] at label
  have recorded := (h.tallies hit.sourceAoiId definition).record found label broken
  exact {
    previousFrame := previousFrame.trans found.symm
    previousSourceId := previousSourceId.trans label.symm
    met := fun id => by
      rw [seen, Labelling.Met, label, List.mem_cons, broken.seen, Option.some.injEq, eq_comm]
    ambiguous := by
      rw [ambiguous, h.ambiguous, List.take_add_one, found]
      simp [hits]
    keys := fun id => by
      rw [summaries, Dict.mem_keys_iff, List.take_add_one, found]
      by_cases same : id = hit.sourceAoiId
      · subst same
        simp [or_and_right, exists_or, sole]
      · have other : ¬ hit.sourceAoiId = id := fun e => same e.symm
        simp only [Dict.get?_set_ne _ same, ← Dict.mem_keys_iff, h.keys]
        simp [or_and_right, exists_or, sole, other]
    definition := fun id t ht => by
      rw [summaries, Dict.get?_set] at ht
      split at ht
      · rename_i same
        cases ht
        rw [SourceTally.record_definition, same]
        cases old : s.summaries.get? hit.sourceAoiId with
        | none => exact ⟨known, named⟩
        | some t => exact h.definition _ t old
      · exact h.definition id t ht
    tallies := fun id other => by
      rw [summaries, Dict.get?_set]
      split
      · rename_i same
        rw [same]
        exact recorded
      · rename_i differs
        exact (h.tallies id other).other found (by rw [label]; simpa using Ne.symm differs) }

/-- **One turn of the loop** reads one more position. -/
theorem SourceFold.Scans.step (h : s.Scans resolvedHits metadata frames n)
    (found : frames[n]? = some frame) {s' : SourceFold}
    (stepped : s.step metadata resolvedHits frame = .ok s') :
    s'.Scans resolvedHits metadata frames (n + 1) := by
  have broken := h.broken found
  unfold SourceFold.step at stepped
  dsimp only at stepped
  have summaries : (if sourceDiscontinuity s.previousFrame frame then
        { s with previousSourceId := none, seenSourceIds := [] } else s).summaries = s.summaries := by
    split <;> rfl
  have ambiguous : (if sourceDiscontinuity s.previousFrame frame then
        { s with previousSourceId := none, seenSourceIds := [] } else s).ambiguousFrameCount =
      s.ambiguousFrameCount := by
    split <;> rfl
  generalize (if sourceDiscontinuity s.previousFrame frame then
      ({ s with previousSourceId := none, seenSourceIds := [] } : SourceFold) else s) = b
    at broken stepped summaries ambiguous
  change b.visit metadata frame (frameHits resolvedHits frame) = .ok s' at stepped
  cases hits : frameHits resolvedHits frame with
  | nil =>
    rw [hits] at stepped
    cases stepped
    exact h.unread broken found (by simp [soleHit, hits]) summaries rfl rfl rfl
      (by rw [hits]; exact ambiguous)
  | cons hit rest =>
    cases rest with
    | nil =>
      rw [hits, SourceFold.visit] at stepped
      split at stepped
      · cases stepped
      · rename_i definition hdefinition
        cases stepped
        exact h.counted broken found hits (List.mem_of_find?_eq_some hdefinition)
          (by simpa using List.find?_some hdefinition) (by rw [summaries]) rfl rfl rfl ambiguous
    | cons second rest =>
      rw [hits] at stepped
      cases stepped
      exact h.unread broken found (by simp [soleHit, hits]) summaries rfl rfl rfl
        (by rw [hits, if_pos (by simp), ← ambiguous])

/-- **The whole loop** reads all positions. -/
theorem sourceLoop_scans {s' : SourceFold}
    (looped : frames.foldlM (SourceFold.step metadata resolvedHits) {} = .ok s') :
    s'.Scans resolvedHits metadata frames frames.length := by
  have step : ∀ k frame (s s' : SourceFold), frames[k]? = some frame →
      s.Scans resolvedHits metadata frames k → s.step metadata resolvedHits frame = .ok s' →
      s'.Scans resolvedHits metadata frames (k + 1) :=
    fun k frame s s' found h stepped => h.step found stepped
  refine foldlM_positions step ?_ looped
  exact {
    previousFrame := rfl
    previousSourceId := rfl
    met := fun id => by constructor <;> rintro ⟨⟩
    ambiguous := rfl
    keys := fun id => by simp
    definition := fun id t ht => by cases ht
    tallies := fun id definition => ⟨rfl, rfl, rfl⟩ }

end Loop

end Mkk.Api
