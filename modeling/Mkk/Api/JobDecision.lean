import Mkk.Api.StoreSteps
import Mkk.Api.SummaryPass

/-!
# The decision of an accepted output

`_run_completion_inner` fills a `RecommendationDecisionV2` with an output the gate accepted,
and the decision's own validator derives the reference kind from the version's variant. The
variant is the one the summary ended in; without reviewed product AOIs no frame is attributed
to a product, so the source path always ends in variant B.
-/

namespace Mkk.Api

open Lib

/-! ## Summaries without product AOIs -/

section Unmapped

variable {maxGapMs : ℚ} {frame : FrameObservationV2} {s s' : SummaryFold}

/-- A frame that is not attributed opens no window. -/
theorem SummaryFold.windows_step (unmapped : mappedProductId frame = none) :
    (s.step maxGapMs frame).windows = s.windows := by
  have read (b : SummaryFold) (broken : Bool) : (b.read broken frame).windows = b.windows := by
    rw [SummaryFold.read, unmapped]
    exact b.windows_closeWindow
  rw [SummaryFold.step, read]
  split
  · exact SummaryFold.windows_closeWindow _
  · rfl

theorem SummaryFold.windows_turn (unmapped : mappedProductId frame = none)
    (h : s.turn maxGapMs frame = .ok s') : s'.windows = s.windows := by
  unfold SummaryFold.turn at h
  split at h <;> cases h
  exact windows_step unmapped

/-- **Without product AOIs** the summary ends in variant B. -/
theorem summarizeObservations_unmapped {observations : List FrameObservationV2}
    {params : SummaryParams} {summary : EvidenceSummary}
    (h : summarizeObservations observations params = .ok summary)
    (noMetadata : params.aoiMetadata = none) : summary.evidence.inputVariant = .b := by
  unfold summarizeObservations at h
  dsimp only at h
  rw [noMetadata] at h
  split at h
  · cases h
  split at h
  · cases h
  obtain ⟨mappings, hmappings, h⟩ := bind_eq_ok_iff.1 h
  split at h
  · cases h
  split at h
  · cases h
  obtain ⟨fold, hfold, h⟩ := bind_eq_ok_iff.1 h
  have unmapped : ∀ f ∈ (ordered observations).zipWith enrichFrameWithAoi mappings,
      mappedProductId f = none := by
    intro f hf
    obtain ⟨o, mapping, hpair, rfl⟩ : ∃ o mapping, (o, mapping) ∈ (ordered observations).zip mappings ∧
        enrichFrameWithAoi o mapping = f := by
      rw [← List.map_uncurry_zip_eq_zipWith] at hf
      obtain ⟨⟨o, mapping⟩, hpair, heq⟩ := List.mem_map.1 hf
      exact ⟨o, mapping, hpair, heq⟩
    obtain ⟨a, -, ha⟩ := mapM_mem hmappings (List.of_mem_zip hpair).2
    cases ha
    exact mappedProductId_unmatched o rfl
  have noWindows : fold.windows = [] :=
    foldlM_keeps (fun s : SummaryFold => s.windows = [])
      (fun f hf s s' hturn hs => (SummaryFold.windows_turn (unmapped f hf) hturn).trans hs) hfold rfl
  have raw : fold.closeWindow.windowsRaw = [] := noWindows
  unfold fillEvidence at h
  obtain ⟨summaries, -, h⟩ := bind_eq_ok_iff.1 h
  obtain ⟨windows, hwindows, h⟩ := bind_eq_ok_iff.1 h
  rw [raw] at hwindows
  cases hwindows
  obtain ⟨quality, -, h⟩ := bind_eq_ok_iff.1 h
  obtain ⟨versions, -, h⟩ := bind_eq_ok_iff.1 h
  obtain ⟨evidence, hevidence, h⟩ := bind_eq_ok_iff.1 h
  cases h
  obtain ⟨rfl, -⟩ := construct_eq_ok_iff.1 hevidence
  rfl

end Unmapped

/-! ## The jobs that are handed out -/

section Job

variable {config : StoreConfig} {context : SessionRecommendationContext}
  {client : CentralRecommendationClient} {accepted : RecommendationAcceptedV2}
  {version : RecommendationVersionV2} {snapshot : List FrameObservationV2}
  {hits : Dict (ℕ × String) (List ResolvedSourceAoiHit)} {p : Prepared}

/-- What the buffer was reduced to: the version follows the summary's variant, which is B
whenever there is source evidence. -/
structure Prepared.Sound (p : Prepared) (version : RecommendationVersionV2) : Prop where
  version : p.version = { version with inputVariant := p.summary.evidence.inputVariant }
  source : p.source.isSome = true → p.summary.evidence.inputVariant = .b

theorem prepare_sound (h : prepare config context accepted version snapshot hits = .ok p) :
    p.Sound version := by
  unfold prepare at h
  obtain ⟨summary, hsummary, h⟩ := bind_eq_ok_iff.1 h
  split at h
  · cases h
    exact ⟨rfl, fun hs => nomatch hs⟩
  · rename_i metadata hmetadata
    obtain ⟨source, hsource, h⟩ := bind_eq_ok_iff.1 h
    cases h
    have variant := summarizeObservations_unmapped hsummary (by simp [summaryParams, hmetadata])
    exact ⟨rfl, fun _ => variant⟩

/-- The version a completion starts with. -/
theorem startIds_version {hashing : Hashing}
    (ids : startIds hashing config context client = .ok (accepted, version)) :
    version = ⟨client.modelId, client.modelRevision, client.promptVersion, featureVersion,
      context.catalogVersion, config.inputVariant⟩ := by
  obtain ⟨a, ha, h⟩ := bind_eq_ok_iff.1 ids
  obtain ⟨v, hv, h⟩ := bind_eq_ok_iff.1 h
  cases h
  obtain ⟨rfl, -⟩ := construct_eq_ok_iff.1 hv
  rfl

/-- A job carries legal identifiers and a catalog without duplicates, its version has the variant
of its evidence, and it was handed out for gaze or to the model that reads a timeline without. -/
structure CompletionJob.Sound (job : CompletionJob) : Prop where
  ids : ContractModel.FieldsValid job.accepted
  products : (job.request.products.map (·.productId)).Nodup
  variant : job.version.inputVariant = job.request.evidence.inputVariant
  source : job.request.sourceVisualEvidence.isSome = true →
    job.request.evidence.inputVariant = .b
  quality : job.summary.dataQuality = job.request.evidence.dataQuality
  ready : 0 < job.request.evidence.dataQuality.gazeValidRatio ∨ job.version.modelId = lunaModelId

/-- **Every job `begin_completion` hands out is sound**. -/
theorem beginCompletion_sound {env : StoreEnv} {states states' : Sessions} {now : ℚ}
    {sessionId : String} {record : Option Bool} {jobId : String} {job : CompletionJob}
    (h : beginCompletion env states now sessionId record client jobId =
      (.ok (accepted, some job), states')) : job.Sound := by
  rcases beginCompletion_cases env h with ⟨e, -, he, -⟩ | ⟨context, completed, s', -, hs', -⟩
  · cases he
  cases begin_cases hs' with
  | started _ version p status incomplete ids prepared ready valid =>
    have sound := prepare_sound prepared
    refine ⟨(startIds_own ids).2.1, context.productsUnique, ?_, fun hs => ?_, rfl, ?_⟩
    · rw [sound.version]
      rfl
    · exact sound.source (by simpa [Prepared.request] using hs)
    · have model : p.version.modelId = client.modelId := by rw [sound.version, startIds_version ids]
      simp only [Prepared.ready, Bool.or_eq_true, Bool.and_eq_true, decide_eq_true_eq] at ready
      rcases ready with (⟨-, gaze⟩ | ⟨⟨-, gaze⟩, -⟩) | ⟨⟨luna, -⟩, -⟩
      · exact .inl gaze
      · exact .inl gaze
      · exact .inr (model.trans luna)

/-- An accepted output cites references of the kind that belongs to the job's version. -/
theorem CompletionJob.Sound.refKinds {job : CompletionJob} (h : job.Sound) {casefold : Casefold}
    {output : CentralRecommendationOutputV2} (accepts : Accepts casefold job.request output) :
    ∀ i ∈ output.evidence, ∀ r ∈ i.evidenceRefs, r.kind = job.version.inputVariant.refKind := by
  intro i hi r hr
  obtain ⟨source, mode, grounded⟩ := accepts.grounded
  have ground := grounded i hi r hr
  rw [h.variant]
  unfold ModeAccepts at mode
  split at mode
  · rename_i payload hsource
    obtain ⟨evidence, -, rfl, -⟩ := mode
    rw [h.source (by rw [hsource]; rfl)]
    exact ground.1
  · obtain ⟨rfl, -⟩ := mode
    simp only [RefGrounded] at ground
    split at ground
    · rename_i variant
      rw [variant]
      exact ground.1
    · rename_i variant
      rw [ground.1]
      cases hv : job.request.evidence.inputVariant with
      | b => exact (variant hv).elim
      | a | c => rfl

/-- An accepted output is the job's completed decision. -/
theorem CompletionJob.Sound.run_accepted {job : CompletionJob} (h : job.Sound) {casefold : Casefold}
    {raw : RawOutput} {output : CentralRecommendationOutputV2}
    (accepted : validateCentralOutput casefold raw job.request = .ok output) :
    job.run casefold (.returned raw) =
      .ok (outcomeWithProduct job.accepted output job.summary.dataQuality job.version) := by
  obtain ⟨-, accepts⟩ := validateCentralOutput_ok_iff.1 accepted
  have decided := decideWithProduct_ok h.ids accepts.valid (h.refKinds accepts)
    job.summary.dataQuality
  simp only [CompletionJob.run, accepted, decided]

/-- **An accepted output is never refused by the decision's own validator**: for every job that
`begin_completion` hands out, the decision is a completed one with the output's product. -/
theorem accepted_output_completes {env : StoreEnv} {states states' : Sessions} {now : ℚ}
    {sessionId : String} {record : Option Bool} {jobId : String} {job : CompletionJob}
    (h : beginCompletion env states now sessionId record client jobId =
      (.ok (accepted, some job), states'))
    {raw : RawOutput} {output : CentralRecommendationOutputV2}
    (gate : validateCentralOutput env.casefold raw job.request = .ok output) :
    ∃ decision, decideWithProduct job.accepted output job.summary.dataQuality job.version =
        .ok decision ∧
      job.run env.casefold (.returned raw) = .ok decision ∧
      decision.status = .completed ∧ decision.selectedProductId = some output.productId ∧
      (∀ i ∈ output.evidence, ∀ r ∈ i.evidenceRefs, r.kind = job.version.inputVariant.refKind) := by
  have sound := beginCompletion_sound h
  obtain ⟨-, accepts⟩ := validateCentralOutput_ok_iff.1 gate
  exact ⟨_, decideWithProduct_ok sound.ids accepts.valid (sound.refKinds accepts) _,
    sound.run_accepted gate, rfl, rfl, sound.refKinds accepts⟩

end Job

/-! ## A job of one glance -/

/-- The sessions after one delivered frame. -/
def glancedStates : Sessions :=
  (appendBatch (smallEnv .c false) Dict.empty 0 "session-0001" (some false) glanceBatch).2

/-- An output about the one window of that frame. -/
def glanceOutput (reasonCodes : List ReasonCode) : CentralRecommendationOutputV2 where
  productId := "bag-0"
  reason := "ok"
  reasonCodes := reasonCodes
  evidence := [{ code := .observedAttention, productId := "bag-0"
                 evidenceRefs := [⟨.window, "window-0001"⟩], statement := "ok" }]
  style := { matchedTags := [.classic], summary := "ok" }
  explorationTendencyCode := .focusedSingleProduct

/-- A job is handed out for the glance, and the gate accepts what a test asks for. -/
theorem exists_glance_job (test : CompletionJob → Bool)
    (h : (handedOut (beginCompletion (smallEnv .c false) glancedStates 0 "session-0001" (some false)
      lunaClient "job-1").1).any test = true) :
    ∃ accepted job states', beginCompletion (smallEnv .c false) glancedStates 0 "session-0001"
      (some false) lunaClient "job-1" = (.ok (accepted, some job), states') ∧ test job = true := by
  obtain ⟨result, states', hb⟩ : ∃ r t, beginCompletion (smallEnv .c false) glancedStates 0
    "session-0001" (some false) lunaClient "job-1" = (r, t) := ⟨_, _, rfl⟩
  rw [hb] at h ⊢
  match result, h with
  | .ok (accepted, some job), h => exact ⟨accepted, job, states', rfl, by simpa [handedOut] using h⟩
  | .ok (_, none), h => cases h
  | .error _, h => cases h

/-- The output about the glance completes the session. -/
theorem accepted_output_completes_glance :
    ∃ (job : CompletionJob) (decision : RecommendationDecisionV2), job.run foldedText (.returned (.shaped (glanceOutput [.observedAttentionLead]))) =
      .ok decision ∧ decision.status = .completed ∧ decision.selectedProductId = some "bag-0" := by
  obtain ⟨accepted, job, states', hb, gate⟩ := exists_glance_job
    (fun job => decide (validateCentralOutput foldedText
      (.shaped (glanceOutput [.observedAttentionLead])) job.request =
        .ok (glanceOutput [.observedAttentionLead]))) (by decide +kernel)
  obtain ⟨decision, -, run, status, selected, -⟩ :=
    accepted_output_completes hb (of_decide_eq_true gate)
  exact ⟨job, decision, run, status, selected⟩

end Mkk.Api
