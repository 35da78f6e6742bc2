import Mkk.Api.Buffer
import Mkk.Api.JobDecision
import Mkk.Api.SourceEvidence
import Mkk.Api.SummaryLimits

/-!
# When a completion comes to an end

`begin_completion` flips the session to pending and wipes its buffer before it fills the
evidence models, so a limit that refuses, or a mean that overflows, leaves a pending session that no job
can finish. `CompletionFits` names the histories whose evidence fits; for them every constructor call after
the flip returns, and no reachable session is stuck (`completion_never_stuck`).
-/

namespace Mkk.Api

open Lib

/-- The buffered history fits the limits of the evidence models. -/
structure CompletionFits (config : StoreConfig) (context : SessionRecommendationContext)
    (s : V2SessionState) : Prop where
  summary : context.sourceAoiMetadata = none →
    SummaryFits maxContinuousGapMs (enrichedFrames s.observations.values context.aoiMetadata)
      (context.products.map (·.productId)) config.inputVariant
  colors : ∀ m ∈ context.sourceAoiMetadata,
    (observedColors s.resolvedSourceHits m s.observations.values).length ≤ 32

/-! ## The buffer is ready for the aggregators -/

section Ready

variable {config : StoreConfig} {context : SessionRecommendationContext} {s : V2SessionState}

theorem BufferInv.ready (inv : BufferInv context s) (nonempty : s.observations.values ≠ []) :
    BufferReady s.observations.values where
  bounded := by
    refine ⟨List.length_pos_iff.2 nonempty, ?_⟩
    rw [Dict.length_values]
    exact inv.bounded
  valid := by
    intro o ho
    obtain ⟨k, hk⟩ := Dict.mem_values_iff.1 ho
    exact inv.valid k o hk
  offsets := inv.offsets

/-- The stored hits name reviewed source AOIs. -/
theorem BufferInv.hitsKnown (inv : BufferInv context s) {metadata : SourceAoiMetadataV1}
    (hmetadata : metadata ∈ context.sourceAoiMetadata) (approved : metadata.approvalStatus = .approved) :
    ∀ f ∈ s.observations.values, HitsKnown s.resolvedSourceHits metadata f := by
  intro f hf hit hhit
  have source : context.sourceApproved = some metadata := by
    rw [SessionRecommendationContext.sourceApproved, hmetadata, Option.filter_some,
      if_pos (by simpa using approved)]
  have resolved := inv.hits
  rw [HitsResolved, source] at resolved
  obtain ⟨k, hk⟩ := Dict.mem_values_iff.1 hf
  obtain rfl := inv.keyed k f hk
  have own := resolved f.key
  rw [hk, Option.map_some] at own
  obtain ⟨hits, hhits, ok⟩ := Option.map_eq_some_iff.1 own
  rw [frameHits, hhits, Option.getD_some] at hhit
  obtain ⟨-, b, hb, same⟩ := resolveSourceAoiHits_mem ok.symm hhit
  obtain ⟨manifest, bind⟩ := context.bound metadata hmetadata
  exact ⟨b.definition, bindSourceAois_mem bind hb, same⟩

/-- Without product AOIs nothing is attributed, so any history fits. -/
theorem summaryFits_unmapped (maxGapMs : ℚ) (observations : List FrameObservationV2)
    (catalog : List String) (variant : InputVariant) :
    SummaryFits maxGapMs (enrichedFrames observations none) catalog variant := by
  have unmapped : ∀ f ∈ enrichedFrames observations none, mappedProductId f = none := by
    intro f hf
    obtain ⟨o, -, rfl⟩ := List.mem_map.1 hf
    exact mappedProductId_unmatched o rfl
  constructor
  · rintro p - ⟨f, hf, hp, -⟩
    rw [unmapped f hf] at hp
    cases hp
  · rintro p - ⟨f, hf, hp, -⟩
    rw [unmapped f hf] at hp
    cases hp
  · intro _
    have none_opens : windowCount maxGapMs (enrichedFrames observations none) = 0 := by
      rw [windowCount, List.countP_eq_zero]
      intro pair hpair
      have mem : pair.2 ∈ enrichedFrames observations none := by
        rw [framePairs] at hpair
        exact (List.of_mem_zip hpair).2
      simp [opensWindow, unmapped pair.2 mem]
    omega

end Ready

/-! ## The aggregators return -/

section Prepared

variable {config : StoreConfig} {context : SessionRecommendationContext}
  {client : CentralRecommendationClient} {accepted : RecommendationAcceptedV2}
  {version : RecommendationVersionV2} {s : V2SessionState} {p : Prepared}

theorem summaryParams_legal (ids : ContractModel.FieldsValid accepted) :
    (summaryParams config context accepted).Legal where
  decisionRequestId := ids.2
  sessionId := context.sessionIdOk
  videoId := context.videoIdOk
  manifestVersion := context.manifestVersionOk
  catalogVersion := context.catalogVersionOk
  products := by
    refine ⟨context.productsUnique, ?_⟩
    simp [summaryParams, LengthWithin, context.tenProducts]
  productIds := by
    intro p hp
    obtain ⟨product, -, rfl⟩ := List.mem_map.1 hp
    exact product.productIdOk

/-- What the buffer was reduced to can be filled into a request and a decision. -/
structure Prepared.Legal (p : Prepared) (context : SessionRecommendationContext) : Prop where
  evidence : p.summary.evidence.Valid
  frames : ∀ t ∈ p.summary.evidence.timeline, ∀ f ∈ t, isIdentifier f.frameId = true
  windows : ∀ ws ∈ p.summary.evidence.evidenceWindows, ∀ w ∈ ws, isIdentifier w.windowId = true
  source : p.source.isSome = true → context.sourceAoiMetadata.isSome = true

/-- **Both aggregators return** on a history that fits. -/
theorem prepare_ok (version : RecommendationVersionV2) (inv : BufferInv context s) (nonempty : s.observations.values ≠ [])
    (approved : ∀ m ∈ context.sourceAoiMetadata, m.approvalStatus = .approved)
    (fits : CompletionFits config context s) (ids : ContractModel.FieldsValid accepted) :
    ∃ p, prepare config context accepted version s.observations.values s.resolvedSourceHits = .ok p ∧
      p.Legal context := by
  have ready := inv.ready nonempty
  have summaryFits : SummaryFits maxContinuousGapMs
      (enrichedFrames s.observations.values (summaryParams config context accepted).aoiMetadata)
      (context.products.map (·.productId)) config.inputVariant := by
    cases hsource : context.sourceAoiMetadata with
    | none => simpa [summaryParams, hsource] using fits.summary hsource
    | some m => simpa [summaryParams, hsource] using summaryFits_unmapped _ _ _ _
  obtain ⟨summary, hsummary, of⟩ := summarizeObservations_ok ready (summaryParams_legal ids) summaryFits
  have frames : ∀ t ∈ summary.evidence.timeline, ∀ f ∈ t, isIdentifier f.frameId = true := by
    intro t ht f hf
    rw [of.timeline t ht] at hf
    obtain ⟨o, ho, rfl⟩ := List.mem_map.1 hf
    rw [enrich_frameId]
    exact (ready.valid o (mem_sortOn.1 ho)).frameId
  have windows : ∀ ws ∈ summary.evidence.evidenceWindows, ∀ w ∈ ws, isIdentifier w.windowId = true :=
    fun ws hws w hw => (of.windows ws hws w hw).windowId
  unfold prepare
  rw [bind_ok hsummary]
  cases hsource : context.sourceAoiMetadata with
  | none => exact ⟨_, rfl, of.valid, frames, windows, fun h => by cases h⟩
  | some metadata =>
    have built : ∃ source, buildSourceVisualEvidence s.observations.values s.resolvedSourceHits
        metadata = .ok source := by
      rcases buildSourceVisualEvidence_cases (inv.hitsKnown hsource (approved metadata hsource))
        ready.bounded.2 with ⟨none, -⟩ | ⟨evidence, -, eq, valid⟩
      · exact ⟨_, none⟩
      · have legal := valid.2 (fits.colors metadata hsource)
        exact ⟨some evidence, by rw [eq, bind_ok (construct_ok legal)]; rfl⟩
    obtain ⟨source, hbuilt⟩ := built
    refine ⟨_, bind_ok hbuilt _, ?_, frames, windows, fun _ => by rw [hsource]; rfl⟩
    exact { of.valid with }

/-- The request of a job is valid. -/
theorem Prepared.Legal.request_valid (legal : p.Legal context) (ids : ContractModel.FieldsValid accepted)
    (prompt : isRevision client.promptVersion = true) :
    (p.request context client accepted).Valid := by
  have feature : isRevision featureVersion = true := by decide
  have matching := context.matching
  have products : LengthWithin 1 10 context.products := by
    rw [LengthWithin, context.tenProducts]
    decide
  refine ⟨ids.2, context.sessionIdOk, context.videoIdOk, prompt, feature, products, ?_, ?_⟩
  · intro m hm
    cases hcatalog : context.matchingCatalog with
    | none => simp [Prepared.request, hcatalog] at hm
    | some catalog =>
      cases hsource : p.source with
      | none => simp [Prepared.request, hcatalog, hsource] at hm
      | some evidence =>
        simp only [Prepared.request, hcatalog, hsource, Option.mem_def, Option.some.injEq] at hm
        subst hm
        simpa [LengthWithin] using catalog.tenProducts
  · cases hsource : p.source with
    | none => cases hcatalog : context.matchingCatalog <;> simp [Prepared.request, hsource, hcatalog]
    | some evidence =>
      -- source evidence comes with source AOIs, and these with a matching catalog
      rw [legal.source (by rw [hsource]; rfl), Option.isSome_iff_exists] at matching
      obtain ⟨catalog, hcatalog⟩ := matching
      simp [Prepared.request, hsource, hcatalog]

/-- What the fallback cites is legal and of the kind that belongs to the variant. -/
theorem Prepared.Legal.fallbackGround (legal : p.Legal context) {first : ProductRecommendationItemV2}
    {reference : EvidenceReferenceV2} {product : ProductRecommendationItemV2}
    (h : fallbackGround context p.summary.evidence first = some (reference, product)) :
    isIdentifier reference.refId = true ∧
      reference.kind = p.summary.evidence.inputVariant.refKind := by
  unfold Mkk.Api.fallbackGround at h
  split at h
  · rename_i variant
    split at h <;> cases h
    rename_i frame rest hframes
    rw [variant]
    refine ⟨?_, rfl⟩
    cases ht : p.summary.evidence.timeline with
    | none => rw [ht] at hframes; cases hframes
    | some t =>
      rw [ht, Option.getD_some] at hframes
      exact legal.frames t ht frame (by rw [hframes]; exact List.mem_cons_self)
  · rename_i variant
    split at h <;> cases h
    rename_i window rest hwindows
    constructor
    · cases hw : p.summary.evidence.evidenceWindows with
      | none => rw [hw] at hwindows; cases hwindows
      | some ws =>
        rw [hw, Option.getD_some] at hwindows
        exact legal.windows ws hw window (by rw [hwindows]; exact List.mem_cons_self)
    · cases hv : p.summary.evidence.inputVariant with
      | b => exact (variant hv).elim
      | a | c => rfl

/-- The fallback's decision is a valid one. -/
theorem fallbackDecision_valid {reference : EvidenceReferenceV2}
    (product : ProductRecommendationItemV2)
    (ids : ContractModel.FieldsValid accepted)
    (kind : reference.kind = version.inputVariant.refKind) (quality : RecommendationDataQualityV2) :
    (fallbackDecision accepted reference product quality version).Valid where
  recommendationId := ids.1
  decisionRequestId := ids.2
  selectedProductId := by
    intro p hp
    cases hp
    exact product.productIdOk
  codesBounded := show 1 ≤ 6 by decide
  codesUnique := List.nodup_singleton _
  evidenceBounded := show 1 ≤ 12 by decide
  completed := fun _ => ⟨rfl, rfl, List.cons_ne_nil _ _, List.cons_ne_nil _ _, rfl, rfl⟩
  withoutProduct := fun h => (h rfl).elim
  insufficient := fun h => nomatch h
  failed := fun h => nomatch h
  refKinds := by
    intro i hi r hr
    obtain rfl := List.mem_singleton.1 hi
    obtain rfl := List.mem_singleton.1 hr
    exact kind

variable (config client) in
/-- The fallback returns, with a decision or without one. -/
theorem demoFallbackDecision_ok (legal : p.Legal context) (ids : ContractModel.FieldsValid accepted)
    (variant : p.version.inputVariant = p.summary.evidence.inputVariant) :
    ∃ d, demoFallbackDecision config context client accepted p.summary p.version = .ok d := by
  unfold demoFallbackDecision
  split
  · exact ⟨none, rfl⟩
  · split
    · exact ⟨none, rfl⟩
    · split
      · exact ⟨none, rfl⟩
      · rename_i reference product hground
        obtain ⟨hid, hkind⟩ := legal.fallbackGround hground
        have decision := fallbackDecision_valid product ids
          (hkind.trans (congrArg _ variant.symm)) p.summary.dataQuality
        have explained : TextUpTo 400 (fallbackDecision accepted reference product
            p.summary.dataQuality p.version).reason.explanation := by
          simp only [fallbackDecision]
          decide +kernel
        have item : ∀ i ∈ (fallbackDecision accepted reference product p.summary.dataQuality
            p.version).evidence, ContractModel.FieldsValid i := by
          intro i hi
          obtain rfl := List.mem_singleton.1 hi
          refine ⟨product.productIdOk, by simp [LengthWithin], List.nodup_singleton _, ?_⟩
          dsimp only
          decide +kernel
        have style : ∀ x ∈ (fallbackDecision accepted reference product p.summary.dataQuality
            p.version).style, ContractModel.FieldsValid x := by
          intro x hx
          cases hx
          have tags := product.tagsBounded.1
          refine ⟨⟨?_, ?_⟩, product.tagsUnique.sublist (List.take_sublist _ _), ?_⟩
          · simp only [List.length_take]
            omega
          · simp only [List.length_take]
            omega
          · dsimp only
            decide +kernel
        have items : (fallbackDecision accepted reference product p.summary.dataQuality
            p.version).evidence.mapM construct = .ok (fallbackDecision accepted reference product
              p.summary.dataQuality p.version).evidence :=
          (mapM_eq_ok (g := id) fun i hi => construct_ok (item i hi)).trans (by rw [List.map_id])
        have hstyle : (fallbackDecision accepted reference product p.summary.dataQuality
            p.version).style.mapM construct = .ok (fallbackDecision accepted reference product
              p.summary.dataQuality p.version).style := by
          simp only [fallbackDecision, Option.mapM_some]
          rw [construct_ok (style _ rfl)]
          rfl
        refine ⟨some (fallbackDecision accepted reference product p.summary.dataQuality p.version), ?_⟩
        dsimp only
        rw [bind_ok (construct_ok hid), bind_ok (construct_ok explained), bind_ok items,
          bind_ok hstyle, bind_ok (construct_ok decision)]
        rfl

/-- A decision without a model is always made. -/
theorem Prepared.Legal.decide_ok (legal : p.Legal context) (ids : ContractModel.FieldsValid accepted)
    (variant : p.version.inputVariant = p.summary.evidence.inputVariant) :
    ∃ d, p.decide config context client accepted = .ok d := by
  obtain ⟨fallback, hfallback⟩ := demoFallbackDecision_ok config client legal ids variant
  unfold Prepared.decide
  rw [bind_ok hfallback]
  cases fallback with
  | some d => exact ⟨d, rfl⟩
  | none =>
    show ∃ d, p.insufficient context accepted = .ok d
    unfold Prepared.insufficient
    split
    · exact ⟨_, decideWithoutProduct_ok ids (by decide +kernel) (by decide) _ _⟩
    · refine ⟨_, decideWithoutProduct_ok ids ?_ (by decide) _ _⟩
      split
      · decide +kernel
      · decide +kernel

end Prepared

/-! ## `begin_completion` on one state -/

/-- The completion is over, or a job that can finish it is kept. -/
def V2SessionState.Concluded (s : V2SessionState) : Prop :=
  s.accepted.isSome = true ∧
    (s.status = .terminal ∧ s.decision.isSome = true ∨
      s.status = .pending ∧ s.activeJob.isSome = true)

section Begin

variable {hashing : Hashing} {config : StoreConfig} {context : SessionRecommendationContext}
  {client : CentralRecommendationClient} {accepted : RecommendationAcceptedV2}
  {version : RecommendationVersionV2} {s : V2SessionState}

/-- **From the flip on nothing raises** when the history fits. -/
theorem conclude_ok (now : ℚ) (jobId : String) (inv : BufferInv context s)
    (approved : ∀ m ∈ context.sourceAoiMetadata, m.approvalStatus = .approved)
    (fits : CompletionFits config context s)
    (ids : startIds hashing config context client = .ok (accepted, version)) :
    ∃ job s', s.conclude config context client accepted version now jobId =
      (.ok (accepted, job), s') ∧ s'.Concluded := by
  obtain ⟨-, hids, hversion⟩ := startIds_own ids
  have settled {x : Except PyError RecommendationDecisionV2} (h : ∃ d, x = .ok d) :
      ∃ job s', (s.flip config accepted now).settleWith config accepted now x =
        (.ok (accepted, job), s') ∧ s'.Concluded := by
    obtain ⟨d, rfl⟩ := h
    exact ⟨none, _, rfl, rfl, .inl ⟨rfl, rfl⟩⟩
  unfold V2SessionState.conclude
  dsimp only
  split
  · refine settled ?_
    have quality : ContractModel.FieldsValid noQuality := by
      refine ⟨?_, ?_, ?_, ?_⟩ <;> simp [noQuality, InUnit]
    rw [bind_ok (construct_ok quality)]
    exact ⟨_, decideWithoutProduct_ok hids (by decide +kernel) (by decide) _ _⟩
  · rename_i nonempty
    obtain ⟨p, hp, legal⟩ := prepare_ok version inv nonempty approved fits hids
    have sound := prepare_sound hp
    rw [hp]
    dsimp only
    split
    · have prompt : isRevision client.promptVersion = true := by
        have legalPrompt : isRevision version.promptVersion = true := hversion.promptVersion
        rwa [startIds_version ids] at legalPrompt
      unfold V2SessionState.startJob
      rw [construct_ok (legal.request_valid hids prompt)]
      exact ⟨_, _, rfl, rfl, .inr ⟨rfl, rfl⟩⟩
    · exact settled (legal.decide_ok hids (by rw [sound.version]))

/-- **Every call** on a collecting session whose history fits, or on a concluded one, either raises
and leaves the session as it was, or returns with the completion concluded. -/
theorem begin_concludes {completed : Bool} {result : Except PyError Begun} {s' : V2SessionState}
    (collecting : s.status = .collecting → BufferInv context s ∧ CompletionFits config context s)
    (concluded : s.status ≠ .collecting → s.Concluded)
    (approved : ∀ m ∈ context.sourceAoiMetadata, m.approvalStatus = .approved)
    (h : s.begin hashing config context client completed now jobId = (result, s')) :
    (∃ e, result = .error e) ∧ s' = s ∨
      ∃ job, (∃ accepted, result = .ok (accepted, job)) ∧ s'.Concluded := by
  unfold V2SessionState.begin at h
  split at h
  · rename_i status
    have done := concluded status
    split at h
    · cases h
      exact .inl ⟨⟨_, rfl⟩, rfl⟩
    · cases h
      exact .inr ⟨none, ⟨_, rfl⟩, done⟩
  · rename_i status
    split at h
    · cases h
      exact .inl ⟨⟨_, rfl⟩, rfl⟩
    · split at h
      · cases h
        exact .inl ⟨⟨_, rfl⟩, rfl⟩
      · rename_i accepted version ids
        obtain ⟨inv, fits⟩ := collecting (not_not.1 status)
        obtain ⟨job, s₁, hc, done⟩ := conclude_ok now jobId inv approved fits ids
        rw [hc] at h
        cases h
        exact .inr ⟨job, ⟨_, rfl⟩, done⟩

end Begin

/-! ## Runs -/

/-- A completion of a collecting session is only asked for when its history fits. -/
def BeginFits (env : StoreEnv) (w : World) : Event → Prop
  | .begin sessionId _ _ _ => ∀ context ∈ env.context sessionId,
    (currentState env w sessionId).status = .collecting →
      CompletionFits env.config context (currentState env w sessionId)
  | _ => True

/-- Every session that left collecting is concluded. -/
def NoneStuck (w : World) : Prop :=
  ∀ sid s, w.states.get? sid = some s → s.status ≠ .collecting → s.Concluded

section Runs

variable {env : StoreEnv} {w w' : World} {e : Event}

theorem NoneStuck.current (inv : NoneStuck w) {sid : String}
    (status : (currentState env w sid).status ≠ .collecting) : (currentState env w sid).Concluded := by
  unfold currentState at *
  cases hs : w.states.get? sid with
  | none =>
    rw [hs] at status
    exact (status rfl).elim
  | some s =>
    rw [hs] at status
    exact inv sid s hs status

/-- What a call of `begin_completion` does to the session's state. -/
theorem currentState_begin {sid : String} {record : Option Bool}
    {client : CentralRecommendationClient} {jobId : String} (inv : NoneStuck w)
    (tracked : Tracked env w) (fits : BeginFits env w (.begin sid record client jobId))
    {context : SessionRecommendationContext} {completed : Bool} {result : Except PyError Begun}
    {s' : V2SessionState} (checked : checkBegin env sid record = .ok (context, completed))
    (h : (currentState env w sid).begin env.hashing env.config context client completed w.clock jobId =
      (result, s')) :
    (∃ e, result = .error e) ∧ s' = currentState env w sid ∨
      ∃ job, (∃ accepted, result = .ok (accepted, job)) ∧ s'.Concluded := by
  obtain ⟨hcontext, -, approved⟩ := checkBegin_eq_ok env checked
  refine begin_concludes (fun status => ?_) (fun status => inv.current status) approved h
  obtain ⟨parts, tracks⟩ := tracked.current hcontext status
  exact ⟨tracks.bufferInv, fits context hcontext status⟩

/-- **Every step whose completion fits leaves no session stuck**. -/
theorem NoneStuck.step (inv : NoneStuck w) (tracked : Tracked env w) (fits : BeginFits env w e)
    (h : step env w e = some w') : NoneStuck w' := by
  intro sid s' hs' status
  have move := step_move h sid
  generalize ho : w'.states.get? sid = o at move hs'
  cases move with
  | kept => exact inv sid s' hs' status
  | swept => cases hs'
  | cancelled => cases hs'
  | opened => cases hs'; exact (status rfl).elim
  | appended record batch context accepted s₁ checked happend =>
    cases hs'
    exact (status (append_frame happend).2.1).elim
  | begun record client jobId context completed checked undrawn result s₁ hb =>
    cases hs'
    rcases currentState_begin inv tracked fits checked hb with ⟨-, same⟩ | ⟨job, -, done⟩
    · rw [same] at status ⊢
      exact inv.current status
    · exact done
  | registered job s own hs active => cases hs'; exact inv sid s hs status
  | committed job jobEnd decision s own known decided hs pending active =>
    cases hs'
    have kept := (inv sid s hs (by rw [pending]; decide)).1
    exact ⟨kept, .inl ⟨rfl, rfl⟩⟩

theorem NoneStuck.of_run {es : List Event}
    (run : Lts.Steps (Mkk.Api.step env) (BeginFits env) {} es w) :
    NoneStuck w ∧ Tracked env w :=
  run.invariant (P := fun w => NoneStuck w ∧ Tracked env w)
    (fun _ _ _ inv fits h => ⟨inv.1.step inv.2 fits h, inv.2.step h⟩)
    ⟨fun _ _ h => (nomatch h), fun _ _ h => (nomatch h)⟩

/-- **No completion is stuck.** In every run whose completions were asked for histories that fit,
no session is pending without an active job, and a further call for a history that fits either
raises and leaves the session's state as it was, or returns with the session terminal with a
decision or pending with an active job. -/
theorem completion_never_stuck {es : List Event}
    (run : Lts.Steps (step env) (BeginFits env) {} es w) :
    (∀ sid s, w.states.get? sid = some s → s.status = .pending → s.activeJob.isSome = true) ∧
    ∀ sid record client jobId result states', BeginFits env w (.begin sid record client jobId) →
      beginCompletion env w.states w.clock sid record client jobId = (result, states') →
      (∃ e, result = .error e) ∧
          (states'.get? sid).getD (.fresh env.config w.clock) = currentState env w sid ∨
        ∃ accepted job s', result = .ok (accepted, job) ∧ states'.get? sid = some s' ∧
          (s'.status = .terminal ∧ s'.decision.isSome = true ∨
            s'.status = .pending ∧ s'.activeJob.isSome = true) := by
  obtain ⟨inv, tracked⟩ := NoneStuck.of_run run
  constructor
  · intro sid s hs pending
    obtain ⟨-, ⟨terminal, -⟩ | ⟨-, active⟩⟩ := inv sid s hs (by rw [pending]; decide)
    · rw [pending] at terminal
      cases terminal
    · exact active
  · intro sid record client jobId result states' fits h
    rcases beginCompletion_cases env h with
      ⟨e, -, rfl, rfl⟩ | ⟨context, completed, s', checked, hb, rfl⟩
    · exact .inl ⟨⟨e, rfl⟩, rfl⟩
    · rw [Dict.get?_set_self]
      rcases currentState_begin inv tracked fits checked hb with ⟨raised, same⟩ | ⟨job, ⟨a, rfl⟩, done⟩
      · exact .inl ⟨raised, same⟩
      · exact .inr ⟨a, job, s', rfl, rfl, done.2⟩

end Runs

/-! ## A completion that is stuck -/

/-- A frame whose expression changed, with no label among its rates. -/
def ratelessFrame : FrameObservationV2 :=
  { glance "frame-1" 0 1000 with
    expression := some {
      scores := ⟨[("smile", 1 / 2)], by simp⟩, quality := 1, confidence := 1
      producerId := "face-1", modelRevision := "face-model-1", taxonomyVersion := "taxonomy-1" }
    expressionReason := none
    derived := some {
      gaze := none, gazeReason := some "no_previous_frame"
      expression := some {
        scoreChanges := some ⟨[("smile", 1 / 4)], by simp⟩
        scoreChangeRatesPerS := some .empty
        changeReason := none, sustainedActions := [] }
      expressionReason := none }
    derivedReason := none }

def ratelessBatch : ObservationBatchV2 :=
  batchOf "session-0001" "batch-1" 0 ratelessFrame sessionId_ok firstBatchId_ok (by decide +kernel)

/-- A frame whose gaze moved so fast that two such speeds add up beyond the largest double. -/
def fastFrame (frameId : String) (sequence : ℕ) (atMs : ℚ) : FrameObservationV2 :=
  { glance frameId sequence atMs with
    derived := some {
      gaze := some {
        movement := some { distanceNorm := 1, speedNormPerS := 10 ^ 308 }
        movementReason := none, continuousObservationMs := 0
        returnCandidate := some false, returnCandidateReason := none }
      gazeReason := none, expression := none, expressionReason := some "no_previous_frame" }
    derivedReason := none }

def fastBatches : List ObservationBatchV2 :=
  [batchOf "session-0001" "batch-1" 0 (fastFrame "frame-1" 0 1000) sessionId_ok firstBatchId_ok
      (by decide +kernel),
    batchOf "session-0001" "batch-2" 1 (fastFrame "frame-2" 1 1500) sessionId_ok (by decide)
      (by decide +kernel)]

/-- The completion of this world raises `e`, and the session it leaves is pending without a buffer and
without a job. -/
def StuckBy (w : World) (e : PyError) : Prop :=
  ∃ states' s', beginCompletion (smallEnv .c false) w.states w.clock "session-0001" (some false)
      lunaClient "job-1" = (.error e, states') ∧
    states'.get? "session-0001" = some s' ∧ s'.status = .pending ∧ s'.activeJob = none ∧
    s'.observations.size = 0

/-- A test for it, with the number of frames the session has buffered. -/
def stuckTest (size : ℕ) (e : PyError) (w : World) : Bool :=
  decide ((currentState (smallEnv .c false) w "session-0001").observations.size = size) &&
  (match beginCompletion (smallEnv .c false) w.states w.clock "session-0001" (some false)
      lunaClient "job-1" with
    | (.error raised, states') => decide (raised = e) &&
      (states'.get? "session-0001").any fun s' : V2SessionState =>
        decide (s'.status = SessionStatus.pending ∧ s'.activeJob = none ∧ s'.observations.size = 0)
    | _ => false)

theorem exists_stuck {size : ℕ} {e : PyError} {es : List Event}
    (run : (Lts.runAll (step (smallEnv .c false)) {} es).any (stuckTest size e) = true) :
    ∃ w, Reachable (smallEnv .c false) w ∧
      (currentState (smallEnv .c false) w "session-0001").observations.size = size ∧ StuckBy w e := by
  obtain ⟨w, run, hw⟩ := Lts.exists_steps_of_any run
  rw [stuckTest, Bool.and_eq_true, decide_eq_true_eq] at hw
  obtain ⟨buffered, hw⟩ := hw
  refine ⟨w, ⟨_, run⟩, buffered, ?_⟩
  split at hw
  · rename_i raised states' hb
    rw [Bool.and_eq_true, decide_eq_true_eq] at hw
    obtain ⟨rfl, hw⟩ := hw
    obtain ⟨s', hs', h⟩ := (Option.any_eq_true ..).1 hw
    obtain ⟨pending, noJob, wiped⟩ := of_decide_eq_true h
    exact ⟨states', s', hb, hs', pending, noJob, wiped⟩
  · cases hw

/-- The calls raise, one in the model of an expression without rates, one in the mean of two speeds, and
each session they leave is pending without a buffer and without a job. -/
theorem completion_stuck :
    (∃ w, Reachable (smallEnv .c false) w ∧
      (currentState (smallEnv .c false) w "session-0001").observations.size = 1 ∧
      StuckBy w (.validation "ExpressionSummaryV2")) ∧
    ∃ w, Reachable (smallEnv .c false) w ∧
      (currentState (smallEnv .c false) w "session-0001").observations.size = 2 ∧
      StuckBy w (.overflowError "intermediate overflow in fsum") :=
  ⟨exists_stuck (show (Lts.runAll (step (smallEnv .c false)) {}
      [.append "session-0001" (some false) ratelessBatch]).any _ = true by decide +kernel),
    exists_stuck (show (Lts.runAll (step (smallEnv .c false)) {}
      (fastBatches.map (.append "session-0001" (some false)))).any _ = true by decide +kernel)⟩

/-- A short history without expressions and derived signals fits. -/
theorem completionFits_of_plain {config : StoreConfig} {context : SessionRecommendationContext}
    {s : V2SessionState} (legacy : context.sourceAoiMetadata = none)
    (plain : ∀ f ∈ s.observations.values, f.expression = none ∧ f.derived = none)
    (few : s.observations.size ≤ 128) : CompletionFits config context s where
  summary := by
    intro _
    constructor
    · rintro p - -
      rw [totalSpeed_of_underived fun f hf => ?_]
      · exact Nat.cast_nonneg _
      · obtain ⟨o, ho, rfl⟩ := List.mem_map.1 hf
        rw [enrich_derived, (plain o (mem_sortOn.1 ho)).2]
    · rintro p - ⟨f, hf, -, hexpression⟩
      obtain ⟨o, ho, rfl⟩ := List.mem_map.1 hf
      rw [enrich_expression, (plain o (mem_sortOn.1 ho)).1] at hexpression
      cases hexpression
    · intro _
      have opened := windowCount_le maxContinuousGapMs
        (enrichedFrames s.observations.values context.aoiMetadata)
      rw [length_enrichedFrames, Dict.length_values] at opened
      omega
  colors := by
    intro m hm
    rw [legacy] at hm
    cases hm

/-- A test for short histories without expressions and derived signals. -/
def plainHistory (w : World) (sid : String) : Bool :=
  (currentState (smallEnv .c false) w sid).observations.values.all
    (fun f => f.expression.isNone && f.derived.isNone) &&
    decide ((currentState (smallEnv .c false) w sid).observations.size ≤ 128)

theorem beginFits_of_plain {w : World} {sid : String} {record : Option Bool}
    {client : CentralRecommendationClient} {jobId : String} (h : plainHistory w sid = true) :
    BeginFits (smallEnv .c false) w (.begin sid record client jobId) := by
  rw [plainHistory, Bool.and_eq_true, List.all_eq_true, decide_eq_true_eq] at h
  intro c hc _
  have legacy : c.sourceAoiMetadata = none := by
    simp only [smallEnv, Option.mem_def] at hc
    split_ifs at hc <;> cases hc <;> rfl
  refine completionFits_of_plain legacy (fun f hf => ?_) h.2
  have plain := h.1 f hf
  rw [Bool.and_eq_true, Option.isNone_iff_eq_none, Option.isNone_iff_eq_none] at plain
  exact plain

/-- The completion of one glance. -/
theorem completion_never_stuck_glance : ∃ w s,
    Lts.Steps (step (smallEnv .c false)) (BeginFits (smallEnv .c false)) {}
      [.append "session-0001" (some false) glanceBatch,
        .begin "session-0001" (some false) lunaClient "job-1"] w ∧
    w.states.get? "session-0001" = some s ∧ s.status = .pending ∧ s.activeJob.isSome = true := by
  obtain ⟨w, run, hw⟩ := Lts.exists_guarded_steps_of_any
    (G := BeginFits (smallEnv .c false))
    (fun w e => match e with
      | .begin sid _ _ _ => plainHistory w sid
      | _ => true)
    (p := fun w : World => (w.states.get? "session-0001").any fun s : V2SessionState =>
      decide (s.status = SessionStatus.pending))
    (by
      intro w e h
      cases e with
      | begin sid record client jobId => exact beginFits_of_plain h
      | _ => trivial)
    (show (Lts.runWhile (step (smallEnv .c false)) _ {}
      [.append "session-0001" (some false) glanceBatch,
        .begin "session-0001" (some false) lunaClient "job-1"]).any _ = true by decide +kernel)
  obtain ⟨s, hs, h⟩ := (Option.any_eq_true ..).1 hw
  have pending := of_decide_eq_true h
  exact ⟨w, s, run, hs, pending, (completion_never_stuck run).1 _ s hs pending⟩

end Mkk.Api
