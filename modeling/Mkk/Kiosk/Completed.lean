import Mkk.Api.JobDecision
import Mkk.Kiosk.Presentation

/-!
# Which completed decisions the Kiosk can show

The API completes a session with the decision of an accepted output or with the local demo
fallback. Both belong to a product of the catalog, so the Kiosk shows them exactly when it has
something to say: it skips the catalog's reason code when it quotes reactions, and takes a
catalog-only decision for a fallback or a low-signal result only when no gaze was valid.
-/

namespace Mkk.Kiosk

open Lib Mkk.Api

/-- Two items of a catalog without duplicates that share an id are one. -/
theorem product_unique {products : List ProductRecommendationItemV2}
    (unique : (products.map (·.productId)).Nodup) {p q : ProductRecommendationItemV2}
    (hp : p ∈ products) (hq : q ∈ products) (same : p.productId = q.productId) : p = q :=
  List.inj_on_of_nodup_map unique hp hq same

section Output

variable {casefold : Casefold} {job : CompletionJob} {output : CentralRecommendationOutputV2}
  {product : ProductRecommendationItemV2}

/-- The decision of an accepted output belongs to the product it selects. -/
theorem shown_of_accepts (sound : job.Sound) (accepts : Accepts casefold job.request output)
    (hproduct : product ∈ job.request.products) (selected : product.productId = output.productId) :
    Shown (outcomeWithProduct job.accepted output job.summary.dataQuality job.version) product := by
  obtain ⟨profile, hprofile, tagsNonempty, tags⟩ := accepts.profile
  obtain ⟨hmem, own⟩ := get?_indexBy hprofile
  obtain rfl := product_unique sound.products hproduct hmem (selected.trans own.symm)
  refine ⟨rfl, by rw [selected]; rfl, ⟨_, rfl, tagsNonempty, tags⟩, ⟨_, rfl⟩, ?_, ?_⟩
  · exact List.length_pos_iff.1 accepts.valid.evidenceBounded.1
  · intro i hi
    have refs := (accepts.valid.evidence i hi).1.refsBounded.1
    exact ⟨(accepts.ownProduct i hi).trans selected.symm, List.length_pos_iff.1 refs⟩

theorem quotedCodes_ne_nil_iff {decision : RecommendationDecisionV2} :
    quotedCodes decision ≠ [] ↔ ∃ c ∈ decision.reasonCodes, c ≠ .catalogTagAlignment := by
  unfold quotedCodes
  rw [ne_eq, List.take_eq_nil_iff, List.filter_eq_nil_iff]
  simp

/-- A list without duplicates whose every member is `a` is `[a]`, unless it is empty. -/
theorem eq_singleton_of_nodup {α : Type} {l : List α} {a : α} (unique : l.Nodup) (nonempty : l ≠ [])
    (all : ∀ b ∈ l, b = a) : l = [a] := by
  cases l with
  | nil => exact (nonempty rfl).elim
  | cons b rest =>
    obtain rfl := all b List.mem_cons_self
    cases rest with
    | nil => rfl
    | cons c more =>
      obtain rfl := all c (by simp)
      simp at unique

/-- The Kiosk has something to say about an accepted output exactly when it claims more than the
catalog, or belongs to a low-signal request. -/
theorem presentable_of_accepts_iff (sound : job.Sound) (accepts : Accepts casefold job.request output) :
    Presentable (outcomeWithProduct job.accepted output job.summary.dataQuality job.version) ↔
      (∃ c ∈ output.reasonCodes, c ≠ .catalogTagAlignment) ∨ job.request.lowSignal := by
  have nonempty : output.reasonCodes ≠ [] := List.length_pos_iff.1 accepts.valid.codesBounded.1
  have zero : job.summary.dataQuality.gazeValidRatio = 0 ↔
      job.request.evidence.dataQuality.gazeValidRatio = 0 := by rw [sound.quality]
  constructor
  · rintro (⟨stub, ratio, -⟩ | ⟨variant, ⟨ratio, codes⟩, -⟩ | quoted)
    · -- the stub gets no job without gaze
      rcases sound.ready with positive | luna
      · exact absurd (zero.1 ratio) positive.ne'
      · exact absurd (luna.symm.trans stub) (by decide)
    · right
      refine ⟨?_, sound.variant.symm.trans variant, zero.1 ratio⟩
      obtain ⟨source, mode, -⟩ := accepts.grounded
      unfold ModeAccepts at mode
      split at mode
      · obtain ⟨evidence, -, -, rules⟩ := mode
        have claimed := rules.codes.1
        rw [show output.reasonCodes = [.catalogTagAlignment] from codes] at claimed
        simp at claimed
      · assumption
    · exact .inl (quotedCodes_ne_nil_iff.1 quoted)
  · rintro (claimed | low)
    · exact .inr (.inr (quotedCodes_ne_nil_iff.2 claimed))
    · obtain ⟨source, mode, -⟩ := accepts.grounded
      rw [ModeAccepts, low.1] at mode
      have rules := mode.2
      rw [if_pos low] at rules
      have codes := eq_singleton_of_nodup accepts.valid.codesUnique nonempty rules.onlyCatalog
      obtain ⟨i, hi, code⟩ := List.mem_map.1 rules.quality
      exact .inr (.inl ⟨sound.variant.trans low.2.1, ⟨zero.2 low.2.2, codes⟩, i, hi, code⟩)

/-- The decision a job makes of an accepted output is shown exactly under that condition. -/
theorem job_shown_iff (sound : job.Sound) {raw : RawOutput} {decision : RecommendationDecisionV2}
    (gate : validateCentralOutput casefold raw job.request = .ok output)
    (run : job.run casefold (.returned raw) = .ok decision)
    (hproduct : product ∈ job.request.products)
    (selected : decision.selectedProductId = some product.productId) :
    (presentCentralRecommendation decision product).isOk = true ↔
      (∃ c ∈ output.reasonCodes, c ≠ .catalogTagAlignment) ∨ job.request.lowSignal := by
  obtain ⟨-, accepts⟩ := validateCentralOutput_ok_iff.1 gate
  rw [sound.run_accepted gate] at run
  cases run
  have own : product.productId = output.productId := (Option.some.inj selected).symm
  rw [presentCentralRecommendation_ok_iff (shown_of_accepts sound accepts hproduct own),
    presentable_of_accepts_iff sound accepts]

end Output

section Fallback

variable {hashing : Hashing} {config : StoreConfig} {context : SessionRecommendationContext}
  {client : CentralRecommendationClient} {accepted : RecommendationAcceptedV2}
  {version : RecommendationVersionV2} {p : Prepared} {decision : RecommendationDecisionV2}
  {product : ProductRecommendationItemV2}

/-- The fallback is about a product of the catalog. -/
theorem fallbackGround_mem {evidence : RecommendationEvidenceV2} {reference : EvidenceReferenceV2}
    {first : ProductRecommendationItemV2} (hfirst : first ∈ context.products)
    (h : fallbackGround context evidence first = some (reference, product)) :
    product ∈ context.products := by
  unfold fallbackGround at h
  split at h
  · split at h <;> cases h
    exact hfirst
  · split at h <;> cases h
    rename_i window _ _
    cases found : context.products.find? fun item => item.productId = window.productId with
    | none => exact hfirst
    | some item => exact List.mem_of_find?_eq_some found

/-- The demo fallback is shown exactly when no gaze was valid. -/
theorem fallback_shown_iff (model : p.version.modelId = client.modelId)
    (h : demoFallbackDecision config context client accepted p.summary p.version = .ok (some decision))
    (hproduct : product ∈ context.products)
    (selected : decision.selectedProductId = some product.productId) :
    (presentCentralRecommendation decision product).isOk = true ↔
      p.summary.dataQuality.gazeValidRatio = 0 := by
  obtain ⟨reference, chosen, ground, -, stub, rfl, -⟩ := demoFallbackDecision_some h
  have hchosen := fallbackGround_mem (List.head_mem _) ground
  have same : chosen.productId = product.productId := Option.some.inj selected
  obtain rfl := product_unique context.productsUnique hchosen hproduct same
  have tags := chosen.tagsBounded.1
  have shown : Shown (fallbackDecision accepted reference chosen p.summary.dataQuality p.version)
      chosen := by
    refine ⟨rfl, rfl, ⟨_, rfl, ?_, fun t ht => List.mem_of_mem_take ht⟩, ⟨_, rfl⟩, ?_, ?_⟩
    · rw [← List.length_pos_iff, List.length_take]
      omega
    · simp [fallbackDecision]
    · simp [fallbackDecision]
  rw [presentCentralRecommendation_ok_iff shown]
  constructor
  · rintro (⟨-, ratio, -⟩ | ⟨-, ⟨ratio, -⟩, -⟩ | quoted)
    · exact ratio
    · exact ratio
    · simp [quotedCodes, fallbackDecision] at quoted
  · exact fun ratio => .inl ⟨model.trans stub, ratio, rfl⟩

end Fallback

/-- **Which completed decisions are shown**. The decision a job makes of an accepted output is
shown exactly when the output claims more than the catalog or the request is of the low-signal
mode; a demo fallback is shown exactly when no gaze was valid. -/
theorem completed_shown_iff (env : StoreEnv) (client : CentralRecommendationClient) :
    (∀ states states' now sessionId record jobId accepted job,
      beginCompletion env states now sessionId record client jobId =
        (.ok (accepted, some job), states') →
      ∀ raw output decision, validateCentralOutput env.casefold raw job.request = .ok output →
        job.run env.casefold (.returned raw) = .ok decision →
        ∀ product ∈ job.request.products, decision.selectedProductId = some product.productId →
          ((presentCentralRecommendation decision product).isOk = true ↔
            (∃ c ∈ output.reasonCodes, c ≠ .catalogTagAlignment) ∨ job.request.lowSignal)) ∧
    (∀ context accepted version snapshot hits p decision,
      startIds env.hashing env.config context client = .ok (accepted, version) →
      prepare env.config context accepted version snapshot hits = .ok p →
      demoFallbackDecision env.config context client accepted p.summary p.version =
        .ok (some decision) →
      ∀ product ∈ context.products, decision.selectedProductId = some product.productId →
        ((presentCentralRecommendation decision product).isOk = true ↔
          p.summary.dataQuality.gazeValidRatio = 0)) := by
  refine ⟨fun _ _ _ _ _ _ _ _ h _ _ _ gate run _ hproduct selected =>
    job_shown_iff (beginCompletion_sound h) gate run hproduct selected, ?_⟩
  intro context accepted version snapshot hits p decision ids prepared h product hproduct selected
  have model : p.version.modelId = client.modelId := by
    rw [(prepare_sound prepared).version, startIds_version ids]
  exact fallback_shown_iff model h hproduct selected

/-- The decision about the glance, shown when the output claims the attention it cites. -/
theorem completed_shown_glance : ∃ decision,
    (presentCentralRecommendation decision (smallProduct 0)).isOk = true ∧
      decision.reasonCodes = [.observedAttentionLead] := by
  obtain ⟨accepted, job, states', hb, gate⟩ := exists_glance_job
    (fun job => decide (validateCentralOutput foldedText
      (.shaped (glanceOutput [.observedAttentionLead])) job.request =
        .ok (glanceOutput [.observedAttentionLead])) &&
      decide (smallProduct 0 ∈ job.request.products)) (by decide +kernel)
  rw [Bool.and_eq_true, decide_eq_true_eq, decide_eq_true_eq] at gate
  have run := (beginCompletion_sound hb).run_accepted gate.1
  refine ⟨_, ((completed_shown_iff (smallEnv .c false) lunaClient).1 _ _ _ _ _ _ _ _ hb _ _ _ gate.1
    run _ gate.2 rfl).2 (.inl ⟨_, List.mem_cons_self, by decide⟩), rfl⟩

/-- The gate accepts an output that claims the catalog only, the API records the completed
recommendation, and the Kiosk throws. -/
theorem catalog_only_not_shown : ∃ accepted job states' decision,
    beginCompletion (smallEnv .c false) glancedStates 0 "session-0001" (some false) lunaClient
      "job-1" = (.ok (accepted, some job), states') ∧
    validateCentralOutput foldedText (.shaped (glanceOutput [.catalogTagAlignment])) job.request =
      .ok (glanceOutput [.catalogTagAlignment]) ∧
    job.run foldedText (.returned (.shaped (glanceOutput [.catalogTagAlignment]))) = .ok decision ∧
    decision.status = .completed ∧
    presentCentralRecommendation decision (smallProduct 0) =
      .error "A completed decision needs an observation reason code." := by
  obtain ⟨accepted, job, states', hb, test⟩ := exists_glance_job
    (fun job => decide (validateCentralOutput foldedText
      (.shaped (glanceOutput [.catalogTagAlignment])) job.request =
        .ok (glanceOutput [.catalogTagAlignment])) &&
      (match job.run foldedText (.returned (.shaped (glanceOutput [.catalogTagAlignment]))) with
        | .ok decision => decide (decision.status = .completed ∧
            presentCentralRecommendation decision (smallProduct 0) =
              .error "A completed decision needs an observation reason code.")
        | .error _ => false)) (by decide +kernel)
  rw [Bool.and_eq_true, decide_eq_true_eq] at test
  obtain ⟨gate, test⟩ := test
  split at test
  · rename_i decision run
    obtain ⟨status, thrown⟩ := of_decide_eq_true test
    exact ⟨accepted, job, states', decision, hb, gate, run, status, thrown⟩
  · cases test

end Mkk.Kiosk
