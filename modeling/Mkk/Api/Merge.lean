import Mkk.Api.StoreSteps

/-!
# Merging partial observations

A frame can be delivered in parts. Per modality a merge keeps the value that is there, takes
the one that arrives, and refuses two that differ, so what has been merged is the join of
what was delivered: the value if any part had it, else the common reason. `Joins` says this
of one frame and any list of its parts, and a join is determined by the parts alone
(`Joins.unique`).
-/

namespace Mkk.Api

open Lib

/-! ## One modality -/

section Modality

variable {α : Type} {m m' : Modality α} {parts : List (Modality α)}

/-- A value has no reason and a reason no value. -/
abbrev Modality.Xor (m : Modality α) : Prop := ValueXorReason m.1 m.2

/-- What the parts of a modality amount to. -/
structure Modality.JoinOf (parts : List (Modality α)) (m : Modality α) : Prop where
  value : ∀ p ∈ parts, p.1.isSome = true → m = p
  reason : (∀ p ∈ parts, p.1 = none) → ∀ p ∈ parts, m = p

/-- A join is determined by its parts. -/
theorem Modality.JoinOf.unique (h : JoinOf parts m) (h' : JoinOf parts m') (ne : parts ≠ []) :
    m = m' := by
  obtain ⟨p, hp⟩ := List.exists_mem_of_ne_nil _ ne
  by_cases hv : ∃ q ∈ parts, q.1.isSome = true
  · obtain ⟨q, hq, hs⟩ := hv
    rw [h.value q hq hs, h'.value q hq hs]
  · have none : ∀ q ∈ parts, q.1 = none := by simpa using hv
    rw [h.reason none p hp, h'.reason none p hp]

/-- The join of some parts only depends on which parts there are. -/
theorem Modality.JoinOf.of_mem_iff {parts' : List (Modality α)} (h : JoinOf parts m)
    (same : ∀ p, p ∈ parts' ↔ p ∈ parts) : JoinOf parts' m where
  value p hp := h.value p ((same p).1 hp)
  reason none p hp := h.reason (fun q hq => none q ((same q).2 hq)) p ((same p).1 hp)

theorem Modality.JoinOf.single (m : Modality α) : JoinOf [m] m :=
  ⟨fun _ hp _ => (List.mem_singleton.1 hp).symm, fun _ _ hp => (List.mem_singleton.1 hp).symm⟩

variable [DecidableEq α]

/-- What a modality that was merged is: the one that was there if it had a value or nothing
arrived, else the one that arrived. -/
theorem mergeModality_ok {name : String} {current incoming merged : Modality α} {changed : Bool}
    (hc : current.Xor) (hi : incoming.Xor)
    (h : mergeModality name current incoming = .ok (merged, changed)) :
    (merged = current ∧ (incoming.1.isSome = true ∨ current.1 = none → incoming = current)) ∨
      (merged = incoming ∧ current.1 = none ∧ incoming.1.isSome = true) := by
  obtain ⟨old, oldReason⟩ := current
  obtain ⟨new, newReason⟩ := incoming
  cases old with
  | none =>
    cases new with
    | none =>
      simp only [mergeModality] at h
      split_ifs at h with reasons
      cases h
      exact .inl ⟨rfl, fun _ => by simpa [eq_comm] using reasons⟩
    | some b =>
      cases h
      exact .inr ⟨by cases newReason <;> simp_all, rfl, rfl⟩
  | some a =>
    cases new with
    | none =>
      cases h
      exact .inl ⟨rfl, fun h => by simp at h⟩
    | some b =>
      simp only [mergeModality] at h
      split_ifs at h with values
      cases h
      have reasons : oldReason = none ∧ newReason = none := by
        cases oldReason <;> cases newReason <;> simp_all
      exact .inl ⟨rfl, fun _ => by rw [reasons.1, reasons.2, not_not.1 values]⟩

/-- A merge joins the part that arrived. -/
theorem mergeModality_joins {name : String} {current incoming merged : Modality α} {changed : Bool}
    (hc : current.Xor) (hi : incoming.Xor) (ne : parts ≠ []) (join : Modality.JoinOf parts current)
    (h : mergeModality name current incoming = .ok (merged, changed)) :
    Modality.JoinOf (incoming :: parts) merged := by
  rcases mergeModality_ok hc hi h with ⟨rfl, same⟩ | ⟨rfl, missing, arrived⟩
  · refine ⟨fun p hp hs => ?_, fun missing p hp => ?_⟩
    · rcases List.mem_cons.1 hp with rfl | hp
      · exact (same (.inl hs)).symm
      · exact join.value p hp hs
    · have parts_none : ∀ q ∈ parts, q.1 = none := fun q hq => missing q (List.mem_cons_of_mem _ hq)
      obtain ⟨q, hq⟩ := List.exists_mem_of_ne_nil _ ne
      have merged_none : merged.1 = none := by
        rw [join.reason parts_none q hq]; exact parts_none q hq
      rcases List.mem_cons.1 hp with rfl | hp
      · exact (same (.inr merged_none)).symm
      · exact join.reason parts_none p hp
  · have parts_none : ∀ q ∈ parts, q.1 = none := fun q hq => by
      by_contra hs
      rw [join.value q hq (Option.isSome_iff_ne_none.2 hs)] at missing
      exact hs missing
    refine ⟨fun p hp hs => ?_, fun absent p hp => ?_⟩
    · rcases List.mem_cons.1 hp with rfl | hp
      · rfl
      · rw [parts_none p hp] at hs; cases hs
    · rw [absent merged List.mem_cons_self] at arrived
      cases arrived

end Modality

/-! ## One frame -/

namespace FrameObservationV2

def gazeModality (o : FrameObservationV2) : Modality GazeObservationV2 := (o.gaze, o.gazeReason)

def attentionModality (o : FrameObservationV2) : Modality AttentionObservationV2 :=
  (o.attention, o.attentionReason)

def expressionModality (o : FrameObservationV2) : Modality ExpressionObservationV2 :=
  (o.expression, o.expressionReason)

def derivedModality (o : FrameObservationV2) : Modality DerivedObservationV2 :=
  (o.derived, o.derivedReason)

/-- A frame is its context and its modalities. -/
theorem ext_modalities {o o' : FrameObservationV2} (context : o.context = o'.context)
    (gaze : o.gazeModality = o'.gazeModality)
    (attention : o.attentionModality = o'.attentionModality)
    (expression : o.expressionModality = o'.expressionModality)
    (derived : o.derivedModality = o'.derivedModality) : o = o' := by
  cases o
  cases o'
  simp_all [FrameObservationV2.context, gazeModality, attentionModality, expressionModality,
    derivedModality]

end FrameObservationV2

/-- The frame is what the delivered parts of it amount to. -/
structure Joins (parts : List FrameObservationV2) (o : FrameObservationV2) : Prop where
  nonempty : parts ≠ []
  context : ∀ p ∈ parts, o.context = p.context
  gaze : Modality.JoinOf (parts.map (·.gazeModality)) o.gazeModality
  attention : Modality.JoinOf (parts.map (·.attentionModality)) o.attentionModality
  expression : Modality.JoinOf (parts.map (·.expressionModality)) o.expressionModality
  derived : Modality.JoinOf (parts.map (·.derivedModality)) o.derivedModality

section Joins

variable {parts parts' : List FrameObservationV2} {o o' : FrameObservationV2}

theorem Joins.single (o : FrameObservationV2) : Joins [o] o where
  nonempty := by simp
  context p hp := by rw [List.mem_singleton.1 hp]
  gaze := .single _
  attention := .single _
  expression := .single _
  derived := .single _

/-- A joined frame is determined by its parts. -/
theorem Joins.unique (h : Joins parts o) (h' : Joins parts o') : o = o' := by
  obtain ⟨p, hp⟩ := List.exists_mem_of_ne_nil _ h.nonempty
  refine FrameObservationV2.ext_modalities ((h.context p hp).trans (h'.context p hp).symm)
    (h.gaze.unique h'.gaze ?_) (h.attention.unique h'.attention ?_)
    (h.expression.unique h'.expression ?_) (h.derived.unique h'.derived ?_) <;>
  simpa using h.nonempty

theorem mem_map_iff_of_mem_iff {α β : Type} {l l' : List α} (same : ∀ a, a ∈ l' ↔ a ∈ l) (f : α → β)
    (b : β) : b ∈ l'.map f ↔ b ∈ l.map f := by
  simp [same]

theorem Joins.of_mem_iff (h : Joins parts o) (same : ∀ p, p ∈ parts' ↔ p ∈ parts) :
    Joins parts' o where
  nonempty := by
    obtain ⟨p, hp⟩ := List.exists_mem_of_ne_nil _ h.nonempty
    exact List.ne_nil_of_mem ((same p).2 hp)
  context p hp := h.context p ((same p).1 hp)
  gaze := h.gaze.of_mem_iff (mem_map_iff_of_mem_iff same _)
  attention := h.attention.of_mem_iff (mem_map_iff_of_mem_iff same _)
  expression := h.expression.of_mem_iff (mem_map_iff_of_mem_iff same _)
  derived := h.derived.of_mem_iff (mem_map_iff_of_mem_iff same _)

/-- The four merges of `_merge_observation`, and the context they keep. -/
structure Merged (current incoming merged : FrameObservationV2) : Prop where
  context : current.context = incoming.context
  kept : merged.context = current.context
  gaze : ∃ c, mergeModality "gaze" current.gazeModality incoming.gazeModality =
    .ok (merged.gazeModality, c)
  attention : ∃ c, mergeModality "attention" current.attentionModality incoming.attentionModality =
    .ok (merged.attentionModality, c)
  expression : ∃ c, mergeModality "expression" current.expressionModality
    incoming.expressionModality = .ok (merged.expressionModality, c)
  derived : ∃ c, mergeModality "derived" current.derivedModality incoming.derivedModality =
    .ok (merged.derivedModality, c)

/-- **Every result of `_merge_observation`**. -/
theorem mergeObservation_ok {current incoming merged : FrameObservationV2} {changed : Bool}
    (h : mergeObservation current incoming = .ok (merged, changed)) :
    Merged current incoming merged := by
  unfold mergeObservation at h
  split at h
  · cases h
  · rename_i context
    obtain ⟨⟨gaze, c₁⟩, hgaze, h⟩ := bind_eq_ok_iff.1 h
    obtain ⟨⟨expression, c₂⟩, hexpression, h⟩ := bind_eq_ok_iff.1 h
    obtain ⟨⟨attention, c₃⟩, hattention, h⟩ := bind_eq_ok_iff.1 h
    obtain ⟨⟨derived, c₄⟩, hderived, h⟩ := bind_eq_ok_iff.1 h
    cases h
    exact ⟨not_not.1 context, rfl, ⟨c₁, hgaze⟩, ⟨c₃, hattention⟩, ⟨c₂, hexpression⟩, ⟨c₄, hderived⟩⟩

/-- A merge joins the part that arrived. -/
theorem Merged.joins {current incoming merged : FrameObservationV2} (h : Merged current incoming merged)
    (hc : current.ValueXorReasons) (hi : incoming.ValueXorReasons) (join : Joins parts current) :
    Joins (incoming :: parts) merged := by
  have ne {β : Type} (f : FrameObservationV2 → β) : parts.map f ≠ [] := by simpa using join.nonempty
  obtain ⟨_, hgaze⟩ := h.gaze
  obtain ⟨_, hattention⟩ := h.attention
  obtain ⟨_, hexpression⟩ := h.expression
  obtain ⟨_, hderived⟩ := h.derived
  exact {
    nonempty := List.cons_ne_nil _ _
    context := fun p hp => by
      rcases List.mem_cons.1 hp with rfl | hp
      · exact h.kept.trans h.context
      · exact h.kept.trans (join.context p hp)
    gaze := mergeModality_joins hc.gaze hi.gaze (ne _) join.gaze hgaze
    attention := mergeModality_joins hc.attention hi.attention (ne _) join.attention hattention
    expression := mergeModality_joins hc.expression hi.expression (ne _) join.expression hexpression
    derived := mergeModality_joins hc.derived hi.derived (ne _) join.derived hderived }

/-- The merged modality is one of the two that were merged. -/
theorem mergeModality_source {α : Type} [DecidableEq α] {name : String}
    {current incoming merged : Modality α} {changed : Bool} (hc : current.Xor) (hi : incoming.Xor)
    (h : mergeModality name current incoming = .ok (merged, changed)) :
    merged = current ∨ merged = incoming :=
  (mergeModality_ok hc hi h).imp And.left And.left

/-- A merge of valid frames is valid, although nothing checks it again. -/
theorem Merged.valid {current incoming merged : FrameObservationV2} (h : Merged current incoming merged)
    (hc : current.Valid) (hi : incoming.Valid) : merged.Valid := by
  have context := h.kept
  simp only [FrameObservationV2.context, Prod.mk.injEq] at context
  obtain ⟨frameId, -, captured, offset, -, -⟩ := context
  obtain ⟨_, hgaze⟩ := h.gaze
  obtain ⟨_, hattention⟩ := h.attention
  obtain ⟨_, hexpression⟩ := h.expression
  obtain ⟨_, hderived⟩ := h.derived
  have gaze := mergeModality_source hc.xor.gaze hi.xor.gaze hgaze
  have attention := mergeModality_source hc.xor.attention hi.xor.attention hattention
  have expression := mergeModality_source hc.xor.expression hi.xor.expression hexpression
  have derived := mergeModality_source hc.xor.derived hi.xor.derived hderived
  simp only [FrameObservationV2.gazeModality, FrameObservationV2.attentionModality,
    FrameObservationV2.expressionModality, FrameObservationV2.derivedModality, Prod.mk.injEq]
    at gaze attention expression derived
  exact {
    frameId := frameId ▸ hc.frameId
    capturedAtMonoMs := captured ▸ hc.capturedAtMonoMs
    sessionOffsetMs := offset ▸ hc.sessionOffsetMs
    gaze := by rcases gaze with ⟨e, -⟩ | ⟨e, -⟩ <;> rw [e] <;> [exact hc.gaze; exact hi.gaze]
    attention := by
      rcases attention with ⟨e, -⟩ | ⟨e, -⟩ <;> rw [e] <;> [exact hc.attention; exact hi.attention]
    expression := by
      rcases expression with ⟨e, -⟩ | ⟨e, -⟩ <;> rw [e] <;> [exact hc.expression; exact hi.expression]
    derived := by
      rcases derived with ⟨e, -⟩ | ⟨e, -⟩ <;> rw [e] <;> [exact hc.derived; exact hi.derived]
    gazeReasonOk := by
      rcases gaze with ⟨-, e⟩ | ⟨-, e⟩ <;> rw [e] <;> [exact hc.gazeReasonOk; exact hi.gazeReasonOk]
    attentionReasonOk := by
      rcases attention with ⟨-, e⟩ | ⟨-, e⟩ <;> rw [e] <;>
        [exact hc.attentionReasonOk; exact hi.attentionReasonOk]
    expressionReasonOk := by
      rcases expression with ⟨-, e⟩ | ⟨-, e⟩ <;> rw [e] <;>
        [exact hc.expressionReasonOk; exact hi.expressionReasonOk]
    derivedReasonOk := by
      rcases derived with ⟨-, e⟩ | ⟨-, e⟩ <;> rw [e] <;>
        [exact hc.derivedReasonOk; exact hi.derivedReasonOk]
    xor := {
      gaze := by
        rcases gaze with ⟨e, e'⟩ | ⟨e, e'⟩ <;> rw [e, e'] <;> [exact hc.xor.gaze; exact hi.xor.gaze]
      attention := by
        rcases attention with ⟨e, e'⟩ | ⟨e, e'⟩ <;> rw [e, e'] <;>
          [exact hc.xor.attention; exact hi.xor.attention]
      expression := by
        rcases expression with ⟨e, e'⟩ | ⟨e, e'⟩ <;> rw [e, e'] <;>
          [exact hc.xor.expression; exact hi.xor.expression]
      derived := by
        rcases derived with ⟨e, e'⟩ | ⟨e, e'⟩ <;> rw [e, e'] <;>
          [exact hc.xor.derived; exact hi.xor.derived] } }

/-- A merged frame that has attention has gaze, when its parts do. -/
theorem Joins.attention_gaze (h : Joins parts o)
    (each : ∀ p ∈ parts, p.attention.isSome = true → p.gaze.isSome = true)
    (attention : o.attention.isSome = true) : o.gaze.isSome = true := by
  obtain ⟨p, hp, hs⟩ : ∃ p ∈ parts, p.attention.isSome = true := by
    by_contra hnone
    have none : ∀ q ∈ parts.map (·.attentionModality), q.1 = none := by
      simpa [FrameObservationV2.attentionModality] using hnone
    obtain ⟨p, hp⟩ := List.exists_mem_of_ne_nil _ h.nonempty
    have := h.attention.reason none _ (List.mem_map_of_mem hp)
    rw [show o.attention = p.attention from congrArg Prod.fst this] at attention
    exact hnone ⟨p, hp, attention⟩
  have := h.gaze.value _ (List.mem_map_of_mem hp) (each p hp hs)
  rw [show o.gaze = p.gaze from congrArg Prod.fst this]
  exact each p hp hs

end Joins

end Mkk.Api
