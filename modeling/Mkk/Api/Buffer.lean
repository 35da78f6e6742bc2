import Mkk.Api.Merge

/-!
# The buffer of a collecting session

`append_batch` rebuilds nine coupled structures from prospective copies. `Prospective.Holds`
is what the loop over a batch keeps, with the delivered parts as a history variable, and
`BufferInv` is what holds of the state once the checks after the loop have passed
(`Tracks.append`, `bufferInv`).
-/

namespace Mkk.Api

open Lib

/-! ## The checks after the loop -/

section Checks

theorem movesBack_eq_false_iff {α : Type} [LinearOrder α] {l : List α} :
    movesBack l = false ↔ l.Pairwise (· ≤ ·) := by
  have chain : movesBack l = false ↔ l.IsChain (· ≤ ·) := by
    induction l with
    | nil => simp [movesBack]
    | cons a rest ih =>
      cases rest with
      | nil => simp [movesBack]
      | cons b rest =>
        rw [List.isChain_cons_cons, ← ih]
        simp [movesBack]
  exact chain.trans List.isChain_iff_pairwise

theorem get?_epochFrames (frames : List FrameObservationV2) (e : ℕ) :
    (epochFrames frames).get? e =
      let own := frames.filter fun f => f.playbackEpoch = e
      if own = [] then none else some own := by
  rw [epochFrames, Dict.get?_accumulate, Dict.gather_list]
  simp

/-- The video times are ordered inside each epoch, and the last one of each epoch is kept. -/
theorem lastVideoTimes_ok {frames : List FrameObservationV2} {last last' : Dict ℕ ℕ}
    (h : lastVideoTimes frames last = .ok last') (e : ℕ) :
    let own := frames.filter fun f => f.playbackEpoch = e
    (videoTimes own).Pairwise (· ≤ ·) ∧
      last'.get? e = if own = [] then last.get? e else some ((videoTimes own).max?.getD 0) := by
  obtain ⟨ordered, rfl⟩ := foldlM_checked h
  have fold : ∀ (l : List (ℕ × List FrameObservationV2)) (d : Dict ℕ ℕ),
      l.foldl (fun d e => d.set e.1 ((videoTimes e.2).max?.getD 0)) d =
      l.foldl (Dict.insertWith Prod.fst fun _ e => (videoTimes e.2).max?.getD 0) d := fun _ _ => rfl
  have lookup := get?_epochFrames frames e
  dsimp only at lookup ⊢
  rw [fold, Dict.get?_foldl_insertWith]
  by_cases hown : (frames.filter fun f => f.playbackEpoch = e) = []
  · rw [if_pos hown] at lookup ⊢
    have none : (epochFrames frames).entries.filter (fun a => a.1 = e) = [] := by
      rw [List.filter_eq_nil_iff]
      intro a ha hae
      have := Dict.mem_entries_iff.1 (show (a.1, a.2) ∈ _ from ha)
      rw [show a.1 = e by simpa using hae, lookup] at this
      cases this
    rw [none, hown]
    exact ⟨by simp [videoTimes], rfl⟩
  · rw [if_neg hown] at lookup ⊢
    have entry := Dict.mem_entries_iff.2 lookup
    refine ⟨movesBack_eq_false_iff.1 (ordered _ entry), Dict.gather_const ?_ ?_⟩
    · exact List.ne_nil_of_mem (List.mem_filter.2 ⟨entry, by simp⟩)
    · intro a ha
      obtain ⟨hmem, hae⟩ := List.mem_filter.1 ha
      have hget := Dict.mem_entries_iff.1 (show (a.1, a.2) ∈ _ from hmem)
      rw [show a.1 = e by simpa using hae, lookup] at hget
      rw [Option.some.inj hget]

/-- What a buffer's hits have to be. -/
def HitsResolved (context : SessionRecommendationContext)
    (observations : Dict (ℕ × String) FrameObservationV2)
    (hits : Dict (ℕ × String) (List ResolvedSourceAoiHit)) : Prop :=
  match context.sourceApproved with
  | none => hits = Dict.empty
  | some _ => ∀ k, (hits.get? k).map Except.ok =
      (observations.get? k).map fun o => resolveSourceAoiHits o context.sourceAoiBindings

theorem resolveHits_ok {context : SessionRecommendationContext}
    {observations : Dict (ℕ × String) FrameObservationV2}
    {hits : Dict (ℕ × String) (List ResolvedSourceAoiHit)}
    (keyed : ∀ k o, observations.get? k = some o → o.key = k)
    (h : resolveHits context observations.values = .ok hits) :
    HitsResolved context observations hits := by
  unfold resolveHits at h
  unfold HitsResolved
  cases hsource : context.sourceApproved with
  | none => rw [hsource] at h; cases h; rfl
  | some m =>
    rw [hsource] at h
    obtain ⟨items, hitems, h⟩ := bind_eq_ok_iff.1 h
    cases h
    -- the item of a key is the one its observation was resolved to
    have item {e : (ℕ × String) × List ResolvedSourceAoiHit} (he : e ∈ items) :
        ∃ o, observations.get? e.1 = some o ∧
          resolveSourceAoiHits o context.sourceAoiBindings = .ok e.2 := by
      obtain ⟨o, ho, hf⟩ := mapM_mem hitems he
      obtain ⟨r, hr, hf⟩ := bind_eq_ok_iff.1 hf
      cases hf
      obtain ⟨k, hk⟩ := Dict.mem_values_iff.1 ho
      exact ⟨o, keyed k o hk ▸ hk, hr⟩
    intro k
    rw [Dict.get?_accumulate]
    cases ho : observations.get? k with
    | none =>
      have none : items.filter (fun e => e.1 = k) = [] := by
        rw [List.filter_eq_nil_iff]
        intro e he hek
        obtain ⟨o, hget, -⟩ := item he
        rw [show e.1 = k by simpa using hek, ho] at hget
        cases hget
      rw [none]
      rfl
    | some o =>
      obtain ⟨e, he, hf⟩ := mapM_of_mem hitems (Dict.mem_values_iff.2 ⟨k, ho⟩)
      obtain ⟨r, hr, hf⟩ := bind_eq_ok_iff.1 hf
      cases hf
      rw [Dict.gather_const (v := r) (List.ne_nil_of_mem (List.mem_filter.2 ⟨he, by
        simpa using keyed k o ho⟩)) fun a ha => ?_]
      · simp [hr]
      · obtain ⟨hmem, hak⟩ := List.mem_filter.1 ha
        obtain ⟨o', hget, hr'⟩ := item hmem
        rw [show a.1 = k by simpa using hak, ho] at hget
        cases hget
        rw [hr] at hr'
        exact (Except.ok.inj hr').symm

end Checks

/-! ## The loop over a batch -/

/-- The highest epoch is the maximum over the observations, `-1` without any. -/
structure HighestEpoch (observations : Dict (ℕ × String) FrameObservationV2) (highest : ℤ) : Prop where
  bound : ∀ k o, observations.get? k = some o → (o.playbackEpoch : ℤ) ≤ highest
  attained : (∀ k, observations.get? k = none) ∧ highest = -1 ∨
    ∃ k o, observations.get? k = some o ∧ (o.playbackEpoch : ℤ) = highest

/-- What the prospective copies hold once the parts have been delivered. -/
structure Prospective.Holds (parts : List FrameObservationV2) (p : Prospective) : Prop where
  bounded : p.observations.size ≤ maxBufferedObservations
  joins : ∀ k o, p.observations.get? k = some o → Joins (parts.filter fun f => f.key = k) o
  covers : ∀ f ∈ parts, (p.observations.get? f.key).isSome = true
  valid : ∀ k o, p.observations.get? k = some o → o.Valid
  sequences : ∀ n k, p.sequenceIndex.get? n = some k ↔
    ∃ o, p.observations.get? k = some o ∧ o.sequence = n
  highest : HighestEpoch p.observations p.highestEpoch

section Read

variable {parts : List FrameObservationV2} {p p' : Prospective} {o : FrameObservationV2}

theorem context_key {o o' : FrameObservationV2} (h : o.context = o'.context) : o.key = o'.key := by
  simp only [FrameObservationV2.context, Prod.mk.injEq] at h
  simp only [FrameObservationV2.key, h.1, h.2.2.2.2.2]

/-- A joined frame is stored under its own key. -/
theorem Prospective.Holds.keyed (h : p.Holds parts) {k : ℕ × String}
    (hk : p.observations.get? k = some o) : o.key = k := by
  have join := h.joins k o hk
  obtain ⟨f, hf⟩ := List.exists_mem_of_ne_nil _ join.nonempty
  rw [context_key (join.context f hf)]
  simpa using (List.mem_filter.1 hf).2

/-- **Every result of reading one observation**. -/
theorem Prospective.read_cases (h : p.read o = .ok p') :
    (∀ k ∈ p.sequenceIndex.get? o.sequence, k = o.key) ∧
      ((p.observations.get? o.key = none ∧ p.highestEpoch ≤ o.playbackEpoch ∧
          p.observations.size < maxBufferedObservations ∧
          p' = ⟨p.observations.set o.key o, p.sequenceIndex.set o.sequence o.key,
            max p.highestEpoch o.playbackEpoch, true⟩) ∨
        ∃ current merged changed, p.observations.get? o.key = some current ∧
          mergeObservation current o = .ok (merged, changed) ∧
          p' = { p with
            observations := p.observations.set o.key merged
            changed := p.changed || changed }) := by
  unfold Prospective.read at h
  split at h
  · cases h
  · rename_i sequence
    refine ⟨by simpa using sequence, ?_⟩
    split at h
    · rename_i absent
      split_ifs at h with stale full
      cases h
      exact .inl ⟨absent, not_lt.1 stale, not_le.1 full, rfl⟩
    · rename_i current hcurrent
      obtain ⟨⟨merged, changed⟩, hmerge, h⟩ := bind_eq_ok_iff.1 h
      cases h
      exact .inr ⟨current, merged, changed, hcurrent, hmerge, rfl⟩

/-- A new observation is stored beside the others. -/
theorem Prospective.Holds.insert (h : p.Holds parts) (valid : o.Valid)
    (sequence : ∀ k ∈ p.sequenceIndex.get? o.sequence, k = o.key)
    (absent : p.observations.get? o.key = none) (recent : p.highestEpoch ≤ o.playbackEpoch)
    (room : p.observations.size < maxBufferedObservations) (changed : Bool) :
    Prospective.Holds (o :: parts) ⟨p.observations.set o.key o, p.sequenceIndex.set o.sequence o.key,
      max p.highestEpoch o.playbackEpoch, changed⟩ where
  bounded := by
    show (p.observations.set o.key o).size ≤ _
    rw [Dict.size_set_of_get?_none absent]
    omega
  joins k o' hk := by
    by_cases hkey : k = o.key
    · subst hkey
      rw [Dict.get?_set_self] at hk
      cases hk
      have none : parts.filter (fun f => f.key = o.key) = [] := by
        rw [List.filter_eq_nil_iff]
        intro f hf hfk
        have := h.covers f hf
        rw [show f.key = o.key by simpa using hfk, absent] at this
        cases this
      rw [List.filter_cons_of_pos (by simp), none]
      exact .single o
    · rw [Dict.get?_set_ne _ hkey] at hk
      rw [List.filter_cons_of_neg (by simpa using Ne.symm hkey)]
      exact h.joins k o' hk
  covers f hf := by
    by_cases hkey : f.key = o.key
    · rw [hkey, Dict.get?_set_self]; rfl
    · rw [Dict.get?_set_ne _ hkey]
      rcases List.mem_cons.1 hf with rfl | hf
      · exact (hkey rfl).elim
      · exact h.covers f hf
  valid k o' hk := by
    by_cases hkey : k = o.key
    · subst hkey
      rw [Dict.get?_set_self] at hk
      cases hk
      exact valid
    · rw [Dict.get?_set_ne _ hkey] at hk
      exact h.valid k o' hk
  sequences n k := by
    -- the sequence number was free, since its frame would have been stored
    have free : p.sequenceIndex.get? o.sequence = none := by
      by_contra hne
      obtain ⟨k', hk'⟩ := Option.ne_none_iff_exists'.1 hne
      obtain ⟨o', ho', -⟩ := (h.sequences _ _).1 hk'
      rw [sequence k' hk', absent] at ho'
      cases ho'
    by_cases hn : n = o.sequence
    · subst hn
      rw [Dict.get?_set_self]
      constructor
      · intro hk
        cases hk
        exact ⟨o, Dict.get?_set_self .., rfl⟩
      · rintro ⟨o', ho', hs⟩
        by_cases hkey : k = o.key
        · rw [hkey]
        · rw [Dict.get?_set_ne _ hkey] at ho'
          have := (h.sequences _ k).2 ⟨o', ho', hs⟩
          rw [free] at this
          cases this
    · rw [Dict.get?_set_ne _ hn, h.sequences n k]
      constructor
      · rintro ⟨o', ho', hs⟩
        have hkey : k ≠ o.key := by
          rintro rfl
          rw [absent] at ho'
          cases ho'
        exact ⟨o', by rwa [Dict.get?_set_ne _ hkey], hs⟩
      · rintro ⟨o', ho', hs⟩
        by_cases hkey : k = o.key
        · subst hkey
          rw [Dict.get?_set_self] at ho'
          cases ho'
          exact (hn hs.symm).elim
        · rw [Dict.get?_set_ne _ hkey] at ho'
          exact ⟨o', ho', hs⟩
  highest := by
    rw [max_eq_right recent]
    refine ⟨fun k o' hk => ?_, .inr ⟨o.key, o, Dict.get?_set_self .., rfl⟩⟩
    by_cases hkey : k = o.key
    · subst hkey
      rw [Dict.get?_set_self] at hk
      cases hk
      exact le_refl _
    · rw [Dict.get?_set_ne _ hkey] at hk
      exact (h.highest.bound k o' hk).trans recent

/-- A part of a stored observation is merged into it. -/
theorem Prospective.Holds.merge (h : p.Holds parts) (valid : o.Valid)
    {current merged : FrameObservationV2} (hcurrent : p.observations.get? o.key = some current)
    (hmerge : Merged current o merged) (changed : Bool) :
    Prospective.Holds (o :: parts)
      { p with observations := p.observations.set o.key merged, changed := changed } := by
  have same := hmerge.kept
  simp only [FrameObservationV2.context, Prod.mk.injEq] at same
  obtain ⟨-, sameSequence, -, -, -, sameEpoch⟩ := same
  exact {
    bounded := by
      show (p.observations.set o.key merged).size ≤ _
      rw [Dict.size_set_of_get?_some hcurrent]
      exact h.bounded
    joins := fun k o' hk => by
      by_cases hkey : k = o.key
      · subst hkey
        rw [Dict.get?_set_self] at hk
        cases hk
        rw [List.filter_cons_of_pos (by simp)]
        exact hmerge.joins (h.valid _ _ hcurrent).xor valid.xor (h.joins _ _ hcurrent)
      · rw [Dict.get?_set_ne _ hkey] at hk
        rw [List.filter_cons_of_neg (by simpa using Ne.symm hkey)]
        exact h.joins k o' hk
    covers := fun f hf => by
      by_cases hkey : f.key = o.key
      · rw [hkey, Dict.get?_set_self]; rfl
      · rw [Dict.get?_set_ne _ hkey]
        rcases List.mem_cons.1 hf with rfl | hf
        · exact (hkey rfl).elim
        · exact h.covers f hf
    valid := fun k o' hk => by
      by_cases hkey : k = o.key
      · subst hkey
        rw [Dict.get?_set_self] at hk
        cases hk
        exact hmerge.valid (h.valid _ _ hcurrent) valid
      · rw [Dict.get?_set_ne _ hkey] at hk
        exact h.valid k o' hk
    sequences := fun n k => by
      rw [h.sequences n k]
      by_cases hkey : k = o.key
      · subst hkey
        simp only [Dict.get?_set_self, hcurrent, Option.some.injEq, exists_eq_left', sameSequence]
      · simp only [Dict.get?_set_ne _ hkey]
    highest := by
      refine ⟨fun k o' hk => ?_, ?_⟩
      · by_cases hkey : k = o.key
        · subst hkey
          rw [Dict.get?_set_self] at hk
          cases hk
          rw [sameEpoch]
          exact h.highest.bound _ _ hcurrent
        · rw [Dict.get?_set_ne _ hkey] at hk
          exact h.highest.bound k o' hk
      · rcases h.highest.attained with ⟨none, -⟩ | ⟨k, o', hk, he⟩
        · rw [none] at hcurrent; cases hcurrent
        · by_cases hkey : k = o.key
          · subst hkey
            rw [hcurrent] at hk
            cases hk
            exact .inr ⟨o.key, merged, Dict.get?_set_self .., by rw [sameEpoch]; exact he⟩
          · exact .inr ⟨k, o', by rwa [Dict.get?_set_ne _ hkey], he⟩ }

/-- **One observation** joins what the copies hold. -/
theorem Prospective.Holds.read (h : p.Holds parts) (valid : o.Valid) (hread : p.read o = .ok p') :
    p'.Holds (o :: parts) := by
  obtain ⟨sequence, ⟨absent, recent, room, rfl⟩ | ⟨current, merged, changed, hcurrent, hmerge, rfl⟩⟩ :=
    Prospective.read_cases hread
  · exact h.insert valid sequence absent recent room true
  · exact h.merge valid hcurrent (mergeObservation_ok hmerge) _

/-- A whole batch joins what the copies hold. -/
theorem Prospective.Holds.readAll {batch : List FrameObservationV2} (h : p.Holds parts)
    (valid : ∀ o ∈ batch, o.Valid) (hread : batch.foldlM Prospective.read p = .ok p') :
    p'.Holds (batch.reverse ++ parts) := by
  induction batch generalizing p parts with
  | nil => cases hread; exact h
  | cons o rest ih =>
    rw [List.foldlM_cons] at hread
    obtain ⟨p₁, h₁, hread⟩ := bind_eq_ok_iff.1 hread
    have := ih (h.read (valid o List.mem_cons_self) h₁)
      (fun o' ho' => valid o' (List.mem_cons_of_mem _ ho')) hread
    simpa using this

end Read

/-! ## The state after a batch -/

/-- The delivered parts are all that the state has taken in. -/
structure Tracks (context : SessionRecommendationContext) (parts : List FrameObservationV2)
    (s : V2SessionState) : Prop where
  holds : s.prospective.Holds parts
  attention : ∀ f ∈ parts, f.attention.isSome = true → f.gaze.isSome = true
  offsets : (ordered s.observations.values).Pairwise fun f g => f.sessionOffsetMs ≤ g.sessionOffsetMs
  epochTimes : ∀ e, (videoTimes (s.observations.values.filter fun f => f.playbackEpoch = e)).Pairwise
    (· ≤ ·)
  lastTimes : ∀ e, s.lastVideoTimeByEpoch.get? e =
    (videoTimes (s.observations.values.filter fun f => f.playbackEpoch = e)).max?
  hits : HitsResolved context s.observations s.resolvedSourceHits
  batchIds : ∀ b, (∃ n, s.batchSequenceIndex.get? n = some b) ↔ b ∈ s.batchFingerprints.keys
  batchSequences : ∀ n n' b, s.batchSequenceIndex.get? n = some b →
    s.batchSequenceIndex.get? n' = some b → n = n'

section Append

variable {config : StoreConfig} {context : SessionRecommendationContext} {fingerprint : String}
  {now : ℚ} {batch : ObservationBatchV2} {s s' : V2SessionState} {parts : List FrameObservationV2}

theorem Tracks.fresh (config : StoreConfig) (context : SessionRecommendationContext) (now : ℚ) :
    Tracks context [] (.fresh config now) where
  holds := {
    bounded := Nat.zero_le _
    joins := fun _ _ h => nomatch h
    covers := fun _ h => nomatch h
    valid := fun _ _ h => nomatch h
    sequences := fun n k => ⟨fun h => (nomatch h), fun ⟨_, h, _⟩ => nomatch h⟩
    highest := ⟨fun _ _ h => (nomatch h), .inl ⟨fun _ => rfl, rfl⟩⟩ }
  attention := fun _ h => nomatch h
  offsets := by simp [V2SessionState.fresh, ordered]
  epochTimes := fun e => by simp [V2SessionState.fresh, videoTimes]
  lastTimes := fun e => by simp [V2SessionState.fresh, videoTimes]
  hits := by unfold HitsResolved; cases context.sourceApproved <;> simp [V2SessionState.fresh]
  batchIds := fun b => by simp [V2SessionState.fresh]
  batchSequences := fun _ _ _ h => nomatch h

/-- What is checked of each observation before the lock. -/
theorem checkObservation_gaze {o : FrameObservationV2}
    (h : (checkObservation context o).isOk = true) (attention : o.attention.isSome = true) :
    o.gaze.isSome = true := by
  obtain ⟨_, h, -⟩ := bind_isOk_iff.1 h
  obtain ⟨a, ha⟩ := Option.isSome_iff_exists.1 attention
  rw [checkAttention, ha] at h
  dsimp only at h
  split_ifs at h with hgaze
  exact Option.isSome_iff_ne_none.2 hgaze

/-- Every frame of an old copy is still there in the new one. -/
theorem Prospective.Holds.epochs_mono {p : Prospective} {more : List FrameObservationV2}
    (old : s.prospective.Holds parts) (new : p.Holds (more ++ parts)) {e : ℕ}
    (h : s.observations.values.filter (fun f => f.playbackEpoch = e) ≠ []) :
    p.observations.values.filter (fun f => f.playbackEpoch = e) ≠ [] := by
  obtain ⟨o, ho⟩ := List.exists_mem_of_ne_nil _ h
  obtain ⟨ho, he⟩ := List.mem_filter.1 ho
  obtain ⟨k, hk⟩ := Dict.mem_values_iff.1 ho
  have hkey := old.keyed hk
  obtain ⟨f, hf⟩ := List.exists_mem_of_ne_nil _ (old.joins k o hk).nonempty
  obtain ⟨hf, hfk⟩ := List.mem_filter.1 hf
  obtain ⟨o', ho'⟩ := Option.isSome_iff_exists.1 (new.covers f (List.mem_append_right _ hf))
  rw [show f.key = k by simpa using hfk] at ho'
  refine List.ne_nil_of_mem (List.mem_filter.2 ⟨Dict.mem_values_iff.2 ⟨k, ho'⟩, ?_⟩)
  have same : o'.playbackEpoch = o.playbackEpoch :=
    congrArg Prod.fst ((new.keyed ho').trans hkey.symm)
  simpa [same] using he

/-- **A batch that is read** joins what the state has taken in. -/
theorem Tracks.buffered (tracks : Tracks context parts s) {p : Prospective} {last : Dict ℕ ℕ}
    {hits : Dict (ℕ × String) (List ResolvedSourceAoiHit)}
    (checked : ∀ o ∈ batch.observations, (checkObservation context o).isOk = true)
    (read : BatchRead context batch s p last hits) :
    Tracks context (batch.observations.reverse ++ parts)
      (s.buffered config fingerprint now batch p last hits) := by
  have holds := tracks.holds.readAll batch.framesValid read.read
  have times := lastVideoTimes_ok read.times
  have newId : batch.batchId ∉ s.batchFingerprints.keys := Dict.get?_none_iff.1 read.newId
  have newSequence : s.batchSequenceIndex.get? batch.batchSequence = none := by
    by_contra hne
    obtain ⟨b, hb⟩ := Option.ne_none_iff_exists'.1 hne
    have := (tracks.batchIds b).1 ⟨_, hb⟩
    rw [read.sequence b hb] at this
    exact newId this
  exact {
    holds := ⟨holds.bounded, holds.joins, holds.covers, holds.valid, holds.sequences, holds.highest⟩
    attention := fun f hf => by
      rcases List.mem_append.1 hf with hf | hf
      · exact checkObservation_gaze (checked f (List.mem_reverse.1 hf))
      · exact tracks.attention f hf
    offsets := by
      have := movesBack_eq_false_iff.1 read.offsets
      rwa [List.pairwise_map] at this
    epochTimes := fun e => (times e).1
    lastTimes := fun e => by
      show last.get? e = _
      rw [(times e).2]
      split_ifs with hown
      · have old : s.observations.values.filter (fun f => f.playbackEpoch = e) = [] := by
          by_contra hne
          exact tracks.holds.epochs_mono holds hne hown
        rw [tracks.lastTimes e, old]
        simp [V2SessionState.buffered, hown]
      · have ne : videoTimes (p.observations.values.filter fun f => f.playbackEpoch = e) ≠
            [] := by
          simpa [videoTimes, sortOn_eq_nil] using hown
        obtain ⟨t, ht⟩ := Option.ne_none_iff_exists'.1 (mt List.max?_eq_none_iff.1 ne)
        simp [V2SessionState.buffered, ht]
    hits := resolveHits_ok (fun k o => holds.keyed) read.hits
    batchIds := fun b => by
      show (∃ n, (s.batchSequenceIndex.set batch.batchSequence batch.batchId).get? n = some b) ↔
        b ∈ (s.batchFingerprints.set batch.batchId fingerprint).keys
      rw [Dict.mem_keys_iff]
      constructor
      · rintro ⟨n, hn⟩
        by_cases h : n = batch.batchSequence
        · rw [h, Dict.get?_set_self] at hn
          cases hn
          exact ⟨fingerprint, Dict.get?_set_self ..⟩
        · rw [Dict.get?_set_ne _ h] at hn
          obtain ⟨fp, hfp⟩ := Dict.mem_keys_iff.1 ((tracks.batchIds b).1 ⟨n, hn⟩)
          refine ⟨fp, ?_⟩
          rwa [Dict.get?_set_ne]
          rintro rfl
          exact newId ((tracks.batchIds _).1 ⟨n, hn⟩)
      · rintro ⟨fp, hfp⟩
        by_cases h : b = batch.batchId
        · exact ⟨batch.batchSequence, h ▸ Dict.get?_set_self ..⟩
        · rw [Dict.get?_set_ne _ h] at hfp
          obtain ⟨n, hn⟩ := (tracks.batchIds b).2 (Dict.mem_keys_iff.2 ⟨fp, hfp⟩)
          refine ⟨n, ?_⟩
          rwa [Dict.get?_set_ne]
          rintro rfl
          rw [newSequence] at hn
          cases hn
    batchSequences := fun n n' b hn hn' => by
      have fresh {m : ℕ} (hm : s.batchSequenceIndex.get? m = some b) : b ≠ batch.batchId := by
        rintro rfl
        exact newId ((tracks.batchIds _).1 ⟨m, hm⟩)
      change (s.batchSequenceIndex.set batch.batchSequence batch.batchId).get? n = some b at hn
      change (s.batchSequenceIndex.set batch.batchSequence batch.batchId).get? n' = some b at hn'
      rw [Dict.get?_set] at hn hn'
      split_ifs at hn hn' with h h'
      · rw [h, h']
      · cases hn; exact (fresh hn' rfl).elim
      · cases hn'; exact (fresh hn rfl).elim
      · exact tracks.batchSequences n n' b hn hn' }

/-- `append_batch` keeps the invariant of the state, whatever it takes in. -/
theorem Tracks.append (tracks : Tracks context parts s)
    (checked : ∀ o ∈ batch.observations, (checkObservation context o).isOk = true)
    {accepted : ObservationBatchAcceptedV2}
    (h : s.append config context fingerprint now batch = .ok (accepted, s')) :
    (s.batchFingerprints.get? batch.batchId = some fingerprint ∧ s' = s) ∨
      Tracks context (batch.observations.reverse ++ parts) s' := by
  obtain ⟨-, ⟨hfp, rfl⟩ | ⟨p, last, hits, read, rfl⟩⟩ := append_cases h
  · exact .inl ⟨hfp, rfl⟩
  · exact .inr (tracks.buffered checked read)

end Append

/-! ## Every reachable buffer -/

/-- **The buffer**: what holds of a collecting session. -/
structure BufferInv (context : SessionRecommendationContext) (s : V2SessionState) : Prop where
  bounded : s.observations.size ≤ maxBufferedObservations
  keyed : ∀ k o, s.observations.get? k = some o → o.key = k
  sequences : ∀ n k, s.sequenceIndex.get? n = some k ↔
    ∃ o, s.observations.get? k = some o ∧ o.sequence = n
  valid : ∀ k o, s.observations.get? k = some o → o.Valid
  attention : ∀ k o, s.observations.get? k = some o → o.attention.isSome = true →
    o.gaze.isSome = true
  offsets : (ordered s.observations.values).Pairwise fun f g => f.sessionOffsetMs ≤ g.sessionOffsetMs
  timesOrdered : ∀ k o k' o', s.observations.get? k = some o → s.observations.get? k' = some o' →
    o.playbackEpoch = o'.playbackEpoch → o.sequence ≤ o'.sequence → o.videoTimeMs ≤ o'.videoTimeMs
  highest : HighestEpoch s.observations s.highestPlaybackEpoch
  lastTimes : ∀ e t, s.lastVideoTimeByEpoch.get? e = some t ↔
    IsGreatest {v | ∃ k o, s.observations.get? k = some o ∧ o.playbackEpoch = e ∧ o.videoTimeMs = v} t
  hits : HitsResolved context s.observations s.resolvedSourceHits
  batchIds : ∀ b, (∃ n, s.batchSequenceIndex.get? n = some b) ↔ b ∈ s.batchFingerprints.keys
  batchSequences : ∀ n n' b, s.batchSequenceIndex.get? n = some b →
    s.batchSequenceIndex.get? n' = some b → n = n'

section Buffer

variable {context : SessionRecommendationContext} {parts : List FrameObservationV2}
  {s : V2SessionState}

theorem mem_videoTimes {frames : List FrameObservationV2} {t : ℕ} :
    t ∈ videoTimes frames ↔ ∃ o ∈ frames, o.videoTimeMs = t := by
  simp [videoTimes]

/-- Inside an epoch, time follows the sequence. -/
theorem videoTimes_mono {frames : List FrameObservationV2} (h : (videoTimes frames).Pairwise (· ≤ ·))
    {o o' : FrameObservationV2} (ho : o ∈ frames) (ho' : o' ∈ frames) (lt : o.sequence < o'.sequence) :
    o.videoTimeMs ≤ o'.videoTimeMs := by
  have sorted := (pairwise_sortOn FrameObservationV2.sequence frames).and (List.pairwise_map.1 h)
  let R (a b : FrameObservationV2) : Prop := (a.sequence < b.sequence → a.videoTimeMs ≤ b.videoTimeMs) ∧
    (b.sequence < a.sequence → b.videoTimeMs ≤ a.videoTimeMs)
  have : Std.Symm R := ⟨fun _ _ h => ⟨h.2, h.1⟩⟩
  have pairwise : (sortOn FrameObservationV2.sequence frames).Pairwise R :=
    sorted.imp fun h => ⟨fun _ => h.2, fun lt => absurd lt (not_lt.2 h.1)⟩
  exact (pairwise.forall_of_forall (fun x _ => ⟨fun lt => absurd lt (lt_irrefl _),
    fun lt => absurd lt (lt_irrefl _)⟩) (mem_sortOn.2 ho) (mem_sortOn.2 ho')).1 lt

theorem Tracks.bufferInv (h : Tracks context parts s) : BufferInv context s where
  bounded := h.holds.bounded
  keyed k o hk := h.holds.keyed hk
  sequences := h.holds.sequences
  valid := h.holds.valid
  attention k o hk := (h.holds.joins k o hk).attention_gaze fun p hp =>
    h.attention p (List.mem_filter.1 hp).1
  offsets := h.offsets
  timesOrdered k o k' o' hk hk' epoch le := by
    rcases le.lt_or_eq with lt | eq
    · refine videoTimes_mono (h.epochTimes o.playbackEpoch) ?_ ?_ lt
      · exact List.mem_filter.2 ⟨Dict.mem_values_iff.2 ⟨k, hk⟩, by simp⟩
      · exact List.mem_filter.2 ⟨Dict.mem_values_iff.2 ⟨k', hk'⟩, by simp [epoch]⟩
    · -- two frames with one sequence number are one frame
      have hn := (h.holds.sequences o.sequence k).2 ⟨o, hk, rfl⟩
      have hn' := (h.holds.sequences o.sequence k').2 ⟨o', hk', eq.symm⟩
      rw [hn] at hn'
      cases hn'
      have hk : s.observations.get? k = some o := hk
      rw [hk] at hk'
      cases hk'
      exact le_refl _
  highest := h.holds.highest
  lastTimes e t := by
    rw [h.lastTimes e, List.max?_eq_some_iff]
    have mem (v : ℕ) : v ∈ videoTimes (s.observations.values.filter fun f =>
        f.playbackEpoch = e) ↔
        v ∈ {v | ∃ k o, s.observations.get? k = some o ∧ o.playbackEpoch = e ∧ o.videoTimeMs = v} := by
      simp only [mem_videoTimes, List.mem_filter, Dict.mem_values_iff, decide_eq_true_eq,
        Set.mem_ofPred_eq]
      constructor
      · rintro ⟨o, ⟨⟨k, hk⟩, he⟩, hv⟩; exact ⟨k, o, hk, he, hv⟩
      · rintro ⟨k, o, hk, he, hv⟩; exact ⟨o, ⟨⟨k, hk⟩, he⟩, hv⟩
    simp only [IsGreatest, upperBounds, mem]
    rfl
  hits := h.hits
  batchIds := h.batchIds
  batchSequences := h.batchSequences

end Buffer

section Reachable

variable {env : StoreEnv} {w w' : World} {e : Event}

/-- Every collecting session has taken in some parts of its own lookbook's frames. -/
def Tracked (env : StoreEnv) (w : World) : Prop :=
  ∀ sid s, w.states.get? sid = some s → s.status = .collecting → ∀ context,
    env.context sid = some context → ∃ parts, Tracks context parts s

theorem Tracked.current (inv : Tracked env w) {sid : String} {context : SessionRecommendationContext}
    (hcontext : env.context sid = some context)
    (status : (currentState env w sid).status = .collecting) :
    ∃ parts, Tracks context parts (currentState env w sid) := by
  unfold currentState at *
  cases hs : w.states.get? sid with
  | none => exact ⟨[], .fresh env.config context _⟩
  | some s =>
    rw [hs] at status
    exact inv sid s hs status context hcontext

/-- **Every step keeps the collecting buffers sound**. -/
theorem Tracked.step (inv : Tracked env w) (h : step env w e = some w') : Tracked env w' := by
  intro sid s' hs' status context hcontext
  have move := step_move h sid
  generalize ho : w'.states.get? sid = o at move hs'
  cases move with
  | kept => exact inv sid s' hs' status context hcontext
  | swept => cases hs'
  | cancelled => cases hs'
  | opened => cases hs'; exact ⟨[], .fresh env.config context _⟩
  | appended record batch context' accepted s₁ checked happend =>
    cases hs'
    obtain ⟨hcontext', -, each⟩ := checkBatch_eq_ok env checked
    rw [hcontext] at hcontext'
    cases hcontext'
    obtain ⟨parts, tracks⟩ := inv.current hcontext (append_frame happend).1
    rcases tracks.append each happend with ⟨-, same⟩ | tracks'
    · exact ⟨parts, same ▸ tracks⟩
    · exact ⟨_, tracks'⟩
  | begun record client jobId context' completed checked undrawn result s₁ hb =>
    cases hs'
    cases begin_cases hb with
    | refused | again => exact inv.current hcontext status
    | _ => cases status
  | registered job s own hs active =>
    cases hs'
    obtain ⟨parts, tracks⟩ := inv sid s hs status context hcontext
    exact ⟨parts, tracks.holds, tracks.attention, tracks.offsets, tracks.epochTimes,
      tracks.lastTimes, tracks.hits, tracks.batchIds, tracks.batchSequences⟩
  | committed => cases hs'; cases status

theorem Tracked.of_reachable (h : Reachable env w) : Tracked env w := by
  obtain ⟨es, run⟩ := h
  exact run.invariant (fun _ _ _ inv _ hstep => inv.step hstep) fun _ _ h => nomatch h

end Reachable

/-! ## Two passes over the video -/

/-- The face of a frame whose gaze is delivered apart from it. -/
def glanceFace (frameId : String) (sequence : ℕ) (atMs : ℚ) : FrameObservationV2 :=
  { glance frameId sequence atMs with
    gaze := none
    gazeReason := some "gaze_not_found"
    attention := none
    attentionReason := some "gaze_not_found"
    expression := some {
      scores := ⟨[("smile", 3 / 4)], by simp⟩, quality := 1, confidence := 1
      producerId := "face-1", modelRevision := "face-model-1", taxonomyVersion := "taxonomy-1" }
    expressionReason := none }

/-- A frame of the second pass, under an id that a frame of the first pass has. -/
def secondPassGlance : FrameObservationV2 := { glance "frame-1" 2 3000 with playbackEpoch := 1 }

/-- A batch of two frames. -/
def pairBatch (batchId : String) (batchSequence : ℕ) (first second : FrameObservationV2)
    (hb : isIdentifier batchId = true) (valid : first.Valid ∧ second.Valid) : ObservationBatchV2 :=
  { batchOf "session-0001" batchId batchSequence first sessionId_ok hb valid.1 with
    observations := [first, second]
    bounded := ⟨by simp, by simp⟩
    framesValid := by simpa using valid }

/-- The first pass, its later frame first. -/
def firstPassBatch : ObservationBatchV2 :=
  pairBatch "batch-1" 0 (glance "frame-2" 1 2000) (glance "frame-1" 0 1000) firstBatchId_ok
    (by decide +kernel)

/-- The second pass, and what was missing of the first. -/
def secondPassBatch : ObservationBatchV2 :=
  pairBatch "batch-2" 1 secondPassGlance (glanceFace "frame-2" 1 2000) secondBatchId_ok
    (by decide +kernel)

end Mkk.Api
