import Mkk.Api.Summary

/-!
# What the pass over the frames gathers

`SummaryFold.Inv` says what the loop of `summarize_observations` holds after any prefix of
the frames: for each product its frames, the derived expressions that count for it and the
windows opened so far, all as plain functions of the frames read. The number of windows and
the labels gathered are what the limits of the evidence models are later checked against.
-/

namespace Mkk.Api

open Lib

/-- Each frame with the frame before it. -/
def framePairs (frames : List FrameObservationV2) : List (Option FrameObservationV2 × FrameObservationV2) :=
  (none :: frames.map some).zip frames

/-- A frame counts for a product when it is attributed to it and no break precedes it. -/
def countsFor (maxGapMs : ℚ) (productId : String)
    (pair : Option FrameObservationV2 × FrameObservationV2) : Bool :=
  mappedProductId pair.2 == some productId && !discontinuity maxGapMs pair.1 pair.2

/-- The derived expression of a frame. -/
def derivedExpression (frame : FrameObservationV2) : Option ExpressionDerivedV2 :=
  frame.derived.bind (·.expression)

/-- The derived gaze movement of a frame. -/
def derivedMovement (frame : FrameObservationV2) : Option GazeMovementV2 :=
  frame.derived.bind fun d => d.gaze.bind (·.movement)

/-- The derived expressions that count for a product. -/
def derivedExpressions (maxGapMs : ℚ) (frames : List FrameObservationV2) (productId : String) :
    List ExpressionDerivedV2 :=
  (framePairs frames).filterMap fun pair =>
    if countsFor maxGapMs productId pair then derivedExpression pair.2 else none

/-- The derived gaze movements that count for a product. -/
def derivedMovements (maxGapMs : ℚ) (frames : List FrameObservationV2) (productId : String) :
    List GazeMovementV2 :=
  (framePairs frames).filterMap fun pair =>
    if countsFor maxGapMs productId pair then derivedMovement pair.2 else none

/-- A frame opens a window unless it continues the product of the frame before. -/
def opensWindow (maxGapMs : ℚ) (pair : Option FrameObservationV2 × FrameObservationV2) : Bool :=
  (mappedProductId pair.2).isSome &&
    (discontinuity maxGapMs pair.1 pair.2 ||
      (pair.1.bind mappedProductId != mappedProductId pair.2))

/-- The number of evidence windows of a list of frames. -/
def windowCount (maxGapMs : ℚ) (frames : List FrameObservationV2) : ℕ :=
  (framePairs frames).countP (opensWindow maxGapMs)

theorem framePairs_concat (frames : List FrameObservationV2) (frame : FrameObservationV2) :
    framePairs (frames ++ [frame]) = framePairs frames ++ [(frames.getLast?, frame)] := by
  unfold framePairs
  suffices h : ∀ p : Option FrameObservationV2,
      (p :: (frames ++ [frame]).map some).zip (frames ++ [frame]) =
        (p :: frames.map some).zip frames ++ [((frames.getLast?.map some).getD p, frame)] by
    rw [h none]
    cases frames.getLast? <;> rfl
  induction frames with
  | nil => intro p; rfl
  | cons f rest ih =>
    intro p
    have hlast : (rest.getLast?.map some).getD (some f) = some (rest.getLast?.getD f) := by
      cases rest.getLast? <;> rfl
    simpa [List.getLast?_cons, hlast] using ih (some f)

/-! ## One product -/

/-- The values of the label maps, gathered under their labels. -/
def gatherLabels (maps : List (SortedDict String ℚ)) : Dict String (List ℚ) :=
  maps.foldl appendValues Dict.empty

/-- The longest duration of each sustained action. -/
def gatherDurations (expressions : List ExpressionDerivedV2) : Dict String ℚ :=
  Dict.accumulate (·.signal) maxDuration (expressions.flatMap (·.sustainedActions))

/-- What has been gathered for a product over the frames read. -/
structure ProductAcc.Gathered (maxGapMs : ℚ) (done : List FrameObservationV2) (productId : String)
    (acc : ProductAcc) : Prop where
  frames : acc.frames = done.filter fun f => mappedProductId f = some productId
  confidences : acc.confidences = acc.frames.filterMap fun f => f.gaze.map (·.confidence)
  dwellMs : 0 ≤ acc.dwellMs
  movement : acc.movement = (derivedMovements maxGapMs done productId).map (·.distanceNorm)
  speeds : acc.speeds = (derivedMovements maxGapMs done productId).map (·.speedNormPerS)
  changes : acc.changes =
    gatherLabels ((derivedExpressions maxGapMs done productId).filterMap (·.scoreChanges))
  changeRates : acc.changeRates =
    gatherLabels ((derivedExpressions maxGapMs done productId).filterMap (·.scoreChangeRatesPerS))
  sustained : acc.sustained = gatherDurations (derivedExpressions maxGapMs done productId)

/-- The two change maps of a derived expression are present together. -/
def ChangesTogether (frame : FrameObservationV2) : Prop :=
  ∀ e ∈ derivedExpression frame, e.scoreChanges.isNone = e.scoreChangeRatesPerS.isNone

section Product

variable {maxGapMs : ℚ} {done : List FrameObservationV2} {productId : String} {acc : ProductAcc}
  {frame : FrameObservationV2}

theorem derivedExpressions_concat (maxGapMs : ℚ) (done : List FrameObservationV2)
    (frame : FrameObservationV2) (productId : String) :
    derivedExpressions maxGapMs (done ++ [frame]) productId =
      derivedExpressions maxGapMs done productId ++
        (if countsFor maxGapMs productId (done.getLast?, frame) then
          derivedExpression frame else none).toList := by
  rw [derivedExpressions, framePairs_concat, List.filterMap_append]
  congr 1

theorem derivedMovements_concat (maxGapMs : ℚ) (done : List FrameObservationV2)
    (frame : FrameObservationV2) (productId : String) :
    derivedMovements maxGapMs (done ++ [frame]) productId =
      derivedMovements maxGapMs done productId ++
        (if countsFor maxGapMs productId (done.getLast?, frame) then
          derivedMovement frame else none).toList := by
  rw [derivedMovements, framePairs_concat, List.filterMap_append]
  congr 1

/-- A frame of another product, or of none, leaves what was gathered. -/
theorem ProductAcc.Gathered.other (h : acc.Gathered maxGapMs done productId)
    (hf : mappedProductId frame ≠ some productId) :
    acc.Gathered maxGapMs (done ++ [frame]) productId := by
  have hc : countsFor maxGapMs productId (done.getLast?, frame) = false := by
    simp [countsFor, hf]
  have he : derivedExpressions maxGapMs (done ++ [frame]) productId =
      derivedExpressions maxGapMs done productId := by
    simp [derivedExpressions_concat, hc]
  have hm : derivedMovements maxGapMs (done ++ [frame]) productId =
      derivedMovements maxGapMs done productId := by
    simp [derivedMovements_concat, hc]
  exact {
    frames := by simp [h.frames, hf]
    confidences := h.confidences
    dwellMs := h.dwellMs
    movement := hm ▸ h.movement
    speeds := hm ▸ h.speeds
    changes := he ▸ h.changes
    changeRates := he ▸ h.changeRates
    sustained := he ▸ h.sustained }

/-- Comparing with the frame before changes the dwell time and the returns only. -/
theorem ProductAcc.compare_eq (acc : ProductAcc) (productId : String)
    (previous : Option FrameObservationV2) (broken : Bool) (previousProduct : Option String)
    (seen : List String) (frame : FrameObservationV2) :
    ∃ dwell comparisons returns,
      acc.compare productId previous broken previousProduct seen frame =
        { acc with dwellMs := dwell, returnComparisons := comparisons, returns := returns } ∧
      (0 ≤ acc.dwellMs → (∀ p ∈ previous, broken = false →
        p.capturedAtMonoMs ≤ frame.capturedAtMonoMs) → 0 ≤ dwell) := by
  unfold ProductAcc.compare
  cases previous with
  | none => exact ⟨_, _, _, rfl, fun h _ => h⟩
  | some p =>
    dsimp only
    cases broken with
    | true => exact ⟨_, _, _, rfl, fun h _ => h⟩
    | false =>
      refine ⟨_, _, _, rfl, fun h hp => ?_⟩
      have := hp p rfl rfl
      split <;> linarith

theorem captured_le_of_continuous {p : FrameObservationV2}
    (h : discontinuity maxGapMs (some p) frame = false) :
    p.capturedAtMonoMs ≤ frame.capturedAtMonoMs := by
  simp only [discontinuity, Bool.or_eq_false_iff, decide_eq_false_iff_not, not_lt] at h
  linarith [h.1.2]

/-- What the derived signals of a frame add. -/
theorem ProductAcc.addDerived_eq (acc : ProductAcc) (broken : Bool) (together : ChangesTogether frame) :
    acc.addDerived broken frame = if broken then acc else { acc with
      movement := acc.movement ++ ((derivedMovement frame).map (·.distanceNorm)).toList
      speeds := acc.speeds ++ ((derivedMovement frame).map (·.speedNormPerS)).toList
      changes := ((derivedExpression frame).toList.filterMap (·.scoreChanges)).foldl
        appendValues acc.changes
      changeRates := ((derivedExpression frame).toList.filterMap (·.scoreChangeRatesPerS)).foldl
        appendValues acc.changeRates
      sustained := ((derivedExpression frame).toList.flatMap (·.sustainedActions)).foldl
        (Dict.insertWith (·.signal) maxDuration) acc.sustained } := by
  unfold ProductAcc.addDerived
  cases broken with
  | true => rfl
  | false =>
    unfold ChangesTogether derivedExpression at together
    unfold derivedMovement derivedExpression
    cases hd : frame.derived with
    | none => simp
    | some d =>
      simp only [hd, Option.bind_some] at together
      simp only [Bool.false_eq_true, if_false, Option.bind_some]
      have gaze : acc.addGaze d.gaze = { acc with
          movement := acc.movement ++ ((d.gaze.bind (·.movement)).map (·.distanceNorm)).toList
          speeds := acc.speeds ++ ((d.gaze.bind (·.movement)).map (·.speedNormPerS)).toList } := by
        unfold ProductAcc.addGaze
        cases d.gaze.bind (·.movement) <;> simp
      rw [gaze]
      cases he : d.expression with
      | none => simp [ProductAcc.addExpression]
      | some e =>
        have := together e he
        cases hc : e.scoreChanges <;> cases hr : e.scoreChangeRatesPerS <;>
          simp_all [ProductAcc.addExpression, ProductAcc.addChanges]

/-- **A frame of the product** extends what was gathered. -/
theorem ProductAcc.Gathered.visit (h : acc.Gathered maxGapMs done productId)
    (hf : mappedProductId frame = some productId) (together : ChangesTogether frame)
    (previousProduct : Option String) (seen : List String) {broken : Bool}
    (hb : discontinuity maxGapMs done.getLast? frame = broken) :
    (((acc.attend frame).compare productId done.getLast? broken previousProduct seen
      frame).addDerived broken frame).Gathered maxGapMs (done ++ [frame]) productId := by
  obtain ⟨dwell, comparisons, returns, heq, hdwell⟩ := (acc.attend frame).compare_eq productId
    done.getLast? broken previousProduct seen frame
  have hnonneg : 0 ≤ dwell := by
    refine hdwell h.dwellMs fun p hp hbr => ?_
    rw [Option.mem_def.1 hp, hbr] at hb
    exact captured_le_of_continuous hb
  have hc : countsFor maxGapMs productId (done.getLast?, frame) = !broken := by
    simp [countsFor, hf, hb]
  rw [heq, ProductAcc.addDerived_eq _ _ together]
  cases broken with
  | true =>
    exact {
      frames := by simp [ProductAcc.attend, h.frames, hf]
      confidences := by
        cases hg : frame.gaze <;> simp [ProductAcc.attend, h.confidences, hg]
      dwellMs := hnonneg
      movement := by simp [ProductAcc.attend, derivedMovements_concat, hc, h.movement]
      speeds := by simp [ProductAcc.attend, derivedMovements_concat, hc, h.speeds]
      changes := by simp [ProductAcc.attend, derivedExpressions_concat, hc, h.changes]
      changeRates := by simp [ProductAcc.attend, derivedExpressions_concat, hc, h.changeRates]
      sustained := by simp [ProductAcc.attend, derivedExpressions_concat, hc, h.sustained] }
  | false =>
    exact {
      frames := by simp [ProductAcc.attend, h.frames, hf]
      confidences := by
        cases hg : frame.gaze <;> simp [ProductAcc.attend, h.confidences, hg]
      dwellMs := hnonneg
      movement := by
        cases hm : derivedMovement frame <;>
          simp [ProductAcc.attend, derivedMovements_concat, hc, h.movement, hm]
      speeds := by
        cases hm : derivedMovement frame <;>
          simp [ProductAcc.attend, derivedMovements_concat, hc, h.speeds, hm]
      changes := by
        simp [ProductAcc.attend, derivedExpressions_concat, hc, h.changes, gatherLabels,
          List.foldl_append]
      changeRates := by
        simp [ProductAcc.attend, derivedExpressions_concat, hc, h.changeRates, gatherLabels,
          List.foldl_append]
      sustained := by
        simp [ProductAcc.attend, derivedExpressions_concat, hc, h.sustained, gatherDurations,
          Dict.accumulate, List.foldl_append] }

end Product

/-! ## The windows and the loop -/

/-- What a window spans. -/
structure WindowAcc.Sound (done : List FrameObservationV2) (w : WindowAcc) : Prop where
  start : w.start ∈ done
  stop : w.stop ∈ done
  product : mappedProductId w.start = some w.productId
  offsets : w.start.sessionOffsetMs ≤ w.stop.sessionOffsetMs
  times : w.start.videoTimeMs ≤ w.stop.videoTimeMs
  codesNonempty : w.codes ≠ []
  codesOfWindows : EvidenceCode.productTagMatch ∉ w.codes

/-- The windows closed so far and the open one. -/
def SummaryFold.windows (s : SummaryFold) : List WindowAcc := s.windowsRaw ++ s.window.toList

/-- The invariant of the loop over the frames it has read. -/
structure SummaryFold.Inv (maxGapMs : ℚ) (done : List FrameObservationV2) (s : SummaryFold) : Prop where
  previous : s.previous = done.getLast?
  previousProduct : s.previousProduct = done.getLast?.bind mappedProductId
  gathered : ∀ p, (s.productAcc p).Gathered maxGapMs done p
  openProduct : s.window.map (·.productId) = s.previousProduct
  openStop : ∀ w ∈ s.window, done.getLast? = some w.stop
  windows : s.windows.length = windowCount maxGapMs done
  sound : ∀ w ∈ s.windows, w.Sound done

section Loop

variable {maxGapMs : ℚ} {done : List FrameObservationV2} {s : SummaryFold}
  {frame : FrameObservationV2}

theorem windowCount_concat (maxGapMs : ℚ) (done : List FrameObservationV2)
    (frame : FrameObservationV2) :
    windowCount maxGapMs (done ++ [frame]) = windowCount maxGapMs done +
      (if opensWindow maxGapMs (done.getLast?, frame) then 1 else 0) := by
  simp [windowCount, framePairs_concat, List.countP_append, List.countP_cons]

theorem WindowAcc.Sound.later {w : WindowAcc} (h : w.Sound done) (frame : FrameObservationV2) :
    w.Sound (done ++ [frame]) :=
  { h with start := List.mem_append_left _ h.start, stop := List.mem_append_left _ h.stop }

theorem ProductAcc.codes_ne_nil (acc : ProductAcc) : acc.codes ≠ [] := by
  simp [ProductAcc.codes]

theorem ProductAcc.codes_ofWindows (acc : ProductAcc) : EvidenceCode.productTagMatch ∉ acc.codes := by
  unfold ProductAcc.codes
  repeat' split
  all_goals simp

@[simp] theorem SummaryFold.windows_closeWindow (s : SummaryFold) : s.closeWindow.windows = s.windows := by
  simp [SummaryFold.closeWindow, SummaryFold.windows]

/-- The windows after a break, if there was one, and before the frame is read. -/
structure SummaryFold.Ready (maxGapMs : ℚ) (done : List FrameObservationV2)
    (frame : FrameObservationV2) (s : SummaryFold) : Prop where
  openProduct : s.window.map (·.productId) =
    if discontinuity maxGapMs done.getLast? frame then none else done.getLast?.bind mappedProductId
  openStop : ∀ w ∈ s.window, done.getLast? = some w.stop
  windows : s.windows.length = windowCount maxGapMs done
  sound : ∀ w ∈ s.windows, w.Sound done

/-- A break closes the window and forgets the product before. -/
theorem SummaryFold.Inv.ready (h : s.Inv maxGapMs done) (frame : FrameObservationV2) :
    ∃ b, (if discontinuity maxGapMs s.previous frame then s.breakAt else s) = b ∧
      b.Ready maxGapMs done frame ∧ b.previous = done.getLast? ∧
      ∀ p, (b.productAcc p).Gathered maxGapMs done p := by
  refine ⟨_, rfl, ?_⟩
  rw [h.previous]
  cases hb : discontinuity maxGapMs done.getLast? frame with
  | false =>
    exact ⟨{
      openProduct := by simpa [hb, h.previousProduct] using h.openProduct
      openStop := h.openStop
      windows := h.windows
      sound := h.sound }, h.previous, h.gathered⟩
  | true =>
    have hw : s.breakAt.windows = s.windows := by
      simp [SummaryFold.breakAt, SummaryFold.closeWindow, SummaryFold.windows]
    exact ⟨{
      openProduct := by rw [hb]; rfl
      openStop := fun w hw => nomatch hw
      windows := hw ▸ h.windows
      sound := hw ▸ h.sound }, h.previous, h.gathered⟩

theorem SummaryFold.productAcc_extendWindow (s : SummaryFold) (p : String)
    (frame : FrameObservationV2) (codes : List EvidenceCode) (q : String) :
    (s.extendWindow p frame codes).productAcc q = s.productAcc q := by
  unfold SummaryFold.extendWindow
  repeat' split
  all_goals rfl

/-- The window of a frame that is attributed to a product. -/
theorem SummaryFold.Ready.extendWindow (h : s.Ready maxGapMs done frame) {p : String}
    (hf : mappedProductId frame = some p) (codes : List EvidenceCode)
    (offsets : ∀ f ∈ done, f.sessionOffsetMs ≤ frame.sessionOffsetMs)
    (hcodes : codes ≠ [] ∧ EvidenceCode.productTagMatch ∉ codes) :
    ∃ w, (s.extendWindow p frame codes).window = some w ∧ w.productId = p ∧ w.stop = frame ∧
      (s.extendWindow p frame codes).windows.length = windowCount maxGapMs (done ++ [frame]) ∧
      ∀ w ∈ (s.extendWindow p frame codes).windows, w.Sound (done ++ [frame]) := by
  rw [windowCount_concat, ← h.windows]
  -- a window opened at the frame
  have fresh : WindowAcc.Sound (done ++ [frame]) {
      productId := p, start := frame, stop := frame, codes
      components := frameComponents frame, visualTags := frameVisualTags frame } := {
    start := by simp
    stop := by simp
    product := hf
    offsets := le_refl _
    times := le_refl _
    codesNonempty := hcodes.1
    codesOfWindows := hcodes.2 }
  have old : ∀ w ∈ s.windows, w.Sound (done ++ [frame]) := fun w hw => (h.sound w hw).later frame
  unfold SummaryFold.extendWindow
  cases hw : s.window with
  | none =>
    have hopen : opensWindow maxGapMs (done.getLast?, frame) = true := by
      have := h.openProduct
      rw [hw] at this
      cases hb : discontinuity maxGapMs done.getLast? frame with
      | true => simp [opensWindow, hf, hb]
      | false =>
        rw [hb] at this
        have hn : done.getLast?.bind mappedProductId = none := this.symm
        simp [opensWindow, hf, hn]
    refine ⟨_, rfl, rfl, rfl, ?_, ?_⟩
    · simp [SummaryFold.windows, SummaryFold.closeWindow, hw, hopen]
    · intro w hmem
      simp only [SummaryFold.windows, SummaryFold.closeWindow, hw, Option.toList_none,
        List.append_nil, Option.toList_some, List.mem_append, List.mem_singleton] at hmem
      rcases hmem with hmem | rfl
      · exact old w (by simp [SummaryFold.windows, hmem])
      · exact fresh
  | some w =>
    have hproduct := h.openProduct
    rw [hw] at hproduct
    obtain ⟨hb, hlast⟩ : discontinuity maxGapMs done.getLast? frame = false ∧
        done.getLast?.bind mappedProductId = some w.productId := by
      cases hb : discontinuity maxGapMs done.getLast? frame with
      | true => rw [hb] at hproduct; cases hproduct
      | false => rw [hb] at hproduct; exact ⟨rfl, hproduct.symm⟩
    have hwmem : w ∈ s.windows := by simp [SummaryFold.windows, hw]
    dsimp only
    split
    · rename_i he
      have hopen : opensWindow maxGapMs (done.getLast?, frame) = false := by
        simp [opensWindow, hf, hb, hlast, he]
      refine ⟨_, rfl, he, rfl, ?_, ?_⟩
      · simp [SummaryFold.windows, hw, hopen]
      · intro w' hmem
        simp only [SummaryFold.windows, Option.toList_some, List.mem_append,
          List.mem_singleton] at hmem
        rcases hmem with hmem | rfl
        · exact old w' (by simp [SummaryFold.windows, hmem])
        · have sound := h.sound w hwmem
          have hstop := h.openStop w hw
          rw [hstop] at hb
          simp only [discontinuity, Bool.or_eq_false_iff, decide_eq_false_iff_not, not_lt] at hb
          exact {
            start := List.mem_append_left _ sound.start
            stop := by simp
            product := sound.product
            offsets := offsets _ sound.start
            times := sound.times.trans hb.1.1.1.2
            codesNonempty := by simp [sound.codesNonempty]
            codesOfWindows := by simp [sound.codesOfWindows, hcodes.2] }
    · rename_i he
      have hopen : opensWindow maxGapMs (done.getLast?, frame) = true := by
        simp [opensWindow, hf, hlast, he]
      refine ⟨_, rfl, rfl, rfl, ?_, ?_⟩
      · simp [SummaryFold.windows, SummaryFold.closeWindow, hw, hopen]
      · intro w' hmem
        simp only [SummaryFold.windows, SummaryFold.closeWindow, hw, Option.toList_some,
          List.mem_append, List.mem_singleton] at hmem
        rcases hmem with hmem | rfl
        · exact old w' (by simpa [SummaryFold.windows, hw] using hmem)
        · exact fresh

/-- The assertion on rates holds of validated frames. -/
theorem ratesMissing_of_together (broken : Bool) (together : ChangesTogether frame) :
    ratesMissing broken frame = false := by
  unfold ChangesTogether derivedExpression at together
  unfold ratesMissing
  cases hd : frame.derived with
  | none => simp
  | some d =>
    cases he : d.expression with
    | none => simp [he]
    | some e =>
      have := together e (by simp [hd, he])
      cases hc : e.scoreChanges <;> cases hr : e.scoreChangeRatesPerS <;> simp_all

/-- Reading a frame restores the invariant. -/
theorem SummaryFold.Ready.read (h : s.Ready maxGapMs done frame) (previous : s.previous = done.getLast?)
    (gathered : ∀ p, (s.productAcc p).Gathered maxGapMs done p) (together : ChangesTogether frame)
    (offsets : ∀ f ∈ done, f.sessionOffsetMs ≤ frame.sessionOffsetMs) :
    (s.read (discontinuity maxGapMs done.getLast? frame) frame).Inv maxGapMs (done ++ [frame]) := by
  unfold SummaryFold.read
  cases hf : mappedProductId frame with
  | none =>
    have hopen : opensWindow maxGapMs (done.getLast?, frame) = false := by simp [opensWindow, hf]
    have hwindows : (s.closeWindow).windows = s.windows := s.windows_closeWindow
    exact {
      previous := by simp
      previousProduct := by simp [hf]
      gathered := fun p => (gathered p).other (hf ▸ Option.some_ne_none p |>.symm)
      openProduct := rfl
      openStop := fun w hw => nomatch hw
      windows := by
        rw [windowCount_concat, hopen]
        exact (congrArg List.length hwindows).trans h.windows
      sound := fun w hw => (h.sound w (hwindows ▸ hw)).later frame }
  | some p =>
    obtain ⟨acc, hacc⟩ : ∃ acc, (((s.productAcc p).attend frame).compare p s.previous
        (discontinuity maxGapMs done.getLast? frame) s.previousProduct s.seenProducts
        frame).addDerived (discontinuity maxGapMs done.getLast? frame) frame = acc := ⟨_, rfl⟩
    have visited : acc.Gathered maxGapMs (done ++ [frame]) p := by
      rw [← hacc, previous]
      exact (gathered p).visit hf together _ _ rfl
    -- the product's record goes in, and the windows do not change
    obtain ⟨b, hvisit, ready, hacc⟩ : ∃ b : SummaryFold,
        s.visit (discontinuity maxGapMs done.getLast? frame) p frame =
          b.extendWindow p frame acc.codes ∧
        b.Ready maxGapMs done frame ∧
        ∀ q, b.productAcc q = if q = p then acc else s.productAcc q := by
      refine ⟨{ s with byProduct := s.byProduct.set p acc, seenProducts := p :: s.seenProducts },
        by rw [SummaryFold.visit, hacc], ⟨h.openProduct, h.openStop, h.windows, h.sound⟩,
        fun q => ?_⟩
      by_cases he : q = p
      · simp [SummaryFold.productAcc, he]
      · simp [SummaryFold.productAcc, Dict.get?_set_ne _ he, he]
    obtain ⟨w, hw, hproduct, hstop, hcount, hsound⟩ :=
      ready.extendWindow hf acc.codes offsets ⟨acc.codes_ne_nil, acc.codes_ofWindows⟩
    rw [← hvisit] at hw hcount hsound
    exact {
      previous := by simp
      previousProduct := by simp [hf]
      gathered := fun q => by
        have hq : (b.extendWindow p frame acc.codes).productAcc q = b.productAcc q :=
          b.productAcc_extendWindow p frame acc.codes q
        rw [hacc, ← hvisit] at hq
        refine (congrArg (ProductAcc.Gathered maxGapMs (done ++ [frame]) q) hq).mpr ?_
        split
        · rename_i he; exact he ▸ visited
        · rename_i he; exact (gathered q).other (by rw [hf]; simpa using Ne.symm he)
      openProduct := by
        dsimp only
        rw [hw]
        simp [hproduct]
      openStop := fun w' hw' => by
        dsimp only at hw'
        rw [hw, Option.mem_some_iff] at hw'
        rw [← hw', hstop]
        simp
      windows := hcount
      sound := hsound }

/-- **One turn of the loop** returns and keeps the invariant. -/
theorem SummaryFold.Inv.turn (h : s.Inv maxGapMs done) (together : ChangesTogether frame)
    (offsets : ∀ f ∈ done, f.sessionOffsetMs ≤ frame.sessionOffsetMs) :
    ∃ s', s.turn maxGapMs frame = .ok s' ∧ s'.Inv maxGapMs (done ++ [frame]) := by
  unfold SummaryFold.turn
  rw [ratesMissing_of_together _ together]
  refine ⟨_, rfl, ?_⟩
  obtain ⟨b, hb, ready, previous, gathered⟩ := h.ready frame
  rw [SummaryFold.step, hb, h.previous]
  exact ready.read previous gathered together offsets

/-- **The whole loop** returns, with the invariant over all frames. -/
theorem summaryPass_ok (maxGapMs : ℚ) {frames : List FrameObservationV2}
    (together : ∀ f ∈ frames, ChangesTogether f)
    (offsets : frames.Pairwise fun f g => f.sessionOffsetMs ≤ g.sessionOffsetMs) :
    ∃ s, frames.foldlM (SummaryFold.turn maxGapMs) {} = .ok s ∧ s.Inv maxGapMs frames := by
  have step : ∀ done f rest (s : SummaryFold), done ++ f :: rest = frames →
      s.Inv maxGapMs done → ∃ s', s.turn maxGapMs f = .ok s' ∧ s'.Inv maxGapMs (done ++ [f]) := by
    intro done f rest s hl inv
    rw [← hl, List.pairwise_append] at offsets
    exact inv.turn (together f (by rw [← hl]; simp)) fun g hg => offsets.2.2 g hg f (by simp)
  exact foldlM_ok step {
    previous := rfl
    previousProduct := rfl
    gathered := fun p => ⟨rfl, rfl, le_refl _, rfl, rfl, rfl, rfl, rfl⟩
    openProduct := rfl
    openStop := fun w hw => nomatch hw
    windows := rfl
    sound := fun w hw => nomatch hw }

end Loop

end Mkk.Api
