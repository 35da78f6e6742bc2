import Mkk.Eye.QualityGate
import Mkk.Eye.SessionRun
import Mkk.Kiosk.CalibrationProgress

/-!
# Progress on the wire

The dictionary `SynchronizedCapture.progress()` returns, for what a run may show. `validate_progress`
accepts it, and `parseCalibrationProgress` accepts what JSON makes of it.
-/

namespace Mkk.Eye

open Lib

/-- `state` as a dictionary. -/
def PositioningState.toMembers (state : PositioningState) : Gateway.Members :=
  [("face_detected", .bool state.faceDetected), ("eyes_visible", .bool state.eyesVisible),
    ("centered", .bool state.centered), ("distance_ok", .bool state.distanceOk),
    ("facing_forward", .bool state.facingForward), ("stable_ms", .int state.stableMs)]

/-- The members of a progress that are always present. -/
def Progress.baseMembers (p : Progress) : Gateway.Members :=
  [("calibration_id", .str p.calibrationId), ("profile_id", .str p.profileId.text),
    ("phase", .str p.phase.text), ("target_id", .str p.targetId),
    ("target", .list [.float (.finite p.target.1), .float (.finite p.target.2)]),
    ("accepted_samples", .int p.acceptedSamples), ("required_samples", .int p.requiredSamples),
    ("completed_targets", .int p.completedTargets), ("total_targets", .int p.totalTargets),
    ("hint", .str p.hint.text)]

/-- `dict(self._progress)` -/
def Progress.toMembers (p : Progress) : Gateway.Members :=
  p.baseMembers ++ match p.positioning with
    | some state => [("positioning", .dict state.toMembers)]
    | none => []

section

variable {env : SessionEnv} {p : Progress} {state : PositioningState} {name : String} {v : Value}

/-- The digits of a small number name a target. -/
theorem targetId_isIdentifier {n : ℕ} (few : n ≤ maxCount) :
    Api.isIdentifier ("target-" ++ toString n) = true := by
  refine Api.isIdentifier_append (by decide) (fun c member => ?_) ?_
  · have digit : c.isDigit = true := by
      rw [Nat.toString_eq_repr, Nat.toList_repr] at member
      exact Nat.isDigit_of_mem_toDigits (by decide) (by decide) member
    simp [Api.isIdentifierChar, Api.isAsciiAlnum, Char.isAlphanum, digit]
  · have short : (toString n).length ≤ 3 := by
      rw [← String.length_toList, Nat.toString_eq_repr, Nat.toList_repr,
        Nat.length_toDigits_le_iff (by decide) (by decide)]
      unfold maxCount at few
      omega
    have named : "target-".length = 7 := rfl
    omega

/-- A member that is always present is read from the base. -/
theorem get_toMembers (known : Value.get p.baseMembers name = v) (ne : v ≠ .none) :
    Value.get p.toMembers name = v := by
  unfold Value.get at *
  unfold Progress.toMembers
  rw [List.find?_append]
  cases found : p.baseMembers.find? fun m => m.1 == name with
  | none =>
    rw [found] at known
    exact absurd known.symm ne
  | some m =>
    rw [found] at known
    exact known

theorem names_toMembers : p.toMembers.map (·.1) = Gateway.progressFields ++
    if p.positioning.isSome then ["positioning"] else [] := by
  unfold Progress.toMembers
  cases p.positioning <;> rfl

theorem positioningChecked_of_steady (steady : state.Steady) :
    Gateway.PositioningChecked state.toMembers := by
  have flags : ∀ key ∈ Gateway.positioningFlags, ∃ b, Value.get state.toMembers key = .bool b ∧
      (0 < state.stableMs → b = true) := by
    have all := steady.flags
    intro key member
    fin_cases member
    · exact ⟨_, rfl, fun positive => (all positive).1⟩
    · exact ⟨_, rfl, fun positive => (all positive).2.1⟩
    · exact ⟨_, rfl, fun positive => (all positive).2.2.1⟩
    · exact ⟨_, rfl, fun positive => (all positive).2.2.2.1⟩
    · exact ⟨_, rfl, fun positive => (all positive).2.2.2.2⟩
  refine ⟨rfl, fun key member => ?_, state.stableMs, rfl, steady.nonneg, steady.le,
    fun positive key member => ?_⟩
  · obtain ⟨b, found, -⟩ := flags key member
    exact ⟨b, found⟩
  · obtain ⟨b, found, set⟩ := flags key member
    rw [found, set positive]

theorem phase_text_mem (phase : Phase) : phase.text ∈ Gateway.phases := by
  cases phase <;> decide

theorem hint_text_mem (hint : Hint) : hint.text ∈ Gateway.hints := by
  cases hint <;> decide

theorem profile_text_mem (profile : Profile) : profile.text ∈ Gateway.profiles := by
  cases profile <;> decide

/-- **What may be shown is checked.** -/
theorem progressChecked_of_shown (h : Shown env p) (identified : Api.isIdentifier env.calibrationId = true) :
    Gateway.ProgressChecked p.toMembers := by
  have counted (n : ℕ) (le : n ≤ 128) : (0 : ℤ) ≤ n ∧ (n : ℤ) ≤ 128 := by omega
  have required : p.requiredSamples ≤ 30 ∧ 15 ≤ p.requiredSamples := by
    have := h.required
    unfold minSamples at this
    omega
  have accepted := h.accepted
  have completed := h.completed
  have total := h.total
  unfold maxCount at total
  have ints {field : String} {n : ℕ} (found : Value.get p.baseMembers field = .int n) :
      Gateway.countOf p.toMembers field = n := by
    unfold Gateway.countOf
    rw [get_toMembers found nofun]
  constructor
  · intro name member
    rw [names_toMembers]
    exact List.mem_append_left _ member
  · intro name member
    rw [names_toMembers] at member
    rcases List.mem_append.1 member with field | other
    · exact .inl field
    · split at other
      · exact .inr (List.mem_singleton.1 other)
      · exact absurd other List.not_mem_nil
  · exact ⟨_, get_toMembers rfl nofun, h.calibrationId ▸ identified⟩
  · obtain ⟨n, few, named⟩ := h.targetId
    exact ⟨_, get_toMembers rfl nofun, named ▸ targetId_isIdentifier few⟩
  · exact ⟨_, profile_text_mem _, get_toMembers rfl nofun⟩
  · exact ⟨_, phase_text_mem _, get_toMembers rfl nofun⟩
  · exact ⟨_, hint_text_mem _, get_toMembers rfl nofun⟩
  · obtain ⟨first, second⟩ := h.target
    exact ⟨_, _, get_toMembers rfl nofun, .float first.1 first.2, .float second.1 second.2⟩
  · intro field member
    fin_cases member
    · exact ⟨_, get_toMembers rfl nofun, counted _ (by omega)⟩
    · exact ⟨_, get_toMembers rfl nofun, counted _ (by omega)⟩
    · exact ⟨_, get_toMembers rfl nofun, counted _ (by omega)⟩
    · exact ⟨_, get_toMembers rfl nofun, counted _ (by omega)⟩
  · rw [ints rfl, ints rfl, ints rfl, ints rfl]
    omega
  · intro named
    rw [names_toMembers] at named
    cases shown : p.positioning with
    | none =>
      rw [shown] at named
      exact absurd named (by decide)
    | some state =>
      obtain ⟨positioning, steady⟩ := h.positioning state shown
      refine ⟨?_, state.toMembers, ?_, positioningChecked_of_steady steady⟩
      · rw [get_toMembers (v := .str p.phase.text) rfl nofun, positioning]
        rfl
      · unfold Progress.toMembers
        rw [shown]
        rfl

/-- **Every progress a run shows** is accepted by the Gateway, and what the Gateway accepts is accepted
by the Kiosk. -/
theorem progress_accepted (env : SessionEnv) (queue : List (Option CalibrationPacket))
    (identified : Api.isIdentifier env.calibrationId = true) :
    Triple (· = Session.new env queue) (run env)
      (fun _ s => ∀ p ∈ s.source.shown, Gateway.validateProgress (.dict p.toMembers) = .ok p.toMembers)
      (fun _ s => ∀ p ∈ s.source.shown, Gateway.validateProgress (.dict p.toMembers) = .ok p.toMembers) ∧
    ∀ v value, Gateway.validateProgress v = .ok value →
      ∃ j, (Value.dict value).toJs = some j ∧ ∃ read, Kiosk.parseCalibrationProgress j = some read := by
  have accepted {s : Session} (books : Books env s) (p : Progress) (member : p ∈ s.source.shown) :
      Gateway.validateProgress (.dict p.toMembers) = .ok p.toMembers :=
    Gateway.validateProgress_of_checked (progressChecked_of_shown (books.shown p member) identified)
  refine ⟨(run_spec env queue).weaken (fun _ h => h) (fun _ s h => accepted h.toBooks)
    fun _ s h => accepted h.toBooks, fun v value valid => Kiosk.parse_of_validateProgress valid⟩

theorem progress_accepted_of_steady : ∃ s,
    (run steadyEnv).run (Session.new steadyEnv steadyQueue) = .ok () s ∧ s.valid = true ∧
      ∀ p ∈ s.source.shown, Gateway.validateProgress (.dict p.toMembers) = .ok p.toMembers := by
  obtain ⟨s, ran, valid, -, -⟩ := steadyRun_valid
  exact ⟨s, ran, valid, (progress_accepted steadyEnv steadyQueue (by decide)).1.ok rfl ran⟩

end

end Mkk.Eye
