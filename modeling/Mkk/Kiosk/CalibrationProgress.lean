import Mkk.Gateway.CalibrationProtocol

/-!
# The Kiosk's reader of calibration progress

`parseCalibrationProgress` of `calibration-session.ts`. It accepts what `validate_progress` accepted, read
from its JSON.
-/

namespace Mkk.Kiosk

open Lib
open Mkk.Gateway (profiles phases hints positioningFlags countFields progressFields validateProgress
  ProgressChecked PositioningChecked UnitNumber)

abbrev JsMembers := List (String × JsValue)

/-! ## The reader -/

/-- `String(v)`, where it can be a word: of another value it has a digit, a comma or a bracket, is empty,
or is none of the words that are looked for. -/
def jsText : JsValue → Option String
  | .string s => some s
  | .array [v] => jsText v
  | _ => none

/-- `id.test(v)` of a string. -/
def isJsId : Option JsValue → Bool
  | some (.string s) => Api.isIdentifier s
  | _ => false

/-- A number between 0 and 1. -/
def isUnit : JsValue → Bool
  | .number (.finite q) => decide (0 ≤ q ∧ q ≤ 1)
  | _ => false

def isUnitPair : Option JsValue → Bool
  | some (.array [x, y]) => isUnit x && isUnit y
  | _ => false

/-- A count: an integer from 0 to `max`. -/
def jsCount (max : ℚ) : Option JsValue → Option ℚ
  | some (.number (.finite q)) => if q.den = 1 ∧ 0 ≤ q ∧ q ≤ max then some q else none
  | _ => none

def isJsFlag : Option JsValue → Bool
  | some (.bool _) => true
  | _ => false

def isJsTrue : Option JsValue → Bool
  | some (.bool b) => b
  | _ => false

/-- The check of `positioning`. -/
def jsPositioning (phase : Option JsValue) : Option JsValue → Bool
  | some (.object p) =>
    (match phase with | some (.string s) => s == "positioning" | _ => false) &&
    decide ((p.map (·.1)).length = 6) &&
    positioningFlags.all (fun key => isJsFlag (member? p key)) &&
    match jsCount 1000 (member? p "stable_ms") with
    | some stable => decide (stable ≤ 0) || positioningFlags.all fun key => isJsTrue (member? p key)
    | none => false
  | _ => false

/-- The members that are not optional. -/
def jsIdentity (v : JsMembers) : Bool :=
  (v.map (·.1)).all (fun key => progressFields.contains key || key == "positioning") &&
  progressFields.all ((v.map (·.1)).contains ·) &&
  isJsId (member? v "calibration_id") && isJsId (member? v "target_id") &&
  (match member? v "profile_id" with | some (.string s) => profiles.contains s | _ => false) &&
  ((member? v "phase").bind jsText).any phases.contains &&
  ((member? v "hint").bind jsText).any hints.contains &&
  isUnitPair (member? v "target")

/-- The counts among themselves. -/
def jsConsistent (v : JsMembers) : Bool :=
  match jsCount 128 (member? v "accepted_samples"), jsCount 128 (member? v "required_samples"),
    jsCount 128 (member? v "completed_targets"), jsCount 128 (member? v "total_targets") with
  | some accepted, some required, some completed, some total =>
    decide (1 ≤ required ∧ accepted ≤ required ∧ completed ≤ total)
  | _, _, _, _ => false

/-- `parseCalibrationProgress`; none when it throws. -/
def parseCalibrationProgress : JsValue → Option JsMembers
  | .object v =>
    if jsIdentity v && jsConsistent v &&
        (!(v.map (·.1)).contains "positioning" || jsPositioning (member? v "phase") (member? v "positioning"))
    then some v
    else none
  | _ => none

/-! ## What it accepts -/

section
variable {v : Value} {value positioning : Gateway.Members} {read : JsMembers}

theorem get_eq_member? (name : String) (known : Value.get value name ≠ .none) :
    member? value name = some (Value.get value name) := by
  unfold Value.get member? at *
  cases found : (value.find? (·.1 == name)).map (·.2) with
  | none =>
    rw [found] at known
    exact absurd rfl known
  | some v => rfl

theorem get_of_member? {name : String} (known : member? value name = some v) : Value.get value name = v := by
  unfold Value.get
  unfold member? at known
  rw [known]
  rfl

theorem UnitNumber.toJs (h : UnitNumber v) : ∃ j, v.toJs = some j ∧ isUnit j = true := by
  cases h with
  | int nonneg le =>
    refine ⟨_, by rw [Value.toJs], ?_⟩
    rw [jsInt_of_lt nonneg (by omega)]
    exact decide_eq_true ⟨by exact_mod_cast nonneg, by exact_mod_cast le⟩
  | @float q nonneg le =>
    exact ⟨.number (.finite q), by rw [Value.toJs], decide_eq_true ⟨nonneg, le⟩⟩

/-- A small integer is read as a count. -/
theorem jsCount_int {n max : ℤ} (nonneg : 0 ≤ n) (le : n ≤ max) (small : max < 2 ^ 53) :
    jsCount max ((Value.int n).toJs) = some (n : ℚ) := by
  rw [Value.toJs, jsInt_of_lt nonneg (le.trans_lt small)]
  exact if_pos ⟨rfl, by exact_mod_cast nonneg, by exact_mod_cast le⟩

/-- The values of a checked `positioning` are read. -/
theorem PositioningChecked.toJs (h : PositioningChecked positioning) :
    ∃ read, (Value.dict positioning).toJs = some (.object read) ∧ (read.map (·.1)).length = 6 ∧
      ∀ name, member? read name = (member? positioning name).bind Value.toJs := by
  have names := h.names
  unfold Value.sameNames at names
  simp only [Bool.and_eq_true, List.all_eq_true, List.contains_iff_mem] at names
  obtain ⟨n, stable, -⟩ := h.stable
  have values (name : String) (v : Value) (known : member? positioning name = some v) :
      ∃ j, v.toJs = some j := by
    have named := names.1 name (mem_names_iff.2 ⟨v, known⟩)
    rcases List.mem_append.1 named with flag | last
    · obtain ⟨b, flag⟩ := h.flags name flag
      rw [get_of_member? known] at flag
      exact ⟨.bool b, by rw [flag, Value.toJs]⟩
    · rw [List.mem_singleton.1 last] at known
      rw [get_of_member? known] at stable
      exact ⟨_, by rw [stable, Value.toJs]⟩
  obtain ⟨read, h, nodup, same, found⟩ := toJs_dict values
  refine ⟨read, h, ?_, found⟩
  have six : (positioningFlags ++ ["stable_ms"]).Nodup := by decide
  have perm : (read.map (·.1)).Perm (positioningFlags ++ ["stable_ms"]) :=
    (List.perm_ext_iff_of_nodup nodup six).2 fun name => (same name).trans
      ⟨fun member => names.1 name member, fun member => names.2 name member⟩
  exact perm.length_eq

/-- A checked `positioning` is accepted. -/
theorem PositioningChecked.accepted {phase : Option JsValue} (h : PositioningChecked positioning)
    (here : phase = some (.string "positioning")) : ∃ j, (Value.dict positioning).toJs = some j ∧
      jsPositioning phase (some j) = true := by
  obtain ⟨read, written, six, found⟩ := PositioningChecked.toJs h
  refine ⟨.object read, written, ?_⟩
  have flag (key : String) (member : key ∈ positioningFlags) {b : Bool}
      (known : Value.get positioning key = .bool b) : member? read key = some (.bool b) := by
    rw [found, get_eq_member? key (by rw [known]; rintro ⟨⟩), known, Option.bind_some, Value.toJs]
  obtain ⟨n, stable, nonneg, le, ready⟩ := h.stable
  have count : jsCount 1000 (member? read "stable_ms") = some (n : ℚ) := by
    rw [found, get_eq_member? "stable_ms" (by rw [stable]; rintro ⟨⟩), stable, Option.bind_some]
    exact jsCount_int nonneg le (by norm_num)
  rw [here]
  unfold jsPositioning
  dsimp only
  rw [count]
  simp only [Bool.and_eq_true, beq_self_eq_true, decide_eq_true_eq, List.all_eq_true, Bool.or_eq_true]
  refine ⟨⟨⟨trivial, six⟩, fun key member => ?_⟩, ?_⟩
  · obtain ⟨b, known⟩ := h.flags key member
    rw [flag key member known]
    rfl
  · by_cases positive : 0 < n
    · refine .inr fun key member => ?_
      rw [flag key member (ready positive key member)]
      rfl
    · exact .inl (by exact_mod_cast not_lt.1 positive)

/-- The values of a checked progress are read. -/
theorem ProgressChecked.toJs (h : ProgressChecked value) :
    ∃ read, (Value.dict value).toJs = some (.object read) ∧
      (∀ name, name ∈ read.map (·.1) ↔ name ∈ value.map (·.1)) ∧
      ∀ name, member? read name = (member? value name).bind Value.toJs := by
  have text {name : String} {v : Value} (known : member? value name = some v)
      (found : ∃ s, Value.get value name = .str s) : ∃ j, v.toJs = some j := by
    obtain ⟨s, found⟩ := found
    rw [get_of_member? known] at found
    exact ⟨_, by rw [found, Value.toJs]⟩
  have values (name : String) (v : Value) (known : member? value name = some v) :
      ∃ j, v.toJs = some j := by
    rcases h.names name (mem_names_iff.2 ⟨v, known⟩) with field | rfl
    · by_cases count : name ∈ countFields
      · obtain ⟨n, found, -⟩ := h.counts name count
        rw [get_of_member? known] at found
        exact ⟨_, by rw [found, Value.toJs]⟩
      · have rest : name = "calibration_id" ∨ name = "profile_id" ∨ name = "phase" ∨ name = "target_id" ∨
            name = "target" ∨ name = "hint" := by
          simp only [progressFields, countFields, List.mem_cons, List.not_mem_nil, or_false] at field count
          tauto
        rcases rest with rfl | rfl | rfl | rfl | rfl | rfl
        · exact text known (h.calibrationId.imp fun _ found => found.1)
        · exact text known (h.profileId.imp fun _ found => found.2)
        · exact text known (h.phase.imp fun _ found => found.2)
        · exact text known (h.targetId.imp fun _ found => found.1)
        · obtain ⟨x, y, found, hx, hy⟩ := h.target
          obtain ⟨jx, writtenX, -⟩ := UnitNumber.toJs hx
          obtain ⟨jy, writtenY, -⟩ := UnitNumber.toJs hy
          rw [get_of_member? known] at found
          refine ⟨.array [jx, jy], ?_⟩
          rw [found, Value.toJs, Value.elementsToJs, Value.elementsToJs, Value.elementsToJs, writtenX, writtenY]
          rfl
        · exact text known (h.hint.imp fun _ found => found.2)
    · obtain ⟨-, p, found, checked⟩ := h.positioning (mem_names_iff.2 ⟨v, known⟩)
      obtain ⟨read, written, -⟩ := PositioningChecked.toJs checked
      rw [get_of_member? known] at found
      exact ⟨_, found ▸ written⟩
  obtain ⟨read, written, -, same, found⟩ := toJs_dict values
  exact ⟨read, written, same, found⟩

/-- **The Kiosk accepts what `validate_progress` accepted**, read from its JSON. -/
theorem parse_of_validateProgress (h : validateProgress v = .ok value) :
    ∃ j, (Value.dict value).toJs = some j ∧ ∃ read, parseCalibrationProgress j = some read := by
  obtain ⟨-, checked⟩ := Gateway.progressChecked h
  obtain ⟨read, written, same, found⟩ := ProgressChecked.toJs checked
  have get {name : String} {v : Value} (known : Value.get value name = v) (ne : v ≠ .none) :
      member? read name = v.toJs := by
    rw [found, get_eq_member? name (known ▸ ne), known, Option.bind_some]
  have text {name s : String} (known : Value.get value name = .str s) :
      member? read name = some (.string s) := by
    rw [get known (by rintro ⟨⟩), Value.toJs]
  have count {name : String} (field : name ∈ countFields) :
      jsCount 128 (member? read name) = some (Gateway.countOf value name : ℚ) := by
    obtain ⟨n, known, nonneg, le⟩ := checked.counts name field
    rw [get known (by rintro ⟨⟩)]
    unfold Gateway.countOf
    rw [known]
    exact jsCount_int nonneg le (by norm_num)
  refine ⟨.object read, written, read, ?_⟩
  unfold parseCalibrationProgress
  have identity : jsIdentity read = true := by
    obtain ⟨calibrationId, knownCalibration, legalCalibration⟩ := checked.calibrationId
    obtain ⟨targetId, knownTarget, legalTarget⟩ := checked.targetId
    obtain ⟨profileId, profile, knownProfile⟩ := checked.profileId
    obtain ⟨phase, one, knownPhase⟩ := checked.phase
    obtain ⟨hint, oneHint, knownHint⟩ := checked.hint
    obtain ⟨x, y, known, hx, hy⟩ := checked.target
    obtain ⟨jx, writtenX, unitX⟩ := UnitNumber.toJs hx
    obtain ⟨jy, writtenY, unitY⟩ := UnitNumber.toJs hy
    have pair : member? read "target" = some (.array [jx, jy]) := by
      rw [get known (by rintro ⟨⟩), Value.toJs, Value.elementsToJs, Value.elementsToJs, Value.elementsToJs,
        writtenX, writtenY]
      rfl
    have profile' : profiles.contains profileId = true := List.contains_iff_mem.2 profile
    have one' : phases.contains phase = true := List.contains_iff_mem.2 one
    have oneHint' : hints.contains hint = true := List.contains_iff_mem.2 oneHint
    unfold jsIdentity
    rw [text knownCalibration, text knownTarget, text knownProfile, text knownPhase, text knownHint, pair]
    simp only [isJsId, isUnitPair, Option.bind_some, jsText, Option.any_some, legalCalibration,
      legalTarget, profile', one', oneHint', unitX, unitY, Bool.and_true, Bool.and_eq_true,
      List.all_eq_true, Bool.or_eq_true, List.contains_iff_mem, beq_iff_eq]
    exact ⟨fun name member => checked.names name ((same name).1 member),
      fun name member => (same name).2 (checked.fields name member)⟩
  have consistent : jsConsistent read = true := by
    unfold jsConsistent
    rw [count (by decide), count (by decide), count (by decide), count (by decide)]
    have facts := checked.consistent
    exact decide_eq_true ⟨by exact_mod_cast facts.1, by exact_mod_cast facts.2.1, by exact_mod_cast facts.2.2⟩
  have positioning : (!(read.map (·.1)).contains "positioning" ||
      jsPositioning (member? read "phase") (member? read "positioning")) = true := by
    rw [Bool.or_eq_true, Bool.not_eq_true', List.contains_eq_mem, decide_eq_false_iff_not]
    by_cases named : "positioning" ∈ read.map (·.1)
    · right
      obtain ⟨here, p, known, valid⟩ := checked.positioning ((same _).1 named)
      obtain ⟨j, writtenP, accepted⟩ := PositioningChecked.accepted valid (text here)
      rw [get known (by rintro ⟨⟩), writtenP]
      exact accepted
    · exact .inl named
  dsimp only
  rw [identity, consistent, positioning]
  rfl

end

end Mkk.Kiosk
