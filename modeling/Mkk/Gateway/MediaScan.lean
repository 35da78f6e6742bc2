import Mkk.Gateway.FrameOverflow

/-!
# The look for embedded media

`_reject_embedded_media` calls itself for every value below a header, and Python raises a
`RecursionError` when its stack is full. On a stack with room for `room` calls one inside another it
returns on exactly the values without media that nest no deeper (`rejectEmbeddedMedia_ok_iff`), and it
runs out of room on exactly those where it gets to a value below that depth before it finds media
(`rejectEmbeddedMedia_recursion_iff`).
-/

namespace Mkk.Gateway

open Lib

/-- What the readers raise: an error of their checks, the `ValueError` of `json.loads`, or the
`RecursionError` of a full stack. -/
inductive WireError where
  | reader (e : DecodeError)
  | value
  | recursion

/-- `_handle` catches it. -/
def WireError.isProtocolError : WireError → Bool
  | .reader (.protocol _) => true
  | .reader (.tooLarge _) => true
  | .reader .overflow => false
  | .value => false
  | .recursion => false

/-- A reader returns, or raises a `VisionStreamProtocolError`. -/
def Handled {α : Type} (result : Except WireError α) : Prop :=
  RaisesOnly (·.isProtocolError = true) result

/-- The checks of a message do not touch `json.loads`, and they call nothing deep. -/
def reading {α : Type} (x : Except DecodeError α) : Except WireError α := x.mapError .reader

/-- `_reject_embedded_media`, on a stack with room for this many calls of it one inside another. -/
def rejectEmbeddedMedia : ℕ → Value → Except WireError Unit
  | 0, _ => .error .recursion
  | room + 1, .dict members => forM members fun (key, child) => do
    reading (require (!namesMedia key) (.protocol "raw media must not be in frame metadata"))
    rejectEmbeddedMedia room child
  | room + 1, .list elements => forM elements (rejectEmbeddedMedia room)
  | _ + 1, _ => .ok ()

mutual

/-- How many calls of the look are inside one another where the value is deepest. -/
def nesting : Value → ℕ
  | .dict members => nestingMembers members + 1
  | .list elements => nestingElements elements + 1
  | _ => 1

def nestingMembers : Members → ℕ
  | [] => 0
  | (_, child) :: rest => max (nesting child) (nestingMembers rest)

def nestingElements : List Value → ℕ
  | [] => 0
  | child :: rest => max (nesting child) (nestingElements rest)

end

/-- The look goes through the value and finds nothing. -/
def Clear (room : ℕ) (v : Value) : Prop := embedsMedia v = false ∧ nesting v ≤ room

/-- In the order of the value, one below this many levels comes before the first media. -/
def TooDeep : ℕ → Value → Prop
  | 0, _ => True
  | room + 1, .dict members =>
    Reaches (fun m => namesMedia m.1 = false ∧ Clear room m.2)
      (fun m => namesMedia m.1 = false ∧ TooDeep room m.2) members
  | room + 1, .list elements => Reaches (Clear room) (TooDeep room) elements
  | _ + 1, _ => False

/-- The names and the kind of the metadata pass, and the look runs out of room. -/
structure ScanOverflow (room : ℕ) (payload : Members) : Prop extends LegalStart payload where
  deep : TooDeep room (.dict payload)

/-! ## Errors of the checks -/

section
variable {α β : Type}

theorem reading_eq_ok_iff {x : Except DecodeError α} {a : α} : reading x = .ok a ↔ x = .ok a := by
  cases x with
  | ok b =>
    refine ⟨fun h => ?_, fun h => ?_⟩
    · cases h
      rfl
    · cases h
      rfl
  | error e => exact ⟨nofun, nofun⟩

theorem reading_ne_recursion {x : Except DecodeError α} : reading x ≠ .error .recursion := by
  cases x with
  | ok a => exact nofun
  | error e => exact nofun

theorem handled_reading_iff {x : Except DecodeError α} : Handled (reading x) ↔ x ≠ .error .overflow := by
  constructor
  · rintro handled rfl
    exact absurd (handled (.reader .overflow) rfl) nofun
  · intro other e raised
    cases x with
    | ok a => cases raised
    | error d =>
      cases raised
      cases d with
      | protocol s => rfl
      | tooLarge s => rfl
      | overflow => exact absurd rfl other

theorem handled_bind_iff {x : Except WireError α} {f : α → Except WireError β} :
    Handled (x >>= f) ↔ Handled x ∧ ∀ a, x = .ok a → Handled (f a) :=
  raisesOnly_bind_iff

end

/-! ## Values below a value -/

section
variable {members : Members} {elements : List Value} {room : ℕ} {v : Value} {key : String} {e : WireError}

theorem embedsMedia_dict_iff : embedsMedia (.dict members) = false ↔
    ∀ m ∈ members, namesMedia m.1 = false ∧ embedsMedia m.2 = false := by
  rw [embedsMedia]
  induction members with
  | nil => exact iff_of_true rfl (List.forall_mem_nil _)
  | cons m rest ih =>
    rw [embedsMediaMembers, List.forall_mem_cons, ← ih, Bool.or_eq_false_iff, Bool.or_eq_false_iff]

theorem embedsMedia_list_iff : embedsMedia (.list elements) = false ↔
    ∀ child ∈ elements, embedsMedia child = false := by
  rw [embedsMedia]
  induction elements with
  | nil => exact iff_of_true rfl (List.forall_mem_nil _)
  | cons child rest ih =>
    rw [embedsMediaElements, List.forall_mem_cons, ← ih, Bool.or_eq_false_iff]

theorem nesting_dict_le_iff : nesting (.dict members) ≤ room + 1 ↔ ∀ m ∈ members, nesting m.2 ≤ room := by
  rw [nesting, Nat.succ_le_succ_iff]
  induction members with
  | nil => exact iff_of_true (Nat.zero_le _) (List.forall_mem_nil _)
  | cons m rest ih => rw [nestingMembers, List.forall_mem_cons, ← ih, max_le_iff]

theorem nesting_list_le_iff : nesting (.list elements) ≤ room + 1 ↔
    ∀ child ∈ elements, nesting child ≤ room := by
  rw [nesting, Nat.succ_le_succ_iff]
  induction elements with
  | nil => exact iff_of_true (Nat.zero_le _) (List.forall_mem_nil _)
  | cons child rest ih => rw [nestingElements, List.forall_mem_cons, ← ih, max_le_iff]

theorem clear_dict_iff : Clear (room + 1) (.dict members) ↔
    ∀ m ∈ members, namesMedia m.1 = false ∧ Clear room m.2 := by
  simp only [Clear, embedsMedia_dict_iff, nesting_dict_le_iff, ← forall₂_and, and_assoc]

theorem clear_list_iff : Clear (room + 1) (.list elements) ↔ ∀ child ∈ elements, Clear room child := by
  simp only [Clear, embedsMedia_list_iff, nesting_list_le_iff, ← forall₂_and]

theorem not_clear_zero : ¬Clear 0 v := by
  rintro ⟨-, flat⟩
  cases v <;> exact absurd flat (Nat.not_succ_le_zero _)

/-! ## The look -/

/-- A member passes when its name does and its value does. -/
theorem rejectMember_ok_iff : (do
      reading (require (!namesMedia key) (.protocol "raw media must not be in frame metadata"))
      rejectEmbeddedMedia room v : Except WireError Unit) = .ok () ↔
    namesMedia key = false ∧ rejectEmbeddedMedia room v = .ok () := by
  rw [Api.bind_eq_ok_iff]
  simp only [reading_eq_ok_iff, require_eq_ok_iff, Bool.not_eq_true', exists_const]

theorem rejectEmbeddedMedia_ok_iff {u : Unit} : rejectEmbeddedMedia room v = .ok u ↔ Clear room v := by
  induction room generalizing v with
  | zero => exact ⟨nofun, fun clear => absurd clear not_clear_zero⟩
  | succ room ih =>
    cases v with
    | dict members =>
      rw [rejectEmbeddedMedia, forM_eq_ok_iff, clear_dict_iff]
      refine forall₂_congr fun m _ => ?_
      rw [rejectMember_ok_iff, ih]
    | list elements =>
      rw [rejectEmbeddedMedia, forM_eq_ok_iff, clear_list_iff]
      exact forall₂_congr fun child _ => ih
    | none | bool | int | float | str =>
      exact ⟨fun _ => ⟨rfl, Nat.succ_le_succ (Nat.zero_le _)⟩, fun _ => rfl⟩

/-- The stack is full at a value below its room that the look gets to. -/
theorem rejectEmbeddedMedia_recursion_iff :
    rejectEmbeddedMedia room v = .error .recursion ↔ TooDeep room v := by
  induction room generalizing v with
  | zero => exact ⟨fun _ => trivial, fun _ => rfl⟩
  | succ room ih =>
    cases v with
    | dict members =>
      rw [rejectEmbeddedMedia, forM_eq_error_iff, TooDeep, Reaches]
      refine exists₃_congr fun before m after => and_congr_right fun _ => and_congr ?_ ?_
      · refine forall₂_congr fun b _ => ?_
        rw [rejectMember_ok_iff, rejectEmbeddedMedia_ok_iff]
      · simp only [bind_eq_error_iff, reading_ne_recursion, reading_eq_ok_iff, require_eq_ok_iff,
          Bool.not_eq_true', exists_const, false_or, ih]
    | list elements =>
      rw [rejectEmbeddedMedia, forM_eq_error_iff, TooDeep, Reaches]
      refine exists₃_congr fun before child after => and_congr_right fun _ => and_congr ?_ ih
      exact forall₂_congr fun b _ => rejectEmbeddedMedia_ok_iff
    | none | bool | int | float | str => exact ⟨nofun, nofun⟩

/-- Any other error is the one that there is media. -/
theorem rejectEmbeddedMedia_error (raised : rejectEmbeddedMedia room v = .error e) :
    e = .recursion ∨ (e.isProtocolError = true ∧ embedsMedia v = true) := by
  induction room generalizing v with
  | zero =>
    cases raised
    exact .inl rfl
  | succ room ih =>
    cases v with
    | dict members =>
      obtain ⟨before, m, after, rfl, -, raised⟩ := forM_eq_error_iff.1 raised
      have here : m ∈ before ++ m :: after := List.mem_append_right _ List.mem_cons_self
      have clear (none : ¬embedsMedia (.dict (before ++ m :: after)) = true) :
          namesMedia m.1 = false ∧ embedsMedia m.2 = false :=
        embedsMedia_dict_iff.1 (Bool.eq_false_iff.2 none) m here
      rcases bind_eq_error_iff.1 raised with raised | ⟨_, -, raised⟩
      · cases named : namesMedia m.1 with
        | false =>
          rw [named] at raised
          cases raised
        | true =>
          rw [named] at raised
          cases raised
          refine .inr ⟨rfl, by_contra fun none => ?_⟩
          rw [(clear none).1] at named
          cases named
      · refine (ih raised).imp_right fun ⟨protocol, media⟩ => ⟨protocol, by_contra fun none => ?_⟩
        rw [(clear none).2] at media
        cases media
    | list elements =>
      obtain ⟨before, child, after, rfl, -, raised⟩ := forM_eq_error_iff.1 raised
      refine (ih raised).imp_right fun ⟨protocol, media⟩ => ⟨protocol, by_contra fun none => ?_⟩
      rw [embedsMedia_list_iff.1 (Bool.eq_false_iff.2 none) child
        (List.mem_append_right _ List.mem_cons_self)] at media
      cases media
    | none | bool | int | float | str => cases raised

theorem handled_rejectEmbeddedMedia_iff : Handled (rejectEmbeddedMedia room v) ↔ ¬TooDeep room v := by
  rw [← rejectEmbeddedMedia_recursion_iff]
  constructor
  · intro handled raised
    exact absurd (handled _ raised) nofun
  · intro room e raised
    rcases rejectEmbeddedMedia_error raised with rfl | ⟨protocol, -⟩
    · exact absurd raised room
    · exact protocol

/-- A value without media runs out of room when it nests deeper. -/
theorem tooDeep_iff_of_clear (clear : embedsMedia v = false) : TooDeep room v ↔ room < nesting v := by
  rw [← rejectEmbeddedMedia_recursion_iff, ← not_le]
  constructor
  · intro raised flat
    have passed : rejectEmbeddedMedia room v = .ok () := rejectEmbeddedMedia_ok_iff.2 ⟨clear, flat⟩
    rw [passed] at raised
    cases raised
  · intro deep
    cases found : rejectEmbeddedMedia room v with
    | ok _ => exact absurd (rejectEmbeddedMedia_ok_iff.1 found).2 deep
    | error e =>
      rcases rejectEmbeddedMedia_error found with rfl | ⟨-, media⟩
      · rfl
      · rw [clear] at media
        cases media

end

end Mkk.Gateway
