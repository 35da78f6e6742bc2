import Mkk.Lib.Value
import Mathlib.Data.List.Dedup
import Mathlib.Data.Rat.Cast.Order
import Mathlib.Tactic.Ring

/-!
# Values of `JSON.parse`

What a browser reads of a value that Python wrote as JSON. Every number is a double; infinities and
what is not a number have no JSON, so that the text is not read. A dictionary has one member for each
name: the first of the list that stands for it.
-/

namespace Lib

inductive JsValue where
  | null
  | bool (b : Bool)
  | number (x : PyFloat)
  | string (s : String)
  | array (elements : List JsValue)
  | object (members : List (String × JsValue))

/-- The first member of each name. -/
def firsts {α : Type*} : List (String × α) → List (String × α)
  | [] => []
  | member :: rest => member :: (firsts rest).filter (·.1 ≠ member.1)

/-- The value of a name, if there is one. -/
def member? {α : Type*} (members : List (String × α)) (name : String) : Option α :=
  (members.find? (·.1 == name)).map (·.2)

/-- An object or an array is read when all of its values are. -/
def allRead : List (String × Option JsValue) → Option (List (String × JsValue))
  | [] => some []
  | (name, value) :: rest => do
    let value ← value
    let rest ← allRead rest
    return (name, value) :: rest

/-- An integer as the nearest double. -/
def jsInt (n : ℤ) : PyFloat :=
  match toDouble n with
  | some q => .finite q
  | none => .infinity (n < 0)

namespace Value

mutual

/-- `JSON.parse(json.dumps(v))`; none when it throws. -/
def toJs : Value → Option JsValue
  | .none => some .null
  | .bool b => some (.bool b)
  | .int n => some (.number (jsInt n))
  | .float (.finite q) => some (.number (.finite q))
  | .float _ => Option.none
  | .str s => some (.string s)
  | .list elements => (elementsToJs elements).map .array
  | .dict members => (allRead (firsts (membersToJs members))).map .object

def elementsToJs : List Value → Option (List JsValue)
  | [] => some []
  | v :: rest => do
    let first ← v.toJs
    let rest ← elementsToJs rest
    return first :: rest

def membersToJs : List (String × Value) → List (String × Option JsValue)
  | [] => []
  | (name, v) :: rest => (name, v.toJs) :: membersToJs rest

end

end Value

section
variable {α β : Type*} {members : List (String × α)} {name : String}

theorem member?_cons (m : String × α) :
    member? (m :: members) name = if m.1 = name then some m.2 else member? members name := by
  unfold member?
  rw [List.find?_cons]
  by_cases same : m.1 = name
  · rw [if_pos same, beq_iff_eq.2 same]
    rfl
  · rw [if_neg same, beq_eq_false_iff_ne.2 same]

theorem member?_filter {other : String} (ne : name ≠ other) :
    member? (members.filter (·.1 ≠ other)) name = member? members name := by
  induction members with
  | nil => rfl
  | cons m rest ih =>
    rw [List.filter_cons]
    split
    · rw [member?_cons, member?_cons, ih]
    · rename_i dropped
      have same : m.1 = other := by simpa using dropped
      rw [member?_cons, if_neg (same ▸ ne.symm), ih]

/-- The first members have the values of their names. -/
theorem member?_firsts : member? (firsts members) name = member? members name := by
  induction members with
  | nil => rfl
  | cons m rest ih =>
    rw [firsts, member?_cons, member?_cons]
    split
    · rfl
    · rename_i ne
      rw [member?_filter (Ne.symm ne), ih]

theorem mem_names_firsts : name ∈ (firsts members).map (·.1) ↔ name ∈ members.map (·.1) := by
  induction members with
  | nil => rfl
  | cons m rest ih =>
    rw [firsts, List.map_cons, List.map_cons, List.mem_cons, List.mem_cons]
    refine or_congr_right' fun ne => ?_
    rw [← ih, List.mem_map, List.mem_map]
    constructor
    · rintro ⟨m', member, rfl⟩
      exact ⟨m', (List.mem_filter.1 member).1, rfl⟩
    · rintro ⟨m', member, rfl⟩
      exact ⟨m', List.mem_filter.2 ⟨member, by simpa using ne⟩, rfl⟩

theorem nodup_names_firsts : ((firsts members).map (·.1)).Nodup := by
  induction members with
  | nil => exact .nil
  | cons m rest ih =>
    rw [firsts, List.map_cons, List.nodup_cons]
    constructor
    · intro again
      obtain ⟨m', member, same⟩ := List.mem_map.1 again
      have other := (List.mem_filter.1 member).2
      simp only [ne_eq, decide_not, Bool.not_eq_true', decide_eq_false_iff_not] at other
      exact other same
    · exact ih.sublist (List.filter_sublist.map _)

theorem mem_names_iff : name ∈ members.map (·.1) ↔ ∃ v, member? members name = some v := by
  unfold member?
  constructor
  · intro named
    obtain ⟨m, member, same⟩ := List.mem_map.1 named
    obtain ⟨found, h⟩ := Option.isSome_iff_exists.1 (List.find?_isSome.2
      ⟨m, member, beq_iff_eq.2 same⟩ : (members.find? (·.1 == name)).isSome = true)
    exact ⟨found.2, by rw [h]; rfl⟩
  · rintro ⟨v, h⟩
    obtain ⟨m, found, -⟩ := Option.map_eq_some_iff.1 h
    have same : (m.1 == name) = true := by simpa using List.find?_some found
    exact List.mem_map.2 ⟨m, List.mem_of_find?_eq_some found, beq_iff_eq.1 same⟩

end

/-! ## Reading what was written -/

section
variable {members : List (String × Value)} {name : String}

theorem allRead_eq_some {l : List (String × Option JsValue)}
    (all : ∀ m ∈ l, ∃ j, m.2 = some j) : ∃ read, allRead l = some read ∧ read.map (·.1) = l.map (·.1) ∧
      ∀ name, member? read name = (member? l name).bind id := by
  induction l with
  | nil => exact ⟨[], rfl, rfl, fun _ => rfl⟩
  | cons m rest ih =>
    obtain ⟨read, h, names, values⟩ := ih fun m' member => all m' (.tail _ member)
    obtain ⟨n, value⟩ := m
    obtain ⟨j, rfl⟩ : ∃ j, value = some j := all (n, value) (.head _)
    refine ⟨(n, j) :: read, ?_, congrArg (n :: ·) names, fun name => ?_⟩
    · rw [allRead, h]
      rfl
    · rw [member?_cons, member?_cons, values name]
      split <;> rfl

theorem membersToJs_eq : Value.membersToJs members = members.map fun m => (m.1, m.2.toJs) := by
  induction members with
  | nil => rfl
  | cons m rest ih => rw [Value.membersToJs, ih, List.map_cons]

theorem member?_membersToJs : member? (Value.membersToJs members) name =
    (member? members name).map Value.toJs := by
  rw [membersToJs_eq]
  induction members with
  | nil => rfl
  | cons m rest ih =>
    rw [List.map_cons, member?_cons, member?_cons, ih]
    split <;> rfl

theorem member?_of_mem_firsts {α : Type*} {l : List (String × α)} {m : String × α}
    (member : m ∈ firsts l) : member? l m.1 = some m.2 := by
  induction l with
  | nil => cases member
  | cons first rest ih =>
    rw [member?_cons]
    rcases List.mem_cons.1 member with rfl | member
    · rw [if_pos rfl]
    · obtain ⟨member, other⟩ := List.mem_filter.1 member
      simp only [ne_eq, decide_not, Bool.not_eq_true', decide_eq_false_iff_not] at other
      rw [if_neg (Ne.symm other), ih member]

/-- A dictionary whose values can be read is read as an object with its names and their values. -/
theorem toJs_dict (all : ∀ name v, member? members name = some v → ∃ j, v.toJs = some j) :
    ∃ read, (Value.dict members).toJs = some (.object read) ∧ (read.map (·.1)).Nodup ∧
      (∀ name, name ∈ read.map (·.1) ↔ name ∈ members.map (·.1)) ∧
      ∀ name, member? read name = (member? members name).bind Value.toJs := by
  have each : ∀ m ∈ firsts (Value.membersToJs members), ∃ j, m.2 = some j := by
    intro m member
    have found := member?_of_mem_firsts member
    rw [member?_membersToJs] at found
    obtain ⟨v, known, same⟩ := Option.map_eq_some_iff.1 found
    obtain ⟨j, written⟩ := all m.1 v known
    exact ⟨j, same ▸ written⟩
  obtain ⟨read, h, names, values⟩ := allRead_eq_some each
  refine ⟨read, ?_, names ▸ nodup_names_firsts, fun name => ?_, fun name => ?_⟩
  · rw [Value.toJs, h]
    rfl
  · rw [names, mem_names_firsts, membersToJs_eq, List.map_map]
    rfl
  · rw [values name, member?_firsts, member?_membersToJs]
    cases member? members name <;> rfl

/-- A small number is its own double. -/
theorem natToDouble_of_lt {n : ℕ} (small : n < 2 ^ 53) : natToDouble n = some n := by
  have log : Nat.log2 n ≤ 52 := by
    rcases Nat.eq_zero_or_pos n with rfl | positive
    · exact Nat.zero_le 52
    · exact Nat.lt_succ_iff.1 ((Nat.log2_lt positive.ne').2 small)
  unfold natToDouble
  dsimp only
  rw [Nat.sub_eq_zero_of_le log, pow_zero, Nat.mod_one, Nat.mul_zero, Nat.div_one, Nat.mul_one]
  have exact' : ¬(1 < 0 ∨ 0 = 1 ∧ n % 2 = 1) := by omega
  rw [if_neg exact', if_pos (by omega)]

theorem toDouble_of_lt {n : ℤ} (nonneg : 0 ≤ n) (small : n < 2 ^ 53) : toDouble n = some (n : ℚ) := by
  lift n to ℕ using nonneg
  change (natToDouble n).map (fun (m : ℕ) => (m : ℚ)) = _
  rw [natToDouble_of_lt (by exact_mod_cast small)]
  rfl

theorem jsInt_of_lt {n : ℤ} (nonneg : 0 ≤ n) (small : n < 2 ^ 53) : jsInt n = .finite n := by
  unfold jsInt
  rw [toDouble_of_lt nonneg small]

end

end Lib
