import Mkk.Lib.Value

/-!
# Equality of values

Python's `==` on the values of a JSON reader: a bool is the number 0 or 1, an integer and a float are
compared exactly, and a dictionary does not depend on the order of its members.
-/

namespace Lib

/-- The number a value is compared as. -/
def Value.asNumber : Value → Option PyFloat
  | .bool b => some (.finite (if b then 1 else 0))
  | .int n => some (.finite n)
  | .float x => some x
  | _ => Option.none

/-- What is not a number is not equal to itself. -/
def PyFloat.equals (x y : PyFloat) : Bool := x = y && x ≠ .nan

def Value.numbersEqual (v w : Value) : Bool :=
  match v.asNumber, w.asNumber with
  | some x, some y => x.equals y
  | _, _ => false

mutual

/-- `==`. -/
def Value.equals : Value → Value → Bool
  | .none, .none => true
  | .str s, .str t => s == t
  | .list l, .list m => elementsEqual l m
  | .dict a, .dict b => Value.sameNames (a.map (·.1)) (b.map (·.1)) && membersEqual a b
  | .bool b, w => Value.numbersEqual (.bool b) w
  | .int n, w => Value.numbersEqual (.int n) w
  | .float x, w => Value.numbersEqual (.float x) w
  | _, _ => false

def elementsEqual : List Value → List Value → Bool
  | [], [] => true
  | v :: l, w :: m => v.equals w && elementsEqual l m
  | _, _ => false

/-- Every member is in the other dictionary with an equal value. -/
def membersEqual : List (String × Value) → List (String × Value) → Bool
  | [], _ => true
  | (name, v) :: rest, b =>
    (match b.find? (·.1 == name) with
      | some (_, w) => v.equals w
      | none => false) && membersEqual rest b

end

example : (Value.bool true).equals (.float (.finite 1)) = true := by decide +kernel

@[simp] theorem Value.equals_none : Value.none.equals .none = true := by rw [Value.equals]

@[simp] theorem Value.equals_str (s t : String) : (Value.str s).equals (.str t) = (s == t) := by
  rw [Value.equals]

@[simp] theorem Value.equals_bool (b c : Bool) : (Value.bool b).equals (.bool c) = (b == c) := by
  rw [Value.equals]
  cases b <;> cases c <;> decide +kernel

@[simp] theorem Value.equals_list (l m : List Value) :
    (Value.list l).equals (.list m) = elementsEqual l m := by
  rw [Value.equals]

/-- Texts are equal as lists when they are equal. -/
theorem elementsEqual_texts (texts : List String) :
    elementsEqual (texts.map .str) (texts.map .str) = true := by
  induction texts with
  | nil => rw [List.map_nil, elementsEqual]
  | cons s rest ih => rw [List.map_cons, elementsEqual, Value.equals_str, beq_self_eq_true, ih, Bool.and_self]

end Lib
