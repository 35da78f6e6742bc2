import Mathlib.Algebra.Order.Ring.Rat
import Mathlib.Data.Nat.Cast.Order.Ring
import Mathlib.Data.Nat.Log

/-!
# Values of a JSON reader in Python

An integer and a float are different values, and a bool is neither. A float is exact, infinite or
not a number; the conversion of an integer rounds to 53 bits, ties to even, and raises beyond the
largest double. A dictionary lists its members in order.
-/

namespace Lib

inductive PyFloat where
  | finite (q : ℚ)
  | infinity (negative : Bool)
  | nan
deriving DecidableEq

inductive Value where
  | none
  | bool (b : Bool)
  | int (n : ℤ)
  | float (x : PyFloat)
  | str (s : String)
  | list (elements : List Value)
  | dict (members : List (String × Value))

/-- The double nearest to a natural number; none beyond the largest one. -/
def natToDouble (n : ℕ) : Option ℕ :=
  let unit := 2 ^ (Nat.log2 n - 52)
  let rest := 2 * (n % unit)
  let digits := if unit < rest ∨ (rest = unit ∧ n / unit % 2 = 1) then n / unit + 1 else n / unit
  if Nat.log2 (digits * unit) < 1024 then some (digits * unit) else none

/-- `float(n)`; none when it raises. -/
def toDouble : ℤ → Option ℚ
  | .ofNat n => (natToDouble n).map fun (m : ℕ) => (m : ℚ)
  | .negSucc n => (natToDouble (n + 1)).map fun (m : ℕ) => -(m : ℚ)

example : toDouble (2 ^ 53 + 1) = some (2 ^ 53) := by decide +kernel

theorem toDouble_nonneg {n : ℤ} {q : ℚ} (h : toDouble n = some q) (nonneg : 0 ≤ n) : 0 ≤ q := by
  cases n with
  | ofNat n =>
    obtain ⟨m, -, rfl⟩ := Option.map_eq_some_iff.1 h
    exact Nat.cast_nonneg m
  | negSucc n => exact absurd nonneg (Int.negSucc_not_nonneg n).1

namespace Value

/-- `payload.get(name)`. -/
def get (members : List (String × Value)) (name : String) : Value :=
  ((members.find? fun m => m.1 == name).map (·.2)).getD .none

/-- The names of a dictionary are these. -/
def sameNames (names fields : List String) : Bool :=
  names.all (fields.contains ·) && fields.all (names.contains ·)

def isText (v : Value) (text : String) : Bool :=
  match v with
  | .str s => s == text
  | _ => false

/-- What a check for a finite number that is not a bool sees. -/
inductive NumberCheck where
  | number (q : ℚ)
  | other
  | overflow

def checkNumber : Value → NumberCheck
  | .int n => if (toDouble n).isSome then .number n else .overflow
  | .float (.finite q) => .number q
  | _ => .other

end Value

end Lib
