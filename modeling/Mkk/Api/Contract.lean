import Mkk.Lib.Rounding
import Mkk.Lib.Sorting

/-!
# The contract boundary

The text patterns of `schemas.py`, the exceptions the API code raises and the rule every
pydantic model follows: `construct` returns the value when each declared limit and
validator of its own fields holds and raises a `ValidationError` otherwise. Values that
were constructed before are taken as they are, as pydantic does with model instances.
Numbers that the source holds as floats are exact rationals.
-/

namespace Mkk.Api

/-- What the API code raises. `validation` names the model whose constructor refused. -/
inductive PyError where
  | domain (statusCode : ℕ) (code message : String)
  | validation (model : String)
  | valueError (message : String)
  | statisticsError
  | assertionError
  | stopIteration
  | runtimeError (message : String)
  | overflowError (message : String)
  deriving DecidableEq, Repr

/-- `raise DomainError(...)` is the only exception the routes translate. -/
def PyError.isDomain : PyError → Bool
  | .domain .. => true
  | _ => false

/-! ## Text patterns -/

/-- `[A-Za-z0-9]` -/
def isAsciiAlnum (c : Char) : Bool := c.isAlphanum

/-- `[A-Za-z0-9._:-]` -/
def isIdentifierChar (c : Char) : Bool := isAsciiAlnum c || c ∈ ['.', '_', ':', '-']

/-- `IDENTIFIER_PATTERN` with `min_length=1, max_length=128`. -/
def isIdentifier (s : String) : Bool :=
  match s.toList with
  | [] => false
  | c :: rest => isAsciiAlnum c && rest.all isIdentifierChar && decide (rest.length < 128)

/-- An identifier followed by identifier characters is one, if it is not too long. -/
theorem isIdentifier_append {s t : String} (hs : isIdentifier s = true)
    (ht : ∀ c ∈ t.toList, isIdentifierChar c = true) (len : s.length + t.length ≤ 128) :
    isIdentifier (s ++ t) = true := by
  unfold isIdentifier at *
  rw [String.toList_append]
  cases hl : s.toList with
  | nil => rw [hl] at hs; cases hs
  | cons c rest =>
    rw [← String.length_toList, ← String.length_toList, hl, List.length_cons] at len
    rw [hl] at hs
    simp only [Bool.and_eq_true, decide_eq_true_eq, List.cons_append, List.all_append,
      List.length_append] at hs ⊢
    exact ⟨⟨hs.1.1, hs.1.2, List.all_eq_true.2 ht⟩, by omega⟩

/-- `Revision` with `min_length=1, max_length=128`. -/
def isRevision (s : String) : Bool := decide (1 ≤ s.length) && decide (s.length ≤ 128)

/-- `_validate_reason`: `REASON_PATTERN` over 1 to 128 characters. -/
def isReason (s : String) : Bool :=
  match s.toList with
  | [] => false
  | c :: rest => (c.isLower || c.isDigit) &&
      rest.all (fun d => d.isLower || d.isDigit || d ∈ ['_', '-']) && decide (rest.length < 128)

/-- `LABEL_PATTERN` -/
def isLabel (s : String) : Bool :=
  match s.toList with
  | [] => false
  | c :: rest => c.isLower && rest.all (fun d => d.isLower || d.isDigit || d == '_') &&
      decide (rest.length < 64)

/-- `Field(ge=0, le=1)` -/
abbrev InUnit (q : ℚ) : Prop := 0 ≤ q ∧ q ≤ 1

/-- A text of `min_length=1` and at most `n` characters. -/
abbrev TextUpTo (n : ℕ) (s : String) : Prop := 1 ≤ s.length ∧ s.length ≤ n

/-- Exactly one of a value and its missing reason is present. -/
abbrev ValueXorReason {α : Type*} (value : Option α) (reason : Option String) : Prop :=
  value.isNone ≠ reason.isNone

/-- `None if value is None else _validate_reason(value)` raises nothing. -/
abbrev ReasonOk (reason : Option String) : Prop := ∀ r ∈ reason, isReason r = true

/-! ## Construction -/

/-- A pydantic model: its name and the limits and validators of its own fields. -/
class ContractModel (α : Type) where
  modelName : String
  FieldsValid : α → Prop
  decidable : DecidablePred FieldsValid

attribute [reducible, instance] ContractModel.decidable

/-- Calling the model's constructor on the fields of `a`. -/
def construct {α : Type} [ContractModel α] (a : α) : Except PyError α :=
  if ContractModel.FieldsValid a then .ok a else .error (.validation (ContractModel.modelName α))

section Construct

variable {α : Type} [ContractModel α] {a b : α}

theorem construct_ok (h : ContractModel.FieldsValid a) : construct a = .ok a := if_pos h

theorem construct_eq_ok_iff : construct a = .ok b ↔ a = b ∧ ContractModel.FieldsValid a := by
  unfold construct
  split <;> rename_i h <;> simp [h]

theorem construct_valid (h : construct a = .ok b) : ContractModel.FieldsValid b := by
  obtain ⟨rfl, valid⟩ := construct_eq_ok_iff.1 h
  exact valid

theorem construct_isOk_iff : (construct a).isOk = true ↔ ContractModel.FieldsValid a := by
  unfold construct
  split <;> rename_i h <;> simp [Except.isOk, Except.toBool, h]

end Construct

/-! ## Exceptions in sequence -/

section Except

variable {ε α β : Type}

theorem bind_ok {x : Except ε α} {a : α} (h : x = .ok a) (f : α → Except ε β) :
    (x >>= f) = f a := by
  rw [h]; rfl

/-- A sequence of calls returns exactly when its first call does and the rest does on its result. -/
theorem bind_eq_ok_iff {x : Except ε α} {f : α → Except ε β} {b : β} :
    (x >>= f) = .ok b ↔ ∃ a, x = .ok a ∧ f a = .ok b := by
  cases x with
  | error e => simp [bind, Except.bind]
  | ok a => simp [bind, Except.bind]

theorem bind_isOk_iff {x : Except ε α} {f : α → Except ε β} :
    (x >>= f).isOk = true ↔ ∃ a, x = .ok a ∧ (f a).isOk = true := by
  cases x with
  | error e => simp [bind, Except.bind, Except.isOk, Except.toBool]
  | ok a => simp [bind, Except.bind]

theorem isOk_iff_exists {x : Except ε α} : x.isOk = true ↔ ∃ a, x = .ok a := by
  cases x <;> simp [Except.isOk, Except.toBool]

theorem any_toOption_iff {x : Except ε α} {p : α → Bool} :
    x.toOption.any p = true ↔ ∃ a, x = .ok a ∧ p a = true := by
  cases x <;> simp [Except.toOption]

/-- `x if condition else None` -/
def onlyIf (condition : Bool) (x : Except ε α) : Except ε (Option α) :=
  if condition then some <$> x else pure none

@[simp] theorem onlyIf_false (x : Except ε α) : onlyIf false x = .ok none := rfl

@[simp] theorem onlyIf_true_ok (a : α) : onlyIf true (.ok a : Except ε α) = .ok (some a) := rfl

/-- A conditional call returns when the call does, with a value exactly under the condition. -/
theorem onlyIf_ok {condition : Bool} {x : Except ε α} {P : α → Prop}
    (h : condition = true → ∃ a, x = .ok a ∧ P a) :
    ∃ o, onlyIf condition x = .ok o ∧ o.isSome = condition ∧ ∀ a ∈ o, P a := by
  cases condition with
  | false => exact ⟨none, rfl, rfl, fun _ e => nomatch e⟩
  | true =>
    obtain ⟨a, rfl, ha⟩ := h rfl
    exact ⟨some a, rfl, rfl, fun _ e => by cases e; exact ha⟩

/-- A loop of calls that all return. -/
theorem mapM_eq_ok {f : α → Except ε β} {g : α → β} {l : List α} (h : ∀ a ∈ l, f a = .ok (g a)) :
    l.mapM f = .ok (l.map g) := by
  induction l with
  | nil => rfl
  | cons a rest ih =>
    rw [List.mapM_cons, bind_ok (h a List.mem_cons_self),
      bind_ok (ih fun b hb => h b (List.mem_cons_of_mem _ hb))]
    rfl

/-- A loop of calls that all return, each with a property of its argument and result. -/
theorem mapM_ok {f : α → Except ε β} {R : α → β → Prop} {l : List α}
    (h : ∀ a ∈ l, ∃ b, f a = .ok b ∧ R a b) : ∃ bs, l.mapM f = .ok bs ∧ List.Forall₂ R l bs := by
  induction l with
  | nil => exact ⟨[], rfl, .nil⟩
  | cons a rest ih =>
    obtain ⟨b, hb, hr⟩ := h a List.mem_cons_self
    obtain ⟨bs, hbs, hrs⟩ := ih fun a ha => h a (List.mem_cons_of_mem _ ha)
    exact ⟨b :: bs, by rw [List.mapM_cons, bind_ok hb, bind_ok hbs]; rfl, .cons hr hrs⟩

/-- What a loop of calls returns was returned by one of them. -/
theorem mapM_mem {f : α → Except ε β} {l : List α} {bs : List β} (h : l.mapM f = .ok bs) {b : β}
    (hb : b ∈ bs) : ∃ a ∈ l, f a = .ok b := by
  induction l generalizing bs with
  | nil => cases h; cases hb
  | cons a rest ih =>
    rw [List.mapM_cons] at h
    obtain ⟨b', hb', h⟩ := bind_eq_ok_iff.1 h
    obtain ⟨bs', hbs', h⟩ := bind_eq_ok_iff.1 h
    cases h
    rcases List.mem_cons.1 hb with rfl | hb
    · exact ⟨a, List.mem_cons_self, hb'⟩
    · obtain ⟨a', ha', h'⟩ := ih hbs' hb
      exact ⟨a', List.mem_cons_of_mem _ ha', h'⟩

/-- What one of the calls returned is among the results of the loop. -/
theorem mapM_of_mem {f : α → Except ε β} {l : List α} {bs : List β} (h : l.mapM f = .ok bs) {a : α}
    (ha : a ∈ l) : ∃ b ∈ bs, f a = .ok b := by
  induction l generalizing bs with
  | nil => cases ha
  | cons a' rest ih =>
    rw [List.mapM_cons] at h
    obtain ⟨b', hb', h⟩ := bind_eq_ok_iff.1 h
    obtain ⟨bs', hbs', h⟩ := bind_eq_ok_iff.1 h
    cases h
    rcases List.mem_cons.1 ha with rfl | ha
    · exact ⟨b', List.mem_cons_self, hb'⟩
    · obtain ⟨b, hb, hf⟩ := ih hbs' ha
      exact ⟨b, List.mem_cons_of_mem _ hb, hf⟩

/-- A loop returns exactly when each of its calls does. -/
theorem mapM_isOk_iff {f : α → Except ε β} {l : List α} :
    (l.mapM f).isOk = true ↔ ∀ a ∈ l, (f a).isOk = true := by
  induction l with
  | nil => simp [List.mapM_nil, pure, Except.pure, Except.isOk, Except.toBool]
  | cons a rest ih =>
    rw [List.mapM_cons, bind_isOk_iff]
    constructor
    · rintro ⟨b, hb, hrest⟩ c hc
      obtain ⟨bs, hbs, -⟩ := bind_isOk_iff.1 hrest
      rcases List.mem_cons.1 hc with rfl | hc
      · exact isOk_iff_exists.2 ⟨b, hb⟩
      · exact ih.1 (isOk_iff_exists.2 ⟨bs, hbs⟩) c hc
    · intro h
      obtain ⟨b, hb⟩ := isOk_iff_exists.1 (h a List.mem_cons_self)
      obtain ⟨bs, hbs⟩ := isOk_iff_exists.1 (ih.2 fun c hc => h c (List.mem_cons_of_mem _ hc))
      exact ⟨b, hb, by rw [bind_ok hbs]; rfl⟩

/-- A loop whose turns all return keeps an invariant over the elements it has read. -/
theorem foldlM_ok {σ : Type} {f : σ → α → Except ε σ} {Inv : List α → σ → Prop} {l : List α}
    (step : ∀ done a rest s, done ++ a :: rest = l → Inv done s →
      ∃ s', f s a = .ok s' ∧ Inv (done ++ [a]) s')
    {s : σ} (hs : Inv [] s) : ∃ s', l.foldlM f s = .ok s' ∧ Inv l s' := by
  suffices h : ∀ rest done s, done ++ rest = l → Inv done s →
      ∃ s', rest.foldlM f s = .ok s' ∧ Inv l s' from h l [] s rfl hs
  intro rest
  induction rest with
  | nil =>
    intro done s hl hs
    rw [List.append_nil] at hl
    exact ⟨s, rfl, hl ▸ hs⟩
  | cons a rest ih =>
    intro done s hl hs
    obtain ⟨s₁, h₁, inv₁⟩ := step done a rest s hl hs
    obtain ⟨s₂, h₂, inv₂⟩ := ih (done ++ [a]) s₁ (by simpa using hl) inv₁
    exact ⟨s₂, by rw [List.foldlM_cons, bind_ok h₁, h₂], inv₂⟩

/-- What the turns of a loop keep, by the positions it has read, holds when it returns. -/
theorem foldlM_positions {σ : Type} {f : σ → α → Except ε σ} {Inv : ℕ → σ → Prop} {l : List α}
    (step : ∀ k a s s', l[k]? = some a → Inv k s → f s a = .ok s' → Inv (k + 1) s')
    {s s' : σ} (hs : Inv 0 s) (h : l.foldlM f s = .ok s') : Inv l.length s' := by
  suffices go : ∀ rest done s, done ++ rest = l → Inv done.length s → rest.foldlM f s = .ok s' →
      Inv l.length s' from go l [] s rfl hs h
  intro rest
  induction rest with
  | nil =>
    intro done s hl inv h
    cases h
    rw [List.append_nil] at hl
    exact hl ▸ inv
  | cons a rest ih =>
    intro done s hl inv h
    rw [List.foldlM_cons] at h
    obtain ⟨s₁, turn, h⟩ := bind_eq_ok_iff.1 h
    have found : l[done.length]? = some a := by rw [← hl]; simp
    refine ih (done ++ [a]) s₁ (by simpa using hl) ?_ h
    rw [List.length_append]
    exact step done.length a s s₁ found inv turn

/-- A loop that raises on a bad element and else updates its state. -/
theorem foldlM_checked {σ : Type} {f : σ → α → σ} {bad : α → Bool} {e : ε} {l : List α} {s s' : σ}
    (h : l.foldlM (fun s a => if bad a then Except.error e else Except.ok (f s a)) s = .ok s') :
    (∀ a ∈ l, bad a = false) ∧ s' = l.foldl f s := by
  induction l generalizing s with
  | nil => cases h; exact ⟨fun _ h => (nomatch h), rfl⟩
  | cons a rest ih =>
    rw [List.foldlM_cons] at h
    obtain ⟨s₁, h₁, h⟩ := bind_eq_ok_iff.1 h
    split_ifs at h₁ with hbad
    cases h₁
    obtain ⟨good, hs'⟩ := ih h
    exact ⟨List.forall_mem_cons.2 ⟨by simpa using hbad, good⟩, hs'⟩

/-- A loop that returned has kept what each of its turns keeps. -/
theorem foldlM_keeps {σ : Type} {f : σ → α → Except ε σ} (Inv : σ → Prop) {l : List α}
    (turn : ∀ a ∈ l, ∀ s s', f s a = .ok s' → Inv s → Inv s') {s s' : σ}
    (h : l.foldlM f s = .ok s') (hs : Inv s) : Inv s' := by
  induction l generalizing s with
  | nil => cases h; exact hs
  | cons a rest ih =>
    rw [List.foldlM_cons] at h
    obtain ⟨s₁, h₁, h⟩ := bind_eq_ok_iff.1 h
    have inv₁ := turn a List.mem_cons_self s s₁ h₁ hs
    exact ih (fun b hb => turn b (List.mem_cons_of_mem _ hb)) h inv₁

end Except

/-! ## Means -/

open Lib

/-- An addition of `math.fsum`. Its totals are exact; one that is rounded beyond the largest double raises.
Between the two the partial sums of `fsum` may overflow as well, so nothing relies on totals in there. -/
def fsumAdd (total x : ℚ) : Except PyError ℚ :=
  if |total + x| < doubleLimit then .ok (total + x)
  else .error (.overflowError "intermediate overflow in fsum")

/-- `math.fsum` -/
def fsum (l : List ℚ) : Except PyError ℚ := l.foldlM fsumAdd 0

/-- `statistics.fmean`, with an exact quotient. -/
def fmean (l : List ℚ) : Except PyError ℚ :=
  if l = [] then .error .statisticsError
  else do
    let total ← fsum l
    return total / l.length

theorem fsum_from {l : List ℚ} {total : ℚ} (small : |total| + (l.map (|·|)).sum < doubleLimit) :
    l.foldlM fsumAdd total = .ok (total + l.sum) := by
  induction l generalizing total with
  | nil => exact congrArg Except.ok (add_zero total).symm
  | cons x rest ih =>
    rw [List.map_cons, List.sum_cons] at small
    have tail : 0 ≤ (rest.map (|·|)).sum :=
      List.sum_nonneg (List.forall_mem_map.2 fun _ _ => abs_nonneg _)
    have triangle := abs_add_le total x
    rw [List.foldlM_cons, fsumAdd, if_pos (by linarith), List.sum_cons, ← add_assoc]
    exact ih (by linarith)

/-- A sum whose magnitudes stay below the limit does not overflow. -/
theorem fsum_ok {l : List ℚ} (small : (l.map (|·|)).sum < doubleLimit) : fsum l = .ok l.sum := by
  rw [fsum, fsum_from (by rwa [abs_zero, zero_add]), zero_add]

/-- A sum of magnitudes overflows where it reaches the limit, and only there. -/
theorem fsum_overflow_iff {l : List ℚ} (nonneg : ∀ x ∈ l, 0 ≤ x) :
    fsum l = .error (.overflowError "intermediate overflow in fsum") ↔ doubleLimit ≤ l.sum := by
  suffices from_total : ∀ total : ℚ, 0 ≤ total → total < doubleLimit →
      (l.foldlM fsumAdd total = .error (.overflowError "intermediate overflow in fsum") ↔
        doubleLimit ≤ total + l.sum) by
    have positive : (0 : ℚ) < doubleLimit := Nat.cast_pos.2 doubleLimit_pos
    rw [fsum, from_total 0 le_rfl positive, zero_add]
  induction l with
  | nil =>
    intro total _ below
    rw [List.sum_nil, add_zero]
    exact ⟨nofun, fun reached => absurd below reached.not_gt⟩
  | cons x rest ih =>
    obtain ⟨positive, nonneg⟩ := List.forall_mem_cons.1 nonneg
    intro total start below
    have tail : 0 ≤ rest.sum := List.sum_nonneg nonneg
    rw [List.foldlM_cons, fsumAdd, abs_of_nonneg (by linarith), List.sum_cons]
    split_ifs with fits
    · rw [← add_assoc]
      exact ih nonneg (total + x) (by linarith) fits
    · exact ⟨fun _ => by linarith, fun _ => rfl⟩

theorem fmean_ok {l : List ℚ} (h : l ≠ []) (small : (l.map (|·|)).sum < doubleLimit) :
    fmean l = .ok (l.sum / l.length) := by
  rw [fmean, if_neg h, fsum_ok small]
  rfl

/-- Few numbers that are bounded do not add up to the limit. -/
theorem sum_abs_lt_doubleLimit {l : List ℚ} (bound : ℚ) (within : ∀ x ∈ l, |x| ≤ bound)
    (few : l.length * bound < 2 ^ 100) : (l.map (|·|)).sum < doubleLimit := by
  have total := List.sum_le_card_nsmul (l.map (|·|)) bound (List.forall_mem_map.2 within)
  rw [List.length_map, nsmul_eq_mul] at total
  have limit : (2 : ℚ) ^ 100 < doubleLimit := by exact_mod_cast pow_lt_doubleLimit
  linarith

/-- A mean lies between the bounds of its values. -/
theorem mean_mem_Icc {l : List ℚ} {a b : ℚ} (h : l ≠ []) (hl : ∀ x ∈ l, a ≤ x ∧ x ≤ b) :
    a ≤ l.sum / l.length ∧ l.sum / l.length ≤ b := by
  have hpos : (0 : ℚ) < l.length := by exact_mod_cast List.length_pos_iff.2 h
  have hlo : l.length • a ≤ l.sum := List.card_nsmul_le_sum l a fun x hx => (hl x hx).1
  have hhi : l.sum ≤ l.length • b := List.sum_le_card_nsmul l b fun x hx => (hl x hx).2
  rw [nsmul_eq_mul] at hlo hhi
  constructor
  · rw [le_div_iff₀ hpos]; linarith
  · rw [div_le_iff₀ hpos]; linarith

end Mkk.Api
