import Mathlib.Data.Int.Notation
import Mathlib.Data.List.Basic

/-!
# JSON text

`loads` reads a text as the Python standard library does and `dumps` writes one without blanks. A
float keeps its literal, since the programs here only tell it from an integer; the escape of a
lone surrogate, which has no character, reads as the replacement character. A flat object of plain
strings and integers reads back as it was written (`loads_dumps`).
-/

namespace Lib

inductive Json where
  | null
  | bool (b : Bool)
  | int (n : ℤ)
  | float (literal : String)
  | str (s : String)
  | arr (elements : List Json)
  | obj (members : List (String × Json))

namespace Json

/-- `dict.get`: of two members with one name the dictionary keeps the later. -/
def get? (members : List (String × Json)) (name : String) : Option Json :=
  (members.reverse.find? (·.1 == name)).map (·.2)

/-! ## Writing -/

/-- The hexadecimal digits of a control character. -/
def hex2 (n : ℕ) : List Char :=
  [Nat.digitChar (n / 16), Nat.digitChar (n % 16)]

/-- A character between the quotes, with `ensure_ascii=False`. -/
def escape (c : Char) : List Char :=
  if c = '"' then ['\\', '"']
  else if c = '\\' then ['\\', '\\']
  else if c = '\n' then ['\\', 'n']
  else if c = '\r' then ['\\', 'r']
  else if c = '\t' then ['\\', 't']
  else if c = Char.ofNat 8 then ['\\', 'b']
  else if c = Char.ofNat 12 then ['\\', 'f']
  else if c.toNat < 32 then ['\\', 'u', '0', '0'] ++ hex2 c.toNat
  else [c]

def quote (s : String) : List Char :=
  '"' :: s.toList.flatMap escape ++ ['"']

def writeInt : ℤ → List Char
  | .ofNat n => Nat.toDigits 10 n
  | .negSucc n => '-' :: Nat.toDigits 10 (n + 1)

mutual

/-- With the separators `","` and `":"`. -/
def write : Json → List Char
  | .null => ['n', 'u', 'l', 'l']
  | .bool true => ['t', 'r', 'u', 'e']
  | .bool false => ['f', 'a', 'l', 's', 'e']
  | .int n => writeInt n
  | .float literal => literal.toList
  | .str s => quote s
  | .arr elements => '[' :: writeElements elements ++ [']']
  | .obj members => '\x7b' :: writeMembers members ++ ['\x7d']

def writeElements : List Json → List Char
  | [] => []
  | [v] => write v
  | v :: rest => write v ++ ',' :: writeElements rest

def writeMembers : List (String × Json) → List Char
  | [] => []
  | [(name, v)] => quote name ++ ':' :: write v
  | (name, v) :: rest => quote name ++ ':' :: (write v ++ ',' :: writeMembers rest)

end

def dumps (v : Json) : String :=
  String.ofList (write v)

/-! ## Reading -/

def isSpace (c : Char) : Bool :=
  c = ' ' ∨ c = '\t' ∨ c = '\n' ∨ c = '\r'

def skip (text : List Char) : List Char :=
  text.dropWhile isSpace

def hexDigit? (c : Char) : Option ℕ :=
  if '0' ≤ c ∧ c ≤ '9' then some (c.toNat - 48)
  else if 'a' ≤ c ∧ c ≤ 'f' then some (c.toNat - 87)
  else if 'A' ≤ c ∧ c ≤ 'F' then some (c.toNat - 55)
  else none

def hex4 (a b c d : Char) : Option ℕ := do
  let a ← hexDigit? a
  let b ← hexDigit? b
  let c ← hexDigit? c
  let d ← hexDigit? d
  return ((a * 16 + b) * 16 + c) * 16 + d

/-- The character an escape of one letter stands for. -/
def unescape (c : Char) : Option Char :=
  if c = '"' ∨ c = '\\' ∨ c = '/' then some c
  else if c = 'n' then some '\n'
  else if c = 'r' then some '\r'
  else if c = 't' then some '\t'
  else if c = 'b' then some (Char.ofNat 8)
  else if c = 'f' then some (Char.ofNat 12)
  else none

/-- The code units up to the closing quote, and the text after it. -/
def readUnits : List Char → Option (List ℕ × List Char)
  | [] => none
  | '"' :: rest => some ([], rest)
  | '\\' :: 'u' :: a :: b :: c :: d :: rest =>
    (hex4 a b c d).bind fun n => (readUnits rest).map fun (units, rest) => (n :: units, rest)
  | '\\' :: c :: rest =>
    (unescape c).bind fun c => (readUnits rest).map fun (units, rest) => (c.toNat :: units, rest)
  | c :: rest =>
    if c.toNat < 32 then none
    else (readUnits rest).map fun (units, rest) => (c.toNat :: units, rest)

/-- Two surrogates make one character; one alone has none. -/
def joinUnits : List ℕ → List Char
  | [] => []
  | [n] => [if n.isValidChar then Char.ofNat n else Char.ofNat 0xFFFD]
  | high :: low :: rest =>
    if 0xD800 ≤ high ∧ high ≤ 0xDBFF ∧ 0xDC00 ≤ low ∧ low ≤ 0xDFFF then
      Char.ofNat (0x10000 + (high - 0xD800) * 0x400 + (low - 0xDC00)) :: joinUnits rest
    else
      (if high.isValidChar then Char.ofNat high else Char.ofNat 0xFFFD) :: joinUnits (low :: rest)

def readString (text : List Char) : Option (String × List Char) :=
  (readUnits text).map fun (units, rest) => (String.ofList (joinUnits units), rest)

/-- A fraction, or an exponent, when one follows. -/
def readFraction : List Char → List Char × List Char
  | '.' :: rest =>
    let digits := rest.takeWhile Char.isDigit
    if digits = [] then ([], '.' :: rest) else ('.' :: digits, rest.dropWhile Char.isDigit)
  | text => ([], text)

def readExponent : List Char → List Char × List Char
  | e :: rest =>
    let sign := rest.take 1 |>.filter fun c => c = '+' ∨ c = '-'
    let rest' := rest.drop sign.length
    let digits := rest'.takeWhile Char.isDigit
    if (e = 'e' ∨ e = 'E') ∧ digits ≠ [] then
      (e :: sign ++ digits, rest'.dropWhile Char.isDigit)
    else ([], e :: rest)
  | [] => ([], [])

/-- The digits before the fraction: a leading zero stands alone. -/
def readWhole : List Char → Option (List Char × List Char)
  | '0' :: rest => some (['0'], rest)
  | c :: rest =>
    if c.isDigit then some (c :: rest.takeWhile Char.isDigit, rest.dropWhile Char.isDigit) else none
  | [] => none

/-- A number is an integer unless a fraction or an exponent follows. -/
def readNumber (negative : Bool) (text : List Char) : Option (Json × List Char) :=
  (readWhole text).map fun (whole, rest) =>
    let fraction := readFraction rest
    let exponent := readExponent fraction.2
    if fraction.1 = [] ∧ exponent.1 = [] then
      let n : ℤ := Nat.ofDigitChars 10 whole 0
      (.int (if negative then -n else n), rest)
    else
      let literal := String.ofList (whole ++ fraction.1 ++ exponent.1)
      (.float (if negative then "-" ++ literal else literal), exponent.2)

mutual

/-- One value at the front of the text; `fuel` bounds the nesting. -/
def readValue : ℕ → List Char → Option (Json × List Char)
  | 0, _ => none
  | fuel + 1, text =>
    match text with
    | '"' :: rest => (readString rest).map fun (s, rest) => (.str s, rest)
    | '\x7b' :: rest =>
      match skip rest with
      | '\x7d' :: rest => some (.obj [], rest)
      | rest => (readMembers fuel rest).map fun (members, rest) => (.obj members, rest)
    | '[' :: rest =>
      match skip rest with
      | ']' :: rest => some (.arr [], rest)
      | rest => (readElements fuel rest).map fun (elements, rest) => (.arr elements, rest)
    | 'n' :: 'u' :: 'l' :: 'l' :: rest => some (.null, rest)
    | 't' :: 'r' :: 'u' :: 'e' :: rest => some (.bool true, rest)
    | 'f' :: 'a' :: 'l' :: 's' :: 'e' :: rest => some (.bool false, rest)
    | 'N' :: 'a' :: 'N' :: rest => some (.float "NaN", rest)
    | 'I' :: 'n' :: 'f' :: 'i' :: 'n' :: 'i' :: 't' :: 'y' :: rest => some (.float "Infinity", rest)
    | '-' :: 'I' :: 'n' :: 'f' :: 'i' :: 'n' :: 'i' :: 't' :: 'y' :: rest =>
      some (.float "-Infinity", rest)
    | '-' :: rest => readNumber true rest
    | text => readNumber false text

/-- The members after an opening brace, up to the closing one. -/
def readMembers : ℕ → List Char → Option (List (String × Json) × List Char)
  | 0, _ => none
  | fuel + 1, text =>
    match text with
    | '"' :: rest =>
      (readString rest).bind fun (name, rest) =>
        match skip rest with
        | ':' :: rest =>
          (readValue fuel (skip rest)).bind fun (v, rest) =>
            match skip rest with
            | '\x7d' :: rest => some ([(name, v)], rest)
            | ',' :: rest =>
              (readMembers fuel (skip rest)).map fun (members, rest) => ((name, v) :: members, rest)
            | _ => none
        | _ => none
    | _ => none

/-- The elements after an opening bracket, up to the closing one. -/
def readElements : ℕ → List Char → Option (List Json × List Char)
  | 0, _ => none
  | fuel + 1, text =>
    (readValue fuel text).bind fun (v, rest) =>
      match skip rest with
      | ']' :: rest => some ([v], rest)
      | ',' :: rest =>
        (readElements fuel (skip rest)).map fun (elements, rest) => (v :: elements, rest)
      | _ => none

end

/-- The whole text is one value between blanks; every level of nesting takes a character. -/
def loads (text : String) : Option Json :=
  match readValue (2 * text.length + 1) (skip text.toList) with
  | some (v, rest) => if skip rest = [] then some v else none
  | none => none

/-! ## Reading what was written -/

/-- A character that is written as itself. -/
def Plain (c : Char) : Prop :=
  c ≠ '"' ∧ c ≠ '\\' ∧ 32 ≤ c.toNat

instance (c : Char) : Decidable (Plain c) :=
  inferInstanceAs (Decidable (_ ∧ _ ∧ _))

/-- A class of characters without the quote, the backslash and the control characters is plain. -/
theorem plain_of_class (p : Char → Bool) (quote : p '"' = false) (backslash : p '\\' = false)
    (control : ∀ n : Fin 32, p (Char.ofNat n) = false) {c : Char} (h : p c = true) : Plain c := by
  refine ⟨?_, ?_, ?_⟩
  · rintro rfl
    exact Bool.noConfusion (quote.symm.trans h)
  · rintro rfl
    exact Bool.noConfusion (backslash.symm.trans h)
  · by_contra low
    have refused := control ⟨c.toNat, by omega⟩
    simp only [Char.ofNat_toNat] at refused
    exact Bool.noConfusion (refused.symm.trans h)

theorem escape_of_plain {c : Char} (h : Plain c) : escape c = [c] := by
  obtain ⟨quote, backslash, visible⟩ := h
  have control {d : Char} (low : d.toNat < 32) : c ≠ d := by
    rintro rfl
    omega
  rw [escape, if_neg quote, if_neg backslash, if_neg (control (by decide)),
    if_neg (control (by decide)), if_neg (control (by decide)), if_neg (control (by decide)),
    if_neg (control (by decide)), if_neg (by omega)]

theorem quote_of_plain {s : String} (h : ∀ c ∈ s.toList, Plain c) :
    quote s = '"' :: s.toList ++ ['"'] := by
  have same : s.toList.flatMap escape = s.toList.flatMap fun c => [c] := by
    apply List.flatMap_congr
    intro c hc
    exact escape_of_plain (h c hc)
  rw [quote, same, List.flatMap_singleton']

theorem readUnits_plain {l rest : List Char} (h : ∀ c ∈ l, Plain c) :
    readUnits (l ++ '"' :: rest) = some (l.map Char.toNat, rest) := by
  induction l with
  | nil => rfl
  | cons c l ih =>
    obtain ⟨quote, backslash, visible⟩ := h c List.mem_cons_self
    have step : readUnits (c :: (l ++ '"' :: rest)) =
        if c.toNat < 32 then none
        else (readUnits (l ++ '"' :: rest)).map fun (units, rest) => (c.toNat :: units, rest) := by
      rw [readUnits]
      · exact quote
      · intro _ _ _ _ _ h
        exact absurd h backslash
      · intro _ _ h
        exact absurd h backslash
    rw [List.cons_append, step, if_neg (by omega), ih fun c hc => h c (List.mem_cons_of_mem _ hc)]
    rfl

theorem joinUnits_toNat (l : List Char) : joinUnits (l.map Char.toNat) = l := by
  have back (c : Char) : (if c.toNat.isValidChar then Char.ofNat c.toNat else Char.ofNat 0xFFFD) = c := by
    rw [if_pos (show c.toNat.isValidChar from c.valid), Char.ofNat_toNat]
  induction l with
  | nil => rfl
  | cons c l ih =>
    cases l with
    | nil => exact congrArg (· :: []) (back c)
    | cons d l =>
      have whole : ¬ (0xD800 ≤ c.toNat ∧ c.toNat ≤ 0xDBFF ∧ 0xDC00 ≤ d.toNat ∧ d.toNat ≤ 0xDFFF) := by
        have := c.valid
        simp only [UInt32.isValidChar, Nat.isValidChar] at this
        change c.toNat < 0xD800 ∨ 0xDFFF < c.toNat ∧ _ at this
        omega
      simp only [List.map_cons] at ih ⊢
      rw [joinUnits, if_neg whole, ih, back]

theorem readString_plain {s : String} {rest : List Char} (h : ∀ c ∈ s.toList, Plain c) :
    readString (s.toList ++ '"' :: rest) = some (s, rest) := by
  rw [readString, readUnits_plain h]
  change some (String.ofList (joinUnits _), _) = _
  rw [joinUnits_toNat, String.ofList_toList]

/-- A text after which a number cannot go on. -/
def Ends (rest : List Char) : Prop :=
  ∃ c more, rest = c :: more ∧ (c = ',' ∨ c = '\x7d')

theorem Ends.readFraction {rest : List Char} (h : Ends rest) : readFraction rest = ([], rest) := by
  obtain ⟨c, more, rfl, rfl | rfl⟩ := h <;> rfl

theorem Ends.readExponent {rest : List Char} (h : Ends rest) : readExponent rest = ([], rest) := by
  obtain ⟨c, more, rfl, rfl | rfl⟩ := h <;> simp [Json.readExponent]

theorem Ends.digits {l rest : List Char} (h : Ends rest) (digits : ∀ c ∈ l, c.isDigit = true) :
    (l ++ rest).takeWhile Char.isDigit = l ∧ (l ++ rest).dropWhile Char.isDigit = rest := by
  have none : rest.takeWhile Char.isDigit = [] ∧ rest.dropWhile Char.isDigit = rest := by
    obtain ⟨c, more, rfl, rfl | rfl⟩ := h <;> exact ⟨rfl, rfl⟩
  rw [List.takeWhile_append_of_pos digits, List.dropWhile_append_of_pos digits, none.1, none.2,
    List.append_nil]
  exact ⟨rfl, rfl⟩

/-- No number but zero is written with a leading zero. -/
theorem toDigits_cons (n : ℕ) :
    Nat.toDigits 10 n = ['0'] ∨ ∃ c l, Nat.toDigits 10 n = c :: l ∧ c ≠ '0' := by
  induction n using Nat.strongRecOn with
  | ind n ih =>
    by_cases small : n < 10
    · have all : ∀ n : Fin 10, Nat.digitChar n = '0' ∨ Nat.digitChar n ≠ '0' := by decide
      rw [Nat.toDigits_of_lt_base small]
      rcases all ⟨n, small⟩ with zero | other
      · exact .inl (congrArg (· :: []) zero)
      · exact .inr ⟨_, [], rfl, other⟩
    · rw [Nat.toDigits_of_base_le (by decide) (by omega)]
      have nonzero : Nat.toDigits 10 (n / 10) ≠ ['0'] := by
        intro zero
        have := congrArg (Nat.ofDigitChars 10 · 0) zero
        simp only [Nat.ofDigitChars_ten_toDigits] at this
        change n / 10 = 0 at this
        omega
      obtain ⟨c, l, same, other⟩ := (ih (n / 10) (by omega)).resolve_left nonzero
      exact .inr ⟨c, l ++ _, by rw [same]; rfl, other⟩

theorem readWhole_toDigits {rest : List Char} (ends : Ends rest) (n : ℕ) :
    readWhole (Nat.toDigits 10 n ++ rest) = some (Nat.toDigits 10 n, rest) := by
  have digits : ∀ c ∈ Nat.toDigits 10 n, c.isDigit = true := fun c h =>
    Nat.isDigit_of_mem_toDigits (by decide) (by decide) h
  rcases toDigits_cons n with zero | ⟨c, l, same, other⟩
  · rw [zero]
    rfl
  · rw [same] at digits ⊢
    obtain ⟨taken, dropped⟩ := ends.digits fun d h => digits d (List.mem_cons_of_mem _ h)
    rw [List.cons_append, readWhole, if_pos (digits c List.mem_cons_self), taken, dropped]
    exact other

theorem readNumber_toDigits {rest : List Char} (ends : Ends rest) (n : ℕ) :
    readNumber false (Nat.toDigits 10 n ++ rest) = some (.int n, rest) := by
  rw [readNumber, readWhole_toDigits ends]
  simp [ends.readFraction, ends.readExponent]

/-- A value without nesting that is written without escapes or a sign. -/
inductive Scalar : Json → Prop where
  | str {s : String} (plain : ∀ c ∈ s.toList, Plain c) : Scalar (.str s)
  | int (n : ℕ) : Scalar (.int n)

theorem digit_cases {c : Char} (h : c.isDigit = true) :
    c ∈ ['0', '1', '2', '3', '4', '5', '6', '7', '8', '9'] := by
  have all : ∀ n : Fin 58, (Char.ofNat n).isDigit = true →
      Char.ofNat n ∈ ['0', '1', '2', '3', '4', '5', '6', '7', '8', '9'] := by decide
  have bound : c.toNat ≤ 57 := Char.le_def.1 (of_decide_eq_true (Bool.and_eq_true_iff.1 h).2)
  have listed := all ⟨c.toNat, by omega⟩
  simp only [Char.ofNat_toNat] at listed
  exact listed h

theorem readValue_digit {fuel : ℕ} {c : Char} {rest : List Char} (h : c.isDigit = true) :
    readValue (fuel + 1) (c :: rest) = readNumber false (c :: rest) := by
  have listed := digit_cases h
  simp only [List.mem_cons, List.not_mem_nil, or_false] at listed
  rcases listed with rfl | rfl | rfl | rfl | rfl | rfl | rfl | rfl | rfl | rfl <;> rfl

theorem readValue_write {v : Json} {fuel : ℕ} {rest : List Char} (scalar : Scalar v)
    (ends : Ends rest) : readValue (fuel + 1) (write v ++ rest) = some (v, rest) := by
  cases scalar with
  | @str s plain =>
    rw [write, quote_of_plain plain, List.append_assoc]
    change (readString (s.toList ++ '"' :: rest)).map _ = _
    rw [readString_plain plain]
    rfl
  | int n =>
    have digits : ∀ c ∈ Nat.toDigits 10 n, c.isDigit = true := fun c h =>
      Nat.isDigit_of_mem_toDigits (by decide) (by decide) h
    change readValue _ (Nat.toDigits 10 n ++ rest) = _
    rw [← readNumber_toDigits ends]
    cases same : Nat.toDigits 10 n with
    | nil => exact absurd same Nat.toDigits_ne_nil
    | cons c l => exact readValue_digit (digits c (same ▸ List.mem_cons_self))

/-- A flat object: its members are scalars under plain names. -/
def Flat (members : List (String × Json)) : Prop :=
  ∀ m ∈ members, (∀ c ∈ m.1.toList, Plain c) ∧ Scalar m.2

theorem writeMembers_cons {name : String} {v : Json} {members : List (String × Json)}
    (more : members ≠ []) : writeMembers ((name, v) :: members) =
      quote name ++ ':' :: (write v ++ ',' :: writeMembers members) := by
  cases members with
  | nil => exact absurd rfl more
  | cons m members => rfl

theorem skip_write {v : Json} (scalar : Scalar v) (rest : List Char) :
    skip (write v ++ rest) = write v ++ rest := by
  cases scalar with
  | str plain => rfl
  | int n =>
    change skip (Nat.toDigits 10 n ++ rest) = Nat.toDigits 10 n ++ rest
    cases same : Nat.toDigits 10 n with
    | nil => exact absurd same Nat.toDigits_ne_nil
    | cons c l =>
      have digit : c.isDigit = true :=
        Nat.isDigit_of_mem_toDigits (by decide) (by decide) (same ▸ List.mem_cons_self)
      have all : ['0', '1', '2', '3', '4', '5', '6', '7', '8', '9'].all (!isSpace ·) = true := by
        decide
      have visible := List.all_eq_true.1 all c (digit_cases digit)
      rw [Bool.not_eq_true'] at visible
      rw [List.cons_append, skip, List.dropWhile_cons, visible]
      rfl

theorem writeMembers_head {members : List (String × Json)} (nonempty : members ≠ []) :
    ∃ l, writeMembers members = '"' :: l := by
  obtain ⟨m, members, rfl⟩ := List.exists_cons_of_ne_nil nonempty
  obtain ⟨name, v⟩ := m
  by_cases more : members = []
  · subst more
    exact ⟨_, rfl⟩
  · rw [writeMembers_cons more]
    exact ⟨_, rfl⟩

theorem readMembers_write {members : List (String × Json)} (flat : Flat members)
    (nonempty : members ≠ []) {fuel : ℕ} (enough : members.length < fuel) (rest : List Char) :
    readMembers fuel (writeMembers members ++ '\x7d' :: rest) = some (members, rest) := by
  induction members generalizing fuel with
  | nil => exact absurd rfl nonempty
  | cons m members ih =>
    obtain ⟨name, v⟩ := m
    obtain ⟨plain, scalar⟩ := flat _ List.mem_cons_self
    obtain ⟨fuel, rfl⟩ : ∃ k, fuel = k + 2 :=
      ⟨fuel - 2, by simp only [List.length_cons] at enough; omega⟩
    by_cases more : members = []
    · subst more
      rw [writeMembers, quote_of_plain plain]
      simp only [List.cons_append, List.append_assoc, List.nil_append]
      rw [readMembers, readString_plain plain]
      change (readValue _ (skip (write v ++ _))).bind _ = _
      rw [skip_write scalar, readValue_write scalar ⟨_, _, rfl, .inr rfl⟩]
      rfl
    · have rest' : Flat members := fun m h => flat m (List.mem_cons_of_mem _ h)
      have short : members.length < fuel + 1 := by
        simp only [List.length_cons] at enough
        omega
      have start : skip (writeMembers members ++ '\x7d' :: rest) =
          writeMembers members ++ '\x7d' :: rest := by
        obtain ⟨l, head⟩ := writeMembers_head more
        rw [head]
        rfl
      rw [writeMembers_cons more, quote_of_plain plain]
      simp only [List.cons_append, List.append_assoc, List.nil_append]
      rw [readMembers, readString_plain plain]
      change (readValue _ (skip (write v ++ _))).bind _ = _
      rw [skip_write scalar, readValue_write scalar ⟨_, _, rfl, .inl rfl⟩]
      change (readMembers _ (skip (writeMembers members ++ _))).map _ = _
      rw [start, ih rest' more short]
      rfl

theorem length_le_writeMembers (members : List (String × Json)) :
    members.length ≤ (writeMembers members).length := by
  induction members with
  | nil => exact Nat.zero_le _
  | cons m members ih =>
    obtain ⟨name, v⟩ := m
    by_cases more : members = []
    · subst more
      simp [writeMembers, quote]
    · rw [writeMembers_cons more]
      simp only [List.length_cons, List.length_append]
      omega

/-- **A flat object reads back as it was written.** -/
theorem loads_dumps {members : List (String × Json)} (flat : Flat members) :
    loads (dumps (.obj members)) = some (.obj members) := by
  by_cases nonempty : members = []
  · subst nonempty
    rfl
  · have text : (dumps (.obj members)).toList = '\x7b' :: (writeMembers members ++ ['\x7d']) := by
      rw [dumps, String.toList_ofList]
      rfl
    have enough : members.length < 2 * (dumps (.obj members)).length := by
      have := length_le_writeMembers members
      rw [← String.length_toList, text]
      simp only [List.length_cons, List.length_append, List.length_nil]
      omega
    have object : readValue (2 * (dumps (.obj members)).length + 1)
        ('\x7b' :: (writeMembers members ++ ['\x7d'])) =
          (readMembers (2 * (dumps (.obj members)).length) (writeMembers members ++ ['\x7d'])).map
            fun (members, rest) => (.obj members, rest) := by
      obtain ⟨l, head⟩ := writeMembers_head nonempty
      rw [head]
      rfl
    have start : skip (dumps (.obj members)).toList = '\x7b' :: (writeMembers members ++ ['\x7d']) := by
      rw [text]
      rfl
    rw [loads, start, object, readMembers_write flat nonempty enough]
    rfl

end Json
end Lib
