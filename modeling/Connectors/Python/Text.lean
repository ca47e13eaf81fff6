import Mathlib.Data.List.Basic

/-!
The string operations of the Python standard library that the Google Cloud
Storage source applies to its credentials and its file names: `str.strip()`,
`str.encode("unicode_escape")` followed by `bytes.decode()`, and the
lower-case hexadecimal digits both codecs write. Strings are lists of
characters; a Lean `Char` is a Unicode scalar value, so the lone surrogates a
Python `str` may hold are outside the model.
-/

namespace Connectors.Python

/-- `str.isspace()` for one character: the characters CPython's
`Py_UNICODE_ISSPACE` accepts. -/
def isSpace (c : Char) : Bool :=
  (0x09 ≤ c.toNat && c.toNat ≤ 0x0D) || (0x1C ≤ c.toNat && c.toNat ≤ 0x20) ||
    c.toNat == 0x85 || c.toNat == 0xA0 || c.toNat == 0x1680 ||
    (0x2000 ≤ c.toNat && c.toNat ≤ 0x200A) || c.toNat == 0x2028 || c.toNat == 0x2029 ||
    c.toNat == 0x202F || c.toNat == 0x205F || c.toNat == 0x3000

/-- `str.strip()` with no argument: whitespace off both ends. -/
def strip (s : String) : String :=
  ⟨((s.data.dropWhile isSpace).reverse.dropWhile isSpace).reverse⟩

/-- `"0123456789abcdef"[d]`. -/
def hexDigit (d : Nat) : Char :=
  if d < 10 then Char.ofNat (48 + d) else Char.ofNat (87 + d)

/-- The last `width` hexadecimal digits of `n`, most significant first. -/
def hexDigits : Nat → Nat → List Char
  | 0, _ => []
  | width + 1, n => hexDigits width (n / 16) ++ [hexDigit (n % 16)]

/-- One hexadecimal digit, either case. -/
def hexValue (c : Char) : Option Nat :=
  if '0' ≤ c ∧ c ≤ '9' then some (c.toNat - 48)
  else if 'a' ≤ c ∧ c ≤ 'f' then some (c.toNat - 87)
  else if 'A' ≤ c ∧ c ≤ 'F' then some (c.toNat - 55)
  else none

theorem hexValue_hexDigit : ∀ d : Nat, d < 16 → hexValue (hexDigit d) = some d
  | 0, _ | 1, _ | 2, _ | 3, _ | 4, _ | 5, _ | 6, _ | 7, _ | 8, _ | 9, _ | 10, _ | 11, _ | 12, _
  | 13, _ | 14, _ | 15, _ => by decide
  | _ + 16, h => absurd h (by omega)

theorem hexDigits_four (n : Nat) :
    hexDigits 4 n = [hexDigit (n / 16 / 16 / 16 % 16), hexDigit (n / 16 / 16 % 16),
      hexDigit (n / 16 % 16), hexDigit (n % 16)] := rfl

@[simp] theorem length_hexDigits (width n : Nat) : (hexDigits width n).length = width := by
  induction width generalizing n with
  | zero => rfl
  | succ width ih => simp [hexDigits, ih]

theorem mem_hexDigits {d : Char} : ∀ {width n : Nat}, d ∈ hexDigits width n →
    ∃ k < 16, d = hexDigit k
  | 0, _, h => absurd h (List.not_mem_nil d)
  | width + 1, n, h => by
    rcases List.mem_append.1 h with h | h
    · exact mem_hexDigits h
    · exact ⟨n % 16, Nat.mod_lt _ (by decide), List.mem_singleton.1 h⟩

/-- What the `unicode_escape` codec writes for one character. -/
def unicodeEscapeChar (c : Char) : List Char :=
  if c.toNat < 0x100 then
    if 0x20 ≤ c.toNat ∧ c.toNat < 0x7F then
      if c = '\\' then ['\\', '\\'] else [c]
    else if c = '\t' then ['\\', 't']
    else if c = '\n' then ['\\', 'n']
    else if c = '\r' then ['\\', 'r']
    else '\\' :: 'x' :: hexDigits 2 c.toNat
  else if c.toNat < 0x10000 then '\\' :: 'u' :: hexDigits 4 c.toNat
  else '\\' :: 'U' :: hexDigits 8 c.toNat

/-- `s.encode("unicode_escape").decode()`: the codec's bytes are ASCII, so
decoding them as UTF-8 gives back the same characters. -/
def unicodeEscape (s : String) : String := ⟨s.data.flatMap unicodeEscapeChar⟩

/-- A character between space and tilde: printable ASCII. -/
def IsPrintableAscii (c : Char) : Prop := 0x20 ≤ c.toNat ∧ c.toNat < 0x7F

instance (c : Char) : Decidable (IsPrintableAscii c) :=
  inferInstanceAs (Decidable (_ ∧ _))

/-- A Lean character is a Unicode scalar value: below `0x110000` and not a
surrogate. -/
theorem toNat_isValidChar (c : Char) :
    c.toNat < 0xd800 ∨ 0xdfff < c.toNat ∧ c.toNat < 0x110000 :=
  c.valid

theorem hexDigit_printable : ∀ d : Nat, d < 16 →
    IsPrintableAscii (hexDigit d) ∧ hexDigit d ≠ '\\' ∧ hexDigit d ≠ '"'
  | 0, _ | 1, _ | 2, _ | 3, _ | 4, _ | 5, _ | 6, _ | 7, _ | 8, _ | 9, _ | 10, _ | 11, _ | 12, _
  | 13, _ | 14, _ | 15, _ => by decide
  | _ + 16, h => absurd h (by omega)

theorem strip_eq_self {s : String} {a b : Char} {mid : List Char} (hs : s.data = a :: mid ++ [b])
    (ha : isSpace a = false) (hb : isSpace b = false) : strip s = s := by
  cases s with
  | mk data =>
    subst hs
    simp only [strip, List.cons_append, List.dropWhile_cons, ha, List.reverse_cons',
      List.reverse_append, List.reverse_cons]
    simp [List.dropWhile_cons, hb]

/-- On printable ASCII the codec only doubles the backslash. -/
theorem unicodeEscapeChar_printable {c : Char} (hc : IsPrintableAscii c) :
    unicodeEscapeChar c = if c = '\\' then ['\\', '\\'] else [c] := by
  have h : c.toNat < 0x100 := by
    have := hc.2
    omega
  simp [unicodeEscapeChar, h, hc.1, hc.2]

end Connectors.Python
