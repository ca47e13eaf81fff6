import Connectors.Python.Text

/-!
`urllib.parse.quote(string, safe)` on a `str`: the UTF-8 bytes of the
string, each byte of `_ALWAYS_SAFE` or of `safe` written as its character
and every other as `%XX` with upper-case digits. Bytes are `Nat`s below 256.

Its inverse, used to state what the quoted text still holds, is the other
half of `urllib.parse`: `unquote_to_bytes` (a `%` followed by two
hexadecimal digits is one byte, any other `%` stays) and then UTF-8
decoding, here the strict codec, which refuses what `errors="replace"`
would patch.
-/

namespace Connectors.Python

/-! ## UTF-8 -/

/-- `str.encode("utf-8")` for one character. -/
def utf8EncodeChar (c : Char) : List Nat :=
  if c.toNat < 0x80 then [c.toNat]
  else if c.toNat < 0x800 then [0xC0 + c.toNat / 0x40, 0x80 + c.toNat % 0x40]
  else if c.toNat < 0x10000 then
    [0xE0 + c.toNat / 0x1000, 0x80 + c.toNat / 0x40 % 0x40, 0x80 + c.toNat % 0x40]
  else
    [0xF0 + c.toNat / 0x40000, 0x80 + c.toNat / 0x1000 % 0x40, 0x80 + c.toNat / 0x40 % 0x40,
      0x80 + c.toNat % 0x40]

def utf8Encode (s : List Char) : List Nat := s.flatMap utf8EncodeChar

@[simp] theorem utf8Encode_nil : utf8Encode [] = [] := rfl

@[simp] theorem utf8Encode_cons (c : Char) (s : List Char) :
    utf8Encode (c :: s) = utf8EncodeChar c ++ utf8Encode s := rfl

@[simp] theorem utf8Encode_append (s t : List Char) :
    utf8Encode (s ++ t) = utf8Encode s ++ utf8Encode t := List.flatMap_append _ _ _

def IsContinuation (b : Nat) : Prop := 0x80 ≤ b ∧ b < 0xC0

instance (b : Nat) : Decidable (IsContinuation b) := inferInstanceAs (Decidable (_ ∧ _))

/-- The last `count` bytes of a multi-byte sequence, added to the bits `acc`
of its first; the value must be at least `lower` (no overlong form) and a
scalar value (no surrogate, at most `U+10FFFF`). -/
def continueUtf8 : Nat → Nat → Nat → List Nat → Option (Char × List Nat)
  | 0, lower, acc, rest =>
    if lower ≤ acc ∧ acc.isValidChar then some (Char.ofNat acc, rest) else none
  | count + 1, lower, acc, b :: rest =>
    if IsContinuation b then continueUtf8 count lower (acc * 0x40 + (b - 0x80)) rest else none
  | _ + 1, _, _, [] => none

/-- One character of strict UTF-8 decoding and the bytes after it. -/
def utf8DecodeChar : List Nat → Option (Char × List Nat)
  | [] => none
  | b :: rest =>
    if b < 0x80 then some (Char.ofNat b, rest)
    else if b < 0xC0 then none
    else if b < 0xE0 then continueUtf8 1 0x80 (b - 0xC0) rest
    else if b < 0xF0 then continueUtf8 2 0x800 (b - 0xE0) rest
    else if b < 0xF8 then continueUtf8 3 0x10000 (b - 0xF0) rest
    else none

/-- `bytes.decode("utf-8")` for at most `fuel` characters; `none` on a
malformed sequence. -/
def utf8Decode : Nat → List Nat → Option (List Char)
  | _, [] => some []
  | 0, _ :: _ => none
  | fuel + 1, b :: rest => do
    let (c, rest) ← utf8DecodeChar (b :: rest)
    let s ← utf8Decode fuel rest
    pure (c :: s)

theorem toNat_ofNat_of_lt {n : Nat} (h : n < 0xd800) : (Char.ofNat n).toNat = n := by
  rw [Char.ofNat, dif_pos (Or.inl h)]
  show (UInt32.ofNat' n _).toNat = n
  simp [UInt32.ofNat', UInt32.toNat]

theorem utf8Encode_ascii {l : List Char} (h : ∀ c ∈ l, c.toNat < 0x80) :
    utf8Encode l = l.map Char.toNat := by
  induction l with
  | nil => rfl
  | cons c l ih =>
    rw [utf8Encode_cons, List.map_cons, ih fun d hd => h d (List.mem_cons_of_mem _ hd)]
    simp [utf8EncodeChar, h c (List.mem_cons_self _ _)]

theorem toNat_lt_max (c : Char) : c.toNat < 0x110000 := by
  have := toNat_isValidChar c
  omega

theorem utf8EncodeChar_lt (c : Char) : ∀ b ∈ utf8EncodeChar c, b < 0x100 := by
  have hmax := toNat_lt_max c
  unfold utf8EncodeChar
  split_ifs <;> simp only [List.forall_mem_cons, List.not_mem_nil, false_implies, implies_true,
    and_true] <;> omega

theorem isContinuation_cont (x : Nat) : IsContinuation (0x80 + x % 0x40) :=
  ⟨Nat.le_add_right _ _, by omega⟩

/-- A continuation byte adds the six bits it carries to the accumulator. -/
theorem continueUtf8_cont (count lower acc x : Nat) (rest : List Nat) :
    continueUtf8 (count + 1) lower acc ((0x80 + x % 0x40) :: rest) =
      continueUtf8 count lower (acc * 0x40 + x % 0x40) rest := by
  rw [continueUtf8, if_pos (isContinuation_cont x), Nat.add_sub_cancel_left]

theorem continueUtf8_toNat (c : Char) {lower : Nat} (h : lower ≤ c.toNat) (rest : List Nat) :
    continueUtf8 0 lower c.toNat rest = some (c, rest) := by
  rw [continueUtf8, if_pos ⟨h, c.valid⟩, Char.ofNat_toNat]

theorem div_mul_add_mod_div (n k m : Nat) (h : k * 0x40 = m) :
    n / m * 0x40 + n / k % 0x40 = n / k := by
  rw [← h, ← Nat.div_div_eq_div_mul, Nat.div_add_mod']

/-- The first byte selects the length, each continuation byte passes and
adds its six bits, and the bits add up to the character again. -/
theorem utf8DecodeChar_encode (c : Char) (rest : List Nat) :
    utf8DecodeChar (utf8EncodeChar c ++ rest) = some (c, rest) := by
  have hmax := toNat_lt_max c
  unfold utf8EncodeChar
  split_ifs with h1 h2 h3 <;> simp only [List.cons_append, List.nil_append, utf8DecodeChar]
  · rw [if_pos h1, Char.ofNat_toNat]
  · rw [if_neg (by omega), if_neg (by omega), if_pos (by omega), Nat.add_sub_cancel_left,
      continueUtf8_cont, Nat.div_add_mod', continueUtf8_toNat c (by omega)]
  · rw [if_neg (by omega), if_neg (by omega), if_neg (by omega), if_pos (by omega),
      Nat.add_sub_cancel_left, continueUtf8_cont, continueUtf8_cont,
      div_mul_add_mod_div _ 0x40 0x1000 rfl, Nat.div_add_mod', continueUtf8_toNat c (by omega)]
  · rw [if_neg (by omega), if_neg (by omega), if_neg (by omega), if_neg (by omega),
      if_pos (by omega), Nat.add_sub_cancel_left, continueUtf8_cont, continueUtf8_cont,
      continueUtf8_cont, div_mul_add_mod_div _ 0x1000 0x40000 rfl,
      div_mul_add_mod_div _ 0x40 0x1000 rfl, Nat.div_add_mod', continueUtf8_toNat c (by omega)]

theorem utf8EncodeChar_ne_nil (c : Char) : utf8EncodeChar c ≠ [] := by
  unfold utf8EncodeChar
  repeat' split
  all_goals exact List.cons_ne_nil _ _

theorem length_le_length_utf8Encode (s : List Char) : s.length ≤ (utf8Encode s).length := by
  induction s with
  | nil => rfl
  | cons c s ih =>
    have : 1 ≤ (utf8EncodeChar c).length := List.length_pos.2 (utf8EncodeChar_ne_nil c)
    simp only [utf8Encode_cons, List.length_append, List.length_cons]
    omega

/-- Strict UTF-8 decoding inverts the encoder. -/
theorem utf8Decode_encode (s : List Char) :
    ∀ fuel, s.length ≤ fuel → utf8Decode fuel (utf8Encode s) = some s := by
  induction s with
  | nil => intro fuel _; cases fuel <;> rfl
  | cons c s ih =>
    intro fuel hfuel
    obtain ⟨fuel, rfl⟩ : ∃ f, fuel = f + 1 := ⟨fuel - 1, by simp at hfuel; omega⟩
    obtain ⟨b, bs, hbs⟩ := List.exists_cons_of_ne_nil
      (List.append_ne_nil_of_left_ne_nil (utf8EncodeChar_ne_nil c) (utf8Encode s))
    rw [utf8Encode_cons, hbs, utf8Decode, ← hbs, utf8DecodeChar_encode]
    simp [ih fuel (by simp at hfuel; omega)]

/-! ## `quote` -/

/-- `_ALWAYS_SAFE` -/
def alwaysSafe : List Char :=
  "ABCDEFGHIJKLMNOPQRSTUVWXYZabcdefghijklmnopqrstuvwxyz0123456789_.-~".data

/-- `"0123456789ABCDEF"[d]`, the digits of `"%{:02X}"`. -/
def hexDigitUpper (d : Nat) : Char :=
  if d < 10 then Char.ofNat (48 + d) else Char.ofNat (55 + d)

theorem hexValue_hexDigitUpper : ∀ d : Nat, d < 16 → hexValue (hexDigitUpper d) = some d
  | 0, _ | 1, _ | 2, _ | 3, _ | 4, _ | 5, _ | 6, _ | 7, _ | 8, _ | 9, _ | 10, _ | 11, _ | 12, _
  | 13, _ | 14, _ | 15, _ => by decide
  | _ + 16, h => absurd h (by omega)

theorem hexDigitUpper_ascii : ∀ d : Nat, d < 16 →
    (hexDigitUpper d).toNat < 0x80 ∧ hexDigitUpper d ∉ ['/', ';', '?', '#'] ∧ hexDigitUpper d ≠ '%'
  | 0, _ | 1, _ | 2, _ | 3, _ | 4, _ | 5, _ | 6, _ | 7, _ | 8, _ | 9, _ | 10, _ | 11, _ | 12, _
  | 13, _ | 14, _ | 15, _ => by decide
  | _ + 16, h => absurd h (by omega)

/-- `_Quoter(safe)[b]`: the byte itself when it is safe, else `%XX`. -/
def quoteByte (safe : List Char) (b : Nat) : List Char :=
  if b < 0x80 ∧ (Char.ofNat b ∈ alwaysSafe ∨ Char.ofNat b ∈ safe) then [Char.ofNat b]
  else ['%', hexDigitUpper (b / 16), hexDigitUpper (b % 16)]

/-- `urllib.parse.quote(s, safe=safe)` -/
def quote (s safe : String) : String := ⟨(utf8Encode s.data).flatMap (quoteByte safe.data)⟩

/-- The two digits after a `%`, as `_hextobyte` reads them. -/
def hexByte (hi lo : Nat) : Option Nat := do
  let hi ← hexValue (Char.ofNat hi)
  let lo ← hexValue (Char.ofNat lo)
  pure (hi * 16 + lo)

/-- `unquote_to_bytes` on the UTF-8 bytes of its argument. -/
def unquoteBytes : List Nat → List Nat
  | [] => []
  | 0x25 :: hi :: lo :: after =>
    match hexByte hi lo with
    | some b => b :: unquoteBytes after
    | none => 0x25 :: unquoteBytes (hi :: lo :: after)
  | b :: rest => b :: unquoteBytes rest
termination_by structural bytes => bytes

/-- Percent-decoding followed by strict UTF-8 decoding: the string a quoted
text stands for. -/
def percentDecode (q : String) : Option String :=
  let bytes := unquoteBytes (utf8Encode q.data)
  (utf8Decode bytes.length bytes).map String.mk

theorem unquoteBytes_cons {b : Nat} (hb : b ≠ 0x25) (rest : List Nat) :
    unquoteBytes (b :: rest) = b :: unquoteBytes rest :=
  unquoteBytes.eq_3 b rest fun _ _ _ h _ => hb h

theorem alwaysSafe_reserved : ∀ c ∈ alwaysSafe, c ∉ ['/', ';', '?', '#'] ∧ c ≠ '%' := by decide

section
variable {safe : String} (hsafe : ∀ c ∈ safe.data, c ∉ ['/', ';', '?', '#'] ∧ c ≠ '%')
include hsafe

/-- A quoted byte is ASCII and no URL delimiter. -/
theorem quoteByte_chars {b : Nat} (hb : b < 0x100) :
    ∀ d ∈ quoteByte safe.data b, d.toNat < 0x80 ∧ d ∉ ['/', ';', '?', '#'] := by
  intro d hd
  unfold quoteByte at hd
  split_ifs at hd with h
  · rw [List.mem_singleton.1 hd, toNat_ofNat_of_lt (by omega)]
    refine ⟨h.1, ?_⟩
    rcases h.2 with h' | h'
    · exact (alwaysSafe_reserved _ h').1
    · exact (hsafe _ h').1
  · have hhi := hexDigitUpper_ascii (b / 16) (by omega)
    have hlo := hexDigitUpper_ascii (b % 16) (by omega)
    simp only [List.mem_cons, List.not_mem_nil, or_false] at hd
    rcases hd with rfl | rfl | rfl
    · decide
    · exact ⟨hhi.1, hhi.2.1⟩
    · exact ⟨hlo.1, hlo.2.1⟩

/-- `unquote_to_bytes` reads a quoted byte back. -/
theorem unquoteBytes_quoteByte {b : Nat} (hb : b < 0x100) (rest : List Nat) :
    unquoteBytes (utf8Encode (quoteByte safe.data b) ++ rest) = b :: unquoteBytes rest := by
  unfold quoteByte
  split_ifs with h
  · have hb' : (Char.ofNat b).toNat = b := toNat_ofNat_of_lt (by omega)
    have hpct : b ≠ 0x25 := by
      intro h25
      subst h25
      rcases h.2 with h' | h'
      · exact (alwaysSafe_reserved _ h').2 rfl
      · exact (hsafe _ h').2 rfl
    simp only [utf8Encode_cons, utf8Encode_nil, List.append_nil, utf8EncodeChar, hb', h.1,
      if_true, List.singleton_append]
    exact unquoteBytes_cons hpct rest
  · have hhi := hexDigitUpper_ascii (b / 16) (by omega)
    have hlo := hexDigitUpper_ascii (b % 16) (by omega)
    rw [utf8Encode_ascii (by
      simp only [List.mem_cons, List.not_mem_nil, or_false]
      rintro c (rfl | rfl | rfl)
      · decide
      · exact hhi.1
      · exact hlo.1)]
    simp only [List.map_cons, List.map_nil, List.cons_append, List.nil_append]
    rw [show Char.toNat '%' = 0x25 from rfl, unquoteBytes.eq_2, hexByte, Char.ofNat_toNat,
      Char.ofNat_toNat, hexValue_hexDigitUpper _ (by omega), hexValue_hexDigitUpper _ (by omega)]
    simp only [Option.pure_def, Option.bind_eq_bind, Option.some_bind]
    rw [show b / 16 * 16 + b % 16 = b by omega]

theorem unquoteBytes_flatMap_quoteByte (bytes : List Nat) (hb : ∀ b ∈ bytes, b < 0x100) :
    unquoteBytes (utf8Encode (bytes.flatMap (quoteByte safe.data))) = bytes := by
  induction bytes with
  | nil => rfl
  | cons b bytes ih =>
    rw [List.flatMap_cons, utf8Encode_append, unquoteBytes_quoteByte hsafe
      (hb b (List.mem_cons_self _ _)), ih fun x hx => hb x (List.mem_cons_of_mem _ hx)]

/-- Percent-decoding gives back the quoted string. -/
theorem percentDecode_quote (s : String) : percentDecode (quote s safe) = some s := by
  have hbytes : ∀ b ∈ utf8Encode s.data, b < 0x100 := fun b hb => by
    obtain ⟨c, -, hc⟩ := List.mem_flatMap.1 hb
    exact utf8EncodeChar_lt c b hc
  simp only [percentDecode, quote, unquoteBytes_flatMap_quoteByte hsafe _ hbytes,
    utf8Decode_encode s.data _ (length_le_length_utf8Encode _)]
  rfl

/-- A quoted string is ASCII and holds no URL delimiter. -/
theorem quote_chars (s : String) :
    ∀ d ∈ (quote s safe).data, d.toNat < 0x80 ∧ d ∉ ['/', ';', '?', '#'] := by
  intro d hd
  obtain ⟨b, hb, hd⟩ := List.mem_flatMap.1 hd
  obtain ⟨c, -, hc⟩ := List.mem_flatMap.1 hb
  exact quoteByte_chars hsafe (utf8EncodeChar_lt c b hc) d hd

end

end Connectors.Python
