import Connectors.Python.Runtime
import Connectors.Python.Text

/-!
`json.dumps` and `json.loads` on the values the Google Cloud Storage source
passes through them: a `dict` whose keys and values are `str`. `dumps` is
the standard library's default encoder (`ensure_ascii=True`, separators
`", "` and `": "`): `py_encode_basestring_ascii` for every string, with
`\uXXXX` escapes and surrogate pairs above the Basic Multilingual Plane.
`loads` is the decoder's `JSONObject` and `py_scanstring` (`strict=True`)
on an object whose member values are strings, with `dict(pairs)` at the
end. A text whose member value is not a string, or that spells a lone
surrogate, is outside this fragment and is refused with `unsupported`.
-/

namespace Connectors.Python

/-- The entries of `ESCAPE_DCT` other than `\u00XX`: the letter written
after the backslash. -/
def escapeDct : Char → Option Char
  | '\\' => some '\\'
  | '"' => some '"'
  | '\x08' => some 'b'
  | '\x0c' => some 'f'
  | '\n' => some 'n'
  | '\r' => some 'r'
  | '\t' => some 't'
  | _ => none

/-- A character `ESCAPE_ASCII` does not match: printable ASCII other than
the backslash and the quote. -/
def IsPlainChar (c : Char) : Prop := c ≠ '\\' ∧ c ≠ '"' ∧ IsPrintableAscii c

instance (c : Char) : Decidable (IsPlainChar c) := inferInstanceAs (Decidable (_ ∧ _))

/-- What `py_encode_basestring_ascii` writes for one character: a plain
character itself, any other its `ESCAPE_DCT` entry or `\uXXXX`, as a
surrogate pair above `U+FFFF` (`0xd800 + n / 1024` is
`0xd800 | ((n >> 10) & 0x3ff)` for `n < 2 ** 20`). -/
def jsonEscapeChar (c : Char) : List Char :=
  if IsPlainChar c then [c]
  else
    match escapeDct c with
    | some e => ['\\', e]
    | none =>
      if c.toNat < 0x10000 then '\\' :: 'u' :: hexDigits 4 c.toNat
      else
        '\\' :: 'u' :: hexDigits 4 (0xd800 + (c.toNat - 0x10000) / 0x400) ++
          '\\' :: 'u' :: hexDigits 4 (0xdc00 + (c.toNat - 0x10000) % 0x400)

/-- `py_encode_basestring_ascii(s)`: the quoted, escaped string. -/
def encodeString (s : List Char) : List Char := '"' :: s.flatMap jsonEscapeChar ++ ['"']

/-- One member of a dumped `dict`: `key: value`. -/
def dumpsItem (k v : String) : List Char := encodeString k.data ++ ':' :: ' ' :: encodeString v.data

/-- The members of a dumped `dict`, separated by `", "`. -/
def dumpsItems : List (String × String) → List Char
  | [] => []
  | [(k, v)] => dumpsItem k v
  | (k, v) :: p :: rest => dumpsItem k v ++ ',' :: ' ' :: dumpsItems (p :: rest)

/-- `json.dumps(mapping)` for a `dict` of strings, in insertion order. -/
def dumps (m : List (String × String)) : String := ⟨'{' :: dumpsItems m ++ ['}']⟩

/-- Why `json.loads` refuses a text, by the message of its `JSONDecodeError`;
`unsupported` stands for what the model leaves out. -/
inductive JsonError where
  | expectingValue
  | expectingPropertyName
  | expectingColon
  | expectingComma
  | extraData
  | unterminatedString
  | invalidControlCharacter
  | invalidEscape
  | invalidUnicodeEscape
  | unsupported
  deriving DecidableEq, Repr

/-- The decoder's `WHITESPACE`: space, tab, newline, carriage return. -/
def isJsonSpace (c : Char) : Bool := c = ' ' || c = '\t' || c = '\n' || c = '\r'

def skipWs (l : List Char) : List Char := l.dropWhile isJsonSpace

/-- A character that starts a JSON value other than a string. -/
def startsValue (c : Char) : Bool := "\x7b[ntf-0123456789NI".data.contains c

/-- `_decode_uXXXX`: the value of four hexadecimal digits. -/
def hex4 (a b c d : Char) : Option Nat := do
  let a ← hexValue a
  let b ← hexValue b
  let c ← hexValue c
  let d ← hexValue d
  pure (((a * 16 + b) * 16 + c) * 16 + d)

/-- The single-character escapes of `BACKSLASH`. -/
def simpleEscape : Char → Option Char
  | '"' => some '"'
  | '\\' => some '\\'
  | '/' => some '/'
  | 'b' => some '\x08'
  | 'f' => some '\x0c'
  | 'n' => some '\n'
  | 'r' => some '\r'
  | 't' => some '\t'
  | _ => none

/-- `chr(uni)`, refused for a lone surrogate. -/
def pyChr (uni : Nat) : Except JsonError Char :=
  if uni.isValidChar then .ok (Char.ofNat uni) else .error .unsupported

/-- The decoded character `uni`, then the rest of the string. A later
error is the one `json.loads` reports, so the rest is scanned first. -/
def consChar (uni : Nat) (rest : Except JsonError (List Char × List Char)) :
    Except JsonError (List Char × List Char) := do
  let (s, after) ← rest
  let ch ← pyChr uni
  pure (ch :: s, after)

def IsHighSurrogate (uni : Nat) : Prop := 0xd800 ≤ uni ∧ uni ≤ 0xdbff

def IsLowSurrogate (uni : Nat) : Prop := 0xdc00 ≤ uni ∧ uni ≤ 0xdfff

instance (uni : Nat) : Decidable (IsHighSurrogate uni) := inferInstanceAs (Decidable (_ ∧ _))
instance (uni : Nat) : Decidable (IsLowSurrogate uni) := inferInstanceAs (Decidable (_ ∧ _))

/-- The high surrogate decoded last, if it still waits for its low half,
then the rest of the string. -/
def flushHigh (high : Option Nat) (rest : Except JsonError (List Char × List Char)) :
    Except JsonError (List Char × List Char) :=
  match high with
  | none => rest
  | some hi => consChar hi rest

/-- `py_scanstring` after the opening quote: the decoded string and the
text after its closing quote. `high` is a high surrogate just decoded from
a `\uXXXX` escape; a `\uXXXX` escape right after it that spells a low
surrogate joins it into one character. -/
def scanString (high : Option Nat) : List Char → Except JsonError (List Char × List Char)
  | [] => .error .unterminatedString
  | '"' :: rest => flushHigh high (.ok ([], rest))
  | '\\' :: 'u' :: a :: b :: c :: d :: rest =>
    match hex4 a b c d with
    | none => .error .invalidUnicodeEscape
    | some uni =>
      let alone :=
        if IsHighSurrogate uni then scanString (some uni) rest
        else consChar uni (scanString none rest)
      match high with
      | none => alone
      | some hi =>
        if IsLowSurrogate uni then
          consChar (0x10000 + (hi - 0xd800) * 0x400 + (uni - 0xdc00)) (scanString none rest)
        else consChar hi alone
  | '\\' :: 'u' :: _ => .error .invalidUnicodeEscape
  | '\\' :: e :: rest =>
    match simpleEscape e with
    | some ch => flushHigh high ((scanString none rest).map fun r => (ch :: r.1, r.2))
    | none => .error .invalidEscape
  | ['\\'] => .error .unterminatedString
  | c :: rest =>
    if c.toNat < 0x20 then .error .invalidControlCharacter
    else flushHigh high ((scanString none rest).map fun r => (c :: r.1, r.2))

/-- The loop of `JSONObject` from a member's key on, for at most `fuel`
members: the `(key, value)` pairs and the text after the closing brace. -/
def parseMembers : Nat → List Char → Except JsonError (List (String × String) × List Char)
  | 0, _ => .error .unsupported
  | fuel + 1, cs =>
    match skipWs cs with
    | '"' :: afterQuote =>
      match scanString none afterQuote with
      | .error e => .error e
      | .ok (key, rest) =>
        match skipWs rest with
        | ':' :: rest =>
          match skipWs rest with
          | '"' :: rest =>
            match scanString none rest with
            | .error e => .error e
            | .ok (value, rest) =>
              match skipWs rest with
              | '}' :: rest => .ok ([(⟨key⟩, ⟨value⟩)], rest)
              | ',' :: rest =>
                (parseMembers fuel rest).map fun r => ((⟨key⟩, ⟨value⟩) :: r.1, r.2)
              | _ => .error .expectingComma
          | c :: _ => if startsValue c then .error .unsupported else .error .expectingValue
          | [] => .error .expectingValue
        | _ => .error .expectingColon
    | _ => .error .expectingPropertyName

/-- `json.loads(s)` when `s` holds an object of strings. Every member uses
characters of `s`, so `s.length` passes of the member loop are enough. -/
def loads (s : String) : Except JsonError (List (String × String)) :=
  match skipWs s.data with
  | '{' :: rest =>
    let members : Except JsonError (List (String × String) × List Char) :=
      match skipWs rest with
        | '}' :: rest => .ok ([], rest)
        | _ => parseMembers s.length rest
    match members with
    | .error e => .error e
    | .ok (pairs, rest) => if skipWs rest = [] then .ok (dictOf pairs) else .error .extraData
  | c :: _ => if startsValue c then .error .unsupported else .error .expectingValue
  | [] => .error .expectingValue

/-! ## Decoding one encoded character -/

theorem pyChr_toNat (c : Char) : pyChr c.toNat = .ok c := by
  simp [pyChr, toNat_isValidChar c]

theorem consChar_toNat (c : Char) (r : Except JsonError (List Char × List Char)) :
    consChar c.toNat r = r.map fun p => (c :: p.1, p.2) := by
  cases r with
  | error e => rfl
  | ok p => simp [consChar, pyChr_toNat]; rfl

theorem hex4_hexDigits {n : Nat} (hn : n < 0x10000) :
    hex4 (hexDigit (n / 16 / 16 / 16 % 16)) (hexDigit (n / 16 / 16 % 16))
      (hexDigit (n / 16 % 16)) (hexDigit (n % 16)) = some n := by
  simp only [hex4, hexValue_hexDigit _ (Nat.mod_lt _ (by decide))]
  simp
  omega

theorem simpleEscape_escapeDct {c e : Char} (h : escapeDct c = some e) :
    simpleEscape e = some c ∧ e ≠ 'u' := by
  unfold escapeDct at h
  split at h <;> cases h <;> decide

/-- The `\uXXXX` branch of `py_scanstring` on four digits `hexDigits` wrote. -/
theorem scanString_hexDigits (high : Option Nat) {n : Nat} (hn : n < 0x10000) (rest : List Char) :
    scanString high ('\\' :: 'u' :: hexDigits 4 n ++ rest) =
      match high with
      | none => if IsHighSurrogate n then scanString (some n) rest
          else consChar n (scanString none rest)
      | some hi =>
        if IsLowSurrogate n then
          consChar (0x10000 + (hi - 0xd800) * 0x400 + (n - 0xdc00)) (scanString none rest)
        else consChar hi (if IsHighSurrogate n then scanString (some n) rest
          else consChar n (scanString none rest)) := by
  rw [hexDigits_four]
  simp only [List.cons_append, List.nil_append]
  refine (scanString.eq_3 _ _ _ _ _ rest).trans ?_
  rw [hex4_hexDigits hn]

theorem scanString_none_hexDigits {n : Nat} (hn : n < 0x10000) (rest : List Char) :
    scanString none ('\\' :: 'u' :: hexDigits 4 n ++ rest) =
      if IsHighSurrogate n then scanString (some n) rest else consChar n (scanString none rest) :=
  scanString_hexDigits none hn rest

theorem scanString_some_hexDigits (hi : Nat) {n : Nat} (hn : n < 0x10000)
    (hlow : IsLowSurrogate n) (rest : List Char) :
    scanString (some hi) ('\\' :: 'u' :: hexDigits 4 n ++ rest) =
      consChar (0x10000 + (hi - 0xd800) * 0x400 + (n - 0xdc00)) (scanString none rest) :=
  (scanString_hexDigits (some hi) hn rest).trans (if_pos hlow)

theorem scanString_simpleEscape (high : Option Nat) {e ch : Char} (he : e ≠ 'u')
    (h : simpleEscape e = some ch) (rest : List Char) :
    scanString high ('\\' :: e :: rest) =
      flushHigh high ((scanString none rest).map fun r => (ch :: r.1, r.2)) := by
  refine (scanString.eq_5 _ _ _ (fun _ _ _ _ _ h' => absurd h' he) he).trans ?_
  rw [h]

theorem scanString_plain (high : Option Nat) {c : Char} (rest : List Char) (h1 : c ≠ '"')
    (h2 : c ≠ '\\') (h3 : 0x20 ≤ c.toNat) :
    scanString high (c :: rest) =
      flushHigh high ((scanString none rest).map fun r => (c :: r.1, r.2)) := by
  refine (scanString.eq_7 _ _ _ h1 (fun _ _ _ _ _ h _ => h2 h) (fun _ h _ => h2 h)
    (fun _ _ h _ => h2 h) (fun h _ => h2 h)).trans ?_
  rw [if_neg (by omega)]

/-- `py_scanstring` reads back one character `py_encode_basestring_ascii`
wrote, whatever follows it. -/
theorem scanString_jsonEscapeChar (c : Char) (rest : List Char) :
    scanString none (jsonEscapeChar c ++ rest) =
      (scanString none rest).map fun r => (c :: r.1, r.2) := by
  have hc := toNat_isValidChar c
  unfold jsonEscapeChar
  by_cases hp : IsPlainChar c
  · rw [if_pos hp]
    exact scanString_plain none rest hp.2.1 hp.1 hp.2.2.1
  rw [if_neg hp]
  cases he : escapeDct c with
  | some e =>
    obtain ⟨hs, hu⟩ := simpleEscape_escapeDct he
    exact scanString_simpleEscape none hu hs rest
  | none =>
    dsimp only
    split_ifs with hb
    · rw [scanString_none_hexDigits hb, if_neg (by unfold IsHighSurrogate; omega), consChar_toNat]
    · generalize hhi : 0xd800 + (c.toNat - 0x10000) / 0x400 = hi
      generalize hlo : 0xdc00 + (c.toNat - 0x10000) % 0x400 = lo
      rw [List.append_assoc, scanString_none_hexDigits (by omega),
        if_pos (by unfold IsHighSurrogate; omega),
        scanString_some_hexDigits hi (by omega) (by unfold IsLowSurrogate; omega),
        show 0x10000 + (hi - 0xd800) * 0x400 + (lo - 0xdc00) = c.toNat by omega, consChar_toNat]

/-- `py_scanstring` inverts `py_encode_basestring_ascii`: it reads the
encoded string up to its closing quote and leaves the rest. -/
theorem scanString_encode (s rest : List Char) :
    scanString none (s.flatMap jsonEscapeChar ++ '"' :: rest) = .ok (s, rest) := by
  induction s with
  | nil => simp [scanString, flushHigh]
  | cons c s ih => rw [List.flatMap_cons, List.append_assoc, scanString_jsonEscapeChar, ih]; rfl

/-! ## Members and objects -/

theorem skipWs_cons_of_not_space {c : Char} (h : isJsonSpace c = false) (l : List Char) :
    skipWs (c :: l) = c :: l := by
  simp [skipWs, List.dropWhile_cons, h]

theorem skipWs_space (l : List Char) : skipWs (' ' :: l) = skipWs l := rfl

theorem parseMembers_space (fuel : Nat) (cs : List Char) :
    parseMembers fuel (' ' :: cs) = parseMembers fuel cs := by
  cases fuel <;> rfl

theorem dumpsItem_append (k v : String) (rest : List Char) :
    dumpsItem k v ++ rest = '"' :: (k.data.flatMap jsonEscapeChar ++ '"' :: ':' :: ' ' :: '"' ::
      (v.data.flatMap jsonEscapeChar ++ '"' :: rest)) := by
  simp [dumpsItem, encodeString]

theorem parseMembers_dumpsItems (rest : List Char) : ∀ (m : List (String × String)) (fuel : Nat),
    m ≠ [] → m.length ≤ fuel → parseMembers fuel (dumpsItems m ++ '}' :: rest) = .ok (m, rest)
  | [], _, h, _ => absurd rfl h
  | [(k, v)], fuel + 1, _, _ => by
    simp (disch := decide) only [dumpsItems, dumpsItem_append, parseMembers, skipWs_cons_of_not_space, scanString_encode, skipWs_space]
  | (k, v) :: p :: m, fuel + 1, _, hf => by
    have ih := parseMembers_dumpsItems rest (p :: m) fuel (List.cons_ne_nil _ _)
      (by simp at hf ⊢; omega)
    simp (disch := decide) only [dumpsItems, List.append_assoc, List.cons_append, dumpsItem_append, parseMembers,
      skipWs_cons_of_not_space, scanString_encode, parseMembers_space, skipWs_space]
    simp only [dumpsItems] at ih
    rw [ih]
    rfl

theorem length_le_length_dumpsItems :
    ∀ m : List (String × String), m.length ≤ (dumpsItems m).length
  | [] => le_refl _
  | [(k, v)] => by simp [dumpsItems, dumpsItem, encodeString]
  | (k, v) :: p :: m => by
    have := length_le_length_dumpsItems (p :: m)
    simp [dumpsItems, dumpsItem, encodeString] at this ⊢
    omega

/-- `json.loads` reads back what `json.dumps` wrote, as `dict(pairs)`. -/
theorem loads_dumps (m : List (String × String)) : loads (dumps m) = .ok (dictOf m) := by
  cases m with
  | nil => rfl
  | cons p m =>
    obtain ⟨k, v⟩ := p
    obtain ⟨X, hX⟩ : ∃ X, dumpsItems ((k, v) :: m) ++ ['}'] = '"' :: X := by
      cases m <;> exact ⟨_, by simp only [dumpsItems, List.append_assoc, dumpsItem_append]; rfl⟩
    have hp := parseMembers_dumpsItems [] ((k, v) :: m) (dumps ((k, v) :: m)).length
      (List.cons_ne_nil _ _) (by
        have := length_le_length_dumpsItems ((k, v) :: m)
        simp only [dumps, String.length, List.length_cons, List.length_append] at this ⊢
        omega)
    rw [hX] at hp
    unfold loads
    simp (disch := decide) only [dumps, List.cons_append, hX, skipWs_cons_of_not_space]
    simp only [dumps, List.cons_append, hX] at hp
    rw [hp]
    rfl

/-! ## The `unicode_escape` codec on a dumped text -/

/-- The characters `py_encode_basestring_ascii` writes between the quotes. -/
def jsonText (s : String) : String := ⟨s.data.flatMap jsonEscapeChar⟩

theorem escapeDct_printable {c e : Char} (h : escapeDct c = some e) :
    IsPrintableAscii e ∧ (e = '"' → c = '"') := by
  unfold escapeDct at h
  split at h <;> cases h <;> decide

/-- The encoder writes printable ASCII, and a quote only for a quote. -/
theorem jsonEscapeChar_printable (c : Char) :
    ∀ d ∈ jsonEscapeChar c, IsPrintableAscii d ∧ (d = '"' → c = '"') := by
  have hdigits : ∀ {w n d}, d ∈ '\\' :: 'u' :: hexDigits w n → IsPrintableAscii d ∧ d ≠ '"' := by
    intro w n d hd
    rcases List.mem_cons.1 hd with rfl | hd
    · decide
    rcases List.mem_cons.1 hd with rfl | hd
    · decide
    obtain ⟨k, hk, rfl⟩ := mem_hexDigits hd
    exact ⟨(hexDigit_printable k hk).1, (hexDigit_printable k hk).2.2⟩
  intro d hd
  unfold jsonEscapeChar at hd
  by_cases hp : IsPlainChar c
  · rw [if_pos hp, List.mem_singleton] at hd
    subst hd
    exact ⟨hp.2.2, id⟩
  rw [if_neg hp] at hd
  cases he : escapeDct c with
  | some e =>
    rw [he] at hd
    rcases List.mem_pair.1 hd with rfl | rfl
    · exact ⟨by decide, fun h => absurd h (by decide)⟩
    · exact escapeDct_printable he
  | none =>
    rw [he] at hd
    dsimp only at hd
    split_ifs at hd
    · exact ⟨(hdigits hd).1, fun h => absurd h (hdigits hd).2⟩
    · rcases List.mem_append.1 hd with hd | hd <;>
        exact ⟨(hdigits hd).1, fun h => absurd h (hdigits hd).2⟩

theorem unicodeEscapeChar_eq_jsonEscapeChar {c : Char} (hc : IsPrintableAscii c) (hq : c ≠ '"') :
    unicodeEscapeChar c = jsonEscapeChar c := by
  rw [unicodeEscapeChar_printable hc]
  by_cases hb : c = '\\'
  · subst hb; rfl
  · rw [if_neg hb, jsonEscapeChar, if_pos ⟨hb, hq, hc⟩]

theorem flatMap_unicodeEscapeChar {l : List Char} (h : ∀ d ∈ l, IsPrintableAscii d ∧ d ≠ '"') :
    l.flatMap unicodeEscapeChar = l.flatMap jsonEscapeChar := by
  induction l with
  | nil => rfl
  | cons d l ih =>
    have hd := h d (List.mem_cons_self _ _)
    rw [List.flatMap_cons, List.flatMap_cons, unicodeEscapeChar_eq_jsonEscapeChar hd.1 hd.2,
      ih fun x hx => h x (List.mem_cons_of_mem _ hx)]

theorem flatMap_unicodeEscapeChar_encodeString {s : List Char} (hs : '"' ∉ s) :
    (encodeString s).flatMap unicodeEscapeChar = encodeString (jsonText ⟨s⟩).data := by
  have hprint : ∀ d ∈ s.flatMap jsonEscapeChar, IsPrintableAscii d ∧ d ≠ '"' := by
    intro d hd
    obtain ⟨c, hc, hd⟩ := List.mem_flatMap.1 hd
    have := jsonEscapeChar_printable c d hd
    exact ⟨this.1, fun h => hs (this.2 h ▸ hc)⟩
  simp only [encodeString, jsonText, List.flatMap_cons, List.flatMap_append,
    flatMap_unicodeEscapeChar hprint]
  rfl

theorem flatMap_unicodeEscapeChar_dumpsItems :
    ∀ m : List (String × String), (∀ p ∈ m, '"' ∉ p.1.data ∧ '"' ∉ p.2.data) →
      (dumpsItems m).flatMap unicodeEscapeChar =
        dumpsItems (m.map fun p => (jsonText p.1, jsonText p.2))
  | [], _ => rfl
  | [(k, v)], h => by
    have hkv := h (k, v) (List.mem_singleton_self _)
    simp only [dumpsItems, dumpsItem, List.map_cons, List.map_nil, List.flatMap_append,
      List.flatMap_cons, flatMap_unicodeEscapeChar_encodeString hkv.1,
      flatMap_unicodeEscapeChar_encodeString hkv.2]
    rfl
  | (k, v) :: p :: m, h => by
    have hkv := h (k, v) (List.mem_cons_self _ _)
    have ih := flatMap_unicodeEscapeChar_dumpsItems (p :: m)
      fun q hq => h q (List.mem_cons_of_mem _ hq)
    simp only [dumpsItems, dumpsItem, List.map_cons, List.flatMap_append,
      List.flatMap_cons, flatMap_unicodeEscapeChar_encodeString hkv.1,
      flatMap_unicodeEscapeChar_encodeString hkv.2] at ih ⊢
    rw [ih]
    rfl

/-- `unicode_escape` after `json.dumps` is `json.dumps` of the escaped
texts: the codec doubles the backslashes the encoder wrote, which is how the
encoder writes a backslash. -/
theorem unicodeEscape_dumps {m : List (String × String)}
    (h : ∀ p ∈ m, '"' ∉ p.1.data ∧ '"' ∉ p.2.data) :
    unicodeEscape (dumps m) = dumps (m.map fun p => (jsonText p.1, jsonText p.2)) := by
  simp only [unicodeEscape, dumps, List.flatMap_cons, List.flatMap_append,
    flatMap_unicodeEscapeChar_dumpsItems m h]
  rfl

theorem jsonEscapeChar_of_plain {c : Char} (h : IsPlainChar c) : jsonEscapeChar c = [c] :=
  if_pos h

/-- Every character but a plain one is written as an escape of two or more. -/
theorem plain_of_length_jsonEscapeChar {c : Char} (h : (jsonEscapeChar c).length ≤ 1) :
    IsPlainChar c := by
  by_contra hp
  unfold jsonEscapeChar at h
  rw [if_neg hp] at h
  cases he : escapeDct c with
  | some e => simp [he] at h
  | none =>
    rw [he] at h
    dsimp only at h
    split_ifs at h <;> simp at h

theorem one_le_length_jsonEscapeChar (c : Char) : 1 ≤ (jsonEscapeChar c).length := by
  unfold jsonEscapeChar
  split_ifs
  · rfl
  all_goals split <;> simp

theorem length_flatMap_jsonEscapeChar (l : List Char) :
    l.length ≤ (l.flatMap jsonEscapeChar).length ∧
      ((l.flatMap jsonEscapeChar).length ≤ l.length → ∀ c ∈ l, IsPlainChar c) := by
  induction l with
  | nil => simp
  | cons c l ih =>
    have hc := one_le_length_jsonEscapeChar c
    simp only [List.flatMap_cons, List.length_append, List.length_cons, List.mem_cons]
    refine ⟨by omega, fun h d hd => ?_⟩
    rcases hd with rfl | hd
    · exact plain_of_length_jsonEscapeChar (by omega)
    · exact ih.2 (by omega) d hd

/-- The escaped text is the string itself exactly when every character is
plain. -/
theorem jsonText_eq_self_iff (s : String) : jsonText s = s ↔ ∀ c ∈ s.data, IsPlainChar c := by
  constructor
  · intro h
    exact (length_flatMap_jsonEscapeChar s.data).2 (congrArg (fun t => t.data.length) h).le
  · intro h
    suffices hl : ∀ l : List Char, (∀ c ∈ l, IsPlainChar c) → l.flatMap jsonEscapeChar = l from
      congrArg String.mk (hl s.data h)
    intro l hl
    induction l with
    | nil => rfl
    | cons c l ih =>
      rw [List.flatMap_cons, jsonEscapeChar_of_plain (hl c (List.mem_cons_self _ _)),
        ih fun d hd => hl d (List.mem_cons_of_mem _ hd)]
      rfl

end Connectors.Python
