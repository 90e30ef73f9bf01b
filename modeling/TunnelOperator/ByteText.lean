import Mathlib.Data.List.Basic

/-!
# Bytes and lines as text

Hexadecimal and base64 as the Go packages `encoding/hex` and `encoding/base64` (the standard
encoding) write and read them. Both readers accept more than the writers produce: digits of either
case, line breaks anywhere, and bits under the padding that no byte uses. Texts of several lines,
each a key and a value, are taken apart as `bufio.Scanner` and `strings.Cut` do.
-/

namespace ByteText

def hexDigit (n : ℕ) : Char := "0123456789abcdef".toList.getD n '0'

def fromHexChar (c : Char) : Option ℕ :=
  if '0' ≤ c ∧ c ≤ '9' then some (c.toNat - '0'.toNat)
  else if 'a' ≤ c ∧ c ≤ 'f' then some (c.toNat - 'a'.toNat + 10)
  else if 'A' ≤ c ∧ c ≤ 'F' then some (c.toNat - 'A'.toNat + 10)
  else none

def hexEncode (bytes : List UInt8) : List Char :=
  bytes.flatMap fun b => [hexDigit (b.toNat / 16), hexDigit (b.toNat % 16)]

def hexDecode : List Char → Option (List UInt8)
  | [] => some []
  | [_] => none
  | a :: b :: rest => do
      let high ← fromHexChar a
      let low ← fromHexChar b
      let bytes ← hexDecode rest
      some (UInt8.ofNat (16 * high + low) :: bytes)

theorem fromHexChar_hexDigit : ∀ n < 16, fromHexChar (hexDigit n) = some n := by decide

theorem hexDecode_hexEncode (bytes : List UInt8) : hexDecode (hexEncode bytes) = some bytes := by
  induction bytes with
  | nil => rfl
  | cons b bytes ih =>
      have hb := b.toNat_lt
      have hbyte : 16 * (b.toNat / 16) + b.toNat % 16 = b.toNat := by omega
      rw [hexEncode] at ih
      simp only [hexEncode, List.flatMap_cons, List.cons_append, List.nil_append, hexDecode,
        fromHexChar_hexDigit (b.toNat / 16) (by omega),
        fromHexChar_hexDigit (b.toNat % 16) (by omega), ih, Option.bind_eq_bind, Option.bind_some,
        hbyte, UInt8.ofNat_toNat]

theorem hexEncode_chars {bytes : List UInt8} {c : Char} (h : c ∈ hexEncode bytes) :
    (fromHexChar c).isSome = true := by
  obtain ⟨b, -, hb⟩ := List.mem_flatMap.mp h
  have hlt := b.toNat_lt
  rcases List.mem_pair.mp hb with rfl | rfl
  · rw [fromHexChar_hexDigit _ (by omega)]
    rfl
  · rw [fromHexChar_hexDigit _ (by omega)]
    rfl

def base64Char (n : ℕ) : Char :=
  "ABCDEFGHIJKLMNOPQRSTUVWXYZabcdefghijklmnopqrstuvwxyz0123456789+/".toList.getD n 'A'

def fromBase64Char (c : Char) : Option ℕ :=
  if 'A' ≤ c ∧ c ≤ 'Z' then some (c.toNat - 'A'.toNat)
  else if 'a' ≤ c ∧ c ≤ 'z' then some (c.toNat - 'a'.toNat + 26)
  else if '0' ≤ c ∧ c ≤ '9' then some (c.toNat - '0'.toNat + 52)
  else if c = '+' then some 62
  else if c = '/' then some 63
  else none

def base64Encode : List UInt8 → List Char
  | [] => []
  | [a] => [base64Char (a.toNat / 4), base64Char (a.toNat % 4 * 16), '=', '=']
  | [a, b] => [base64Char (a.toNat / 4), base64Char (a.toNat % 4 * 16 + b.toNat / 16),
      base64Char (b.toNat % 16 * 4), '=']
  | a :: b :: c :: bytes =>
      base64Char (a.toNat / 4) :: base64Char (a.toNat % 4 * 16 + b.toNat / 16) ::
        base64Char (b.toNat % 16 * 4 + c.toNat / 64) :: base64Char (c.toNat % 64) ::
        base64Encode bytes

/-- The bytes of four characters. Only the last four may end in padding. -/
def base64Quads : List Char → Option (List UInt8)
  | [] => some []
  | a :: b :: c :: d :: rest => do
      let x ← fromBase64Char a
      let y ← fromBase64Char b
      if d = '=' then
        if rest ≠ [] then none
        else if c = '=' then some [UInt8.ofNat (x * 4 + y / 16)]
        else do
          let z ← fromBase64Char c
          some [UInt8.ofNat (x * 4 + y / 16), UInt8.ofNat (y % 16 * 16 + z / 4)]
      else do
        let z ← fromBase64Char c
        let w ← fromBase64Char d
        let bytes ← base64Quads rest
        some (UInt8.ofNat (x * 4 + y / 16) :: UInt8.ofNat (y % 16 * 16 + z / 4) ::
          UInt8.ofNat (z % 4 * 64 + w) :: bytes)
  | _ => none

def base64Decode (s : List Char) : Option (List UInt8) :=
  base64Quads (s.filter fun c => c ≠ '\r' ∧ c ≠ '\n')

def IsBase64Char (c : Char) : Prop := (fromBase64Char c).isSome = true ∨ c = '='

instance (c : Char) : Decidable (IsBase64Char c) := inferInstanceAs (Decidable (_ ∨ _))

theorem fromBase64Char_base64Char : ∀ n < 64, fromBase64Char (base64Char n) = some n := by
  decide +kernel

theorem base64Char_ne_pad : ∀ n < 64, base64Char n ≠ '=' := by decide +kernel

theorem isBase64Char_base64Char {n : ℕ} (h : n < 64) : IsBase64Char (base64Char n) :=
  Or.inl (by rw [fromBase64Char_base64Char n h]; rfl)

theorem base64Encode_chars (bytes : List UInt8) : ∀ c ∈ base64Encode bytes, IsBase64Char c := by
  fun_induction base64Encode bytes with
  | case1 => simp
  | case2 a =>
      have ha := a.toNat_lt
      simp only [List.mem_cons, List.not_mem_nil, or_false, forall_eq_or_imp, forall_eq]
      exact ⟨isBase64Char_base64Char (by omega), isBase64Char_base64Char (by omega), Or.inr rfl,
        Or.inr rfl⟩
  | case3 a b =>
      have ha := a.toNat_lt
      have hb := b.toNat_lt
      simp only [List.mem_cons, List.not_mem_nil, or_false, forall_eq_or_imp, forall_eq]
      exact ⟨isBase64Char_base64Char (by omega), isBase64Char_base64Char (by omega),
        isBase64Char_base64Char (by omega), Or.inr rfl⟩
  | case4 a b c bytes ih =>
      have ha := a.toNat_lt
      have hb := b.toNat_lt
      have hc := c.toNat_lt
      simp only [List.mem_cons, forall_eq_or_imp]
      exact ⟨isBase64Char_base64Char (by omega), isBase64Char_base64Char (by omega),
        isBase64Char_base64Char (by omega), isBase64Char_base64Char (by omega), ih⟩

theorem base64Quads_base64Encode (bytes : List UInt8) :
    base64Quads (base64Encode bytes) = some bytes := by
  fun_induction base64Encode bytes with
  | case1 => rfl
  | case2 a =>
      have ha := a.toNat_lt
      have hbyte : a.toNat / 4 * 4 + a.toNat % 4 * 16 / 16 = a.toNat := by omega
      simp only [base64Quads, fromBase64Char_base64Char _ (show a.toNat / 4 < 64 by omega),
        fromBase64Char_base64Char _ (show a.toNat % 4 * 16 < 64 by omega), Option.bind_eq_bind,
        Option.bind_some, if_true, ne_eq, not_true_eq_false, if_false, hbyte, UInt8.ofNat_toNat]
  | case3 a b =>
      have ha := a.toNat_lt
      have hb := b.toNat_lt
      have hthird : b.toNat % 16 * 4 < 64 := by omega
      have hfirst : a.toNat / 4 * 4 + (a.toNat % 4 * 16 + b.toNat / 16) / 16 = a.toNat := by omega
      have hsecond : (a.toNat % 4 * 16 + b.toNat / 16) % 16 * 16 + b.toNat % 16 * 4 / 4 =
          b.toNat := by omega
      simp only [base64Quads, fromBase64Char_base64Char _ (show a.toNat / 4 < 64 by omega),
        fromBase64Char_base64Char _ (show a.toNat % 4 * 16 + b.toNat / 16 < 64 by omega),
        fromBase64Char_base64Char _ hthird, base64Char_ne_pad _ hthird, Option.bind_eq_bind,
        Option.bind_some, if_true, ne_eq, not_true_eq_false, if_false, hfirst, hsecond,
        UInt8.ofNat_toNat]
  | case4 a b c bytes ih =>
      have ha := a.toNat_lt
      have hb := b.toNat_lt
      have hc := c.toNat_lt
      have hlast : c.toNat % 64 < 64 := by omega
      have hfirst : a.toNat / 4 * 4 + (a.toNat % 4 * 16 + b.toNat / 16) / 16 = a.toNat := by omega
      have hsecond : (a.toNat % 4 * 16 + b.toNat / 16) % 16 * 16 +
          (b.toNat % 16 * 4 + c.toNat / 64) / 4 = b.toNat := by omega
      have hthird : (b.toNat % 16 * 4 + c.toNat / 64) % 4 * 64 + c.toNat % 64 = c.toNat := by omega
      simp only [base64Quads, fromBase64Char_base64Char _ (show a.toNat / 4 < 64 by omega),
        fromBase64Char_base64Char _ (show a.toNat % 4 * 16 + b.toNat / 16 < 64 by omega),
        fromBase64Char_base64Char _ (show b.toNat % 16 * 4 + c.toNat / 64 < 64 by omega),
        fromBase64Char_base64Char _ hlast, base64Char_ne_pad _ hlast, ih, Option.bind_eq_bind,
        Option.bind_some, if_false, hfirst, hsecond, hthird, UInt8.ofNat_toNat]

theorem base64Decode_base64Encode (bytes : List UInt8) :
    base64Decode (base64Encode bytes) = some bytes := by
  have hfilter : (base64Encode bytes).filter (fun c => c ≠ '\r' ∧ c ≠ '\n') =
      base64Encode bytes := by
    refine List.filter_eq_self.mpr fun c hc => ?_
    have hchar := base64Encode_chars bytes c hc
    simp only [decide_eq_true_eq]
    constructor <;> rintro rfl <;> revert hchar <;> decide
  rw [base64Decode, hfilter, base64Quads_base64Encode]

def splitLines : List Char → List (List Char)
  | [] => []
  | c :: s =>
      if c = '\n' then [] :: splitLines s
      else match splitLines s with
        | [] => [[c]]
        | line :: lines => (c :: line) :: lines

theorem splitLines_line {line : List Char} (h : '\n' ∉ line) (s : List Char) :
    splitLines (line ++ '\n' :: s) = line :: splitLines s := by
  induction line with
  | nil => simp [splitLines]
  | cons c line ih =>
      obtain ⟨hc, hline⟩ := not_or.mp (List.mem_cons.not.mp h)
      rw [List.cons_append, splitLines, if_neg (Ne.symm hc), ih hline]

theorem splitLines_flatMap {lines : List (List Char)} (h : ∀ line ∈ lines, '\n' ∉ line) :
    splitLines (lines.flatMap (· ++ ['\n'])) = lines := by
  induction lines with
  | nil => rfl
  | cons line lines ih =>
      rw [List.flatMap_cons, List.append_assoc, List.singleton_append,
        splitLines_line (h line List.mem_cons_self), ih fun line hline =>
        h line (List.mem_cons_of_mem _ hline)]

def cut (s : List Char) : Option (List Char × List Char) :=
  match s.dropWhile (· ≠ '=') with
  | [] => none
  | _ :: value => some (s.takeWhile (· ≠ '='), value)

theorem cut_append {key : List Char} (h : '=' ∉ key) (value : List Char) :
    cut (key ++ '=' :: value) = some (key, value) := by
  have hkey : ∀ c ∈ key, decide (c ≠ '=') = true := by
    intro c hc
    exact decide_eq_true fun heq => h (heq ▸ hc)
  rw [cut, List.dropWhile_append_of_pos hkey, List.takeWhile_append_of_pos hkey]
  simp

end ByteText
