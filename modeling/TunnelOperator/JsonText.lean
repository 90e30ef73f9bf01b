import TunnelOperator.ByteText

/-!
# JSON texts

JSON values and their texts as the Go package `encoding/json` reads them: escapes, surrogate pairs
and numbers included, with an error for everything the grammar does not derive. Strings and objects
of strings are written as its encoder writes them, which escapes more than the grammar asks for, and
are read back as they were.
-/

namespace JsonText
open ByteText

/-- A number is kept as its literal. -/
inductive Json where
  | null
  | bool (b : Bool)
  | num (literal : String)
  | str (s : String)
  | arr (items : List Json)
  | obj (fields : List (String × Json))

def skipSpace (s : List Char) : List Char :=
  s.dropWhile fun c => c = ' ' || c = '\t' || c = '\r' || c = '\n'

def unescape (c : Char) : Option Char :=
  if c = '"' ∨ c = '\\' ∨ c = '/' then some c
  else if c = 'b' then some (Char.ofNat 8)
  else if c = 'f' then some (Char.ofNat 12)
  else if c = 'n' then some '\n'
  else if c = 'r' then some '\r'
  else if c = 't' then some '\t'
  else none

def codeUnit (a b c d : Char) : Option ℕ := do
  let w ← fromHexChar a
  let x ← fromHexChar b
  let y ← fromHexChar c
  let z ← fromHexChar d
  some (((w * 16 + x) * 16 + y) * 16 + z)

/-- The characters and code units of a string, up to the quote that ends it. -/
def readUnits : List Char → Option (List (Char ⊕ ℕ) × List Char)
  | [] => none
  | '"' :: s => some ([], s)
  | '\\' :: 'u' :: a :: b :: c :: d :: s =>
      (codeUnit a b c d).bind fun n => (readUnits s).map (Prod.map (.inr n :: ·) id)
  | '\\' :: c :: s => (unescape c).bind fun e => (readUnits s).map (Prod.map (.inl e :: ·) id)
  | c :: s => if c.toNat < 32 then none else (readUnits s).map (Prod.map (.inl c :: ·) id)

/-- A code unit of a pair of surrogates that has lost its other half is replaced. -/
def loneUnit (n : ℕ) : Char := if 0xd800 ≤ n ∧ n < 0xe000 then Char.ofNat 0xfffd else Char.ofNat n

def joinUnits : List (Char ⊕ ℕ) → List Char
  | [] => []
  | .inl c :: units => c :: joinUnits units
  | .inr n :: .inr m :: units =>
      if 0xd800 ≤ n ∧ n < 0xdc00 ∧ 0xdc00 ≤ m ∧ m < 0xe000 then
        Char.ofNat (0x10000 + (n - 0xd800) * 0x400 + (m - 0xdc00)) :: joinUnits units
      else loneUnit n :: joinUnits (.inr m :: units)
  | .inr n :: units => loneUnit n :: joinUnits units

def readString (s : List Char) : Option (String × List Char) :=
  (readUnits s).map fun (units, s) => (String.ofList (joinUnits units), s)

def readDigits (s : List Char) : Option (List Char × List Char) :=
  let digits := s.takeWhile Char.isDigit
  if digits = [] then none else some (digits, s.dropWhile Char.isDigit)

def readInteger : List Char → Option (List Char × List Char)
  | '0' :: s => some (['0'], s)
  | s => readDigits s

def readFraction : List Char → Option (List Char × List Char)
  | '.' :: s => (readDigits s).map fun (digits, s) => ('.' :: digits, s)
  | s => some ([], s)

def readExponent : List Char → Option (List Char × List Char)
  | e :: s =>
      if e = 'e' ∨ e = 'E' then
        match s with
        | '+' :: s => (readDigits s).map fun (digits, s) => (e :: '+' :: digits, s)
        | '-' :: s => (readDigits s).map fun (digits, s) => (e :: '-' :: digits, s)
        | s => (readDigits s).map fun (digits, s) => (e :: digits, s)
      else some ([], e :: s)
  | [] => some ([], [])

def readNumber (s : List Char) : Option (String × List Char) := do
  let (sign, s) := match s with
    | '-' :: s => (['-'], s)
    | s => ([], s)
  let (integer, s) ← readInteger s
  let (fraction, s) ← readFraction s
  let (exponent, s) ← readExponent s
  some (String.ofList (sign ++ integer ++ fraction ++ exponent), s)

mutual

/-- A value and what follows it. The fuel bounds the number of values and fields read. -/
def readValue : ℕ → List Char → Option (Json × List Char)
  | 0, _ => none
  | fuel + 1, s =>
      match skipSpace s with
      | '"' :: s => (readString s).map fun (text, s) => (.str text, s)
      | '{' :: s =>
          match skipSpace s with
          | '}' :: s => some (.obj [], s)
          | s => (readFields fuel s).map fun (fields, s) => (.obj fields, s)
      | '[' :: s =>
          match skipSpace s with
          | ']' :: s => some (.arr [], s)
          | s => (readItems fuel s).map fun (items, s) => (.arr items, s)
      | 't' :: 'r' :: 'u' :: 'e' :: s => some (.bool true, s)
      | 'f' :: 'a' :: 'l' :: 's' :: 'e' :: s => some (.bool false, s)
      | 'n' :: 'u' :: 'l' :: 'l' :: s => some (.null, s)
      | s => (readNumber s).map fun (literal, s) => (.num literal, s)

def readFields : ℕ → List Char → Option (List (String × Json) × List Char)
  | 0, _ => none
  | fuel + 1, s =>
      match skipSpace s with
      | '"' :: s => do
          let (name, s) ← readString s
          match skipSpace s with
          | ':' :: s => do
              let (value, s) ← readValue fuel s
              match skipSpace s with
              | ',' :: s => (readFields fuel s).map (Prod.map ((name, value) :: ·) id)
              | '}' :: s => some ([(name, value)], s)
              | _ => none
          | _ => none
      | _ => none

def readItems : ℕ → List Char → Option (List Json × List Char)
  | 0, _ => none
  | fuel + 1, s => do
      let (item, s) ← readValue fuel s
      match skipSpace s with
      | ',' :: s => (readItems fuel s).map (Prod.map (item :: ·) id)
      | ']' :: s => some ([item], s)
      | _ => none

end

/-- The first value of a stream. Every value takes a character, so there is enough fuel. The limit
of `encoding/json` to values nested 10000 deep is left out. -/
def decode (s : String) : Option Json := (readValue (s.toList.length + 1) s.toList).map Prod.fst

/-- Characters without a short escape that are written by their code unit. -/
def ByCodeUnit (c : Char) : Prop :=
  c.toNat < 32 ∨ c = '<' ∨ c = '>' ∨ c = '&' ∨ c.toNat = 0x2028 ∨ c.toNat = 0x2029

instance (c : Char) : Decidable (ByCodeUnit c) := inferInstanceAs (Decidable (_ ∨ _))

def escape (c : Char) : List Char :=
  if c = '"' ∨ c = '\\' then ['\\', c]
  else if c = Char.ofNat 8 then ['\\', 'b']
  else if c = Char.ofNat 12 then ['\\', 'f']
  else if c = '\n' then ['\\', 'n']
  else if c = '\r' then ['\\', 'r']
  else if c = '\t' then ['\\', 't']
  else if ByCodeUnit c then
    ['\\', 'u', hexDigit (c.toNat / 0x1000), hexDigit (c.toNat / 0x100 % 16),
      hexDigit (c.toNat / 16 % 16), hexDigit (c.toNat % 16)]
  else [c]

def writeString (s : String) : List Char := '"' :: (s.toList.flatMap escape ++ ['"'])

def writeFields : List (String × String) → List Char
  | [] => []
  | [field] => writeString field.1 ++ ':' :: writeString field.2
  | field :: fields =>
      writeString field.1 ++ ':' :: (writeString field.2 ++ ',' :: writeFields fields)

def writeStrings (fields : List (String × String)) : String :=
  String.ofList ('{' :: (writeFields fields ++ ['}']))

theorem ByCodeUnit.lt {c : Char} (h : ByCodeUnit c) : c.toNat < 0x10000 := by
  rcases h with h | rfl | rfl | rfl | h | h
  · omega
  all_goals first | decide | omega

theorem codeUnit_hexDigits {n : ℕ} (h : n < 0x10000) :
    codeUnit (hexDigit (n / 0x1000)) (hexDigit (n / 0x100 % 16)) (hexDigit (n / 16 % 16))
      (hexDigit (n % 16)) =
      some n := by
  have hsum : ((n / 0x1000 * 16 + n / 0x100 % 16) * 16 + n / 16 % 16) * 16 + n % 16 = n := by omega
  simp only [codeUnit, fromHexChar_hexDigit (n / 0x1000) (by omega),
    fromHexChar_hexDigit (n / 0x100 % 16) (by omega), fromHexChar_hexDigit (n / 16 % 16) (by omega),
    fromHexChar_hexDigit (n % 16) (by omega), Option.bind_eq_bind, Option.bind_some, hsum]

theorem readUnits_short {c e : Char} (hc : c ≠ 'u') (he : unescape c = some e) (s : List Char) :
    readUnits ('\\' :: c :: s) = (readUnits s).map (Prod.map (.inl e :: ·) id) := by
  simp [readUnits, hc, he]

theorem readUnits_escape (c : Char) (s : List Char) :
    ∃ u : Char ⊕ ℕ, (u = .inl c ∨ u = .inr c.toNat) ∧
      readUnits (escape c ++ s) = (readUnits s).map (Prod.map (u :: ·) id) := by
  unfold escape
  split_ifs with h₁ h₂ h₃ h₄ h₅ h₆ h₇
  · refine ⟨.inl c, Or.inl rfl, ?_⟩
    rcases h₁ with rfl | rfl
    · exact readUnits_short (by decide) rfl s
    · exact readUnits_short (by decide) rfl s
  · exact ⟨.inl c, Or.inl rfl, h₂ ▸ readUnits_short (by decide) rfl s⟩
  · exact ⟨.inl c, Or.inl rfl, h₃ ▸ readUnits_short (by decide) rfl s⟩
  · exact ⟨.inl c, Or.inl rfl, h₄ ▸ readUnits_short (by decide) rfl s⟩
  · exact ⟨.inl c, Or.inl rfl, h₅ ▸ readUnits_short (by decide) rfl s⟩
  · exact ⟨.inl c, Or.inl rfl, h₆ ▸ readUnits_short (by decide) rfl s⟩
  · exact ⟨.inr c.toNat, Or.inr rfl, by simp [readUnits, codeUnit_hexDigits h₇.lt]⟩
  · refine ⟨.inl c, Or.inl rfl, ?_⟩
    have hlow : ¬ c.toNat < 32 := fun h => h₇ (Or.inl h)
    have hquote : c ≠ '"' := fun h => h₁ (Or.inl h)
    have hslash : c ≠ '\\' := fun h => h₁ (Or.inr h)
    rw [List.singleton_append, readUnits, if_neg hlow]
    · exact hquote
    · exact fun _ _ _ _ _ h _ => hslash h
    · exact fun _ _ h _ => hslash h

theorem loneUnit_toNat (c : Char) : loneUnit c.toNat = c := by
  unfold loneUnit
  rw [if_neg, Char.ofNat_toNat]
  rcases c.valid with h | h
  · have : c.toNat < 0xd800 := h
    omega
  · have : 0xdfff < c.toNat := h.1
    omega

theorem joinUnits_cons {c : Char} {u : Char ⊕ ℕ} (hu : u = .inl c ∨ u = .inr c.toNat)
    (units : List (Char ⊕ ℕ)) :
    joinUnits (u :: units) = c :: joinUnits units := by
  rcases hu with rfl | rfl
  · rfl
  · have hlone := loneUnit_toNat c
    rcases units with _ | ⟨d | m, units⟩
    · simp only [joinUnits, hlone]
    · simp only [joinUnits, hlone]
    · rw [joinUnits, if_neg, hlone]
      rintro ⟨h₁, h₂, -⟩
      rw [loneUnit, if_pos ⟨h₁, by omega⟩] at hlone
      rw [← hlone] at h₂
      revert h₂
      decide

theorem readUnits_flatMap_escape (text s : List Char) :
    ∃ units, joinUnits units = text ∧ readUnits
      (text.flatMap escape ++ '"' :: s) = some (units, s) := by
  induction text with
  | nil => exact ⟨[], rfl, rfl⟩
  | cons c text ih =>
      obtain ⟨units, hjoin, hread⟩ := ih
      obtain ⟨u, hu, hescape⟩ := readUnits_escape c (text.flatMap escape ++ '"' :: s)
      refine ⟨u :: units, ?_, ?_⟩
      · rw [joinUnits_cons hu, hjoin]
      · rw [List.flatMap_cons, List.append_assoc, hescape, hread]
        rfl

theorem readString_write (text : String) (s : List Char) :
    readString (text.toList.flatMap escape ++ '"' :: s) = some (text, s) := by
  obtain ⟨units, hjoin, hread⟩ := readUnits_flatMap_escape text.toList s
  simp [readString, hread, hjoin]

theorem readValue_write (fuel : ℕ) (text : String) (s : List Char) :
    readValue (fuel + 1) (writeString text ++ s) = some (.str text, s) := by
  have hread := readString_write text s
  simp [readValue, writeString, skipSpace, hread]

section Fields

variable (fuel : ℕ) (name text : String) (s : List Char)

theorem readFields_last :
    readFields (fuel + 2) (writeString name ++ ':' :: (writeString text ++ '}' :: s)) =
      some ([(name, .str text)], s) := by
  have hname := readString_write name (':' :: (writeString text ++ '}' :: s))
  have hvalue := readValue_write fuel text ('}' :: s)
  rw [writeString]
  simp [readFields, skipSpace, hname, hvalue]

theorem readFields_next :
    readFields (fuel + 2) (writeString name ++ ':' :: (writeString text ++ ',' :: s)) =
      (readFields (fuel + 1) s).map (Prod.map ((name, .str text) :: ·) id) := by
  have hname := readString_write name (':' :: (writeString text ++ ',' :: s))
  have hvalue := readValue_write fuel text (',' :: s)
  rw [writeString, readFields]
  simp [skipSpace, hname, hvalue]

end Fields

theorem readFields_write (fields : List (String × String)) (hne : fields ≠ []) {fuel : ℕ}
    (hfuel : fields.length < fuel) (s : List Char) :
    readFields fuel (writeFields fields ++ '}' :: s) =
      some (fields.map fun field => (field.1, .str field.2), s) := by
  induction fields generalizing fuel with
  | nil => exact absurd rfl hne
  | cons field fields ih =>
      obtain ⟨fuel, rfl⟩ : ∃ n, fuel = n + 2 :=
        ⟨fuel - 2, by simp only [List.length_cons] at hfuel; omega⟩
      rcases fields with _ | ⟨next, fields⟩
      · rw [writeFields, List.append_assoc]
        exact readFields_last fuel field.1 field.2 s
      · have hlen : (next :: fields).length < fuel + 1 := by
          simp only [List.length_cons] at hfuel ⊢
          omega
        have hrest := ih (by simp) hlen
        rw [writeFields, List.append_assoc, List.cons_append, List.append_assoc, List.cons_append,
          readFields_next, hrest]
        · rfl
        · simp

theorem length_le_writeFields (fields : List (String × String)) :
    fields.length ≤ (writeFields fields).length := by
  fun_induction writeFields fields with
  | case1 => simp
  | case2 field => simp [writeString]
  | case3 field fields hne ih =>
      simp only [List.length_cons, List.length_append]
      omega

theorem decode_writeStrings (fields : List (String × String)) (hne : fields ≠ []) (tail : String) :
    decode (writeStrings fields ++ tail) =
      some (.obj (fields.map fun field => (field.1, .str field.2))) := by
  have hlen := length_le_writeFields fields
  have htext : (writeStrings fields ++ tail).toList =
      '{' :: (writeFields fields ++ '}' :: tail.toList) := by
    simp [writeStrings]
  have hfuel : fields.length < (writeFields fields ++ '}' :: tail.toList).length + 1 := by
    simp only [List.length_append, List.length_cons]
    omega
  have hfirst : ∃ s, writeFields fields ++ '}' :: tail.toList = '"' :: s := by
    rcases fields with _ | ⟨field, _ | ⟨next, fields⟩⟩
    · exact absurd rfl hne
    · exact ⟨_, rfl⟩
    · exact ⟨_, rfl⟩
  have hread := readFields_write fields hne hfuel tail.toList
  obtain ⟨s, hs⟩ := hfirst
  rw [hs] at hread htext
  simp only [decode, htext, List.length_cons, readValue]
  rw [List.length_cons] at hread
  simp [skipSpace, hread]

end JsonText
