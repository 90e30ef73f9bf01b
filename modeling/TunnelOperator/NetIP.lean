import TunnelOperator.GoText

/-!
# IP addresses and their text

The text of addresses as `netip.ParseAddr` reads it, without zones, and address blocks
written `addr/n`. An accepted text has no characters but hexadecimal digits, dots and
colons, so it can be put into a host and port or a block and taken out again.
-/

namespace TunnelOperator.NetIP
open GoText

inductive Addr where
  | v4 (bits : BitVec 32)
  | v6 (bits : BitVec 128)
  deriving DecidableEq

def Addr.width : Addr → ℕ
  | .v4 _ => 32
  | .v6 _ => 128

/-- The dotted decimal fields of an IPv4 address, without leading zeros. `value` and `digLen`
describe the field that is being read. -/
def parseIPv4Fields (fields : List ℕ) (value digLen : ℕ) : List Char → Option (List ℕ)
  | [] => if fields.length < 3 ∨ digLen = 0 then none else some (fields ++ [value])
  | c :: s =>
      if c.isDigit then
        if digLen = 1 ∧ value = 0 then none
        else if 255 < value * 10 + (c.toNat - '0'.toNat) then none
        else parseIPv4Fields fields (value * 10 + (c.toNat - '0'.toNat)) (digLen + 1) s
      else if c = '.' then
        if digLen = 0 ∨ s = [] ∨ fields.length = 3 then none
        else parseIPv4Fields (fields ++ [value]) 0 0 s
      else none

def parseIPv4 (s : List Char) : Option Addr :=
  (parseIPv4Fields [] 0 0 s).map fun fields =>
    .v4 (BitVec.ofNat 32 (fields.foldl (fun n field => n * 256 + field) 0))

def isHexDigit (c : Char) : Bool :=
  c.isDigit || ('a'.toNat ≤ c.toNat && c.toNat ≤ 'f'.toNat) ||
    ('A'.toNat ≤ c.toNat && c.toNat ≤ 'F'.toNat)

def hexValue (digits : List Char) : ℕ :=
  digits.foldl (fun n c => n * 16 +
    if c.isDigit then c.toNat - '0'.toNat
    else if 'a'.toNat ≤ c.toNat then c.toNat - 'a'.toNat + 10 else c.toNat - 'A'.toNat + 10) 0

/-- The groups of an IPv6 address from the current one on, where the ellipsis was read after the
given number of groups. The last two groups may be written as an IPv4 address. -/
def parseIPv6Groups : (remaining : ℕ) → (groups : List ℕ) → (ellipsis : Option ℕ) → List Char →
    Option (List ℕ × Option ℕ)
  | 0, groups, ellipsis, s => if s = [] then some (groups, ellipsis) else none
  | remaining + 1, groups, ellipsis, s =>
      let digits := s.takeWhile isHexDigit
      if digits = [] ∨ 4 < digits.length then none
      else
        match s.dropWhile isHexDigit with
        | [] => some (groups ++ [hexValue digits], ellipsis)
        | '.' :: _ =>
            if (ellipsis = none ∧ groups.length ≠ 6) ∨ 6 < groups.length then none
            else (parseIPv4Fields [] 0 0 s).map fun fields =>
              (groups ++ [fields.getD 0 0 * 256 + fields.getD 1 0,
                fields.getD 2 0 * 256 + fields.getD 3 0], ellipsis)
        | [':'] => none
        | ':' :: ':' :: rest =>
            if ellipsis.isSome then none
            else if rest = [] then some (groups ++ [hexValue digits], some (groups.length + 1))
            else parseIPv6Groups remaining (groups ++ [hexValue digits])
              (some (groups.length + 1)) rest
        | ':' :: rest => parseIPv6Groups remaining (groups ++ [hexValue digits]) ellipsis rest
        | _ => none

def expandEllipsis (groups : List ℕ) : Option ℕ → Option (List ℕ)
  | none => if groups.length = 8 then some groups else none
  | some i =>
      if groups.length < 8 then
        some (groups.take i ++ List.replicate (8 - groups.length) 0 ++ groups.drop i)
      else none

def readIPv6 : List Char → Option (List ℕ × Option ℕ)
  | [':', ':'] => some ([], some 0)
  | ':' :: ':' :: rest => parseIPv6Groups 8 [] (some 0) rest
  | s => parseIPv6Groups 8 [] none s

def parseIPv6 (s : List Char) : Option Addr :=
  (readIPv6 s).bind fun read => (expandEllipsis read.1 read.2).map fun groups =>
    .v6 (BitVec.ofNat 128 (groups.foldl (fun n group => n * 65536 + group) 0))

/-- `netip.ParseAddr`. The first separator decides the family. -/
def parseAddr (s : String) : Option Addr :=
  match s.toList.find? fun c => c = '.' || c = ':' || c = '%' with
  | some '.' => parseIPv4 s.toList
  | some ':' => parseIPv6 s.toList
  | _ => none

/-- `net.ParseCIDR`, which splits at the first slash. -/
def parseCIDR (s : String) : Option (Addr × ℕ) :=
  match s.toList.dropWhile (· ≠ '/') with
  | [] => none
  | _ :: mask => do
      let addr ← parseAddr (String.ofList (s.toList.takeWhile (· ≠ '/')))
      if mask ≠ [] ∧ mask.all Char.isDigit = true ∧ Nat.ofDigitChars 10 mask 0 ≤ addr.width then
        some (addr, Nat.ofDigitChars 10 mask 0)
      else none

/-- The addresses are of one family and agree on the first `n` bits. -/
def Addr.Agrees (n : ℕ) : Addr → Addr → Prop
  | .v4 x, .v4 y => ∀ i < n, x.getMsbD i = y.getMsbD i
  | .v6 x, .v6 y => ∀ i < n, x.getMsbD i = y.getMsbD i
  | _, _ => False

instance (n : ℕ) (a b : Addr) : Decidable (a.Agrees n b) := by
  unfold Addr.Agrees
  split <;> infer_instance

example : parseAddr "10.0.0.10" = some (.v4 0x0a00000a) := by decide
example : parseAddr "2001:db8::10" = some (.v6 0x20010db8000000000000000000000010) := by decide
example : parseAddr "::ffff:10.0.0.1" = some (.v6 0xffff0a000001) := by decide
example : parseAddr "10.0.0.01" = none := by decide

def IsAddrChar (c : Char) : Prop := isHexDigit c = true ∨ c = ':' ∨ c = '.'

theorem parseIPv4Fields_chars {fields result : List ℕ} {value digLen : ℕ} {s : List Char}
    (h : parseIPv4Fields fields value digLen s = some result) {c : Char} (hc : c ∈ s) :
    IsAddrChar c := by
  induction s generalizing fields value digLen with
  | nil => cases hc
  | cons x s ih =>
      simp only [parseIPv4Fields] at h
      split_ifs at h with hx _ _ hdot _ <;> rcases List.mem_cons.mp hc with rfl | hc
      · exact Or.inl (by simp [isHexDigit, hx])
      · exact ih h hc
      · exact Or.inr (Or.inr hdot)
      · exact ih h hc

theorem parseIPv6Groups_chars {n : ℕ} {groups : List ℕ} {ellipsis : Option ℕ} {s : List Char}
    {result : List ℕ × Option ℕ} (h : parseIPv6Groups n groups ellipsis s = some result) {c : Char}
    (hc : c ∈ s) : IsAddrChar c := by
  induction n generalizing groups ellipsis s with
  | zero =>
      simp only [parseIPv6Groups] at h
      split_ifs at h with hs
      rw [hs] at hc
      cases hc
  | succ n ih =>
      simp only [parseIPv6Groups] at h
      by_cases hdigits : s.takeWhile isHexDigit = [] ∨ 4 < (s.takeWhile isHexDigit).length
      · rw [if_pos hdigits] at h
        cases h
      rw [if_neg hdigits] at h
      have hsplit := hc
      rw [← List.takeWhile_append_dropWhile (p := isHexDigit) (l := s)] at hsplit
      rcases List.mem_append.mp hsplit with hhex | hrest
      · exact Or.inl (List.mem_takeWhile_imp hhex)
      split at h <;> rename_i heq
      · rw [heq] at hrest
        cases hrest
      · split_ifs at h
        obtain ⟨fields, hfields, -⟩ := Option.map_eq_some_iff.mp h
        exact parseIPv4Fields_chars hfields hc
      · cases h
      · split_ifs at h with _ hnil <;> rw [heq] at hrest <;>
          rcases List.mem_cons.mp hrest with rfl | hrest
        · exact Or.inr (Or.inl rfl)
        · rw [hnil] at hrest
          exact Or.inr (Or.inl (List.mem_singleton.mp hrest))
        · exact Or.inr (Or.inl rfl)
        · rcases List.mem_cons.mp hrest with rfl | hrest
          · exact Or.inr (Or.inl rfl)
          · exact ih h hrest
      · rw [heq] at hrest
        rcases List.mem_cons.mp hrest with rfl | hrest
        · exact Or.inr (Or.inl rfl)
        · exact ih h hrest
      · cases h

theorem parseIPv6_chars {s : List Char} {a : Addr} (h : parseIPv6 s = some a) {c : Char}
    (hc : c ∈ s) :
    IsAddrChar c := by
  obtain ⟨read, hgroups, -⟩ := Option.bind_eq_some_iff.mp h
  unfold readIPv6 at hgroups
  split at hgroups
  · simp only [List.mem_cons, List.not_mem_nil, or_false, or_self] at hc
    exact Or.inr (Or.inl hc)
  · rcases List.mem_cons.mp hc with rfl | hc
    · exact Or.inr (Or.inl rfl)
    · rcases List.mem_cons.mp hc with rfl | hc
      · exact Or.inr (Or.inl rfl)
      · exact parseIPv6Groups_chars hgroups hc
  · exact parseIPv6Groups_chars hgroups hc

theorem parseAddr_chars {s : String} {a : Addr} (h : parseAddr s = some a) {c : Char}
    (hc : c ∈ s.toList) : IsAddrChar c := by
  unfold parseAddr at h
  split at h
  · obtain ⟨fields, hfields, -⟩ := Option.map_eq_some_iff.mp h
    exact parseIPv4Fields_chars hfields hc
  · exact parseIPv6_chars h hc
  · cases h

theorem IsAddrChar.not_space {c : Char} (h : IsAddrChar c) : isSpace c = false := by
  rcases h with h | rfl | rfl
  · simp only [isHexDigit, Bool.or_eq_true, Bool.and_eq_true, decide_eq_true_eq,
      Char.isDigit_iff_toNat, Char.reduceToNat] at h
    simp [isSpace]
    omega
  · decide
  · decide

theorem IsAddrChar.ne {c d : Char} (h : IsAddrChar c) (hd : isHexDigit d = false) (hcolon : d ≠ ':')
    (hdot : d ≠ '.') : c ≠ d := by
  rintro rfl
  rcases h with h | h | h
  · rw [hd] at h
    cases h
  · exact hcolon h
  · exact hdot h

theorem parseCIDR_append {s : String} (h : '/' ∉ s.toList) :
    parseCIDR (s ++ "/32") = (parseAddr s).map fun a => (a, 32) := by
  have hall : ∀ x ∈ s.toList, (decide (x ≠ '/')) = true := by
    intro x hx
    simp only [decide_eq_true_eq]
    rintro rfl
    exact h hx
  have hl : (s ++ "/32").toList = s.toList ++ ['/', '3', '2'] := by simp [String.toList_append]
  have hdrop : (s ++ "/32").toList.dropWhile (· ≠ '/') = ['/', '3', '2'] := by
    rw [hl, List.dropWhile_append_of_pos hall]
    rfl
  have htake : (s ++ "/32").toList.takeWhile (· ≠ '/') = s.toList := by
    rw [hl, List.takeWhile_append_of_pos hall, List.takeWhile_cons_of_neg (by simp),
      List.append_nil]
  simp only [parseCIDR, hdrop, htake, String.ofList_toList]
  cases parseAddr s with
  | none => rfl
  | some a => cases a <;> rfl

theorem parseCIDR_two_slashes {s : String} (h : '/' ∈ s.toList) :
    parseCIDR (s ++ "/32") = none := by
  have hl : (s ++ "/32").toList = s.toList ++ ['/', '3', '2'] := by simp [String.toList_append]
  have hne : s.toList.dropWhile (· ≠ '/') ≠ [] := by
    intro hnil
    have hall := List.dropWhile_eq_nil_iff.mp hnil '/' h
    simp at hall
  obtain ⟨c, mask, hmask⟩ := List.exists_cons_of_ne_nil hne
  have hdrop : (s ++ "/32").toList.dropWhile (· ≠ '/') = c :: (mask ++ ['/', '3', '2']) := by
    rw [hl, List.dropWhile_append, hmask]
    rfl
  have hnot : ¬ (mask ++ ['/', '3', '2']).all Char.isDigit := by simp
  unfold parseCIDR
  rw [hdrop]
  cases parseAddr (String.ofList ((s ++ "/32").toList.takeWhile (· ≠ '/'))) with
  | none => rfl
  | some a => simp [hnot]

theorem agrees_v4 (x : BitVec 32) (b : Addr) : (Addr.v4 x).Agrees 32 b ↔ b = .v4 x := by
  cases b with
  | v4 y =>
      simp only [Addr.Agrees, Addr.v4.injEq]
      constructor
      · intro h
        exact (BitVec.eq_of_getMsbD_eq h).symm
      · rintro rfl _ _
        rfl
  | v6 y => simp [Addr.Agrees]

theorem exists_agrees_v6 (x : BitVec 128) : ∃ b, b ≠ .v6 x ∧ (Addr.v6 x).Agrees 32 b := by
  refine ⟨.v6 (x ^^^ 1), ?_, fun i hi => ?_⟩
  · intro h
    have hx := Addr.v6.inj h
    have hone : x ^^^ (x ^^^ 1) = x ^^^ x := by rw [hx]
    rw [← BitVec.xor_assoc, BitVec.xor_self, BitVec.zero_xor] at hone
    cases hone
  · have hzero : ∀ i < 32, (1 : BitVec 128).getMsbD i = false := by decide
    rw [BitVec.getMsbD_xor, hzero i hi, Bool.xor_false]

end TunnelOperator.NetIP
