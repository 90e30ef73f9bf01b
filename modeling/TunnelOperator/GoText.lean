import Mathlib.Algebra.Group.Int.Defs
import Mathlib.Algebra.Group.Nat.Defs
import Mathlib.Data.List.TakeWhile

/-!
# Go text primitives

`strings.TrimSpace`, `strconv.Itoa`, `strconv.Atoi`, `net.JoinHostPort` and
`net.SplitHostPort` as the Go standard library documents them, with the facts about
them that text passed from one program to another relies on. Strings are compared and
built as character lists.
-/

namespace TunnelOperator.GoText

/-- `unicode.IsSpace`. -/
def isSpace (c : Char) : Bool :=
  let n := c.toNat
  (9 ≤ n && n ≤ 13) || n = 32 || n = 0x85 || n = 0xA0 || n = 0x1680 ||
    (0x2000 ≤ n && n ≤ 0x200a) || n = 0x2028 || n = 0x2029 || n = 0x202f || n = 0x205f || n = 0x3000

def trimSpace (s : String) : String :=
  String.ofList ((s.toList.dropWhile isSpace).reverse.dropWhile isSpace).reverse

def itoa (n : Int) : String := toString n

def joinHostPort (host port : String) : String :=
  if ':' ∈ host.toList then "[" ++ host ++ "]:" ++ port else host ++ ":" ++ port

/-- The text before and after the last `c`. -/
def splitLast (c : Char) (l : List Char) : Option (List Char × List Char) :=
  match l.reverse.dropWhile (· ≠ c) with
  | [] => none
  | _ :: before => some (before.reverse, (l.reverse.takeWhile (· ≠ c)).reverse)

/-- `net.SplitHostPort`. A host in brackets ends at the first closing one, which the last colon
has to follow; without brackets the host has no colon. -/
def splitHostPort (hostport : String) : Option (String × String) :=
  match hostport.toList with
  | '[' :: rest =>
      let host := rest.takeWhile (· ≠ ']')
      match rest.dropWhile (· ≠ ']') with
      | ']' :: ':' :: port =>
          if ':' ∈ port ∨ '[' ∈ host ∨ '[' ∈ port ∨ ']' ∈ port then none
          else some (String.ofList host, String.ofList port)
      | _ => none
  | l => do
      let (host, port) ← splitLast ':' l
      if ':' ∈ host ∨ '[' ∈ l ∨ ']' ∈ l then none
      else some (String.ofList host, String.ofList port)

/-- `strconv.Atoi`: decimal digits after an optional sign, within the range of an `int`. -/
def atoi (s : String) : Option Int :=
  let (negative, digits) : Bool × List Char :=
    match s.toList with
    | '-' :: digits => (true, digits)
    | '+' :: digits => (false, digits)
    | digits => (false, digits)
  if digits ≠ [] ∧ digits.all Char.isDigit = true then
    let n : Int := Nat.ofDigitChars 10 digits 0
    let n := if negative then -n else n
    if -2 ^ 63 ≤ n ∧ n < 2 ^ 63 then some n else none
  else none

theorem mem_trimSpace {s : String} {c : Char} (h : c ∈ s.toList) :
    isSpace c = true ∨ c ∈ (trimSpace s).toList := by
  rw [trimSpace, String.toList_ofList, List.mem_reverse]
  rw [← List.takeWhile_append_dropWhile (p := isSpace) (l := s.toList)] at h
  rcases List.mem_append.mp h with h | h
  · exact Or.inl (List.mem_takeWhile_imp h)
  · rw [← List.mem_reverse, ← List.takeWhile_append_dropWhile (p := isSpace)
      (l := (s.toList.dropWhile isSpace).reverse)] at h
    rcases List.mem_append.mp h with h | h
    · exact Or.inl (List.mem_takeWhile_imp h)
    · exact Or.inr h

theorem dropWhile_eq_self {l : List Char} (h : ∀ c ∈ l, isSpace c = false) :
    l.dropWhile isSpace = l := by
  cases l with
  | nil => rfl
  | cons c l => rw [List.dropWhile_cons_of_neg (by simp [h c List.mem_cons_self])]

theorem trimSpace_eq_self {s : String} (h : ∀ c ∈ s.toList, isSpace c = false) :
    trimSpace s = s := by
  have hrev : ∀ c ∈ s.toList.reverse, isSpace c = false := fun c hc => h c (List.mem_reverse.mp hc)
  rw [trimSpace, dropWhile_eq_self h, dropWhile_eq_self hrev, List.reverse_reverse,
    String.ofList_toList]

section Decimal

variable {n : Int}

theorem toList_itoa (h : 0 ≤ n) : (itoa n).toList = Nat.toDigits 10 n.toNat := by
  obtain ⟨m, rfl⟩ := Int.eq_ofNat_of_zero_le h
  exact Nat.toList_repr

theorem isDigit_itoa (h : 0 ≤ n) {c : Char} (hc : c ∈ (itoa n).toList) : c.isDigit = true := by
  rw [toList_itoa h] at hc
  exact Nat.isDigit_of_mem_toDigits (by decide) (by decide) hc

theorem toList_itoa_ne_nil (h : 0 ≤ n) : (itoa n).toList ≠ [] := by
  rw [toList_itoa h]
  exact Nat.toDigits_ne_nil

theorem not_mem_itoa (h : 0 ≤ n) {c : Char} (hc : c.isDigit = false) : c ∉ (itoa n).toList := by
  intro hmem
  have hd := isDigit_itoa h hmem
  rw [hc] at hd
  cases hd

theorem isSpace_of_isDigit {c : Char} (h : c.isDigit = true) : isSpace c = false := by
  have hc := Char.isDigit_iff_toNat.mp h
  simp only [Char.reduceToNat] at hc
  simp [isSpace]
  omega

theorem trimSpace_itoa (h : 0 ≤ n) : trimSpace (itoa n) = itoa n :=
  trimSpace_eq_self fun _ hc => isSpace_of_isDigit (isDigit_itoa h hc)

theorem ofDigitChars_itoa (h : 0 ≤ n) :
    ((Nat.ofDigitChars 10 (itoa n).toList 0 : ℕ) : Int) = n := by
  rw [toList_itoa h, Nat.ofDigitChars_ten_toDigits]
  exact Int.toNat_of_nonneg h

theorem itoa_inj {m : Int} (hn : 0 ≤ n) (hm : 0 ≤ m) : itoa n = itoa m ↔ n = m := by
  constructor
  · intro h
    rw [← ofDigitChars_itoa hn, ← ofDigitChars_itoa hm, h]
  · rintro rfl
    rfl

theorem atoi_itoa (h : 0 ≤ n) (hlt : n < 2 ^ 63) : atoi (itoa n) = some n := by
  have hall : (itoa n).toList.all Char.isDigit = true :=
    List.all_eq_true.mpr fun _ hc => isDigit_itoa h hc
  have hvalue := ofDigitChars_itoa h
  have hminus := not_mem_itoa h (c := '-') (by decide)
  have hplus := not_mem_itoa h (c := '+') (by decide)
  unfold atoi
  split
  · rename_i heq
    split at heq
    · rename_i hs
      simp [hs] at hminus
    · rename_i hs
      simp [hs] at hplus
    · cases heq
      rw [if_pos ⟨toList_itoa_ne_nil h, hall⟩]
      simp only [hvalue]
      rw [if_pos ⟨by simp; omega, by simpa using hlt⟩]
      rfl

end Decimal

theorem splitLast_append {c : Char} {before after : List Char} (h : c ∉ after) :
    splitLast c (before ++ c :: after) = some (before, after) := by
  have hall : ∀ x ∈ after.reverse, (decide (x ≠ c)) = true := by
    intro x hx
    simp only [decide_eq_true_eq]
    rintro rfl
    exact h (List.mem_reverse.mp hx)
  have hrev : (before ++ c :: after).reverse = after.reverse ++ c :: before.reverse := by simp
  have hdrop : (before ++ c :: after).reverse.dropWhile (· ≠ c) = c :: before.reverse := by
    rw [hrev, List.dropWhile_append_of_pos hall, List.dropWhile_cons_of_neg (by simp)]
  have htake : (before ++ c :: after).reverse.takeWhile (· ≠ c) = after.reverse := by
    rw [hrev, List.takeWhile_append_of_pos hall, List.takeWhile_cons_of_neg (by simp),
      List.append_nil]
  simp only [splitLast, hdrop, htake, List.reverse_reverse]

/-- What `joinHostPort` has put together, `splitHostPort` takes apart. -/
theorem splitHostPort_joinHostPort {host port : String} (hopen : '[' ∉ host.toList)
    (hclose : ']' ∉ host.toList) (hcolon : ':' ∉ port.toList) (hopen' : '[' ∉ port.toList)
    (hclose' : ']' ∉ port.toList) : splitHostPort (joinHostPort host port) = some (host, port) := by
  by_cases hb : ':' ∈ host.toList
  · have hl : (joinHostPort host port).toList =
        '[' :: (host.toList ++ ']' :: ':' :: port.toList) := by
      rw [joinHostPort, if_pos hb]
      simp [String.toList_append]
    have hall : ∀ x ∈ host.toList, (decide (x ≠ ']')) = true := by
      intro x hx
      simp only [decide_eq_true_eq]
      rintro rfl
      exact hclose hx
    simp only [splitHostPort, hl, List.dropWhile_append_of_pos hall,
      List.takeWhile_append_of_pos hall]
    simp [hopen, hcolon, hopen', hclose', String.ofList_toList]
  · have hl : (joinHostPort host port).toList = host.toList ++ ':' :: port.toList := by
      rw [joinHostPort, if_neg hb]
      simp [String.toList_append]
    unfold splitHostPort
    rw [hl]
    split
    · rename_i rest heq
      cases hh : host.toList with
      | nil => rw [hh] at heq; cases heq
      | cons c cs =>
          rw [hh] at heq
          obtain ⟨rfl, -⟩ := List.cons.inj heq
          rw [hh] at hopen
          exact absurd List.mem_cons_self hopen
    · rw [splitLast_append hcolon]
      simp [hb, hopen, hclose, hopen', hclose', String.ofList_toList]

end TunnelOperator.GoText
