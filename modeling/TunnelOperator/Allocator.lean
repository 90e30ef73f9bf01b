import Mathlib.Algebra.Group.Int.Defs
import Mathlib.Algebra.Group.Nat.Defs
import TunnelOperator.Table

/-!
# The forwarder port allocator

`pkg/portalloc`. The allocator keeps two indexes, ports by key and keys by port.
`WF` says that they are inverse to each other and stay inside the range; every
operation keeps it, and the lookup lemmas below are the only facts about the
tables that later modules use.
-/

namespace TunnelOperator
open Interaction

structure PortAllocator where
  minPort : Int
  maxPort : Int
  allocated : Table String Int
  used : Table Int String

namespace PortAllocator

def defaultMinPort : Int := 10000
def defaultMaxPort : Int := 60000

def new (minPort maxPort : Int) : PortAllocator :=
  let lo := if minPort ≤ 0 then defaultMinPort else minPort
  let hi := if maxPort ≤ 0 then defaultMaxPort else maxPort
  if hi < lo then ⟨defaultMinPort, defaultMaxPort, ∅, ∅⟩ else ⟨lo, hi, ∅, ∅⟩

def rangeSize (a : PortAllocator) : ℕ := (a.maxPort - a.minPort + 1).toNat

/-- The wrap-around probe: `remaining` ports are left to try from `offset` on. -/
def probe (a : PortAllocator) (start : ℕ) : (remaining offset : ℕ) → Option Int
  | 0, _ => none
  | remaining + 1, offset =>
      let port := a.minPort + ((start + offset) % a.rangeSize : ℕ)
      match a.used.lookup port with
      | some _ => probe a start remaining (offset + 1)
      | none => some port

def errRangeExhausted : String := "port range exhausted"

def allocate (a : PortAllocator) (start : ℕ) (tunnelKey : String) :
    Except String Int × PortAllocator :=
  match a.allocated.lookup tunnelKey with
  | some port => (.ok port, a)
  | none =>
      match a.probe start a.rangeSize 0 with
      | some port =>
          (.ok port, { a with allocated := a.allocated.insert tunnelKey port
                              used := a.used.insert port tunnelKey })
      | none => (.error errRangeExhausted, a)

def release (a : PortAllocator) (tunnelKey : String) : PortAllocator :=
  match a.allocated.lookup tunnelKey with
  | none => a
  | some port => { a with allocated := a.allocated.erase tunnelKey, used := a.used.erase port }

def getPort (a : PortAllocator) (tunnelKey : String) : Option Int := a.allocated.lookup tunnelKey

def isAllocated (a : PortAllocator) (port : Int) : Bool := (a.used.lookup port).isSome

def loadExisting (a : PortAllocator) (tunnelKey : String) (port : Int) : PortAllocator :=
  if port < a.minPort ∨ a.maxPort < port then a
  else if (a.used.lookup port).any (· ≠ tunnelKey) then a
  else
    let used := match a.allocated.lookup tunnelKey with
      | some existingPort => if existingPort ≠ port then a.used.erase existingPort else a.used
      | none => a.used
    { a with allocated := a.allocated.insert tunnelKey port, used := used.insert port tunnelKey }

structure WF (a : PortAllocator) : Prop where
  inverse : ∀ k p, a.allocated.lookup k = some p ↔ a.used.lookup p = some k
  inRange : ∀ k p, a.allocated.lookup k = some p → a.minPort ≤ p ∧ p ≤ a.maxPort
  minPort_pos : 1 ≤ a.minPort
  range : a.minPort ≤ a.maxPort

theorem WF.rangeSize_pos {a : PortAllocator} (h : a.WF) : 0 < a.rangeSize := by
  have := h.range
  unfold rangeSize
  omega

theorem new_wf (minPort maxPort : Int) : (new minPort maxPort).WF := by
  have hempty (lo hi : Int) (hlo : 1 ≤ lo) (hhi : lo ≤ hi) : (⟨lo, hi, ∅, ∅⟩ : PortAllocator).WF :=
    ⟨by simp, by simp, hlo, hhi⟩
  simp only [new, defaultMinPort, defaultMaxPort]
  split_ifs <;> exact hempty _ _ (by omega) (by omega)

@[simp] theorem new_allocated (minPort maxPort : Int) : (new minPort maxPort).allocated = ∅ := by
  simp only [new]
  split_ifs <;> rfl

theorem probe_some {a : PortAllocator} (hpos : 0 < a.rangeSize) {start remaining offset : ℕ}
    {port : Int} (h : a.probe start remaining offset = some port) :
    a.used.lookup port = none ∧ a.minPort ≤ port ∧ port ≤ a.maxPort := by
  induction remaining generalizing offset with
  | zero => simp [probe] at h
  | succ remaining ih =>
      simp only [probe] at h
      split at h
      · exact ih h
      · rename_i hfree
        cases h
        have hlt := Nat.mod_lt (start + offset) hpos
        refine ⟨hfree, by omega, ?_⟩
        unfold rangeSize at hlt ⊢
        omega

/-- Both ways `allocate` can end: an unchanged allocator with an error or with the port
the key already holds, or one new pair on an unused port of the range. -/
theorem allocate_cases {a : PortAllocator} (h : a.WF) (start : ℕ) (k : String) :
    (∃ e, a.allocate start k = (.error e, a)) ∨
      (∃ p, a.allocate start k = (.ok p, a) ∧ a.allocated.lookup k = some p) ∨
      ∃ p, a.allocate start k = (.ok p, { a with allocated := a.allocated.insert k p
                                                 used := a.used.insert p k }) ∧
        a.allocated.lookup k = none ∧ a.used.lookup p = none ∧ a.minPort ≤ p ∧ p ≤ a.maxPort := by
  unfold allocate
  cases hk : a.allocated.lookup k with
  | some p => exact Or.inr (Or.inl ⟨p, rfl, rfl⟩)
  | none =>
      cases hp : a.probe start a.rangeSize 0 with
      | none => exact Or.inl ⟨_, rfl⟩
      | some p =>
          obtain ⟨hfree, hlo, hhi⟩ := probe_some h.rangeSize_pos hp
          exact Or.inr (Or.inr ⟨p, rfl, rfl, hfree, hlo, hhi⟩)

theorem WF.insert {a : PortAllocator} (h : a.WF) {k : String} {p : Int}
    (hk : ∀ q, a.allocated.lookup k = some q → q = p)
    (hp : ∀ k', a.used.lookup p = some k' → k' = k) (hlo : a.minPort ≤ p) (hhi : p ≤ a.maxPort) :
    ({ a with
      allocated := a.allocated.insert k p, used := a.used.insert p k } : PortAllocator).WF := by
  refine ⟨fun k' q => ?_, fun k' q hq => ?_, h.minPort_pos, h.range⟩
  · simp only [Table.lookup_insert_eq]
    split_ifs with h₁ h₂ h₂
    · simp [h₁, h₂]
    · subst h₁
      constructor
      · intro e
        exact absurd (Option.some.inj e).symm h₂
      · intro e
        exact absurd (hk q ((h.inverse _ _).mpr e)) h₂
    · subst h₂
      constructor
      · intro e
        exact absurd (hp k' ((h.inverse _ _).mp e)) h₁
      · intro e
        exact absurd (Option.some.inj e).symm h₁
    · exact h.inverse k' q
  · simp only [Table.lookup_insert_eq] at hq
    split_ifs at hq with h₁
    · cases hq
      exact ⟨hlo, hhi⟩
    · exact h.inRange k' q hq

theorem allocate_wf {a : PortAllocator} (h : a.WF) (start : ℕ) (k : String) :
    (a.allocate start k).2.WF := by
  rcases allocate_cases h start k with ⟨e, he⟩ | ⟨p, he, _⟩ | ⟨p, he, hk, hp, hlo, hhi⟩
  · rw [he]; exact h
  · rw [he]; exact h
  · rw [he]
    exact h.insert (by simp [hk]) (by simp [hp]) hlo hhi

theorem allocate_range (a : PortAllocator) (start : ℕ) (k : String) :
    (a.allocate start k).2.minPort = a.minPort ∧ (a.allocate start k).2.maxPort = a.maxPort := by
  unfold allocate
  cases a.allocated.lookup k with
  | some p => exact ⟨rfl, rfl⟩
  | none => cases a.probe start a.rangeSize 0 <;> exact ⟨rfl, rfl⟩

theorem allocate_ok_lookup {a a' : PortAllocator} (h : a.WF) {start : ℕ} {k : String} {p : Int}
    (ha : a.allocate start k = (.ok p, a')) (k' : String) :
    a'.allocated.lookup k' = if k' = k then some p else a.allocated.lookup k' := by
  rcases allocate_cases h start k with ⟨e, he⟩ | ⟨q, he, hq⟩ | ⟨q, he, -⟩
  · rw [he] at ha
    cases ha
  · rw [he] at ha
    cases ha
    split_ifs with hk
    · rw [hk, hq]
    · rfl
  · rw [he] at ha
    cases ha
    exact Table.lookup_insert_eq _ _ _ _

theorem release_lookup (a : PortAllocator) (k k' : String) :
    (a.release k).allocated.lookup k' = if k' = k then none else a.allocated.lookup k' := by
  unfold release
  cases hk : a.allocated.lookup k with
  | some p => exact Table.lookup_erase_eq _ _ _
  | none =>
      split_ifs with h
      · rw [h, hk]
      · rfl

theorem release_range (a : PortAllocator) (k : String) :
    (a.release k).minPort = a.minPort ∧ (a.release k).maxPort = a.maxPort := by
  unfold release
  cases a.allocated.lookup k <;> exact ⟨rfl, rfl⟩

theorem release_wf {a : PortAllocator} (h : a.WF) (k : String) : (a.release k).WF := by
  unfold release
  cases hk : a.allocated.lookup k with
  | none => exact h
  | some p =>
      refine ⟨fun k' q => ?_, fun k' q hq => ?_, h.minPort_pos, h.range⟩
      · simp only [Table.lookup_erase_eq]
        split_ifs with h₁ h₂ h₂
        · rfl
        · subst h₁
          constructor
          · intro e
            cases e
          · intro e
            exact absurd (Option.some.inj (((h.inverse _ _).mpr e).symm.trans hk)) h₂
        · subst h₂
          constructor
          · intro e
            exact absurd (Option.some.inj (((h.inverse _ _).mp e).symm.trans
              ((h.inverse _ _).mp hk))) h₁
          · intro e
            cases e
        · exact h.inverse k' q
      · simp only [Table.lookup_erase_eq] at hq
        split_ifs at hq
        exact h.inRange k' q hq

/-- The two ways `loadExisting` can end. In the second the key may have been moved away
from another port. -/
theorem loadExisting_cases (a : PortAllocator) (k : String) (p : Int) :
    (a.loadExisting k p = a ∧ ¬(a.minPort ≤ p ∧ p ≤ a.maxPort ∧ ∀ k', a.used.lookup p = some k' →
      k' = k)) ∨
      ((a.minPort ≤ p ∧ p ≤ a.maxPort ∧ ∀ k', a.used.lookup p = some k' → k' = k) ∧
        ∃ u, a.loadExisting k p = { a with allocated := a.allocated.insert k p, used := u } ∧
          ∀ q, u.lookup q = if q = p then some k else
            if a.allocated.lookup k = some q then none else a.used.lookup q) := by
  have hany : (a.used.lookup p).any (· ≠ k) = true ↔ ¬∀ k', a.used.lookup p = some k' → k' = k := by
    cases a.used.lookup p <;> simp
  unfold loadExisting
  by_cases hr : p < a.minPort ∨ a.maxPort < p
  · rw [if_pos hr]
    exact Or.inl ⟨rfl, by omega⟩
  · rw [if_neg hr]
    by_cases hc : (a.used.lookup p).any (· ≠ k) = true
    · rw [if_pos hc]
      exact Or.inl ⟨rfl, fun h => (hany.mp hc) h.2.2⟩
    · rw [if_neg hc]
      refine Or.inr ⟨⟨by omega, by omega, by rw [hany] at hc; simpa using hc⟩, _, rfl, fun q => ?_⟩
      rw [Table.lookup_insert_eq]
      split_ifs with h₁ h₂
      · rfl
      · rw [h₂]
        simp only
        rw [if_pos h₁, Table.lookup_erase_eq, if_pos rfl]
      · cases hk : a.allocated.lookup k with
        | none => rfl
        | some r =>
            rw [hk] at h₂
            have hqr : q ≠ r := fun e => h₂ (by rw [e])
            simp only
            split_ifs
            · rw [Table.lookup_erase_eq, if_neg hqr]
            · rfl

theorem loadExisting_range (a : PortAllocator) (k : String) (p : Int) :
    (a.loadExisting k p).minPort = a.minPort ∧ (a.loadExisting k p).maxPort = a.maxPort := by
  rcases loadExisting_cases a k p with ⟨he, -⟩ | ⟨-, u, he, -⟩ <;> rw [he] <;> exact ⟨rfl, rfl⟩

theorem loadExisting_wf {a : PortAllocator} (h : a.WF) (k : String) (p : Int) :
    (a.loadExisting k p).WF := by
  rcases loadExisting_cases a k p with ⟨he, -⟩ | ⟨⟨hlo, hhi, hfree⟩, u, he, hu⟩
  · rw [he]; exact h
  · rw [he]
    refine ⟨fun k' q => ?_, fun k' q hq => ?_, h.minPort_pos, h.range⟩
    · simp only [Table.lookup_insert_eq, hu]
      split_ifs with h₁ h₂ h₃ h₂ h₃
      · simp [h₁, h₂]
      · subst h₁
        simp [Ne.symm h₂]
      · subst h₁
        constructor
        · intro e
          exact absurd (Option.some.inj e).symm h₂
        · intro e
          exact absurd ((h.inverse _ _).mpr e) h₃
      · subst h₂
        constructor
        · intro e
          exact absurd (hfree k' ((h.inverse _ _).mp e)) h₁
        · intro e
          exact absurd (Option.some.inj e).symm h₁
      · constructor
        · intro e
          have hk := ((h.inverse _ _).mp h₃).symm.trans ((h.inverse _ _).mp e)
          exact absurd (Option.some.inj hk).symm h₁
        · intro e
          cases e
      · exact h.inverse k' q
    · simp only [Table.lookup_insert_eq] at hq
      split_ifs at hq
      · cases hq
        exact ⟨hlo, hhi⟩
      · exact h.inRange k' q hq

/-- The calls that write the tables, each under the lock. `start` is the random offset. -/
inductive Call where
  | allocate (start : ℕ) (tunnelKey : String)
  | release (tunnelKey : String)
  | loadExisting (tunnelKey : String) (port : Int)

def Call.apply (a : PortAllocator) : Call → PortAllocator
  | .allocate start tunnelKey => (a.allocate start tunnelKey).2
  | .release tunnelKey => a.release tunnelKey
  | .loadExisting tunnelKey port => a.loadExisting tunnelKey port

def run (calls : List Call) (a : PortAllocator) : PortAllocator := calls.foldl Call.apply a

theorem Call.apply_wf {a : PortAllocator} (h : a.WF) (c : Call) : (c.apply a).WF := by
  cases c with
  | allocate start k => exact allocate_wf h start k
  | release k => exact release_wf h k
  | loadExisting k p => exact loadExisting_wf h k p

theorem Call.apply_range (a : PortAllocator) (c : Call) :
    (c.apply a).minPort = a.minPort ∧ (c.apply a).maxPort = a.maxPort := by
  cases c with
  | allocate start k => exact allocate_range a start k
  | release k => exact release_range a k
  | loadExisting k p => exact loadExisting_range a k p

theorem run_wf {a : PortAllocator} (h : a.WF) (calls : List Call) : (a.run calls).WF := by
  induction calls generalizing a with
  | nil => exact h
  | cons c calls ih => exact ih (c.apply_wf h)

theorem run_range (a : PortAllocator) (calls : List Call) :
    (a.run calls).minPort = a.minPort ∧ (a.run calls).maxPort = a.maxPort := by
  induction calls generalizing a with
  | nil => exact ⟨rfl, rfl⟩
  | cons c calls ih =>
      obtain ⟨hmin, hmax⟩ := ih (c.apply a)
      obtain ⟨hmin', hmax'⟩ := c.apply_range a
      exact ⟨hmin.trans hmin', hmax.trans hmax'⟩

/-- With `int32` arguments no port and no range size leaves `int32`, so the unbounded integers
compute what the source does. -/
theorem run_int32 (minPort maxPort : Int32) (calls : List Call) :
    (run calls (new minPort.toInt maxPort.toInt)).maxPort < 2 ^ 31 ∧
      (run calls (new minPort.toInt maxPort.toInt)).rangeSize < 2 ^ 31 := by
  have hmax : (run calls (new minPort.toInt maxPort.toInt)).maxPort < 2 ^ 31 := by
    rw [(run_range _ calls).2]
    have hlt := maxPort.toInt_lt
    simp only [new, defaultMinPort, defaultMaxPort]
    split_ifs <;> simp only <;> omega
  have hmin := (run_wf (new_wf minPort.toInt maxPort.toInt) calls).minPort_pos
  refine ⟨hmax, ?_⟩
  unfold rangeSize
  omega

/-- After any calls the two indexes are inverse to each other and stay in the range. -/
theorem run_indexes_inverse (minPort maxPort : Int) (calls : List Call) :
    let a := run calls (new minPort maxPort)
    (∀ k p, a.allocated.lookup k = some p ↔ a.used.lookup p = some k) ∧
      (∀ k p, a.allocated.lookup k = some p → a.minPort ≤ p ∧ p ≤ a.maxPort) ∧
      1 ≤ a.minPort ∧
      (∀ k k' p, a.allocated.lookup k = some p → a.allocated.lookup k' = some p → k = k') ∧
      ∀ p, a.isAllocated p = true → ∃ k, a.getPort k = some p := by
  intro a
  have h : a.WF := run_wf (new_wf minPort maxPort) calls
  refine ⟨h.inverse, h.inRange, h.minPort_pos, ?_, ?_⟩
  · intro k k' p hk hk'
    have hused := (h.inverse k p).mp hk
    rw [(h.inverse k' p).mp hk'] at hused
    exact (Option.some.inj hused).symm
  · intro p hp
    obtain ⟨k, hk⟩ := Option.isSome_iff_exists.mp hp
    exact ⟨k, (h.inverse k p).mpr hk⟩

end PortAllocator
end TunnelOperator
