import TunnelOperator.Allocator

/-!
# The wrap-around probe

`Allocate` starts at a random offset and walks once around the range. Whatever the start,
every port of the range is visited, so the probe fails on a full range only. `checkedAllocate`
is `Allocate` on the machine integers of the source: it has no result where an operation
leaves its type or `Intn` is called with an argument that is not positive. On every allocator
that `New` and later calls can produce, it computes what `allocate` computes.
-/

namespace TunnelOperator
namespace PortAllocator

/-- The result of a signed operation on integers from `-limit` to `limit - 1`. -/
def checked (limit n : Int) : Option Int := if -limit ≤ n ∧ n < limit then some n else none

def checkedInt32 : Int → Option Int := checked (2 ^ 31)

def checkedInt64 : Int → Option Int := checked (2 ^ 63)

/-- `rng.Intn`, which panics unless its argument is positive. -/
def intn (random : ℕ) (n : Int) : Option Int := if 0 < n then some (random % n) else none

def checkedProbe (a : PortAllocator) (rangeSize start : Int) :
    (remaining : ℕ) → (offset : Int) → Option (Option Int)
  | 0, _ => some none
  | remaining + 1, offset => do
      let sum ← checkedInt64 (start + offset)
      let distance ← checkedInt32 (sum % rangeSize)
      let port ← checkedInt32 (a.minPort + distance)
      match a.used.lookup port with
      | some _ => checkedProbe a rangeSize start remaining (offset + 1)
      | none => some (some port)

def checkedAllocate (a : PortAllocator) (random : ℕ) (tunnelKey : String) :
    Option (Except String Int × PortAllocator) :=
  match a.allocated.lookup tunnelKey with
  | some port => some (.ok port, a)
  | none => do
      let width ← checkedInt32 (a.maxPort - a.minPort)
      let rangeSize ← checkedInt64 (width + 1)
      let start ← intn random rangeSize
      match ← a.checkedProbe rangeSize start rangeSize.toNat 0 with
      | some port => some (.ok port, { a with allocated := a.allocated.insert tunnelKey port
                                              used := a.used.insert port tunnelKey })
      | none => some (.error errRangeExhausted, a)

variable {a : PortAllocator}

section Visits

theorem probe_none {start remaining offset : ℕ} (h : a.probe start remaining offset = none) {i : ℕ}
    (hlo : offset ≤ i) (hhi : i < offset + remaining) :
    a.used.lookup (a.minPort + ((start + i) % a.rangeSize : ℕ)) ≠ none := by
  induction remaining generalizing offset with
  | zero => omega
  | succ remaining ih =>
      simp only [probe] at h
      split at h
      · rename_i key hused
        by_cases hi : i = offset
        · subst hi
          rw [hused]
          exact Option.some_ne_none key
        · apply ih h
          · omega
          · omega
      · cases h

theorem exists_offset {size distance : ℕ} (h : distance < size) (start : ℕ) :
    ∃ i < size, (start + i) % size = distance := by
  have hpos : 0 < size := by omega
  refine ⟨(distance + (size - start % size)) % size, Nat.mod_lt _ hpos, ?_⟩
  have hlt := Nat.mod_lt start hpos
  have hdiv := Nat.div_add_mod start size
  have hsum : start + (distance + (size - start % size)) =
      distance + size * (start / size + 1) := by
    rw [Nat.mul_add]
    omega
  calc (start + (distance + (size - start % size)) % size) % size
      = (start + (distance + (size - start % size))) % size := Nat.add_mod_mod _ _ _
    _ = (distance + size * (start / size + 1)) % size := by rw [hsum]
    _ = distance % size := Nat.add_mul_mod_self_left _ _ _
    _ = distance := Nat.mod_eq_of_lt h

theorem probe_eq_none_iff (start : ℕ) :
    a.probe start a.rangeSize 0 = none ↔
      ∀ p, a.minPort ≤ p → p ≤ a.maxPort → a.used.lookup p ≠ none := by
  constructor
  · intro h p hlo hhi
    have hd : (p - a.minPort).toNat < a.rangeSize := by
      unfold rangeSize
      omega
    obtain ⟨i, hi, hmod⟩ := exists_offset hd start
    have hused := probe_none h (Nat.zero_le i) (by omega)
    rw [hmod] at hused
    have hp : a.minPort + ((p - a.minPort).toNat : ℕ) = p := by omega
    rwa [hp] at hused
  · intro h
    cases hp : a.probe start a.rangeSize 0 with
    | none => rfl
    | some p =>
        have hpos : 0 < a.rangeSize := by
          by_contra hz
          have hz : a.rangeSize = 0 := by omega
          rw [hz] at hp
          cases hp
        obtain ⟨hfree, hlo, hhi⟩ := probe_some hpos hp
        exact absurd hfree (h p hlo hhi)

end Visits

section Machine

theorem checked_of_range {limit n : Int} (hlo : 0 ≤ n) (hhi : n < limit) :
    checked limit n = some n :=
  if_pos ⟨by omega, hhi⟩

theorem intn_of_pos (random : ℕ) {n : ℕ} (h : 0 < n) :
    intn random n = some ((random % n : ℕ) : Int) := by
  unfold intn
  rw [if_pos (by omega)]
  rfl

theorem checkedProbe_eq (hmin : 1 ≤ a.minPort) (hmax : a.maxPort < 2 ^ 31) {start : ℕ}
    (hstart : start < a.rangeSize) {remaining : ℕ} (offset : ℕ)
    (h : offset + remaining ≤ a.rangeSize) :
    a.checkedProbe a.rangeSize start remaining offset = some (a.probe start remaining offset) := by
  induction remaining generalizing offset with
  | zero => rfl
  | succ remaining ih =>
      have hsize : (a.rangeSize : Int) = a.maxPort - a.minPort + 1 := by
        unfold rangeSize at hstart ⊢
        omega
      have hlt : (start + offset) % a.rangeSize < a.rangeSize := Nat.mod_lt _ (by omega)
      have hsum : checkedInt64 ((start : Int) + offset) = some ((start + offset : ℕ) : Int) := by
        rw [← Int.natCast_add]
        apply checked_of_range
        · omega
        · omega
      have hdistance : checkedInt32 (((start + offset : ℕ) : Int) % (a.rangeSize : Int)) =
          some (((start + offset) % a.rangeSize : ℕ) : Int) := by
        rw [← Int.natCast_emod]
        apply checked_of_range
        · omega
        · omega
      have hport : checkedInt32 (a.minPort + (((start + offset) % a.rangeSize : ℕ) : Int)) =
          some (a.minPort + (((start + offset) % a.rangeSize : ℕ) : Int)) := by
        apply checked_of_range
        · omega
        · omega
      rw [checkedProbe, hsum, Option.bind_eq_bind, Option.bind_some, hdistance, Option.bind_some,
        hport, Option.bind_some, probe]
      cases a.used.lookup (a.minPort + (((start + offset) % a.rangeSize : ℕ) : Int)) with
      | none => rfl
      | some key =>
          have hnext := ih (offset + 1) (by omega)
          rw [Int.natCast_add, Int.natCast_one] at hnext
          exact hnext

theorem checkedAllocate_eq (h : a.WF) (hmax : a.maxPort < 2 ^ 31) (random : ℕ) (k : String) :
    a.checkedAllocate random k = some (a.allocate (random % a.rangeSize) k) := by
  unfold checkedAllocate allocate
  cases a.allocated.lookup k with
  | some port => rfl
  | none =>
      have hmin := h.minPort_pos
      have hrange := h.range
      have hsize : a.maxPort - a.minPort + 1 = (a.rangeSize : Int) := by
        unfold rangeSize
        omega
      have hwidth : checkedInt32 (a.maxPort - a.minPort) = some (a.maxPort - a.minPort) := by
        apply checked_of_range
        · omega
        · omega
      have hrangeSize : checkedInt64 (a.maxPort - a.minPort + 1) = some (a.rangeSize : Int) := by
        rw [hsize]
        apply checked_of_range
        · omega
        · omega
      have hstart : random % a.rangeSize < a.rangeSize := Nat.mod_lt _ h.rangeSize_pos
      have hprobe := checkedProbe_eq hmin hmax hstart 0 (Nat.le_of_eq (Nat.zero_add _))
      simp only [hwidth, hrangeSize, intn_of_pos random h.rangeSize_pos, Option.bind_eq_bind,
        Option.bind_some, Int.toNat_natCast]
      rw [Int.natCast_zero] at hprobe
      rw [hprobe]
      cases a.probe (random % a.rangeSize) a.rangeSize 0 with
      | some port => rfl
      | none => rfl

end Machine

/-- `Allocate` fails on a full range only, takes a free port of the range otherwise, and none of
its operations leaves its machine type. -/
theorem allocate_complete (minPort maxPort : Int32) (calls : List Call) (random : ℕ) (k : String) :
    let a := run calls (new minPort.toInt maxPort.toInt)
    let start := random % a.rangeSize
    (∀ p, a.getPort k = some p → a.allocate start k = (.ok p, a)) ∧
      (a.getPort k = none →
        ((∃ p, (a.allocate start k).1 = .ok p) ↔
          ∃ p, a.minPort ≤ p ∧ p ≤ a.maxPort ∧ a.isAllocated p = false) ∧
        ∀ p, (a.allocate start k).1 = .ok p → a.minPort ≤ p ∧ p ≤ a.maxPort ∧
          a.isAllocated p = false ∧
          (a.allocate start k).2 = { a with allocated := a.allocated.insert k p
                                            used := a.used.insert p k }) ∧
      (∀ e, (a.allocate start k).1 = .error e → (a.allocate start k).2 = a) ∧
      0 < a.rangeSize ∧ a.checkedAllocate random k = some (a.allocate start k) := by
  intro a start
  have hwf : a.WF := run_wf (new_wf minPort.toInt maxPort.toInt) calls
  have hfree : ∀ p, a.isAllocated p = false ↔ a.used.lookup p = none :=
    fun p => by simp [isAllocated]
  refine ⟨fun p hp => ?_, fun hk => ⟨?_, fun p hp => ?_⟩, fun e he => ?_, hwf.rangeSize_pos,
    checkedAllocate_eq hwf (run_int32 minPort maxPort calls).1 random k⟩
  · have hp : a.allocated.lookup k = some p := hp
    simp only [allocate, hp]
  · have hk : a.allocated.lookup k = none := hk
    have hfails : (∃ p, (a.allocate start k).1 = .ok p) ↔ a.probe start a.rangeSize 0 ≠ none := by
      simp only [allocate, hk]
      cases a.probe start a.rangeSize 0 with
      | none => simp
      | some p => simp
    rw [hfails, Ne, probe_eq_none_iff]
    simp only [hfree, not_forall, not_not, exists_prop]
  · rcases allocate_cases hwf start k with ⟨e, he⟩ | ⟨q, -, hq⟩ | ⟨q, he, -, hused, hlo, hhi⟩
    · rw [he] at hp
      cases hp
    · rw [show a.allocated.lookup k = none from hk] at hq
      cases hq
    · rw [he] at hp ⊢
      cases hp
      exact ⟨hlo, hhi, (hfree _).mpr hused, rfl⟩
  · rcases allocate_cases hwf start k with ⟨e', he'⟩ | ⟨q, he', -⟩ | ⟨q, he', -⟩
    · rw [he']
    · rw [he']
    · rw [he'] at he
      cases he

example : (new 1 2147483647).rangeSize = 2147483647 := by decide

end PortAllocator
end TunnelOperator
