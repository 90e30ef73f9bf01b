import TunnelOperator.OperatorRun

/-!
# Restored ports

`loadExistingAllocations` on a listing whose Tunnels have recorded different ports. The
allocator it leaves is described without reference to the order of the listing, and the ports
stay with their Tunnels as long as nobody allocates or releases under their keys.
-/

namespace TunnelOperator
open Interaction

/-- The Tunnel has recorded a port that `LoadExisting` accepts. -/
def Tunnel.RecordsPort (a : PortAllocator) (t : Tunnel) : Prop :=
  0 < t.status.forwarderPort ∧ a.minPort ≤ t.status.forwarderPort ∧
    t.status.forwarderPort ≤ a.maxPort

instance (a : PortAllocator) (t : Tunnel) : Decidable (t.RecordsPort a) :=
  inferInstanceAs (Decidable (_ ∧ _))

def RecordedUnder (a : PortAllocator) (tunnels : List Tunnel) (k : String) (p : Int) : Prop :=
  ∃ t ∈ tunnels, t.RecordsPort a ∧ tunnelKey t.key = k ∧ t.status.forwarderPort = p

def DistinctPorts (a : PortAllocator) (tunnels : List Tunnel) : Prop :=
  tunnels.Pairwise fun t t' => t.RecordsPort a → t'.RecordsPort a →
    t.status.forwarderPort ≠ t'.status.forwarderPort

namespace PortAllocator

/-- Two allocators that hold the same ports under the same keys. -/
structure SameTables (a b : PortAllocator) : Prop where
  allocated : ∀ k, a.allocated.lookup k = b.allocated.lookup k
  used : ∀ p, a.used.lookup p = b.used.lookup p

variable {a b fresh : PortAllocator}

theorem WF.sameTables (ha : a.WF) (hb : b.WF)
    (h : ∀ k p, a.allocated.lookup k = some p ↔ b.allocated.lookup k = some p) :
    a.SameTables b where
  allocated := fun k => Option.ext (h k)
  used := fun p => Option.ext fun k => by
    rw [← ha.inverse, ← hb.inverse]
    exact h k p

theorem WF.key_unique (ha : a.WF) {k k' : String} {p : Int} (h : a.allocated.lookup k = some p)
    (h' : a.allocated.lookup k' = some p) : k = k' :=
  Option.some.inj (((ha.inverse _ _).mp h).symm.trans ((ha.inverse _ _).mp h'))

theorem loadExisting_lookup (ha : a.WF) {k : String} {p : Int} (hlo : a.minPort ≤ p)
    (hhi : p ≤ a.maxPort) (hfree : ∀ k', a.allocated.lookup k' = some p → k' = k) (k' : String) :
    (a.loadExisting k p).allocated.lookup k' = if k' = k then some p
      else a.allocated.lookup k' := by
  rcases a.loadExisting_cases k p with ⟨-, hno⟩ | ⟨-, u, he, -⟩
  · exact absurd ⟨hlo, hhi, fun k' hk' => hfree k' ((ha.inverse _ _).mpr hk')⟩ hno
  · rw [he]
    exact Table.lookup_insert_eq _ _ _ _

theorem loadExisting_out_of_range {k : String} {p : Int} (h : ¬(a.minPort ≤ p ∧ p ≤ a.maxPort)) :
    a.loadExisting k p = a := by
  rcases a.loadExisting_cases k p with ⟨he, -⟩ | ⟨⟨hlo, hhi, -⟩, -⟩
  · exact he
  · exact absurd ⟨hlo, hhi⟩ h

theorem loadExisting_held (ha : a.WF) {k : String} {p : Int} (h : a.allocated.lookup k = some p) :
    (a.loadExisting k p).SameTables a := by
  obtain ⟨hlo, hhi⟩ := ha.inRange k p h
  refine (loadExisting_wf ha k p).sameTables ha fun k' q => ?_
  rw [loadExisting_lookup ha hlo hhi fun k' hk' => ha.key_unique hk' h]
  split_ifs with hk
  · rw [hk, h]
  · rfl

/-- The allocator holds exactly the recorded ports of `done`. -/
structure Restored (fresh : PortAllocator) (done : List Tunnel) (a : PortAllocator) : Prop where
  wf : a.WF
  minPort : a.minPort = fresh.minPort
  maxPort : a.maxPort = fresh.maxPort
  holds : ∀ k p, a.allocated.lookup k = some p ↔ RecordedUnder fresh done k p

theorem new_restored (minPort maxPort : Int) :
    Restored (new minPort maxPort) [] (new minPort maxPort) where
  wf := new_wf minPort maxPort
  minPort := rfl
  maxPort := rfl
  holds := fun k p => by
    simp [RecordedUnder]

theorem recordedUnder_concat {done : List Tunnel} {t : Tunnel} {k : String} {p : Int} :
    RecordedUnder fresh (done ++ [t]) k p ↔
      RecordedUnder fresh done k p ∨ (t.RecordsPort fresh ∧ tunnelKey t.key = k ∧
        t.status.forwarderPort = p) := by
  simp only [RecordedUnder, List.mem_append, List.mem_singleton]
  constructor
  · rintro ⟨t', ht' | rfl, h⟩
    · exact Or.inl ⟨t', ht', h⟩
    · exact Or.inr h
  · rintro (⟨t', ht', h⟩ | h)
    · exact ⟨t', Or.inl ht', h⟩
    · exact ⟨t, Or.inr rfl, h⟩

theorem Restored.skip {done : List Tunnel} (h : Restored fresh done a) {t : Tunnel}
    (ht : ¬ t.RecordsPort fresh) : Restored fresh (done ++ [t]) a :=
  { h with
    holds := fun k p => by
      rw [h.holds, recordedUnder_concat]
      constructor
      · exact Or.inl
      · rintro (h | ⟨hp, -⟩)
        · exact h
        · exact absurd hp ht }

theorem Restored.load {done : List Tunnel} (h : Restored fresh done a) {t : Tunnel}
    (ht : t.RecordsPort fresh) (hkey : ∀ t' ∈ done, t'.key ≠ t.key)
    (hport : ∀ t' ∈ done, t'.RecordsPort fresh → t'.status.forwarderPort ≠ t.status.forwarderPort) :
    Restored fresh (done ++ [t]) (a.loadExisting (tunnelKey t.key) t.status.forwarderPort) := by
  have hrange := a.loadExisting_range (tunnelKey t.key) t.status.forwarderPort
  refine ⟨loadExisting_wf h.wf _ _, hrange.1.trans h.minPort, hrange.2.trans h.maxPort,
    fun k p => ?_⟩
  have hfree : ∀ k', a.allocated.lookup k' = some t.status.forwarderPort →
      k' = tunnelKey t.key := by
    intro k' hk'
    obtain ⟨t', ht', hrec, -, hp⟩ := (h.holds _ _).mp hk'
    exact absurd hp (hport t' ht' hrec)
  rw [loadExisting_lookup h.wf (h.minPort ▸ ht.2.1) (h.maxPort ▸ ht.2.2) hfree,
    recordedUnder_concat]
  by_cases hk : k = tunnelKey t.key
  · have hnone : ¬ RecordedUnder fresh done k p := by
      rintro ⟨t', ht', -, hk', -⟩
      exact hkey t' ht' (tunnelKey_injective (hk'.trans hk))
    rw [if_pos hk]
    constructor
    · intro hp
      exact Or.inr ⟨ht, hk.symm, Option.some.inj hp⟩
    · rintro (hr | ⟨-, -, hp⟩)
      · exact absurd hr hnone
      · rw [hp]
  · rw [if_neg hk, h.holds]
    constructor
    · exact Or.inl
    · rintro (hr | ⟨-, hk', -⟩)
      · exact hr
      · exact absurd hk'.symm hk

theorem loadExistingAllocations_restored {done tunnels : List Tunnel} (h : Restored fresh done a)
    (hkeys : ((done ++ tunnels).map (·.key)).Nodup)
    (hports : DistinctPorts fresh (done ++ tunnels)) :
    Restored fresh (done ++ tunnels) (loadExistingAllocations tunnels a) := by
  induction tunnels generalizing done a with
  | nil => simpa [loadExistingAllocations] using h
  | cons t tunnels ih =>
      have happ : done ++ t :: tunnels = (done ++ [t]) ++ tunnels := by simp
      rw [happ] at hkeys hports ⊢
      have hkey : ∀ t' ∈ done, t'.key ≠ t.key := by
        have hdone := (List.nodup_append.mp (List.map_append ▸ hkeys)).1
        have hsplit := (List.nodup_append.mp (List.map_append ▸ hdone)).2.2
        intro t' ht'
        exact hsplit _ (List.mem_map_of_mem ht') _ (by simp)
      have hport := (List.pairwise_append.mp (List.pairwise_append.mp hports).1).2.2
      apply ih _ hkeys hports
      change Restored fresh (done ++ [t]) (if t.status.forwarderPort ≤ 0 then _ else _)
      by_cases hrec : t.RecordsPort fresh
      · rw [if_neg (Int.not_le.mpr hrec.1)]
        exact h.load hrec hkey fun t' ht' hr => hport t' ht' t (List.mem_singleton_self t) hr hrec
      · split_ifs with hp
        · exact h.skip hrec
        · have hout : ¬(a.minPort ≤ t.status.forwarderPort ∧
              t.status.forwarderPort ≤ a.maxPort) := by
            rw [h.minPort, h.maxPort]
            exact fun hin => hrec ⟨Int.not_le.mp hp, hin⟩
          rw [loadExisting_out_of_range hout]
          exact h.skip hrec

/-- A call that works on other keys, or loads a Tunnel of the list once more. -/
def Call.Spares (fresh : PortAllocator) (tunnels : List Tunnel) : Call → Prop
  | .allocate _ k => ∀ t ∈ tunnels, t.RecordsPort fresh → tunnelKey t.key ≠ k
  | .release k => ∀ t ∈ tunnels, t.RecordsPort fresh → tunnelKey t.key ≠ k
  | .loadExisting k p => ∃ t ∈ tunnels, tunnelKey t.key = k ∧ t.status.forwarderPort = p

/-- The allocator holds the recorded ports, and possibly others. -/
structure Keeps (fresh : PortAllocator) (tunnels : List Tunnel) (a : PortAllocator) : Prop where
  wf : a.WF
  minPort : a.minPort = fresh.minPort
  maxPort : a.maxPort = fresh.maxPort
  holds : ∀ t ∈ tunnels, t.RecordsPort fresh →
    a.allocated.lookup (tunnelKey t.key) = some t.status.forwarderPort

variable {tunnels : List Tunnel}

theorem Restored.keeps (h : Restored fresh tunnels a) : Keeps fresh tunnels a :=
  { h with holds := fun t ht hrec => (h.holds _ _).mpr ⟨t, ht, hrec, rfl, rfl⟩ }

theorem Keeps.loadExisting (h : Keeps fresh tunnels a) (hlo : 1 ≤ fresh.minPort) {t : Tunnel}
    (ht : t ∈ tunnels) :
    (a.loadExisting (tunnelKey t.key) t.status.forwarderPort).SameTables a := by
  by_cases hrec : t.RecordsPort fresh
  · exact loadExisting_held h.wf (h.holds t ht hrec)
  · rw [loadExisting_out_of_range]
    · exact ⟨fun _ => rfl, fun _ => rfl⟩
    · rw [h.minPort, h.maxPort]
      exact fun hin => hrec ⟨by omega, hin⟩

theorem Keeps.apply (h : Keeps fresh tunnels a) (hlo : 1 ≤ fresh.minPort) {c : Call}
    (hc : c.Spares fresh tunnels) : Keeps fresh tunnels (c.apply a) := by
  have hrange := c.apply_range a
  refine ⟨c.apply_wf h.wf, hrange.1.trans h.minPort, hrange.2.trans h.maxPort, fun t ht hrec => ?_⟩
  have hheld := h.holds t ht hrec
  cases c with
  | allocate start k =>
      rcases allocate_cases h.wf start k with ⟨e, he⟩ | ⟨p, he, -⟩ | ⟨p, he, -⟩
      · simp only [Call.apply, he, hheld]
      · simp only [Call.apply, he, hheld]
      · simp only [Call.apply, he]
        rw [Table.lookup_insert_eq, if_neg (hc t ht hrec), hheld]
  | release k =>
      rw [Call.apply, release_lookup, if_neg (hc t ht hrec), hheld]
  | loadExisting k p =>
      obtain ⟨t', ht', rfl, rfl⟩ := hc
      rw [Call.apply, (h.loadExisting hlo ht').allocated, hheld]

theorem Keeps.run (h : Keeps fresh tunnels a) (hlo : 1 ≤ fresh.minPort) {calls : List Call}
    (hcalls : ∀ c ∈ calls, c.Spares fresh tunnels) : Keeps fresh tunnels (run calls a) := by
  induction calls generalizing a with
  | nil => exact h
  | cons c calls ih =>
      apply ih (h.apply hlo (hcalls c List.mem_cons_self))
      exact fun c' hc' => hcalls c' (List.mem_cons_of_mem c hc')

/-- Restoring is independent of the order of the listing, and what is restored stays. -/
theorem restored_ports_stay (minPort maxPort : Int) (tunnels : List Tunnel)
    (hkeys : (tunnels.map (·.key)).Nodup) (hports : DistinctPorts (new minPort maxPort) tunnels) :
    let fresh := new minPort maxPort
    let a := loadExistingAllocations tunnels fresh
    (∀ tunnels', tunnels'.Perm tunnels → (loadExistingAllocations tunnels' fresh).SameTables a) ∧
      (∀ k p, (a.getPort k = some p ↔ RecordedUnder fresh tunnels k p) ∧
        (a.used.lookup p = some k ↔ RecordedUnder fresh tunnels k p)) ∧
      ∀ later, (∀ c ∈ later, Call.Spares fresh tunnels c) → ∀ t ∈ tunnels,
        ((run later a).loadExisting (tunnelKey t.key) t.status.forwarderPort).SameTables
          (run later a) ∧
        (t.RecordsPort fresh → ∀ k,
          (run later a).getPort k = some t.status.forwarderPort ↔ k = tunnelKey t.key) := by
  intro fresh a
  have hlo : 1 ≤ fresh.minPort := (new_wf minPort maxPort).minPort_pos
  have ha : Restored fresh tunnels a :=
    loadExistingAllocations_restored (new_restored minPort maxPort) hkeys hports
  refine ⟨fun tunnels' hperm => ?_, fun k p => ⟨ha.holds k p, ?_⟩,
    fun later hlater t ht => ⟨?_, ?_⟩⟩
  · have hkeys' : (tunnels'.map (·.key)).Nodup := (hperm.map _).nodup_iff.mpr hkeys
    have hports' : DistinctPorts fresh tunnels' :=
      hports.perm hperm.symm fun h hr hr' => (h hr' hr).symm
    have ha' : Restored fresh tunnels' (loadExistingAllocations tunnels' fresh) :=
      loadExistingAllocations_restored (new_restored minPort maxPort) hkeys' hports'
    refine ha'.wf.sameTables ha.wf fun k p => ?_
    rw [ha'.holds, ha.holds]
    simp only [RecordedUnder, hperm.mem_iff]
  · rw [← ha.wf.inverse, ha.holds]
  · exact (ha.keeps.run hlo hlater).loadExisting hlo ht
  · intro hrec k
    have hrun := ha.keeps.run hlo hlater
    have hheld := hrun.holds t ht hrec
    constructor
    · intro hk
      exact hrun.wf.key_unique hk hheld
    · rintro rfl
      exact hheld

open Scenario in
/-- Two Tunnels with a recorded port; meanwhile a third key is allocated and released. -/
theorem restored_ports_stay_two :
    let listed (k : NamespacedName) (port : Int) : Tunnel :=
      ⟨k, 0, 1, false, [], spec, { forwarderPort := port }⟩
    let later : List Call := [.allocate 0 "team/c", .loadExisting "team/b" 2, .release "team/c"]
    let a := run later (loadExistingAllocations [listed key 1, listed otherKey 2] (new 1 3))
    a.getPort "team/c" = none ∧ ∀ k, a.getPort k = some 1 ↔ k = "team/a" := by
  intro listed later a
  have hports : DistinctPorts (new 1 3) [listed key 1, listed otherKey 2] := by
    simp [DistinctPorts, listed]
  have hlater : ∀ c ∈ later, Call.Spares (new 1 3) [listed key 1, listed otherKey 2] c := by
    intro c hc
    simp only [later, List.mem_cons, List.not_mem_nil, or_false] at hc
    rcases hc with rfl | rfl | rfl
    · intro t ht _
      rcases List.mem_pair.mp ht with rfl | rfl <;> decide
    · exact ⟨listed otherKey 2, by simp, by decide, rfl⟩
    · intro t ht _
      rcases List.mem_pair.mp ht with rfl | rfl <;> decide
  have hstay := (restored_ports_stay 1 3 [listed key 1, listed otherKey 2] (by decide) hports).2.2
    later hlater
  exact ⟨by decide, (hstay (listed key 1) (by simp)).2 (by decide)⟩

end PortAllocator
end TunnelOperator
