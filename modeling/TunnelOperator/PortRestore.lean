import TunnelOperator.HeldPorts

/-!
# Restoring the allocator after a restart

`loadExistingAllocations` gives every live Tunnel its recorded port back, provided that no
Tunnel listed before it has recorded the same port: conflicts are skipped without a trace.
-/

namespace TunnelOperator
open Interaction

/-- The allocator after the Tunnels of `done` have been loaded. -/
structure Loaded (lo hi : Int) (done : List Tunnel) (a : PortAllocator) : Prop where
  wf : a.WF
  minPort : a.minPort = lo
  maxPort : a.maxPort = hi
  source : ∀ {k p}, a.allocated.lookup k = some p →
    ∃ t ∈ done, tunnelKey t.key = k ∧ t.status.forwarderPort = p
  holds : ∀ {t}, t ∈ done → t.Live → a.Holds t

theorem Loaded.skip {lo hi : Int} {done : List Tunnel} {a : PortAllocator} (h : Loaded lo hi done a)
    {t : Tunnel} (ht : t.Live → t.status.forwarderPort = 0) : Loaded lo hi (done ++ [t]) a where
  wf := h.wf
  minPort := h.minPort
  maxPort := h.maxPort
  source := fun hk => by
    obtain ⟨t', ht', h'⟩ := h.source hk
    exact ⟨t', List.mem_append_left _ ht', h'⟩
  holds := fun {t'} ht' hl hp => by
    rcases List.mem_append.mp ht' with ht' | ht'
    · exact h.holds ht' hl hp
    · cases List.mem_singleton.mp ht'
      exact absurd (ht hl) hp

theorem Loaded.loadExisting {lo hi : Int} {done : List Tunnel} {a : PortAllocator}
    (h : Loaded lo hi done a) {t : Tunnel} (hfresh : ∀ t' ∈ done, t'.key ≠ t.key)
    (hrange : t.Live → lo ≤ t.status.forwarderPort ∧ t.status.forwarderPort ≤ hi)
    (hfree : t.Live → ∀ t' ∈ done, t'.status.forwarderPort ≠ t.status.forwarderPort) :
    Loaded lo hi (done ++ [t]) (a.loadExisting (tunnelKey t.key) t.status.forwarderPort) := by
  rcases a.loadExisting_cases (tunnelKey t.key) t.status.forwarderPort with
    ⟨he, hno⟩ | ⟨-, u, he, -⟩
  · rw [he]
    refine h.skip fun hl => absurd ⟨?_, ?_, fun k' hk' => ?_⟩ hno
    · exact h.minPort ▸ (hrange hl).1
    · exact h.maxPort ▸ (hrange hl).2
    · obtain ⟨t', ht', -, hp⟩ := h.source ((h.wf.inverse _ _).mpr hk')
      exact absurd hp (hfree hl t' ht')
  · have hwf := PortAllocator.loadExisting_wf h.wf (tunnelKey t.key) t.status.forwarderPort
    have hr := a.loadExisting_range (tunnelKey t.key) t.status.forwarderPort
    have hlook : ∀ k, (a.loadExisting (tunnelKey t.key) t.status.forwarderPort).allocated.lookup k =
        if k = tunnelKey t.key then some t.status.forwarderPort else a.allocated.lookup k := by
      intro k
      rw [he]
      exact Table.lookup_insert_eq _ _ _ _
    refine ⟨hwf, hr.1.trans h.minPort, hr.2.trans h.maxPort, fun {k p} hk => ?_,
      fun {t'} ht' hl hp => ?_⟩
    · rw [hlook] at hk
      split_ifs at hk with hkey
      · cases hk
        exact ⟨t, List.mem_append_right _ (List.mem_singleton_self _), hkey.symm, rfl⟩
      · obtain ⟨t', ht', h'⟩ := h.source hk
        exact ⟨t', List.mem_append_left _ ht', h'⟩
    · rcases List.mem_append.mp ht' with ht' | ht'
      · rw [hlook, if_neg fun hk => hfresh t' ht' (tunnelKey_injective hk)]
        exact h.holds ht' hl hp
      · cases List.mem_singleton.mp ht'
        rw [hlook, if_pos rfl]

/-- No live Tunnel of the listing comes after another one that has recorded its port. -/
def PortsUnclaimed (tunnels : List Tunnel) : Prop :=
  tunnels.Pairwise fun t' t => t.Live → t.status.forwarderPort ≠ 0 →
    t'.status.forwarderPort ≠ t.status.forwarderPort

theorem loadExistingAllocations_loaded {lo hi : Int} {done tunnels : List Tunnel}
    {a : PortAllocator} (h : Loaded lo hi done a) (hkeys : ((done ++ tunnels).map (·.key)).Nodup)
    (hrange : ∀ t ∈ tunnels, t.Live → t.status.forwarderPort ≠ 0 →
      lo ≤ t.status.forwarderPort ∧ t.status.forwarderPort ≤ hi)
    (hports : PortsUnclaimed (done ++ tunnels)) :
    Loaded lo hi (done ++ tunnels) (loadExistingAllocations tunnels a) := by
  induction tunnels generalizing done a with
  | nil => simpa [loadExistingAllocations] using h
  | cons t tunnels ih =>
      have happ : done ++ t :: tunnels = (done ++ [t]) ++ tunnels := by simp
      rw [happ] at hkeys hports ⊢
      have hpos : t.Live → t.status.forwarderPort ≠ 0 → 0 < t.status.forwarderPort := by
        intro hl hp
        have := (hrange t (List.mem_cons_self ..) hl hp).1
        have := h.wf.minPort_pos
        have := h.minPort
        omega
      refine ih ?_ hkeys (fun t' ht' => hrange t' (List.mem_cons_of_mem _ ht')) hports
      change Loaded lo hi _ (if t.status.forwarderPort ≤ 0 then _ else _)
      split_ifs with hp
      · refine h.skip fun hl => ?_
        by_contra hne
        have := hpos hl hne
        omega
      · refine h.loadExisting (fun t' ht' he => ?_) (fun hl => ?_) (fun hl t' ht' => ?_)
        · have hnd := (List.nodup_append.mp (List.map_append ▸ (List.nodup_append.mp
            (List.map_append ▸ hkeys)).1)).2.2
          exact hnd _ (List.mem_map_of_mem ht') _ (by simp) he
        · exact hrange t (List.mem_cons_self ..) hl (by omega)
        · have := (List.pairwise_append.mp (List.pairwise_append.mp hports).1).2.2
          exact this t' ht' t (List.mem_singleton_self _) hl (by omega)

end TunnelOperator
