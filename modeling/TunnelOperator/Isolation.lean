import TunnelOperator.HeldPorts
import TunnelOperator.Proxy

/-!
# Published updates and the Tunnels they are about

Ports are recycled and a DELETED update carries no ownership check, so the order of the
published updates has to keep Tunnels apart. The invariant: a Tunnel with the finalizer
holds its port, an ADDED or MODIFIED update names the port its Tunnel has recorded, and
whenever a DELETED update for one Tunnel follows an update for another one on the same
port, that other Tunnel is no longer live.
-/

namespace TunnelOperator
open Interaction TunnelReconciler

def World.Dead (w : World) (uid : ℕ) : Prop :=
  ∀ k t, w.tunnels.lookup k = some t → t.uid = uid → ¬ t.Live

/-- Every Tunnel with the finalizer and a port already had both. -/
def World.NoNewOwner (w w' : World) : Prop :=
  ∀ k t', w'.tunnels.lookup k = some t' → finalizerName ∈ t'.finalizers →
    t'.status.forwarderPort ≠ 0 →
    ∃ t, w.tunnels.lookup k = some t ∧ finalizerName ∈ t.finalizers ∧ t.status.forwarderPort ≠ 0

structure IsolationInvariant (w : World) : Prop where
  wf : w.WF
  allocator : w.allocator.WF
  owned : ∀ {k t}, w.tunnels.lookup k = some t → t.Live → t.status.forwarderPort ≠ 0 →
    finalizerName ∈ t.finalizers
  holds : ∀ {k t}, w.tunnels.lookup k = some t → finalizerName ∈ t.finalizers → w.allocator.Holds t
  current : ∀ {u m}, u ∈ w.published → u.Upserts m → 0 < m.forwarderPort ∧ m.issuer < w.nextUid ∧
    ∀ {k t}, w.tunnels.lookup k = some t → t.uid = m.issuer →
      t.status.forwarderPort = m.forwarderPort
  isolated : w.published.Pairwise fun u v => ∀ m n, u.Upserts m → v.Deletes n →
    m.forwarderPort = n.forwarderPort → m.issuer ≠ n.issuer → w.Dead m.issuer

section Steps

variable {w w' : World}

theorem World.Dead.follows {uid : ℕ} (h : w.Dead uid) (hf : w.Follows w') (hu : uid < w.nextUid) :
    w'.Dead uid := by
  intro k t' ht huid hl
  rcases hf.back ht with ⟨t, ht, hlat⟩ | ⟨hge, -⟩
  · exact h k t ht (hlat.uid.symm.trans huid) (hlat.live hl)
  · omega

/-- Steps that patch no status and publish nothing. A Tunnel that loses the finalizer is not
live, and ports stay held. -/
theorem IsolationInvariant.follows (h : IsolationInvariant w) (hwf : w'.WF) (hf : w.Follows w')
    (hkept : ∀ {k t t'}, w.tunnels.lookup k = some t → w'.tunnels.lookup k = some t' →
      finalizerName ∈ t.finalizers → t'.Live → Later t t' → finalizerName ∈ t'.finalizers)
    (hnew : w.NoNewOwner w') (ha : w'.allocator.WF) (hk : KeepsHeld w.allocator w'.allocator)
    (hp : w'.published = w.published) : IsolationInvariant w' where
  wf := hwf
  allocator := ha
  owned := fun ht hl hport => by
    rcases hf.back ht with ⟨t, ht₀, hlat⟩ | ⟨-, -, hs⟩
    · exact hkept ht₀ ht (h.owned ht₀ (hlat.live hl) (hlat.status ▸ hport)) hl hlat
    · rw [hs] at hport
      exact absurd rfl hport
  holds := fun ht hfin hport => by
    obtain ⟨t, ht₀, hfin₀, -⟩ := hnew _ _ ht hfin hport
    rcases hf.back ht with ⟨t₁, ht₁, hlat⟩ | ⟨-, -, hs⟩
    · obtain rfl : t = t₁ := Option.some.inj (ht₀.symm.trans ht₁)
      rw [hlat.status] at hport ⊢
      rw [hlat.key]
      exact hk _ _ (h.holds ht₀ hfin₀ hport)
    · rw [hs] at hport
      exact absurd rfl hport
  current := fun {u m} hu hm => by
    rw [hp] at hu
    obtain ⟨hpos, hlt, hcur⟩ := h.current hu hm
    refine ⟨hpos, lt_of_lt_of_le hlt hf.nextUid, fun ht huid => ?_⟩
    rcases hf.back ht with ⟨t, ht₀, hlat⟩ | ⟨hge, -⟩
    · rw [hlat.status]
      exact hcur ht₀ (hlat.uid.symm.trans huid)
    · omega
  isolated := by
    rw [hp]
    refine h.isolated.imp_of_mem fun {u v} hu _ hpair m n hm hn hport hne => ?_
    exact (hpair m n hm hn hport hne).follows hf (h.current hu hm).2.1

theorem World.SameTunnels.noNewOwner (h : w.SameTunnels w') : w.NoNewOwner w' :=
  fun _ t' ht hf hp => ⟨t', h.tunnels ▸ ht, hf, hp⟩

theorem World.storeTunnel_noNewOwner (hw : w.WF) {k : NamespacedName} {current t : Tunnel}
    (hl : w.tunnels.lookup k = some current) (hkey : t.key = current.key)
    (hown : finalizerName ∈ t.finalizers → t.status.forwarderPort ≠ 0 →
      finalizerName ∈ current.finalizers ∧ current.status.forwarderPort ≠ 0) :
    w.NoNewOwner (w.storeTunnel t) := by
  intro k' t' ht hf hp
  rcases World.storeTunnel_found ht with ⟨hk, rfl⟩ | ⟨-, ht⟩
  · rw [hk, hkey, hw.key hl]
    exact ⟨current, hl, hown hf hp⟩
  · exact ⟨t', ht, hf, hp⟩

theorem World.NoNewOwner.trans {w'' : World} (h : w.NoNewOwner w') (h' : w'.NoNewOwner w'') :
    w.NoNewOwner w'' := by
  intro k t'' ht hf hp
  obtain ⟨t', ht', hf', hp'⟩ := h' k t'' ht hf hp
  exact h k t' ht' hf' hp'

theorem World.deleteTunnel_noNewOwner (hw : w.WF) (key : NamespacedName) :
    w.NoNewOwner (w.deleteTunnel key).2 :=
  World.deleteTunnel_state (P := w.NoNewOwner) (fun _ t ht hf hp => ⟨t, ht, hf, hp⟩)
    fun _ hl => World.storeTunnel_noNewOwner hw hl rfl fun hf hp => ⟨hf, hp⟩

theorem World.outside_noNewOwner (hw : w.WF) {e : World.Outside} (h : w.outside e = some w') :
    w.NoNewOwner w' := by
  rcases World.outside_cases h with ⟨key, finalizers, spec, -, hc⟩ | ⟨key, change, rfl, hc⟩ |
    ⟨pods, rfl, -⟩
  · obtain ⟨-, rfl⟩ := World.createTunnel_eq hc
    intro k t' ht hf hp
    rw [Table.lookup_insert_eq] at ht
    split_ifs at ht with hk
    · cases ht
      exact absurd rfl hp
    · exact ⟨t', ht, hf, hp⟩
  · refine World.writeTunnel_state (P := w.NoNewOwner) (fun _ t ht hf hp => ⟨t, ht, hf, hp⟩)
      fun current t hl ht => ?_
    cases ht
    have hu := hc current
    exact World.storeTunnel_noNewOwner hw hl hu.key fun hf hp => ⟨hu.finalizers hf, hu.status ▸ hp⟩
  · exact World.SameTunnels.noNewOwner ⟨rfl, rfl, rfl⟩

theorem IsolationInvariant.evolves (h : IsolationInvariant w) (hwf : w'.WF) (he : w.Evolves w')
    (hnew : w.NoNewOwner w') (ha : w'.allocator = w.allocator) (hp : w'.published = w.published) :
    IsolationInvariant w' := by
  refine h.follows hwf he.toFollows (fun ht ht' hf _ _ => ?_) hnew (ha ▸ h.allocator)
    (by rw [ha]; exact fun _ _ hk => hk) hp
  obtain ⟨t', ht₁, -, hf'⟩ := he.kept ht hf
  rw [ht'] at ht₁
  cases ht₁
  exact hf'

end Steps

end TunnelOperator
