import TunnelOperator.Isolation

/-!
# A deletion spares other Tunnels

A forwarder passes the published updates in order to `handleUpdate` while the operator goes
on. `handleTerminated` releases the port and publishes the DELETED update before its last
call; when that call fails, the retry publishes again although the port may have been given
to somebody else. In every run in which no such retry meets a reused port, a DELETED update
never takes down the listener of another live Tunnel.
-/

namespace TunnelOperator
open Interaction TunnelReconciler Scenario

/-- The operator and one forwarder that has handled the first `handled` published updates. -/
structure Relay where
  world : World
  handled : ℕ
  proxy : UDPProxy

namespace Relay

inductive Outside where
  | cluster (e : World.Outside)
  | handle (deny : Deny)

def handle (deny : Deny) (s : Relay) : Option Relay :=
  (s.world.published[s.handled]?).map fun u =>
    { s with handled := s.handled + 1, proxy := (handleUpdate deny (some u) s.proxy).2 }

theorem handle_eq {s : Relay} {u : TunnelUpdate} (h : s.world.published[s.handled]? = some u)
    (deny : Deny) : s.handle deny = some
      { s with handled := s.handled + 1, proxy := (handleUpdate deny (some u) s.proxy).2 } := by
  simp [handle, h]

def outside (s : Relay) : Outside → Option Relay
  | .cluster e => (s.world.outside e).map fun w => { s with world := w }
  | .handle deny => s.handle deny

def exec (op : Op) (c : Choice) (s : Relay) : op.Ans × Relay :=
  let a := World.exec op c s.world
  (a.1, { s with world := a.2 })

def initial (allocator : PortAllocator) : Relay := ⟨World.initial allocator, 0, UDPProxy.new⟩

/-- The listener at the port forwards to a gateway that the forwarder learnt from an update
for this very Tunnel object. -/
def Serves (s : Relay) (port : Int) (uid : ℕ) : Prop :=
  ∃ l u m, s.proxy.mappings.lookup port = some l ∧ u ∈ s.world.published.take s.handled ∧
    u.Upserts m ∧ m.forwarderPort = port ∧ m.issuer = uid ∧ l.SameTunnel m ∧
    l.gateway = m.gatewayAddress

end Relay

def relayedOperator (r : TunnelReconciler) :
    Machine Op.Ans (Except String Result) NamespacedName Relay Choice Relay.Outside Empty where
  exec := Relay.exec
  program := r.reconcile
  onStart := fun _ s => s
  env := fun e s => s.outside e
  crash := fun k _ => nomatch k

/-- A Terminated Tunnel that has already lost its finalizer. -/
def Tunnel.Leftover (t : Tunnel) : Prop :=
  finalizerName ∉ t.finalizers ∧ t.deletionTimestamp = false ∧ t.status.phase = .terminated

instance (t : Tunnel) : Decidable t.Leftover := inferInstanceAs (Decidable (_ ∧ _))

/-- A leftover Tunnel is read by `Reconcile` only while nobody else holds its port. -/
def World.LeftoverHolds (tr : Trace) (w : World) : Prop :=
  ∀ k a, tr = [⟨.getTunnel k, a⟩] → ∀ t, w.tunnels.lookup k = some t → t.Leftover →
    ∀ key, w.allocator.getPort key = some t.status.forwarderPort → key = tunnelKey k

def retriesBeforeReuse : Machine.Conditions Op.Ans Relay Relay.Outside Empty where
  call := fun tr s => s.world.LeftoverHolds tr

/-- What a reconciliation knows while it retires a Tunnel. Nobody else holds the port it is
going to announce as deleted, and once the finalizer is gone no owner of a port is stored
under the key it is going to release. -/
structure Retires (req : NamespacedName) (tr : Trace) (w : World) : Prop where
  unpatched : ∀ t₀, Answered tr (.getTunnel req) (.ok t₀) → ¬ t₀.Live → Unpatched tr
  portOurs : ∀ t₀, Answered tr (.getTunnel req) (.ok t₀) → ¬ t₀.Live →
    (finalizerName ∈ t₀.finalizers ∨ t₀.deletionTimestamp = false) → t₀.status.forwarderPort ≠ 0 →
    ∀ key, w.allocator.allocated.lookup key = some t₀.status.forwarderPort → key = tunnelKey req
  unowned : ∀ t₀, Answered tr (.getTunnel req) (.ok t₀) → ¬ t₀.Live →
    (finalizerName ∉ t₀.finalizers ∨
      ∃ t, Answered tr (.updateTunnel (removeFinalizer t₀)) (.ok t)) →
    ∀ t, w.tunnels.lookup req = some t → finalizerName ∈ t.finalizers → t.status.forwarderPort = 0

section Knowledge

variable {r : TunnelReconciler} {req : NamespacedName} {tr : Trace} {w w' : World}

theorem Retires.nil (req : NamespacedName) (w : World) : Retires req [] w :=
  ⟨fun _ h => (by cases h), fun _ h => (by cases h), fun _ h => (by cases h)⟩

theorem Retires.of_live (hr : Reads req tr w) {t₀ : Tunnel}
    (ht : Answered tr (.getTunnel req) (.ok t₀)) (hl : t₀.Live) : Retires req tr w := by
  have hno : ∀ {t₁}, Answered tr (.getTunnel req) (.ok t₁) → ¬ t₁.Live → False := fun ht₁ hl₁ =>
    hl₁ (hr.unique ht ht₁ ▸ hl)
  exact ⟨fun _ h₁ h₂ => (hno h₁ h₂).elim, fun _ h₁ h₂ => (hno h₁ h₂).elim,
    fun _ h₁ h₂ => (hno h₁ h₂).elim⟩

theorem Retires.keeps (h : Retires req tr w) (hnew : w.NoNewOwner w')
    (ha : KeepsHeld w'.allocator w.allocator) : Retires req tr w' where
  unpatched := h.unpatched
  portOurs := fun t₀ ht hl hf hp key hk => h.portOurs t₀ ht hl hf hp key (ha _ _ hk)
  unowned := fun t₀ ht hl hf t ht' hfin => by
    by_contra hp
    obtain ⟨t₁, ht₁, hf₁, hp₁⟩ := hnew req t ht' hfin hp
    exact hp₁ (h.unowned t₀ ht hl hf t₁ ht₁ hf₁)

theorem Retires.extend (h : Retires req tr w) {op : Op} (ans : op.Ans)
    (hop : ∀ k, op ≠ .getTunnel k)
    (hup : ∀ t₀ t, (⟨op, ans⟩ : Call Op.Ans) ≠ ⟨.updateTunnel (removeFinalizer t₀), .ok t⟩)
    (hpatch : op.isPatch = false) : Retires req (tr ++ [⟨op, ans⟩]) w where
  unpatched := fun t₀ ht hl c hc => by
    rcases List.mem_append.mp hc with hc | hc
    · exact h.unpatched t₀ (Reads.old (hop req) ht) hl c hc
    · rw [List.mem_singleton.mp hc]
      exact hpatch
  portOurs := fun t₀ ht => h.portOurs t₀ (Reads.old (hop req) ht)
  unowned := fun t₀ ht hl hf => by
    refine h.unowned t₀ (Reads.old (hop req) ht) hl (hf.imp_right fun ⟨t, htr⟩ => ⟨t, ?_⟩)
    rcases answered_append htr with hold | ⟨rfl, rfl⟩
    · exact hold
    · exact absurd rfl (hup t₀ t)

theorem Retires.getTunnel (hi : IsolationInvariant w) {c : Choice} {ans : Except ApiError Tunnel}
    (he : World.exec (.getTunnel req) c w = (ans, w'))
    (hall : w.LeftoverHolds [⟨.getTunnel req, ans⟩]) :
    Retires req ([] ++ [⟨.getTunnel req, ans⟩]) w' := by
  obtain ⟨rfl, rfl⟩ : World.getResult c (w.tunnels.lookup req) = ans ∧ w = w' := Prod.mk.inj he
  have hread : ∀ {t}, Answered ([] ++ [⟨.getTunnel req, World.getResult c (w.tunnels.lookup req)⟩])
      (.getTunnel req) (.ok t) → w.tunnels.lookup req = some t := by
    intro t ht
    rcases answered_append ht with ht | ⟨-, ht⟩
    · cases ht
    · exact World.getResult_ok (eq_of_heq ht).symm
  refine ⟨fun t₀ _ _ c hc => ?_, fun t₀ ht hl hf hp key hk => ?_, fun t₀ ht hl hf t ht' hfin => ?_⟩
  · rw [List.mem_singleton.mp hc]
    rfl
  · have hs := hread ht
    by_cases hfin : finalizerName ∈ t₀.finalizers
    · -- the owner holds its port, so nobody else does
      have hown := hi.holds hs hfin hp
      rw [hi.wf.key hs] at hown
      exact Option.some.inj
        (((hi.allocator.inverse _ _).mp hk).symm.trans ((hi.allocator.inverse _ _).mp hown))
    · have hd := hf.resolve_left hfin
      have hterm : t₀.status.phase = .terminated := by
        by_contra hne
        exact hl ⟨hd, hne⟩
      exact hall req _ rfl t₀ hs ⟨hfin, hd, hterm⟩ key hk
  · have hs := hread ht
    rw [hs] at ht'
    cases ht'
    rcases hf with hf | ⟨t, hup⟩
    · exact absurd hfin hf
    · rcases answered_append hup with hup | ⟨hop, -⟩
      · cases hup
      · cases hop

end Knowledge

section Writes

variable {r : TunnelReconciler} {req : NamespacedName} {tr : Trace} {w w' : World}

theorem IsolationInvariant.finalizerAdded (h : IsolationInvariant w) (hr : Reads req tr w)
    (hu : Unpatched tr) {t₀ : Tunnel} (ht₀ : Answered tr (.getTunnel req) (.ok t₀)) (hl : t₀.Live)
    (hf : finalizerName ∉ t₀.finalizers) {c : Choice} {ans : Except ApiError Tunnel}
    (he : World.exec (.updateTunnel (addFinalizer t₀)) c w = (ans, w')) :
    IsolationInvariant w' := by
  have hmem : finalizerName ∈ (addFinalizer t₀).finalizers := by
    simp [addFinalizer]
  have hev : w.Evolves w' := by
    have := World.exec_evolves h.wf (o := .updateTunnel (addFinalizer t₀)) rfl
      (fun x hx => by cases hx; exact hmem) c
    rwa [he] at this
  have hwf : w'.WF := by
    simpa [he] using World.exec_wf h.wf (.updateTunnel (addFinalizer t₀)) c
  have hsame : w.SameProcess w' := by
    simpa [he] using
      World.exec_sameProcess (o := .updateTunnel (addFinalizer t₀)) rfl c w
  refine h.evolves hwf hev ?_ hsame.allocator hsame.published
  rcases exec_updateTunnel (hr.seen hu ht₀) he with ⟨rfl, -⟩ | ⟨hlook, rfl, -⟩
  · exact fun _ t ht hft hp => ⟨t, ht, hft, hp⟩
  · refine World.storeTunnel_noNewOwner h.wf hlook rfl fun _ hp => ?_
    exact absurd (h.owned hlook hl hp) hf

theorem IsolationInvariant.finalizerRemoved (h : IsolationInvariant w) (hr : Reads req tr w)
    (hu : Unpatched tr) {t₀ : Tunnel} (hret : Retiring req tr t₀) {c : Choice}
    {ans : Except ApiError Tunnel}
    (he : World.exec (.updateTunnel (removeFinalizer t₀)) c w = (ans, w')) :
    IsolationInvariant w' ∧ w.NoNewOwner w' ∧ (∀ t, ans = .ok t →
      ∀ t', w'.tunnels.lookup req = some t' → finalizerName ∉ t'.finalizers) := by
  have hmem : finalizerName ∉ (removeFinalizer t₀).finalizers := by
    simp [removeFinalizer]
  rcases exec_updateTunnel (hr.seen hu hret.read) he with ⟨rfl, e, rfl⟩ | ⟨hlook, rfl, -⟩
  · exact ⟨h, fun _ t ht hft hp => ⟨t, ht, hft, hp⟩, fun t ht => by cases ht⟩
  have hnew : w.NoNewOwner (w.storeTunnel (removeFinalizer t₀)) :=
    World.storeTunnel_noNewOwner h.wf hlook rfl fun hf _ => absurd hf hmem
  have hsame := World.storeTunnel_sameProcess (removeFinalizer t₀) w
  refine ⟨?_, hnew, fun t _ t' ht' hf => ?_⟩
  · refine h.follows (World.storeTunnel_wf h.wf hlook rfl rfl)
      (World.storeTunnel_follows h.wf hlook rfl rfl rfl id)
      (fun {k t t'} ht ht' hf hl hlat => ?_) hnew
      (hsame.allocator ▸ h.allocator) (fun k p hk =>
        (congrArg (·.allocated.lookup k) hsame.allocator).trans hk)
      hsame.published
    rcases World.storeTunnel_found ht' with ⟨-, rfl⟩ | ⟨-, ht'⟩
    · exact absurd ⟨hl.1, hl.2⟩ hret.not_live
    · rw [ht] at ht'
      cases ht'
      exact hf
  · rcases World.storeTunnel_found ht' with ⟨-, rfl⟩ | ⟨hk, -⟩
    · exact hmem hf
    · exact hk (hr.key hret.read).symm

theorem IsolationInvariant.patchStatus (h : IsolationInvariant w) (hr : Reads req tr w)
    (hu : Unpatched tr) (hal : AllocationsHeld req tr w) {x base : Tunnel}
    (hn : Next r req tr (.patchStatus x base)) {c : Choice} {ans : Except ApiError Tunnel}
    (he : World.exec (.patchStatus x base) c w = (ans, w')) : IsolationInvariant w' := by
  have hwf : w'.WF := by simpa [he] using World.exec_wf h.wf (.patchStatus x base) c
  have hsame : w.SameProcess w' := by
    simpa [he] using World.exec_sameProcess (o := .patchStatus x base) rfl c w
  obtain ⟨t₀, pod, allocated, changed, m, e, hc, -, rfl⟩ := hn
  rcases exec_patchStatus (hr.active_held hu hc.active) hc.key_eq he with
    ⟨rfl, -⟩ | ⟨cur, hl, hlat, hfin, rfl, -⟩
  · exact h
  have hport : e.tunnel.status.forwarderPort = m.status.forwarderPort :=
    hc.evaluated.sameMapping.forwarderPort
  have hkept : cur.status.forwarderPort ≠ 0 →
      e.tunnel.status.forwarderPort = cur.status.forwarderPort := by
    intro hp
    rw [hlat.status] at hp ⊢
    rcases hc.toMapped.forwarderPort with ⟨hpm, -⟩ | ⟨h0, -⟩
    · exact hport.trans hpm
    · exact absurd h0 hp
  have hcur : w.tunnels.lookup cur.key = some cur := by rw [h.wf.key hl]; exact hl
  refine ⟨hwf, hsame.allocator ▸ h.allocator, fun ht hlive hp => ?_, fun {k t'} ht hf hp => ?_,
    fun {u m'} hm hum => ?_, ?_⟩
  · rcases World.storeTunnel_found ht with ⟨-, rfl⟩ | ⟨-, ht⟩
    · exact hfin
    · exact h.owned ht hlive hp
  · rw [hsame.allocator]
    rcases World.storeTunnel_found ht with ⟨-, rfl⟩ | ⟨-, ht⟩
    · simp only at hp ⊢
      by_cases hcp : cur.status.forwarderPort = 0
      · rcases hc.toMapped.forwarderPort with ⟨hpm, -⟩ | ⟨-, -, hans⟩
        · rw [hport, hpm, ← hlat.status] at hp
          exact absurd hcp hp
        · rw [hport, hlat.key]
          exact (hal _ _ hans).2
      · rw [hkept hcp]
        exact h.holds hcur hfin hcp
    · exact h.holds ht hf hp
  · rw [hsame.published] at hm
    obtain ⟨hpos, hlt, hold⟩ := h.current hm hum
    refine ⟨hpos, by simpa using hlt, fun ht huid => ?_⟩
    rcases World.storeTunnel_found ht with ⟨-, rfl⟩ | ⟨-, ht⟩
    · have hcp := hold hcur huid
      exact (hkept (by omega)).trans hcp
    · exact hold ht huid
  · rw [hsame.published]
    refine h.isolated.imp fun {u v} hpair m' n hm hn hmn hne k t' ht huid hlive => ?_
    rcases World.storeTunnel_found ht with ⟨-, rfl⟩ | ⟨-, ht⟩
    · refine hpair m' n hm hn hmn hne _ cur hcur huid ⟨hlive.1, ?_⟩
      rw [hlat.status, hr.active_eq hc.active]
      exact hc.active.notTerminated
    · exact hpair m' n hm hn hmn hne k t' ht huid hlive

end Writes

section Process

variable {r : TunnelReconciler} {req : NamespacedName} {tr : Trace} {w : World}

theorem IsolationInvariant.allocate (h : IsolationInvariant w) (start : ℕ) (key : String) :
    IsolationInvariant { w with allocator := (w.allocator.allocate start key).2 } := by
  have hs : w.SameTunnels { w with allocator := (w.allocator.allocate start key).2 } :=
    ⟨rfl, rfl, rfl⟩
  refine h.follows (hs.wf h.wf) hs.evolves.toFollows (fun ht ht' hf _ _ => ?_) hs.noNewOwner
    (PortAllocator.allocate_wf h.allocator _ _) (allocate_keepsHeld h.allocator _ _) rfl
  rw [hs.tunnels, ht] at ht'
  cases ht'
  exact hf

theorem IsolationInvariant.release (h : IsolationInvariant w) (hr : Reads req tr w)
    (hret : Retires req tr w) {key : String} (hn : Next r req tr (.release key)) :
    IsolationInvariant { w with allocator := w.allocator.release key } := by
  obtain ⟨t₀, t, hd, -, rfl⟩ := hn
  have hkey : t.key = req := by
    rw [← hr.key hd.retiring.read, hr.dropped_eq hd]
  have hs : w.SameTunnels { w with allocator := w.allocator.release (tunnelKey t.key) } :=
    ⟨rfl, rfl, rfl⟩
  have hgone : finalizerName ∉ t₀.finalizers ∨
      ∃ t, Answered tr (.updateTunnel (removeFinalizer t₀)) (.ok t) :=
    hd.dropped.imp And.left fun hup => ⟨t, hup.2.2⟩
  refine ⟨hs.wf h.wf, PortAllocator.release_wf h.allocator _, h.owned, fun {k t'} ht hf hp => ?_,
    h.current, h.isolated⟩
  refine (PortAllocator.release_lookup _ _ _).trans ?_
  rw [if_neg]
  · exact h.holds ht hf hp
  · intro he
    have hk : k = req := by rw [← h.wf.key ht, tunnelKey_injective he, hkey]
    exact hp (hret.unowned t₀ hd.retiring.read hd.retiring.not_live hgone t' (hk ▸ ht) hf)

/-- A new update keeps the invariant if an ADDED or MODIFIED one is about a stored Tunnel and
its recorded port, and a DELETED one about a port that no other live Tunnel has. -/
theorem IsolationInvariant.publish (h : IsolationInvariant w) {u : TunnelUpdate}
    (hup : ∀ m, u.Upserts m → 0 < m.forwarderPort ∧ ∃ k t, w.tunnels.lookup k = some t ∧
      t.uid = m.issuer ∧ t.status.forwarderPort = m.forwarderPort)
    (hdel : ∀ n, u.Deletes n → ∀ {k t}, w.tunnels.lookup k = some t → t.Live →
      t.status.forwarderPort = n.forwarderPort → t.uid = n.issuer) :
    IsolationInvariant { w with published := w.published ++ [u] } := by
  have hs : w.SameTunnels { w with published := w.published ++ [u] } := ⟨rfl, rfl, rfl⟩
  refine ⟨hs.wf h.wf, h.allocator, h.owned, h.holds, fun {v m} hv hm => ?_, ?_⟩
  · rcases List.mem_append.mp hv with hv | hv
    · exact h.current hv hm
    · rw [List.mem_singleton.mp hv] at hm
      obtain ⟨hpos, k, t, ht, huid, hport⟩ := hup m hm
      refine ⟨hpos, huid ▸ h.wf.uid ht, fun {k' t'} ht' huid' => ?_⟩
      obtain rfl := h.wf.uid_inj ht' ht (huid'.trans huid.symm)
      have htt : t' = t := Option.some.inj (ht'.symm.trans ht)
      rw [htt, hport]
  · refine List.pairwise_append.mpr ⟨h.isolated, List.pairwise_singleton _ _,
      fun v hv v' hv' m n hm hn hmn hne => ?_⟩
    rw [List.mem_singleton.mp hv'] at hn
    intro k t ht huid hl
    have hport : t.status.forwarderPort = m.forwarderPort := (h.current hv hm).2.2 ht huid
    exact hne (huid.symm.trans (hdel n hn ht hl (hport.trans hmn)))

theorem IsolationInvariant.notifyUpdate (h : IsolationInvariant w) (hr : Reads req tr w)
    (hret : Retires req tr w) {u : TunnelUpdate} (hn : Next r req tr (.notifyUpdate u))
    (hp : PatchesOnce r tr (.notifyUpdate u)) :
    IsolationInvariant { w with published := w.published ++ [u] } := by
  refine h.publish (fun m hm => ?_) fun n hd k t ht hl hport => ?_
  · obtain ⟨t, ⟨t', ht', hlat, -⟩, hnot, -⟩ := notified_held hr hn hp hm.ne_deleted
    obtain rfl : notifiedMapping t = m := Option.some.inj (hnot.mapping.symm.trans hm.2)
    exact ⟨hnot.port, t.key, t', ht', hlat.uid, by rw [hlat.status]; rfl⟩
  · rcases hn with ⟨t₀, t₁, hdr, -, hfin, -, hnot, -⟩ |
      ⟨t₀, base, pod, allocated, changed, m, e, t₁, -, -, -, hty⟩
    · obtain rfl : notifiedMapping t₁ = n := Option.some.inj (hnot.mapping.symm.trans hd.2)
      have hun := hret.unpatched t₀ hdr.retiring.read hdr.retiring.not_live
      have heq := hr.dropped_eq hdr
      have hst : t₁.status = t₀.status := by rw [heq]
      have hpos := hnot.port
      have hport' : t.status.forwarderPort = t₀.status.forwarderPort := by
        rw [hport, ← hst]
        rfl
      rw [hst] at hpos
      have hown := h.holds ht (h.owned ht hl (by omega)) (by omega)
      rw [hport'] at hown
      have hk := hret.portOurs t₀ hdr.retiring.read hdr.retiring.not_live hfin (by omega) _ hown
      have hkey : k = t₀.key := by
        rw [← h.wf.key ht, hr.key hdr.retiring.read]
        exact tunnelKey_injective hk
      rcases (hr.seen hun hdr.retiring.read).stored t (hkey ▸ ht) with hlat | ⟨-, -, hs⟩
      · exact absurd (hlat.live hl) hdr.retiring.not_live
      · rw [hs] at hport'
        have : (0 : Int) = t₀.status.forwarderPort := hport'
        omega
    · have := hd.1
      rcases hty with ⟨-, hty⟩ | ⟨hty, -⟩
      · split_ifs at hty <;> rw [hty] at this <;> cases this
      · rw [hty] at this
        cases this

end Process

section Steps

variable {r : TunnelReconciler} {req : NamespacedName} {tr : Trace} {w w' : World}

theorem World.exec_noNewOwner (hw : w.WF) {o : Op} (hpatch : o.isPatch = false)
    (hup : ∀ x, o ≠ .updateTunnel x) (c : Choice) : w.NoNewOwner (World.exec o c w).2 := by
  cases h : o.writesTunnel with
  | false => exact (World.exec_sameTunnels h c w).noNewOwner
  | true =>
      cases o with
      | deleteTunnel key =>
          exact World.writeResult_state (P := w.NoNewOwner) (fun _ t ht hf hp => ⟨t, ht, hf, hp⟩)
            (World.deleteTunnel_noNewOwner hw key)
      | updateTunnel x => exact absurd rfl (hup x)
      | patchStatus _ _ => cases hpatch
      | _ => cases h

theorem isolation_step {op : Op} {c : Choice} {ans : op.Ans} (hn : Next r req tr op)
    (hp : PatchesOnce r tr op) (hr : Reads req tr w) (hal : AllocationsHeld req tr w)
    (hret : Retires req tr w) (hinv : IsolationInvariant w) (he : World.exec op c w = (ans, w'))
    (hall : w.LeftoverHolds (tr ++ [⟨op, ans⟩])) :
    IsolationInvariant w' ∧ AllocationsHeld req (tr ++ [⟨op, ans⟩]) w' ∧
      Retires req (tr ++ [⟨op, ans⟩]) w' := by
  have hwf : w'.WF := by simpa [he] using World.exec_wf hinv.wf op c
  have hr' : Reads req (tr ++ [⟨op, ans⟩]) w' := hr.step hinv.wf ⟨hn, hp⟩ he
  have hal' : AllocationsHeld req (tr ++ [⟨op, ans⟩]) w' := hal.step hinv.allocator hr.unique hn he
  have hsame : op.isLocal = false → w.SameProcess w' := fun hl => by
    simpa [he] using World.exec_sameProcess hl c w
  -- the Tunnel was read alive, so nothing is being retired
  have hlive : ∀ {t₀ base}, Active req tr t₀ base → Retires req (tr ++ [⟨op, ans⟩]) w' :=
    fun hact => Retires.of_live hr' (hact.read.mono (subset_append_call _ _))
      ⟨hact.notDeleting, hact.notTerminated⟩
  have hkeeps : w.NoNewOwner w' → KeepsHeld w'.allocator w.allocator → op.isPatch = false →
      (∀ x, op ≠ .updateTunnel x) → (∀ k, op ≠ .getTunnel k) → Retires req (tr ++ [⟨op, ans⟩]) w' :=
    fun hnew ha hpatch hup hget => (hret.keeps hnew ha).extend ans hget
      (fun _ _ heq => hup _ (Call.mk.inj heq).1) hpatch
  -- the operations that touch neither a status nor a finalizer nor the process
  have hother : op.isPatch = false → (∀ x, op ≠ .updateTunnel x) → (∀ k, op ≠ .getTunnel k) →
      w'.allocator = w.allocator → w'.published = w.published →
      IsolationInvariant w' ∧ AllocationsHeld req (tr ++ [⟨op, ans⟩]) w' ∧
        Retires req (tr ++ [⟨op, ans⟩]) w' := by
    intro hpatch hup hget ha hpub
    have hev : w.Evolves w' := by
      have := World.exec_evolves hinv.wf (o := op) hpatch (fun x hx => absurd hx (hup x)) c
      rwa [he] at this
    have hnew : w.NoNewOwner w' := by
      have := World.exec_noNewOwner hinv.wf (o := op) hpatch hup c
      rwa [he] at this
    refine ⟨hinv.evolves hwf hev hnew ha hpub, hal', hkeeps hnew ?_ hpatch hup hget⟩
    rw [ha]
    exact fun _ _ hk => hk
  cases op with
  | getTunnel k =>
      obtain ⟨rfl, rfl⟩ := hn
      obtain ⟨-, rfl⟩ := Prod.mk.inj he
      exact ⟨hinv, hal', Retires.getTunnel hinv he hall⟩
  | patchStatus x base =>
      refine ⟨hinv.patchStatus hr (hp.unpatched (by simp)) hal hn he, hal', ?_⟩
      obtain ⟨t₀, pod, allocated, changed, m, e, hc, -⟩ := hn
      exact hlive hc.active
  | updateTunnel x =>
      have hu : Unpatched tr := hp.unpatched (by simp)
      rcases hn with ⟨t₀, ht₀, hd, hph, -, hf, rfl⟩ | ⟨t₀, hretiring, -, -, rfl⟩
      · refine ⟨hinv.finalizerAdded hr hu ht₀ ⟨hd, hph⟩ hf he, hal', ?_⟩
        exact Retires.of_live hr' (ht₀.mono (subset_append_call _ _)) ⟨hd, hph⟩
      · obtain ⟨hinv', hnew, hgone⟩ := hinv.finalizerRemoved hr hu hretiring he
        have hkeep := hret.keeps hnew
          (by rw [(hsame rfl).allocator]; exact fun _ _ hk => hk)
        refine ⟨hinv', hal', ?_⟩
        cases hans : ans with
        | error e =>
            refine hkeep.extend _ (by simp) (fun _ t heq => ?_) rfl
            have hok : (.error e : Except ApiError Tunnel) = .ok t := eq_of_heq (Call.mk.inj heq).2
            cases hok
        | ok t =>
            refine ⟨fun t₁ ht₁ hl c hc => ?_, fun t₁ ht₁ =>
              hkeep.portOurs t₁ (Reads.old (by simp) ht₁), fun t₁ ht₁ _ _ t' ht' hf =>
                absurd hf (hgone t hans t' ht')⟩
            rcases List.mem_append.mp hc with hc | hc
            · exact hu c hc
            · rw [List.mem_singleton.mp hc]
              rfl
  | allocate key =>
      obtain ⟨t₀, base, pod, hact, -⟩ := hn
      refine ⟨?_, hal', hlive hact⟩
      obtain ⟨-, rfl⟩ := Prod.mk.inj he
      exact hinv.allocate c.start key
  | release key =>
      obtain ⟨-, rfl⟩ := Prod.mk.inj he
      refine ⟨hinv.release hr hret hn, hal', ?_⟩
      refine hkeeps (World.SameTunnels.noNewOwner ⟨rfl, rfl, rfl⟩) (fun k p hk => ?_) rfl (by simp)
        (by simp)
      have hlook := (PortAllocator.release_lookup w.allocator key k).symm.trans hk
      by_cases hk' : k = key
      · rw [if_pos hk'] at hlook
        cases hlook
      · rwa [if_neg hk'] at hlook
  | notifyUpdate u =>
      obtain ⟨-, rfl⟩ := Prod.mk.inj he
      exact ⟨hinv.notifyUpdate hr hret hn hp, hal',
        hkeeps (World.SameTunnels.noNewOwner ⟨rfl, rfl, rfl⟩) (fun _ _ hk => hk) rfl (by simp)
        (by simp)⟩
  | fetchGatewayStatus pod =>
      have hboth : w'.allocator = w.allocator ∧ w'.published = w.published := by
        obtain ⟨-, rfl⟩ := Prod.mk.inj he
        cases c.gatewayStatus <;> exact ⟨rfl, rfl⟩
      exact hother rfl (by simp) (by simp) hboth.1 hboth.2
  | _ => exact hother rfl (by simp) (by simp) (hsame rfl).allocator (hsame rfl).published

end Steps

def isolationDiscipline : Discipline Op.Ans Relay Choice where
  exec := Relay.exec
  allowed := fun tr s => s.world.LeftoverHolds tr
  inv := fun s => IsolationInvariant s.world
  rely := fun s s' => s.world.Evolves s'.world ∧ s.world.NoNewOwner s'.world ∧
    s'.world.allocator = s.world.allocator
  goal := fun _ _ _ => True
  rely_refl := fun _ => ⟨World.Evolves.refl _, fun _ t ht hf hp => ⟨t, ht, hf, hp⟩, rfl⟩
  rely_trans := fun h h' => ⟨h.1.trans h'.1, h.2.1.trans h'.2.1, h'.2.2.trans h.2.2⟩

theorem initial_isolationInvariant (minPort maxPort : Int) :
    IsolationInvariant (World.initial (PortAllocator.new minPort maxPort)) where
  wf := World.initial_wf _
  allocator := PortAllocator.new_wf _ _
  owned := by simp [World.initial]
  holds := by simp [World.initial]
  current := by simp [World.initial]
  isolated := List.Pairwise.nil

theorem Relay.outside_isolated {e : Relay.Outside} {s s' : Relay} (hi : IsolationInvariant s.world)
    (h : s.outside e = some s') : IsolationInvariant s'.world ∧ isolationDiscipline.rely s s' := by
  cases e with
  | cluster e =>
      obtain ⟨w, hw, rfl⟩ := Option.map_eq_some_iff.mp h
      obtain ⟨hwf, hev⟩ := World.outside_evolves hi.wf hw
      have hsame := World.outside_sameProcess hw
      have hnew := World.outside_noNewOwner hi.wf hw
      exact ⟨hi.evolves hwf hev hnew hsame.allocator hsame.published, hev, hnew, hsame.allocator⟩
  | handle deny =>
      obtain ⟨u, -, rfl⟩ := Option.map_eq_some_iff.mp h
      exact ⟨hi, isolationDiscipline.rely_refl s⟩

theorem relayed_isolationInvariant (r : TunnelReconciler) (minPort maxPort : Int)
    {g : Config Op.Ans (Except String Result) NamespacedName Relay}
    (hg : (relayedOperator r).Reaches retriesBeforeReuse
      (Relay.initial (PortAllocator.new minPort maxPort)) g) : IsolationInvariant
        g.state.world := by
  refine (Machine.reaches_safe (M := relayedOperator r) (D := isolationDiscipline)
    (C := retriesBeforeReuse) (s := Relay.initial (PortAllocator.new minPort maxPort))
    rfl (fun _ _ h => h) (fun e s s' _ hi he => Relay.outside_isolated hi he)
    (fun k => nomatch k) (fun req s hi => ⟨hi, ?_⟩) (initial_isolationInvariant _ _) hg).1
  refine (reconcile_safe (D := isolationDiscipline) (w := Relay.world)
    (A := fun tr s => AllocationsHeld req tr s.world ∧ Retires req tr s.world)
    r req (fun {op c s ans s'} he => ⟨c, ?_⟩) (fun hi => hi.wf) (fun hr => hr.1)
    (fun h hr _ => ⟨h.1.keeps ?_, h.2.keeps hr.2.1 ?_⟩)
    (fun {tr op c s ans s'} hn hp hr h hi he ha => ?_)
    ⟨fun _ _ ha => (by cases ha), Retires.nil _ _⟩).mono fun _ _ _ _ => trivial
  · obtain ⟨h₁, rfl⟩ := Prod.mk.inj he
    exact Prod.ext h₁ rfl
  · rw [hr.2.2]
    exact fun _ _ hk => hk
  · rw [hr.2.2]
    exact fun _ _ hk => hk
  · have hw : World.exec op c s.world = (ans, s'.world) := by
      obtain ⟨h₁, rfl⟩ := Prod.mk.inj he
      exact Prod.ext h₁ rfl
    obtain ⟨hinv, hal, hret⟩ := isolation_step hn hp hr h.1 h.2 hi hw ha
    exact ⟨hinv, trivial, hal, hret⟩

theorem handleUpdate_deletes {deny : Deny} {u : TunnelUpdate} {m : TunnelMapping} (h : u.Deletes m)
    {port : Int} (hport : port ≠ m.forwarderPort) (p : UDPProxy) :
    (handleUpdate deny (some u) p).2.mappings.lookup port = p.mappings.lookup port := by
  obtain ⟨type, tunnel⟩ := u
  obtain ⟨rfl, rfl⟩ := h
  simp only [handleUpdate]
  split_ifs
  · rfl
  · rw [UDPProxy.removeMapping_lookup, if_neg hport]

/-- In every run in which no leftover Tunnel is reconciled while its port belongs to somebody
else, handling a DELETED update leaves alone the listener that serves another live Tunnel. -/
theorem deletion_spares_live_tunnels (r : TunnelReconciler) (minPort maxPort : Int)
    {g : Config Op.Ans (Except String Result) NamespacedName Relay}
    (hg : (relayedOperator r).Reaches retriesBeforeReuse
      (Relay.initial (PortAllocator.new minPort maxPort)) g)
    {u : TunnelUpdate} {m : TunnelMapping} (hu : g.state.world.published[g.state.handled]? = some u)
    (hm : u.Deletes m) {k : NamespacedName} {b : Tunnel}
    (hb : g.state.world.tunnels.lookup k = some b) (hl : b.Live) (hother : m.issuer ≠ b.uid)
    (hserves : g.state.Serves b.status.forwarderPort b.uid) (deny : Deny) {s' : Relay}
    (hs' : g.state.handle deny = some s') :
    s'.proxy.mappings.lookup b.status.forwarderPort =
      g.state.proxy.mappings.lookup b.status.forwarderPort := by
  have hinv := relayed_isolationInvariant r minPort maxPort hg
  obtain ⟨l, v, n, -, hv, hn, hport, huid, -⟩ := hserves
  rw [Relay.handle_eq hu, Option.some.injEq] at hs'
  subst hs'
  refine handleUpdate_deletes hm (fun heq => ?_) _
  -- the update that B is served by comes before the pending one
  obtain ⟨i, hi, rfl⟩ := List.mem_iff_getElem.mp hv
  obtain ⟨hlen, hget⟩ := List.getElem?_eq_some_iff.mp hu
  have hlt : i < g.state.handled := by
    have := hi
    rw [List.length_take] at this
    omega
  have hpair := List.pairwise_iff_getElem.mp hinv.isolated i g.state.handled (by omega) hlen hlt
  rw [List.getElem_take] at hn
  rw [hget] at hpair
  exact hpair n m hn hm (hport.trans heq) (fun he => hother (he.symm.trans huid)) k b hb huid.symm
    hl

def publishingReconciler : TunnelReconciler := ⟨true, true, ⟨"", ""⟩, "", "", ""⟩

abbrev RelayEvent := Event NamespacedName Choice Relay.Outside Empty

/-- A Tunnel is created and gets the first free port from `start` on. -/
def allot (k : NamespacedName) (start : ℕ) : List RelayEvent :=
  [.env (.cluster (.createTunnel k [] spec)), .start k] ++ calls 6 ++ [.call { start := start }] ++
    calls 3

/-- Its gateway comes up, and the Tunnel is published and Ready. -/
def announce (k : NamespacedName) : List RelayEvent :=
  [.env (.cluster (.setPodStatus (gatewayResourceKey k) (running "10.1.0.1"))), .start k] ++
    calls 3 ++
    [.call { gatewayStatus := .ok "key" }] ++ calls 4

/-- Its gateway exits, and `Reconcile` marks the Tunnel as Terminated. -/
def terminate (k : NamespacedName) : List RelayEvent :=
  [.env (.cluster (.setPodStatus (gatewayResourceKey k) ⟨.succeeded, "", []⟩)), .start k] ++ calls 5

/-- `handleTerminated` up to its last call. -/
def retire (k : NamespacedName) : List RelayEvent := .start k :: calls 7

def relayed : RelayEvent := .env (.handle fun _ => none)

def terminatedMapping : TunnelMapping := ⟨"a", "team", 1, ":51820", 1, "", "", 0⟩

def announcedMapping (port : Int) : TunnelMapping :=
  ⟨"b", "team", port, "10.1.0.1:51820", 2, "", "10.1.0.1", 1⟩

/-- The second Tunnel is live on the port and its listener is up. -/
def servedAt (port : Int) (s : Relay) : Bool :=
  ((s.world.tunnels.lookup otherKey).any fun b => b.Live ∧ b.uid = 1 ∧
    b.status.forwarderPort = port) &&
    decide (s.proxy.mappings.lookup port = some ⟨0, "10.1.0.1:51820", 2, "b", "team"⟩) &&
    decide (⟨.modified, some (announcedMapping port)⟩ ∈ s.world.published.take s.handled) &&
    decide (s.world.published[s.handled]? = some ⟨.deleted, some terminatedMapping⟩)

theorem servedAt_spec {port : Int} {s : Relay} (h : servedAt port s = true) :
    (∃ b, s.world.tunnels.lookup otherKey = some b ∧ b.Live ∧ b.uid = 1 ∧
      b.status.forwarderPort = port) ∧ s.Serves port 1 ∧
      s.world.published[s.handled]? = some ⟨.deleted, some terminatedMapping⟩ := by
  simp only [servedAt, Bool.and_eq_true, decide_eq_true_eq] at h
  obtain ⟨⟨⟨hb, hl⟩, hm⟩, hu⟩ := h
  obtain ⟨b, hb, hP⟩ := Option.any_eq_true _ _ |>.mp hb
  refine ⟨⟨b, hb, by simpa using hP⟩, ?_, hu⟩
  exact ⟨_, _, announcedMapping port, hl, hm, ⟨Or.inr rfl, rfl⟩, rfl, rfl, ⟨rfl, rfl⟩, rfl⟩

/-- The first read of a reconciliation finds no leftover Tunnel. -/
def readsNoLeftover (tr : Trace) (s : Relay) : Bool :=
  tr.length ≠ 1 || tr.all fun
    | ⟨.getTunnel k, _⟩ => !(s.world.tunnels.lookup k).any fun t => t.Leftover
    | _ => true

theorem readsNoLeftover_admitted {tr : Trace} {s : Relay} (h : readsNoLeftover tr s = true) :
    s.world.LeftoverHolds tr := by
  intro k a htr t ht hleft
  subst htr
  simp [readsNoLeftover, ht, hleft] at h

theorem deletion_spares_terminated : ∃ g b s',
    (relayedOperator publishingReconciler).Reaches retriesBeforeReuse
      (Relay.initial (PortAllocator.new 1 2)) g ∧
      g.state.world.tunnels.lookup otherKey = some b ∧ g.state.Serves b.status.forwarderPort b.uid ∧
      g.state.handle (fun _ => none) = some s' ∧
      s'.proxy.mappings.lookup b.status.forwarderPort =
        g.state.proxy.mappings.lookup b.status.forwarderPort := by
  obtain ⟨g, hg, hP⟩ := Machine.exists_reaches
    (M := relayedOperator publishingReconciler) (C := retriesBeforeReuse)
    (K := { call := readsNoLeftover })
    (s := Relay.initial (PortAllocator.new 1 2)) (fun _ _ _ => trivial) (fun k => k.elim)
    (fun _ _ h => readsNoLeftover_admitted h)
    (l := allot key 0 ++ allot otherKey 0 ++ announce otherKey ++ terminate key ++ retire key ++
      [relayed])
    (P := fun g => servedAt 2 g.state) (by rfl)
  obtain ⟨⟨b, hb, hl, huid, hport⟩, hserves, hu⟩ := servedAt_spec hP
  have hs := Relay.handle_eq hu fun _ => none
  rw [← hport, ← huid] at hserves
  refine ⟨g, b, _, hg, hb, hserves, hs, ?_⟩
  exact deletion_spares_live_tunnels publishingReconciler 1 2 hg hu ⟨rfl, rfl⟩ hb hl
    (by rw [huid]; decide) hserves (fun _ => none) hs

/-- The final `Delete` of a Terminated Tunnel fails, another Tunnel gets the released port and
becomes Ready, and the retry's DELETED update removes its listener. -/
theorem deletion_takes_down_other_tunnel : ∃ g b s',
    (relayedOperator publishingReconciler).Reaches {} (Relay.initial (PortAllocator.new 1 1)) g ∧
      g.state.world.tunnels.lookup otherKey = some b ∧ b.Live ∧ b.status.forwarderPort = 1 ∧
      g.state.Serves 1 b.uid ∧ terminatedMapping.issuer ≠ b.uid ∧
      g.state.world.published[g.state.handled]? = some ⟨.deleted, some terminatedMapping⟩ ∧
      g.state.handle (fun _ => none) = some s' ∧ s'.proxy.mappings.lookup 1 = none := by
  obtain ⟨g, hg, hP⟩ := Machine.exists_free_reaches
    (M := relayedOperator publishingReconciler) (s := Relay.initial (PortAllocator.new 1 1))
    (l := allot key 0 ++ terminate key ++ retire key ++ [.call { failure := some "timeout" }] ++
      calls 1 ++
      allot otherKey 0 ++ announce otherKey ++ [relayed, relayed] ++ retire key)
    (P := fun g => servedAt 1 g.state) (by rfl)
  obtain ⟨⟨b, hb, hl, huid, hport⟩, hserves, hu⟩ := servedAt_spec hP
  refine ⟨g, b, _, hg, hb, hl, hport, huid ▸ hserves, by rw [huid]; decide, hu,
    Relay.handle_eq hu _, ?_⟩
  simp [handleUpdate, terminatedMapping]

end TunnelOperator
