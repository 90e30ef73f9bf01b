import TunnelOperator.Finalizers

/-!
# No gateway resource outlives its Tunnel

A gateway Pod or NetworkPolicy names the Tunnel it was created for as its owner. As long as
its deletion has not been accepted, this very Tunnel is stored with the operator's finalizer:
`Reconcile` creates only for a Tunnel that has it and takes it off only after both deletions,
across failures, restarts and deletions by users. And while the finalizer is on the committed
object, `Reconcile` neither releases the port nor publishes the deletion.
-/

namespace TunnelOperator
open Interaction TunnelReconciler Scenario

/-- The cluster together with the gateway Pods whose deletion the API server has confirmed and
that may linger. -/
structure Tracked where
  world : World
  accepted : List NamespacedName

namespace Tracked

/-- A Pod created under a key is not the one whose deletion was accepted there before. -/
def recordDeletion (w : World) (accepted : List NamespacedName) :
    (op : Op) → op.Ans → List NamespacedName
  | .deletePod k, .ok () => k :: accepted
  | .createPod pod, _ =>
      if (w.pods.lookup pod.key).isNone then accepted.filter (· ≠ pod.key) else accepted
  | _, _ => accepted

def exec (op : Op) (c : Choice) (s : Tracked) : op.Ans × Tracked :=
  let a := World.exec op c s.world
  (a.1, ⟨a.2, recordDeletion s.world s.accepted op a.1⟩)

end Tracked

def trackedOperator (r : TunnelReconciler) (minPort maxPort : Int) :
    Machine Op.Ans (Except String Result) NamespacedName Tracked Choice World.Outside
      (Option (List Tunnel)) where
  exec := Tracked.exec
  program := r.reconcile
  onStart := fun _ s => s
  env := fun e s => (s.world.outside e).map fun w => { s with world := w }
  crash := fun listed s =>
    (s.world.restart minPort maxPort listed).map fun w => { s with world := w }

/-- Every gateway resource whose deletion has not been accepted has its Tunnel in the store,
with the finalizer. -/
structure GatewayOwned (s : Tracked) : Prop where
  wf : s.world.WF
  pod : ∀ {k pod}, s.world.pods.lookup k = some pod → k ∉ s.accepted →
    ∃ key, k = gatewayResourceKey key ∧ s.world.Finalized key pod.owner
  policy : ∀ {k p}, s.world.policies.lookup k = some p →
    p.key = k ∧ ∃ key, k = gatewayResourceKey key ∧ s.world.Finalized key p.owner

/-- The reconciliation found the Tunnel without the finalizer, or has taken it off. -/
structure FinalizerGone (req : NamespacedName) (tr : Trace) (t₀ : Tunnel) : Prop where
  retiring : Retiring req tr t₀
  gone : finalizerName ∉ t₀.finalizers ∨
    ∃ t, Answered tr (.updateTunnel (removeFinalizer t₀)) (.ok t)

/-- What a running reconciliation knows about the gateway resources. -/
structure Retains (req : NamespacedName) (tr : Trace) (s : Tracked) : Prop where
  owned : GatewayOwned s
  reads : Reads req tr s.world
  existing : ∀ {k p}, Answered tr (.getNetworkPolicy k) (.ok p) → p.key = k
  podGone : ∀ {t₀ k a}, Retiring req tr t₀ → Answered tr (.deletePod k) a → Gone a →
    k ∈ s.accepted ∨ s.world.pods.lookup k = none
  policyGone : ∀ {t₀ k a}, Retiring req tr t₀ → Answered tr (.deleteNetworkPolicy k) a → Gone a →
    s.world.policies.lookup k = none
  unfinalized : ∀ {t₀}, FinalizerGone req tr t₀ →
    t₀.uid < s.world.nextUid ∧ ¬ s.world.Finalized t₀.key t₀.uid

section Operations

variable {w w' : World}

theorem Tracked.recordDeletion_keeps (w : World) {accepted : List NamespacedName}
    {k : NamespacedName} (op : Op) (ans : op.Ans) (hk : k ∈ accepted)
    (hop : ∀ pod, op = .createPod pod → w.pods.lookup pod.key = none → k ≠ pod.key) :
    k ∈ Tracked.recordDeletion w accepted op ans := by
  cases op with
  | deletePod key =>
      rcases ans with e | ⟨⟩
      · exact hk
      · exact List.mem_cons_of_mem _ hk
  | createPod pod =>
      simp only [Tracked.recordDeletion]
      split_ifs with hnone
      · exact List.mem_filter.mpr
          ⟨hk, by simpa using hop pod rfl (Option.isNone_iff_eq_none.mp hnone)⟩
      · exact hk
  | _ => exact hk

theorem Tracked.deletePod_gone {s s' : Tracked} {k : NamespacedName} {c : Choice}
    {ans : Except ApiError Unit} (he : Tracked.exec (.deletePod k) c s = (ans, s'))
    (hg : Gone ans) :
    k ∈ s'.accepted ∨ s'.world.pods.lookup k = none := by
  obtain ⟨hans, rfl⟩ := Prod.mk.inj he
  rcases hg with rfl | rfl
  · refine Or.inl ?_
    simp only [hans]
    exact List.mem_cons_self
  · refine Or.inr ?_
    have hdelete : s.world.deletePod k c.podLingers =
        (.error .notFound, (World.exec (.deletePod k) c s.world).2) :=
      World.writeResult_eq (Prod.ext hans rfl) nofun
    unfold World.deletePod at hdelete
    split at hdelete
    · rename_i hnone
      obtain ⟨-, hsame⟩ := Prod.mk.inj hdelete
      rw [← hsame]
      exact hnone
    · cases (Prod.mk.inj hdelete).1

theorem World.deleteNetworkPolicy_gone {k : NamespacedName} {c : Choice}
    {ans : Except ApiError Unit} (he : World.exec (.deleteNetworkPolicy k) c w = (ans, w'))
    (hg : Gone ans) :
    w'.policies.lookup k = none := by
  have hne : ∀ m, ans ≠ .error (.other m) := by
    rintro m rfl
    rcases hg with hg | hg <;> cases hg
  have hdelete : w.deleteNetworkPolicy k = (ans, w') := World.writeResult_eq he hne
  unfold World.deleteNetworkPolicy at hdelete
  split at hdelete
  · rename_i hnone
    obtain ⟨-, rfl⟩ := Prod.mk.inj hdelete
    exact hnone
  · obtain ⟨-, rfl⟩ := Prod.mk.inj hdelete
    exact (Table.lookup_erase_eq _ _ _).trans (if_pos rfl)

theorem World.exec_pods_none {op : Op} {c : Choice} {k : NamespacedName}
    (hop : ∀ pod, op ≠ .createPod pod) (h : w.pods.lookup k = none) :
    (World.exec op c w).2.pods.lookup k = none := by
  rw [Option.eq_none_iff_forall_ne_some]
  intro pod hpod
  rcases World.exec_pod_found hpod with hold | ⟨x, hx, -⟩
  · rw [h] at hold
    cases hold
  · exact hop x hx

theorem World.exec_policies_none {op : Op} {c : Choice} {k : NamespacedName}
    (hop : ∀ p, op ≠ .createNetworkPolicy p ∧ op ≠ .updateNetworkPolicy p)
    (h : w.policies.lookup k = none) : (World.exec op c w).2.policies.lookup k = none := by
  rw [Option.eq_none_iff_forall_ne_some]
  intro p hp
  rcases World.exec_policy_found hp with hold | ⟨hcase | hcase, -⟩
  · rw [h] at hold
    cases hold
  · exact (hop p).1 hcase
  · exact (hop p).2 hcase

theorem World.outside_gateway {e : World.Outside} (h : w.outside e = some w') :
    (∀ {k pod}, w'.pods.lookup k = some pod →
      ∃ pod₀, w.pods.lookup k = some pod₀ ∧ pod.owner = pod₀.owner) ∧ w'.policies = w.policies := by
  rcases World.outside_cases h with ⟨key, finalizers, spec, -, hc⟩ | ⟨key, change, rfl, -⟩ |
    ⟨pods, rfl, hpods⟩
  · obtain ⟨-, rfl⟩ := World.createTunnel_eq hc
    exact ⟨fun {k pod} hk => ⟨pod, hk, rfl⟩, rfl⟩
  · refine ⟨fun {k pod} hk => ⟨pod, World.writeTunnel_pods _ _ _ ▸ hk, rfl⟩, ?_⟩
    exact World.writeTunnel_state (P := fun w' => w'.policies = w.policies) rfl fun _ t _ _ =>
      World.storeTunnel_policies t w
  · exact ⟨hpods, rfl⟩

end Operations

section Outside

variable {req : NamespacedName} {tr : Trace} {s : Tracked} {w' : World}

theorem GatewayOwned.outside (h : GatewayOwned s) {e : World.Outside}
    (he : s.world.outside e = some w') :
    GatewayOwned { s with world := w' } := by
  obtain ⟨hwf, hev⟩ := World.outside_evolves h.wf he
  obtain ⟨hpods, hpolicies⟩ := World.outside_gateway he
  refine ⟨hwf, fun hk ha => ?_, fun hk => ?_⟩
  · obtain ⟨pod₀, hpod₀, howner⟩ := hpods hk
    obtain ⟨key, hkey, hf⟩ := h.pod hpod₀ ha
    exact ⟨key, hkey, howner ▸ hev.finalized hf⟩
  · change w'.policies.lookup _ = _ at hk
    rw [hpolicies] at hk
    obtain ⟨hkey, key, hkey', hf⟩ := h.policy hk
    exact ⟨hkey, key, hkey', hev.finalized hf⟩

theorem Retains.outside (h : Retains req tr s) {e : World.Outside}
    (he : s.world.outside e = some w') :
    Retains req tr { s with world := w' } := by
  obtain ⟨-, hev⟩ := World.outside_evolves h.owned.wf he
  obtain ⟨hpods, hpolicies⟩ := World.outside_gateway he
  refine ⟨h.owned.outside he, h.reads.evolves hev, h.existing, fun hret ha hg => ?_,
    fun hret ha hg => ?_, fun hgone => ?_⟩
  · refine (h.podGone hret ha hg).imp_right fun hnone => Option.eq_none_iff_forall_ne_some.mpr ?_
    intro pod hpod
    obtain ⟨pod₀, hpod₀, -⟩ := hpods hpod
    rw [hnone] at hpod₀
    cases hpod₀
  · change w'.policies.lookup _ = none
    rw [hpolicies]
    exact h.policyGone hret ha hg
  · obtain ⟨huid, hnot⟩ := h.unfinalized hgone
    exact ⟨lt_of_lt_of_le huid hev.nextUid,
      fun hf => hnot (World.finalized_of_outside h.owned.wf he huid hf)⟩

theorem GatewayOwned.restart (h : GatewayOwned s) {minPort maxPort : Int}
    {listed : Option (List Tunnel)} (he : s.world.restart minPort maxPort listed = some w') :
    GatewayOwned { s with world := w' } := by
  have hsame := (World.restart_sameTunnels he).1
  have hgateway : w'.pods = s.world.pods ∧ w'.policies = s.world.policies := by
    unfold World.restart at he
    split at he
    · cases he
      exact ⟨rfl, rfl⟩
    · split_ifs at he
      cases he
      exact ⟨rfl, rfl⟩
  refine ⟨hsame.wf h.wf, fun hk ha => ?_, fun hk => ?_⟩
  · change w'.pods.lookup _ = _ at hk
    rw [hgateway.1] at hk
    obtain ⟨key, hkey, hf⟩ := h.pod hk ha
    exact ⟨key, hkey, hsame.evolves.finalized hf⟩
  · change w'.policies.lookup _ = _ at hk
    rw [hgateway.2] at hk
    obtain ⟨hkey, key, hkey', hf⟩ := h.policy hk
    exact ⟨hkey, key, hkey', hsame.evolves.finalized hf⟩

end Outside

section Reconcile

variable {r : TunnelReconciler} {req : NamespacedName} {tr : Trace} {s s' : Tracked}

theorem Tracked.exec_world {op : Op} {c : Choice} {ans : op.Ans}
    (he : Tracked.exec op c s = (ans, s')) : World.exec op c s.world = (ans, s'.world) ∧
      s'.accepted = recordDeletion s.world s.accepted op ans := by
  obtain ⟨hans, rfl⟩ := Prod.mk.inj he
  exact ⟨Prod.ext hans rfl, by rw [← hans]⟩

theorem GatewayOwned.removal (h : GatewayOwned s) {t₀ : Tunnel} {c : Choice}
    {ans : Except ApiError Tunnel} (hs : Seen t₀ s.world)
    (hpod : gatewayResourceKey t₀.key ∈ s.accepted ∨
      s.world.pods.lookup (gatewayResourceKey t₀.key) = none)
    (hpolicy : s.world.policies.lookup (gatewayResourceKey t₀.key) = none)
    (he : Tracked.exec (.updateTunnel (removeFinalizer t₀)) c s = (ans, s')) : GatewayOwned s' := by
  obtain ⟨hw, hacc⟩ := Tracked.exec_world he
  have hwf : s'.world.WF := by
    simpa [hw] using World.exec_wf h.wf (.updateTunnel (removeFinalizer t₀)) c
  have hkept : s'.world.pods = s.world.pods ∧ s'.world.policies = s.world.policies ∧
      ∀ {key uid}, s.world.Finalized key uid → key ≠ t₀.key → s'.world.Finalized key uid := by
    rcases exec_updateTunnel hs hw with ⟨hsame, -⟩ | ⟨-, hstore, -⟩
    · rw [hsame]
      exact ⟨rfl, rfl, fun hf _ => hf⟩
    · rw [hstore]
      exact ⟨World.storeTunnel_pods _ _, World.storeTunnel_policies _ _,
        fun hf hne => World.storeTunnel_finalized_other hne hf⟩
  obtain ⟨hpods, hpolicies, hfinal⟩ := hkept
  refine ⟨hwf, fun {k pod} hk ha => ?_, fun {k p} hk => ?_⟩
  · rw [hpods] at hk
    rw [hacc] at ha
    obtain ⟨key, rfl, hf⟩ := h.pod hk ha
    refine ⟨key, rfl, hfinal hf ?_⟩
    rintro rfl
    rcases hpod with hmem | hnone
    · exact ha hmem
    · rw [hnone] at hk
      cases hk
  · rw [hpolicies] at hk
    obtain ⟨hkey, key, rfl, hf⟩ := h.policy hk
    refine ⟨hkey, key, rfl, hfinal hf ?_⟩
    rintro rfl
    rw [hpolicy] at hk
    cases hk

theorem Retains.policyWritten (h : Retains req tr s) {p : NetworkPolicy}
    (hn : Next r req tr (.createNetworkPolicy p) ∨ Next r req tr (.updateNetworkPolicy p)) :
    ∃ t₀ base, Active req tr t₀ base ∧ p.key = gatewayResourceKey base.key ∧
      p.owner = base.uid := by
  rcases hn with ⟨t₀, base, hact, rfl⟩ | ⟨t₀, base, existing, hact, hans, rfl⟩
  · exact ⟨t₀, base, hact, rfl, rfl⟩
  · have hkey : existing.key = gatewayResourceKey base.key := h.existing hans
    exact ⟨t₀, base, hact, hkey, rfl⟩

theorem Retains.ownedCall (h : Retains req tr s) {op : Op} (hn : Next r req tr op)
    (hu : op.isLocal = false → Unpatched tr) {c : Choice} {ans : op.Ans}
    (he : Tracked.exec op c s = (ans, s')) : GatewayOwned s' := by
  obtain ⟨hw, hacc⟩ := Tracked.exec_world he
  have hworld : (World.exec op c s.world).2 = s'.world := congrArg Prod.snd hw
  have hwf : s'.world.WF := by simpa [hw] using World.exec_wf h.owned.wf op c
  cases hd : op.dropsFinalizer with
  | true =>
      obtain ⟨t₀, hret, -, ⟨⟨a, ha, hga⟩, b, hb, hgb⟩, rfl⟩ := hn.drops hd
      exact h.owned.removal (h.reads.seen (hu rfl) hret.read) (h.podGone hret ha hga)
        (h.policyGone hret hb hgb) he
  | false =>
      have hfinal : ∀ {key uid}, s.world.Finalized key uid → s'.world.Finalized key uid := by
        intro key uid hf
        simpa [hw] using World.exec_finalized h.owned.wf hd c hf
      have hactive : ∀ {t₀ base}, op.isLocal = false → Active req tr t₀ base →
          s'.world.Finalized base.key base.uid :=
        fun hl hact => hfinal (h.reads.active_held (hu hl) hact).finalized
      refine ⟨hwf, fun {k pod} hk ha => ?_, fun {k p} hk => ?_⟩
      · -- a Pod that was there, or the one that has just been created
        have hold : s.world.pods.lookup k = some pod →
            ∃ key, k = gatewayResourceKey key ∧ s'.world.Finalized key pod.owner := by
          intro hk
          obtain ⟨key, hkey, hf⟩ := h.owned.pod hk fun hmem => ha <| by
            rw [hacc]
            refine Tracked.recordDeletion_keeps _ op ans hmem fun pod' _ hnone heq => ?_
            rw [heq, hnone] at hk
            cases hk
          exact ⟨key, hkey, hfinal hf⟩
        rw [← hworld] at hk
        rcases World.exec_pod_found hk with hk | ⟨pod', rfl, hkey, rfl⟩
        · exact hold hk
        · obtain ⟨t₀, base, hact, rfl, -⟩ := hn
          exact ⟨base.key, hkey, hactive rfl hact⟩
      · have hold : s.world.policies.lookup k = some p →
            p.key = k ∧ ∃ key, k = gatewayResourceKey key ∧ s'.world.Finalized key p.owner := by
          intro hk
          obtain ⟨hkey, key, hkey', hf⟩ := h.owned.policy hk
          exact ⟨hkey, key, hkey', hfinal hf⟩
        rw [← hworld] at hk
        rcases World.exec_policy_found hk with hk | ⟨hcase, hkey⟩
        · exact hold hk
        · have hwritten : Next r req tr (.createNetworkPolicy p) ∨
              Next r req tr (.updateNetworkPolicy p) := by
            rcases hcase with rfl | rfl
            · exact Or.inl hn
            · exact Or.inr hn
          obtain ⟨t₀, base, hact, hpkey, howner⟩ := h.policyWritten hwritten
          have hlocal : op.isLocal = false := by rcases hcase with rfl | rfl <;> rfl
          exact ⟨hkey.symm, base.key, hkey.trans hpkey, howner ▸ hactive hlocal hact⟩

theorem Retains.not_active (h : Retains req tr s) {t₀ t₁ base : Tunnel} (hret : Retiring req tr t₀)
    (hact : Active req tr t₁ base) : False := by
  obtain rfl : t₁ = t₀ := h.reads.unique hret.read hact.read
  rcases hret.retired with hd | hp
  · rw [hact.notDeleting] at hd
    cases hd
  · exact hact.notTerminated hp

theorem TunnelReconciler.Retiring.old {t₀ : Tunnel} {op : Op} {a : op.Ans}
    (h : Retiring req (tr ++ [⟨op, a⟩]) t₀) (hop : op ≠ .getTunnel req) : Retiring req tr t₀ :=
  ⟨Reads.old hop h.read, h.retired⟩

theorem TunnelReconciler.Next.ne_getTunnel {op op' : Op} {a : op'.Ans} (hn : Next r req tr op)
    (ha : Answered tr op' a) : op ≠ .getTunnel req := by
  rintro rfl
  rw [hn.2] at ha
  cases ha

theorem Retains.podGone_call (h : Retains req tr s) {op : Op} (hn : Next r req tr op) {c : Choice}
    {ans : op.Ans} (he : Tracked.exec op c s = (ans, s')) {t₀ : Tunnel} {k : NamespacedName}
    {a : Except ApiError Unit} (hret : Retiring req (tr ++ [⟨op, ans⟩]) t₀)
    (ha : Answered (tr ++ [⟨op, ans⟩]) (.deletePod k) a) (hg : Gone a) :
    k ∈ s'.accepted ∨ s'.world.pods.lookup k = none := by
  obtain ⟨hw, hacc⟩ := Tracked.exec_world he
  rcases answered_append ha with ha | ⟨rfl, rfl⟩
  · have hret' := hret.old (hn.ne_getTunnel ha)
    have hcreate : ∀ pod, op ≠ .createPod pod := by
      rintro pod rfl
      obtain ⟨t₁, base, hact, -⟩ := hn
      exact h.not_active hret' hact
    refine (h.podGone hret' ha hg).imp (fun hmem => ?_) fun hnone => ?_
    · rw [hacc]
      exact Tracked.recordDeletion_keeps _ op ans hmem fun pod hop _ => absurd hop (hcreate pod)
    · simpa [hw] using World.exec_pods_none (c := c) hcreate hnone
  · exact Tracked.deletePod_gone he hg

theorem Retains.policyGone_call (h : Retains req tr s) {op : Op} (hn : Next r req tr op)
    {c : Choice} {ans : op.Ans} (he : Tracked.exec op c s = (ans, s')) {t₀ : Tunnel}
    {k : NamespacedName} {a : Except ApiError Unit} (hret : Retiring req (tr ++ [⟨op, ans⟩]) t₀)
    (ha : Answered (tr ++ [⟨op, ans⟩]) (.deleteNetworkPolicy k) a) (hg : Gone a) :
    s'.world.policies.lookup k = none := by
  obtain ⟨hw, -⟩ := Tracked.exec_world he
  rcases answered_append ha with ha | ⟨rfl, rfl⟩
  · have hret' := hret.old (hn.ne_getTunnel ha)
    have hwrite : ∀ p, op ≠ .createNetworkPolicy p ∧ op ≠ .updateNetworkPolicy p := by
      refine fun p => ⟨?_, ?_⟩ <;> rintro rfl
      · obtain ⟨t₁, base, hact, -⟩ := hn
        exact h.not_active hret' hact
      · obtain ⟨t₁, base, existing, hact, -⟩ := hn
        exact h.not_active hret' hact
    simpa [hw] using World.exec_policies_none (c := c) hwrite (h.policyGone hret' ha hg)
  · exact World.deleteNetworkPolicy_gone hw hg

theorem storeTunnel_unfinalized (t₀ : Tunnel) (w : World) :
    ¬ (w.storeTunnel (removeFinalizer t₀)).Finalized t₀.key t₀.uid := by
  rintro ⟨t, ht, -, hf⟩
  have hkey : t₀.key = (removeFinalizer t₀).key := rfl
  rw [World.storeTunnel_lookup, if_pos hkey] at ht
  split_ifs at ht
  cases ht
  exact removeFinalizer_drops t₀ hf

theorem Retains.unfinalized_call (h : Retains req tr s) {op : Op} (hn : Next r req tr op)
    (hu : op.isLocal = false → Unpatched tr) {c : Choice} {ans : op.Ans}
    (he : Tracked.exec op c s = (ans, s')) {t₀ : Tunnel}
    (hgone : FinalizerGone req (tr ++ [⟨op, ans⟩]) t₀) :
    t₀.uid < s'.world.nextUid ∧ ¬ s'.world.Finalized t₀.key t₀.uid := by
  obtain ⟨hw, -⟩ := Tracked.exec_world he
  by_cases hget : op = .getTunnel req
  · subst hget
    -- the Tunnel has just been read
    obtain ⟨-, rfl⟩ := hn
    obtain ⟨hans, hsame⟩ := Prod.mk.inj hw
    have hans' : ans = .ok t₀ := by
      rcases answered_append hgone.retiring.read with ha | ⟨-, ha⟩
      · cases ha
      · exact (eq_of_heq ha).symm
    have hl : s'.world.tunnels.lookup req = some t₀ :=
      hsame ▸ World.getResult_ok (hans.trans hans')
    have hwf : s'.world.WF := hsame ▸ h.owned.wf
    refine ⟨hwf.uid hl, ?_⟩
    rintro ⟨t, ht, -, hf⟩
    rw [hwf.key hl, hl] at ht
    cases ht
    rcases hgone.gone with hnot | ⟨t, ha⟩
    · exact hnot hf
    · cases Reads.old (by simp) ha
  · have hret := hgone.retiring.old hget
    have hpatch : op.isPatch = false := by
      cases op with
      | patchStatus x base =>
          obtain ⟨t₁, pod, allocated, changed, m, e, hc, -⟩ := hn
          exact (h.not_active hret hc.active).elim
      | _ => rfl
    have hnext : s.world.nextUid ≤ s'.world.nextUid := by
      simpa [hw] using (World.exec_follows h.owned.wf hpatch c).nextUid
    have hadds : op.addsFinalizer = false := by
      cases ha : op.addsFinalizer with
      | false => rfl
      | true =>
          obtain ⟨t₁, hread, hdel, hterm⟩ := hn.adds ha
          obtain rfl : t₁ = t₀ := h.reads.unique hret.read hread
          rcases hret.retired with hd | hp
          · rw [hdel] at hd
            cases hd
          · exact absurd hp hterm
    have hold : FinalizerGone req tr t₀ →
        t₀.uid < s'.world.nextUid ∧ ¬ s'.world.Finalized t₀.key t₀.uid := by
      intro hgone
      obtain ⟨huid, hnot⟩ := h.unfinalized hgone
      refine ⟨lt_of_lt_of_le huid hnext, fun hf => hnot ?_⟩
      refine World.finalized_of_exec h.owned.wf hadds (c := c) ?_
      rw [hw]
      exact hf
    rcases hgone.gone with hnot | ⟨t, ha⟩
    · exact hold ⟨hret, Or.inl hnot⟩
    · rcases answered_append ha with ha | ⟨rfl, rfl⟩
      · exact hold ⟨hret, Or.inr ⟨t, ha⟩⟩
      · have hseen := h.reads.seen (hu rfl) hret.read
        refine ⟨lt_of_lt_of_le hseen.uid hnext, ?_⟩
        rcases exec_updateTunnel hseen hw with ⟨-, e, he⟩ | ⟨-, hstore, -⟩
        · cases he
        · rw [hstore]
          exact storeTunnel_unfinalized t₀ _

theorem Retains.call (h : Retains req tr s) {op : Op} (hn : Next r req tr op)
    (hp : PatchesOnce r tr op) {c : Choice} {ans : op.Ans} (he : Tracked.exec op c s = (ans, s')) :
    Retains req (tr ++ [⟨op, ans⟩]) s' := by
  have hu : op.isLocal = false → Unpatched tr := by
    intro hl
    refine hp.unpatched fun u hop => ?_
    rw [hop] at hl
    cases hl
  obtain ⟨hw, -⟩ := Tracked.exec_world he
  refine ⟨h.ownedCall hn hu he, h.reads.step h.owned.wf ⟨hn, hp⟩ hw, fun {k p} ha => ?_,
    h.podGone_call hn he, h.policyGone_call hn he, h.unfinalized_call hn hu he⟩
  rcases answered_append ha with ha | ⟨rfl, rfl⟩
  · exact h.existing ha
  · exact (h.owned.policy (World.getResult_ok (congrArg Prod.fst hw))).1

end Reconcile

/-- The call that releases a port or publishes a deletion does so for the Tunnel that was read,
whose committed object does not carry the finalizer. -/
def RetiresUnfinalized (th : Thread Op.Ans (Except String Result) NamespacedName) (w : World) :
    Prop :=
  ∀ op next, th.program = .call op next →
    (∀ key, op = .release key → ∃ t, Answered th.trace (.getTunnel th.request) (.ok t) ∧
      key = tunnelKey t.key ∧ ¬ w.Finalized t.key t.uid) ∧
    ∀ u, op = .notifyUpdate u → u.type = .deleted →
      ∃ t m, Answered th.trace (.getTunnel th.request) (.ok t) ∧ u.tunnel = some m ∧
        m.issuer = t.uid ∧ ¬ w.Finalized t.key t.uid

theorem TunnelReconciler.Dropped.finalizerGone {req : NamespacedName} {tr : Trace} {t₀ t : Tunnel}
    (h : Dropped req tr t₀ t) : FinalizerGone req tr t₀ :=
  ⟨h.retiring, h.dropped.imp (fun hd => hd.1) fun hd => ⟨t, hd.2.2⟩⟩

theorem Retains.retiresUnfinalized {r : TunnelReconciler} {s : Tracked}
    {th : Thread Op.Ans (Except String Result) NamespacedName} (h : Retains th.request th.trace s)
    {post : Except String Result → Trace → Prop}
    (hp : th.program.Traces (fun tr op => Next r th.request tr op ∧
      PatchesOnce r tr op) post th.trace) :
    RetiresUnfinalized th s.world := by
  intro op next hprog
  rw [hprog] at hp
  have hn := hp.1.1
  refine ⟨fun key hop => ?_, fun u hop hdel => ?_⟩ <;> subst hop
  · obtain ⟨t₀, t, hd, -, rfl⟩ := hn
    have hkey : t.key = t₀.key := by rw [h.reads.dropped_eq hd]
    exact ⟨t₀, hd.retiring.read, by rw [hkey], (h.unfinalized hd.finalizerGone).2⟩
  · rcases hn with ⟨t₀, t, hd, -, -, -, hnot, -⟩ |
      ⟨t₀, base, pod, allocated, changed, m, e, t, -, -, -, hty⟩
    · have huid : t.uid = t₀.uid := by rw [h.reads.dropped_eq hd]
      exact ⟨t₀, _, hd.retiring.read, hnot.mapping, huid, (h.unfinalized hd.finalizerGone).2⟩
    · rcases hty with ⟨-, hty⟩ | ⟨hty, -⟩ <;> rw [hdel] at hty
      · split_ifs at hty
      · cases hty

theorem GatewayOwned.retains {s : Tracked} (h : GatewayOwned s) (req : NamespacedName) :
    Retains req [] s where
  owned := h
  reads := Reads.nil req _
  existing := fun ha => by cases ha
  podGone := fun _ ha => by cases ha
  policyGone := fun _ ha => by cases ha
  unfinalized := fun hgone => by cases hgone.retiring.read

theorem initial_gatewayOwned (a : PortAllocator) : GatewayOwned ⟨World.initial a, []⟩ where
  wf := World.initial_wf _
  pod := by simp [World.initial]
  policy := by simp [World.initial]

/-- In every run, with failures and restarts anywhere, each gateway resource whose deletion has
not been accepted has its Tunnel in the store with the finalizer, and a port is released or a
deletion published only for a Tunnel whose committed object does not carry it. -/
theorem gateway_resources_owned (r : TunnelReconciler) (minPort maxPort : Int) (a : PortAllocator)
    {g : Config Op.Ans (Except String Result) NamespacedName Tracked}
    (hg : (trackedOperator r minPort maxPort).Reaches {} ⟨World.initial a, []⟩ g) :
    GatewayOwned g.state ∧ ∀ th, g.thread = some th → RetiresUnfinalized th g.state.world := by
  have hrun := Machine.reaches_between (M := trackedOperator r minPort maxPort)
    (C := {}) (I := GatewayOwned) (A := Retains) (reconcile_logic r)
    (fun e s s' _ he => ?_) (fun listed s s' _ he => ?_)
    (fun req s h => h.retains req)
    (fun req tr op c s ans s' hn h he _ => h.call hn.1 hn.2 he)
    (fun req x tr s _ h => h.owned) (initial_gatewayOwned a) hg
  · refine ⟨?_, fun th hth => (hrun.2 th hth).1.retiresUnfinalized (hrun.2 th hth).2⟩
    cases hth : g.thread with
    | none => exact hrun.1 hth
    | some th => exact (hrun.2 th hth).1.owned
  · obtain ⟨w, hw, rfl⟩ := Option.map_eq_some_iff.mp he
    exact ⟨fun h => h.outside hw, fun req tr h => h.outside hw⟩
  · obtain ⟨w, hw, rfl⟩ := Option.map_eq_some_iff.mp he
    exact ⟨fun h => h.restart hw, fun req tr h => h.owned.restart hw⟩

/-- The key that the running reconciliation is about to release. -/
def releasing (g : Config Op.Ans (Except String Result) NamespacedName Tracked) : Option String :=
  match g.thread with
  | some ⟨_, .call (.release key) _, _⟩ => some key
  | _ => none

theorem releasing_eq_some {g : Config Op.Ans (Except String Result) NamespacedName Tracked}
    {key : String} (h : releasing g = some key) :
    ∃ th next, g.thread = some th ∧ th.program = .call (.release key) next := by
  unfold releasing at h
  split at h
  · rename_i req key' next tr hth
    cases h
    exact ⟨_, next, hth, rfl⟩
  · cases h

abbrev TrackedEvent := Event NamespacedName Choice World.Outside (Option (List Tunnel))

def provisioned : List TrackedEvent :=
  let create (k : NamespacedName) : List TrackedEvent :=
    .env (.createTunnel k [] spec) :: .start k :: calls 10
  create key ++ create otherKey

/-- The first one is deleted. The operator restarts after the deletion of its Pod, which
lingers, and gets as far as to take the finalizer off. -/
def retiredAcrossRestart : List TrackedEvent :=
  .env (.deleteTunnel key) :: .start key :: .call {} :: .call { podLingers := true } ::
    .crash none :: .start key :: calls 4

/-- One Tunnel is retired across a restart, with its Pod lingering, while another one runs. -/
theorem gateway_resources_owned_retiring : ∃ g th next pod,
    (trackedOperator provisioningReconciler 1 2).Reaches {}
      ⟨World.initial (PortAllocator.new 1 2), []⟩ g ∧
      g.thread = some th ∧ th.program = .call (.release (tunnelKey key)) next ∧
      (∃ t : Tunnel, tunnelKey key = tunnelKey t.key ∧ ¬ g.state.world.Finalized t.key t.uid) ∧
      g.state.world.pods.lookup (gatewayResourceKey otherKey) = some pod ∧
      ∃ k, gatewayResourceKey otherKey = gatewayResourceKey k ∧
        g.state.world.Finalized k pod.owner := by
  obtain ⟨g, hg, hP⟩ := Machine.exists_free_reaches
    (M := trackedOperator provisioningReconciler 1 2)
    (s := ⟨World.initial (PortAllocator.new 1 2), []⟩)
    (l := provisioned ++ retiredAcrossRestart)
    (P := fun g => decide (releasing g = some (tunnelKey key)) &&
      ((g.state.world.pods.lookup (gatewayResourceKey otherKey)).isSome &&
        decide (gatewayResourceKey otherKey ∉ g.state.accepted))) (by rfl)
  simp only [Bool.and_eq_true, decide_eq_true_eq] at hP
  obtain ⟨th, next, hth, hprog⟩ := releasing_eq_some hP.1
  obtain ⟨pod, hpod⟩ := Option.isSome_iff_exists.mp hP.2.1
  obtain ⟨howned, hretires⟩ := gateway_resources_owned provisioningReconciler 1 2 _ hg
  obtain ⟨t, -, hkey, hnot⟩ := (hretires th hth _ next hprog).1 _ rfl
  exact ⟨g, th, next, pod, hg, hth, hprog, ⟨t, hkey, hnot⟩, hpod, howned.pod hpod hP.2.2⟩

end TunnelOperator
