import TunnelOperator.OperatorRun

/-!
# Gateway Pod and NetworkPolicy against the specification

The specification of one Tunnel is edited while `Reconcile` calls come and go. The
NetworkPolicy is rewritten by every `Reconcile`, the gateway Pod is created once and never
compared with the specification again. So the two follow the same specification exactly as
long as edits made while the Pod exists do not change what the Pod was built from.
-/

namespace TunnelOperator
open Interaction TunnelReconciler Scenario

inductive SpecEvent where
  | edit (spec : TunnelSpec)
  | podStatus (status : PodStatus)
  | podRemoved
  | reconcile (c : ℕ → Choice)

/-- One event in the life of the Tunnel `k`; edits have to pass the validation of targets. -/
def specStep (r : TunnelReconciler) (k : NamespacedName) : SpecEvent → World → Option World
  | .edit spec, w =>
      if validateTunnelTarget spec.target = .ok () then w.outside (.editSpec k spec) else none
  | .podStatus status, w => w.outside (.setPodStatus (gatewayResourceKey k) status)
  | .podRemoved, w => w.outside (.removePod (gatewayResourceKey k))
  | .reconcile c, w => some ((r.reconcile k).run World.exec c [] w).2.2

/-- The stores that a run reaches whose edits all meet the condition. -/
inductive SpecRun (C : TunnelSpec → World → Prop) (r : TunnelReconciler) (k : NamespacedName)
    (w₀ : World) :
    World → Prop where
  | start : SpecRun C r k w₀ w₀
  | step {w w'} (e : SpecEvent) : SpecRun C r k w₀ w → (∀ spec, e = .edit spec → C spec w) →
      specStep r k e w = some w' → SpecRun C r k w₀ w'

/-- An edit of a Tunnel that has a gateway Pod does not change the Pod's environment. -/
def KeepsEnvironment (r : TunnelReconciler) (k : NamespacedName) (spec : TunnelSpec) (w : World) :
    Prop :=
  ∀ t, w.tunnels.lookup k = some t → w.pods.lookup (gatewayResourceKey k) ≠ none →
    gatewayEnv r { t with spec := spec } = gatewayEnv r t

/-- The store before the first `Reconcile` of a Tunnel. -/
structure Unprovisioned (k : NamespacedName) (w : World) : Prop where
  wf : w.WF
  pod : w.pods.lookup (gatewayResourceKey k) = none
  policy : w.policies.lookup (gatewayResourceKey k) = none

/-- The gateway Pod was built from the current specification. -/
structure Followed (r : TunnelReconciler) (k : NamespacedName) (w : World) : Prop where
  wf : w.WF
  pod : ∀ t pod, w.tunnels.lookup k = some t → w.pods.lookup (gatewayResourceKey k) = some pod →
    pod.env = gatewayEnv r t
  policy : ∀ p, w.policies.lookup (gatewayResourceKey k) = some p → p.key = gatewayResourceKey k

/-- The NetworkPolicy in the store lets the gateway reach the target. -/
def Ruled (k : NamespacedName) (target : TunnelTarget) (w : World) : Prop :=
  ∃ p, w.policies.lookup (gatewayResourceKey k) = some p ∧
    p.spec.egress.head? = some (targetEgressRule target)

/-- A reconciliation of `t` keeps its specification and leaves the Pod and the policy that it
has found or written, unless it retires the Tunnel. -/
structure Provisions (r : TunnelReconciler) (t : Tunnel) (tr : Trace) (w : World) : Prop where
  start : tr = [] → w.tunnels.lookup t.key = some t
  spec : ∀ t', w.tunnels.lookup t.key = some t' → t'.spec = t.spec
  read : ∀ t₀, Answered tr (.getTunnel t.key) (.ok t₀) → t₀ = t
  found : ¬ Answered tr (.getTunnel t.key) (.error .notFound)
  pod : ∀ pod, w.pods.lookup (gatewayResourceKey t.key) = some pod → pod.env = gatewayEnv r t
  policy : ∀ p, w.policies.lookup (gatewayResourceKey t.key) = some p →
    p.key = gatewayResourceKey t.key
  existing : ∀ p, Answered tr (.getNetworkPolicy (gatewayResourceKey t.key)) (.ok p) →
    p.key = gatewayResourceKey t.key
  hasPod : (∃ pod, Answered tr (.getPod (gatewayResourceKey t.key)) (.ok pod) ∨
      ∃ x, Answered tr (.createPod x) (.ok pod)) →
    (∃ t₀, Retiring t.key tr t₀) ∨ ∃ pod, w.pods.lookup (gatewayResourceKey t.key) = some pod
  hasPolicy : ((∃ p, Answered tr (.createNetworkPolicy p) (.ok ()) ∨
    Answered tr (.updateNetworkPolicy p) (.ok ())) ∨
      ∃ p, Answered tr (.getNetworkPolicy (gatewayResourceKey t.key)) (.ok p) ∧
        p.spec.egress.head? = some (targetEgressRule t.spec.target)) →
    (∃ t₀, Retiring t.key tr t₀) ∨ Ruled t.key t.spec.target w

section Writes

variable {w : World}

theorem World.exec_spec (hw : w.WF) (op : Op) (c : Choice) {k : NamespacedName} {t' : Tunnel}
    (h : (World.exec op c w).2.tunnels.lookup k = some t') :
    (∃ t, w.tunnels.lookup k = some t ∧ t'.spec = t.spec) ∨
      ∃ x, op = .updateTunnel x ∧ t'.spec = x.spec := by
  -- the writes apart from updates commit the specification they find
  have hkept : ∀ {key : NamespacedName} {change : Tunnel → Except ApiError Tunnel} {α : Type}
      {p : Except ApiError α × World}, p.2 = (w.writeTunnel key change).2 →
      (∀ cur t, change cur = .ok t → t.key = cur.key ∧ t.spec = cur.spec) →
      (World.writeResult c w p).2.tunnels.lookup k = some t' →
      ∃ t, w.tunnels.lookup k = some t ∧ t'.spec = t.spec := by
    intro key change α p hres hchange
    refine World.writeResult_state (P := fun w' => w'.tunnels.lookup k = some t' →
      ∃ t, w.tunnels.lookup k = some t ∧ t'.spec = t.spec) (fun ht => ⟨t', ht, rfl⟩) ?_
    rw [hres]
    refine World.writeTunnel_state (P := fun w' => w'.tunnels.lookup k = some t' →
      ∃ t, w.tunnels.lookup k = some t ∧ t'.spec = t.spec) (fun ht => ⟨t', ht, rfl⟩) ?_
    intro cur t hl hc ht
    obtain ⟨hkey, hspec⟩ := hchange cur t hc
    rcases World.storeTunnel_found ht with ⟨hk, rfl⟩ | ⟨-, ht⟩
    · exact ⟨cur, by rw [hk, hkey, hw.key hl]; exact hl, hspec⟩
    · exact ⟨t', ht, rfl⟩
  cases op with
  | updateTunnel x =>
      revert h
      refine World.writeResult_state (P := fun w' => w'.tunnels.lookup k = some t' →
        (∃ t, w.tunnels.lookup k = some t ∧ t'.spec = t.spec) ∨
          ∃ x', Op.updateTunnel x = .updateTunnel x' ∧ t'.spec = x'.spec)
        (fun ht => Or.inl ⟨t', ht, rfl⟩) ?_
      refine World.writeTunnel_state (P := fun w' => w'.tunnels.lookup k = some t' →
        (∃ t, w.tunnels.lookup k = some t ∧ t'.spec = t.spec) ∨
          ∃ x', Op.updateTunnel x = .updateTunnel x' ∧ t'.spec = x'.spec)
        (fun ht => Or.inl ⟨t', ht, rfl⟩) fun cur t hl hc ht => ?_
      obtain ⟨-, rfl⟩ := World.updateTunnel_change hc
      rcases World.storeTunnel_found ht with ⟨-, rfl⟩ | ⟨-, ht⟩
      · exact Or.inr ⟨x, rfl, rfl⟩
      · exact Or.inl ⟨t', ht, rfl⟩
  | patchStatus x base => exact Or.inl (hkept rfl (fun _ _ hc => by cases hc; exact ⟨rfl, rfl⟩) h)
  | deleteTunnel key =>
      exact Or.inl (hkept (p := w.deleteTunnel key) rfl (fun _ _ hc => by
        cases hc; exact ⟨rfl, rfl⟩) h)
  | _ =>
      rw [(World.exec_sameTunnels rfl c w).tunnels] at h
      exact Or.inl ⟨t', h, rfl⟩

theorem World.createNetworkPolicy_ok {c : Choice} {p : NetworkPolicy} {w' : World}
    (he : World.exec (.createNetworkPolicy p) c w = (.ok (), w')) :
    w'.policies.lookup p.key = some p := by
  have hwrite : w.createNetworkPolicy p = (.ok (), w') := World.writeResult_eq he nofun
  unfold World.createNetworkPolicy at hwrite
  split at hwrite <;> cases hwrite
  exact (Table.lookup_insert_eq _ _ _ _).trans (if_pos rfl)

theorem World.updateNetworkPolicy_ok {c : Choice} {p : NetworkPolicy} {w' : World}
    (he : World.exec (.updateNetworkPolicy p) c w = (.ok (), w')) :
    w'.policies.lookup p.key = some p := by
  have hwrite : w.updateNetworkPolicy p = (.ok (), w') := World.writeResult_eq he nofun
  unfold World.updateNetworkPolicy at hwrite
  split at hwrite <;> cases hwrite
  exact (Table.lookup_insert_eq _ _ _ _).trans (if_pos rfl)

end Writes

section Steps

variable {r : TunnelReconciler} {t : Tunnel} {tr : Trace} {w w' : World}

theorem gatewayEnv_congr {t t' : Tunnel} (hkey : t'.key = t.key) (hspec : t'.spec = t.spec) :
    gatewayEnv r t' = gatewayEnv r t := by
  unfold gatewayEnv
  rw [hkey, hspec]

theorem Provisions.nil (h : Followed r t.key w) (ht : w.tunnels.lookup t.key = some t) :
    Provisions r t [] w where
  start := fun _ => ht
  spec := fun t' ht' => by rw [ht] at ht'; cases ht'; rfl
  read := fun _ h => by cases h
  found := fun h => by cases h
  pod := fun pod hpod => h.pod t pod ht hpod
  policy := h.policy
  existing := fun _ h => by cases h
  hasPod := by simp [Answered]
  hasPolicy := by simp [Answered]

variable (hr : Reads t.key tr w) (h : Provisions r t tr w)

include hr h

theorem Provisions.active {t₀ base : Tunnel} (ha : Active t.key tr t₀ base) :
    base.key = t.key ∧ base.spec = t.spec := by
  have heq := hr.active_eq ha
  have hkey : base.key = t₀.key := by rw [heq]
  have hspec : base.spec = t₀.spec := by rw [heq]
  exact ⟨hkey.trans (hr.key ha.read), hspec.trans (congrArg Tunnel.spec (h.read t₀ ha.read))⟩

theorem Provisions.written {op : Op} (hn : Next r t.key tr op) {p : NetworkPolicy}
    (hop : op = .createNetworkPolicy p ∨ op = .updateNetworkPolicy p) :
    p.key = gatewayResourceKey t.key ∧ p.spec.egress.head? =
      some (targetEgressRule t.spec.target) := by
  rcases hop with rfl | rfl
  · obtain ⟨t₀, base, hact, rfl⟩ := hn
    obtain ⟨hkey, hspec⟩ := h.active hr hact
    exact ⟨congrArg gatewayResourceKey hkey, by rw [← hspec]; rfl⟩
  · obtain ⟨t₀, base, existing, hact, hget, rfl⟩ := hn
    obtain ⟨hkey, hspec⟩ := h.active hr hact
    exact ⟨h.existing existing (hkey ▸ hget), by rw [← hspec]; rfl⟩

variable {op : Op} {c : Choice} {ans : op.Ans} (hn : Next r t.key tr op)
  (he : World.exec op c w = (ans, w'))

include hn he

omit hr in
theorem Provisions.spec_step (hw : w.WF) {t' : Tunnel} (ht' : w'.tunnels.lookup t.key = some t') :
    t'.spec = t.spec := by
  obtain rfl : (World.exec op c w).2 = w' := congrArg Prod.snd he
  rcases World.exec_spec hw op c ht' with ⟨t₁, ht₁, hs⟩ | ⟨x, rfl, hs⟩
  · exact hs.trans (h.spec t₁ ht₁)
  · rcases hn with ⟨t₀, ht₀, -, -, -, -, rfl⟩ | ⟨t₀, hret, -, -, rfl⟩
    · obtain rfl := h.read t₀ ht₀
      exact hs
    · obtain rfl := h.read t₀ hret.read
      exact hs

theorem Provisions.pod_step {pod : Pod}
    (hpod : w'.pods.lookup (gatewayResourceKey t.key) = some pod) :
    pod.env = gatewayEnv r t := by
  obtain rfl : (World.exec op c w).2 = w' := congrArg Prod.snd he
  rcases World.exec_pod_found hpod with hold | ⟨x, rfl, -, rfl⟩
  · exact h.pod pod hold
  · obtain ⟨t₀, base, hact, rfl, -⟩ := hn
    obtain ⟨hkey, hspec⟩ := h.active hr hact
    exact gatewayEnv_congr hkey hspec

theorem Provisions.policy_step {p : NetworkPolicy}
    (hp : w'.policies.lookup (gatewayResourceKey t.key) = some p) :
    p.key = gatewayResourceKey t.key := by
  obtain rfl : (World.exec op c w).2 = w' := congrArg Prod.snd he
  rcases World.exec_policy_found hp with hold | ⟨hop, -⟩
  · exact h.policy p hold
  · exact (h.written hr hn hop).1

omit hr h in
theorem Provisions.pod_kept (hpod : ∃ pod, w.pods.lookup (gatewayResourceKey t.key) = some pod) :
    (∃ t₀, Retiring t.key tr t₀) ∨ ∃ pod, w'.pods.lookup (gatewayResourceKey t.key) = some pod := by
  obtain ⟨pod, hpod⟩ := hpod
  obtain rfl : (World.exec op c w).2 = w' := congrArg Prod.snd he
  rcases World.exec_pods op c w with hp | ⟨x, rfl, hp⟩ | ⟨k, rfl, hp⟩
  · exact Or.inr ⟨pod, by rw [hp]; exact hpod⟩
  · rw [hp]
    simp only [Table.lookup_insert_eq]
    split_ifs
    · exact Or.inr ⟨_, rfl⟩
    · exact Or.inr ⟨pod, hpod⟩
  · obtain ⟨t₀, hret, -⟩ := hn
    exact Or.inl ⟨t₀, hret⟩

theorem Provisions.ruled_kept (hruled : Ruled t.key t.spec.target w) :
    (∃ t₀, Retiring t.key tr t₀) ∨ Ruled t.key t.spec.target w' := by
  obtain ⟨p, hp, hrule⟩ := hruled
  obtain rfl : (World.exec op c w).2 = w' := congrArg Prod.snd he
  rcases World.exec_policies op c w with hq | ⟨q, hop, hq⟩ | ⟨k, rfl, hq⟩
  · exact Or.inr ⟨p, by rw [hq]; exact hp, hrule⟩
  · obtain ⟨hkey, hqrule⟩ := h.written hr hn hop
    exact Or.inr ⟨q, by rw [hq, Table.lookup_insert_eq, if_pos hkey.symm], hqrule⟩
  · obtain ⟨t₀, hret, -⟩ := hn
    exact Or.inl ⟨t₀, hret⟩

theorem Provisions.step (hw : w.WF) : Provisions r t (tr ++ [⟨op, ans⟩]) w' := by
  have hretired : (∃ t₀, Retiring t.key tr t₀) → ∃ t₀, Retiring t.key (tr ++ [⟨op, ans⟩]) t₀ :=
    fun ⟨t₀, h⟩ => ⟨t₀, h.mono (subset_append_call _ _)⟩
  refine ⟨fun hnil => by simp at hnil, fun t' ht' => h.spec_step hn he hw ht', fun t₀ ht₀ => ?_,
    fun hno => ?_, fun pod hpod => h.pod_step hr hn he hpod, fun p hp => h.policy_step hr hn he hp,
    fun p hp => ?_, ?_, ?_⟩
  · rcases answered_append ht₀ with ht₀ | ⟨rfl, rfl⟩
    · exact h.read t₀ ht₀
    · have hget := World.getResult_ok (congrArg Prod.fst he)
      exact (Option.some.inj ((h.start hn.2).symm.trans hget)).symm
  · rcases answered_append hno with hno | ⟨rfl, rfl⟩
    · exact h.found hno
    · have hget := congrArg Prod.fst he
      simp only [World.exec, h.start hn.2] at hget
      exact World.getResult_found c t hget
  · rcases answered_append hp with hp | ⟨rfl, rfl⟩
    · exact h.existing p hp
    · exact h.policy p (World.getResult_ok (congrArg Prod.fst he))
  · have hkeep := fun hpod => (Provisions.pod_kept hn he hpod).imp_left hretired
    have hold := fun hp => (h.hasPod hp).elim (fun hret => Or.inl (hretired hret)) hkeep
    rintro ⟨pod, hpod | ⟨x, hpod⟩⟩ <;> rcases answered_append hpod with hpod | ⟨rfl, rfl⟩
    · exact hold ⟨pod, Or.inl hpod⟩
    · exact hkeep ⟨pod, World.getResult_ok (congrArg Prod.fst he)⟩
    · exact hold ⟨pod, Or.inr ⟨x, hpod⟩⟩
    · obtain ⟨t₀, base, hact, rfl, -⟩ := hn
      have hstored := (World.exec_createPod_ok he).2
      rw [show (gatewayPod r base).key = gatewayResourceKey t.key from
        congrArg gatewayResourceKey (h.active hr hact).1] at hstored
      exact Or.inr ⟨pod, hstored⟩
  · have hkeep := fun hruled => (h.ruled_kept hr hn he hruled).imp_left hretired
    have hold := fun hp => (h.hasPolicy hp).elim (fun hret => Or.inl (hretired hret)) hkeep
    rintro (⟨p, hp | hp⟩ | ⟨p, hp, hrule⟩) <;> rcases answered_append hp with hp | ⟨rfl, rfl⟩
    · exact hold (Or.inl ⟨p, Or.inl hp⟩)
    · obtain ⟨hkey, hprule⟩ := h.written hr hn (Or.inl rfl)
      exact Or.inr ⟨p, hkey ▸ World.createNetworkPolicy_ok he, hprule⟩
    · exact hold (Or.inl ⟨p, Or.inr hp⟩)
    · obtain ⟨hkey, hprule⟩ := h.written hr hn (Or.inr rfl)
      exact Or.inr ⟨p, hkey ▸ World.updateNetworkPolicy_ok he, hprule⟩
    · exact hold (Or.inr ⟨p, hp, hrule⟩)
    · exact hkeep ⟨p, World.getResult_ok (congrArg Prod.fst he), hrule⟩

end Steps

/-- One `Reconcile` of a Tunnel whose Pod follows its specification. -/
theorem provisions_run {r : TunnelReconciler} {t : Tunnel} {w : World} (h : Followed r t.key w)
    (ht : w.tunnels.lookup t.key = some t) (c : ℕ → Choice) :
    (Returns r t.key ((r.reconcile t.key).run World.exec c [] w).1
        ((r.reconcile t.key).run World.exec c [] w).2.1 ∧
      Reads t.key ((r.reconcile t.key).run World.exec c [] w).2.1
        ((r.reconcile t.key).run World.exec c [] w).2.2 ∧
      Provisions r t ((r.reconcile t.key).run World.exec c [] w).2.1
        ((r.reconcile t.key).run World.exec c [] w).2.2) ∧
      ((r.reconcile t.key).run World.exec c [] w).2.2.WF :=
  reconcile_run r t.key (fun he => ⟨_, he⟩) (fun hn _ hr h hi he => h.step hr hn he hi) h.wf
    (Provisions.nil h ht) c

theorem Followed.edit {r : TunnelReconciler} {k : NamespacedName} {w w' : World}
    (h : Followed r k w) {spec : TunnelSpec} (hk : KeepsEnvironment r k spec w)
    (he : w.outside (.editSpec k spec) = some w') :
    Followed r k w' := by
  cases he
  refine World.writeTunnel_state (P := Followed r k) h fun current t hl hc => ?_
  cases hc
  refine ⟨World.storeTunnel_wf h.wf hl rfl rfl, fun t' pod ht' hpod => ?_, fun p hp => ?_⟩
  · rw [World.storeTunnel_pods] at hpod
    rcases World.storeTunnel_found ht' with ⟨-, rfl⟩ | ⟨-, ht'⟩
    · rw [h.pod current pod hl hpod, ← hk current hl (by rw [hpod]; simp)]
      exact gatewayEnv_congr rfl rfl
    · exact h.pod t' pod ht' hpod
  · rw [World.storeTunnel_policies] at hp
    exact h.policy p hp

theorem Followed.missing {r : TunnelReconciler} {k : NamespacedName} {w : World}
    (h : Followed r k w) (hno : w.tunnels.lookup k = none) (c : ℕ → Choice) :
    Followed r k ((r.reconcile k).run World.exec c [] w).2.2 := by
  have hrun := reconcile_run (A := fun tr w' => (∀ t₀, ¬ Answered tr (.getTunnel k) (.ok t₀)) ∧
      w'.tunnels.lookup k = none ∧ ∀ p, w'.policies.lookup (gatewayResourceKey k) = some p →
        p.key = gatewayResourceKey k) r k
    (fun {op c w ans w'} (he : World.exec op c w = (ans, w')) => ⟨c, he⟩)
    (fun {tr op c w ans w'} hn hp hr hA hi he => ?_) h.wf ⟨fun _ h => (by cases h), hno, h.policy⟩ c
  · obtain ⟨⟨-, -, -, hnone, hpolicy⟩, hwf⟩ := hrun
    exact ⟨hwf, fun t _ ht => (by rw [hnone] at ht; cases ht), hpolicy⟩
  · obtain ⟨hread, hnone, hpolicy⟩ := hA
    have hw' : (World.exec op c w).2 = w' := congrArg Prod.snd he
    refine ⟨fun t₀ ht₀ => ?_, ?_, fun p hp => ?_⟩
    · rcases answered_append ht₀ with ht₀ | ⟨rfl, rfl⟩
      · exact hread t₀ ht₀
      · have hget := World.getResult_ok (congrArg Prod.fst he)
        rw [hnone] at hget
        cases hget
    · rw [← hw']
      cases hl : (World.exec op c w).2.tunnels.lookup k with
      | none => rfl
      | some t' =>
          rcases World.exec_spec hi op c hl with ⟨t, ht, -⟩ | ⟨x, rfl, -⟩
          · rw [hnone] at ht
            cases ht
          · rcases hn with ⟨t₀, ht₀, -⟩ | ⟨t₀, hret, -⟩
            · exact absurd ht₀ (hread t₀)
            · exact absurd hret.read (hread t₀)
    · rw [← hw'] at hp
      rcases World.exec_policy_found hp with hold | ⟨rfl | rfl, -⟩
      · exact hpolicy p hold
      · obtain ⟨t₀, base, hact, -⟩ := hn
        exact absurd hact.read (hread t₀)
      · obtain ⟨t₀, base, existing, hact, -⟩ := hn
        exact absurd hact.read (hread t₀)

theorem Followed.step {r : TunnelReconciler} {k : NamespacedName} {w w' : World}
    (h : Followed r k w) {e : SpecEvent} (hC : ∀ spec, e = .edit spec → KeepsEnvironment r k spec w)
    (he : specStep r k e w = some w') : Followed r k w' := by
  cases e with
  | edit spec =>
      simp only [specStep] at he
      split_ifs at he
      exact h.edit (hC spec rfl) he
  | podStatus status =>
      obtain ⟨pod, hpod, rfl⟩ := Option.map_eq_some_iff.mp he
      have hs : w.SameTunnels { w with
          pods := w.pods.insert (gatewayResourceKey k) { pod with status := status } } :=
            ⟨rfl, rfl, rfl⟩
      refine ⟨hs.wf h.wf, fun t pod' ht hpod' => ?_, h.policy⟩
      rw [Table.lookup_insert_eq, if_pos rfl] at hpod'
      cases hpod'
      exact h.pod t pod ht hpod
  | podRemoved =>
      cases he
      have hs : w.SameTunnels { w with pods := w.pods.erase (gatewayResourceKey k) } :=
        ⟨rfl, rfl, rfl⟩
      refine ⟨hs.wf h.wf, fun t pod ht hpod => ?_, h.policy⟩
      rw [Table.lookup_erase_eq, if_pos rfl] at hpod
      cases hpod
  | reconcile c =>
      cases he
      cases ht : w.tunnels.lookup k with
      | none => exact h.missing ht c
      | some t =>
          obtain rfl : t.key = k := h.wf.key ht
          obtain ⟨⟨-, -, hP⟩, hwf⟩ := provisions_run h ht c
          refine ⟨hwf, fun t' pod ht' hpod => ?_, hP.policy⟩
          rw [hP.pod pod hpod]
          exact (gatewayEnv_congr (hwf.key ht') (hP.spec t' ht')).symm

theorem Unprovisioned.followed {r : TunnelReconciler} {k : NamespacedName} {w : World}
    (h : Unprovisioned k w) : Followed r k w := by
  refine ⟨h.wf, fun t pod _ hpod => ?_, fun p hp => ?_⟩
  · rw [h.pod] at hpod
    cases hpod
  · rw [h.policy] at hp
    cases hp

theorem specRun_followed {r : TunnelReconciler} {k : NamespacedName} {w₀ w : World}
    (h₀ : Unprovisioned k w₀) (hg : SpecRun (KeepsEnvironment r k) r k w₀ w) : Followed r k w := by
  induction hg with
  | start => exact h₀.followed
  | step e _ hC he ih => exact ih.step hC he

/-- In every run whose edits keep the environment of an existing gateway Pod, a `Reconcile`
that returns no error on a live Tunnel leaves a Pod with the environment and a NetworkPolicy
with the egress rule of the current specification. -/
theorem gateway_follows_spec (r : TunnelReconciler) {k : NamespacedName} {w₀ w : World}
    (h₀ : Unprovisioned k w₀) (hg : SpecRun (KeepsEnvironment r k) r k w₀ w) {t : Tunnel}
    (ht : w.tunnels.lookup k = some t) (hd : t.deletionTimestamp = false)
    (hp : t.status.phase ≠ .terminated) (c : ℕ → Choice) {x : Result} {tr : Trace} {w' : World}
    (hrun : (r.reconcile k).run World.exec c [] w = (.ok x, tr, w')) {t' : Tunnel}
    (ht' : w'.tunnels.lookup k = some t') :
    (∃ pod, w'.pods.lookup (gatewayResourceKey k) = some pod ∧ pod.env = gatewayEnv r t') ∧
      ∃ policy, w'.policies.lookup (gatewayResourceKey k) = some policy ∧
        policy.spec.egress.head? = some (targetEgressRule t'.spec.target) := by
  have hf := specRun_followed h₀ hg
  obtain rfl : t.key = k := hf.wf.key ht
  obtain ⟨⟨hret, hr, hP⟩, hwf⟩ := provisions_run hf ht c
  rw [hrun] at hret hr hP hwf
  have hlive : ¬ ∃ t₀, Retiring t.key tr t₀ := by
    rintro ⟨t₀, hret⟩
    obtain rfl := hP.read t₀ hret.read
    rcases hret.retired with hd' | hp'
    · rw [hd] at hd'; cases hd'
    · exact hp hp'
  have henv : gatewayEnv r t = gatewayEnv r t' :=
    (gatewayEnv_congr (hwf.key ht') (hP.spec t' ht')).symm
  rw [hP.spec t' ht', ← henv]
  rcases hret with ⟨e, hans, rfl | ⟨m, hm⟩⟩ | hret | ⟨t₀, -, -, -, ⟨m, hm⟩ | hdone⟩
  · exact absurd hans hP.found
  · cases hm
  · exact absurd hret hlive
  · cases hm
  obtain ⟨base, pod, allocated, changed, m, e, t₁, hc, -, -⟩ := hdone
  obtain ⟨hkey, hspec⟩ := hP.active hr hc.active
  have hpod := hc.hasPod
  have hpolicy := hc.hasPolicy
  rw [HasPod, hkey] at hpod
  rw [HasPolicy, hkey] at hpolicy
  constructor
  · have hstored := hP.hasPod ⟨pod, hpod.imp id fun h => ⟨_, h.2⟩⟩
    obtain ⟨x, hx⟩ := hstored.resolve_left hlive
    exact ⟨x, hx, hP.pod x hx⟩
  · refine (hP.hasPolicy ?_).resolve_left hlive
    rcases hpolicy with hcr | ⟨existing, hget, heq | hup⟩
    · exact Or.inl ⟨_, Or.inl hcr⟩
    · refine Or.inr ⟨existing, hget, ?_⟩
      rw [← heq, ← hspec]
      rfl
    · exact Or.inl ⟨_, Or.inr hup⟩

theorem createdWorld_unprovisioned (a : PortAllocator) : Unprovisioned key (createdWorld a) :=
  ⟨createdWorld_wf a, rfl, rfl⟩

/-- The store after a first `Reconcile`. -/
def provisionedWorld : World :=
  ((provisioningReconciler.reconcile key).run World.exec (fun _ => {}) []
    (createdWorld (PortAllocator.new 1 1))).2.2

def editedWorld (spec' : TunnelSpec) : World :=
  (provisionedWorld.writeTunnel key fun t => .ok { t with spec := spec' }).2

theorem editedWorld_run {C : TunnelSpec → World → Prop} (spec' : TunnelSpec)
    (hvalid : validateTunnelTarget spec'.target = .ok ()) (hC : C spec' provisionedWorld) :
    SpecRun C provisioningReconciler key (createdWorld (PortAllocator.new 1 1))
      (editedWorld spec') := by
  refine (SpecRun.start.step (.reconcile fun _ => {}) (fun _ h => by cases h) rfl).step
    (.edit spec')
    (fun spec'' h => by cases h; exact hC) ?_
  simp only [specStep, if_pos hvalid]
  rfl

theorem gateway_follows_longer_deadline : ∃ (x : Result) (tr : Trace) (w' : World) (t' : Tunnel),
    (provisioningReconciler.reconcile key).run World.exec (fun _ => {}) []
        (editedWorld { spec with activeDeadlineSeconds := some 60 }) = (.ok x, tr, w') ∧
      w'.tunnels.lookup key = some t' ∧ t'.spec.activeDeadlineSeconds = some 60 ∧
      (∃ pod, w'.pods.lookup (gatewayResourceKey key) = some pod ∧
        pod.env = gatewayEnv provisioningReconciler t') ∧
      ∃ policy, w'.policies.lookup (gatewayResourceKey key) = some policy ∧
        policy.spec.egress.head? = some (targetEgressRule t'.spec.target) := by
  refine ⟨_, _, _, _, rfl, rfl, rfl, gateway_follows_spec provisioningReconciler
    (createdWorld_unprovisioned _) (editedWorld_run
      { spec with activeDeadlineSeconds := some 60 } rfl ?_)
    rfl rfl (by decide) (fun _ => {}) rfl rfl⟩
  intro t ht _
  cases ht
  rfl

/-- The client key is replaced after the gateway Pod was created. `Reconcile` returns no error
and the Pod keeps the old key. -/
theorem gateway_keeps_revoked_key : ∃ w t x tr w' t' pod,
    SpecRun (fun _ _ => True) provisioningReconciler key (createdWorld (PortAllocator.new 1 1)) w ∧
      w.tunnels.lookup key = some t ∧ t.deletionTimestamp = false ∧ t.status.phase ≠ .terminated ∧
      (provisioningReconciler.reconcile key).run World.exec (fun _ => {}) [] w = (.ok x, tr, w') ∧
      w'.tunnels.lookup key = some t' ∧ w'.pods.lookup (gatewayResourceKey key) = some pod ∧
      pod.env ≠ gatewayEnv provisioningReconciler t' :=
  ⟨_, _, _, _, _, _, _, editedWorld_run { spec with clientPublicKey := "new-key" } rfl trivial,
    rfl, rfl, by decide, rfl, rfl, rfl, by decide⟩

end TunnelOperator
