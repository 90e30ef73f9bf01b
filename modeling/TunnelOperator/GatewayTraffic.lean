import TunnelOperator.GatewayOwners
import TunnelOperator.PolicyTraffic
import TunnelOperator.ReadyGateway
import TunnelOperator.SpecDrift

/-!
# Gateways stay behind their NetworkPolicies

In every run of the operator, a gateway Pod whose NetworkPolicy is stored exchanges exactly the
traffic that one valid target of its own Tunnel stands for: policies of other Tunnels never select
it, and edits replace the target and never add one. A Tunnel that is committed as Ready has its
policy until it is being deleted.
-/

namespace TunnelOperator
open GoText Interaction NetIP Scenario TunnelReconciler

/-- The cluster, with the targets that each Tunnel has been stored with. -/
structure Audited where
  tracked : Tracked
  targets : List (ℕ × TunnelTarget)

namespace Audited

abbrev world (s : Audited) : World := s.tracked.world

def note (targets : List (ℕ × TunnelTarget)) (s : Tracked) : Audited :=
  ⟨s, targets ++ s.world.tunnels.values.map fun t => (t.uid, t.spec.target)⟩

def exec (op : Op) (c : Choice) (s : Audited) : op.Ans × Audited :=
  let a := Tracked.exec op c s.tracked
  (a.1, note s.targets a.2)

end Audited

def auditedOperator (r : TunnelReconciler) (minPort maxPort : Int) :
    Machine Op.Ans (Except String Result) NamespacedName Audited Choice World.Outside
      (Option (List Tunnel)) where
  exec := Audited.exec
  program := r.reconcile
  onStart := fun _ s => s
  env := fun e s => ((trackedOperator r minPort maxPort).env e s.tracked).map
    (Audited.note s.targets)
  crash := fun listed s =>
    ((trackedOperator r minPort maxPort).crash listed s.tracked).map (Audited.note s.targets)

structure WrittenFor (targets : List (ℕ × TunnelTarget)) (p : NetworkPolicy) (t : Tunnel) :
    Prop where
  key : p.key = gatewayResourceKey t.key
  spec : p.spec = networkPolicySpec t
  owner : p.owner = t.uid
  valid : validateTunnelTarget t.spec.target = .ok ()
  noted : (t.uid, t.spec.target) ∈ targets

structure Labelled (k : NamespacedName) (pod : Pod) : Prop where
  key : pod.key = k
  labels : ∃ key, k = gatewayResourceKey key ∧ pod.labels = gatewayLabels key.name

def World.ReadyGuarded (w : World) : Prop :=
  ∀ k t, w.tunnels.lookup k = some t → t.status.phase = .ready → t.deletionTimestamp = false →
    ∃ p, w.policies.lookup (gatewayResourceKey k) = some p

structure Guarded (s : Audited) : Prop where
  owned : GatewayOwned s.tracked
  pod : ∀ {k pod}, s.world.pods.lookup k = some pod → Labelled k pod
  policy : ∀ {k p}, s.world.policies.lookup k = some p → ∃ t, WrittenFor s.targets p t
  ready : s.world.ReadyGuarded

/-- The reconciliation has found or written the NetworkPolicy under this key. -/
def PolicyTouched (tr : Trace) (k : NamespacedName) : Prop :=
  (∃ p, Answered tr (.getNetworkPolicy k) (.ok p)) ∨
    ∃ p : NetworkPolicy, p.key = k ∧ (Answered tr (.createNetworkPolicy p) (.ok ()) ∨
      Answered tr (.updateNetworkPolicy p) (.ok ()))

/-- What a running reconciliation knows about the policies. -/
structure Guards (req : NamespacedName) (tr : Trace) (s : Audited) : Prop where
  retains : Retains req tr s.tracked
  guarded : Guarded s
  read : ∀ {t₀}, Answered tr (.getTunnel req) (.ok t₀) → (t₀.uid, t₀.spec.target) ∈ s.targets
  touched : ∀ {k}, PolicyTouched tr k →
    (∃ t₀, Retiring req tr t₀) ∨ ∃ p, s.world.policies.lookup k = some p

theorem NamespacedName.eq_of_parts {k k' : NamespacedName} (hns : k.ns = k'.ns)
    (hname : k.name = k'.name) :
    k = k' := by
  cases k
  cases k'
  simp_all

theorem gatewayResourceKey_injective : Function.Injective gatewayResourceKey := by
  intro k k' heq
  obtain ⟨hns, hname⟩ := NamespacedName.mk.inj heq
  exact NamespacedName.eq_of_parts hns ((String.append_right_inj _).mp hname)

section Note

variable {targets : List (ℕ × TunnelTarget)} {s : Tracked}

theorem mem_note_of_mem {x : ℕ × TunnelTarget} (h : x ∈ targets) :
    x ∈ (Audited.note targets s).targets :=
  List.mem_append_left _ h

theorem mem_note_of_lookup {k : NamespacedName} {t : Tunnel}
    (h : s.world.tunnels.lookup k = some t) :
    (t.uid, t.spec.target) ∈ (Audited.note targets s).targets :=
  List.mem_append_right _ (List.mem_map.mpr ⟨t, (Table.mem_values_iff _ _).mpr ⟨k, h⟩, rfl⟩)

theorem WrittenFor.note {p : NetworkPolicy} {t : Tunnel} (h : WrittenFor targets p t) :
    WrittenFor (Audited.note targets s).targets p t :=
  { h with noted := mem_note_of_mem h.noted }

end Note

section Outside

variable {w w' : World}

theorem World.outside_labels {e : World.Outside} (h : w.outside e = some w')
    (hw : ∀ {k pod}, w.pods.lookup k = some pod → Labelled k pod) {k : NamespacedName} {pod : Pod}
    (hk : w'.pods.lookup k = some pod) : Labelled k pod := by
  cases e with
  | createTunnel key finalizers spec =>
      obtain ⟨-, rfl⟩ := World.createTunnel_eq h
      exact hw hk
  | setPodStatus key status =>
      obtain ⟨pod₀, hpod₀, rfl⟩ := Option.map_eq_some_iff.mp h
      rw [Table.lookup_insert_eq] at hk
      split_ifs at hk with hkey
      · cases hk
        obtain ⟨hpkey, hlabels⟩ := hw hpod₀
        exact hkey ▸ ⟨hpkey, hlabels⟩
      · exact hw hk
  | removePod key =>
      cases h
      rw [Table.lookup_erase_eq] at hk
      split_ifs at hk
      exact hw hk
  | removeFinalizer key finalizer =>
      simp only [World.outside] at h
      split_ifs at h
      cases h
      exact hw (World.writeTunnel_pods _ _ _ ▸ hk)
  | deleteTunnel key =>
      cases h
      exact hw (World.writeTunnel_pods _ _ _ ▸ hk)
  | editSpec key spec =>
      cases h
      exact hw (World.writeTunnel_pods _ _ _ ▸ hk)

theorem World.Follows.readyGuarded (h : w.Follows w') (hw : w.ReadyGuarded)
    (hkept : ∀ {k t}, w.tunnels.lookup k = some t → t.status.phase = .ready →
      t.deletionTimestamp = false →
      (∃ p, w.policies.lookup (gatewayResourceKey k) = some p) →
      ∃ p, w'.policies.lookup (gatewayResourceKey k) = some p) : w'.ReadyGuarded := by
  intro k t' ht' hready hdel
  rcases h.back ht' with ⟨t, ht, hlat⟩ | ⟨-, -, hs⟩
  · have hready₀ : t.status.phase = .ready := hlat.status ▸ hready
    have hdel₀ : t.deletionTimestamp = false := by
      cases hd : t.deletionTimestamp with
      | false => rfl
      | true => rw [hlat.deleting hd] at hdel; cases hdel
    exact hkept ht hready₀ hdel₀ (hw k t ht hready₀ hdel₀)
  · rw [hs] at hready
    cases hready

theorem Guarded.outside {s : Audited} (h : Guarded s) {e : World.Outside}
    (he : s.world.outside e = some w') :
    Guarded (Audited.note s.targets { s.tracked with world := w' }) where
  owned := h.owned.outside he
  pod := World.outside_labels he h.pod
  policy := fun {k p} hk => by
    change w'.policies.lookup k = some p at hk
    rw [(World.outside_gateway he).2] at hk
    exact (h.policy hk).imp fun _ ht => ht.note
  ready := by
    have hfol := (World.outside_evolves h.owned.wf he).2.toFollows
    refine hfol.readyGuarded h.ready fun _ _ _ hp => ?_
    rwa [(World.outside_gateway he).2]

theorem Guards.outside {req : NamespacedName} {tr : Trace} {s : Audited} (h : Guards req tr s)
    {e : World.Outside} (he : s.world.outside e = some w') :
    Guards req tr (Audited.note s.targets { s.tracked with world := w' }) where
  retains := h.retains.outside he
  guarded := h.guarded.outside he
  read := fun ha => mem_note_of_mem (h.read ha)
  touched := fun {k} ht => by
    change _ ∨ ∃ p, w'.policies.lookup k = some p
    rw [(World.outside_gateway he).2]
    exact h.touched ht

theorem Guarded.restart {s : Audited} (h : Guarded s) {minPort maxPort : Int}
    {listed : Option (List Tunnel)} (he : s.world.restart minPort maxPort listed = some w') :
    Guarded (Audited.note s.targets { s.tracked with world := w' }) := by
  obtain ⟨htunnels, hpods, hpolicies⟩ : w'.tunnels = s.world.tunnels ∧ w'.pods = s.world.pods ∧
      w'.policies = s.world.policies := by
    unfold World.restart at he
    split at he
    · cases he
      exact ⟨rfl, rfl, rfl⟩
    · split_ifs at he
      cases he
      exact ⟨rfl, rfl, rfl⟩
  refine ⟨h.owned.restart he, fun {k pod} hk => h.pod (hpods ▸ hk), fun {k p} hk => ?_, ?_⟩
  · exact (h.policy (k := k) (hpolicies ▸ hk)).imp fun _ ht => ht.note
  · intro k t ht hready hdel
    change ∃ p, w'.policies.lookup _ = some p
    rw [hpolicies]
    exact h.ready k t (htunnels ▸ ht) hready hdel

end Outside

section Reconcile

variable {r : TunnelReconciler} {req : NamespacedName} {tr : Trace} {s : Audited} {op : Op}
  {c : Choice} {ans : op.Ans} {s' : Tracked}

theorem World.exec_policy_kept {w : World} {k : NamespacedName} (hop : op ≠ .deleteNetworkPolicy k)
    (h : ∃ p, w.policies.lookup k = some p) :
    ∃ p, (World.exec op c w).2.policies.lookup k = some p := by
  rcases World.exec_policies op c w with hp | ⟨q, -, hp⟩ | ⟨k', hk', hp⟩ <;> rw [hp]
  · exact h
  · rw [Table.lookup_insert_eq]
    split_ifs
    · exact ⟨q, rfl⟩
    · exact h
  · rw [Table.lookup_erase_eq, if_neg]
    · exact h
    · rintro rfl
      exact hop hk'

theorem Guards.kept (h : Guards req tr s) (hn : Next r req tr op)
    (hu : op.isLocal = false → Unpatched tr) {k : NamespacedName} {t : Tunnel}
    (ht : s.world.tunnels.lookup k = some t) (hready : t.status.phase = .ready)
    (hdel : t.deletionTimestamp = false)
    (hp : ∃ p, s.world.policies.lookup (gatewayResourceKey k) = some p) :
    ∃ p, (World.exec op c s.world).2.policies.lookup (gatewayResourceKey k) = some p := by
  refine World.exec_policy_kept ?_ hp
  rintro rfl
  obtain ⟨t₀, hret, hkey⟩ := hn
  obtain rfl := gatewayResourceKey_injective hkey
  rcases (h.retains.reads.seen (hu rfl) hret.read).stored t ht with hlat | ⟨-, -, hs⟩
  · rcases hret.retired with hd | hterm
    · rw [hlat.deleting hd] at hdel
      cases hdel
    · rw [hlat.status, hterm] at hready
      cases hready
  · rw [hs] at hready
    cases hready

theorem Guards.written (h : Guards req tr s) (hn : Next r req tr op) {p : NetworkPolicy}
    (hop : op = .createNetworkPolicy p ∨ op = .updateNetworkPolicy p) :
    ∃ t, WrittenFor s.targets p t := by
  have hbase : ∀ {t₀ base}, Active req tr t₀ base → validateTunnelTarget base.spec.target = .ok () ∧
      (base.uid, base.spec.target) ∈ s.targets := by
    intro t₀ base hact
    have hread := h.read hact.read
    rw [h.retains.reads.active_eq hact]
    exact ⟨hact.valid, hread⟩
  rcases hop with rfl | rfl
  · obtain ⟨t₀, base, hact, rfl⟩ := hn
    obtain ⟨hvalid, hnoted⟩ := hbase hact
    exact ⟨base, rfl, rfl, rfl, hvalid, hnoted⟩
  · obtain ⟨t₀, base, existing, hact, hans, rfl⟩ := hn
    obtain ⟨hvalid, hnoted⟩ := hbase hact
    have hkey : existing.key = gatewayResourceKey base.key := h.retains.existing hans
    exact ⟨base, hkey, rfl, rfl, hvalid, hnoted⟩

theorem Guards.guardedCall (h : Guards req tr s) (hn : Next r req tr op) (hp : PatchesOnce r tr op)
    (he : Tracked.exec op c s.tracked = (ans, s')) : Guarded (Audited.note s.targets s') := by
  have hw : World.exec op c s.world = (ans, s'.world) := (Tracked.exec_world he).1
  have hu : op.isLocal = false → Unpatched tr := by
    intro hl
    refine hp.unpatched fun u hop => ?_
    rw [hop] at hl
    cases hl
  refine ⟨(h.retains.call hn hp he).owned, fun {k pod} hk => ?_, fun {k p} hk => ?_, ?_⟩
  · have hk' : (World.exec op c s.world).2.pods.lookup k = some pod := by rw [hw]; exact hk
    rcases World.exec_pod_found hk' with hold | ⟨x, rfl, hkey, rfl⟩
    · exact h.guarded.pod hold
    · obtain ⟨t₀, base, -, rfl, -⟩ := hn
      exact ⟨hkey.symm, base.key, hkey, rfl⟩
  · have hk' : (World.exec op c s.world).2.policies.lookup k = some p := by rw [hw]; exact hk
    rcases World.exec_policy_found hk' with hold | ⟨hop, -⟩
    · exact (h.guarded.policy hold).imp fun _ ht => ht.note
    · exact (h.written hn hop).imp fun _ ht => ht.note
  · change s'.world.ReadyGuarded
    cases hpatch : op.isPatch with
    | false =>
        have hfol : s.world.Follows s'.world := by
          simpa [hw] using World.exec_follows h.guarded.owned.wf hpatch c
        refine hfol.readyGuarded h.guarded.ready fun ht hready hdel hpol => ?_
        simpa [hw] using h.kept (c := c) hn hu ht hready hdel hpol
    | true =>
        cases op with
        | patchStatus x base =>
            obtain ⟨t₀, pod, allocated, changed, m, e, hc, -, rfl⟩ := hn
            rcases exec_patchStatus (h.retains.reads.active_held (hu rfl) hc.active) hc.key_eq
              hw with
              ⟨hsame, -⟩ | ⟨cur, hl, hlat, -, hstore, -⟩
            · rw [hsame]
              exact h.guarded.ready
            · intro k t ht hready hdel
              rw [hstore] at ht ⊢
              rw [World.storeTunnel_policies]
              rcases World.storeTunnel_found ht with ⟨hkey, -⟩ | ⟨-, ht⟩
              · have htouched : PolicyTouched tr (gatewayResourceKey base.key) := by
                  rcases hc.hasPolicy with hcreated | ⟨existing, hfound, -⟩
                  · exact Or.inr ⟨_, rfl, Or.inl hcreated⟩
                  · exact Or.inl ⟨existing, hfound⟩
                rcases h.touched htouched with ⟨t₁, hret⟩ | hp
                · exact (h.retains.not_active hret hc.active).elim
                · rw [hkey]
                  exact hlat.key ▸ hp
              · exact h.guarded.ready k t ht hready hdel
        | _ => cases hpatch

theorem Guards.call (h : Guards req tr s) (hn : Next r req tr op) (hp : PatchesOnce r tr op)
    {s' : Audited} (he : Audited.exec op c s = (ans, s')) : Guards req (tr ++ [⟨op, ans⟩]) s' := by
  obtain ⟨hans, rfl⟩ := Prod.mk.inj he
  have he : Tracked.exec op c s.tracked = (ans, (Tracked.exec op c s.tracked).2) :=
    Prod.ext hans rfl
  have hw : World.exec op c s.world = (ans, (Tracked.exec op c s.tracked).2.world) :=
    (Tracked.exec_world he).1
  refine ⟨h.retains.call hn hp he, h.guardedCall hn hp he, fun {t₀} ha => ?_, fun {k} ht => ?_⟩
  · rcases answered_append ha with ha | ⟨rfl, rfl⟩
    · exact mem_note_of_mem (h.read ha)
    · obtain ⟨hans, hsame⟩ := Prod.mk.inj hw
      exact mem_note_of_lookup (hsame ▸ World.getResult_ok hans)
  · change _ ∨ ∃ p, (Tracked.exec op c s.tracked).2.world.policies.lookup k = some p
    have hsub : tr ⊆ tr ++ [⟨op, ans⟩] := subset_append_call _ _
    have hold : PolicyTouched tr k → (∃ t₀, Retiring req (tr ++ [⟨op, ans⟩]) t₀) ∨
        ∃ p, (Tracked.exec op c s.tracked).2.world.policies.lookup k = some p := by
      intro ht
      rcases h.touched ht with ⟨t₀, hret⟩ | hp
      · exact Or.inl ⟨t₀, hret.mono hsub⟩
      · by_cases hop : op = .deleteNetworkPolicy k
        · subst hop
          obtain ⟨t₀, hret, -⟩ := hn
          exact Or.inl ⟨t₀, hret.mono hsub⟩
        · right
          simpa [hw] using World.exec_policy_kept (c := c) hop hp
    rcases ht with ⟨p, ha⟩ | ⟨p, hkey, ha | ha⟩ <;> rcases answered_append ha with ha | ⟨rfl, rfl⟩
    · exact hold (Or.inl ⟨p, ha⟩)
    · obtain ⟨hans, hsame⟩ := Prod.mk.inj hw
      exact Or.inr ⟨p, hsame ▸ World.getResult_ok hans⟩
    · exact hold (Or.inr ⟨p, hkey, Or.inl ha⟩)
    · exact Or.inr ⟨p, hkey ▸ World.createNetworkPolicy_ok hw⟩
    · exact hold (Or.inr ⟨p, hkey, Or.inr ha⟩)
    · exact Or.inr ⟨p, hkey ▸ World.updateNetworkPolicy_ok hw⟩

end Reconcile

theorem initial_guarded (a : PortAllocator) : Guarded (Audited.note [] ⟨World.initial a, []⟩) where
  owned := initial_gatewayOwned a
  pod := by simp [Audited.note, World.initial]
  policy := by simp [Audited.note, World.initial]
  ready := by simp [World.ReadyGuarded, Audited.note, World.initial]

theorem Guarded.guards {s : Audited} (h : Guarded s) (req : NamespacedName) : Guards req [] s where
  retains := h.owned.retains req
  guarded := h
  read := fun ha => by cases ha
  touched := by
    rintro k (⟨p, ha⟩ | ⟨p, -, ha | ha⟩) <;> cases ha

theorem guarded_of_reaches {r : TunnelReconciler} {minPort maxPort : Int} {a : PortAllocator}
    {g : Config Op.Ans (Except String Result) NamespacedName Audited}
    (hg : (auditedOperator r minPort maxPort).Reaches {}
      (Audited.note [] ⟨World.initial a, []⟩) g) :
    Guarded g.state := by
  have hrun := Machine.reaches_between (M := auditedOperator r minPort maxPort)
    (C := {}) (I := Guarded) (A := Guards) (reconcile_logic r)
    (fun e s s' _ he => ?_) (fun listed s s' _ he => ?_)
    (fun req s h => h.guards req)
    (fun req tr op c s ans s' hn h he _ => h.call hn.1 hn.2 he)
    (fun req x tr s _ h => h.guarded) (initial_guarded a) hg
  · cases hth : g.thread with
    | none => exact hrun.1 hth
    | some th => exact (hrun.2 th hth).1.guarded
  · obtain ⟨t, ht, rfl⟩ := Option.map_eq_some_iff.mp he
    obtain ⟨w, hw, rfl⟩ := Option.map_eq_some_iff.mp ht
    exact ⟨fun h => h.outside hw, fun req tr h => h.outside hw⟩
  · obtain ⟨t, ht, rfl⟩ := Option.map_eq_some_iff.mp he
    obtain ⟨w, hw, rfl⟩ := Option.map_eq_some_iff.mp ht
    exact ⟨fun h => h.restart hw, fun req tr h => h.guarded.restart hw⟩

section Traffic

variable {s : Audited} {k : NamespacedName} {p : NetworkPolicy} {pod : Pod}

theorem Guarded.version (h : Guarded s)
    (hp : s.world.policies.lookup (gatewayResourceKey k) = some p) :
    ∃ t t', s.world.tunnels.lookup k = some t ∧ WrittenFor s.targets p t' ∧ t'.key = k ∧
      t'.uid = t.uid := by
  obtain ⟨t', ht'⟩ := h.policy hp
  obtain ⟨hpkey, key, hkey, t, ht, huid, -⟩ := h.owned.policy hp
  obtain rfl := gatewayResourceKey_injective hkey
  exact ⟨t, t', ht, ht', gatewayResourceKey_injective (ht'.key.symm.trans hpkey), by
    rw [← ht'.owner, huid]⟩

theorem Guarded.restricts_iff (h : Guarded s)
    (hpod : s.world.pods.lookup (gatewayResourceKey k) = some pod)
    (hp : s.world.policies.lookup (gatewayResourceKey k) = some p)
    (nsLabels : List (String × String)) {others : List NetworkPolicy}
    (hothers : ∀ q ∈ others, ¬ q.Selects (gatewayWorkload pod nsLabels)) (direction : PolicyType)
    (q : NetworkPolicy) :
    Restricts (s.world.policies.values ++ others) direction (gatewayWorkload pod nsLabels) q ↔
      q = p := by
  obtain ⟨hpodkey, key, hkey, hlabels⟩ := h.pod hpod
  obtain rfl := gatewayResourceKey_injective hkey
  constructor
  · rintro ⟨hmem, hsel, -⟩
    rcases List.mem_append.mp hmem with hmem | hmem
    · obtain ⟨k', hq⟩ := (Table.mem_values_iff _ _).mp hmem
      obtain ⟨t, ht⟩ := h.policy hq
      obtain ⟨hns, hname⟩ := (selects_networkPolicySpec ht.spec hlabels nsLabels).mp hsel
      have hqkey : q.key = gatewayResourceKey k := by
        rw [ht.key, hpodkey] at hns
        rw [ht.key]
        exact congrArg gatewayResourceKey (NamespacedName.eq_of_parts hns hname.symm)
      rw [← (h.owned.policy hq).1, hqkey, hp] at hq
      exact (Option.some.inj hq).symm
    · exact absurd hsel (hothers q hmem)
  · rintro rfl
    obtain ⟨-, t', -, ht', rfl, -⟩ := h.version hp
    refine ⟨List.mem_append_left _ ((Table.mem_values_iff _ _).mpr ⟨_, hp⟩), ?_, ?_⟩
    · refine (selects_networkPolicySpec ht'.spec hlabels nsLabels).mpr ⟨?_, rfl⟩
      rw [ht'.key, hpodkey]
    · rw [ht'.spec]
      cases direction <;> simp [networkPolicySpec]

end Traffic

/-- In every run in which nobody but the operator writes or deletes its NetworkPolicies, a Tunnel
that is stored as Ready and is not being deleted has its policy in the store, written for this
Tunnel and one of its valid targets. -/
theorem ready_gateway_guarded (r : TunnelReconciler) (minPort maxPort : Int) (a : PortAllocator)
    {g : Config Op.Ans (Except String Result) NamespacedName Audited}
    (hg : (auditedOperator r minPort maxPort).Reaches {} (Audited.note [] ⟨World.initial a, []⟩) g)
    {k : NamespacedName} {t : Tunnel} (ht : g.state.world.tunnels.lookup k = some t)
    (hready : t.status.phase = .ready) (hdel : t.deletionTimestamp = false) :
    ∃ p target, g.state.world.policies.lookup (gatewayResourceKey k) = some p ∧ p.owner = t.uid ∧
      (t.uid, target) ∈ g.state.targets ∧ validateTunnelTarget target = .ok () ∧
      p.spec = networkPolicySpec { t with spec.target := target } := by
  have h := guarded_of_reaches hg
  obtain ⟨p, hp⟩ := h.ready k t ht hready hdel
  obtain ⟨t₁, t', ht₁, ht', hkey, huid⟩ := h.version hp
  obtain rfl : t₁ = t := Option.some.inj (ht₁.symm.trans ht)
  refine ⟨p, t'.spec.target, hp, ht'.owner.trans huid, huid ▸ ht'.noted, ht'.valid, ?_⟩
  rw [ht'.spec, networkPolicySpec, networkPolicySpec, hkey, h.owned.wf.key ht]

theorem ready_gateway_guarded_answering : ∃ g t p,
    (auditedOperator soloReconciler 1 2).Reaches {}
      (Audited.note [] ⟨World.initial (PortAllocator.new 1 2), []⟩) g ∧
      g.state.world.tunnels.lookup key = some t ∧ t.status.phase = .ready ∧
      g.state.world.policies.lookup (gatewayResourceKey key) = some p ∧ p.owner = t.uid := by
  obtain ⟨g, hg, hP⟩ := Machine.exists_free_reaches (M := auditedOperator soloReconciler 1 2)
    (s := Audited.note [] ⟨World.initial (PortAllocator.new 1 2), []⟩) (l := becomeReady)
    (P := fun g => decide ((g.state.world.tunnels.lookup key).map
      (fun t => (t.status.phase, t.deletionTimestamp)) = some (.ready, false))) (by rfl)
  obtain ⟨t, ht, hparts⟩ := Option.map_eq_some_iff.mp (of_decide_eq_true hP)
  obtain ⟨hready, hdel⟩ := Prod.mk.inj hparts
  obtain ⟨p, -, hp, howner, -⟩ := ready_gateway_guarded soloReconciler 1 2 _ hg ht hready hdel
  exact ⟨g, t, p, hg, ht, hready, hp, howner⟩

end TunnelOperator
