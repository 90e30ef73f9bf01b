import TunnelOperator.OperatorRun

/-!
# Tunnels kept by the operator's finalizer

A stored Tunnel that carries the operator's finalizer stays, whatever users do, until an
`Update` of the operator takes the finalizer off. No other operation of `Reconcile` does,
that one touches no other Tunnel, and nothing puts the finalizer on a stored Tunnel except
the `Update` that adds it.
-/

namespace TunnelOperator
open Interaction TunnelReconciler

/-- The `Update` that takes the finalizer off a Tunnel. -/
def Op.dropsFinalizer : Op → Bool
  | .updateTunnel t => finalizerName ∉ t.finalizers
  | _ => false

/-- The `Update` that puts the finalizer on a Tunnel. -/
def Op.addsFinalizer : Op → Bool
  | .updateTunnel t => finalizerName ∈ t.finalizers
  | _ => false

namespace World

/-- The object `uid` is stored under `k` and carries the operator's finalizer. -/
def Finalized (w : World) (k : NamespacedName) (uid : ℕ) : Prop :=
  ∃ t, w.tunnels.lookup k = some t ∧ t.uid = uid ∧ finalizerName ∈ t.finalizers

variable {w w' : World} {k : NamespacedName} {uid : ℕ}

theorem Evolves.finalized (h : w.Evolves w') (hf : w.Finalized k uid) : w'.Finalized k uid := by
  obtain ⟨t, ht, hu, hfin⟩ := hf
  obtain ⟨t', ht', hlat, hfin'⟩ := h.kept ht hfin
  exact ⟨t', ht', hlat.uid.trans hu, hfin'⟩

theorem storeTunnel_finalized {current t : Tunnel} (hw : w.WF) {key : NamespacedName}
    (hl : w.tunnels.lookup key = some current) (hkey : t.key = current.key)
    (huid : t.uid = current.uid) (hfin : t.finalizers = current.finalizers)
    (hf : w.Finalized k uid) :
    (w.storeTunnel t).Finalized k uid := by
  obtain ⟨t₁, ht₁, hu, hfin₁⟩ := hf
  by_cases hk : k = t.key
  · obtain rfl : current = t₁ := by
      rw [hk, hkey, hw.key hl, hl] at ht₁
      exact Option.some.inj ht₁
    have hmem : finalizerName ∈ t.finalizers := hfin ▸ hfin₁
    have hstays : ¬(t.deletionTimestamp = true ∧ t.finalizers = []) := fun h => by
      simp [h.2] at hmem
    refine ⟨{ t with resourceVersion := w.version + 1 }, ?_, huid.trans hu, hmem⟩
    rw [storeTunnel_lookup, if_pos hk, if_neg hstays]
  · refine ⟨t₁, ?_, hu, hfin₁⟩
    rw [storeTunnel_lookup, if_neg hk]
    exact ht₁

theorem exec_finalized (hw : w.WF) {op : Op} (hop : op.dropsFinalizer = false) (c : Choice)
    (hf : w.Finalized k uid) : (exec op c w).2.Finalized k uid := by
  cases hpatch : op.isPatch with
  | true =>
      cases op with
      | patchStatus x base =>
          refine writeResult_state (P := fun w' => w'.Finalized k uid) hf ?_
          refine writeTunnel_state (P := fun w' => w'.Finalized k uid) hf fun current t hl hc => ?_
          cases hc
          exact storeTunnel_finalized hw hl rfl rfl rfl hf
      | _ => cases hpatch
  | false =>
      refine (exec_evolves hw hpatch (fun x hx => ?_) c).finalized hf
      subst hx
      simpa [Op.dropsFinalizer] using hop

theorem finalized_of_storeTunnel {current t : Tunnel} (hw : w.WF) {key : NamespacedName}
    (hl : w.tunnels.lookup key = some current) (hkey : t.key = current.key)
    (huid : t.uid = current.uid) (hfin : finalizerName ∈ t.finalizers →
      finalizerName ∈ current.finalizers)
    (hf : (w.storeTunnel t).Finalized k uid) : w.Finalized k uid := by
  obtain ⟨t₁, ht₁, hu, hfin₁⟩ := hf
  rcases storeTunnel_found ht₁ with ⟨hk, rfl⟩ | ⟨-, ht₁⟩
  · exact ⟨current, by rw [hk, hkey, hw.key hl]; exact hl, huid.symm.trans hu, hfin hfin₁⟩
  · exact ⟨t₁, ht₁, hu, hfin₁⟩

theorem finalized_of_exec (hw : w.WF) {op : Op} (hop : op.addsFinalizer = false) {c : Choice}
    (hf : (exec op c w).2.Finalized k uid) : w.Finalized k uid := by
  -- a write keeps the finalizers it finds, or takes them off
  have hwrite : ∀ {key : NamespacedName} {change : Tunnel → Except ApiError Tunnel} {α : Type}
      {p : Except ApiError α × World}, p.2 = (w.writeTunnel key change).2 →
      (∀ cur t, change cur = .ok t → t.key = cur.key ∧ t.uid = cur.uid ∧
        (finalizerName ∈ t.finalizers → finalizerName ∈ cur.finalizers)) →
      (writeResult c w p).2.Finalized k uid → w.Finalized k uid := by
    intro key change α p hp hchange
    refine writeResult_state (P := fun w' => w'.Finalized k uid → w.Finalized k uid) id ?_
    rw [hp]
    refine writeTunnel_state (P := fun w' => w'.Finalized k uid → w.Finalized k uid) id ?_
    intro cur t hl hc
    obtain ⟨hkey, huid, hfin⟩ := hchange cur t hc
    exact finalized_of_storeTunnel hw hl hkey huid hfin
  cases op with
  | updateTunnel x =>
      refine hwrite rfl (fun cur t hc => ?_) hf
      obtain ⟨-, rfl⟩ := updateTunnel_change hc
      exact ⟨rfl, rfl, fun hfin => by simp [Op.addsFinalizer, hfin] at hop⟩
  | patchStatus x base => exact hwrite rfl (fun _ _ hc => by cases hc; exact ⟨rfl, rfl, id⟩) hf
  | deleteTunnel key =>
      exact hwrite (p := w.deleteTunnel key) rfl (fun _ _ hc => by
        cases hc; exact ⟨rfl, rfl, id⟩) hf
  | _ =>
      obtain ⟨t, ht, h⟩ := hf
      rw [(exec_sameTunnels rfl c w).tunnels] at ht
      exact ⟨t, ht, h⟩

theorem finalized_of_outside (hw : w.WF) {e : Outside} (h : w.outside e = some w')
    (huid : uid < w.nextUid) (hf : w'.Finalized k uid) : w.Finalized k uid := by
  rcases outside_cases h with ⟨key, finalizers, spec, -, hc⟩ | ⟨key, change, rfl, hc⟩ |
    ⟨pods, rfl, -⟩
  · obtain ⟨-, rfl⟩ := createTunnel_eq hc
    obtain ⟨t, ht, hu, hfin⟩ := hf
    replace ht := (Table.lookup_insert_eq _ _ _ _).symm.trans ht
    split_ifs at ht with hk
    · cases ht
      exact absurd hu (Nat.ne_of_gt huid)
    · exact ⟨t, ht, hu, hfin⟩
  · refine writeTunnel_state (P := fun w' => w'.Finalized k uid → w.Finalized k uid) id ?_ hf
    intro current t hl ht
    cases ht
    have hu := hc current
    exact finalized_of_storeTunnel hw hl hu.key hu.uid fun hfin => hu.finalizers hfin
  · exact hf

theorem storeTunnel_finalized_other {t : Tunnel} (hk : k ≠ t.key) (hf : w.Finalized k uid) :
    (w.storeTunnel t).Finalized k uid := by
  obtain ⟨t₁, ht₁, h₁⟩ := hf
  exact ⟨t₁, by rw [storeTunnel_lookup, if_neg hk]; exact ht₁, h₁⟩

end World

theorem Held.finalized {t : Tunnel} {w : World} (h : Held t w) : w.Finalized t.key t.uid := by
  obtain ⟨t', ht', hlat, hf⟩ := h
  exact ⟨t', ht', hlat.uid, hf⟩

theorem removeFinalizer_drops (t : Tunnel) : finalizerName ∉ (removeFinalizer t).finalizers := by
  simp [removeFinalizer]

theorem addFinalizer_keeps (t : Tunnel) : finalizerName ∈ (addFinalizer t).finalizers := by
  simp [addFinalizer]

section Next

variable {r : TunnelReconciler} {req : NamespacedName} {tr : Trace}

theorem TunnelReconciler.Next.drops {op : Op} (hn : Next r req tr op)
    (hop : op.dropsFinalizer = true) :
    ∃ t₀, Retiring req tr t₀ ∧ finalizerName ∈ t₀.finalizers ∧ GatewayDeleted tr t₀.key ∧
      op = .updateTunnel (removeFinalizer t₀) := by
  cases op with
  | updateTunnel t =>
      rcases hn with ⟨t₀, -, -, -, -, -, rfl⟩ | ⟨t₀, hr, hf, hg, rfl⟩
      · simp [Op.dropsFinalizer, addFinalizer_keeps] at hop
      · exact ⟨t₀, hr, hf, hg, rfl⟩
  | _ => cases hop

theorem TunnelReconciler.Next.adds {op : Op} (hn : Next r req tr op)
    (hop : op.addsFinalizer = true) :
    ∃ t₀, Answered tr (.getTunnel req) (.ok t₀) ∧ t₀.deletionTimestamp = false ∧
      t₀.status.phase ≠ .terminated := by
  cases op with
  | updateTunnel t =>
      rcases hn with ⟨t₀, hread, hd, hp, -⟩ | ⟨t₀, -, -, -, rfl⟩
      · exact ⟨t₀, hread, hd, hp⟩
      · simp [Op.addsFinalizer, removeFinalizer_drops] at hop
  | _ => cases hop

end Next

end TunnelOperator
