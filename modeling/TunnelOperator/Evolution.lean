import TunnelOperator.Cluster

/-!
# How stored Tunnels change

`Later` relates a version of a Tunnel object to the versions that follow it while nobody
patches its status. `Follows` says that all stored Tunnels are later versions of earlier
ones or newly created, and `Evolves` that moreover no Tunnel with the operator's
finalizer goes away. The environment only takes `Evolves` steps, and so do the
reconciler's operations apart from status patches and finalizer removals.
-/

namespace TunnelOperator
open Interaction

structure Later (t t' : Tunnel) : Prop where
  key : t'.key = t.key
  uid : t'.uid = t.uid
  status : t'.status = t.status
  deleting : t.deletionTimestamp = true → t'.deletionTimestamp = true
  version : t.resourceVersion ≤ t'.resourceVersion
  same : t'.resourceVersion = t.resourceVersion → t' = t

theorem Later.refl (t : Tunnel) : Later t t := ⟨rfl, rfl, rfl, id, le_refl _, fun _ => rfl⟩

theorem Later.trans {t t' t'' : Tunnel} (h : Later t t') (h' : Later t' t'') : Later t t'' where
  key := h'.key.trans h.key
  uid := h'.uid.trans h.uid
  status := h'.status.trans h.status
  deleting := fun hd => h'.deleting (h.deleting hd)
  version := le_trans h.version h'.version
  same := fun hv => by
    have h₁ := h.version
    have h₂ := h'.version
    rw [h'.same (by omega), h.same (by omega)]

namespace World

variable {w w' w'' : World}

structure WF (w : World) : Prop where
  key : ∀ {k t}, w.tunnels.lookup k = some t → t.key = k
  uid : ∀ {k t}, w.tunnels.lookup k = some t → t.uid < w.nextUid
  version : ∀ {k t}, w.tunnels.lookup k = some t → t.resourceVersion ≤ w.version
  uid_inj : ∀ {k k' t t'}, w.tunnels.lookup k = some t → w.tunnels.lookup k' = some t' →
    t.uid = t'.uid → k = k'

structure Follows (w w' : World) : Prop where
  nextUid : w.nextUid ≤ w'.nextUid
  version : w.version ≤ w'.version
  back : ∀ {k t'}, w'.tunnels.lookup k = some t' →
    (∃ t, w.tunnels.lookup k = some t ∧ Later t t') ∨
      (w.nextUid ≤ t'.uid ∧ w.version < t'.resourceVersion ∧ t'.status = {})

structure Evolves (w w' : World) : Prop extends Follows w w' where
  kept : ∀ {k t}, w.tunnels.lookup k = some t → finalizerName ∈ t.finalizers →
    ∃ t', w'.tunnels.lookup k = some t' ∧ Later t t' ∧ finalizerName ∈ t'.finalizers

theorem Follows.trans (h : w.Follows w') (h' : w'.Follows w'') : w.Follows w'' where
  nextUid := le_trans h.nextUid h'.nextUid
  version := le_trans h.version h'.version
  back := fun {k t''} ht => by
    rcases h'.back ht with ⟨t', ht', hl'⟩ | ⟨hu, hv, hs⟩
    · rcases h.back ht' with ⟨t, ht, hl⟩ | ⟨hu, hv, hs⟩
      · exact Or.inl ⟨t, ht, hl.trans hl'⟩
      · exact Or.inr ⟨hl'.uid ▸ hu, lt_of_lt_of_le hv hl'.version, hl'.status.trans hs⟩
    · exact Or.inr ⟨le_trans h.nextUid hu, lt_of_le_of_lt h.version hv, hs⟩

theorem Evolves.trans (h : w.Evolves w') (h' : w'.Evolves w'') : w.Evolves w'' where
  toFollows := h.toFollows.trans h'.toFollows
  kept := fun ht hf => by
    obtain ⟨t', ht', hl, hf'⟩ := h.kept ht hf
    obtain ⟨t'', ht'', hl', hf''⟩ := h'.kept ht' hf'
    exact ⟨t'', ht'', hl.trans hl', hf''⟩

structure SameTunnels (w w' : World) : Prop where
  tunnels : w'.tunnels = w.tunnels
  nextUid : w'.nextUid = w.nextUid
  version : w'.version = w.version

theorem SameTunnels.wf (h : w.SameTunnels w') (hw : w.WF) : w'.WF := by
  refine ⟨fun ht => ?_, fun ht => ?_, fun ht => ?_, fun ht ht' => ?_⟩ <;> rw [h.tunnels] at ht
  · exact hw.key ht
  · exact h.nextUid ▸ hw.uid ht
  · exact h.version ▸ hw.version ht
  · rw [h.tunnels] at ht'
    exact hw.uid_inj ht ht'

theorem SameTunnels.evolves (h : w.SameTunnels w') : w.Evolves w' where
  nextUid := Nat.le_of_eq h.nextUid.symm
  version := Nat.le_of_eq h.version.symm
  back := fun {_ t'} ht => Or.inl ⟨t', h.tunnels ▸ ht, Later.refl t'⟩
  kept := fun {_ t} ht hf => ⟨t, h.tunnels.symm ▸ ht, Later.refl t, hf⟩

theorem Evolves.refl (w : World) : w.Evolves w := SameTunnels.evolves ⟨rfl, rfl, rfl⟩

theorem storeTunnel_lookup (t : Tunnel) (w : World) (k : NamespacedName) :
    (w.storeTunnel t).tunnels.lookup k =
      if k = t.key then
        if t.deletionTimestamp = true ∧ t.finalizers = [] then none
        else some { t with resourceVersion := w.version + 1 }
      else w.tunnels.lookup k := by
  unfold storeTunnel
  split_ifs with hd hk hk
  · exact (Table.lookup_erase_eq _ _ _).trans (if_pos hk)
  · exact (Table.lookup_erase_eq _ _ _).trans (if_neg hk)
  · exact (Table.lookup_insert_eq _ _ _ _).trans (if_pos hk)
  · exact (Table.lookup_insert_eq _ _ _ _).trans (if_neg hk)

theorem storeTunnel_found {t t' : Tunnel} {w : World} {k : NamespacedName}
    (h : (w.storeTunnel t).tunnels.lookup k = some t') :
    k = t.key ∧ t' = { t with resourceVersion := w.version + 1 } ∨
      k ≠ t.key ∧ w.tunnels.lookup k = some t' := by
  rw [storeTunnel_lookup] at h
  split_ifs at h with hk hd
  · exact Or.inl ⟨hk, (Option.some.inj h).symm⟩
  · exact Or.inr ⟨hk, h⟩

@[simp] theorem storeTunnel_nextUid (t : Tunnel) (w : World) :
    (w.storeTunnel t).nextUid = w.nextUid := by
  unfold storeTunnel; split_ifs <;> rfl

@[simp] theorem storeTunnel_version (t : Tunnel) (w : World) :
    (w.storeTunnel t).version = w.version + 1 := by
  unfold storeTunnel; split_ifs <;> rfl

@[simp] theorem storeTunnel_pods (t : Tunnel) (w : World) : (w.storeTunnel t).pods = w.pods := by
  unfold storeTunnel; split_ifs <;> rfl

@[simp] theorem storeTunnel_policies (t : Tunnel) (w : World) :
    (w.storeTunnel t).policies = w.policies := by
  unfold storeTunnel; split_ifs <;> rfl

theorem writeTunnel_cases (key : NamespacedName) (change : Tunnel → Except ApiError Tunnel)
    (w : World) :
    (∃ e, w.writeTunnel key change = (.error e, w)) ∨
      ∃ current t, w.tunnels.lookup key = some current ∧ change current = .ok t ∧
        w.writeTunnel key change =
          (.ok { t with resourceVersion := w.version + 1 }, w.storeTunnel t) := by
  unfold writeTunnel
  cases hl : w.tunnels.lookup key with
  | none => exact Or.inl ⟨_, rfl⟩
  | some current =>
      cases hc : change current with
      | error e => exact Or.inl ⟨e, by simp only [hc]⟩
      | ok t => exact Or.inr ⟨current, t, rfl, hc, by simp only [hc]⟩

theorem storeTunnel_wf (hw : w.WF) {k : NamespacedName} {current t : Tunnel}
    (hl : w.tunnels.lookup k = some current) (hkey : t.key = current.key)
    (huid : t.uid = current.uid) :
    (w.storeTunnel t).WF := by
  have hk : t.key = k := hkey.trans (hw.key hl)
  have hold : ∀ {k' t'}, (w.storeTunnel t).tunnels.lookup k' = some t' →
      (k' = k ∧ t' = { t with resourceVersion := w.version + 1 }) ∨
      w.tunnels.lookup k' = some t' := by
    intro k' t' ht
    rcases storeTunnel_found ht with ⟨h₁, rfl⟩ | ⟨-, ht⟩
    · exact Or.inl ⟨h₁.trans hk, rfl⟩
    · exact Or.inr ht
  refine ⟨fun ht => ?_, fun ht => ?_, fun ht => ?_, fun ht ht' h => ?_⟩
  · rcases hold ht with ⟨rfl, rfl⟩ | ht
    · exact hk
    · exact hw.key ht
  · rw [storeTunnel_nextUid]
    rcases hold ht with ⟨rfl, rfl⟩ | ht
    · exact huid ▸ hw.uid hl
    · exact hw.uid ht
  · rw [storeTunnel_version]
    rcases hold ht with ⟨rfl, rfl⟩ | ht
    · exact Nat.le_refl _
    · exact Nat.le_succ_of_le (hw.version ht)
  · rcases hold ht with ⟨rfl, rfl⟩ | ht <;> rcases hold ht' with ⟨rfl, rfl⟩ | ht'
    · rfl
    · exact hw.uid_inj hl ht' (huid.symm.trans h)
    · exact hw.uid_inj ht hl (h.trans huid)
    · exact hw.uid_inj ht ht' h

theorem storeTunnel_follows (hw : w.WF) {k : NamespacedName} {current t : Tunnel}
    (hl : w.tunnels.lookup k = some current) (hkey : t.key = current.key)
    (huid : t.uid = current.uid) (hstatus : t.status = current.status)
    (hdel : current.deletionTimestamp = true → t.deletionTimestamp = true) :
    w.Follows (w.storeTunnel t) where
  nextUid := by simp
  version := by simp
  back := fun {k' t'} ht => by
    have hk : t.key = k := hkey.trans (hw.key hl)
    rcases storeTunnel_found ht with ⟨h₁, rfl⟩ | ⟨-, ht⟩
    · have hv := hw.version hl
      refine Or.inl ⟨current, h₁ ▸ hk ▸ hl, hkey, huid, hstatus, hdel, ?_, fun h => ?_⟩
      · exact Nat.le_succ_of_le hv
      · exact absurd h (Nat.ne_of_gt (Nat.lt_succ_of_le hv))
    · exact Or.inl ⟨t', ht, Later.refl t'⟩

theorem storeTunnel_evolves (hw : w.WF) {k : NamespacedName} {current t : Tunnel}
    (hl : w.tunnels.lookup k = some current) (hkey : t.key = current.key)
    (huid : t.uid = current.uid) (hstatus : t.status = current.status)
    (hdel : current.deletionTimestamp = true → t.deletionTimestamp = true)
    (hfin : finalizerName ∈ current.finalizers → finalizerName ∈ t.finalizers) :
    w.Evolves (w.storeTunnel t) where
  toFollows := storeTunnel_follows hw hl hkey huid hstatus hdel
  kept := fun {k' t₁} ht hf => by
    have hk : t.key = k := hkey.trans (hw.key hl)
    by_cases h₁ : k' = t.key
    · obtain rfl : current = t₁ := by
        rw [h₁, hk, hl] at ht
        exact Option.some.inj ht
      have hft := hfin hf
      have hlook : (w.storeTunnel t).tunnels.lookup k' =
          some { t with resourceVersion := w.version + 1 } := by
        rw [storeTunnel_lookup, if_pos h₁, if_neg fun h => by simp [h.2] at hft]
      refine ⟨_, hlook, ?_, hft⟩
      rcases (storeTunnel_follows hw hl hkey huid hstatus hdel).back hlook with ⟨t₂, ht₂, hlat⟩ |
        hnew
      · rw [ht₂] at ht
        cases ht
        exact hlat
      · exact absurd hnew.1 (Nat.not_le.mpr (by simpa [huid] using hw.uid hl))
    · exact ⟨t₁, by rw [storeTunnel_lookup, if_neg h₁]; exact ht, Later.refl t₁, hf⟩

end World
end TunnelOperator
