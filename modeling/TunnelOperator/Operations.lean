import TunnelOperator.Evolution

/-!
# The effect of operations on the stored Tunnels

Only three operations write Tunnels. `exec_updateTunnel` and `exec_patchStatus` say all
that an update and a status patch can do, and every other step of the reconciler or of
the environment is an `Evolves` step.
-/

namespace TunnelOperator
open Interaction

def Op.isPatch : Op → Bool
  | .patchStatus _ _ => true
  | _ => false

def Op.writesTunnel : Op → Bool
  | .updateTunnel _ => true
  | .patchStatus _ _ => true
  | .deleteTunnel _ => true
  | _ => false

namespace World

variable {w w' : World}

theorem writeResult_cases {α : Type} (c : Choice) (w : World) (res : Except ApiError α × World) :
    (∃ m, writeResult c w res = (.error (.other m), w)) ∨
      (∃ m, writeResult c w res = (.error (.other m), res.2)) ∨ writeResult c w res = res := by
  unfold writeResult
  cases c.failure with
  | none => exact Or.inr (Or.inr rfl)
  | some m =>
      cases c.applied with
      | false => exact Or.inl ⟨m, rfl⟩
      | true => exact Or.inr (Or.inl ⟨m, rfl⟩)

theorem writeResult_state {α : Type} {P : World → Prop} {c : Choice}
    {res : Except ApiError α × World} (hw : P w) (hres : P res.2) : P (writeResult c w res).2 := by
  rcases writeResult_cases c w res with ⟨m, h⟩ | ⟨m, h⟩ | h <;> rw [h]
  · exact hw
  · exact hres
  · exact hres

theorem writeResult_eq {α : Type} {c : Choice} {res : Except ApiError α × World}
    {ans : Except ApiError α} (h : writeResult c w res = (ans, w'))
    (hans : ∀ m, ans ≠ .error (.other m)) : res = (ans, w') := by
  rcases writeResult_cases c w res with ⟨m, he⟩ | ⟨m, he⟩ | he
  · exact absurd (congrArg Prod.fst (h.symm.trans he)) (hans m)
  · exact absurd (congrArg Prod.fst (h.symm.trans he)) (hans m)
  · exact he.symm.trans h

theorem getResult_ok {α : Type} {c : Choice} {found : Option α} {a : α}
    (h : getResult c found = .ok a) : found = some a := by
  unfold getResult at h
  split at h
  · cases h
  · cases h; rfl
  · cases h

theorem getResult_found {α : Type} (c : Choice) (a : α) :
    getResult c (some a) ≠ .error .notFound := by
  unfold getResult
  split
  · rintro ⟨⟩
  · rintro ⟨⟩
  · contradiction

theorem writeTunnel_state {P : World → Prop} {key : NamespacedName}
    {change : Tunnel → Except ApiError Tunnel} (hw : P w)
    (h : ∀ current t, w.tunnels.lookup key = some current → change current = .ok t →
      P (w.storeTunnel t)) : P (w.writeTunnel key change).2 := by
  rcases writeTunnel_cases key change w with ⟨e, he⟩ | ⟨current, t, hl, hc, he⟩
  · rw [he]; exact hw
  · rw [he]; exact h current t hl hc

theorem updateTunnel_change {x current t : Tunnel}
    (h : (if current.resourceVersion ≠ x.resourceVersion then Except.error ApiError.conflict
      else .ok { current with finalizers := x.finalizers, spec := x.spec }) = .ok t) :
    current.resourceVersion = x.resourceVersion ∧
      t = { current with finalizers := x.finalizers, spec := x.spec } := by
  split_ifs at h with hv
  · cases h
    exact ⟨not_not.mp hv, rfl⟩

theorem updateTunnel_wf (hw : w.WF) (x : Tunnel) : (w.updateTunnel x).2.WF := by
  refine writeTunnel_state hw fun current t hl hc => ?_
  obtain ⟨-, rfl⟩ := updateTunnel_change hc
  exact storeTunnel_wf hw hl rfl rfl

theorem updateTunnel_follows (hw : w.WF) (x : Tunnel) : w.Follows (w.updateTunnel x).2 := by
  refine writeTunnel_state (P := w.Follows) (Evolves.refl w).toFollows fun current t hl hc => ?_
  obtain ⟨-, rfl⟩ := updateTunnel_change hc
  exact storeTunnel_follows hw hl rfl rfl rfl id

theorem updateTunnel_evolves (hw : w.WF) {x : Tunnel} (hx : finalizerName ∈ x.finalizers) :
    w.Evolves (w.updateTunnel x).2 := by
  refine writeTunnel_state (P := w.Evolves) (Evolves.refl w) fun current t hl hc => ?_
  obtain ⟨-, rfl⟩ := updateTunnel_change hc
  exact storeTunnel_evolves hw hl rfl rfl rfl id fun _ => hx

theorem deleteTunnel_state {P : World → Prop} {key : NamespacedName} (hw : P w)
    (h : ∀ current, w.tunnels.lookup key = some current →
      P (w.storeTunnel { current with deletionTimestamp := true })) : P (w.deleteTunnel key).2 :=
  writeTunnel_state hw fun current _ hl hc => by cases hc; exact h current hl

theorem deleteTunnel_wf (hw : w.WF) (key : NamespacedName) : (w.deleteTunnel key).2.WF :=
  deleteTunnel_state hw fun _ hl => storeTunnel_wf hw hl rfl rfl

theorem deleteTunnel_evolves (hw : w.WF) (key : NamespacedName) :
    w.Evolves (w.deleteTunnel key).2 :=
  deleteTunnel_state (P := w.Evolves) (Evolves.refl w) fun _ hl =>
    storeTunnel_evolves hw hl rfl rfl rfl (fun _ => rfl) id

theorem patchStatus_wf (hw : w.WF) (x base : Tunnel) : (w.patchStatus x base).2.WF :=
  writeTunnel_state hw fun _ _ hl hc => by cases hc; exact storeTunnel_wf hw hl rfl rfl

theorem createPod_sameTunnels (pod : Pod) (uid : String) (w : World) :
    w.SameTunnels (w.createPod pod uid).2 := by
  unfold createPod; split <;> exact ⟨rfl, rfl, rfl⟩

theorem deletePod_sameTunnels (key : NamespacedName) (lingers : Bool) (w : World) :
    w.SameTunnels (w.deletePod key lingers).2 := by
  unfold deletePod; cases lingers <;> split <;> exact ⟨rfl, rfl, rfl⟩

theorem recordFetch_sameTunnels (pod : Pod) (a : Except String String) (w : World) :
    w.SameTunnels (w.recordFetch pod a) := by
  cases a <;> exact ⟨rfl, rfl, rfl⟩

theorem exec_sameTunnels {o : Op} (h : o.writesTunnel = false) (c : Choice) (w : World) :
    w.SameTunnels (exec o c w).2 := by
  have hrefl : w.SameTunnels w := ⟨rfl, rfl, rfl⟩
  cases o with
  | updateTunnel _ => cases h
  | patchStatus _ _ => cases h
  | deleteTunnel _ => cases h
  | createPod pod =>
      exact writeResult_state (P := w.SameTunnels) hrefl (createPod_sameTunnels _ _ _)
  | deletePod key =>
      exact writeResult_state (P := w.SameTunnels) hrefl (deletePod_sameTunnels _ _ _)
  | createNetworkPolicy p =>
      refine writeResult_state (P := w.SameTunnels) hrefl ?_
      unfold createNetworkPolicy; split <;> exact ⟨rfl, rfl, rfl⟩
  | updateNetworkPolicy p =>
      refine writeResult_state (P := w.SameTunnels) hrefl ?_
      unfold updateNetworkPolicy; split <;> exact ⟨rfl, rfl, rfl⟩
  | deleteNetworkPolicy k =>
      refine writeResult_state (P := w.SameTunnels) hrefl ?_
      unfold deleteNetworkPolicy; split <;> exact ⟨rfl, rfl, rfl⟩
  | fetchGatewayStatus pod => exact recordFetch_sameTunnels _ _ _
  | _ => exact ⟨rfl, rfl, rfl⟩

theorem exec_wf (hw : w.WF) (op : Op) (c : Choice) : (exec op c w).2.WF := by
  cases h : op.writesTunnel with
  | false => exact (exec_sameTunnels h c w).wf hw
  | true =>
      cases op with
      | updateTunnel x => exact writeResult_state hw (updateTunnel_wf hw x)
      | patchStatus x base => exact writeResult_state hw (patchStatus_wf hw x base)
      | deleteTunnel key => exact writeResult_state hw (deleteTunnel_wf hw key)
      | _ => cases h

theorem exec_follows (hw : w.WF) {o : Op} (hop : o.isPatch = false) (c : Choice) :
    w.Follows (exec o c w).2 := by
  have hrefl := (Evolves.refl w).toFollows
  cases h : o.writesTunnel with
  | false => exact (exec_sameTunnels h c w).evolves.toFollows
  | true =>
      cases o with
      | updateTunnel x => exact writeResult_state (P := w.Follows) hrefl (updateTunnel_follows hw x)
      | deleteTunnel key =>
          exact writeResult_state (P := w.Follows) hrefl (deleteTunnel_evolves hw key).toFollows
      | patchStatus _ _ => cases hop
      | _ => cases h

theorem exec_evolves (hw : w.WF) {o : Op} (hop : o.isPatch = false)
    (hfin : ∀ x, o = .updateTunnel x → finalizerName ∈ x.finalizers) (c : Choice) :
    w.Evolves (exec o c w).2 := by
  cases h : o.writesTunnel with
  | false => exact (exec_sameTunnels h c w).evolves
  | true =>
      cases o with
      | updateTunnel x =>
          exact writeResult_state (P := w.Evolves) (Evolves.refl w)
            (updateTunnel_evolves hw (hfin x rfl))
      | deleteTunnel key =>
          exact writeResult_state (P := w.Evolves) (Evolves.refl w) (deleteTunnel_evolves hw key)
      | patchStatus _ _ => cases hop
      | _ => cases h

structure UserChange (t t' : Tunnel) : Prop where
  key : t'.key = t.key
  uid : t'.uid = t.uid
  status : t'.status = t.status
  deleting : t.deletionTimestamp = true → t'.deletionTimestamp = true
  finalizers : t'.finalizers ⊆ t.finalizers
  finalized : finalizerName ∈ t.finalizers → finalizerName ∈ t'.finalizers

theorem createTunnel_eq {key : NamespacedName} {finalizers : List String} {spec : TunnelSpec}
    (h : w.createTunnel key finalizers spec = some w') : w.tunnels.lookup key = none ∧ w' = { w with
      tunnels := w.tunnels.insert key ⟨key, w.nextUid, w.version + 1, false, finalizers, spec, {}⟩
      nextUid := w.nextUid + 1
      version := w.version + 1 } := by
  unfold createTunnel at h
  split at h
  · cases h
  · rename_i hl
    exact ⟨hl, (Option.some.inj h).symm⟩

/-- A step of the environment creates a Tunnel, changes a stored one, or changes Pods without
touching their owners. -/
theorem outside_cases {e : Outside} (h : w.outside e = some w') :
    (∃ key finalizers spec, e = .createTunnel key finalizers spec ∧
        w.createTunnel key finalizers spec = some w') ∨
      (∃ (key : NamespacedName) (change : Tunnel → Tunnel),
        w' = (w.writeTunnel key fun t => .ok (change t)).2 ∧ ∀ t, UserChange t (change t)) ∨
      ∃ pods, w' = { w with pods := pods } ∧ ∀ {k pod}, pods.lookup k = some pod →
        ∃ pod₀, w.pods.lookup k = some pod₀ ∧ pod.owner = pod₀.owner := by
  cases e with
  | createTunnel key finalizers spec => exact Or.inl ⟨key, finalizers, spec, rfl, h⟩
  | deleteTunnel key =>
      cases h
      exact Or.inr (Or.inl ⟨key, fun t => { t with deletionTimestamp := true }, rfl,
        fun t => ⟨rfl, rfl, rfl, fun _ => rfl, List.Subset.refl _, id⟩⟩)
  | editSpec key spec =>
      cases h
      exact Or.inr (Or.inl ⟨key, fun t => { t with spec := spec }, rfl,
        fun t => ⟨rfl, rfl, rfl, id, List.Subset.refl _, id⟩⟩)
  | removeFinalizer key finalizer =>
      simp only [outside] at h
      split_ifs at h with hf
      cases h
      refine Or.inr (Or.inl ⟨key, fun t =>
        { t with finalizers := t.finalizers.filter (· ≠ finalizer) }, rfl,
        fun t => ⟨rfl, rfl, rfl, id, List.filter_subset_self _, fun hm => ?_⟩⟩)
      exact List.mem_filter.mpr ⟨hm, by simpa using fun he => hf he.symm⟩
  | setPodStatus key status =>
      obtain ⟨pod₀, hpod₀, rfl⟩ := Option.map_eq_some_iff.mp h
      refine Or.inr (Or.inr ⟨_, rfl, fun {k pod} hk => ?_⟩)
      rw [Table.lookup_insert_eq] at hk
      split_ifs at hk with hkey
      · cases hk
        exact ⟨pod₀, hkey ▸ hpod₀, rfl⟩
      · exact ⟨pod, hk, rfl⟩
  | removePod key =>
      cases h
      refine Or.inr (Or.inr ⟨_, rfl, fun {k pod} hk => ?_⟩)
      rw [Table.lookup_erase_eq] at hk
      split_ifs at hk
      exact ⟨pod, hk, rfl⟩

theorem createTunnel_evolves (hw : w.WF) {key : NamespacedName} {finalizers : List String}
    {spec : TunnelSpec} (h : w.createTunnel key finalizers spec = some w') :
    w'.WF ∧ w.Evolves w' := by
  obtain ⟨hl, rfl⟩ := createTunnel_eq h
  have hold : ∀ {k t}, (w.tunnels.insert key
      ⟨key, w.nextUid, w.version + 1, false, finalizers, spec, {}⟩).lookup k = some t →
      (k = key ∧ t = ⟨key, w.nextUid, w.version + 1, false, finalizers, spec, {}⟩) ∨
        w.tunnels.lookup k = some t := by
    intro k t ht
    rw [Table.lookup_insert_eq] at ht
    split_ifs at ht with hk
    · cases ht
      exact Or.inl ⟨hk, rfl⟩
    · exact Or.inr ht
  refine ⟨⟨fun ht => ?_, fun ht => ?_, fun ht => ?_, fun ht ht' h => ?_⟩,
    ⟨⟨Nat.le_succ _, Nat.le_succ _, fun {k t} ht => ?_⟩, fun {k t} ht hf => ?_⟩⟩
  · rcases hold ht with ⟨rfl, rfl⟩ | ht
    · rfl
    · exact hw.key ht
  · rcases hold ht with ⟨rfl, rfl⟩ | ht
    · exact Nat.lt_succ_self _
    · exact Nat.lt_succ_of_lt (hw.uid ht)
  · rcases hold ht with ⟨rfl, rfl⟩ | ht
    · exact Nat.le_refl _
    · exact Nat.le_succ_of_le (hw.version ht)
  · rcases hold ht with ⟨rfl, rfl⟩ | h₁ <;> rcases hold ht' with ⟨rfl, rfl⟩ | h₂
    · rfl
    · exact absurd h.symm (Nat.ne_of_lt (hw.uid h₂))
    · exact absurd h (Nat.ne_of_lt (hw.uid h₁))
    · exact hw.uid_inj h₁ h₂ h
  · rcases hold ht with ⟨rfl, rfl⟩ | ht
    · exact Or.inr ⟨Nat.le_refl _, Nat.lt_succ_self _, rfl⟩
    · exact Or.inl ⟨t, ht, Later.refl t⟩
  · refine ⟨t, ?_, Later.refl t, hf⟩
    rw [Table.lookup_insert_eq, if_neg]
    · exact ht
    · rintro rfl
      rw [hl] at ht
      cases ht

theorem outside_evolves (hw : w.WF) {e : Outside} (h : w.outside e = some w') :
    w'.WF ∧ w.Evolves w' := by
  rcases outside_cases h with ⟨key, finalizers, spec, -, hc⟩ | ⟨key, change, rfl, hc⟩ |
    ⟨pods, rfl, -⟩
  · exact createTunnel_evolves hw hc
  · refine writeTunnel_state (P := fun w' => w'.WF ∧ w.Evolves w') ⟨hw, Evolves.refl w⟩
      fun current t hl ht => ?_
    cases ht
    obtain ⟨hkey, huid, hstatus, hdel, -, hfin⟩ := hc current
    exact ⟨storeTunnel_wf hw hl hkey huid, storeTunnel_evolves hw hl hkey huid hstatus hdel hfin⟩
  · have hs : w.SameTunnels { w with pods := pods } := ⟨rfl, rfl, rfl⟩
    exact ⟨hs.wf hw, hs.evolves⟩

structure SameProcess (w w' : World) : Prop where
  allocator : w'.allocator = w.allocator
  published : w'.published = w.published
  fetched : w'.fetched = w.fetched

theorem storeTunnel_sameProcess (t : Tunnel) (w : World) : w.SameProcess (w.storeTunnel t) := by
  unfold storeTunnel; split_ifs <;> exact ⟨rfl, rfl, rfl⟩

theorem writeTunnel_sameProcess (key : NamespacedName) (change : Tunnel → Except ApiError Tunnel)
    (w : World) : w.SameProcess (w.writeTunnel key change).2 :=
  writeTunnel_state (P := w.SameProcess) ⟨rfl, rfl, rfl⟩ fun _ t _ _ => storeTunnel_sameProcess t w

theorem outside_sameProcess {e : Outside} (h : w.outside e = some w') : w.SameProcess w' := by
  rcases outside_cases h with ⟨key, finalizers, spec, -, hc⟩ | ⟨key, change, rfl, -⟩ |
    ⟨pods, rfl, -⟩
  · obtain ⟨-, rfl⟩ := createTunnel_eq hc
    exact ⟨rfl, rfl, rfl⟩
  · exact writeTunnel_sameProcess _ _ _
  · exact ⟨rfl, rfl, rfl⟩

end World

/-- Operations on the operator's own process and its records. -/
def Op.isLocal : Op → Bool
  | .fetchGatewayStatus _ => true
  | .allocate _ => true
  | .release _ => true
  | .notifyUpdate _ => true
  | _ => false

namespace World

theorem exec_sameProcess {o : Op} (h : o.isLocal = false) (c : Choice) (w : World) :
    w.SameProcess (exec o c w).2 := by
  have hrefl : w.SameProcess w := ⟨rfl, rfl, rfl⟩
  cases o with
  | fetchGatewayStatus _ => cases h
  | allocate _ => cases h
  | release _ => cases h
  | notifyUpdate _ => cases h
  | updateTunnel x =>
      exact writeResult_state (P := w.SameProcess) hrefl (writeTunnel_sameProcess _ _ _)
  | patchStatus x base =>
      exact writeResult_state (P := w.SameProcess) hrefl (writeTunnel_sameProcess _ _ _)
  | deleteTunnel key =>
      exact writeResult_state (P := w.SameProcess) hrefl (writeTunnel_sameProcess _ _ _)
  | createPod pod =>
      refine writeResult_state (P := w.SameProcess) hrefl ?_
      unfold createPod; split <;> exact ⟨rfl, rfl, rfl⟩
  | deletePod key =>
      refine writeResult_state (P := w.SameProcess) hrefl ?_
      unfold deletePod; cases c.podLingers <;> split <;> exact ⟨rfl, rfl, rfl⟩
  | createNetworkPolicy p =>
      refine writeResult_state (P := w.SameProcess) hrefl ?_
      unfold createNetworkPolicy; split <;> exact ⟨rfl, rfl, rfl⟩
  | updateNetworkPolicy p =>
      refine writeResult_state (P := w.SameProcess) hrefl ?_
      unfold updateNetworkPolicy; split <;> exact ⟨rfl, rfl, rfl⟩
  | deleteNetworkPolicy k =>
      refine writeResult_state (P := w.SameProcess) hrefl ?_
      unfold deleteNetworkPolicy; split <;> exact ⟨rfl, rfl, rfl⟩
  | _ => exact ⟨rfl, rfl, rfl⟩

theorem writeTunnel_pods (key : NamespacedName) (change : Tunnel → Except ApiError Tunnel)
    (w : World) :
    (w.writeTunnel key change).2.pods = w.pods :=
  writeTunnel_state (P := fun w' => w'.pods = w.pods) rfl fun _ t _ _ => storeTunnel_pods t w

theorem exec_createPod_ok {w w' : World} {pod pod' : Pod} {c : Choice}
    (h : exec (.createPod pod) c w = (.ok pod', w')) :
    pod' = { pod with uid := c.podUID } ∧ w'.pods.lookup pod.key = some pod' := by
  have hcreate : w.createPod pod c.podUID = (.ok pod', w') := writeResult_eq h nofun
  unfold createPod at hcreate
  split at hcreate <;> cases hcreate
  exact ⟨rfl, (Table.lookup_insert_eq _ _ _ _).trans (if_pos rfl)⟩

theorem exec_pods (op : Op) (c : Choice) (w : World) : (exec op c w).2.pods = w.pods ∨
    (∃ pod, op = .createPod pod ∧
      (exec op c w).2.pods = w.pods.insert pod.key { pod with uid := c.podUID }) ∨
    ∃ k, op = .deletePod k ∧ (exec op c w).2.pods = w.pods.erase k := by
  have hwrite : ∀ {α : Type} {res : Except ApiError α × World}, res.2.pods = w.pods →
      (writeResult c w res).2.pods = w.pods :=
    fun h => writeResult_state (P := fun w' => w'.pods = w.pods) rfl h
  cases op with
  | createPod pod =>
      refine writeResult_state (P := fun w' => w'.pods = w.pods ∨
        (∃ pod', Op.createPod pod = .createPod pod' ∧
        w'.pods = w.pods.insert pod'.key { pod' with uid := c.podUID }) ∨ ∃ k,
        Op.createPod pod = .deletePod k ∧ w'.pods = w.pods.erase k) (Or.inl rfl) ?_
      unfold createPod
      split
      · exact Or.inl rfl
      · exact Or.inr (Or.inl ⟨pod, rfl, rfl⟩)
  | deletePod k =>
      refine writeResult_state (P := fun w' => w'.pods = w.pods ∨
        (∃ pod', Op.deletePod k = .createPod pod' ∧
        w'.pods = w.pods.insert pod'.key { pod' with uid := c.podUID }) ∨ ∃ k',
        Op.deletePod k = .deletePod k' ∧ w'.pods = w.pods.erase k') (Or.inl rfl) ?_
      unfold deletePod
      split
      · exact Or.inl rfl
      · cases c.podLingers
        · exact Or.inr (Or.inr ⟨k, rfl, rfl⟩)
        · exact Or.inl rfl
  | updateTunnel x => exact Or.inl (hwrite (writeTunnel_pods _ _ _))
  | patchStatus x base => exact Or.inl (hwrite (writeTunnel_pods _ _ _))
  | deleteTunnel k => exact Or.inl (hwrite (writeTunnel_pods _ _ _))
  | createNetworkPolicy p =>
      exact Or.inl (hwrite (by unfold createNetworkPolicy; split <;> rfl))
  | updateNetworkPolicy p =>
      exact Or.inl (hwrite (by unfold updateNetworkPolicy; split <;> rfl))
  | deleteNetworkPolicy k =>
      exact Or.inl (hwrite (by unfold deleteNetworkPolicy; split <;> rfl))
  | fetchGatewayStatus pod =>
      cases hg : c.gatewayStatus <;> exact Or.inl (by simp [exec, recordFetch, hg])
  | _ => exact Or.inl rfl

theorem exec_pod_found {op : Op} {c : Choice} {k : NamespacedName} {pod : Pod}
    (h : (exec op c w).2.pods.lookup k = some pod) : w.pods.lookup k = some pod ∨
      ∃ x, op = .createPod x ∧ k = x.key ∧ pod = { x with uid := c.podUID } := by
  rcases exec_pods op c w with hp | ⟨x, hop, hp⟩ | ⟨k', -, hp⟩ <;> rw [hp] at h
  · exact Or.inl h
  · rw [Table.lookup_insert_eq] at h
    split_ifs at h with hkey
    · cases h
      exact Or.inr ⟨x, hop, hkey, rfl⟩
    · exact Or.inl h
  · rw [Table.lookup_erase_eq] at h
    split_ifs at h
    exact Or.inl h

/-- The NetworkPolicies after an operation: as before, with one written, or with one deleted. -/
def PolicyWrite (op : Op) (w w' : World) : Prop :=
  w'.policies = w.policies ∨
    (∃ p, (op = .createNetworkPolicy p ∨ op = .updateNetworkPolicy p) ∧
      w'.policies = w.policies.insert p.key p) ∨
    ∃ k, op = .deleteNetworkPolicy k ∧ w'.policies = w.policies.erase k

theorem exec_policies (op : Op) (c : Choice) (w : World) :
    PolicyWrite op w (exec op c w).2 := by
  have hwrite : ∀ {α : Type} {p : Except ApiError α × World}, PolicyWrite op w p.2 →
      PolicyWrite op w (World.writeResult c w p).2 :=
    fun h => writeResult_state (P := PolicyWrite op w) (Or.inl rfl) h
  have htunnel : ∀ (key : NamespacedName) (change : Tunnel → Except ApiError Tunnel),
      PolicyWrite op w (w.writeTunnel key change).2 := fun key change =>
    writeTunnel_state (P := PolicyWrite op w) (Or.inl rfl) fun _ t _ _ => by
      exact Or.inl (storeTunnel_policies t w)
  cases op with
  | createNetworkPolicy p =>
      refine hwrite ?_
      unfold createNetworkPolicy
      split
      · exact Or.inl rfl
      · exact Or.inr (Or.inl ⟨p, Or.inl rfl, rfl⟩)
  | updateNetworkPolicy p =>
      refine hwrite ?_
      unfold updateNetworkPolicy
      split
      · exact Or.inl rfl
      · exact Or.inr (Or.inl ⟨p, Or.inr rfl, rfl⟩)
  | deleteNetworkPolicy k =>
      refine hwrite ?_
      unfold deleteNetworkPolicy
      split
      · exact Or.inl rfl
      · exact Or.inr (Or.inr ⟨k, rfl, rfl⟩)
  | updateTunnel x => exact hwrite (htunnel _ _)
  | patchStatus x base => exact hwrite (htunnel _ _)
  | deleteTunnel k => exact hwrite (p := w.deleteTunnel k) (htunnel _ _)
  | createPod pod => exact hwrite (by unfold createPod; split <;> exact Or.inl rfl)
  | deletePod k =>
      exact hwrite (by unfold deletePod; cases c.podLingers <;> split <;> exact Or.inl rfl)
  | fetchGatewayStatus pod =>
      cases hg : c.gatewayStatus <;> exact Or.inl (by simp [exec, recordFetch, hg])
  | _ => exact Or.inl rfl

theorem exec_policy_found {op : Op} {c : Choice} {k : NamespacedName} {p : NetworkPolicy}
    (h : (exec op c w).2.policies.lookup k = some p) : w.policies.lookup k = some p ∨
      (op = .createNetworkPolicy p ∨ op = .updateNetworkPolicy p) ∧ k = p.key := by
  rcases exec_policies op c w with hp | ⟨q, hop, hp⟩ | ⟨k', -, hp⟩ <;> rw [hp] at h
  · exact Or.inl h
  · rw [Table.lookup_insert_eq] at h
    split_ifs at h with hkey
    · cases h
      exact Or.inr ⟨hop, hkey⟩
    · exact Or.inl h
  · rw [Table.lookup_erase_eq] at h
    split_ifs at h
    exact Or.inl h

end World
end TunnelOperator
