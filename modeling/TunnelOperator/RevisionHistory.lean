import TunnelOperator.HeldPorts

/-!
# Mapping revisions under outdated reads

The manager's client reads from a cache, so `Reconcile` may work on an outdated version of
the Tunnel and of its gateway Pod, while its status patch is merged into the committed
status. The committed versions of one Tunnel form a history, and its revisions should order
it: they never decrease, and equal revisions stand for the same mapping.
-/

namespace TunnelOperator
open Interaction TunnelReconciler Scenario

/-- Besides the choices of the store, the versions that the cache would serve. -/
structure CachedChoice extends Choice where
  tunnelVersion : ℕ := 0
  podVersion : ℕ := 0

/-- A store behind a cache, with the committed versions of one Tunnel and of its gateway Pod,
oldest first, and the positions of the versions that were read last. -/
structure Cached where
  world : World
  tunnels : List Tunnel
  tunnelRead : ℕ
  pods : List (Option Pod)
  podRead : ℕ

namespace Cached

def start (k : NamespacedName) (w : World) : Cached :=
  ⟨w, (w.tunnels.lookup k).toList, 0, [w.pods.lookup (gatewayResourceKey k)], 0⟩

def position {α : Type} (versions : List α) (last wanted : ℕ) : ℕ :=
  max last (min wanted (versions.length - 1))

/-- Moves the store on and appends the versions that this commits. -/
def record (k : NamespacedName) (s : Cached) (w : World) : Cached :=
  { s with
    world := w
    tunnels :=
      if w.tunnels.lookup k = s.world.tunnels.lookup k then s.tunnels
      else s.tunnels ++ (w.tunnels.lookup k).toList
    pods :=
      if w.pods.lookup (gatewayResourceKey k) = s.world.pods.lookup (gatewayResourceKey k)
        then s.pods
      else s.pods ++ [w.pods.lookup (gatewayResourceKey k)] }

/-- The operations of a reconciliation of `k`, which reads no other Tunnel or Pod. -/
def exec (k : NamespacedName) : (op : Op) → CachedChoice → Cached → op.Ans × Cached
  | .getTunnel _, c, s =>
      let i := position s.tunnels s.tunnelRead c.tunnelVersion
      (World.getResult c.toChoice s.tunnels[i]?, { s with tunnelRead := i })
  | .getPod _, c, s =>
      let i := position s.pods s.podRead c.podVersion
      (World.getResult c.toChoice s.pods[i]?.join, { s with podRead := i })
  | op, c, s =>
      let a := World.exec op c.toChoice s.world
      (a.1, s.record k a.2)

end Cached

inductive PodEvent where
  | changed (status : PodStatus)
  | removed

def PodEvent.outside (k : NamespacedName) : PodEvent → World.Outside
  | .changed status => .setPodStatus (gatewayResourceKey k) status
  | .removed => .removePod (gatewayResourceKey k)

/-- Reconciliations of one Tunnel through a cache while its gateway Pod does anything. -/
def cachedOperator (r : TunnelReconciler) (k : NamespacedName) :
    Machine Op.Ans (Except String Result) Unit Cached CachedChoice PodEvent Empty where
  exec := Cached.exec k
  program := fun _ => r.reconcile k
  onStart := fun _ s => s
  env := fun e s => (s.world.outside (e.outside k)).map (s.record k)
  crash := fun e _ => e.elim

/-- The earlier status `s` and the later `s'` are in order. -/
structure Precedes (s s' : TunnelStatus) : Prop where
  revision : s.mappingRevision ≤ s'.mappingRevision
  mapping : s.mappingRevision = s'.mappingRevision → s.forwarderPort = s'.forwarderPort ∧
    s.gatewayPodUID = s'.gatewayPodUID ∧ s.gatewayPodIP = s'.gatewayPodIP

theorem Precedes.of_eq {s s' : TunnelStatus} (h : s' = s) : Precedes s s' := by
  subst h
  exact ⟨Int.le_refl _, fun _ => ⟨rfl, rfl, rfl⟩⟩

theorem Precedes.trans {s s' s'' : TunnelStatus} (h : Precedes s s') (h' : Precedes s' s'') :
    Precedes s s'' where
  revision := Int.le_trans h.revision h'.revision
  mapping := fun he => by
    have h₁ := h.revision
    have h₂ := h'.revision
    obtain ⟨hp, hu, hi⟩ := h.mapping (by omega)
    obtain ⟨hp', hu', hi'⟩ := h'.mapping (by omega)
    exact ⟨hp.trans hp', hu.trans hu', hi.trans hi'⟩

/-- When the outdated read does no harm: `base` carries the committed mapping and the counter has
not run out, or it already carries the mapping of the Pod, so that nothing is written, or the
committed mapping is the one that follows `base` and will only be repeated. -/
inductive Harmless (r : TunnelReconciler) (w : World) (base current : Tunnel) (pod : Pod) :
    Prop where
  | current : SameMapping base.status current.status →
      int64Succ base.status.mappingRevision = base.status.mappingRevision + 1 →
      Harmless r w base current pod
  | settled : base.status.forwarderPort ≠ 0 ∨ r.portAllocator = false →
      podDiffers base.status (gatewayResourceName base.key.name) pod = false →
      Harmless r w base current pod
  | repeated : current.status.mappingRevision = int64Succ base.status.mappingRevision →
      podDiffers current.status (gatewayResourceName base.key.name) pod = false →
      (base.status.forwarderPort = 0 → r.portAllocator = true →
        w.allocator.allocated.lookup (tunnelKey base.key) = some current.status.forwarderPort) →
      Harmless r w base current pod

def PatchesHarmlessly (r : TunnelReconciler) (tr : Trace) (s : Cached) : Prop :=
  ∀ tr' x base a, tr = tr' ++ [⟨.patchStatus x base, a⟩] → ∀ current pod,
    s.world.tunnels.lookup base.key = some current → HasPod r tr' base pod →
    Harmless r s.world base current pod

def harmlessReads (r : TunnelReconciler) : Machine.Conditions Op.Ans Cached PodEvent Empty where
  call := PatchesHarmlessly r

theorem mergeField_keeps {α : Type} [DecidableEq α] {base new current : α}
    (h : new = base ∨ new = current) : World.mergeField base new current = current := by
  unfold World.mergeField
  split_ifs with hne
  · exact h.resolve_left hne
  · rfl

theorem Precedes.of_keeps {base new current : TunnelStatus}
    (hport : new.forwarderPort = base.forwarderPort ∨ new.forwarderPort = current.forwarderPort)
    (huid : new.gatewayPodUID = base.gatewayPodUID ∨ new.gatewayPodUID = current.gatewayPodUID)
    (hip : new.gatewayPodIP = base.gatewayPodIP ∨ new.gatewayPodIP = current.gatewayPodIP)
    (hrev : new.mappingRevision = base.mappingRevision ∨
      new.mappingRevision = current.mappingRevision) :
    Precedes current (World.mergeStatus base new current) := by
  constructor
  · simp only [World.mergeStatus, mergeField_keeps hrev, Int.le_refl]
  · intro _
    simp only [World.mergeStatus, mergeField_keeps hport, mergeField_keeps huid,
      mergeField_keeps hip, and_self]

theorem Precedes.of_sameMapping {base new : TunnelStatus} (h : SameMapping base new)
    (current : TunnelStatus) : Precedes current (World.mergeStatus base new current) :=
  .of_keeps (Or.inl h.forwarderPort) (Or.inl h.gatewayPodUID) (Or.inl h.gatewayPodIP)
    (Or.inl h.mappingRevision)

theorem podDiffers_eq_false {s : TunnelStatus} {name : String} {pod : Pod}
    (h : podDiffers s name pod = false) :
    s.gatewayPodUID = pod.uid ∧ s.gatewayPodIP = pod.status.podIP := by
  simp only [podDiffers, Bool.or_eq_false_iff, decide_eq_false_iff_not, not_not] at h
  exact ⟨h.1.2, h.2⟩

section Computed

variable {r : TunnelReconciler} {req : NamespacedName} {tr : Trace} {t₀ base m : Tunnel} {pod : Pod}
  {allocated changed : Bool} {e : Evaluation}

theorem TunnelReconciler.Computed.sameMapping_of_unchanged
    (hc : Computed r req tr t₀ base pod allocated changed m e) (h : changed = false) :
    SameMapping base.status e.tunnel.status := by
  have hm := hc.toMapped.eq_of_unchanged h
  exact hm ▸ hc.evaluated.sameMapping

theorem TunnelReconciler.Mapped.unchanged_of_settled
    (hm : Mapped r req tr t₀ base pod allocated changed m)
    (hport : base.status.forwarderPort ≠ 0 ∨ r.portAllocator = false)
    (hpod : podDiffers base.status (gatewayResourceName base.key.name) pod = false) :
    changed = false := by
  obtain ⟨t, ⟨rfl, rfl, -⟩ | ⟨-, hzero, halloc, -⟩, hch, -⟩ := hm.hasPort
  · rw [hch, mappingChanged, hpod, Bool.or_false]
  · rcases hport with h | h
    · exact absurd hzero h
    · rw [halloc] at h
      cases h

theorem Harmless.precedes {w : World} {current : Tunnel} (h : Harmless r w base current pod)
    (hc : Computed r req tr t₀ base pod allocated changed m e)
    (hheld : ∀ p, Answered tr (.allocate (tunnelKey base.key)) (.ok p) →
      w.allocator.allocated.lookup (tunnelKey base.key) = some p) :
    Precedes current.status (World.mergeStatus base.status e.tunnel.status current.status) := by
  have hsame := hc.evaluated.sameMapping
  have hrev := hsame.mappingRevision.trans hc.toMapped.mappingRevision
  cases hch : changed with
  | false => exact .of_sameMapping (hc.sameMapping_of_unchanged hch) _
  | true =>
      rw [hch, if_pos rfl] at hrev
      cases h with
      | settled hport hpod =>
          have := hc.toMapped.unchanged_of_settled hport hpod
          rw [hch] at this
          cases this
      | current hcur hsucc =>
          have hmerged :
            (World.mergeStatus base.status e.tunnel.status current.status).mappingRevision =
              current.status.mappingRevision + 1 := by
            simp only [World.mergeStatus, hcur.mappingRevision, mergeField_base, hrev, hsucc]
          constructor
          · omega
          · intro he
            omega
      | repeated hnext hpod hport =>
          obtain ⟨huid, hip⟩ := podDiffers_eq_false hpod
          refine .of_keeps ?_ (Or.inr ?_) (Or.inr ?_) (Or.inr (hrev.trans hnext.symm))
          · rcases hc.toMapped.forwarderPort with ⟨hkeep, -⟩ | ⟨hzero, halloc, hans⟩
            · exact Or.inl (hsame.forwarderPort.trans hkeep)
            · have heq := (hheld _ hans).symm.trans (hport hzero halloc)
              exact Or.inr (hsame.forwarderPort.trans (Option.some.inj heq))
          · exact (hsame.gatewayPodUID.trans hc.toMapped.gatewayPodUID).trans huid.symm
          · exact (hsame.gatewayPodIP.trans hc.toMapped.gatewayPodIP).trans hip.symm

end Computed

theorem World.exec_nextUid (op : Op) (c : Choice) (w : World) :
    (World.exec op c w).2.nextUid = w.nextUid := by
  have hwrite : ∀ key change, (w.writeTunnel key change).2.nextUid = w.nextUid := fun _ _ =>
    World.writeTunnel_state (P := fun w' => w'.nextUid = w.nextUid) rfl fun _ t _ _ =>
      World.storeTunnel_nextUid t w
  cases h : op.writesTunnel with
  | false => exact (World.exec_sameTunnels h c w).nextUid
  | true =>
      cases op with
      | updateTunnel x =>
          exact World.writeResult_state (P := fun w' => w'.nextUid = w.nextUid) rfl (hwrite _ _)
      | patchStatus x base =>
          exact World.writeResult_state (P := fun w' => w'.nextUid = w.nextUid) rfl (hwrite _ _)
      | deleteTunnel key =>
          exact World.writeResult_state (P := fun w' => w'.nextUid = w.nextUid) rfl (hwrite _ _)
      | _ => cases h

/-- Every step of the store: the Tunnel `k` is not created by it, and what it stores under `k`
follows what was there. -/
def World.Orders (k : NamespacedName) (w w' : World) : Prop :=
  ∀ t', w'.tunnels.lookup k = some t' →
    ∃ t, w.tunnels.lookup k = some t ∧ Precedes t.status t'.status

theorem World.Orders.of_sameTunnels {k : NamespacedName} {w w' : World} (h : w.SameTunnels w') :
    w.Orders k w' :=
  fun t' ht => ⟨t', h.tunnels ▸ ht, .of_eq rfl⟩

theorem World.Orders.of_follows {k : NamespacedName} {w w' : World} (h : w.Follows w') (hwf : w'.WF)
    (hn : w'.nextUid = w.nextUid) : w.Orders k w' := by
  intro t' ht
  rcases h.back ht with ⟨t, ht, hl⟩ | ⟨hu, -⟩
  · exact ⟨t, ht, .of_eq hl.status⟩
  · have := hwf.uid ht
    omega

theorem World.Orders.of_patch {k : NamespacedName} {w : World} {x base : Tunnel}
    (hkey : x.key = base.key) (hw : w.WF) (h : ∀ current, w.tunnels.lookup base.key = some current →
      Precedes current.status (World.mergeStatus base.status x.status current.status))
        (c : Choice) :
    w.Orders k (World.exec (.patchStatus x base) c w).2 := by
  have hrefl : w.Orders k w := .of_sameTunnels ⟨rfl, rfl, rfl⟩
  refine World.writeResult_state (P := w.Orders k) hrefl ?_
  refine World.writeTunnel_state (P := w.Orders k) hrefl fun current t hl hc => ?_
  cases hc
  rw [hkey] at hl
  intro t' ht
  rcases World.storeTunnel_found ht with ⟨hk, rfl⟩ | ⟨-, ht⟩
  · rw [hk, hw.key hl]
    exact ⟨current, hl, h current hl⟩
  · exact ⟨t', ht, .of_eq rfl⟩

namespace Cached

variable {k : NamespacedName} {s : Cached} {w : World}

/-- The history of the Tunnel ends with what is stored and is in order. -/
structure Ordered (k : NamespacedName) (s : Cached) : Prop where
  wf : s.world.WF
  allocator : s.world.allocator.WF
  stored : ∀ t, s.world.tunnels.lookup k = some t → s.tunnels.getLast? = some t
  ordered : s.tunnels.Pairwise fun t t' => Precedes t.status t'.status

theorem Ordered.last (h : Ordered k s) {t t' : Tunnel} (ht : s.world.tunnels.lookup k = some t)
    (ht' : t' ∈ s.tunnels) : Precedes t'.status t.status := by
  obtain ⟨init, hinit⟩ := List.getLast?_eq_some_iff.mp (h.stored t ht)
  have hord := h.ordered
  rw [hinit] at hord ht'
  rcases List.mem_append.mp ht' with hmem | hmem
  · exact (List.pairwise_append.mp hord).2.2 t' hmem t (List.mem_singleton_self t)
  · exact .of_eq (by rw [List.mem_singleton.mp hmem])

theorem Ordered.record (h : Ordered k s) (hw : w.WF) (ha : w.allocator.WF)
    (ho : s.world.Orders k w) :
    Ordered k (s.record k w) where
  wf := hw
  allocator := ha
  stored := fun t ht => by
    simp only [Cached.record]
    split_ifs with hsame
    · exact h.stored t (hsame.symm.trans ht)
    · have hl : w.tunnels.lookup k = some t := ht
      simp [hl]
  ordered := by
    simp only [Cached.record]
    split_ifs with hsame
    · exact h.ordered
    · cases hl : w.tunnels.lookup k with
      | none => simpa using h.ordered
      | some t' =>
          obtain ⟨t, ht, hprec⟩ := ho t' hl
          refine List.pairwise_append.mpr ⟨h.ordered, List.pairwise_singleton _ _, ?_⟩
          intro t₁ h₁ t₂ h₂
          obtain rfl := List.mem_singleton.mp h₂
          exact (h.last ht h₁).trans hprec

theorem exec_cases {op : Op} {c : CachedChoice} {ans : op.Ans} {s' : Cached}
    (he : exec k op c s = (ans, s')) :
    (s'.world = s.world ∧ s'.tunnels = s.tunnels ∧
      ((∃ k', op = .getTunnel k') ∨ ∃ k', op = .getPod k')) ∨
      (World.exec op c.toChoice s.world = (ans, s'.world) ∧ s' = s.record k s'.world) := by
  cases op with
  | getTunnel k' =>
      obtain ⟨-, rfl⟩ := Prod.mk.inj he
      exact Or.inl ⟨rfl, rfl, Or.inl ⟨k', rfl⟩⟩
  | getPod k' =>
      obtain ⟨-, rfl⟩ := Prod.mk.inj he
      exact Or.inl ⟨rfl, rfl, Or.inr ⟨k', rfl⟩⟩
  | _ =>
      obtain ⟨hans, rfl⟩ := Prod.mk.inj he
      exact Or.inr ⟨Prod.ext hans rfl, rfl⟩

end Cached

/-- What a reconciliation through the cache knows: it has read one version only, and still holds
the port it has allocated. -/
structure ReadsOnce (k : NamespacedName) (tr : Trace) (s : Cached) : Prop where
  unique : ∀ {t t'}, Answered tr (.getTunnel k) (.ok t) → Answered tr (.getTunnel k) (.ok t') →
    t' = t
  held : AllocationsHeld k tr s.world

section Reconcile

variable {r : TunnelReconciler} {k : NamespacedName} {tr : Trace} {op : Op} {c : CachedChoice}
  {ans : op.Ans} {s s' : Cached}

theorem ReadsOnce.step (h : ReadsOnce k tr s) (ha : s.world.allocator.WF) (hn : Next r k tr op)
    (he : Cached.exec k op c s = (ans, s')) : ReadsOnce k (tr ++ [⟨op, ans⟩]) s' where
  unique := fun {t t'} ht ht' => by
    by_cases hop : op = .getTunnel k
    · subst hop
      obtain ⟨-, rfl⟩ := hn
      have h₁ := List.mem_singleton.mp ht
      have h₂ := List.mem_singleton.mp ht'
      exact Except.ok.inj (eq_of_heq (Call.mk.inj (h₂.trans h₁.symm)).2)
    · exact h.unique (Reads.old hop ht) (Reads.old hop ht')
  held := by
    rcases Cached.exec_cases he with ⟨hw, -, hread⟩ | ⟨hw, -⟩
    · rw [hw]
      refine h.held.extend ans ?_
      rcases hread with ⟨k', rfl⟩ | ⟨k', rfl⟩ <;> simp
    · exact h.held.step ha h.unique hn hw

theorem Cached.Ordered.step (hi : Cached.Ordered k s) (hr : ReadsOnce k tr s) (hn : Next r k tr op)
    (he : Cached.exec k op c s = (ans, s')) (ha : PatchesHarmlessly r (tr ++ [⟨op, ans⟩]) s) :
    Cached.Ordered k s' := by
  rcases Cached.exec_cases he with ⟨hw, ht, -⟩ | ⟨hw, hs'⟩
  · exact ⟨hw ▸ hi.wf, hw ▸ hi.allocator, fun t hl => by rw [ht]; exact hi.stored t (hw ▸ hl),
      ht ▸ hi.ordered⟩
  have hwf := World.exec_wf hi.wf op c.toChoice
  have halloc := World.exec_allocator_wf hi.allocator op c.toChoice
  rw [hw] at hwf halloc
  rw [hs']
  refine hi.record hwf halloc ?_
  cases hpatch : op.isPatch with
  | false =>
      have hf := World.exec_follows hi.wf hpatch c.toChoice
      have hu := World.exec_nextUid op c.toChoice s.world
      rw [hw] at hf hu
      exact .of_follows hf hwf hu
  | true =>
      cases op with
      | patchStatus x base =>
          obtain ⟨t₀, pod, allocated, changed, m, e, hc, -, rfl⟩ := hn
          have horders := World.Orders.of_patch (k := k) hc.key_eq hi.wf (fun current hl =>
            (ha tr _ base ans rfl current pod hl hc.hasPod).precedes hc
              fun p hans => (hr.held _ p hans).2) c.toChoice
          rwa [hw] at horders
      | _ => cases hpatch

end Reconcile

def revisionDiscipline (r : TunnelReconciler) (k : NamespacedName) :
    Discipline Op.Ans Cached CachedChoice where
  exec := Cached.exec k
  allowed := PatchesHarmlessly r
  inv := Cached.Ordered k
  rely := fun s s' => s'.world.allocator = s.world.allocator
  goal := fun _ _ _ => True
  rely_refl := fun _ => rfl
  rely_trans := fun h h' => h'.trans h

theorem cachedOperator_ordered (r : TunnelReconciler) (k : NamespacedName) {w₀ : World} (hw : w₀.WF)
    (ha : w₀.allocator.WF) {g : Config Op.Ans (Except String Result) Unit Cached}
    (hg : (cachedOperator r k).Reaches (harmlessReads r) (Cached.start k w₀) g) :
    Cached.Ordered k g.state := by
  have h₀ : Cached.Ordered k (Cached.start k w₀) := by
    refine ⟨hw, ha, fun t ht => ?_, ?_⟩
    · have hl : w₀.tunnels.lookup k = some t := ht
      simp [Cached.start, hl]
    · cases hl : w₀.tunnels.lookup k <;> simp [Cached.start, hl]
  refine (Machine.reaches_safe (M := cachedOperator r k) (D := revisionDiscipline r k)
    (C := harmlessReads r) rfl (fun _ _ h => h) ?_ (fun e => e.elim) ?_ h₀ hg).1
  · intro e s s' _ hi he
    obtain ⟨w', hw', rfl⟩ := Option.map_eq_some_iff.mp he
    have hproc := World.outside_sameProcess hw'
    have hsame : s.world.SameTunnels w' := by
      cases e with
      | changed status =>
          obtain ⟨pod, -, rfl⟩ := Option.map_eq_some_iff.mp hw'
          exact ⟨rfl, rfl, rfl⟩
      | removed => cases hw'; exact ⟨rfl, rfl, rfl⟩
    exact ⟨hi.record (hsame.wf hi.wf) (hproc.allocator ▸ hi.allocator) (.of_sameTunnels hsame),
      hproc.allocator⟩
  · intro _ s hi
    refine ⟨hi, (Discipline.Safe.of_traces (A := ReadsOnce k) ?_ ?_ (reconcile_logic r k)
      ⟨(fun h => by cases h), (fun _ _ h => by cases h)⟩).mono fun _ _ _ _ => trivial⟩
    · intro tr s s' h hrely _
      refine ⟨h.unique, h.held.keeps ?_⟩
      rw [show s'.world.allocator = s.world.allocator from hrely]
      exact fun _ _ hk => hk
    · intro tr op hP c s ans s' h hi he hall
      exact ⟨hi.step h hP.1 he hall, trivial, h.step hi.allocator hP.1 he⟩

/-- In every run whose status patches are harmless, revisions never decrease along the committed
versions of the Tunnel, and versions with the same revision record the same mapping. -/
theorem revision_identifies_mapping (r : TunnelReconciler) (k : NamespacedName) {w₀ : World}
    (hw : w₀.WF) (ha : w₀.allocator.WF) {g : Config Op.Ans (Except String Result) Unit Cached}
    (hg : (cachedOperator r k).Reaches (harmlessReads r) (Cached.start k w₀) g)
    {i j : ℕ} (hij : i ≤ j) {t t' : Tunnel} (ht : g.state.tunnels[i]? = some t)
    (ht' : g.state.tunnels[j]? = some t') :
    t.status.mappingRevision ≤ t'.status.mappingRevision ∧
      (t.status.mappingRevision = t'.status.mappingRevision →
        t.status.forwarderPort = t'.status.forwarderPort ∧
        t.status.gatewayPodUID = t'.status.gatewayPodUID ∧
        t.status.gatewayPodIP = t'.status.gatewayPodIP) := by
  have hord := (cachedOperator_ordered r k hw ha hg).ordered
  have hprec : Precedes t.status t'.status := by
    rcases Nat.eq_or_lt_of_le hij with rfl | hlt
    · rw [ht] at ht'
      cases ht'
      exact .of_eq rfl
    · obtain ⟨hi', rfl⟩ := List.getElem?_eq_some_iff.mp ht
      obtain ⟨hj', rfl⟩ := List.getElem?_eq_some_iff.mp ht'
      exact List.pairwise_iff_getElem.mp hord i j hi' hj' hlt
  exact ⟨hprec.revision, hprec.mapping⟩

/-- The first `Reconcile` creates the Pod, and then the Pod gets its address. -/
def firstMapping : List (Event Unit CachedChoice PodEvent Empty) :=
  [.start ()] ++ List.replicate 3 (.call {}) ++ [.call { podUID := "first" }] ++
    List.replicate 6 (.call {}) ++ [.env (.changed (running "10.1.0.1"))]

/-- A second `Reconcile` that reads the given version of the Tunnel and the current Pod. -/
def remapping (version calls : ℕ) : List (Event Unit CachedChoice PodEvent Empty) :=
  [.start (), .call { tunnelVersion := version }, .call { podVersion := 2 }] ++
    List.replicate calls (.call {})

/-- A status patch at the end of the trace is against the committed status. -/
def patchesCommitted (tr : Trace) (s : Cached) : Bool :=
  match tr.getLast? with
  | some ⟨.patchStatus _ base, _⟩ => (s.world.tunnels.lookup base.key).all fun current =>
      current.status = base.status &&
        int64Succ base.status.mappingRevision = base.status.mappingRevision + 1
  | _ => true

theorem patchesCommitted_harmless (r : TunnelReconciler) {tr : Trace} {s : Cached}
    (h : patchesCommitted tr s = true) : PatchesHarmlessly r tr s := by
  rintro tr' x base a rfl current pod hl -
  simp only [patchesCommitted, List.getLast?_concat, hl, Option.all_some, Bool.and_eq_true,
    decide_eq_true_eq] at h
  exact .current (h.1 ▸ SameMapping.refl _) h.2

theorem revision_identifies_remapping : ∃ g t t',
    (cachedOperator provisioningReconciler key).Reaches (harmlessReads provisioningReconciler)
      (Cached.start key (createdWorld (PortAllocator.new 1 2))) g ∧
      g.state.tunnels[2]? = some t ∧ g.state.tunnels[3]? = some t' ∧
      t.status.gatewayPodIP ≠ t'.status.gatewayPodIP ∧
      t.status.mappingRevision < t'.status.mappingRevision := by
  obtain ⟨g, hg, hP⟩ := Machine.exists_reaches (M := cachedOperator provisioningReconciler key)
    (C := harmlessReads provisioningReconciler) (K := { call := patchesCommitted })
    (s := Cached.start key (createdWorld (PortAllocator.new 1 2))) (fun _ _ _ => trivial)
    (fun e => e.elim)
    (fun _ _ h => patchesCommitted_harmless _ h) (l := firstMapping ++ remapping 2 4)
    (P := fun g => g.state.tunnels[2]?.any fun t => g.state.tunnels[3]?.any fun t' =>
      t.status.gatewayPodIP ≠ t'.status.gatewayPodIP) (by rfl)
  obtain ⟨t, ht, hP⟩ := (Option.any_eq_true _ _).mp hP
  obtain ⟨t', ht', hP⟩ := (Option.any_eq_true _ _).mp hP
  have hne : t.status.gatewayPodIP ≠ t'.status.gatewayPodIP := by simpa using hP
  obtain ⟨hle, hmap⟩ := revision_identifies_mapping provisioningReconciler key (createdWorld_wf _)
    (PortAllocator.new_wf 1 2) hg (by decide) ht ht'
  refine ⟨g, t, t', hg, ht, ht', hne, ?_⟩
  by_contra hlt
  exact hne (hmap (by omega)).2.2

/-- The second `Reconcile` reads the version from before the first status patch, so it reuses the
revision of that patch for another address. -/
theorem revision_reused_by_outdated_read : ∃ g t t',
    (cachedOperator provisioningReconciler key).Reaches {}
      (Cached.start key (createdWorld (PortAllocator.new 1 2))) g ∧
      g.state.tunnels[2]? = some t ∧ g.state.tunnels[3]? = some t' ∧
      t.status.mappingRevision = t'.status.mappingRevision ∧
      t.status.gatewayPodIP ≠ t'.status.gatewayPodIP := by
  obtain ⟨g, hg, hP⟩ := Machine.exists_free_reaches (M := cachedOperator provisioningReconciler key)
    (s := Cached.start key (createdWorld (PortAllocator.new 1 2)))
    (l := firstMapping ++ remapping 1 6)
    (P := fun g => g.state.tunnels[2]?.any fun t => g.state.tunnels[3]?.any fun t' =>
      t.status.mappingRevision = t'.status.mappingRevision &&
        t.status.gatewayPodIP ≠ t'.status.gatewayPodIP) (by rfl)
  obtain ⟨t, ht, hP⟩ := (Option.any_eq_true _ _).mp hP
  obtain ⟨t', ht', hP⟩ := (Option.any_eq_true _ _).mp hP
  simp only [Bool.and_eq_true, decide_eq_true_eq] at hP
  exact ⟨g, t, t', hg, ht, ht', hP⟩

end TunnelOperator
