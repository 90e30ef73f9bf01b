import TunnelOperator.FixedPoint
import TunnelOperator.PortProbe
import TunnelOperator.Undisturbed

/-!
# Reconciliations without faults

`Reconcile` on a store that nobody else writes to, when no API call fails. The answers of the
gateway, of the forwarders and of the forwarder service remain open. Step by step every part of the
program succeeds, so an error says that the target is not valid or that there is no port left, and
the rounds of a new Tunnel and of a deleted one can be followed to their end.
-/

namespace TunnelOperator
open Interaction TunnelReconciler

/-- The program returns a value with `post`, when nothing else runs and the choices are admitted. -/
def Succeeds {α : Type} (ok : Choice → Prop) (p : Prog (Except String α)) (post : α → World → Prop)
    (w : World) : Prop :=
  p.Ensures World.exec ok (fun x w' => ∃ a, x = .ok a ∧ post a w') w

section Rules

variable {α β : Type} {ok : Choice → Prop} {w : World}

theorem Succeeds.orReturn {p : Prog (Except String α)} {mid : α → World → Prop}
    (hp : Succeeds ok p mid w) {f : α → Prog (Except String β)}
    {post : Except String β → World → Prop}
    (hf : ∀ a w', mid a w' → (f a).Ensures World.exec ok post w') :
    (orReturn p f).Ensures World.exec ok post w := by
  refine Program.Ensures.seq hp ?_
  rintro _ w' ⟨a, rfl, ha⟩
  exact hf a w' ha

theorem succeeds_pure {a : α} {post : α → World → Prop} (h : post a w) :
    Succeeds ok (pure (.ok a)) post w :=
  ⟨a, rfl, h⟩

theorem Succeeds.mono {p : Prog (Except String α)} {post post' : α → World → Prop}
    (hp : Succeeds ok p post w) (h : ∀ a w', post a w' → post' a w') : Succeeds ok p post' w :=
  Program.Ensures.mono (fun _ _ ⟨a, ha, hpost⟩ => ⟨a, ha, h a _ hpost⟩) hp

theorem succeeds_attempt {context : String} {p : Prog (Except ApiError α)} {post : α → World → Prop}
    (h : p.Ensures World.exec ok (fun x w' => ∃ a, x = .ok a ∧ post a w') w) :
    Succeeds ok (attempt context p) post w := by
  refine Program.Ensures.seq h ?_
  rintro _ w' ⟨a, rfl, ha⟩
  exact ⟨a, rfl, ha⟩

end Rules

section Calls

variable {α : Type} {c : Choice} {w : World}

theorem writeResult_faultless (h : c.failure = none) (result : Except ApiError α × World) :
    World.writeResult c w result = result := by
  simp only [World.writeResult, h]

theorem getResult_some (h : c.failure = none) (a : α) : World.getResult c (some a) = .ok a := by
  simp only [World.getResult, h]

theorem getResult_none (h : c.failure = none) :
    World.getResult c (none : Option α) = .error .notFound := by
  simp only [World.getResult, h]

theorem updateTunnel_stored {t : Tunnel} (ht : w.tunnels.lookup t.key = some t) (fs : List String) :
    w.updateTunnel { t with finalizers := fs } =
      (.ok { t with finalizers := fs, resourceVersion := w.version + 1 },
        w.storeTunnel { t with finalizers := fs }) := by
  simp only [World.updateTunnel, World.writeTunnel, ht, ne_eq, not_true, if_false]

theorem patchStatus_stored {x cur : Tunnel} (base : Tunnel)
    (hcur : w.tunnels.lookup x.key = some cur) :
    let t := { cur with status := World.mergeStatus base.status x.status cur.status }
    w.patchStatus x base = (.ok { t with resourceVersion := w.version + 1 }, w.storeTunnel t) := by
  simp only [World.patchStatus, World.writeTunnel, hcur]

end Calls

/-- What holds of every store that the operator and its environment produce. -/
structure World.Sound (w : World) : Prop where
  tunnels : w.WF
  allocator : w.allocator.WF
  policies : ∀ {k p}, w.policies.lookup k = some p → p.key = k

section Provisioning

variable {ok : Choice → Prop} {req : NamespacedName} {w₀ w : World} {t base : Tunnel}
  {r : TunnelReconciler}

/-- A run that started on `w₀` has read `base` and has not come to its status. -/
structure Equips (req : NamespacedName) (w₀ : World) (base : Tunnel) (w : World) : Prop where
  stored : w.tunnels.lookup req = some base
  key : base.key = req
  notDeleting : base.deletionTimestamp = false
  allocator : w.allocator = w₀.allocator
  policies : ∀ {p}, w.policies.lookup (gatewayResourceKey req) = some p →
    p.key = gatewayResourceKey req

def FoundOrNew (w : World) (req : NamespacedName) (pod : Pod) : Prop :=
  w.pods.lookup (gatewayResourceKey req) = some pod ∨
    (w.pods.lookup (gatewayResourceKey req) = none ∧ pod.status = {})

variable (hok : ∀ c, ok c → c.failure = none)

include hok

theorem ensureFinalizer_succeeds (hw : w.Sound) (ht : w.tunnels.lookup req = some t)
    (hd : t.deletionTimestamp = false) :
    Succeeds ok (ensureFinalizer t)
      (fun base w' => Equips req w base w' ∧ base.spec = t.spec ∧ base.status = t.status ∧
        w'.pods = w.pods) w := by
  have hkey := hw.tunnels.key ht
  unfold ensureFinalizer
  split_ifs with hf
  · exact succeeds_pure ⟨⟨ht, hkey, hd, rfl, fun hp => hw.policies hp⟩, rfl, rfl, rfl⟩
  · refine succeeds_attempt fun c hc => ?_
    have hstored : w.tunnels.lookup t.key = some t := by rwa [hkey]
    have hexec : World.exec (.updateTunnel (addFinalizer t)) c w =
        (.ok { addFinalizer t with resourceVersion := w.version + 1 },
          w.storeTunnel (addFinalizer t)) :=
      (writeResult_faultless (hok c hc) _).trans (updateTunnel_stored hstored _)
    rw [hexec]
    refine ⟨_, rfl, ⟨storeTunnel_lookup_live hkey hd, hkey, hd, ?_, ?_⟩, rfl, rfl,
      World.storeTunnel_pods _ _⟩
    · exact (World.storeTunnel_sameProcess _ _).allocator
    · rw [World.storeTunnel_policies]
      exact fun hp => hw.policies hp

theorem ensureGatewayPod_succeeds (h : Equips req w₀ base w) :
    Succeeds ok (r.ensureGatewayPod base) (fun pod w' => Equips req w₀ base w' ∧
      w'.pods.lookup (gatewayResourceKey req) = some pod ∧ FoundOrNew w req pod) w := by
  have hkey := h.key
  subst hkey
  intro c hc
  change Program.Ensures _ _ _ (Program.bind (.pure (World.getResult c _)) _) w
  cases hpod : w.pods.lookup (gatewayResourceKey base.key) with
  | some pod =>
      rw [getResult_some (hok c hc)]
      exact ⟨pod, rfl, h, hpod, Or.inl hpod⟩
  | none =>
      rw [getResult_none (hok c hc)]
      refine succeeds_attempt fun c hc => ?_
      have hexec : World.exec (.createPod (gatewayPod r base)) c w =
          w.createPod (gatewayPod r base) c.podUID := writeResult_faultless (hok c hc) _
      have hnew : w.pods.lookup (gatewayPod r base).key = none := hpod
      rw [hexec, World.createPod, hnew]
      refine ⟨_, rfl, ⟨h.stored, rfl, h.notDeleting, h.allocator, h.policies⟩, ?_,
        Or.inr ⟨hpod, rfl⟩⟩
      exact (Table.lookup_insert_eq _ _ _ _).trans (if_pos rfl)

theorem ensureNetworkPolicy_succeeds (h : Equips req w₀ base w) :
    Succeeds ok (ensureNetworkPolicy base) (fun _ w' => w'.tunnels = w.tunnels ∧
      w'.allocator = w.allocator ∧ w'.pods = w.pods) w := by
  have hkey := h.key
  subst hkey
  intro c hc
  change Program.Ensures _ _ _ (Program.bind (.pure (World.getResult c _)) _) w
  cases hpolicy : w.policies.lookup (gatewayResourceKey base.key) with
  | none =>
      rw [getResult_none (hok c hc)]
      refine succeeds_attempt fun c hc => ?_
      have hexec : World.exec (.createNetworkPolicy (networkPolicy base)) c w =
          w.createNetworkPolicy (networkPolicy base) := writeResult_faultless (hok c hc) _
      have hnew : w.policies.lookup (networkPolicy base).key = none := hpolicy
      rw [hexec, World.createNetworkPolicy, hnew]
      exact ⟨(), rfl, rfl, rfl, rfl⟩
  | some existing =>
      rw [getResult_some (hok c hc)]
      change Program.Ensures _ _ _ (if _ then _ else _) w
      split_ifs
      · exact succeeds_pure ⟨rfl, rfl, rfl⟩
      · refine succeeds_attempt fun c hc => ?_
        have hexec : World.exec (.updateNetworkPolicy (mutatePolicy base existing)) c w =
            w.updateNetworkPolicy (mutatePolicy base existing) := writeResult_faultless (hok c hc) _
        have hold : w.policies.lookup (mutatePolicy base existing).key = some existing := by
          change w.policies.lookup existing.key = some existing
          rw [h.policies hpolicy, hpolicy]
        rw [hexec, World.updateNetworkPolicy, hold]
        exact ⟨(), rfl, rfl, rfl, rfl⟩

end Provisioning

section Status

variable {ok : Choice → Prop} {w : World} {t base : Tunnel} {r : TunnelReconciler}

/-- The Tunnel has a port, needs none, or can be given one. -/
def PortAvailable (r : TunnelReconciler) (a : PortAllocator) (t : Tunnel) : Prop :=
  t.status.forwarderPort ≠ 0 ∨ r.portAllocator = false ∨
    a.allocated.lookup (tunnelKey t.key) ≠ none ∨
    ∃ p, a.minPort ≤ p ∧ p ≤ a.maxPort ∧ a.used.lookup p = none

theorem allocate_available {a : PortAllocator} {key : String}
    (h : a.allocated.lookup key ≠ none ∨ ∃ p, a.minPort ≤ p ∧ p ≤ a.maxPort ∧
      a.used.lookup p = none)
    (start : ℕ) : ∃ p a', a.allocate start key = (.ok p, a') := by
  unfold PortAllocator.allocate
  cases hl : a.allocated.lookup key with
  | some p => exact ⟨p, a, rfl⟩
  | none =>
      cases hp : a.probe start a.rangeSize 0 with
      | some p => exact ⟨p, _, rfl⟩
      | none =>
          rw [PortAllocator.probe_eq_none_iff] at hp
          rcases h with hne | ⟨p, hlo, hhi, hfree⟩
          · exact absurd hl hne
          · exact absurd hfree (hp p hlo hhi)

theorem allocate_unavailable {a : PortAllocator} {key : String}
    (h : ¬ (a.allocated.lookup key ≠ none ∨ ∃ p, a.minPort ≤ p ∧ p ≤ a.maxPort ∧
      a.used.lookup p = none))
    (start : ℕ) : a.allocate start key = (.error PortAllocator.errRangeExhausted, a) := by
  rw [not_or, not_not] at h
  have hp : a.probe start a.rangeSize 0 = none := by
    rw [PortAllocator.probe_eq_none_iff]
    exact fun p hlo hhi hfree => h.2 ⟨p, hlo, hhi, hfree⟩
  simp only [PortAllocator.allocate, h.1, hp]

theorem assignPort_succeeds (h : PortAvailable r w.allocator base) :
    Succeeds ok (r.assignPort base) (fun x w' => x.1.key = base.key ∧
      (x.2 = false → x.1 = base) ∧ w'.tunnels = w.tunnels ∧ w'.pods = w.pods) w := by
  unfold assignPort
  split_ifs with hneed
  · intro c hc
    have havailable := (h.resolve_left (not_not.mpr hneed.1)).resolve_left (by simp [hneed.2])
    obtain ⟨p, a', hp⟩ := allocate_available havailable c.start
    have hexec : World.exec (.allocate (tunnelKey base.key)) c w =
        (.ok p, { w with allocator := a' }) := by
      simp only [World.exec, hp]
    rw [hexec]
    exact fun c hc => ⟨_, rfl, rfl, (fun h => by cases h), rfl, rfl⟩
  · exact succeeds_pure ⟨rfl, fun _ => rfl, rfl, rfl⟩

theorem assignPort_fails (h : ¬ PortAvailable r w.allocator base) :
    (r.assignPort base).Ensures World.exec ok (fun x _ => ∃ err, x = .error err) w := by
  simp only [PortAvailable, not_or, not_not] at h
  obtain ⟨hzero, hyes, hnone, hused⟩ := h
  have hneed : base.status.forwarderPort = 0 ∧ r.portAllocator = true :=
    ⟨hzero, by simpa using hyes⟩
  rw [assignPort, if_pos hneed]
  intro c hc
  have hexec : World.exec (.allocate (tunnelKey base.key)) c w =
      (.error PortAllocator.errRangeExhausted, w) := by
    have hfull := allocate_unavailable (not_or.mpr ⟨not_not.mpr hnone, hused⟩) c.start
    simp only [World.exec, hfull]
  rw [hexec]
  exact ⟨_, rfl⟩

def SameObjects (w w' : World) : Prop := w'.tunnels = w.tunnels ∧ w'.pods = w.pods

theorem resolveForwarderVIP_asks {w' : World} (hw : SameObjects w w') :
    r.resolveForwarderVIP.Ensures World.exec ok (fun _ w' => SameObjects w w') w' := by
  unfold resolveForwarderVIP
  dsimp only
  split_ifs
  · exact hw
  · exact hw
  · intro c hc
    change Program.Ensures _ _ _ (Program.bind (.pure c.service) _) w'
    cases c.service with
    | error e => exact hw
    | ok svc =>
        dsimp only [Program.bind]
        split <;> exact hw

/-- The evaluation is about the Tunnel it was given, and reports every change to it. -/
structure Reports (t : Tunnel) (e : Evaluation) : Prop where
  key : e.tunnel.key = t.key
  unchanged : e.updated = false → e.tunnel = t

def Evaluates (t : Tunnel) (w : World) (e : Evaluation) (w' : World) : Prop :=
  Reports t e ∧ SameObjects w w'

theorem reports_start (t : Tunnel) (requeueAfter : ℕ) : Reports t ⟨t, false, requeueAfter⟩ :=
  ⟨rfl, fun _ => rfl⟩

theorem updateForwarderEndpoint_asks {e : Evaluation} {w' : World} (h : Evaluates t w e w') :
    (r.updateForwarderEndpoint e).Ensures World.exec ok (Evaluates t w) w' := by
  refine Program.Ensures.seq (resolveForwarderVIP_asks h.2) ?_
  rintro (err | vip) w'' hw
  · exact ⟨⟨h.1.key, h.1.unchanged⟩, hw⟩
  · change Program.Ensures _ _ _ (if _ then _ else _) w''
    split_ifs
    · exact ⟨⟨h.1.key, fun hno => by cases hno⟩, hw⟩
    · exact ⟨h.1, hw⟩

theorem Reports.setPhaseMessage {e : Evaluation} (h : Reports t e) (phase : TunnelPhase)
    (message : String) : Reports t (setPhaseMessage e phase message) := by
  unfold TunnelReconciler.setPhaseMessage
  split_ifs
  · exact ⟨h.key, fun hno => by cases hno⟩
  · exact h

theorem Reports.setFinalPhase {e : Evaluation} (h : Reports t e) (phase : TunnelPhase)
    (message : String) : Reports t (setFinalPhase e phase message) := by
  unfold TunnelReconciler.setFinalPhase
  split_ifs
  · exact ⟨h.key, fun hno => by cases hno⟩
  · exact h

theorem Reports.setPublicKey {e : Evaluation} (h : Reports t e) (pubKey : String) :
    Reports t (setPublicKey e pubKey) := by
  unfold TunnelReconciler.setPublicKey
  split_ifs
  · exact ⟨h.key, fun hno => by cases hno⟩
  · exact h

theorem missingAcks_asks {t' : Tunnel} {w' : World} (hw : SameObjects w w') :
    (r.missingAcks t').Ensures World.exec ok (fun _ w' => SameObjects w w') w' := by
  unfold TunnelReconciler.missingAcks
  split_ifs
  · exact fun c hc => hw
  · exact hw

theorem handleReadyPod_asks {pod : Pod} :
    (r.handleReadyPod t pod).Ensures World.exec ok (Evaluates t w) w := by
  unfold handleReadyPod
  dsimp only
  split_ifs with hip
  · exact updateForwarderEndpoint_asks ⟨reports_start t 0, rfl, rfl⟩
  · intro c hc
    have hw : SameObjects w (World.recordFetch pod c.gatewayStatus w) := by
      cases c.gatewayStatus <;> exact ⟨rfl, rfl⟩
    change Program.Ensures _ _ _ (Program.bind (.pure c.gatewayStatus) _)
      (World.recordFetch pod c.gatewayStatus w)
    cases hstatus : c.gatewayStatus with
    | error err => exact updateForwarderEndpoint_asks ⟨reports_start t 2, rfl, rfl⟩
    | ok pubKey =>
        rw [hstatus] at hw
        change Program.Ensures _ _ _ (if _ then _ else _) _
        split_ifs with hkey
        · exact updateForwarderEndpoint_asks ⟨reports_start t 0, hw⟩
        · refine Program.Ensures.seq (missingAcks_asks hw) fun missing w' hw' => ?_
          change Program.Ensures _ _ _ (if _ then _ else _) w'
          have hphase := ((reports_start t 0).setPublicKey pubKey).setPhaseMessage
          split_ifs
          · exact ⟨⟨(hphase _ _).key, (hphase _ _).unchanged⟩, hw'⟩
          · exact updateForwarderEndpoint_asks ⟨hphase _ _, hw'⟩

theorem evaluatePodPhase_asks {pod : Pod} :
    (r.evaluatePodPhase t pod).Ensures World.exec ok (Evaluates t w) w := by
  unfold evaluatePodPhase
  dsimp only
  split_ifs
  · exact ⟨(reports_start t 0).setFinalPhase _ _, rfl, rfl⟩
  · exact ⟨(reports_start t 0).setFinalPhase _ _, rfl, rfl⟩
  · exact handleReadyPod_asks
  · exact ⟨(reports_start t 0).setPhaseMessage _ _, rfl, rfl⟩

theorem notifyTunnelUpdate_ensures {type : UpdateType} {post : Unit → World → Prop} {w' : World}
    (h : ∀ published, post () { w' with published := published }) :
    (r.notifyTunnelUpdate t type).Ensures World.exec ok post w' := by
  unfold notifyTunnelUpdate
  split_ifs
  · exact h w'.published
  · exact h w'.published
  · exact fun c hc => h _

/-- The Tunnel `t` is stored, with the specification it had. -/
def Keeps (req : NamespacedName) (base : Tunnel) (w : World) (t : Tunnel) (w' : World) : Prop :=
  w'.tunnels.lookup req = some t ∧ t.spec = base.spec ∧ w'.pods = w.pods

theorem patchStatus_succeeds (hok : ∀ c, ok c → c.failure = none) {context : String} {x : Tunnel}
    (hstored : w.tunnels.lookup x.key = some base) (hkey : base.key = x.key)
    (hd : base.deletionTimestamp = false) :
    Succeeds ok (attempt context (perform (.patchStatus x base))) (Keeps x.key base w) w := by
  have hcall : (perform (.patchStatus x base)).Ensures World.exec ok
      (fun y w' => ∃ t, y = .ok t ∧ Keeps x.key base w t w') w := by
    intro c hc
    have hexec : World.exec (.patchStatus x base) c w = w.patchStatus x base :=
      writeResult_faultless (hok c hc) _
    rw [hexec, patchStatus_stored base hstored]
    exact ⟨_, rfl, storeTunnel_lookup_live hkey hd, rfl, World.storeTunnel_pods _ _⟩
  exact succeeds_attempt hcall

theorem persistStatus_succeeds (hok : ∀ c, ok c → c.failure = none) {e : Evaluation}
    (hstored : w.tunnels.lookup e.tunnel.key = some base) (hkey : base.key = e.tunnel.key)
    (hd : base.deletionTimestamp = false) {changed : Bool} {type : UpdateType}
    (hsame : changed = false → e.updated = false → e.tunnel = base) :
    Succeeds ok (r.persistStatus e base changed type) (Keeps e.tunnel.key base w) w := by
  unfold persistStatus
  split_ifs with hpatch hchanged
  · refine (patchStatus_succeeds hok hstored hkey hd).orReturn fun t w' hw => ?_
    refine Program.Ensures.seq (Q := fun _ w' => Keeps e.tunnel.key base w t w') ?_
      fun _ w'' hw' => ⟨t, rfl, hw'⟩
    exact notifyTunnelUpdate_ensures fun _ => hw
  · exact (patchStatus_succeeds hok hstored hkey hd).orReturn fun t w' hw => ⟨t, rfl, hw⟩
  · rw [Bool.not_eq_true, Bool.or_eq_false_iff] at hpatch
    have heq := hsame hpatch.1 hpatch.2
    refine succeeds_pure ⟨?_, by rw [heq], rfl⟩
    rw [hstored, heq]

/-- What `republish` has told the forwarders. -/
def Republished (r : TunnelReconciler) (t : Tunnel) (w : World) : Prop :=
  r.forwarderServer = true → t.status.gatewayPodIP ≠ "" → t.status.gatewayPublicKey ≠ "" →
    t.status.phase ≠ .ready → 0 < t.status.mappingRevision → 0 < t.status.forwarderPort →
    ⟨.modified, some (notifiedMapping t)⟩ ∈ w.published

theorem republish_ensures {post : Unit → World → Prop} {w' : World}
    (h : ∀ published, Republished r t { w' with published := published } →
      post () { w' with published := published }) :
    (r.republish t).Ensures World.exec ok post w' := by
  unfold republish
  by_cases hall : r.forwarderServer ∧ t.status.gatewayPodIP ≠ "" ∧ t.status.gatewayPublicKey ≠ "" ∧
      t.status.phase ≠ .ready ∧ 0 < t.status.mappingRevision
  · rw [if_pos hall]
    unfold notifyTunnelUpdate
    split_ifs with hnone hmissing
    · refine h w'.published fun hserver _ _ _ _ hport => ?_
      rcases hnone with hnone | hnone
      · rw [hserver] at hnone
        cases hnone
      · omega
    · exact absurd hmissing.2 (not_or.mpr ⟨hall.2.1, hall.2.2.1⟩)
    · intro c hc
      exact h _ fun _ _ _ _ _ _ => List.mem_append_right _ (List.mem_singleton_self _)
  · rw [if_neg hall]
    exact h w'.published fun hserver hip hkey hphase hrev _ =>
      absurd ⟨hserver, hip, hkey, hphase, hrev⟩ hall

theorem reconcileStatus_succeeds (hok : ∀ c, ok c → c.failure = none) {req : NamespacedName}
    {pod : Pod} (hstored : w.tunnels.lookup req = some base) (hkey : base.key = req)
    (hd : base.deletionTimestamp = false) (hport : PortAvailable r w.allocator base) :
    Succeeds ok (r.reconcileStatus base pod)
      (fun _ w' => ∃ t, Keeps req base w t w' ∧ Republished r t w') w := by
  refine (assignPort_succeeds hport).orReturn
    fun assigned w₁ ⟨hkey₁, hsame₁, htunnels₁, hpods₁⟩ => ?_
  obtain ⟨t, allocated⟩ := assigned
  refine Program.Ensures.seq evaluatePodPhase_asks fun e w₂ h₂ => ?_
  have hreq : e.tunnel.key = req := h₂.1.key.trans (hkey₁.trans hkey)
  have hcur : w₂.tunnels.lookup e.tunnel.key = some base := by
    rw [h₂.2.1, htunnels₁, hreq]
    exact hstored
  have hpods : w₂.pods = w.pods := h₂.2.2.trans hpods₁
  have hsame : (allocated || podDiffers t.status (gatewayResourceName base.key.name) pod) = false →
      e.updated = false → e.tunnel = base := by
    intro hunchanged hupdated
    obtain ⟨hallocated, hdiffers⟩ := Bool.or_eq_false_iff.mp hunchanged
    rw [h₂.1.unchanged hupdated, hunchanged, recordPod_of_podDiffers _ _ _ hdiffers]
    exact hsame₁ hallocated
  refine (persistStatus_succeeds hok hcur (hkey.trans hreq.symm) hd hsame).orReturn
    fun t w₃ h₃ => ?_
  rw [hreq] at h₃
  obtain ⟨hlookup, hspec, hpods₃⟩ := h₃
  refine Program.Ensures.seq (Q := fun _ w' => Keeps req base w t w' ∧ Republished r t w') ?_
    fun _ w' hw => ⟨_, rfl, t, hw⟩
  exact republish_ensures fun _ hrepublished =>
    ⟨⟨hlookup, hspec, hpods₃.trans hpods⟩, hrepublished⟩

theorem reconcileStatus_fails {pod : Pod} (hport : ¬ PortAvailable r w.allocator base) :
    (r.reconcileStatus base pod).Ensures World.exec ok (fun x _ => ∃ err, x = .error err) w := by
  refine Program.Ensures.seq (assignPort_fails hport) ?_
  rintro _ w' ⟨err, rfl⟩
  exact ⟨err, rfl⟩

end Status

section Active

variable {ok : Choice → Prop} {req : NamespacedName} {w : World} {t : Tunnel} {r : TunnelReconciler}

/-- A run on `w` that read Tunnel `t` comes to the status of `base`, with `pod` as the gateway. -/
structure Equipped (req : NamespacedName) (w : World) (t base : Tunnel) (pod : Pod) (w' : World) :
    Prop where
  stored : w'.tunnels.lookup req = some base
  key : base.key = req
  notDeleting : base.deletionTimestamp = false
  spec : base.spec = t.spec
  status : base.status = t.status
  allocator : w'.allocator = w.allocator
  hasPod : w'.pods.lookup (gatewayResourceKey req) = some pod
  found : FoundOrNew w req pod

theorem activate_ensures (hok : ∀ c, ok c → c.failure = none) (hw : w.Sound)
    (ht : w.tunnels.lookup req = some t) (hd : t.deletionTimestamp = false)
    {post : Except String Result → World → Prop}
    (hstatus : ∀ base pod w', Equipped req w t base pod w' →
      (r.reconcileStatus base pod).Ensures World.exec ok post w') :
    (orReturn (ensureFinalizer t) r.reconcileGateway).Ensures World.exec ok post w := by
  refine (ensureFinalizer_succeeds hok hw ht hd).orReturn fun base w₁ ⟨h₁, hspec, hs, hpods⟩ => ?_
  refine (ensureGatewayPod_succeeds hok h₁).orReturn fun pod w₂ ⟨h₂, hpod, hfound⟩ => ?_
  refine (ensureNetworkPolicy_succeeds hok h₂).orReturn fun _ w₃ ⟨htunnels, halloc, hpods'⟩ => ?_
  exact hstatus base pod w₃
    { stored := by rw [htunnels]; exact h₂.stored
      key := h₂.key
      notDeleting := h₂.notDeleting
      spec := hspec
      status := hs
      allocator := halloc.trans h₂.allocator
      hasPod := by rw [hpods']; exact hpod
      found := by rwa [FoundOrNew, hpods] at hfound }

end Active

section Retirement

variable {ok : Choice → Prop} {req : NamespacedName} {w₀ w : World} {t : Tunnel}
  {r : TunnelReconciler}

/-- The Pod is gone, or it was there before and takes its time to terminate. -/
def GoneOrLingers (ok : Choice → Prop) (k : NamespacedName) (w w' : World) : Prop :=
  w'.pods.lookup k = none ∨ (w.pods.lookup k ≠ none ∧ ∃ c, ok c ∧ c.podLingers = true)

theorem deletePod_succeeds (hok : ∀ c, ok c → c.failure = none) {what : String}
    {k : NamespacedName} :
    Succeeds ok (deleteObject what (perform (.deletePod k)))
      (fun _ w' => w'.tunnels = w.tunnels ∧ GoneOrLingers ok k w w') w := by
  intro c hc
  have hexec : World.exec (.deletePod k) c w = w.deletePod k c.podLingers :=
    writeResult_faultless (hok c hc) _
  rw [hexec, World.deletePod]
  cases hpod : w.pods.lookup k with
  | none => exact ⟨(), rfl, rfl, Or.inl hpod⟩
  | some pod =>
      cases hlingers : c.podLingers with
      | true => exact ⟨(), rfl, rfl, Or.inr ⟨by rw [hpod]; simp, c, hc, hlingers⟩⟩
      | false =>
          exact ⟨(), rfl, rfl, Or.inl ((Table.lookup_erase_eq _ _ _).trans (if_pos rfl))⟩

theorem deleteNetworkPolicy_succeeds (hok : ∀ c, ok c → c.failure = none) {what : String}
    {k : NamespacedName} :
    Succeeds ok (deleteObject what (perform (.deleteNetworkPolicy k)))
      (fun _ w' => w'.tunnels = w.tunnels ∧
      w'.pods = w.pods ∧ w'.policies.lookup k = none) w := by
  intro c hc
  have hexec : World.exec (.deleteNetworkPolicy k) c w = w.deleteNetworkPolicy k :=
    writeResult_faultless (hok c hc) _
  rw [hexec, World.deleteNetworkPolicy]
  cases hpolicy : w.policies.lookup k with
  | none => exact ⟨(), rfl, rfl, rfl, hpolicy⟩
  | some policy => exact ⟨(), rfl, rfl, rfl, (Table.lookup_erase_eq _ _ _).trans (if_pos rfl)⟩

/-- The gateway of the Tunnel is gone, up to a Pod that was there in `w₀` and lingers. -/
structure GatewayGone (ok : Choice → Prop) (req : NamespacedName) (w₀ w : World) : Prop where
  pod : GoneOrLingers ok (gatewayResourceKey req) w₀ w
  policy : w.policies.lookup (gatewayResourceKey req) = none

theorem GatewayGone.store (h : GatewayGone ok req w₀ w) (t : Tunnel) :
    GatewayGone ok req w₀ (w.storeTunnel t) where
  pod := by
    rw [GoneOrLingers, World.storeTunnel_pods]
    exact h.pod
  policy := by
    rw [World.storeTunnel_policies]
    exact h.policy

theorem deleteGatewayResources_succeeds (hok : ∀ c, ok c → c.failure = none) (hkey : t.key = req) :
    Succeeds ok (deleteGatewayResources t)
      (fun _ w' => w'.tunnels = w.tunnels ∧ GatewayGone ok req w w') w := by
  subst hkey
  refine (deletePod_succeeds hok).orReturn fun _ w₁ ⟨htunnels, hpod⟩ => ?_
  refine (deleteNetworkPolicy_succeeds hok).mono fun _ w₂ ⟨htunnels', hpods, hpolicy⟩ => ?_
  refine ⟨htunnels'.trans htunnels, ?_, hpolicy⟩
  rw [GoneOrLingers, hpods]
  exact hpod

/-- What a Tunnel that is retired from `w₀` on leaves behind, up to the finalizers of others. -/
structure Retired (r : TunnelReconciler) (ok : Choice → Prop) (t : Tunnel) (w₀ w : World) :
    Prop where
  gateway : GatewayGone ok t.key w₀ w
  port : r.portAllocator = true → w.allocator.allocated.lookup (tunnelKey t.key) = none
  tunnel : (∀ f ∈ t.finalizers, f = finalizerName) → w.tunnels.lookup t.key = none

theorem releaseForwarderPort_ensures {post : Unit → World → Prop}
    (h : ∀ allocator active, (r.portAllocator = true →
      allocator.allocated.lookup (tunnelKey t.key) = none) →
      post () { w with allocator := allocator, portAllocationsActive := active }) :
    (r.releaseForwarderPort t).Ensures World.exec ok post w := by
  unfold releaseForwarderPort
  split_ifs with hno
  · exact h w.allocator w.portAllocationsActive (by simp [hno])
  · intro c hc c' hc'
    exact h _ _ fun _ => (PortAllocator.release_lookup w.allocator _ _).trans (if_pos rfl)

theorem release_notify_ensures {f : Unit → Prog (Except String Unit)}
    {post : Except String Unit → World → Prop} (h : ∀ allocator active published,
      (r.portAllocator = true → allocator.allocated.lookup (tunnelKey t.key) = none) →
      (f ()).Ensures World.exec ok post
        { w with
          allocator := allocator, portAllocationsActive := active, published := published }) :
    ((r.releaseForwarderPort t).bind fun _ => (r.notifyTunnelUpdate t .deleted).bind f).Ensures
      World.exec ok post w := by
  refine Program.Ensures.seq (Q := fun _ w' => ∃ allocator active,
    (r.portAllocator = true → allocator.allocated.lookup (tunnelKey t.key) = none) ∧
      w' = { w with allocator := allocator, portAllocationsActive := active }) ?_ ?_
  · exact releaseForwarderPort_ensures fun allocator active hport => ⟨allocator, active, hport, rfl⟩
  · rintro _ _ ⟨allocator, active, hport, rfl⟩
    refine Program.Ensures.seq (Q := fun _ w' => ∃ published,
      w' = { w with
        allocator := allocator, portAllocationsActive := active, published := published }) ?_ ?_
    · exact notifyTunnelUpdate_ensures fun published => ⟨published, rfl⟩
    · rintro _ _ ⟨published, rfl⟩
      exact h allocator active published hport

theorem storeTunnel_lookup_gone (hkey : t.key = req) (hd : t.deletionTimestamp = true)
    (hf : t.finalizers = []) :
    (w.storeTunnel t).tunnels.lookup req = none := by
  rw [World.storeTunnel_lookup, if_pos hkey.symm, if_pos ⟨hd, hf⟩]

theorem removeFinalizer_finalizers (h : ∀ f ∈ t.finalizers, f = finalizerName) :
    (removeFinalizer t).finalizers = [] := by
  refine List.filter_eq_nil_iff.mpr fun f hf => ?_
  simp [h f hf]

theorem removeFinalizer_succeeds (hok : ∀ c, ok c → c.failure = none)
    (hstored : w.tunnels.lookup t.key = some t) :
    Succeeds ok (attempt "removing finalizer: " (perform (.updateTunnel (removeFinalizer t))))
      (fun t' w' => t' = { removeFinalizer t with resourceVersion := w.version + 1 } ∧
        w' = w.storeTunnel (removeFinalizer t)) w := by
  have hcall : (perform (.updateTunnel (removeFinalizer t))).Ensures World.exec ok
    (fun y w' => ∃ t', y = .ok t' ∧
      t' = { removeFinalizer t with resourceVersion := w.version + 1 } ∧
        w' = w.storeTunnel (removeFinalizer t)) w := by
    intro c hc
    have hexec : World.exec (.updateTunnel (removeFinalizer t)) c w =
        (.ok { removeFinalizer t with resourceVersion := w.version + 1 },
          w.storeTunnel (removeFinalizer t)) :=
      (writeResult_faultless (hok c hc) _).trans (updateTunnel_stored hstored _)
    rw [hexec]
    exact ⟨_, rfl, rfl, rfl⟩
  exact succeeds_attempt hcall

theorem handleDeletion_succeeds (hok : ∀ c, ok c → c.failure = none)
    (hstored : w.tunnels.lookup t.key = some t) (hd : t.deletionTimestamp = true) :
    Succeeds ok (r.handleDeletion t) (fun _ w' => finalizerName ∈ t.finalizers →
      Retired r ok t w w') w := by
  unfold handleDeletion
  split_ifs with hf
  · refine (deleteGatewayResources_succeeds hok rfl).orReturn fun _ w₁ ⟨htunnels, hgone⟩ => ?_
    rw [← htunnels] at hstored
    refine (removeFinalizer_succeeds hok hstored).orReturn ?_
    rintro t' w₂ ⟨rfl, rfl⟩
    refine release_notify_ensures fun allocator active published hport =>
      ⟨(), rfl, fun _ => ⟨?_, hport, ?_⟩⟩
    · exact ⟨(hgone.store _).pod, (hgone.store _).policy⟩
    · exact fun hall => storeTunnel_lookup_gone rfl hd (removeFinalizer_finalizers hall)
  · refine Program.Ensures.seq (Q := fun _ _ => True) ?_ fun _ w' _ =>
      ⟨(), rfl, fun h => absurd h hf⟩
    exact releaseForwarderPort_ensures fun _ _ _ => trivial

theorem dropFinalizer_succeeds (hok : ∀ c, ok c → c.failure = none)
    (hstored : w.tunnels.lookup t.key = some t) (hd : t.deletionTimestamp = false)
    (hgone : GatewayGone ok t.key w₀ w) :
    Succeeds ok (dropFinalizer t) (fun t' w' => t'.key = t.key ∧ t'.deletionTimestamp = false ∧
      ((∀ f ∈ t.finalizers, f = finalizerName) → t'.finalizers = []) ∧
      w'.tunnels.lookup t.key = some t' ∧ GatewayGone ok t.key w₀ w') w := by
  unfold dropFinalizer
  split_ifs with hf
  · refine (removeFinalizer_succeeds hok hstored).mono ?_
    rintro t' w' ⟨rfl, rfl⟩
    exact ⟨rfl, hd, removeFinalizer_finalizers, storeTunnel_lookup_live rfl hd, hgone.store _⟩
  · refine succeeds_pure ⟨rfl, hd, fun hall => ?_, hstored, hgone⟩
    exact List.eq_nil_iff_forall_not_mem.mpr fun f hmem => hf (hall f hmem ▸ hmem)

theorem handleTerminated_succeeds (hok : ∀ c, ok c → c.failure = none)
    (hstored : w.tunnels.lookup t.key = some t) (hd : t.deletionTimestamp = false) :
    Succeeds ok (r.handleTerminated t) (fun _ w' => Retired r ok t w w') w := by
  refine (deleteGatewayResources_succeeds hok rfl).orReturn fun _ w₁ ⟨htunnels, hgone⟩ => ?_
  rw [← htunnels] at hstored
  refine (dropFinalizer_succeeds hok hstored hd hgone).orReturn ?_
  rintro t' w₂ ⟨hkey, hd', hfinalizers, hstored', hgone'⟩
  refine release_notify_ensures fun allocator active published hport c hc => ?_
  rw [hkey] at hport
  obtain ⟨w₃, hw₃⟩ : ∃ w₃, w₃ = { w₂ with
    allocator := allocator, portAllocationsActive := active, published := published } := ⟨_, rfl⟩
  have hcur : w₃.tunnels.lookup t'.key = some t' := by rw [hw₃, hkey]; exact hstored'
  have hexec : World.exec (.deleteTunnel t'.key) c w₃ =
      (.ok (), w₃.storeTunnel { t' with deletionTimestamp := true }) := by
    rw [World.exec, writeResult_faultless (hok c hc), World.deleteTunnel, World.writeTunnel, hcur]
    rfl
  rw [← hw₃, hexec]
  refine ⟨(), rfl, ?_, ?_, ?_⟩
  · have hgone₃ : GatewayGone ok t.key w w₃ := by
      rw [hw₃]
      exact ⟨hgone'.pod, hgone'.policy⟩
    exact hgone₃.store _
  · rw [(World.storeTunnel_sameProcess _ _).allocator, hw₃]
    exact hport
  · exact fun hall => storeTunnel_lookup_gone hkey rfl (hfinalizers hall)

end Retirement

section Outcome

variable {ok : Choice → Prop} {req : NamespacedName} {w : World} {t : Tunnel} {r : TunnelReconciler}

/-- The Tunnel asks for a target or for a port that it cannot have. -/
def Unserviceable (r : TunnelReconciler) (w : World) (t : Tunnel) : Prop :=
  t.Live ∧ (validateTunnelTarget t.spec.target ≠ .ok () ∨ ¬ PortAvailable r w.allocator t)

theorem Succeeds.done {p : Prog (Except String Unit)} {post : World → Prop}
    (hp : Succeeds ok p (fun _ w' => post w') w) : Succeeds ok (done p) (fun _ w' => post w') w :=
  hp.orReturn fun _ _ h => succeeds_pure h

theorem reconcile_found (hok : ∀ c, ok c → c.failure = none) (ht : w.tunnels.lookup req = some t)
    {post : Except String Result → World → Prop}
    (h : (if t.deletionTimestamp then done (r.handleDeletion t)
      else if t.status.phase = .terminated then done (r.handleTerminated t)
      else
        match validateTunnelTarget t.spec.target with
        | .error e => pure (.error ("validating tunnel target: " ++ e))
        | .ok () =>
            orReturn (ensureFinalizer t) r.reconcileGateway : Prog (Except String Result)).Ensures
          World.exec ok post w) :
    (r.reconcile req).Ensures World.exec ok post w := by
  intro c hc
  change Program.Ensures _ _ _ (Program.bind (.pure (World.getResult c (w.tunnels.lookup req))) _) w
  rw [ht, getResult_some (hok c hc)]
  exact h

theorem reconcile_missing (hok : ∀ c, ok c → c.failure = none) (ht : w.tunnels.lookup req = none) :
    Succeeds ok (r.reconcile req) (fun _ w' => w' = w) w := by
  intro c hc
  change Program.Ensures _ _ _ (Program.bind (.pure (World.getResult c (w.tunnels.lookup req))) _) w
  rw [ht, getResult_none (hok c hc)]
  exact ⟨_, rfl, rfl⟩

end Outcome
end TunnelOperator
