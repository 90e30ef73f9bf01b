import TunnelOperator.OperatorRun
import TunnelOperator.Snapshot

/-!
# Stream and snapshot

One `Reconcile` of a Tunnel that nobody else touches, and a `GetConfig` on the store it
leaves. Every ADDED or MODIFIED update it publishes is about the stored Tunnel; whether
`GetConfig` serves that Tunnel as well is decided by the phase, which `Reconcile` does not
look at before it publishes.
-/

namespace TunnelOperator
open Interaction TunnelReconciler Scenario

/-- The meaning of the operations while the gateway answers status fetches with `answer`. -/
def attended (answer : Except String String) (op : Op) (c : Choice) (w : World) : op.Ans × World :=
  World.exec op { c with gatewayStatus := answer } w

def reconcileOnce (r : TunnelReconciler) (req : NamespacedName) (answer : Except String String)
    (c : ℕ → Choice) (w : World) : Except String Result × Trace × World :=
  (r.reconcile req).run (attended answer) c [] w

/-- Two mappings that route to the same gateway under the same revision. -/
structure TunnelMapping.SameEntry (n m : TunnelMapping) : Prop where
  forwarderPort : n.forwarderPort = m.forwarderPort
  gatewayAddress : n.gatewayAddress = m.gatewayAddress
  revision : n.revision = m.revision
  gatewayPodUid : n.gatewayPodUid = m.gatewayPodUid
  gatewayPodIp : n.gatewayPodIp = m.gatewayPodIp

/-- The gateway Pod has not finished, and a Failed Tunnel whose Pod is ready gets a key. -/
def SteadyGateway (tunnel : Option Tunnel) (pod : Option Pod) (answer : Except String String) :
    Prop :=
  ∀ t p, tunnel = some t → pod = some p → p.status.phase ≠ .failed ∧ p.status.phase ≠ .succeeded ∧
    (t.status.phase = .failed → isPodReady p = true → ∃ key, answer = .ok key ∧ key ≠ "")

/-- What an undisturbed reconciliation has learnt from the store `w₀` it started on, and what
it has left in the store `w`. -/
structure Undisturbed (r : TunnelReconciler) (req : NamespacedName) (answer : Except String String)
    (w₀ : World) (tr : Trace) (w : World) : Prop where
  start : tr = [] → w = w₀
  tunnel : ∀ t, Answered tr (.getTunnel req) (.ok t) → w₀.tunnels.lookup req = some t
  pods : ∀ pod, w.pods.lookup (gatewayResourceKey req) = some pod →
    w₀.pods.lookup (gatewayResourceKey req) = some pod ∨ pod.status.podIP = ""
  read : ∀ pod, Answered tr (.getPod (gatewayResourceKey req)) (.ok pod) →
    w₀.pods.lookup (gatewayResourceKey req) = some pod ∨ pod.status.podIP = ""
  created : ∀ spec pod, Answered tr (.createPod spec) (.ok pod) → pod.status.podIP = ""
  fetched : ∀ pod a, Answered tr (.fetchGatewayStatus pod) a → a = answer
  kept : ∀ t₀, Answered tr (.getTunnel req) (.ok t₀) → t₀.deletionTimestamp = false →
    t₀.status.phase ≠ .terminated → ∀ t, w.tunnels.lookup req = some t → t.deletionTimestamp = false
  patched : ∀ x base t, Answered tr (.patchStatus x base) (.ok t) → ∃ t₀ pod allocated changed m e,
    Computed r req tr t₀ base pod allocated changed m e ∧ x = e.tunnel
  published : ∀ u m, Answered tr (.notifyUpdate u) () → u.Upserts m →
    ∃ t, w.tunnels.lookup req = some t ∧ m = notifiedMapping t ∧ (ServerConfig.serves t = true ↔
      SteadyGateway (w₀.tunnels.lookup req) (w₀.pods.lookup (gatewayResourceKey req)) answer)

section Phase

variable {r : TunnelReconciler} {req : NamespacedName} {tr : Trace}

/-- The phase computed for a Pod with an address, seen from the filter of `GetConfig`. -/
theorem TunnelReconciler.Evaluated.steady_iff {answer : Except String String} {m : Tunnel}
    {pod : Pod} {e : Evaluation} (h : Evaluated r tr m pod e) (hip : pod.status.podIP ≠ "")
    (hm : m.status.phase ≠ .terminated)
    (hf : ∀ a, Answered tr (.fetchGatewayStatus pod) a → a = answer) :
    (e.tunnel.status.phase ≠ .terminated ∧ e.tunnel.status.phase ≠ .failed) ↔
      pod.status.phase ≠ .failed ∧ pod.status.phase ≠ .succeeded ∧
        (m.status.phase = .failed → isPodReady pod = true → ∃ key, answer = .ok key ∧
          key ≠ "") := by
  cases h with
  | failed hp => simp [hp]
  | succeeded hp => simp [hp]
  | starting hnf hns hr => simp [hnf, hns, hr]
  | unconfirmed n e hnf hns hr hu hend =>
      have hno : ¬ ∃ key, answer = .ok key ∧ key ≠ "" := by
        rintro ⟨key, rfl, hkey⟩
        rcases hu with hu | ⟨err, hu⟩ | hu
        · exact hip hu
        · cases hf _ hu
        · cases hf _ hu
          exact hkey rfl
      rw [hend.phase]
      constructor
      · rintro ⟨-, hne⟩
        exact ⟨hnf, hns, fun hfail => absurd hfail hne⟩
      · rintro ⟨-, -, himp⟩
        exact ⟨hm, fun hfail => hno (himp hfail hr)⟩
  | waiting key missing hnf hns hr _ hkey hans =>
      simp [hnf, hns, ← hf _ hans, hkey]
  | confirmed key e hnf hns hr _ hkey hans _ hend =>
      rw [hend.phase]
      simp [hnf, hns, ← hf _ hans, hkey]

end Phase

section Steps

variable {r : TunnelReconciler} {req : NamespacedName} {answer : Except String String} {w₀ : World}
  {tr : Trace} {w w' : World}

theorem Undisturbed.nil (r : TunnelReconciler) (req : NamespacedName)
    (answer : Except String String) (w₀ : World) : Undisturbed r req answer w₀ [] w₀ where
  start := fun _ => rfl
  tunnel := fun _ h => by cases h
  pods := fun _ h => Or.inl h
  read := fun _ h => by cases h
  created := fun _ _ h => by cases h
  fetched := fun _ _ h => by cases h
  kept := fun _ h => by cases h
  patched := fun _ _ _ h => by cases h
  published := fun _ _ h => by cases h

variable (hr : Reads req tr w) (h : Undisturbed r req answer w₀ tr w)

include h

theorem Undisturbed.pods_step {op : Op} {c : Choice} (hn : Next r req tr op) :
    ∀ pod, (World.exec op c w).2.pods.lookup (gatewayResourceKey req) = some pod →
      w₀.pods.lookup (gatewayResourceKey req) = some pod ∨ pod.status.podIP = "" := by
  intro pod hpod
  rcases World.exec_pod_found hpod with hold | ⟨spec, rfl, -, rfl⟩
  · exact h.pods pod hold
  · obtain ⟨t₀, base, -, rfl, -⟩ := hn
    exact Or.inr rfl

theorem Undisturbed.hasPod {base : Tunnel} {pod : Pod} (hbase : base.key = req)
    (hp : HasPod r tr base pod) (hip : pod.status.podIP ≠ "") :
    w₀.pods.lookup (gatewayResourceKey req) = some pod := by
  rw [HasPod, hbase] at hp
  rcases hp with hp | ⟨-, hp⟩
  · exact (h.read pod hp).resolve_right hip
  · exact absurd (h.created _ _ hp) hip

include hr

theorem Undisturbed.kept_step (hw : w.WF) {op : Op} {c : Choice} {ans : op.Ans}
    (hn : Next r req tr op) (hp : PatchesOnce r tr op) (he : World.exec op c w = (ans, w')) :
    ∀ t₀, Answered tr (.getTunnel req) (.ok t₀) → t₀.deletionTimestamp = false →
      t₀.status.phase ≠ .terminated → ∀ t, w'.tunnels.lookup req = some t →
      t.deletionTimestamp = false := by
  intro t₀ ht₀ hd hph t ht
  have hold := h.kept t₀ ht₀ hd hph
  have hretired : ∀ {t₁}, Retiring req tr t₁ → False := by
    intro t₁ hret
    obtain rfl := hr.unique hret.read ht₀
    rcases hret.retired with hd' | hph'
    · rw [hd] at hd'; cases hd'
    · exact hph hph'
  cases hwrites : op.writesTunnel with
  | false =>
      have hs := World.exec_sameTunnels hwrites c w
      rw [he] at hs
      exact hold t (hs.tunnels ▸ ht)
  | true =>
      cases op with
      | updateTunnel x =>
          rcases hn with ⟨t₁, ht₁, hd₁, -, -, -, rfl⟩ | ⟨t₁, hret, -⟩
          · rcases exec_updateTunnel (hr.seen (hp.unpatched (by simp)) ht₁) he with ⟨rfl, -⟩ |
              ⟨-, rfl, -⟩
            · exact hold t ht
            · rcases World.storeTunnel_found ht with ⟨-, rfl⟩ | ⟨-, ht⟩
              · exact hd₁
              · exact hold t ht
          · exact (hretired hret).elim
      | patchStatus x base =>
          obtain ⟨t₁, pod, allocated, changed, m, e, hc, -, rfl⟩ := hn
          rcases exec_patchStatus (hr.active_held (hp.unpatched (by simp)) hc.active) hc.key_eq
            he with
            ⟨rfl, -⟩ | ⟨cur, hl, hlat, -, rfl, -⟩
          · exact hold t ht
          · rcases World.storeTunnel_found ht with ⟨hk, rfl⟩ | ⟨-, ht⟩
            · exact hold cur (by rw [hk, hw.key hl]; exact hl)
            · exact hold t ht
      | deleteTunnel k =>
          obtain ⟨t₁, t₂, hdr, -⟩ := hn
          exact (hretired hdr.retiring).elim
      | _ => cases hwrites

/-- An ADDED or MODIFIED update is about the stored Tunnel, and the filter of `GetConfig`
depends on what the reconciliation found. -/
theorem Undisturbed.notified {u : TunnelUpdate} {m : TunnelMapping}
    (hn : Next r req tr (.notifyUpdate u)) (hp : PatchesOnce r tr (.notifyUpdate u))
    (hm : u.Upserts m) :
    ∃ t, w.tunnels.lookup req = some t ∧ m = notifiedMapping t ∧ (ServerConfig.serves t = true ↔
      SteadyGateway (w₀.tunnels.lookup req) (w₀.pods.lookup (gatewayResourceKey req)) answer) := by
  have hne := hm.ne_deleted
  -- the published object and the status computed for it
  obtain ⟨t₀, base, pod, allocated, changed, m', e, t, hc, hheld, hstatus, hkey, hnot⟩ :
      ∃ t₀ base pod allocated changed m' e t, Computed r req tr t₀ base pod allocated changed m' e ∧
        Held t w ∧ t.status = e.tunnel.status ∧ t.key = base.key ∧ Notifies r t u := by
    rcases hp with hun | ⟨x, base, t, u', hans, he, hnot⟩
    · rcases hn with ⟨_, _, -, -, -, hd, -⟩ |
        ⟨t₀, base, pod, allocated, changed, m', e, t, hc, hpers, hnot, -⟩
      · exact absurd hd hne
      · rcases hpers with ⟨-, hans⟩ | ⟨hno, rfl⟩
        · have := hun.unpatched _ hans
          cases this
        · obtain ⟨hch, hup⟩ := Bool.or_eq_false_iff.mp hno
          have heq : e.tunnel = base :=
            (hc.evaluated.eq_of_not_updated hup).trans (hc.toMapped.eq_of_unchanged hch)
          exact ⟨t₀, base, pod, allocated, changed, m', e, e.tunnel, hc,
            heq ▸ hr.active_held hun.unpatched hc.active, rfl, hc.key_eq, hnot⟩
    · cases he
      obtain ⟨t₀, pod, allocated, changed, m', e, hc, rfl⟩ := h.patched x base t hans
      obtain ⟨hheld, hstatus, hkey, -⟩ := hr.patched hans
      exact ⟨t₀, base, pod, allocated, changed, m', e, t, hc, hheld, hstatus, hkey, hnot⟩
  have hbase := hr.active_eq hc.active
  have hbk : base.key = req := by rw [← hr.key hc.active.read, hbase]
  obtain ⟨t', ht', hlat, -⟩ := hheld
  rw [hkey, hbk] at ht'
  obtain ⟨hip, hpk⟩ := hnot.served hne
  have hpodIP : t.status.gatewayPodIP = pod.status.podIP := by
    rw [hstatus, hc.evaluated.sameMapping.gatewayPodIP, hc.toMapped.gatewayPodIP]
  have hphase : m'.status.phase = t₀.status.phase := by
    rw [hc.toMapped.phase, hbase]
  have hdel : t'.deletionTimestamp = false :=
    h.kept t₀ hc.active.read hc.active.notDeleting hc.active.notTerminated t' ht'
  have hsteady := hc.evaluated.steady_iff (hpodIP ▸ hip) (hphase ▸ hc.active.notTerminated)
    (fun a => h.fetched pod a)
  refine ⟨t', ht', ?_, ?_⟩
  · rw [Option.some.inj (hm.2.symm.trans hnot.mapping)]
    simp only [notifiedMapping, hlat.key, hlat.status, hlat.uid]
  · rw [ServerConfig.serves_iff, hlat.status, h.tunnel t₀ hc.active.read,
      h.hasPod hbk hc.hasPod (hpodIP ▸ hip)]
    rw [hstatus] at hip hpk ⊢
    constructor
    · rintro ⟨-, hnt, hnf, -⟩ t p ⟨⟩ ⟨⟩
      rw [← hphase]
      exact hsteady.mp ⟨hnt, hnf⟩
    · intro hst
      have hcond := hst t₀ pod rfl rfl
      rw [← hphase] at hcond
      obtain ⟨hnt, hnf⟩ := hsteady.mpr hcond
      exact ⟨hdel, hnt, hnf, hstatus ▸ hnot.port, hip, hpk⟩

theorem Undisturbed.step (hw : w.WF) {op : Op} {c : Choice} {ans : op.Ans} (hn : Next r req tr op)
    (hp : PatchesOnce r tr op) (he : attended answer op c w = (ans, w')) :
    Undisturbed r req answer w₀ (tr ++ [⟨op, ans⟩]) w' where
  start := fun hnil => by simp at hnil
  tunnel := fun t ht => by
    rcases answered_append ht with ht | ⟨rfl, rfl⟩
    · exact h.tunnel t ht
    · obtain ⟨-, rfl⟩ := hn
      rw [← h.start rfl]
      exact World.getResult_ok (congrArg Prod.fst he)
  pods := by
    have hpods := h.pods_step (c := { c with gatewayStatus := answer }) hn
    rwa [show (World.exec op { c with gatewayStatus := answer } w).2 =
      w' from congrArg Prod.snd he] at hpods
  read := fun pod hpod => by
    rcases answered_append hpod with hpod | ⟨rfl, rfl⟩
    · exact h.read pod hpod
    · exact h.pods pod (World.getResult_ok (congrArg Prod.fst he))
  created := fun spec pod hpod => by
    rcases answered_append hpod with hpod | ⟨rfl, rfl⟩
    · exact h.created spec pod hpod
    · obtain ⟨t₀, base, -, rfl, -⟩ := hn
      rw [(World.exec_createPod_ok he).1]
      rfl
  fetched := fun pod a ha => by
    rcases answered_append ha with ha | ⟨rfl, rfl⟩
    · exact h.fetched pod a ha
    · exact (congrArg Prod.fst he).symm
  kept := fun t₀ ht₀ hd hph => by
    rcases answered_append ht₀ with ht₀ | ⟨rfl, rfl⟩
    · exact h.kept_step hr hw hn hp he t₀ ht₀ hd hph
    · obtain ⟨hget, rfl⟩ := Prod.mk.inj he
      intro t ht
      have hl : w.tunnels.lookup req = some t₀ :=
        World.getResult_ok hget
      obtain rfl : t₀ = t := Option.some.inj (hl.symm.trans ht)
      exact hd
  patched := fun x base t ht => by
    rcases answered_append ht with ht | ⟨rfl, -⟩
    · obtain ⟨t₀, pod, allocated, changed, m, e, hc, hx⟩ := h.patched x base t ht
      exact ⟨t₀, pod, allocated, changed, m, e, hc.mono (subset_append_call _ _), hx⟩
    · obtain ⟨t₀, pod, allocated, changed, m, e, hc, -, hx⟩ := hn
      exact ⟨t₀, pod, allocated, changed, m, e, hc.mono (subset_append_call _ _), hx⟩
  published := fun u m hu hm => by
    have hne := hm.ne_deleted
    -- only notifications follow an ADDED or MODIFIED update
    cases op with
    | notifyUpdate v =>
        obtain ⟨-, rfl⟩ := Prod.mk.inj he
        rcases answered_append hu with hu | ⟨⟨⟩, -⟩
        · exact h.published u m hu hm
        · exact h.notified hr hn hp hm
    | _ =>
        have hold := Reads.old (by simp) hu
        have := hp.unconcluded (by simp) _ hold
        simp [Prepares, Op.concludes, hne] at this

end Steps

/-- Which ADDED and MODIFIED updates of a `Reconcile` agree with the `GetConfig` that follows:
exactly those for which the gateway Pod has not finished and a Failed Tunnel with a ready Pod
gets its key. -/
theorem stream_agrees_with_snapshot_iff (r : TunnelReconciler) (s : ServerConfig)
    (req : NamespacedName) {w : World} (hw : w.WF) (answer : Except String String) (c : ℕ → Choice)
    {u : TunnelUpdate} {m : TunnelMapping}
    (hu : Answered (reconcileOnce r req answer c w).2.1 (.notifyUpdate u) ()) (hm : u.Upserts m)
    {sc : ℕ → ServerChoice} (hsc : (sc 0).failure = none) :
    (∃ config n, s.snapshot sc (reconcileOnce r req answer c w).2.2 = .ok config ∧
      config.mappingsFor req = [n] ∧ n.SameEntry m) ↔
      SteadyGateway (w.tunnels.lookup req) (w.pods.lookup (gatewayResourceKey req)) answer := by
  obtain ⟨⟨-, -, hA⟩, hwf⟩ := reconcile_run (A := Undisturbed r req answer w) r req
    (fun he => ⟨_, he⟩) (fun hn hp hr h hi he => h.step hr hi hn hp he) hw
    (Undisturbed.nil r req answer w) c
  obtain ⟨t, ht, rfl, hserves⟩ := hA.published u m hu hm
  obtain ⟨config, hconfig, hfor⟩ := s.snapshot_mappingsFor hsc hwf req
  change s.snapshot sc (reconcileOnce r req answer c w).2.2 = _ at hconfig
  rw [← hserves, hconfig]
  rw [ht] at hfor
  by_cases hs : ServerConfig.serves t = true
  · refine ⟨fun _ => hs, fun _ => ⟨config, ServerConfig.servedMapping t, rfl, ?_, rfl, rfl, rfl,
      rfl, rfl⟩⟩
    rw [hfor, Option.filter_some_pos hs]
    rfl
  · refine ⟨?_, fun h => absurd h hs⟩
    rintro ⟨config', n, heq, hn, -⟩
    cases heq
    rw [hfor, Option.filter_some_neg (Bool.eq_false_iff.mpr hs)] at hn
    cases hn

def announcedTunnel : Tunnel :=
  ⟨key, 0, 1, false, [finalizerName], spec,
    { phase := .provisioning, gatewayPublicKey := "key", forwarderPort := 1
      gatewayPodName := "tunnel-gateway-a", gatewayPodUID := "pod", gatewayPodIP := "10.1.0.1"
      mappingRevision := 1 }⟩

def announcingReconciler : TunnelReconciler := ⟨true, true, ⟨"", ""⟩, "", "", ""⟩

/-- A store with one Tunnel whose gateway has been confirmed before. -/
def announcedWorld (phase : PodPhase) : World :=
  { World.initial (PortAllocator.new 1 1) with
    tunnels := AList.insert key announcedTunnel ∅
    pods := AList.insert (gatewayResourceKey key)
      { gatewayPod announcingReconciler announcedTunnel with
      uid := "pod", status := ⟨phase, "10.1.0.1", []⟩ } ∅
    nextUid := 1
    version := 1 }

theorem announcedWorld_wf (phase : PodPhase) : (announcedWorld phase).WF := by
  have hlook : ∀ {k t}, (announcedWorld phase).tunnels.lookup k = some t →
      k = key ∧ t = announcedTunnel := by
    intro k t ht
    change ((∅ : Table NamespacedName Tunnel).insert key announcedTunnel).lookup k = some t at ht
    rw [Table.lookup_insert_eq] at ht
    split_ifs at ht with hk
    · exact ⟨hk, (Option.some.inj ht).symm⟩
    · cases ht
  refine ⟨fun ht => ?_, fun ht => ?_, fun ht => ?_, fun ht ht' _ => ?_⟩ <;> obtain ⟨rfl, rfl⟩ :=
    hlook ht
  · rfl
  · exact Nat.one_pos
  · exact Nat.le_refl 1
  · exact (hlook ht').1.symm

theorem stream_agrees_with_starting_gateway :
    ∃ config n, (ServerConfig.snapshot ⟨true, ⟨"", ""⟩⟩ (fun _ => {})
      (reconcileOnce announcingReconciler key
      (.error "connection refused") (fun _ => {}) (announcedWorld .running)).2.2) = .ok config ∧
      config.mappingsFor key = [n] ∧ n.SameEntry (notifiedMapping announcedTunnel) := by
  refine (stream_agrees_with_snapshot_iff announcingReconciler ⟨true, ⟨"", ""⟩⟩ key
    (announcedWorld_wf .running) (.error "connection refused") (fun _ => {})
    (u := ⟨.modified, some (notifiedMapping announcedTunnel)⟩)
    (List.mem_of_getElem? (i := 5) rfl) ⟨Or.inr rfl, rfl⟩ rfl).mpr ?_
  rintro t p ⟨⟩ ⟨⟩
  exact ⟨by decide, by decide, fun h => absurd h (by decide)⟩

/-- The gateway Pod has failed: `Reconcile` marks the Tunnel as Failed and publishes it again,
and `GetConfig` no longer has it. -/
theorem stream_publishes_failed_tunnel :
    ∃ config, Answered (reconcileOnce announcingReconciler key (.error "connection refused")
      (fun _ => {}) (announcedWorld .failed)).2.1
        (.notifyUpdate ⟨.modified, some (notifiedMapping announcedTunnel)⟩) () ∧
      ServerConfig.snapshot ⟨true, ⟨"", ""⟩⟩ (fun _ => {}) (reconcileOnce announcingReconciler key
        (.error "connection refused") (fun _ => {}) (announcedWorld .failed)).2.2 = .ok config ∧
      config.mappingsFor key = [] :=
  ⟨⟨none, []⟩, List.mem_of_getElem? (i := 5) rfl, rfl, rfl⟩

end TunnelOperator
