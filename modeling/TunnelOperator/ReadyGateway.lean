import TunnelOperator.OperatorRun

/-!
# Ready vouches for the current gateway

A committed phase Ready should come with the address of the recorded gateway Pod and with
a key that was fetched from that very Pod. The reconciler decides the phase after it has
recorded the Pod, and leaves a phase Ready untouched when it cannot fetch a key.
-/

namespace TunnelOperator
open Interaction TunnelReconciler Scenario

/-- The status is Ready with an address and a key fetched from the recorded Pod, or not Ready. -/
def Vouched (fetched : List (String × String)) (s : TunnelStatus) : Prop :=
  s.phase = .ready → s.gatewayPodIP ≠ "" ∧ s.gatewayPublicKey ≠ "" ∧
    (s.gatewayPodUID, s.gatewayPublicKey) ∈ fetched

/-- The Tunnel and the gateway Pod that a reconciliation has read or created. -/
structure ReadPod (tr : Trace) (t₀ : Tunnel) (pod : Pod) : Prop where
  tunnel : Answered tr (.getTunnel t₀.key) (.ok t₀)
  pod : Answered tr (.getPod (gatewayResourceKey t₀.key)) (.ok pod) ∨
    (Answered tr (.getPod (gatewayResourceKey t₀.key)) (.error .notFound) ∧
      ∃ spec, Answered tr (.createPod spec) (.ok pod))

/-- No reconciliation patches the status of a Tunnel that it read as Ready and whose ready
Pod it cannot confirm although that Pod has no address or is not the recorded one. -/
def ConfirmsReplacement (tr : Trace) : Prop :=
  ∀ t₀ pod x base a, ReadPod tr t₀ pod → Answered tr (.patchStatus x base) a →
    t₀.status.phase = .ready → pod.status.phase ≠ .failed → pod.status.phase ≠ .succeeded →
    isPodReady pod = true → Unconfirmed tr pod →
    pod.status.podIP ≠ "" ∧ t₀.status.gatewayPodUID = pod.uid

def confirmed : Machine.Conditions Op.Ans World World.Outside (Option (List Tunnel)) where
  call := fun tr _ => ConfirmsReplacement tr

def gatewayDiscipline : Discipline Op.Ans World Choice where
  exec := World.exec
  allowed := fun tr _ => ConfirmsReplacement tr
  inv := fun w => w.WF ∧ ∀ {k t}, w.tunnels.lookup k = some t → Vouched w.fetched t.status
  rely := fun w w' => w.Evolves w' ∧ w.fetched ⊆ w'.fetched
  goal := fun _ _ _ => True
  rely_refl := fun w => ⟨World.Evolves.refl w, fun _ h => h⟩
  rely_trans := fun h h' => ⟨h.1.trans h'.1, fun _ hx => h'.2 (h.2 hx)⟩

theorem Vouched.mono {f f' : List (String × String)} (h : f ⊆ f') {s : TunnelStatus}
    (hs : Vouched f s) : Vouched f' s :=
  fun hr => ⟨(hs hr).1, (hs hr).2.1, h (hs hr).2.2⟩

theorem vouched_empty (f : List (String × String)) : Vouched f {} := fun h => by cases h

theorem TunnelReconciler.Computed.vouched {r : TunnelReconciler} {req : NamespacedName} {tr : Trace}
    {t₀ base m : Tunnel} {pod : Pod} {allocated changed : Bool} {e : Evaluation}
    {fetched : List (String × String)} (hc : Computed r req tr t₀ base pod allocated changed m e)
    (hbase : Vouched fetched base.status)
    (hfetched : ∀ {pod key}, Answered tr (.fetchGatewayStatus pod) (.ok key) →
      (pod.uid, key) ∈ fetched)
    (hcond : base.status.phase = .ready → pod.status.phase ≠ .failed →
      pod.status.phase ≠ .succeeded →
      isPodReady pod = true → Unconfirmed tr pod →
      pod.status.podIP ≠ "" ∧ base.status.gatewayPodUID = pod.uid) :
    Vouched fetched e.tunnel.status := by
  intro hready
  have hsame := hc.evaluated.sameMapping
  have hip : e.tunnel.status.gatewayPodIP = pod.status.podIP :=
    hsame.gatewayPodIP.trans hc.toMapped.gatewayPodIP
  have huid : e.tunnel.status.gatewayPodUID = pod.uid :=
    hsame.gatewayPodUID.trans hc.toMapped.gatewayPodUID
  obtain ⟨hnf, hns, hpr, ⟨hphase, hu, hkey⟩ | ⟨hne, hkey, hans, -⟩⟩ := hc.evaluated.ready hready
  · have hb : base.status.phase = .ready := hc.toMapped.phase.symm.trans hphase
    obtain ⟨hpip, hpuid⟩ := hcond hb hnf hns hpr hu
    obtain ⟨-, hbkey, hbmem⟩ := hbase hb
    have hk : e.tunnel.status.gatewayPublicKey = base.status.gatewayPublicKey := by
      rw [hkey, hc.toMapped.gatewayPublicKey, if_pos hpuid]
    rw [hip, huid, hk, ← hpuid]
    exact ⟨hpip, hbkey, hbmem⟩
  · rw [hip, huid]
    exact ⟨hne, hkey, hfetched hans⟩

theorem TunnelReconciler.Computed.readPod {r : TunnelReconciler} {req : NamespacedName} {tr : Trace}
    {t₀ base m : Tunnel} {pod : Pod} {allocated changed : Bool} {e : Evaluation} {w : World}
    (hc : Computed r req tr t₀ base pod allocated changed m e) (hr : Reads req tr w)
    (call : Call Op.Ans) :
    ReadPod (tr ++ [call]) t₀ pod := by
  have hkey : base.key = t₀.key := by rw [hr.active_eq hc.active]
  refine ⟨?_, ?_⟩
  · rw [hr.key hc.active.read]
    exact hc.active.read.mono (subset_append_call _ _)
  · rw [← hkey]
    exact (hc.hasPod.mono (subset_append_call _ _)).imp id fun h => ⟨h.1, _, h.2⟩

def FetchesRecorded (tr : Trace) (w : World) : Prop :=
  ∀ {pod key}, Answered tr (.fetchGatewayStatus pod) (.ok key) → (pod.uid, key) ∈ w.fetched

theorem FetchesRecorded.step {tr : Trace} {w w' : World} (h : FetchesRecorded tr w) {op : Op}
    {c : Choice} {ans : op.Ans} (he : World.exec op c w = (ans, w')) :
    FetchesRecorded (tr ++ [⟨op, ans⟩]) w' := by
  intro pod key ha
  have hsub := World.exec_fetched_subset op c w
  rw [he] at hsub
  rcases answered_append ha with ha | ⟨rfl, rfl⟩
  · exact hsub (h ha)
  · obtain ⟨hc, rfl⟩ := Prod.mk.inj he
    simp [World.recordFetch, hc]

theorem vouched_step {r : TunnelReconciler} {req : NamespacedName} {tr : Trace} {op : Op}
    {c : Choice} {w w' : World} {ans : op.Ans} (hn : Next r req tr op) (hp : PatchesOnce r tr op)
    (hr : Reads req tr w) (hf : FetchesRecorded tr w) (hi : gatewayDiscipline.inv w)
    (he : World.exec op c w = (ans, w')) (ha : ConfirmsReplacement (tr ++ [⟨op, ans⟩])) :
    gatewayDiscipline.inv w' := by
  have hwf : w'.WF := by simpa [he] using World.exec_wf hi.1 op c
  have hsub : w.fetched ⊆ w'.fetched := by simpa [he] using World.exec_fetched_subset op c w
  have hkeep : ∀ {k t}, w.tunnels.lookup k = some t → Vouched w'.fetched t.status :=
    fun ht => (hi.2 ht).mono hsub
  refine ⟨hwf, fun {k t} ht => ?_⟩
  cases hpatch : op.isPatch with
  | false =>
      have hfol : w.Follows w' := by simpa [he] using World.exec_follows hi.1 hpatch c
      exact hfol.forall_status (vouched_empty _) hkeep ht
  | true =>
      cases op with
      | patchStatus x base =>
          have hu : Unpatched tr := hp.unpatched (by simp)
          obtain ⟨t₀, pod, allocated, changed, m, e, hc, -, rfl⟩ := hn
          rcases exec_patchStatus (hr.active_held hu hc.active) hc.key_eq he with
            ⟨rfl, -⟩ | ⟨cur, hl, hlat, -, rfl, -⟩
          · exact hi.2 ht
          · refine World.storeTunnel_forall_status hkeep ?_ ht
            have hstatus : base.status = t₀.status := by rw [hr.active_eq hc.active]
            have hreadpod := hc.readPod hr ⟨.patchStatus e.tunnel base, ans⟩
            refine hc.vouched (hlat.status ▸ hkeep hl) (fun h => hsub (hf h)) ?_
            rw [hstatus]
            exact fun h₁ h₂ h₃ h₄ h₅ => ha t₀ pod _ _ ans hreadpod (answered_last _ _ _) h₁ h₂ h₃ h₄
              (h₅.mono (subset_append_call _ _))
      | _ => cases hpatch

/-- In every run whose reconciliations confirm replaced gateways before they patch, a stored
phase Ready has an address and a key that was fetched from the recorded Pod. -/
theorem ready_vouches_for_gateway (r : TunnelReconciler) (minPort maxPort : Int)
    {g : Config Op.Ans (Except String Result) NamespacedName World}
    (hg : (operator r minPort maxPort).Reaches confirmed
      (World.initial (PortAllocator.new minPort maxPort)) g)
    {k : NamespacedName} {t : Tunnel} (ht : g.state.tunnels.lookup k = some t)
    (hready : t.status.phase = .ready) :
    t.status.gatewayPodIP ≠ "" ∧ t.status.gatewayPublicKey ≠ "" ∧
      (t.status.gatewayPodUID, t.status.gatewayPublicKey) ∈ g.state.fetched := by
  have hsafe := Machine.reaches_safe (M := operator r minPort maxPort) (D := gatewayDiscipline)
    (C := confirmed) rfl (fun _ _ h => h) ?_ ?_ ?_ ⟨World.initial_wf _, by simp [World.initial]⟩ hg
  · exact hsafe.1.2 ht hready
  · intro e w w' _ hi he
    obtain ⟨hwf, hev⟩ := World.outside_evolves hi.1 he
    have hf := (World.outside_sameProcess he).fetched
    refine ⟨⟨hwf, fun ht => ?_⟩, hev, fun _ hx => hf.symm ▸ hx⟩
    rw [hf]
    exact hev.toFollows.forall_status (vouched_empty _) hi.2 ht
  · intro listed w w' _ hi he
    obtain ⟨hs, -, hf⟩ := World.restart_sameTunnels he
    refine ⟨hs.wf hi.1, fun ht => ?_⟩
    rw [hf]
    exact hi.2 (hs.tunnels ▸ ht)
  · intro req w hi
    refine ⟨hi, (reconcile_safe (D := gatewayDiscipline) (w := id) (A := FetchesRecorded) r req
      (fun he => ⟨_, he⟩) (fun hi => hi.1) (fun hr => hr.1) (fun h hr _ _ _ ha => hr.2 (h ha)) ?_
      (fun ha => by cases ha)).mono fun _ _ _ _ => trivial⟩
    intro tr op c s ans s' hn hp hr hf hi he ha
    exact ⟨vouched_step hn hp hr hf hi he ha, trivial, hf.step he⟩

def soloReconciler : TunnelReconciler := ⟨false, false, ⟨"", ""⟩, "", "", ""⟩

/-- A Tunnel whose gateway Pod comes up and answers with its key. -/
def becomeReady : List (Event NamespacedName Choice World.Outside (Option (List Tunnel))) :=
  [.env (.createTunnel key [] spec), .start key] ++ calls 3 ++ [.call { podUID := "first" }] ++
    calls 4 ++ [.env (.setPodStatus (gatewayResourceKey key) (running "10.1.0.1")), .start key] ++
    calls 3 ++ [.call { gatewayStatus := .ok "key" }] ++ calls 2

/-- The Pod is replaced while a status patch fails, and the new Pod is ready before it answers. -/
def replaceGateway : List (Event NamespacedName Choice World.Outside (Option (List Tunnel))) :=
  [.env (.removePod (gatewayResourceKey key)), .start key] ++ calls 2 ++
    [.call { podUID := "second" }] ++ calls 1 ++ [.call { failure := some "timeout" }] ++ calls 1 ++
    [.env (.setPodStatus (gatewayResourceKey key) (running "10.1.0.2")), .start key] ++ calls 5

def readsNotReady (tr : Trace) : Bool :=
  tr.all fun
    | ⟨.getTunnel _, .ok t⟩ => t.status.phase ≠ .ready
    | _ => true

theorem readsNotReady_confirms {tr : Trace} (h : readsNotReady tr = true) :
    ConfirmsReplacement tr := by
  intro t₀ pod x base a hr _ hphase
  have := List.all_eq_true.mp h _ hr.tunnel
  simp [hphase] at this

theorem ready_vouches_becomeReady : ∃ g t,
    (operator soloReconciler 1 2).Reaches confirmed (World.initial (PortAllocator.new 1 2)) g ∧
      g.state.tunnels.lookup key = some t ∧ t.status.phase = .ready ∧
      t.status.gatewayPodIP ≠ "" ∧ t.status.gatewayPublicKey ≠ "" ∧
      (t.status.gatewayPodUID, t.status.gatewayPublicKey) ∈ g.state.fetched := by
  obtain ⟨g, hg, hP⟩ := Machine.exists_reaches (M := operator soloReconciler 1 2) (C := confirmed)
    (K := { call := fun tr _ => readsNotReady tr }) (s := World.initial (PortAllocator.new 1 2))
    (fun _ _ _ => trivial) (fun _ _ _ => trivial) (fun _ _ h => readsNotReady_confirms h)
    (l := becomeReady) (P := fun g => (g.state.tunnels.lookup key).any fun t =>
      t.status.phase = .ready)
    (by rfl)
  cases ht : g.state.tunnels.lookup key with
  | none => simp [ht] at hP
  | some t =>
      have hready : t.status.phase = .ready := by simpa [ht] using hP
      exact ⟨g, t, hg, ht, hready, ready_vouches_for_gateway soloReconciler 1 2 hg ht hready⟩

/-- Without the condition a run commits Ready for a Pod that never answered. -/
theorem ready_for_silent_gateway : ∃ g t,
    (operator soloReconciler 1 2).Reaches {} (World.initial (PortAllocator.new 1 2)) g ∧
      g.state.tunnels.lookup key = some t ∧ t.status.phase = .ready ∧
      t.status.gatewayPodUID = "second" ∧ t.status.gatewayPublicKey = "" := by
  obtain ⟨g, hg, hP⟩ := Machine.exists_free_reaches (M := operator soloReconciler 1 2)
    (s := World.initial (PortAllocator.new 1 2))
    (l := becomeReady ++ replaceGateway)
    (P := fun g => (g.state.tunnels.lookup key).any fun t => t.status.phase = .ready &&
      t.status.gatewayPodUID = "second" && t.status.gatewayPublicKey = "")
    (by rfl)
  cases ht : g.state.tunnels.lookup key with
  | none => simp [ht] at hP
  | some t =>
      simp only [ht, Option.any_some, Bool.and_eq_true, decide_eq_true_eq] at hP
      exact ⟨g, t, hg, ht, hP.1.1, hP.1.2, hP.2⟩

end TunnelOperator
